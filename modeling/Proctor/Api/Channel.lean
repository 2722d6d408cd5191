import Proctor.Api.Request
import Proctor.Json.Reader
import Proctor.Json.Record
import Proctor.Json.Writer

/-!
# A channel to the API server

Requests go out and replies come back. What a reply means is decided here: a status of 400 or more
is a refusal, in the server's own words if it uses the form agreed upon, and any other reply has to
hold a value. The replies of a channel are laid out beforehand; where none is left, the server sends
back what it was sent.
-/

namespace Proctor

/-- What comes back for a request. -/
inductive Reply where
  /-- Nothing; the connection broke. -/
  | dropped
  /-- A status and a text. -/
  | text (status : Nat) (text : String)
  /-- A status and the body of the request. -/
  | echo (status : Nat)

/-- A channel, with the replies to come and the requests that went out. -/
structure Channel where
  /-- The replies to come. -/
  replies : List Reply := []
  /-- The requests that went out, last first. -/
  sent : List Request := []

/-- The phrase that belongs to the status of a refusal. -/
def statusPhrase : Nat → String
  | 400 => "Bad Request"
  | 401 => "Unauthorized"
  | 402 => "Payment Required"
  | 403 => "Forbidden"
  | 404 => "Not Found"
  | 405 => "Method Not Allowed"
  | 406 => "Not Acceptable"
  | 407 => "Proxy Authentication Required"
  | 408 => "Request Timeout"
  | 409 => "Conflict"
  | 410 => "Gone"
  | 411 => "Length Required"
  | 412 => "Precondition Failed"
  | 413 => "Payload Too Large"
  | 414 => "URI Too Long"
  | 415 => "Unsupported Media Type"
  | 416 => "Range Not Satisfiable"
  | 417 => "Expectation Failed"
  | 418 => "I'm a teapot"
  | 421 => "Misdirected Request"
  | 422 => "Unprocessable Entity"
  | 423 => "Locked"
  | 424 => "Failed Dependency"
  | 425 => "Too Early"
  | 426 => "Upgrade Required"
  | 428 => "Precondition Required"
  | 429 => "Too Many Requests"
  | 431 => "Request Header Fields Too Large"
  | 451 => "Unavailable For Legal Reasons"
  | 500 => "Internal Server Error"
  | 501 => "Not Implemented"
  | 502 => "Bad Gateway"
  | 503 => "Service Unavailable"
  | 504 => "Gateway Timeout"
  | 505 => "HTTP Version Not Supported"
  | 506 => "Variant Also Negotiates"
  | 507 => "Insufficient Storage"
  | 508 => "Loop Detected"
  | 510 => "Not Extended"
  | 511 => "Network Authentication Required"
  | _ => "<unknown status code>"

namespace Refusal

/-- An integer literal that fits a word of 16 bits. -/
def code? : Json → Option Nat
  | .int n => if 0 ≤ n ∧ n < 65536 then some n.toNat else none
  | _ => none

/-- A refusal in the server's own words. -/
def read? (j : Json) : Option Refusal := do
  let f ← Json.record? ["status", "message", "reason", "code"] j
  let status ← Json.required Json.str? (f "status")
  let message ← Json.orDefault "" Json.str? (f "message")
  let reason ← Json.orDefault "" Json.str? (f "reason")
  let code ← Json.required code? (f "code")
  some { status, message, reason, code }

/-- The refusal that a status and a text stand for. -/
def ofReply (status : Nat) (text : String) : Refusal :=
  ((Json.read? text).bind read?).getD
    { status := toString status ++ " " ++ statusPhrase status
      message := Text.debug text
      reason := "Failed to parse error data"
      code := status }

end Refusal

/-- What a status and a text mean. -/
def Reply.meaning (status : Nat) (text : String) : Except ApiFault Json :=
  if 400 ≤ status ∧ status < 600 then .error (.refused (.ofReply status text))
  else
    match Json.read? text with
    | some j => .ok j
    | none => .error .unusable

/-- What comes back for a request. -/
def Reply.answer (reply : Reply) (r : Request) : Except ApiFault Json :=
  match reply with
  | .dropped => .error .unusable
  | .text status body => meaning status body
  | .echo status => meaning status ((r.body.map Json.compact).getD "")

/-- What is said with a channel at hand. -/
abbrev Talk := ExceptT ApiFault (StateM Channel)

namespace Talk

/-- A request goes out and a reply comes back. -/
def exchange (r : Request) : Talk Json := ExceptT.mk fun c =>
  match c.replies with
  | [] => ((Reply.echo 200).answer r, { c with sent := r :: c.sent })
  | reply :: replies => (reply.answer r, { c with replies, sent := r :: c.sent })

/-- A request goes out, if it could be made. -/
def send (r : Except ApiFault Request) : Talk Json :=
  match r with
  | .ok r => exchange r
  | .error f => throw f

/-- The reply as a value of the expected kind. -/
def expect {α : Type} (read : Json → Option α) (r : Except ApiFault Request) : Talk α := do
  let j ← send r
  match read j with
  | some a => return a
  | none => throw .unusable

/-- The reply as a value of the expected kind, or nothing if the server does not find the object. -/
def expect? {α : Type} (read : Json → Option α) (r : Except ApiFault Request) :
    Talk (Option α) := ExceptT.mk fun c =>
  match (expect read r).run c with
  | (.ok a, c) => (.ok (some a), c)
  | (.error (.refused f), c) =>
    if f.reason = "NotFound" then (.ok none, c) else (.error (.refused f), c)
  | (.error f, c) => (.error f, c)

end Talk

end Proctor

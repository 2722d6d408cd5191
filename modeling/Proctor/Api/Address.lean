import Proctor.Api.Form

/-!
# Addresses

Which texts are addresses of the web, and what an address asks for. An address has an optional
scheme before `://`, an authority, a path, and behind a question mark a query; what follows a `#`
is not part of what is asked for. A text without `://` is a path if it begins with a slash, and an
authority otherwise.
-/

namespace Proctor

/-- Why a text is no address. -/
inductive AddressFault where
  /-- A character stands where addresses have none like it. -/
  | badCharacter
  /-- It is longer than addresses may be. -/
  | tooLong
  deriving DecidableEq, Repr

namespace Address

/-- The greatest number of bytes in an address. -/
def maxBytes : Nat := 65534

/-- A character that a path may have: letters, digits, most marks, and any beyond ASCII. -/
def inPath (c : Char) : Bool :=
  let n := c.toNat
  n == 0x21 || n == 0x22 || (0x24 ≤ n && n ≤ 0x3B) || n == 0x3D || (0x40 ≤ n && n ≤ 0x5F) ||
    (0x61 ≤ n && n ≤ 0x7E) || 0x80 ≤ n

/-- A character that a query may have. -/
def inQuery (c : Char) : Bool :=
  let n := c.toNat
  n == 0x21 || (0x24 ≤ n && n ≤ 0x3B) || n == 0x3D || (0x3F ≤ n && n ≤ 0x7E) || 0x80 ≤ n

/-- A character before which an authority ends. -/
def endsAuthority (c : Char) : Bool := c == '/' || c == '?' || c == '#'

/-! ### Authorities -/

/-- A letter, digit or mark that an authority may have. -/
def inAuthority (c : Char) : Bool :=
  c.isAlphanum || c ∈ ['!', '$', '&', '\'', '(', ')', '*', '+', ',', '-', '.', ':', ';', '=', '@',
    '[', ']', '_', '~', '%']

/-- What is known of an authority when a part of it has been read. -/
structure Authority where
  /-- The colons since the last `@` or `]`. -/
  colons : Nat := 0
  /-- A bracket was opened. -/
  opened : Bool := false
  /-- The bracket was closed. -/
  closed : Bool := false
  /-- A percent sign stands behind the last `@` or `]`. -/
  percent : Bool := false
  /-- Nothing stands behind the last `@`. -/
  endsInUser : Bool := false

/-- The next character of an authority. At most eight colons stand together, and one pair of
brackets. -/
def Authority.step? (a : Authority) (c : Char) : Option Authority :=
  let a := { a with endsInUser := c = '@' }
  match c with
  | ':' => if a.colons < 8 then some { a with colons := a.colons + 1 } else none
  | '[' => if a.percent || a.opened then none else some { a with opened := true }
  | ']' =>
    if a.opened && !a.closed then some { a with closed := true, colons := 0, percent := false }
    else none
  | '@' => some { a with colons := 0, percent := false }
  | '%' => some { a with percent := true }
  | _ => if inAuthority c then some a else none

/-- A host, with a user before an `@` and a number behind a colon if they are given. -/
def isAuthority (cs : List Char) : Bool :=
  (cs.foldlM Authority.step? {}).any fun a =>
    a.opened == a.closed && a.colons ≤ 1 && !a.endsInUser && !a.percent

/-! ### Schemes -/

/-- A character that a scheme may have. -/
def inScheme (c : Char) : Bool := c.isAlphanum || c == '+' || c == '-' || c == '.' || c == '~'

/-- What follows the scheme, if there is one: nothing at all if the scheme is too long. -/
def afterScheme (cs : List Char) : Option (Option (List Char)) :=
  let lower := cs.map Char.toLower
  if lower.take 7 = "http://".toList then some (some (cs.drop 7))
  else if lower.take 8 = "https://".toList then some (some (cs.drop 8))
  else
    match cs.dropWhile inScheme with
    | ':' :: '/' :: '/' :: rest =>
      if cs.length ≤ 3 then some none
      else if 64 < (cs.takeWhile inScheme).length then none
      else some (some rest)
    | _ => some none

/-! ### What is asked for -/

/-- A path and the query behind it. -/
def cutQuery (cs : List Char) : List Char × List Char :=
  let inner (c : Char) : Bool := c != '?' && c != '#'
  match cs.dropWhile inner with
  | '?' :: rest => (cs.takeWhile inner, rest.takeWhile (· != '#'))
  | _ => (cs.takeWhile inner, [])

/-- A path with what may follow it. -/
def isPath (cs : List Char) : Bool :=
  let (path, query) := cutQuery cs
  path.all inPath && query.all inQuery

/-- A text that is an address. -/
def isValid (s : String) : Bool :=
  let cs := s.toList
  s.utf8ByteSize ≤ maxBytes &&
    match cs with
    | [] => false
    | ['*'] => true
    | '/' :: _ => isPath cs
    | _ =>
      match afterScheme cs with
      | none => false
      | some none => isAuthority cs
      | some (some rest) =>
        let host := rest.takeWhile (!endsAuthority ·)
        host != [] && isAuthority host && isPath (rest.dropWhile (!endsAuthority ·))

end Address

/-- What an address asks a server for. -/
structure Address where
  /-- The way to the resource. -/
  path : String
  /-- The names and values behind it. -/
  query : List (String × String) := []
  deriving DecidableEq, Repr

/-- What a text that begins with a slash asks for. -/
def Address.read (s : String) : Except AddressFault Address :=
  if maxBytes < s.utf8ByteSize then .error .tooLong
  else if isPath s.toList then
    let (path, query) := cutQuery s.toList
    .ok { path := String.ofList path, query := Form.readAll (String.ofList query) }
  else .error .badCharacter

end Proctor

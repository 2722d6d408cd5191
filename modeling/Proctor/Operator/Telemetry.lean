import Proctor.Api.Address
import Proctor.Text.Blank
import Proctor.Text.Decimal
import Proctor.Text.Letters
import Proctor.Text.Split

/-!
# Settings of telemetry

Where measurements are sent, and which log lines are kept. A filter is a list of directives: a
level for everything, a target, a span, or one of these with its level. A setting that is blank is
as good as none.
-/

namespace Proctor

namespace LogFilter

/-- The filter that is used when none is given. -/
def default : String := "info,yaks=debug,kube=info"

/-- The words for the levels. -/
def levels : List String := ["trace", "debug", "info", "warn", "error", "off"]

/-- A level: a word in any case, or a number up to five with an optional plus sign. -/
def isLevel (s : String) : Bool :=
  let digits := match s.toList with
    | '+' :: rest => rest
    | cs => cs
  s.toLower ∈ levels || (Text.decimal? digits).any (· ≤ 5)

/-- A character with which a target may begin. -/
def begins (c : Char) : Bool :=
  c == '-' || c == ':' || c == '_' || Text.isLetterOrDigit c

/-- The part of a directive that is being read. -/
inductive Part where
  /-- Nothing has been read. -/
  | start
  /-- A target, or a level for everything. -/
  | target
  /-- The name of a span, in square brackets. -/
  | span
  /-- A field of a span, in curly brackets. -/
  | field (isEmpty : Bool)
  /-- The fields of a span are read. -/
  | fields
  /-- The span is read. -/
  | closed
  deriving DecidableEq, Repr

/-- Whether a directive may go on like this. What follows the equals sign is judged as a whole. -/
def Part.accepts (isLevel : List Char → Bool) : Part → List Char → Bool
  | .start, c :: rest => if c = '[' then accepts isLevel .span rest
    else begins c && accepts isLevel .target rest
  | .target, [] => true
  | .target, c :: rest =>
    if c = '=' then isLevel rest
    else accepts isLevel (if c = '[' then .span else .target) rest
  | .span, c :: rest =>
    accepts isLevel (if c = ']' then .closed else if c = '\x7b' then .field true else .span) rest
  | .field isEmpty, c :: rest =>
    if c = '\x7d' then !isEmpty && accepts isLevel .fields rest
    else accepts isLevel (.field false) rest
  | .fields, c :: rest => c = ']' && accepts isLevel .closed rest
  | .closed, [] => true
  | .closed, c :: rest => c = '=' && isLevel rest
  | _, [] => false

/-- A directive: a level, or a target and a span, each of which may be left out, with or without a
level behind an equals sign. Blanks around it are passed over, but the level is the text that
follows as it stands, and with blanks in front no level is found. -/
def isDirective (s : String) : Bool :=
  let cs := s.toList
  let behind := (cs.reverse.takeWhile Text.isBlank).reverse
  let isLevelText (level : List Char) : Bool :=
    let level := level ++ behind
    !cs.head?.any Text.isBlank && (level == [] || isLevel (String.ofList level))
  Part.accepts isLevelText .start (Text.trimChars cs)

/-- A filter all of whose directives are well formed. -/
def isValid (s : String) : Bool :=
  ((Text.split ',' s).filter (· ≠ "")).all isDirective

end LogFilter

/-- Settings of telemetry. -/
structure Telemetry where
  /-- Where measurements are sent, as given. -/
  endpoint : Option String := none
  /-- The filter of the log, as given. -/
  logFilter : Option String := none
  deriving DecidableEq, Inhabited

/-- Why telemetry could not be set up. -/
inductive TelemetryFault where
  /-- The filter of the log is not well formed. -/
  | filter (directive : String)
  /-- The endpoint is no address; traces would be sent there first. -/
  | exporter (signal : String)
  deriving DecidableEq, Repr

namespace Telemetry

/-- Where measurements are sent. -/
def endpoint? (t : Telemetry) : Option String := t.endpoint.bind Text.nonblank?

/-- The filter that is used. -/
def filter (t : Telemetry) : String := (t.logFilter.bind Text.nonblank?).getD LogFilter.default

/-- The filter, if it is well formed. -/
def checkFilter (t : Telemetry) : Except TelemetryFault Unit :=
  if LogFilter.isValid t.filter then .ok () else .error (.filter t.filter)

/-- Telemetry is set up: the filter first, then the endpoint if there is one. -/
def install (t : Telemetry) : Except TelemetryFault Unit := do
  t.checkFilter
  match t.endpoint? with
  | none => .ok ()
  | some e => if Address.isValid e then .ok () else .error (.exporter "traces")

end Telemetry

end Proctor

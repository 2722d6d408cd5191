import Proctor.Text.Blank
import Proctor.Text.Decimal
import Proctor.Time.Calendar

/-!
# Instants

A point in time by its date and time of day in UTC. Texts are read with some tolerance: blanks
before a number and before a separator, numbers with fewer digits, a blank instead of the `T`, and
any offset of less than a day. An instant is written in one way only, with a `Z` and as many
digits of the second's fraction as its use asks for.
-/

namespace Proctor

/-- A point in time, in UTC; the 61st second of a minute is a leap second. -/
structure Instant where
  /-- The day. -/
  date : Date
  /-- The hour of the day. -/
  hour : Nat
  /-- The minute of the hour. -/
  minute : Nat
  /-- The second of the minute. -/
  second : Nat
  /-- The nanosecond of the second. -/
  nano : Nat
  /-- The day exists, within the years that can be told apart, and the time of day does too. -/
  valid : date.Exists ∧ -262143 ≤ date.year ∧ date.year ≤ 262142 ∧
    hour < 24 ∧ minute < 60 ∧ second ≤ 60 ∧ nano < 1000000000
  deriving DecidableEq

namespace Instant

/-- The instant with these numbers, if there is one. -/
def of? (date : Date) (hour minute second nano : Nat) : Option Instant :=
  if h : date.Exists ∧ -262143 ≤ date.year ∧ date.year ≤ 262142 ∧
      hour < 24 ∧ minute < 60 ∧ second ≤ 60 ∧ nano < 1000000000 then
    some ⟨date, hour, minute, second, nano, h⟩
  else none

/-- The first instant of 1970. -/
def epoch : Instant := ⟨⟨1970, 1, 1⟩, 0, 0, 0, 0, by decide⟩

instance : Inhabited Instant := ⟨epoch⟩

/-- The nanoseconds since the first instant of 1970. -/
def unixNanos (t : Instant) : Int :=
  (((t.date.number * 24 + t.hour) * 60 + t.minute) * 60 + t.second) * 1000000000 + t.nano

/-! ### Writing -/

/-- A year in four digits, or with its sign if it has more or lies before the year 0. -/
def yearText (year : Int) : String :=
  if 0 ≤ year ∧ year ≤ 9999 then Text.padded 4 year.toNat
  else if 0 ≤ year then "+" ++ Text.padded 4 year.toNat
  else "-" ++ Text.padded 4 (-year).toNat

/-- The date and time of day, without the fraction of the second. -/
def clockText (t : Instant) : String :=
  yearText t.date.year ++ "-" ++ Text.padded 2 t.date.month ++ "-" ++ Text.padded 2 t.date.day ++
    "T" ++ Text.padded 2 t.hour ++ ":" ++ Text.padded 2 t.minute ++ ":" ++ Text.padded 2 t.second

/-- The instant to the second. -/
def seconds (t : Instant) : String := t.clockText ++ "Z"

/-- The instant to the microsecond. -/
def micros (t : Instant) : String :=
  t.clockText ++ "." ++ Text.padded 6 (t.nano / 1000) ++ "Z"

/-- The instant with 0, 3, 6 or 9 digits of the fraction, the fewest that lose nothing. -/
def text (t : Instant) : String :=
  if t.nano = 0 then t.seconds
  else if t.nano % 1000000 = 0 then
    t.clockText ++ "." ++ Text.padded 3 (t.nano / 1000000) ++ "Z"
  else if t.nano % 1000 = 0 then t.micros
  else t.clockText ++ "." ++ Text.padded 9 t.nano ++ "Z"

/-! ### Reading -/

/-- What follows the blanks in front. -/
def skipBlanks (cs : List Char) : List Char := cs.dropWhile Text.isBlank

/-- A number of at most `width` digits and at least one, and what follows. -/
def digits? (width : Nat) (cs : List Char) : Option (Nat × List Char) := do
  let run := (cs.take width).takeWhile Char.isDigit
  let n ← Text.decimal? run
  some (n, cs.drop run.length)

/-- A number of any length after the sign in front, or of at most four digits without one. -/
def year? (cs : List Char) : Option (Int × List Char) :=
  match skipBlanks cs with
  | '-' :: rest => do
    let (n, rest) ← digits? rest.length rest
    some (-(n : Int), rest)
  | '+' :: rest => do
    let (n, rest) ← digits? rest.length rest
    some ((n : Int), rest)
  | rest => do
    let (n, rest) ← digits? 4 rest
    some ((n : Int), rest)

/-- A separator, with the blanks in front of it and of the number of two digits that follows. -/
def part? (separator : Char) (cs : List Char) : Option (Nat × List Char) :=
  match skipBlanks cs with
  | c :: rest => if c = separator then digits? 2 (skipBlanks rest) else none
  | [] => none

/-- The nanoseconds of an optional fraction; digits after the ninth are passed over. -/
def fraction? : List Char → Option (Nat × List Char)
  | '.' :: rest =>
    let run := rest.takeWhile Char.isDigit
    if run = [] then none
    else
      let kept := (run ++ List.replicate 9 '0').take 9
      (Text.decimal? kept).map fun n => (n, rest.dropWhile Char.isDigit)
  | rest => some (0, rest)

/-- Two digits exactly, and what follows. -/
def pair? : List Char → Option (Nat × List Char)
  | a :: b :: rest => do
    let m ← Text.digit? a
    let n ← Text.digit? b
    some (m * 10 + n, rest)
  | _ => none

/-- The hours and minutes of an offset in minutes. -/
def hoursAndMinutes? (cs : List Char) : Option (Int × List Char) := do
  let (hours, rest) ← pair? cs
  let (minutes, rest) ← pair? (rest.dropWhile fun c => c == ':' || Text.isBlank c)
  if minutes < 60 ∧ hours < 24 then some (((hours * 60 + minutes : Nat) : Int), rest) else none

/-- The offset from UTC in minutes. -/
def offset? (cs : List Char) : Option (Int × List Char) :=
  match cs with
  | 'Z' :: rest | 'z' :: rest => some (0, rest)
  | '+' :: rest => hoursAndMinutes? rest
  | '-' :: rest | '\u2212' :: rest => (hoursAndMinutes? rest).map fun (n, rest) => (-n, rest)
  | a :: b :: c :: rest =>
    if [a.toUpper, b.toUpper, c.toUpper] = ['U', 'T', 'C'] then some (0, rest) else none
  | _ => none

/-- The instant at a local time that is so many minutes, less than a day, ahead of UTC. -/
def shifted? (date : Date) (hour minute second nano : Nat) (ahead : Int) : Option Instant := do
  let _ ← of? date hour minute second nano
  let m : Int := hour * 60 + minute - ahead
  let day := if m < 0 then date.previous else if 1440 ≤ m then date.next else date
  let ofDay := (m % 1440).toNat
  of? day (ofDay / 60) (ofDay % 60) second nano

/-- The instant that a text denotes. -/
def read? (s : String) : Option Instant := do
  let (year, rest) ← year? s.toList
  let (month, rest) ← part? '-' rest
  let (day, rest) ← part? '-' rest
  let rest ← match rest with
    | 'T' :: rest | 't' :: rest | ' ' :: rest => some rest
    | _ => none
  let (hour, rest) ← digits? 2 (skipBlanks rest)
  let (minute, rest) ← part? ':' rest
  let (second, rest) ← part? ':' rest
  let (nano, rest) ← fraction? rest
  let (ahead, rest) ← offset? (skipBlanks rest)
  if skipBlanks rest = [] then shifted? ⟨year, month, day⟩ hour minute second nano ahead else none

end Instant

end Proctor

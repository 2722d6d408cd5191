import Proctor.Json.Basic
import Proctor.Text.Decimal
import Proctor.Text.Order

/-!
# Writing JSON

The compact text of a value: no blanks, the fields of every object in ascending order of their
names, and in a string only the quote, the backslash and the control characters escaped.
-/

namespace Proctor.Json

/-- A character inside a string literal. -/
def escape (c : Char) : String :=
  match c with
  | '"' => "\\\""
  | '\\' => "\\\\"
  | '\n' => "\\n"
  | '\r' => "\\r"
  | '\t' => "\\t"
  | '\x08' => "\\b"
  | '\x0c' => "\\f"
  | _ => if c.toNat < 0x20 then "\\u" ++ Text.hex4 c.toNat else c.toString

/-- A string literal. -/
def quoted (s : String) : String :=
  s.toList.foldl (fun out c => out ++ escape c) "\"" ++ "\""

/-- Named values in ascending order of the names. -/
def sortedByName {α : Type} (fields : List (String × α)) : List (String × α) :=
  fields.mergeSort fun a b => !Text.before b.1 a.1

mutual

/-- The compact text of a value. -/
def compact : Json → String
  | .null => "null"
  | .bool true => "true"
  | .bool false => "false"
  | .int n => toString n
  | .real literal => literal
  | .str s => quoted s
  | .torn => "\"\\ud800\""
  | .arr items => "[" ++ String.intercalate "," (compactItems items) ++ "]"
  | .obj fields =>
    let written := (sortedByName (compactFields fields)).map fun f => quoted f.1 ++ ":" ++ f.2
    "\x7b" ++ String.intercalate "," written ++ "\x7d"

/-- The compact texts of the items of an array. -/
def compactItems : List Json → List String
  | [] => []
  | v :: rest => v.compact :: compactItems rest

/-- The fields of an object with the compact texts of their values. -/
def compactFields : List (String × Json) → List (String × String)
  | [] => []
  | (name, v) :: rest => (name, v.compact) :: compactFields rest

end

end Proctor.Json

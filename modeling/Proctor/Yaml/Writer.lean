import Proctor.Json.Writer

/-!
# Writing YAML

The block form of a value: one field or item a line, the fields of an object in ascending order of
their names, what is inside an object two columns further to the right, and the dashes of a list in
the column of its name. Texts are written plain, as it is right for texts that neither look like
another value nor hold a mark of the format; the empty text is quoted.
-/

namespace Proctor.Yaml

/-- The written form of a value. -/
inductive Form where
  /-- On the line of its name. -/
  | inline (s : String)
  /-- On lines of its own, as a list or as an object. -/
  | block (isList : Bool) (lines : List String)

/-- A text. -/
def plain (s : String) : String := if s = "" then "''" else s

/-- Lines moved to the right. -/
def indented (lines : List String) : List String := lines.map ("  " ++ ·)

/-- The lines of an item of a list. -/
def itemLines : Form → List String
  | .inline s => ["- " ++ s]
  | .block _ [] => ["-"]
  | .block _ (first :: rest) => ("- " ++ first) :: indented rest

/-- The lines of a field of an object. -/
def fieldLines (name : String) : Form → List String
  | .inline s => [name ++ ": " ++ s]
  | .block true lines => (name ++ ":") :: lines
  | .block false lines => (name ++ ":") :: indented lines

mutual

/-- The written form of a value. -/
def form : Json → Form
  | .null => .inline "null"
  | .bool true => .inline "true"
  | .bool false => .inline "false"
  | .int n => .inline (toString n)
  | .real literal => .inline literal
  | .str s => .inline (plain s)
  | .torn => .inline "''"
  | .arr [] => .inline "[]"
  | .arr (v :: rest) => .block true (itemLines (form v) ++ items rest)
  | .obj [] => .inline "\x7b\x7d"
  | .obj (f :: rest) =>
    .block false ((Json.sortedByName (fields (f :: rest))).flatMap fun f => fieldLines f.1 f.2)

/-- The lines of the items of a list. -/
def items : List Json → List String
  | [] => []
  | v :: rest => itemLines (form v) ++ items rest

/-- The fields of an object with the written forms of their values. -/
def fields : List (String × Json) → List (String × Form)
  | [] => []
  | (name, v) :: rest => (name, form v) :: fields rest

end

/-- The text of a value, each line ended. -/
def document (v : Json) : String :=
  let lines := match form v with
    | .inline s => [s]
    | .block _ lines => lines
  String.join (lines.map (· ++ "\n"))

end Proctor.Yaml

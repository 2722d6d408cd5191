import Proctor.Text.Decimal
import Proctor.Text.Printable

/-!
# Text in quotes

A text as it is shown inside an error: in double quotes, with quotes and backslashes escaped and
with every character that cannot be seen written as its number.
-/

namespace Proctor.Text

/-- A character of a text in quotes. -/
def debugChar (c : Char) : String :=
  match c with
  | '"' => "\\\""
  | '\\' => "\\\\"
  | '\n' => "\\n"
  | '\r' => "\\r"
  | '\t' => "\\t"
  | '\x00' => "\\0"
  | _ => if isVisible c then c.toString else "\\u\x7b" ++ hex c.toNat ++ "\x7d"

/-- A text in quotes. -/
def debug (s : String) : String :=
  "\"" ++ String.join (s.toList.map debugChar) ++ "\""

end Proctor.Text

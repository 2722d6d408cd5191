import Proctor.Text.Blank
import Proctor.Text.Split

/-!
# Entries of the environment

An entry asks for one variable, `KEY=VALUE`. Blanks around both sides are cut; an entry that has
no or several equals signs, or nothing on one side, asks for nothing.
-/

namespace Proctor

/-- The variable that an entry asks for. -/
def envVariable? (entry : String) : Option (String × String) :=
  match (Text.split '=' entry).map Text.trim with
  | [key, value] => if key ≠ "" ∧ value ≠ "" then some (key, value) else none
  | _ => none

end Proctor

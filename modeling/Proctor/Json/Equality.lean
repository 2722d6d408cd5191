import Proctor.Json.Basic

/-!
# Equality of JSON values

Whether two values are the same value, written the same way: the fields of an object in the same
order, and a number that is no integer with the same literal.
-/

namespace Proctor.Json

mutual

/-- Whether two values are the same. -/
def decEq : (v w : Json) → Decidable (v = w)
  | .null, w => match w with
    | .null => isTrue rfl
    | .bool _ | .int _ | .real _ | .str _ | .torn | .arr _ | .obj _ => isFalse nofun
  | .bool a, w => match w with
    | .bool b => decidable_of_iff (a = b) ⟨congrArg _, Json.bool.inj⟩
    | .null | .int _ | .real _ | .str _ | .torn | .arr _ | .obj _ => isFalse nofun
  | .int a, w => match w with
    | .int b => decidable_of_iff (a = b) ⟨congrArg _, Json.int.inj⟩
    | .null | .bool _ | .real _ | .str _ | .torn | .arr _ | .obj _ => isFalse nofun
  | .real a, w => match w with
    | .real b => decidable_of_iff (a = b) ⟨congrArg _, Json.real.inj⟩
    | .null | .bool _ | .int _ | .str _ | .torn | .arr _ | .obj _ => isFalse nofun
  | .str a, w => match w with
    | .str b => decidable_of_iff (a = b) ⟨congrArg _, Json.str.inj⟩
    | .null | .bool _ | .int _ | .real _ | .torn | .arr _ | .obj _ => isFalse nofun
  | .torn, w => match w with
    | .torn => isTrue rfl
    | .null | .bool _ | .int _ | .real _ | .str _ | .arr _ | .obj _ => isFalse nofun
  | .arr a, w => match w with
    | .arr b =>
      match decEqItems a b with
      | isTrue h => isTrue (congrArg _ h)
      | isFalse h => isFalse fun e => h (Json.arr.inj e)
    | .null | .bool _ | .int _ | .real _ | .str _ | .torn | .obj _ => isFalse nofun
  | .obj a, w => match w with
    | .obj b =>
      match decEqFields a b with
      | isTrue h => isTrue (congrArg _ h)
      | isFalse h => isFalse fun e => h (Json.obj.inj e)
    | .null | .bool _ | .int _ | .real _ | .str _ | .torn | .arr _ => isFalse nofun

/-- Whether two lists of values are the same. -/
def decEqItems : (vs ws : List Json) → Decidable (vs = ws)
  | [], [] => isTrue rfl
  | [], _ :: _ | _ :: _, [] => isFalse nofun
  | v :: vs, w :: ws =>
    match decEq v w, decEqItems vs ws with
    | isTrue h, isTrue hs => isTrue (h ▸ hs ▸ rfl)
    | isFalse h, _ => isFalse fun e => h (List.cons.inj e).1
    | _, isFalse hs => isFalse fun e => hs (List.cons.inj e).2

/-- Whether two lists of fields are the same. -/
def decEqFields : (fs gs : List (String × Json)) → Decidable (fs = gs)
  | [], [] => isTrue rfl
  | [], _ :: _ | _ :: _, [] => isFalse nofun
  | (m, v) :: fs, (n, w) :: gs =>
    if hn : m = n then
      match decEq v w, decEqFields fs gs with
      | isTrue h, isTrue hs => isTrue (hn ▸ h ▸ hs ▸ rfl)
      | isFalse h, _ => isFalse fun e => h (Prod.mk.inj (List.cons.inj e).1).2
      | _, isFalse hs => isFalse fun e => hs (List.cons.inj e).2
    else isFalse fun e => hn (Prod.mk.inj (List.cons.inj e).1).1

end

instance : DecidableEq Json := decEq

end Proctor.Json

import Proctor.Yaml.Node
import Proctor.Yaml.Scalar

/-!
# Documents

The value of a document. A part that is meant once more is read once more, at its own place, so a
part that holds itself has no end; values nest to a depth of 128, and parts are not meant again
more often than a hundred times for every part that was written.
-/

namespace Proctor.Yaml

namespace Node

/-! ### Names as numbers -/

/-- The names that were given, with their numbers. -/
abbrev Names := List (String × Nat)

/-- A name is given to a part: its number tells how many names there were. A name that is given
again gets a number as well, which the next new name shares. -/
def name (names : Names) (p : Properties) : Properties × Names :=
  match p.anchor with
  | none => (p, names)
  | some a =>
    let others := names.filter (·.1 ≠ a)
    ({ p with anchor := some (toString names.length) }, (a, names.length) :: others)

mutual

/-- The same part with numbers for names; every name that is meant was given before. -/
def number? (names : Names) : Node → Option (Node × Names)
  | .alias a => (names.lookup a).map fun n => (.alias (toString n), names)
  | .scalar p text isPlain =>
    let (p, names) := name names p
    some (.scalar p text isPlain, names)
  | .sequence p items => do
    let (p, names) := name names p
    let (items, names) ← numberItems? names items
    some (.sequence p items, names)
  | .mapping p entries => do
    let (p, names) := name names p
    let (entries, names) ← numberEntries? names entries
    some (.mapping p entries, names)

/-- The same parts with numbers for names. -/
def numberItems? (names : Names) : List Node → Option (List Node × Names)
  | [] => some ([], names)
  | n :: rest => do
    let (n, names) ← number? names n
    let (rest, names) ← numberItems? names rest
    some (n :: rest, names)

/-- The same fields with numbers for names. -/
def numberEntries? (names : Names) :
    List (Node × Node) → Option (List (Node × Node) × Names)
  | [] => some ([], names)
  | (k, v) :: rest => do
    let (k, names) ← number? names k
    let (v, names) ← number? names v
    let (rest, names) ← numberEntries? names rest
    some ((k, v) :: rest, names)

end

mutual

/-- The parts that have names, in the order in which they begin. -/
def named : Node → List (String × Node)
  | .alias _ => []
  | .scalar p text isPlain => (p.anchor.map fun a => (a, Node.scalar p text isPlain)).toList
  | .sequence p items =>
    (p.anchor.map fun a => (a, Node.sequence p items)).toList ++ namedItems items
  | .mapping p entries =>
    (p.anchor.map fun a => (a, Node.mapping p entries)).toList ++ namedEntries entries

/-- The parts of a list that have names. -/
def namedItems : List Node → List (String × Node)
  | [] => []
  | n :: rest => named n ++ namedItems rest

/-- The parts of an object that have names. -/
def namedEntries : List (Node × Node) → List (String × Node)
  | [] => []
  | (k, v) :: rest => named k ++ named v ++ namedEntries rest

end

mutual

/-- How much was written: one for a text or a name that is meant, two for the ends of a list or an
object. -/
def weight : Node → Nat
  | .alias _ => 1
  | .scalar _ _ _ => 1
  | .sequence _ items => 2 + weightItems items
  | .mapping _ entries => 2 + weightEntries entries

/-- How much was written in a list. -/
def weightItems : List Node → Nat
  | [] => 0
  | n :: rest => weight n + weightItems rest

/-- How much was written in an object. -/
def weightEntries : List (Node × Node) → Nat
  | [] => 0
  | (k, v) :: rest => weight k + weight v + weightEntries rest

end

/-! ### Values -/

/-- The named parts of a document, and how often they may be meant again. -/
structure Scope where
  /-- The parts with names, the last one first. -/
  named : List (String × Node)
  /-- How often they may be meant again. -/
  limit : Nat

/-- The part that is meant, and how often parts were meant again until then. -/
def meant? (scope : Scope) (again : Nat) : Node → Option (Node × Nat)
  | .alias a =>
    if again < scope.limit then (scope.named.lookup a).map (·, again + 1) else none
  | n => some (n, again)

/-- The values of some parts, one after the other. -/
def valuesWith? (read : Node → Nat → Option (Value × Nat)) (again : Nat) :
    List Node → Option (List Value × Nat)
  | [] => some ([], again)
  | n :: rest => do
    let (v, again) ← read n again
    let (vs, again) ← valuesWith? read again rest
    some (v :: vs, again)

/-- The fields of an object, none of which has the name of another one. -/
def entriesWith? (read : Node → Nat → Option (Value × Nat)) (again : Nat) (names : List Value) :
    List (Node × Node) → Option (List (Value × Value) × Nat)
  | [] => some ([], again)
  | (k, v) :: rest => do
    let (k, again) ← read k again
    if names.any k.same then none
    else
      let (v, again) ← read v again
      let (es, again) ← entriesWith? read again (k :: names) rest
      some ((k, v) :: es, again)

/-- The value of a part, in which lists and objects nest to a depth. -/
def value? (scope : Scope) : Nat → Node → Nat → Option (Value × Nat)
  | 0, n, again => do
    let (n, again) ← meant? scope again n
    match n with
    | .scalar p text isPlain => (Value.ofText? p.tag text isPlain).map (·, again)
    | _ => none
  | depth + 1, n, again => do
    let (n, again) ← meant? scope again n
    match n with
    | .scalar p text isPlain => (Value.ofText? p.tag text isPlain).map (·, again)
    | .sequence p items => do
      let (vs, again) ← valuesWith? (value? scope depth) again items
      some (.underTag p.tag (.list vs), again)
    | .mapping p entries => do
      let (es, again) ← entriesWith? (value? scope depth) again [] entries
      some (.underTag p.tag (.object es), again)
    | .alias _ => none

/-- How deep lists and objects may nest. -/
def maxDepth : Nat := 128

/-- The value of a document. -/
def documentValue? (root : Node) : Option Value := do
  let (root, _) ← root.number? []
  let scope : Scope := { named := root.named.reverse, limit := 100 * root.weight }
  let (v, _) ← value? scope maxDepth root 0
  some v

end Node

/-- The values of the documents of a text. -/
def read? (text : String) : Option (List Value) := do
  let roots ← Node.ofText? text
  roots.mapM Node.documentValue?

end Proctor.Yaml

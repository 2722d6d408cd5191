import Proctor.Yaml.Token

/-!
# The parts of a document

A document is a tree of texts, lists and objects. A part may have a name by which it is meant once
more further on, and a tag; a part that is left out is an empty text.
-/

namespace Proctor.Yaml

/-- What stands in front of a part. -/
structure Properties where
  /-- The name of the part. -/
  anchor : Option String := none
  /-- The tag of the part. -/
  tag : Option Tag := none
  deriving DecidableEq, Repr

/-- A part of a document. -/
inductive Node where
  /-- A part that was given before under a name. -/
  | alias (name : String)
  /-- A text. -/
  | scalar (p : Properties) (text : String) (isPlain : Bool)
  /-- A list. -/
  | sequence (p : Properties) (items : List Node)
  /-- An object. -/
  | mapping (p : Properties) (entries : List (Node × Node))
  deriving Repr

namespace Node

/-- A part that is left out. -/
def empty : Node := .scalar {} "" true

/-! ### Tags and names -/

/-- What handles stand for. -/
abbrev Handles := List (String × Tag)

/-- The tag that a handle and a suffix stand for. -/
def tag? (handles : Handles) (handle : String) (suffix : Tag) : Option Tag :=
  if handle = "" then some suffix else (handles.lookup handle).map (· ++ suffix)

/-- What stands in front of a part, in either order, and what follows. -/
def properties? (handles : Handles) : List Token → Option (Properties × List Token)
  | .anchor a :: .tag h s :: ts => (tag? handles h s).map fun t => (⟨some a, some t⟩, ts)
  | .tag h s :: .anchor a :: ts => (tag? handles h s).map fun t => (⟨some a, some t⟩, ts)
  | .anchor a :: ts => some (⟨some a, none⟩, ts)
  | .tag h s :: ts => (tag? handles h s).map fun t => (⟨none, some t⟩, ts)
  | ts => some ({}, ts)

/-- A text with what stands in front of it. A lone mark instead of a tag says no more than that
the text has none, and so the text counts as plain if it is. -/
def ofText (p : Properties) (text : String) (isPlain : Bool) : Node :=
  .scalar { p with tag := p.tag.filter (· != Tag.ofChars ['!']) } text isPlain

/-! ### Trees -/

/-- A part is left out in front of one of these tokens. -/
def isLeftOut (stops : List Token) (ts : List Token) : Bool := ts.head?.any (· ∈ stops)

mutual

/-- The part that begins here, and what follows. A list without a column of its own stands in the
column of the field that it belongs to. -/
def read? (handles : Handles) (inBlock inColumn : Bool) :
    Nat → List Token → Option (Node × List Token)
  | 0, _ => none
  | fuel + 1, ts =>
    match ts with
    | .alias name :: ts => some (.alias name, ts)
    | _ => do
      let (p, ts) ← properties? handles ts
      match ts with
      | .scalar text isPlain :: ts => some (ofText p text isPlain, ts)
      | .flowSequenceStart :: ts => do
        let (items, ts) ← flowItems? handles true fuel ts
        some (.sequence p items, ts)
      | .flowMappingStart :: ts => do
        let (entries, ts) ← flowEntries? handles true fuel ts
        some (.mapping p entries, ts)
      | t :: rest =>
        if t = .blockEntry ∧ inColumn then do
          let (items, ts) ← columnItems? handles fuel ts
          some (.sequence p items, ts)
        else if t = .blockSequenceStart ∧ inBlock then do
          let (items, ts) ← blockItems? handles fuel rest
          some (.sequence p items, ts)
        else if t = .blockMappingStart ∧ inBlock then do
          let (entries, ts) ← blockEntries? handles fuel rest
          some (.mapping p entries, ts)
        else if p = {} then none
        else some (.scalar p "" true, ts)
      | [] => none

/-- The part that begins here, unless it is left out. -/
def readOr? (handles : Handles) (inBlock inColumn : Bool) (stops : List Token) :
    Nat → List Token → Option (Node × List Token)
  | 0, _ => none
  | fuel + 1, ts =>
    if isLeftOut stops ts then some (empty, ts) else read? handles inBlock inColumn fuel ts

/-- The items of a list that has a column, and what follows its end. -/
def blockItems? (handles : Handles) : Nat → List Token → Option (List Node × List Token)
  | 0, _ => none
  | fuel + 1, ts =>
    match ts with
    | .blockEntry :: ts => do
      let (item, ts) ← readOr? handles true false [.blockEntry, .blockEnd] fuel ts
      let (items, ts) ← blockItems? handles fuel ts
      some (item :: items, ts)
    | .blockEnd :: ts => some ([], ts)
    | _ => none

/-- The items of a list in the column of its field, and what follows. -/
def columnItems? (handles : Handles) : Nat → List Token → Option (List Node × List Token)
  | 0, _ => none
  | fuel + 1, ts =>
    match ts with
    | .blockEntry :: ts => do
      let (item, ts) ← readOr? handles true false [.blockEntry, .key, .value, .blockEnd] fuel ts
      let (items, ts) ← columnItems? handles fuel ts
      some (item :: items, ts)
    | ts => some ([], ts)

/-- The fields of an object that has a column, and what follows its end. -/
def blockEntries? (handles : Handles) :
    Nat → List Token → Option (List (Node × Node) × List Token)
  | 0, _ => none
  | fuel + 1, ts =>
    match ts with
    | .key :: ts => do
      let (name, ts) ← readOr? handles true true [.key, .value, .blockEnd] fuel ts
      let (value, ts) ← match ts with
        | .value :: ts => readOr? handles true true [.key, .value, .blockEnd] fuel ts
        | ts => some (empty, ts)
      let (entries, ts) ← blockEntries? handles fuel ts
      some ((name, value) :: entries, ts)
    | .blockEnd :: ts => some ([], ts)
    | _ => none

/-- The items of a list in brackets, and what follows its end. An item that is a field is an object
of its own. -/
def flowItems? (handles : Handles) (isFirst : Bool) :
    Nat → List Token → Option (List Node × List Token)
  | 0, _ => none
  | fuel + 1, ts =>
    match ts with
    | .flowSequenceEnd :: ts => some ([], ts)
    | ts => do
      let ts ← match ts with
        | .flowEntry :: rest => some (if isFirst then ts else rest)
        | _ => if isFirst then some ts else none
      match ts with
      | .flowSequenceEnd :: ts => some ([], ts)
      | .key :: ts => do
        let (name, ts) ←
          if isLeftOut [.value, .flowEntry, .flowSequenceEnd] ts then some (empty, ts.drop 1)
          else read? handles false false fuel ts
        let (value, ts) ← match ts with
          | .value :: ts => readOr? handles false false [.flowEntry, .flowSequenceEnd] fuel ts
          | ts => some (empty, ts)
        let (items, ts) ← flowItems? handles false fuel ts
        some (.mapping {} [(name, value)] :: items, ts)
      | ts => do
        let (item, ts) ← read? handles false false fuel ts
        let (items, ts) ← flowItems? handles false fuel ts
        some (item :: items, ts)

/-- The fields of an object in brackets, and what follows its end. -/
def flowEntries? (handles : Handles) (isFirst : Bool) :
    Nat → List Token → Option (List (Node × Node) × List Token)
  | 0, _ => none
  | fuel + 1, ts =>
    match ts with
    | .flowMappingEnd :: ts => some ([], ts)
    | ts => do
      let ts ← match ts with
        | .flowEntry :: rest => some (if isFirst then ts else rest)
        | _ => if isFirst then some ts else none
      match ts with
      | .flowMappingEnd :: ts => some ([], ts)
      | .key :: ts => do
        let (name, ts) ← readOr? handles false false [.value, .flowEntry, .flowMappingEnd] fuel ts
        let (value, ts) ← match ts with
          | .value :: ts => readOr? handles false false [.flowEntry, .flowMappingEnd] fuel ts
          | ts => some (empty, ts)
        let (entries, ts) ← flowEntries? handles false fuel ts
        some ((name, value) :: entries, ts)
      | ts => do
        let (name, ts) ← read? handles false false fuel ts
        let (entries, ts) ← flowEntries? handles false fuel ts
        some ((name, empty) :: entries, ts)

end

/-! ### Documents -/

/-- What the directives in front of a document say: at most once the version, which is 1.1 or 1.2,
and what handles stand for, each at most once. -/
def handles? (versioned : Bool) (handles : Handles) :
    List Token → Option (Handles × List Token)
  | .directive (.version major minor) :: ts =>
    if versioned ∨ major ≠ 1 ∨ (minor ≠ 1 ∧ minor ≠ 2) then none else handles? true handles ts
  | .directive (.handle name meaning) :: ts =>
    if (handles.lookup name).isSome then none
    else handles? versioned (handles ++ [(name, meaning)]) ts
  | ts => some (handles, ts)

/-- What handles stand for where no directive says otherwise. -/
def standardHandles : Handles :=
  [("!", Tag.ofChars ['!']), ("!!", Tag.ofChars "tag:yaml.org,2002:".toList)]

/-- A token with which the content of a document does not begin. -/
def isBoundary : Token → Bool
  | .directive _ | .documentStart | .documentEnd | .streamEnd => true
  | _ => false

/-- The document that begins here, and what follows it with its mark at the end. The first document
needs no mark at its beginning. -/
def document? (isFirst : Bool) (fuel : Nat) (ts : List Token) :
    Option (Node × List Token) := do
  let isBare := isFirst && !(ts.head?.any fun t => isBoundary t && t != .documentEnd)
  let (root, ts) ←
    if isBare then read? standardHandles true false fuel ts
    else do
      let (handles, ts) ← handles? false [] ts
      match ts with
      | .documentStart :: ts =>
        if ts.head?.any isBoundary then some (empty, ts)
        else read? (handles ++ standardHandles) true false fuel ts
      | _ => none
  some (root, if ts.head? = some .documentEnd then ts.drop 1 else ts)

/-- The documents that follow, where at most so many are still to come. -/
def documents? (isFirst : Bool) (fuel : Nat) : Nat → List Token → Option (List Node)
  | 0, _ => none
  | count + 1, ts => do
    let ts := if isFirst then ts else ts.dropWhile (· == .documentEnd)
    if ts = [.streamEnd] then some []
    else do
      let (root, ts) ← document? isFirst fuel ts
      let roots ← documents? false fuel count ts
      some (root :: roots)

/-- The documents of a text. -/
def ofText? (text : String) : Option (List Node) := do
  let ts ← tokens? text
  documents? true (4 * ts.length + 4) (ts.length + 1) ts

end Node

end Proctor.Yaml

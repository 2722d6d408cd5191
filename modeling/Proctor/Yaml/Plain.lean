import Proctor.Yaml.Gap

/-!
# Texts without quotes

A plain text ends at a colon with a gap behind it, at a comment, at a mark between documents, and
at a line that does not stand further to the right than what it belongs to. Inside brackets it ends
at a comma or bracket as well, lines may stand anywhere, and a colon in front of a bracket is a
mistake.
-/

namespace Proctor.Yaml.Plain

/-- A mark that separates or encloses items in brackets. -/
def isFlowMark (c : Char) : Bool := c ∈ [',', '[', ']', '\x7b', '\x7d']

/-- A character with which no plain text begins. -/
def isIndicator (c : Char) : Bool :=
  c ∈ ['-', '?', ':', ',', '[', ']', '\x7b', '\x7d', '#', '&', '*', '!', '|', '>', '\'', '"', '%',
    '@', '\x60']

/-- A plain text begins here. -/
def begins (inFlow : Bool) : List Cell → Bool
  | [] => false
  | c :: rest =>
    !(isGap c.char || isIndicator c.char) ||
      (c.char == '-' && !nextIs isSpace rest) ||
      (!inFlow && (c.char == '?' || c.char == ':') && !gapFollows rest)

/-- A plain text that was read. -/
structure Reading where
  /-- The text. -/
  text : String
  /-- A line was broken behind it. -/
  broken : Bool
  /-- What follows. -/
  rest : List Cell

/-- The plain text that goes on here. What was read stands last first; `column` is the least column
of a further line, and `inGap` tells that a gap has been read. -/
def from? (inFlow : Bool) (column : Nat) (read : List Char) (gap : Gap) (inGap : Bool) :
    List Cell → Option Reading
  | [] => some ⟨String.ofList read.reverse, gap.broken, []⟩
  | c :: rest =>
    if isGap c.char then
      if gap.broken && c.column < column && c.char == '\t' then none
      else from? inFlow column read (gap.push c.char) true rest
    else
      let leaves := inGap &&
        ((!inFlow && c.column < column) || c.char == '#' || isDocumentMark (c :: rest))
      let closes := (c.char == ':' && gapFollows rest) || (inFlow && isFlowMark c.char)
      let isStray := inFlow && c.char == ':' && nextIs (fun d => isFlowMark d || d == '?') rest
      if leaves || closes then some ⟨String.ofList read.reverse, gap.broken, c :: rest⟩
      else if isStray then none
      else from? inFlow column (c.char :: (gap.chars.reverse ++ read)) {} false rest

/-- The plain text that begins here. -/
def read? (inFlow : Bool) (column : Nat) (cells : List Cell) : Option Reading :=
  from? inFlow column [] {} false cells

end Proctor.Yaml.Plain

import Proctor.Proofs.Json.Reading
import Proctor.Proofs.Json.Writing
import Proctor.Proofs.Lifecycle.Diagnostic
import Proctor.Proofs.Test.Forms

/-!
# The report of a run is recovered

The runtime leaves its report as the message with which its container terminates. Whatever form it
gives the report, and whatever blanks stand around the text, this report is read
(`Report.ofText?_trim`); it is stored with a line for each scenario that has an error.
-/

namespace Proctor

open Json (Spells gap_nil)

/-- A text of a value, with blanks around it, is read as a report if the value is a form of one. -/
theorem Report.ofText?_trim {r : Report} {j : Json} {front text back : List Char}
    (hj : Report.like r.toJson j) (ht : Spells text j) (hf : ∀ c ∈ front, Text.isBlank c = true)
    (hb : ∀ c ∈ back, Text.isBlank c = true) :
    Report.ofText? (Text.trim (String.ofList (front ++ text ++ back))) = some r := by
  rw [ofText?, ht.read?_trim hf hb, Option.bind_some, read?_of_like hj]

namespace Pod

/-- The report of a run is recovered. If the first container of the test's name has terminated with
a text of a form of the report, with any blanks around the text, then the report is kept, and with
it a line for each scenario that has an error message, in their order. -/
theorem report_recovered {p : Pod} {before after : List ContainerStatus} {c : ContainerStatus}
    {r : Report} {j : Json} {front text back : List Char}
    (hc : p.containerStatuses = before ++ c :: after) (hbefore : ∀ b ∈ before, b.name ≠ "test")
    (hname : c.name = "test")
    (hm : c.message? = some (String.ofList (front ++ text ++ back)))
    (hj : Report.like r.toJson j) (ht : Spells text j)
    (hf : ∀ c ∈ front, Text.isBlank c = true) (hb : ∀ c ∈ back, Text.isBlank c = true)
    (outcome : Outcome) :
    p.collect outcome =
      { results := some r
        errors := r.tests.filterMap fun t => t.errorMessage.map fun m => t.name ++ ": " ++ m } := by
  have hmessage := message?_eq_some_iff.2 ⟨before, c, after, hc, hbefore, hname, hm⟩
  have hread := Report.ofText?_trim hj ht hf hb
  -- no report is read out of the empty text
  have hne : Text.trim (String.ofList (front ++ text ++ back)) ≠ "" := by
    intro h
    rw [h] at hread
    cases hread
  rw [collect_of_message hmessage hne, collectMessage, hread]
  rfl

/-- A report as someone else may write it: the scenarios before the counts, a name that no report
has, no count that is zero, a class that is unset. -/
def foreign : Json :=
  .obj [
    ("duration", .real "1.5"),
    ("tests", .arr [.obj [
      ("errorMessage", .str "😀!"), ("className", .null), ("name", .str "fails")]]),
    ("summary", .obj [("total", .int 1), ("failed", .int 1)])]

/-- The text of that report, with blanks in it and a surrogate pair. -/
def foreignText : List Char :=
  "\x7b \"duration\" : 1.5,\n ".toList ++ "\"tests\": [\x7b\"errorMessage\":".toList ++
    "\"\\ud83d\\ude00!\",\"className\":null,".toList ++ "\"name\":\"fails\"\x7d],".toList ++
    "\"summary\":\x7b\"total\":1,\"failed\":1\x7d\x7d".toList

/-- The report that is meant. -/
def familiar : Report :=
  { summary := { total := 1, failed := 1 }
    tests := [{ name := "fails", errorMessage := some "😀!" }] }

theorem like_foreign : Report.like familiar.toJson foreign := by
  refine .inr ⟨_, _, rfl, rfl, fun field hf => ?_⟩
  simp only [List.mem_cons, List.not_mem_nil, or_false] at hf
  rcases hf with rfl | rfl
  · refine ⟨by decide, by decide, .some (.inr ⟨_, _, rfl, rfl, fun field hf => ?_⟩)⟩
    simp only [List.mem_cons, List.not_mem_nil, or_false] at hf
    rcases hf with rfl | rfl | rfl | rfl | rfl | rfl | rfl
    all_goals exact ⟨by decide, by decide, .some rfl⟩
  · refine ⟨by decide, by decide, .some (.inr ⟨_, _, rfl, rfl, .cons (.inr ?_) .nil⟩)⟩
    refine ⟨_, _, rfl, rfl, fun field hf => ?_⟩
    simp only [List.mem_cons, List.not_mem_nil, or_false] at hf
    rcases hf with rfl | rfl | rfl | rfl
    all_goals exact ⟨by decide, by decide, .some rfl⟩

theorem spells_foreign : Spells foreignText foreign := by
  have hspace : Json.Gap [' '] := by decide
  have hline : Json.Gap ['\n', ' '] := by decide
  have hwhole : Json.Whole ['1'] := by decide
  have hpoint : Json.Fraction ['.', '5'] := .given (by decide)
  have hone : Spells ['1'] (.int 1) := .number (.natural hwhole)
  have hduration : Spells [' ', '1', '.', '5'] (.real "1.5") :=
    .spaced hspace (.number (.real (.inl rfl) hwhole hpoint .absent (List.cons_ne_nil _ _))) gap_nil
  have hmessage : Json.SpellsText "\"\\ud83d\\ude00!\"".toList (.str "😀!") := by
    have hhigh := Json.SpellsPiece.unit (a := 'd') (b := '8') (c := '3') (d := 'd') rfl rfl rfl rfl
    have hlow := Json.SpellsPiece.unit (a := 'd') (b := 'e') (c := '0') (d := '0') rfl rfl rfl rfl
    have hmark : Json.SpellsPiece ['!'] (.char '!') := .plain (by decide) (by decide) (by decide)
    exact .quoted (.cons hhigh (.cons hlow (.cons hmark .nil)))
  have hname := Spells.text (Json.spellsText_quoted "fails")
  have htest := Spells.object (.more gap_nil (Json.spellsText_quoted "errorMessage") gap_nil
    (.text hmessage) (.more gap_nil (Json.spellsText_quoted "className") gap_nil .null
      (.one gap_nil (Json.spellsText_quoted "name") gap_nil hname)))
  have htests := Spells.spaced hspace (.array (.one htest)) gap_nil
  have hsummary := Spells.object (.more gap_nil (Json.spellsText_quoted "total") gap_nil hone
    (.one gap_nil (Json.spellsText_quoted "failed") gap_nil hone))
  have h := Spells.object (.more hspace (Json.spellsText_quoted "duration") hspace hduration
    (.more hline (Json.spellsText_quoted "tests") gap_nil htests
      (.one gap_nil (Json.spellsText_quoted "summary") gap_nil hsummary)))
  exact h

/-- A container that has left the text between blanks. -/
def reporter : ContainerStatus :=
  Test.spoke "test" (String.ofList (['\u00a0', '\n'] ++ foreignText ++ [' ', '\u3000'])) 1

/-- The report is recovered from between blanks, with the line of its scenario. -/
theorem familiar_recovered :
    (Test.podOf "Failed" [Test.spoke "proxy" "bye" 0, reporter]).collect .failed =
      { results := some familiar, errors := ["fails: 😀!"] } := by
  have hc : (Test.podOf "Failed" [Test.spoke "proxy" "bye" 0, reporter]).containerStatuses =
      [Test.spoke "proxy" "bye" 0] ++ reporter :: [] := rfl
  have hm : reporter.message? =
      some (String.ofList (['\u00a0', '\n'] ++ foreignText ++ [' ', '\u3000'])) := rfl
  exact report_recovered hc (by decide) rfl hm like_foreign spells_foreign
    (List.all_eq_true.1 rfl) (List.all_eq_true.1 rfl) .failed

end Pod

end Proctor

/-!
# The order of texts

Texts are ordered by their code points, the shorter first where one begins the other.
-/

namespace Proctor.Text

/-- Whether one list of characters comes before another. -/
def charsBefore : List Char → List Char → Bool
  | _, [] => false
  | [], _ :: _ => true
  | a :: as, b :: bs =>
    if a = b then charsBefore as bs else Nat.blt a.toNat b.toNat

/-- Whether one text comes before another. -/
def before (a b : String) : Bool := charsBefore a.toList b.toList

@[simp] theorem charsBefore_self (as : List Char) : charsBefore as as = false := by
  induction as with
  | nil => rfl
  | cons a as ih => simp [charsBefore, ih]

theorem charsBefore_trans {as bs cs : List Char} (h : charsBefore as bs = true)
    (h' : charsBefore bs cs = true) : charsBefore as cs = true := by
  induction as generalizing bs cs with
  | nil =>
    cases cs with
    | nil => cases bs <;> simp [charsBefore] at h'
    | cons c cs => rfl
  | cons a as ih =>
    cases bs with
    | nil => simp [charsBefore] at h
    | cons b bs =>
      cases cs with
      | nil => simp [charsBefore] at h'
      | cons c cs =>
        unfold charsBefore at h h' ⊢
        split at h <;> split at h' <;> split
        · exact ih h h'
        · simp_all
        · simp_all
        · simp_all
        · simp_all
        · simp_all
        · next hab hbc hac =>
          subst hac
          rw [Nat.blt_eq] at h h'
          omega
        · rw [Nat.blt_eq] at h h' ⊢
          omega

theorem charsBefore_total {as bs : List Char} (h : charsBefore as bs = false)
    (h' : charsBefore bs as = false) : as = bs := by
  induction as generalizing bs with
  | nil =>
    cases bs with
    | nil => rfl
    | cons b bs => simp [charsBefore] at h
  | cons a as ih =>
    cases bs with
    | nil => simp [charsBefore] at h'
    | cons b bs =>
      unfold charsBefore at h h'
      by_cases hab : a = b
      · subst hab
        simp only [if_true] at h h'
        rw [ih h h']
      · rw [if_neg hab] at h
        rw [if_neg (Ne.symm hab)] at h'
        have h₁ : ¬ a.toNat < b.toNat := by simpa [← Nat.blt_eq] using h
        have h₂ : ¬ b.toNat < a.toNat := by simpa [← Nat.blt_eq] using h'
        exact absurd (Char.toNat_inj.1 (by omega)) hab

theorem before_trans {a b c : String} (h : before a b = true) (h' : before b c = true) :
    before a c = true := charsBefore_trans h h'

/-- Two texts of which none comes before the other are the same. -/
theorem eq_of_not_before {a b : String} (h : before a b = false) (h' : before b a = false) :
    a = b := String.toList_inj.1 (charsBefore_total h h')

end Proctor.Text

import Proctor.Fault
import Proctor.Proofs.Text.Trimming

/-!
# Which Tests are valid

The files of a Test are looked at one after the other, and each has to have a plain name that none
of the files before it has. So there is no problem just if all names are plain and no two are the
same (`Spec.fileProblem?_eq_none_iff`); and if there is one, it is that of the first file that does
not fit after those before it (`Spec.fileProblem?_eq_some_iff`). Of several things that are wrong
with that file only one is told: a blank name before a name that leads into a directory, and that
before a name that is taken (`Spec.Defect`).
-/

namespace Proctor

namespace Spec

/-! ### The names of the files -/

/-- The name of the settings file: the name that the settings are given without the blanks around
it, if anything is left of it. -/
def settingsName? (s : Spec) : Option String :=
  ((s.settings.bind Settings.name).map Text.trim).filter (· ≠ "")

/-- The names of the files, each with what the file is there for: source, settings, resources. -/
def fileNames (s : Spec) : List (Role × String) :=
  (.source, s.source.name) :: s.settingsName?.toList.map (fun n => (.settings, n)) ++
    s.resources.map fun r => (.resource, r.name)

theorem fileName?_eq_settingsName? {s : Spec} {settings : Settings}
    (h : s.settings = some settings) : settings.fileName? = s.settingsName? := by
  rw [settingsName?, h, Settings.fileName?, Option.bind_some]
  cases settings.name with
  | none => rfl
  | some n => by_cases hn : Text.trim n = "" <;> simp [Text.nonblank?, Option.filter, hn]

theorem settingsFile_eq (s : Spec) :
    s.settingsFile =
      s.settingsName?.toList.map fun n => ⟨.settings, n, (s.settings.getD {}).content⟩ := by
  rw [settingsFile]
  cases h : s.settings with
  | none => simp [settingsName?, h]
  | some settings =>
    simp only [fileName?_eq_settingsName? h, Option.getD_some]
    cases s.settingsName? <;> rfl

/-- What a file is there for, and its name. -/
def File.label (f : File) : Role × String := (f.role, f.name)

theorem map_label_files (s : Spec) : s.files.map File.label = s.fileNames := by
  simp [files, fileNames, settingsFile_eq, File.label, Function.comp_def]

/-! ### One file after others -/

/-- The name is plain, and none of the names that are taken. -/
structure Fits (taken : List String) (name : String) : Prop where
  /-- Something is left when the blanks around it are cut. -/
  nonblank : Text.trim name ≠ ""
  /-- It leads into no other directory. -/
  plain : '/' ∉ name.toList
  /-- No file before it has it. -/
  fresh : name ∉ taken

/-- What is told of a file that does not fit: of all that is wrong with it, what is first here. -/
inductive Defect (taken : List String) (role : Role) (name : String) : Problem → Prop where
  /-- Nothing is left when the blanks around the name are cut. -/
  | blank (h : Text.trim name = "") : Defect taken role name (.blankFileName role)
  /-- The name leads into another directory. -/
  | nested (h : Text.trim name ≠ "") (hs : '/' ∈ name.toList) :
    Defect taken role name (.notPlain role name)
  /-- A file before it has the name. -/
  | repeated (h : Text.trim name ≠ "") (hs : '/' ∉ name.toList) (ht : name ∈ taken) :
    Defect taken role name (.collision role name)

theorem fits_or_defect (taken : List String) (role : Role) (name : String) :
    Fits taken name ∨ ∃ p, Defect taken role name p := by
  by_cases h : Text.trim name = ""
  · exact Or.inr ⟨_, .blank h⟩
  · by_cases hs : '/' ∈ name.toList
    · exact Or.inr ⟨_, .nested h hs⟩
    · by_cases ht : name ∈ taken
      · exact Or.inr ⟨_, .repeated h hs ht⟩
      · exact Or.inl ⟨h, hs, ht⟩

variable {taken : List String} {role : Role} {name : String} {p : Problem}

theorem Defect.not_fits (h : Defect taken role name p) : ¬ Fits taken name := by
  intro hf
  cases h with
  | blank h => exact hf.nonblank h
  | nested _ hs => exact hf.plain hs
  | repeated _ _ ht => exact hf.fresh ht

/-- It does not matter in which order the names were taken. -/
theorem Defect.congr {taken' : List String} (ht : ∀ n, n ∈ taken ↔ n ∈ taken')
    (h : Defect taken role name p) : Defect taken' role name p := by
  cases h with
  | blank h => exact .blank h
  | nested h hs => exact .nested h hs
  | repeated h hs hm => exact .repeated h hs ((ht name).1 hm)

/-- What is told begins with the role of the file. -/
theorem Defect.message_eq (h : Defect taken role name p) :
    ∃ text, p.message = role.name ++ " file " ++ text := by
  cases h with
  | blank _ =>
    refine ⟨"name cannot be empty", ?_⟩
    have hw : " file name cannot be empty" = " file " ++ "name cannot be empty" := by decide
    rw [String.append_assoc, ← hw]
    rfl
  | nested _ _ =>
    refine ⟨"name must be a plain file name: '" ++ (name ++ "'"), ?_⟩
    have hw : " file name must be a plain file name: '" =
        " file " ++ "name must be a plain file name: '" := by decide
    show role.name ++ " file name must be a plain file name: '" ++ name ++ "'" = _
    rw [hw]
    simp only [String.append_assoc]
  | repeated _ _ _ =>
    refine ⟨"'" ++ (name ++ "' collides with another test file"), ?_⟩
    have hw : " file '" = " file " ++ "'" := by decide
    show role.name ++ " file '" ++ name ++ "' collides with another test file" = _
    rw [hw]
    simp only [String.append_assoc]

/-! ### All files -/

variable {f : File} {files before rest : List File}

theorem fileProblem?_cons_of_fits (h : Fits taken f.name) :
    fileProblem? taken (f :: rest) = fileProblem? (f.name :: taken) rest := by
  rw [fileProblem?, if_neg (mt Text.trim_eq_empty_iff.2 h.nonblank), if_neg h.plain,
    if_neg h.fresh]

theorem fileProblem?_cons_of_defect (h : Defect taken f.role f.name p) :
    fileProblem? taken (f :: rest) = some p := by
  rw [fileProblem?]
  cases h with
  | blank h => rw [if_pos (Text.trim_eq_empty_iff.1 h)]
  | nested h hs => rw [if_neg (mt Text.trim_eq_empty_iff.2 h), if_pos hs]
  | repeated h hs ht => rw [if_neg (mt Text.trim_eq_empty_iff.2 h), if_neg hs, if_pos ht]

/-- Every file has a plain name, which is not taken, and no two have the same. -/
structure Clear (taken : List String) (files : List File) : Prop where
  /-- No name is blank. -/
  nonblank : ∀ f ∈ files, Text.trim f.name ≠ ""
  /-- No name leads into another directory. -/
  plain : ∀ f ∈ files, '/' ∉ f.name.toList
  /-- No name was taken before. -/
  fresh : ∀ f ∈ files, f.name ∉ taken
  /-- No name occurs twice. -/
  distinct : (files.map File.name).Nodup

theorem clear_nil (taken : List String) : Clear taken [] :=
  ⟨by simp, by simp, by simp, by simp⟩

/-- The names are clear just if the first fits and the others are clear of it. -/
theorem clear_cons_iff :
    Clear taken (f :: rest) ↔ Fits taken f.name ∧ Clear (f.name :: taken) rest := by
  constructor
  · intro h
    obtain ⟨hd, hr⟩ := List.nodup_cons.1 h.distinct
    have hm := List.forall_mem_cons.1 h.fresh
    refine ⟨⟨(List.forall_mem_cons.1 h.nonblank).1, (List.forall_mem_cons.1 h.plain).1, hm.1⟩,
      (List.forall_mem_cons.1 h.nonblank).2, (List.forall_mem_cons.1 h.plain).2, ?_, hr⟩
    intro g hg hin
    rcases List.mem_cons.1 hin with he | hin
    · exact hd (List.mem_map.2 ⟨g, hg, he⟩)
    · exact hm.2 g hg hin
  · rintro ⟨hf, hc⟩
    refine ⟨List.forall_mem_cons.2 ⟨hf.nonblank, hc.nonblank⟩,
      List.forall_mem_cons.2 ⟨hf.plain, hc.plain⟩, List.forall_mem_cons.2 ⟨hf.fresh, ?_⟩,
      List.nodup_cons.2 ⟨?_, hc.distinct⟩⟩
    · exact fun g hg hin => hc.fresh g hg (List.mem_cons_of_mem _ hin)
    · intro hm
      obtain ⟨g, hg, he⟩ := List.mem_map.1 hm
      exact hc.fresh g hg (by simp [he])

/-- Where no name is taken yet, the names are clear if they are plain and no two are the same. -/
theorem clear_iff :
    Clear [] files ↔
      (∀ e ∈ files.map File.label, Text.trim e.2 ≠ "" ∧ '/' ∉ e.2.toList) ∧
        ((files.map File.label).map Prod.snd).Nodup := by
  rw [List.forall_mem_map, List.map_map]
  constructor
  · exact fun h => ⟨fun f hf => ⟨h.nonblank f hf, h.plain f hf⟩, h.distinct⟩
  · rintro ⟨h, hd⟩
    exact ⟨fun f hf => (h f hf).1, fun f hf => (h f hf).2, by simp, hd⟩

/-- Files that are clear leave no more behind than their names. -/
theorem fileProblem?_append (h : Clear taken before) :
    fileProblem? taken (before ++ rest) =
      fileProblem? ((before.map File.name).reverse ++ taken) rest := by
  induction before generalizing taken with
  | nil => rfl
  | cons f before ih =>
    obtain ⟨hf, hc⟩ := clear_cons_iff.1 h
    rw [List.cons_append, fileProblem?_cons_of_fits hf, ih hc]
    simp

/-- There is no problem just if the names are clear. -/
theorem fileProblem?_eq_none_iff : fileProblem? taken files = none ↔ Clear taken files := by
  induction files generalizing taken with
  | nil => exact iff_of_true rfl (clear_nil taken)
  | cons f rest ih =>
    rw [clear_cons_iff]
    rcases fits_or_defect taken f.role f.name with hf | ⟨p, hd⟩
    · rw [fileProblem?_cons_of_fits hf, ih, and_iff_right hf]
    · rw [fileProblem?_cons_of_defect hd]
      exact iff_of_false (by simp) fun h => hd.not_fits h.1

/-- A problem is that of the first file that does not fit after those before it. -/
theorem fileProblem?_eq_some_iff :
    fileProblem? taken files = some p ↔
      ∃ before f after, files = before ++ f :: after ∧ Clear taken before ∧
        Defect ((before.map File.name).reverse ++ taken) f.role f.name p := by
  constructor
  · intro h
    induction files generalizing taken with
    | nil => cases h
    | cons f rest ih =>
      rcases fits_or_defect taken f.role f.name with hf | ⟨q, hd⟩
      · rw [fileProblem?_cons_of_fits hf] at h
        obtain ⟨before, g, after, rfl, hc, hd⟩ := ih h
        exact ⟨f :: before, g, after, rfl, clear_cons_iff.2 ⟨hf, hc⟩, by simpa using hd⟩
      · rw [fileProblem?_cons_of_defect hd, Option.some.injEq] at h
        exact ⟨[], f, rest, rfl, clear_nil taken, h ▸ hd⟩
  · rintro ⟨before, f, after, rfl, hc, hd⟩
    rw [fileProblem?_append hc, fileProblem?_cons_of_defect hd]

/-- There is no problem with a spec just if the names of its files are plain and no two are the
same. -/
theorem problem?_eq_none_iff {s : Spec} :
    s.problem? = none ↔
      (∀ e ∈ s.fileNames, Text.trim e.2 ≠ "" ∧ '/' ∉ e.2.toList) ∧
        (s.fileNames.map Prod.snd).Nodup := by
  rw [problem?, fileProblem?_eq_none_iff, clear_iff, map_label_files]

/-- A problem with a spec is that of the first name that does not fit after those before it. -/
theorem problem?_eq_some_iff {s : Spec} :
    s.problem? = some p ↔
      ∃ before role name after, s.fileNames = before ++ (role, name) :: after ∧
        (∀ e ∈ before, Text.trim e.2 ≠ "" ∧ '/' ∉ e.2.toList) ∧ (before.map Prod.snd).Nodup ∧
        Defect (before.map Prod.snd) role name p := by
  rw [problem?, fileProblem?_eq_some_iff, ← map_label_files]
  have hnames : ∀ before : List File, ∀ n,
      n ∈ (before.map File.name).reverse ++ [] ↔ n ∈ (before.map File.label).map Prod.snd := by
    intro before n
    rw [List.append_nil, List.mem_reverse, List.map_map]
    rfl
  constructor
  · rintro ⟨before, f, after, hf, hc, hd⟩
    obtain ⟨hplain, hdistinct⟩ := clear_iff.1 hc
    exact ⟨before.map File.label, f.role, f.name, after.map File.label, by rw [hf]; simp; rfl,
      hplain, hdistinct, hd.congr (hnames before)⟩
  · rintro ⟨_, role, name, _, hf, hplain, hdistinct, hd⟩
    obtain ⟨before, rest, hfiles, rfl, hr⟩ := List.map_eq_append_iff.1 hf
    obtain ⟨f, after, rfl, hl, -⟩ := List.map_eq_cons_iff.1 hr
    cases hl
    exact ⟨before, f, after, hfiles, clear_iff.2 ⟨hplain, hdistinct⟩,
      hd.congr fun n => (hnames before n).symm⟩

end Spec

/-! ### Tests -/

namespace Test

/-- The name of a Test, empty if it has none. -/
def ownName (t : Test) : String := t.metadata.name.getD ""

variable {t : Test} {f : Fault} {p : Problem}

theorem problem?_of_lt (h : 63 < t.ownName.utf8ByteSize) : t.problem? = some .nameTooLong :=
  if_pos h

theorem problem?_of_le (h : t.ownName.utf8ByteSize ≤ 63) : t.problem? = t.spec.problem? :=
  if_neg (Nat.not_lt.2 h)

theorem check_eq_ok_iff : t.check = .ok () ↔ t.problem? = none := by
  rw [check]
  cases t.problem? <;> simp

theorem check_eq_error_iff :
    t.check = .error f ↔ ∃ p, f = .invalid t.ownName p ∧ t.problem? = some p := by
  rw [check]
  cases t.problem? with
  | none => simp
  | some p => simp [ownName, eq_comm]

theorem problem?_eq_none_iff :
    t.problem? = none ↔ t.ownName.utf8ByteSize ≤ 63 ∧ t.spec.problem? = none := by
  rcases Nat.lt_or_ge 63 t.ownName.utf8ByteSize with h | h
  · simp [problem?_of_lt h, Nat.not_le.2 h]
  · rw [problem?_of_le h, and_iff_right h]

/-- A name that is too long is told before anything else. -/
theorem problem?_eq_some_iff :
    t.problem? = some p ↔
      63 < t.ownName.utf8ByteSize ∧ p = .nameTooLong ∨
        t.ownName.utf8ByteSize ≤ 63 ∧ t.spec.problem? = some p := by
  rcases Nat.lt_or_ge 63 t.ownName.utf8ByteSize with h | h
  · simp [problem?_of_lt h, h, Nat.not_le.2 h, eq_comm]
  · simp [problem?_of_le h, h, Nat.not_lt.2 h]

/-- Whether a Test is valid is up to its name and its spec. -/
theorem check_congr {t₁ t₂ : Test} (hn : t₁.metadata.name = t₂.metadata.name)
    (hs : t₁.spec = t₂.spec) : t₁.check = t₂.check := by
  rw [check, check, problem?, problem?, hn, hs]

/-- A Test is valid just if its name is not too long, the names of its files are plain, and no two
files have the same name. Else a name that is too long is told before anything else; and if it is
not, what is told is what is wrong with the first file that does not fit after those before it, in
words that name the Test and what the file is there for. -/
theorem check_verdict (t : Test) :
    (t.check = .ok () ↔
      t.ownName.utf8ByteSize ≤ 63 ∧
        (∀ e ∈ t.spec.fileNames, Text.trim e.2 ≠ "" ∧ '/' ∉ e.2.toList) ∧
        (t.spec.fileNames.map Prod.snd).Nodup) ∧
    ∀ f, t.check = .error f ↔ ∃ p, f = .invalid t.ownName p ∧ f.kind = "validation" ∧
      f.message = "validation error for " ++ t.ownName ++ ": " ++ p.message ∧
      (63 < t.ownName.utf8ByteSize ∧ p = .nameTooLong ∨
        t.ownName.utf8ByteSize ≤ 63 ∧ ∃ before role name after,
          t.spec.fileNames = before ++ (role, name) :: after ∧
          (∀ e ∈ before, Text.trim e.2 ≠ "" ∧ '/' ∉ e.2.toList) ∧
          (before.map Prod.snd).Nodup ∧
          Spec.Defect (before.map Prod.snd) role name p ∧
          ∃ text, p.message = role.name ++ " file " ++ text) := by
  refine ⟨?_, fun f => ?_⟩
  · rw [check_eq_ok_iff, problem?_eq_none_iff, Spec.problem?_eq_none_iff]
  · rw [check_eq_error_iff]
    simp only [problem?_eq_some_iff, Spec.problem?_eq_some_iff]
    constructor
    · rintro ⟨p, rfl, h⟩
      refine ⟨p, rfl, rfl, rfl, h.imp_right fun ⟨hl, before, role, name, after, h⟩ => ?_⟩
      obtain ⟨hf, hplain, hdistinct, hd⟩ := h
      exact ⟨hl, before, role, name, after, hf, hplain, hdistinct, hd, hd.message_eq⟩
    · rintro ⟨p, rfl, -, -, h⟩
      refine ⟨p, rfl, h.imp_right fun ⟨hl, before, role, name, after, h⟩ => ?_⟩
      obtain ⟨hf, hplain, hdistinct, hd, -⟩ := h
      exact ⟨hl, before, role, name, after, hf, hplain, hdistinct, hd⟩

/-- Blanks around the name of the settings do not keep it from being the name of the source. -/
example :
    check
      { metadata := { name := some "hello" }
        spec :=
          { source := { name := "hello.feature" }
            settings := some { name := some " hello.feature " } } } =
      .error (.invalid "hello" (.collision .settings "hello.feature")) := rfl

end Test

end Proctor

import Proctor.Proofs.Json.Likeness
import Proctor.Proofs.Test.SpecCodec

/-!
# The forms of a spec, a status and a report

Which objects say the same to the reader of a spec, a status or a report: the fields may stand in
any order and among others, what is unset may be left out or `null`, and what has a value of its own
when it is absent may be left out or given. None of the readers tells these forms apart
(`Spec.fits`, `Status.fits`, `Report.fits`), so what was written is read back from each of them.
-/

namespace Proctor

open Json (Fits fits_eq)
open Json.Likeness (Field)

/-- The forms of a source. -/
def Source.like : Json.Likeness :=
  .record [.required "name", .orDefault "content" (.str ""),
    .orDefault "language" (.str Language.feature.wire)]

/-- The forms of settings. -/
def Settings.like : Json.Likeness :=
  .record [.optional "name", .orDefault "content" (.str "")]

/-- The forms of a further file. -/
def Resource.like : Json.Likeness :=
  .record [.required "name", .orDefault "content" (.str "")]

/-- The forms of a spec. -/
def Spec.like : Json.Likeness :=
  .record [.required "source" Source.like, .optional "settings" Settings.like,
    .orDefault "env" (.arr []), .orDefault "resources" (.arr []) (.list Resource.like),
    .optional "secret"]

/-- The forms of the counts. -/
def Summary.like : Json.Likeness :=
  .record [.orDefault "total" (.int 0), .orDefault "passed" (.int 0), .orDefault "failed" (.int 0),
    .orDefault "skipped" (.int 0), .orDefault "pending" (.int 0), .orDefault "undefined" (.int 0),
    .orDefault "errors" (.int 0)]

/-- The forms of how a scenario fared. -/
def ScenarioResult.like : Json.Likeness :=
  .record [.required "name", .optional "className", .optional "errorType",
    .optional "errorMessage"]

/-- The forms of a report. -/
def Report.like : Json.Likeness :=
  .record [.orDefault "summary" (Summary.toJson {}) Summary.like,
    .orDefault "tests" (.arr []) (.list ScenarioResult.like)]

/-- The forms of a status. -/
def Status.like : Json.Likeness :=
  .record [.orDefault "phase" (.str ""), .optional "testID", .optional "digest",
    .optional "version", .optional "results" Report.like, .orDefault "errors" (.arr []),
    .optional "startedAt", .optional "completedAt"]

theorem fits_text : Fits Eq Json.str? := fits_eq _

theorem Source.fits : Fits like read? :=
  .record rfl fun f g h => by
    simp only [List.forall_mem_cons] at h
    obtain ⟨hname, hcontent, hlanguage, -⟩ := h
    rw [fits_text.required hname, fits_text.orDefault rfl hcontent,
      (fits_eq Language.read?).orDefault rfl hlanguage]

theorem Settings.fits : Fits like read? :=
  .record rfl fun f g h => by
    simp only [List.forall_mem_cons] at h
    obtain ⟨hname, hcontent, -⟩ := h
    rw [fits_text.optional hname, fits_text.orDefault rfl hcontent]

theorem Resource.fits : Fits like read? :=
  .record rfl fun f g h => by
    simp only [List.forall_mem_cons] at h
    obtain ⟨hname, hcontent, -⟩ := h
    rw [fits_text.required hname, fits_text.orDefault rfl hcontent]

theorem Spec.fits : Fits like read? :=
  .record rfl fun f g h => by
    simp only [List.forall_mem_cons] at h
    obtain ⟨hsource, hsettings, henv, hresources, hsecret, -⟩ := h
    rw [Source.fits.required hsource, Settings.fits.optional hsettings,
      (fits_eq (Json.list? Json.str?)).orEmpty henv,
      Resource.fits.list.orEmpty hresources, fits_text.optional hsecret]

theorem Summary.fits : Fits like read? :=
  .record rfl fun f g h => by
    simp only [List.forall_mem_cons] at h
    obtain ⟨htotal, hpassed, hfailed, hskipped, hpending, hundefined, herrors, -⟩ := h
    have hcount : ∀ {name : String}, (Field.orDefault name (.int 0)).Shared f g →
        Json.orDefault 0 Json.word32? (f name) = Json.orDefault 0 Json.word32? (g name) :=
      fun hfg => (fits_eq Json.word32?).orDefault rfl hfg
    simp only [hcount htotal, hcount hpassed, hcount hfailed, hcount hskipped, hcount hpending,
      hcount hundefined, hcount herrors]

theorem ScenarioResult.fits : Fits like read? :=
  .record rfl fun f g h => by
    simp only [List.forall_mem_cons] at h
    obtain ⟨hname, hclass, htype, hmessage, -⟩ := h
    rw [fits_text.required hname, fits_text.optional hclass, fits_text.optional htype,
      fits_text.optional hmessage]

theorem Report.fits : Fits like read? :=
  .record rfl fun f g h => by
    simp only [List.forall_mem_cons] at h
    obtain ⟨hsummary, htests, -⟩ := h
    rw [Summary.fits.orDefault (Summary.read?_toJson {}) hsummary,
      ScenarioResult.fits.list.orEmpty htests]

theorem Status.fits : Fits like read? :=
  .record rfl fun f g h => by
    simp only [List.forall_mem_cons] at h
    obtain ⟨hphase, hid, hdigest, hversion, hresults, herrors, hstarted, hcompleted, -⟩ := h
    rw [(fits_eq Phase.read?).orDefault rfl hphase, fits_text.optional hid,
      fits_text.optional hdigest, fits_text.optional hversion, Report.fits.optional hresults,
      (fits_eq (Json.list? Json.str?)).orEmpty herrors,
      (fits_eq Instant.readJson?).optional hstarted,
      (fits_eq Instant.readJson?).optional hcompleted]

/-- A report is read back from each of its forms. -/
theorem Report.read?_of_like {r : Report} {j : Json} (h : like r.toJson j) : read? j = some r := by
  rw [← fits.read_eq h, read?_toJson]

end Proctor

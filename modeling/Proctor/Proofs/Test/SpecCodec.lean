import Proctor.Proofs.Test.StatusCodec

/-!
# A spec is read back from its object

What is unset or empty is left out of the object of a spec, and reading fills it in again; an unset
text and an empty one stay apart, as only the unset one is left out.
-/

namespace Proctor

open Json

theorem Language.read?_wire (l : Language) : Language.read? (.str l.wire) = some l := by
  cases l <;> rfl

theorem Source.read?_toJson (s : Source) : Source.read? s.toJson = some s := by
  rw [Source.read?, Source.toJson, record?_of_nodup (by simp)]
  simp [List.lookup_cons, Language.read?_wire]

theorem Settings.read?_toJson (s : Settings) : Settings.read? s.toJson = some s := by
  rw [Settings.read?, Settings.toJson, record?_ofFields (by simp)]
  simp [List.lookup_cons, optional_text]

theorem Resource.read?_toJson (r : Resource) : Resource.read? r.toJson = some r := by
  rw [Resource.read?, Resource.toJson, record?_of_nodup (by simp)]
  simp [List.lookup_cons]

/-- A spec is read back from its object. -/
theorem Spec.read?_toJson (s : Spec) : Spec.read? s.toJson = some s := by
  have hsettings : optional Settings.read? (s.settings.map Settings.toJson) = some s.settings :=
    optional_map (fun _ => rfl) Settings.read?_toJson s.settings
  have hresources : orDefault [] (list? Resource.read?) (nonempty? Resource.toJson s.resources) =
      some s.resources := orDefault_nonempty? Resource.read?_toJson s.resources
  rw [Spec.read?, Spec.toJson, record?_ofFields (by simp)]
  simp [List.lookup_cons, Source.read?_toJson, hsettings, orDefault_texts, hresources,
    optional_text]

end Proctor

import Proctor.Cluster.Store
import Proctor.Lifecycle.Steps
import Proctor.Proofs.Workload.Files

/-!
# The objects of different generations

The name of the objects of a generation is the name of its Test and its id, joined by a dash, and
both may have dashes themselves. So names are told apart by the length of the ids: among ids of one
length, no two generations have the same name (`generationName_inj`), and what is applied for one of
them is kept at a place where no other one has anything.
-/

namespace Proctor

/-! ### Names -/

/-- Which generation an object belongs to: that of a Test of a namespace, with an id. -/
structure GenerationKey where
  /-- The namespace. -/
  namespaceName : String
  /-- The name of the Test. -/
  test : String
  /-- The id. -/
  id : String
  deriving DecidableEq

/-- Where the objects of a generation are kept. -/
def GenerationKey.place (k : GenerationKey) : Place :=
  ⟨k.namespaceName, generationName k.test k.id⟩

/-- Ids of one length cannot trade characters with the names before them. -/
theorem generationName_inj {test test' id id' : String} (hl : id.length = id'.length) :
    generationName test id = generationName test' id' ↔ test = test' ∧ id = id' := by
  constructor
  · intro h
    have hchars := congrArg String.toList h
    simp only [generationName, String.toList_append] at hchars
    have hlen : id.toList.length = id'.toList.length := by
      rw [String.length_toList, String.length_toList, hl]
    obtain ⟨hfront, hid⟩ := List.append_inj' hchars hlen
    obtain ⟨hfront, -⟩ := List.append_inj' hfront rfl
    obtain ⟨-, htest⟩ := List.append_inj hfront rfl
    exact ⟨String.toList_inj.1 htest, String.toList_inj.1 hid⟩
  · rintro ⟨rfl, rfl⟩
    rfl

theorem GenerationKey.place_inj {k k' : GenerationKey} (hl : k.id.length = k'.id.length) :
    k.place = k'.place ↔ k = k' := by
  obtain ⟨namespaceName, test, id⟩ := k
  obtain ⟨namespaceName', test', id'⟩ := k'
  simp only [place, Place.mk.injEq, GenerationKey.mk.injEq]
  rw [generationName_inj hl]

theorem get?_workloadLabels (test id key : String) :
    (workloadLabels test id).get? key =
      if key = Label.testId then some id else if key = Label.test then some test
      else if key = Label.app then some Label.appValue else none := by
  show (((StringMap.empty.insert _ _).insert _ _).insert _ _).get? key = _
  simp only [StringMap.get?_insert]
  rfl

theorem Workload.place_metadata (t : Test) (namespaceName id : String) (owner : OwnerReference) :
    (metadata t namespaceName id owner).place =
      GenerationKey.place ⟨namespaceName, t.nameAny, id⟩ := rfl

/-- An object that a start applies is one of the viewer identity, or it is called as the objects of
the generation of its Test. -/
theorem Workload.metadata_of_mem_manifests {t : Test} {config : Config} {w : Workload}
    {namespaceName : String} {m : Manifest} (hn : t.metadata.namespaceName = some namespaceName)
    (hw : t.workload config = .ok w) (hm : m ∈ w.manifests namespaceName) :
    m ∈ [.serviceAccount (Viewer.serviceAccount namespaceName),
        .role (Viewer.role namespaceName), .roleBinding (Viewer.roleBinding namespaceName)] ∨
      (m = .configMap w.configMap ∨ m = .pod w.pod) ∧ ∃ id owner, t.testId? = some id ∧
        t.ownerReference? = some owner ∧ m.metadata = metadata t namespaceName id owner := by
  obtain ⟨-, n, id, owner, hn', hi, ho, rfl⟩ := Test.workload_eq_ok_iff.1 hw
  obtain rfl : namespaceName = n := Option.some.inj (hn.symm.trans hn')
  simp only [manifests, List.mem_cons, List.not_mem_nil, or_false] at hm
  rcases hm with rfl | rfl | rfl | rfl | rfl
  · exact Or.inl (by simp)
  · exact Or.inl (by simp)
  · exact Or.inl (by simp)
  · exact Or.inr ⟨Or.inl rfl, id, owner, hi, ho, rfl⟩
  · exact Or.inr ⟨Or.inr rfl, id, owner, hi, ho, rfl⟩

/-! ### Objects at other places -/

/-- An object of a generation, and none of the viewer identity. -/
def Manifest.isWorkload : Manifest → Bool
  | .configMap _ | .pod _ => true
  | .serviceAccount _ | .role _ | .roleBinding _ => false

end Proctor

import FlowCanvas.Editor.Plan
import FlowCanvas.Proofs.Text.Separator

/-!
# Handles

A node that is added gets an id of two parts with one dash between them, the name of a category and
a token, and neither part holds a dash. So the id of an edge, which is made of the ids of its ends
with dashes between them, tells both ends (`edgeId_injective`). With ids of any other shape it would
not.
-/

namespace FlowCanvas

universe u

namespace Graph

open Text

/-! ### Ids of nodes -/

/-- Eight hexadecimal digits. -/
def isToken (t : String) : Bool :=
  t.toList.length == 8 && t.toList.all fun c => (hexValue? c).isSome

/-- An id as a new node gets it: the name of a category and eight hexadecimal digits. -/
def IsGenerated (id : String) : Prop := ∃ c t, isToken t = true ∧ id = newId c t

/-- What follows the name of a category and a dash. -/
def tokenBehind (c : Category) (id : String) : String :=
  String.ofList (id.toList.drop (c.name.toList.length + 1))

@[simp] theorem tokenBehind_newId (c : Category) (t : String) : tokenBehind c (newId c t) = t := by
  simp [tokenBehind, newId]

theorem isGenerated_iff {id : String} :
    IsGenerated id ↔
      ∃ c ∈ Category.all, isToken (tokenBehind c id) = true ∧ id = newId c (tokenBehind c id) := by
  constructor
  · rintro ⟨c, t, ht, rfl⟩
    refine ⟨c, by cases c <;> decide, ?_⟩
    rw [tokenBehind_newId]
    exact ⟨ht, rfl⟩
  · rintro ⟨c, -, h⟩
    exact ⟨c, _, h⟩

instance : DecidablePred IsGenerated := fun _ => decidable_of_iff _ isGenerated_iff.symm

/-- Two parts with a dash between them, and none inside of them. -/
def OneDash (id : String) : Prop :=
  ∃ a b : List Char, '-' ∉ a ∧ '-' ∉ b ∧ id.toList = a ++ '-' :: b

theorem dash_not_mem_name (c : Category) : '-' ∉ c.name.toList := by
  cases c <;> decide

theorem dash_not_mem_token {t : String} (h : isToken t = true) : '-' ∉ t.toList := by
  intro hmem
  simp only [isToken, Bool.and_eq_true, List.all_eq_true] at h
  exact absurd (h.2 '-' hmem) (by decide)

theorem IsGenerated.oneDash {id : String} (h : IsGenerated id) : OneDash id := by
  obtain ⟨c, t, ht, rfl⟩ := h
  refine ⟨c.name.toList, t.toList, dash_not_mem_name c, dash_not_mem_token ht, ?_⟩
  simp [newId]

/-- The id of the START that is there from the beginning. -/
theorem oneDash_initial : OneDash "start-1" :=
  ⟨"start".toList, ['1'], by decide, by decide, by decide⟩

theorem OneDash.ne_empty {id : String} (h : OneDash id) : id ≠ "" := by
  rintro rfl
  obtain ⟨a, b, -, -, parts⟩ := h
  cases a <;> cases parts

/-! ### Ids of edges -/

/-- The id of a new edge. -/
def edgeId (source target : String) : String := "edge-" ++ source ++ "-" ++ target

@[simp] theorem newEdge_id {α : Type u} (source target : String) :
    (newEdge source target : Edge α).id = edgeId source target := rfl

theorem edgeId_ne_empty (source target : String) : edgeId source target ≠ "" := by
  intro empty
  have characters := congrArg String.toList empty
  simp [edgeId] at characters

/-- **The id of an edge tells its ends**, if the ids of nodes have one dash. -/
theorem edgeId_injective {s s' t t' : String} (hs : OneDash s) (hs' : OneDash s')
    (h : edgeId s t = edgeId s' t') : s = s' ∧ t = t' := by
  obtain ⟨a, b, ha, hb, hab⟩ := hs
  obtain ⟨a', b', ha', hb', hab'⟩ := hs'
  have hlist : a ++ '-' :: (b ++ '-' :: t.toList) = a' ++ '-' :: (b' ++ '-' :: t'.toList) := by
    have hchars := congrArg String.toList h
    simpa [edgeId, hab, hab'] using hchars
  obtain ⟨rfl, hrest⟩ := append_cons_inj ha ha' hlist
  obtain ⟨rfl, htarget⟩ := append_cons_inj hb hb' hrest
  exact ⟨String.toList_injective (hab.trans hab'.symm), String.toList_injective htarget⟩

/-- An id with a second dash in it lets two pairs of ends share the id of their edge. -/
example : edgeId "a-b" "c" = edgeId "a" "b-c" := by decide

end Graph

end FlowCanvas

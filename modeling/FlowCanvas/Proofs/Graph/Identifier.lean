import FlowCanvas.Graph.Identifier
import Mathlib.Data.List.Nodup

/-!
# Identifiers are free names

A minted identifier is a name that code can hold (`isName_ofLabel`) and that nobody has
(`unique_not_mem`). The second fact is the pigeonhole behind the bounded search: the candidates with
numbers behind them are pairwise different, so one more of them than there are taken names cannot
all be taken.
-/

namespace FlowCanvas

universe u

namespace Identifier

open Text

/-! ### Numbered candidates -/

theorem decimal_injective : Function.Injective decimal := by
  intro m n h
  have hvalue := congrArg (Nat.ofDigitChars 10 · 0) h
  simpa only [decimal, Nat.ofDigitChars_ten_toDigits] using hvalue

theorem numbered_injective (base : String) : Function.Injective (numbered base) := by
  intro m n h
  have hdigits : String.ofList (decimal m) = String.ofList (decimal n) := by
    simpa only [numbered, String.append_right_inj] using h
  exact decimal_injective (String.ofList_injective hdigits)

/-- A search gives the first candidate that is not taken, or else the one that its fuel ends at. -/
theorem firstFree_spec (taken : List String) (base : String) :
    ∀ fuel k, ∃ j, k ≤ j ∧ j ≤ k + fuel ∧ firstFree taken base fuel k = numbered base j ∧
      (∀ i, k ≤ i → i < j → numbered base i ∈ taken) ∧
      (j < k + fuel → numbered base j ∉ taken) := by
  intro fuel
  induction fuel with
  | zero =>
    intro k
    exact ⟨k, Nat.le_refl k, Nat.le_refl k, rfl, fun i hi hlt => absurd hlt (by omega),
      fun hlt => absurd hlt (by omega)⟩
  | succ fuel ih =>
    intro k
    by_cases hk : numbered base k ∈ taken
    · obtain ⟨j, hkj, hj, hval, hbefore, hfree⟩ := ih (k + 1)
      refine ⟨j, by omega, by omega, ?_, ?_, fun hlt => hfree (by omega)⟩
      · rw [firstFree, if_pos (by simpa using hk)]
        exact hval
      · intro i hi hij
        rcases Nat.eq_or_lt_of_le hi with rfl | hlt
        · exact hk
        · exact hbefore i hlt hij
    · -- the search ends here, with fuel to spare
      refine ⟨k, Nat.le_refl k, by omega, ?_, fun i hi hlt => absurd hlt (by omega), fun _ => hk⟩
      rw [firstFree, if_neg (by simpa using hk)]

/-- **Pigeonhole**: among one more candidates than there are taken names, one is free. -/
theorem exists_numbered_not_mem (taken : List String) (base : String) :
    ∃ i, 1 ≤ i ∧ i ≤ 1 + taken.length ∧ numbered base i ∉ taken := by
  by_contra hall
  have hsub : (List.range' 1 (taken.length + 1)).map (numbered base) ⊆ taken := by
    intro x hx
    obtain ⟨i, hi, rfl⟩ := List.mem_map.mp hx
    obtain ⟨hlow, hhigh⟩ := List.mem_range'_1.mp hi
    by_contra hfree
    exact hall ⟨i, hlow, by omega, hfree⟩
  have hnodup : ((List.range' 1 (taken.length + 1)).map (numbered base)).Nodup :=
    List.Nodup.map (numbered_injective base) (List.nodup_range' 1)
  have hlen := hnodup.length_le_of_subset hsub
  rw [List.length_map, List.length_range'] at hlen
  omega

theorem firstFree_not_mem (taken : List String) (base : String) :
    firstFree taken base taken.length 1 ∉ taken := by
  obtain ⟨j, -, hj, hval, hbefore, hfree⟩ := firstFree_spec taken base taken.length 1
  rw [hval]
  rcases Nat.eq_or_lt_of_le hj with hend | hlt
  · -- the fuel ran out, so all candidates before the last one are taken
    obtain ⟨i, hi, hle, hnot⟩ := exists_numbered_not_mem taken base
    rcases Nat.lt_or_ge i j with hij | hji
    · exact absurd (hbefore i hi hij) hnot
    · obtain rfl : i = j := by omega
      exact hnot
  · exact hfree hlt

/-- **A minted name is free.** -/
theorem unique_not_mem (taken : List String) (base : String) : unique taken base ∉ taken := by
  unfold unique
  split
  · exact firstFree_not_mem taken base
  · next h => simpa using h

/-! ### Names that code can hold -/

theorem isName_iff {s : String} : isName s = true ↔ s ≠ "" ∧ ∀ c ∈ s.toList, isSafe c = true := by
  simp [isName]

theorem isName_ofList {s : List Char} (hne : s ≠ []) (hs : ∀ c ∈ s, isSafe c = true) :
    isName (String.ofList s) = true := by
  rw [isName_iff]
  refine ⟨?_, by simpa using hs⟩
  intro h
  exact hne (by simpa using congrArg String.toList h)

theorem isSafe_of_isAlphanumeric {c : Char} (h : isAlphanumeric c = true) : isSafe c = true := by
  simp [isSafe, h]

theorem isSafe_of_mem_decimal {n : Nat} {c : Char} (h : c ∈ decimal n) : isSafe c = true := by
  have hdigit : c.isDigit = true := Nat.isDigit_of_mem_toDigits (by decide) (by decide) h
  refine isSafe_of_isAlphanumeric ?_
  simp only [Char.isDigit, Bool.and_eq_true, decide_eq_true_eq, ge_iff_le] at hdigit
  obtain ⟨hlow, hhigh⟩ := hdigit
  have hlow' : 48 ≤ c.toNat := hlow
  have hhigh' : c.toNat ≤ 57 := hhigh
  simp [isAlphanumeric, hlow', hhigh']

theorem isName_base (label : String) : isName (base label) = true := by
  unfold base
  simp only
  split
  · next h => exact isName_ofList h fun c hc => (List.mem_filter.mp hc).2
  · split
    · next h =>
      refine isName_ofList h fun c hc => isSafe_of_isAlphanumeric ?_
      exact (List.mem_filter.mp (List.mem_of_mem_take hc)).2
    · decide

/-- The name of a graph is always a name. -/
theorem isName_ofGraphName (raw : String) : isName (ofGraphName raw) = true := by
  rw [ofGraphName]
  split
  · decide
  · next h => exact isName_ofList h fun c hc => (List.mem_filter.mp hc).2

theorem isName_numbered {base : String} (h : isName base = true) (k : Nat) :
    isName (numbered base k) = true := by
  obtain ⟨hne, hsafe⟩ := isName_iff.mp h
  refine isName_iff.mpr ⟨by simp [numbered, hne], fun c hc => ?_⟩
  simp only [numbered, String.toList_append, String.toList_ofList, List.mem_append] at hc
  rcases hc with (hc | hc) | hc
  · exact hsafe c hc
  · obtain rfl : c = '_' := by simpa using hc
    decide
  · exact isSafe_of_mem_decimal hc

theorem isName_unique {base : String} (h : isName base = true) (taken : List String) :
    isName (unique taken base) = true := by
  unfold unique
  split
  · obtain ⟨j, -, -, hval, -⟩ := firstFree_spec taken base taken.length 1
    rw [hval]
    exact isName_numbered h j
  · exact h

/-! ### Identifiers of nodes -/

variable {α : Type u}

theorem reserved_subset_taken (nodes : List (Node α)) (except : Option String) :
    reserved ⊆ taken nodes except :=
  List.subset_append_left _ _

theorem mem_taken {nodes : List (Node α)} {except : Option String} {n : Node α}
    (hn : n ∈ nodes) (hne : except ≠ some n.id) : n.identifier ∈ taken nodes except := by
  refine List.mem_append_right _ (List.mem_map_of_mem ?_)
  exact List.mem_filter.mpr ⟨hn, by simpa using hne⟩

/-- The identifier for a label of a category that has no fixed name. -/
theorem ofLabel_of_fixed?_none {label : String} {nodes : List (Node α)} {except : Option String}
    {category : Option Category} (h : category.bind fixed? = none) :
    ofLabel label nodes except category = unique (taken nodes except) (base label) := by
  rw [ofLabel, h]

theorem isName_ofLabel (label : String) (nodes : List (Node α)) (except : Option String)
    (category : Option Category) : isName (ofLabel label nodes except category) = true := by
  unfold ofLabel
  split
  · next name h =>
    rcases category with - | c
    · cases h
    · cases c <;> simp only [Option.bind_some, fixed?, Option.some.injEq, reduceCtorEq] at h <;>
        subst h <;> decide
  · exact isName_unique (isName_base label) _

end Identifier

/-! ### Nodes that are told apart -/

/-- The nodes of a graph are told apart: by ids and by identifiers, which are names, and there is at
most one START and at most one END. -/
structure Graph.Distinct {α : Type u} (g : Graph α) : Prop where
  /-- no two nodes have one id -/
  ids_nodup : (g.nodes.map Node.id).Nodup
  /-- no two nodes have one identifier -/
  identifiers_nodup : (g.nodes.map Node.identifier).Nodup
  /-- identifiers are names that code can hold -/
  isName_identifier : ∀ n ∈ g.nodes, Identifier.isName n.identifier = true
  /-- there is at most one START -/
  start_unique : (g.nodes.filter fun n => n.category = .start).length ≤ 1
  /-- there is at most one END -/
  stop_unique : (g.nodes.filter fun n => n.category = .stop).length ≤ 1

end FlowCanvas

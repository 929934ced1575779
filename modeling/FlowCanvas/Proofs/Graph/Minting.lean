import FlowCanvas.Number.Basic
import FlowCanvas.Proofs.Graph.Identifier
import Mathlib.Data.List.TakeWhile

/-!
# Which identifier a label gets

What a label is cleaned to is the label without blanks at its ends, with an underscore for each run
of blanks, and without all that is not safe. That is the base name, unless nothing is left, and then
it is `node` (`Identifier.base_eq`): a letter or a digit is safe and not blank, so it is never lost
on the way, and where nothing is left there are no letters and digits to fall back on.

An identifier is the base name where that is free, and the base name with the least number behind it
that is free where it is not (`Identifier.ofLabel_spec`). A name is its own base name, so an
identifier that is free stays as it is when it is taken for a label (`Identifier.ofLabel_eq_self`).
-/

namespace FlowCanvas

universe u

namespace Text

/-! ### Blanks -/

theorem mem_dropWhile {p : Char → Bool} {s : List Char} {c : Char} (hc : c ∈ s)
    (stays : p c = false) : c ∈ s.dropWhile p := by
  rw [← s.takeWhile_append_dropWhile (p := p), List.mem_append] at hc
  obtain front | back := hc
  · rw [List.mem_takeWhile_imp front] at stays
    cases stays
  · exact back

/-- Trimming drops blanks only. -/
theorem mem_trim {s : List Char} {c : Char} (hc : c ∈ s) (h : isBlank c = false) : c ∈ trim s := by
  rw [trim, List.mem_reverse]
  exact mem_dropWhile (List.mem_reverse.mpr (mem_dropWhile hc h)) h

/-- Squeezing drops what is squeezed only. -/
theorem mem_squeeze {p : Char → Bool} {mark : Char} {s : List Char} {c : Char} (hc : c ∈ s)
    (stays : p c = false) : c ∈ squeeze p mark s := by
  fun_induction squeeze p mark s <;> grind

theorem trim_eq_self {s : List Char} (h : ∀ c ∈ s, isBlank c = false) : trim s = s := by
  have ends : ∀ t : List Char, (∀ c ∈ t, isBlank c = false) → t.dropWhile isBlank = t := by
    intro t ht
    rw [List.dropWhile_eq_self_iff]
    intro _
    simpa using ht _ (List.getElem_mem _)
  rw [trim, ends s h, ends s.reverse fun c hc => h c (List.mem_reverse.mp hc), List.reverse_reverse]

theorem squeeze_cons_of_not {p : Char → Bool} {mark c : Char} (stays : p c = false)
    (rest : List Char) : squeeze p mark (c :: rest) = c :: squeeze p mark rest := by
  rw [squeeze.eq_def]
  exact if_neg (by simp [stays])

theorem squeeze_eq_self {p : Char → Bool} {mark : Char} {s : List Char}
    (h : ∀ c ∈ s, p c = false) : squeeze p mark s = s := by
  induction s with
  | nil => rfl
  | cons c rest ih =>
    obtain ⟨hc, hrest⟩ := List.forall_mem_cons.mp h
    rw [squeeze_cons_of_not hc, ih hrest]

end Text

namespace Identifier

open Text

theorem isBlank_of_isSafe {c : Char} (h : isSafe c = true) : isBlank c = false := by
  have range : c.toNat = 95 ∨ (48 ≤ c.toNat ∧ c.toNat ≤ 57) ∨ (65 ≤ c.toNat ∧ c.toNat ≤ 90) ∨
      (97 ≤ c.toNat ∧ c.toNat ≤ 122) := by
    simp only [isSafe, isAlphanumeric, Bool.or_eq_true, decide_eq_true_eq, beq_iff_eq] at h
    obtain ((h | h) | h) | rfl := h
    · exact .inr (.inl h)
    · exact .inr (.inr (.inl h))
    · exact .inr (.inr (.inr h))
    · exact .inl rfl
  simp only [isBlank, inRanges, blankRanges, List.any_cons, List.any_nil, Bool.or_eq_false_iff,
    Bool.and_eq_false_iff, decide_eq_false_iff_not, and_true]
  omega

/-! ### Base names -/

/-- A label without blanks at its ends, with an underscore for each run of blanks, and without what
is not safe. -/
def cleaned (label : String) : String :=
  String.ofList ((squeeze isBlank '_' (trim label.toList)).filter isSafe)

/-- A letter or a digit is never lost. -/
theorem mem_cleaned {label : String} {c : Char} (hc : c ∈ label.toList)
    (h : isAlphanumeric c = true) : c ∈ (cleaned label).toList := by
  have safe : isSafe c = true := isSafe_of_isAlphanumeric h
  have solid : isBlank c = false := isBlank_of_isSafe safe
  rw [cleaned, String.toList_ofList]
  exact List.mem_filter.mpr ⟨mem_squeeze (mem_trim hc solid) solid, safe⟩

/-- **The base name is what a label is cleaned to**, or `node` if nothing is left of it. -/
theorem base_eq (label : String) :
    base label = if cleaned label = "" then fallback else cleaned label := by
  have empty : cleaned label = "" ↔
      (squeeze isBlank '_' (trim label.toList)).filter isSafe = [] := String.ofList_eq_empty_iff
  unfold base
  simp only
  by_cases left : cleaned label = ""
  · -- with nothing left there are no letters to fall back on
    have letters : label.toList.filter isAlphanumeric = [] := by
      refine List.filter_eq_nil_iff.mpr fun c hc h => ?_
      have kept := mem_cleaned hc h
      rw [left] at kept
      cases kept
    rw [if_pos left, if_neg (not_not_intro (empty.mp left)), letters]
    rfl
  · rw [if_neg left, if_pos (mt empty.mpr left)]
    rfl

theorem base_eq_fallback_iff (label : String) :
    base label = fallback ↔ cleaned label = "" ∨ cleaned label = fallback := by
  rw [base_eq]
  split
  · next left => exact iff_of_true rfl (.inl left)
  · next left => exact ⟨.inr, fun h => h.resolve_left left⟩

theorem cleaned_of_isName {name : String} (h : isName name = true) : cleaned name = name := by
  obtain ⟨-, safe⟩ := isName_iff.mp h
  have solid : ∀ c ∈ name.toList, isBlank c = false := fun c hc => isBlank_of_isSafe (safe c hc)
  rw [cleaned, trim_eq_self solid, squeeze_eq_self solid, List.filter_eq_self.mpr safe,
    String.ofList_toList]

/-- **A name is its own base name.** -/
theorem base_of_isName {name : String} (h : isName name = true) : base name = name := by
  rw [base_eq, cleaned_of_isName h, if_neg (isName_iff.mp h).1]

/-! ### Free names -/

variable {α : Type u} {nodes : List (Node α)} {except : Option String}

/-- That a name can be given: it is not reserved, and no node has it but the one that is renamed. -/
structure IsFree (nodes : List (Node α)) (except : Option String) (name : String) : Prop where
  /-- the name is not that of START -/
  ne_start : name ≠ "start"
  /-- the name is not that of END -/
  ne_end : name ≠ "end"
  /-- the name is not that of another node -/
  ne_identifier : ∀ n ∈ nodes, except ≠ some n.id → n.identifier ≠ name

theorem isFree_iff {name : String} : IsFree nodes except name ↔ name ∉ taken nodes except := by
  constructor
  · intro free mem
    obtain mem | mem := List.mem_append.mp mem
    · simp only [reserved, List.mem_cons, List.not_mem_nil, or_false] at mem
      exact mem.elim free.ne_start free.ne_end
    · obtain ⟨n, hn, rfl⟩ := List.mem_map.mp mem
      obtain ⟨hn, other⟩ := List.mem_filter.mp hn
      exact free.ne_identifier n hn (by simpa using other) rfl
  · intro free
    refine ⟨?_, ?_, ?_⟩
    · rintro rfl
      exact free (reserved_subset_taken nodes except (by decide))
    · rintro rfl
      exact free (reserved_subset_taken nodes except (by decide))
    · rintro n hn other rfl
      exact free (mem_taken hn other)

theorem length_taken_le (nodes : List (Node α)) (except : Option String) :
    (taken nodes except).length ≤ nodes.length + 2 := by
  have others := List.length_filter_le (fun n => decide (except ≠ some n.id)) nodes
  rw [taken, List.length_append, List.length_map]
  have two : reserved.length = 2 := rfl
  omega

/-- **The least number that is free** is put behind a base name that is taken. The search ends after
as many candidates as there are taken names, and one. -/
theorem exists_unique_eq_numbered {taken : List String} {base : String} (h : base ∈ taken) :
    ∃ k, 1 ≤ k ∧ k ≤ taken.length + 1 ∧ unique taken base = numbered base k ∧
      ∀ j, 1 ≤ j → j < k → numbered base j ∈ taken := by
  obtain ⟨k, low, high, found, before, -⟩ := firstFree_spec taken base taken.length 1
  refine ⟨k, low, by omega, ?_, before⟩
  rw [unique, if_pos (by simpa using h)]
  exact found

theorem unique_eq_self {taken : List String} {base : String} (h : base ∉ taken) :
    unique taken base = base := by
  rw [unique, if_neg (by simpa using h)]

/-! ### Identifiers -/

theorem bind_fixed?_eq_none {category : Option Category} (hstart : category ≠ some .start)
    (hstop : category ≠ some .stop) : category.bind fixed? = none := by
  obtain _ | c := category
  · rfl
  · cases c with
    | start => exact absurd rfl hstart
    | stop => exact absurd rfl hstop
    | _ => rfl

theorem isFree_ofLabel {category : Option Category} (h : category.bind fixed? = none)
    (label : String) (nodes : List (Node α)) (except : Option String) :
    IsFree nodes except (ofLabel label nodes except category) := by
  rw [isFree_iff, ofLabel_of_fixed?_none h]
  exact unique_not_mem _ _

/-- A name that is free stays as it is when it is taken for a label. -/
theorem ofLabel_eq_self {category : Option Category} (h : category.bind fixed? = none)
    {name : String} (hname : isName name = true) (free : IsFree nodes except name) :
    ofLabel name nodes except category = name := by
  rw [ofLabel_of_fixed?_none h, base_of_isName hname, unique_eq_self (isFree_iff.mp free)]

/-- **What identifier a label gets**, for any label, any nodes and any category without a fixed
name. It is a name that is free. It is the base name of the label if that is free, and else the base
name with a number behind it, the least one that makes it free; that is at most three more than
there are nodes. The base name is `node` only where the label is cleaned to that or to nothing. -/
theorem ofLabel_spec (label : String) (nodes : List (Node α)) (except : Option String)
    {category : Option Category} (hstart : category ≠ some .start) (hstop : category ≠ some .stop) :
    let name := ofLabel label nodes except category
    isName name = true ∧ IsFree nodes except name ∧
      (IsFree nodes except (base label) → name = base label) ∧
      (¬ IsFree nodes except (base label) →
        ∃ k, 1 ≤ k ∧ k ≤ nodes.length + 3 ∧ name = numbered (base label) k ∧
          ∀ j, 1 ≤ j → j < k → ¬ IsFree nodes except (numbered (base label) j)) ∧
      (base label = "node" ↔ cleaned label = "" ∨ cleaned label = "node") := by
  intro name
  have unfixed := bind_fixed?_eq_none hstart hstop
  have minted : name = unique (taken nodes except) (base label) := ofLabel_of_fixed?_none unfixed
  refine ⟨isName_ofLabel label nodes except category, isFree_ofLabel unfixed label nodes except,
    fun free => ?_, fun held => ?_, base_eq_fallback_iff label⟩
  · rw [minted, unique_eq_self (isFree_iff.mp free)]
  · rw [isFree_iff, not_not] at held
    obtain ⟨k, low, high, found, before⟩ := exists_unique_eq_numbered held
    have bound := length_taken_le nodes except
    refine ⟨k, low, by omega, minted.trans found, fun j hj hjk => ?_⟩
    rw [isFree_iff, not_not]
    exact before j hj hjk

/-- Nodes that have taken a name, the same name with its first number, and the name of last resort.
-/
def crowded : List (Node Number) :=
  ["My_Step_1", "My_Step", "node"].map fun name => ⟨name, .action, name, name, .null, Point.origin⟩

/-- A label whose base name is taken, and its first number too. -/
theorem ofLabel_spec_crowded :
    let label := " My \t Step! "
    some Category.tool ≠ some .start ∧ some Category.tool ≠ some .stop ∧
      ofLabel label crowded none (some .tool) = "My_Step_2" ∧
      ¬ IsFree crowded none (base label) ∧ IsFree crowded none "My_Step_2" ∧
      ∃ k, 1 ≤ k ∧ k ≤ 6 ∧ "My_Step_2" = numbered (base label) k ∧
        ∀ j, 1 ≤ j → j < k → ¬ IsFree crowded none (numbered (base label) j) := by
  intro label
  have hstart : some Category.tool ≠ some .start := by decide
  have hstop : some Category.tool ≠ some .stop := by decide
  have computed : ofLabel label crowded none (some .tool) = "My_Step_2" := by decide
  have held : ¬ IsFree crowded none (base label) := by
    rw [isFree_iff, not_not]
    decide
  obtain ⟨-, free, -, least, -⟩ := ofLabel_spec label crowded none hstart hstop
  rw [computed] at free least
  exact ⟨hstart, hstop, computed, held, free, least held⟩

end Identifier

end FlowCanvas

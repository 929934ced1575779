import FlowCanvas.Json.Reader
import FlowCanvas.Proofs.Text.Digits
import Mathlib.Data.List.Nodup

/-!
# Values that can be read

Not every value is read from some text: lists and objects go only so deep, integers are only so
long, and an object has no name twice (`Readable`). A reader that gives a value gives one of these
(`readable_of_read`). So whatever has been read can be written and read once more.
-/

namespace FlowCanvas.Json

open Text

/-- The values that can be read with room for so many lists and objects inside each other: integers
have no more digits than are read, and no name is used twice in an object. -/
inductive Readable : (room : ℕ) → Json → Prop where
  /-- the empty value -/
  | null {room : ℕ} : Readable room null
  /-- a truth value -/
  | bool {room : ℕ} (b : Bool) : Readable room (bool b)
  /-- a whole number -/
  | whole {room : ℕ} (n : ℤ) (few : (decimal n.natAbs).length ≤ digitLimit) :
    Readable room (number (.whole n))
  /-- a double -/
  | real {room : ℕ} (x : Float) : Readable room (number (.real x))
  /-- a text -/
  | string {room : ℕ} (s : String) : Readable room (string s)
  /-- a list of such values -/
  | array {room : ℕ} (items : List Json) (each : ∀ v ∈ items, Readable room v) :
    Readable (room + 1) (array items)
  /-- an object of such values -/
  | object {room : ℕ} (fields : Fields) (names : (fields.map Prod.fst).Nodup)
    (each : ∀ f ∈ fields, Readable room f.2) : Readable (room + 1) (object fields)

/-! ### What steps give -/

/-- What a step gives, if it gives anything. -/
def Step.All {β : Type} {s : List Char} (p : β → Prop) : Step β s → Prop
  | .ok (b, _) => p b
  | .error _ => True

theorem Step.All.of_ok {β : Type} {s : List Char} {p : β → Prop} {x : Step β s} {b : β} {r}
    (h : x.All p) (hx : x = .ok (b, r)) : p b := by
  subst hx
  exact h

/-! ### Numbers and words -/

theorem ne_nil_of_wholePart? {s whole : List Char} {r} (h : wholePart? s = some (whole, r)) :
    whole ≠ [] := by
  cases s with
  | nil => cases h
  | cons c t =>
    rw [wholePart?] at h
    split at h
    · cases h
      exact List.cons_ne_nil _ _
    split at h
    · cases h
      exact List.cons_ne_nil _ _
    · cases h

/-- An integer that is read has no more digits than that. -/
theorem readable_of_number {d : Digits} {n : Number} (room : ℕ) (some : d.whole ≠ [])
    (h : d.number = .ok n) : Readable room (number n) := by
  unfold Digits.number at h
  split at h
  · split at h
    · cases h
    · next few =>
      cases h
      have digits := (length_decimal_digitsValue some).trans (not_lt.1 few)
      refine .whole _ ?_
      split
      · rwa [Int.natAbs_neg, Int.natAbs_natCast]
      · rwa [Int.natAbs_natCast]
  · cases h
    exact .real _

theorem readNumber_readable (room : ℕ) (s : List Char) :
    (readNumber s).All fun n => Readable room (number n) := by
  unfold readNumber
  dsimp only
  split
  · trivial
  · next whole r _ read =>
    split
    · cases h : Digits.number ⟨(minusPart s).1, whole, (fractionPart r).1,
        (exponentPart (fractionPart r).2).1⟩ with
      | ok n => exact readable_of_number room (ne_nil_of_wholePart? read) h
      | error e => trivial
    · trivial

theorem readable_of_word {w : List Char × Json} (h : w ∈ words) (room : ℕ) : Readable room w.2 := by
  revert w
  simp only [words, List.forall_mem_cons]
  exact ⟨.null, .bool _, .bool _, .real _, .real _, .real _, List.forall_mem_nil _⟩

/-! ### Fields -/

theorem setField_new {fields : Fields} {name : String} (v : Json)
    (new : name ∉ fields.map Prod.fst) : setField fields name v = fields ++ [(name, v)] := by
  rw [setField, if_neg]
  simp only [List.any_eq_true, beq_iff_eq, not_exists, not_and]
  rintro f hf rfl
  exact new (List.mem_map_of_mem hf)

/-- A field that is written keeps the names apart. -/
theorem readable_setField {room : ℕ} {before : Fields} {name : String} {v : Json}
    (names : (before.map Prod.fst).Nodup) (each : ∀ f ∈ before, Readable room f.2)
    (hv : Readable room v) : ((setField before name v).map Prod.fst).Nodup ∧
      ∀ f ∈ setField before name v, Readable room f.2 := by
  by_cases old : name ∈ before.map Prod.fst
  · -- an old name keeps its place
    have replaced : setField before name v
        = before.map fun f => if f.1 == name then (name, v) else f := by
      rw [setField, if_pos]
      obtain ⟨f, hf, rfl⟩ := List.mem_map.1 old
      exact List.any_eq_true.2 ⟨f, hf, beq_self_eq_true _⟩
    rw [replaced]
    constructor
    · rw [List.map_map]
      convert names using 1
      apply List.map_congr_left
      intro f _
      simp only [Function.comp_apply]
      split
      · next same => exact (beq_iff_eq.1 same).symm
      · rfl
    · intro g hg
      obtain ⟨f, hf, rfl⟩ := List.mem_map.1 hg
      split
      · exact hv
      · exact each f hf
  · -- a new one comes behind the others
    rw [setField_new v old]
    refine ⟨?_, List.forall_mem_append.2 ⟨each, List.forall_mem_singleton.2 hv⟩⟩
    rw [List.map_append]
    refine List.nodup_append.2 ⟨names, List.nodup_singleton _, ?_⟩
    rintro a ha b hb rfl
    have same : a = name := List.mem_singleton.1 hb
    exact old (same ▸ ha)

/-! ### Values -/

mutual

theorem readValue_readable (room : ℕ) (s : List Char) : (readValue room s).All (Readable room) := by
  -- what begins a value decides its kind: a quote, a bracket, a brace, a word, or else a number
  rw [readValue.eq_def]
  split
  · trivial
  · next c rest =>
    split
    · split
      · trivial
      · exact .string _
    split
    · split
      · trivial
      · next _ room =>
        split
        next inside _ hinside =>
        split
        · exact .array [] nofun
        · have items := readItems_readable room inside
          split
          · trivial
          · next vs r _ h => exact .array vs (items.of_ok h)
    split
    · split
      · trivial
      · next _ room =>
        split
        next inside _ hinside =>
        split
        · exact .object [] List.nodup_nil nofun
        · have fields := readFields_readable room inside [] List.nodup_nil nofun
          split
          · trivial
          · next fs r _ h => exact .object fs (fields.of_ok h).1 (fields.of_ok h).2
    split
    · next v r word =>
      obtain ⟨w, found, hw⟩ := Option.map_eq_some_iff.1 word
      cases hw
      split
      · exact readable_of_word (List.mem_of_find?_eq_some found) _
      · trivial
    · have number := readNumber_readable room (c :: rest)
      cases h : readNumber (c :: rest) with
      | ok n => exact number.of_ok h
      | error e => trivial
termination_by (s.length, 0)
decreasing_by all_goals (subst_vars; exact Prod.Lex.left _ _ (Nat.lt_succ_of_le ‹_›))

theorem readItems_readable (room : ℕ) (s : List Char) :
    (readItems room s).All fun vs => ∀ v ∈ vs, Readable room v := by
  rw [readItems.eq_def]
  have value := readValue_readable room s
  split
  · trivial
  next v r _ h =>
  split
  next r _ hr =>
  split
  · exact List.forall_mem_singleton.2 (value.of_ok h)
  split
  · trivial
  next r _ hr =>
  split
  next r _ hr =>
  have items := readItems_readable room r
  split
  · trivial
  · next vs r _ hvs => exact List.forall_mem_cons.2 ⟨value.of_ok h, items.of_ok hvs⟩
termination_by (s.length, 1)

theorem readFields_readable (room : ℕ) (s : List Char) (before : Fields)
    (names : (before.map Prod.fst).Nodup) (each : ∀ f ∈ before, Readable room f.2) :
    (readFields room s before).All fun fs =>
      (fs.map Prod.fst).Nodup ∧ ∀ f ∈ fs, Readable room f.2 := by
  rw [readFields.eq_def]
  split
  · trivial
  next r _ hr =>
  split
  · trivial
  next name r _ h =>
  split
  next r _ hr =>
  split
  · trivial
  next r _ hr =>
  split
  next r _ hr =>
  have value := readValue_readable room r
  split
  · trivial
  next v r _ h =>
  -- the field is written first, and the others are read behind it
  have set := @readable_setField room _ (String.ofList name) v names each (value.of_ok h)
  split
  next r _ hr =>
  split
  · exact set
  split
  · trivial
  next r _ hr =>
  split
  next r _ hr =>
  have fields := readFields_readable room r (setField before (String.ofList name) v) set.1 set.2
  split
  · trivial
  · next fs r _ h => exact fields.of_ok h
termination_by (s.length, 1)

end

/-- **What is read can be read**, again and from its own text. -/
theorem readable_of_read {s : List Char} {v : Json} (h : read s = .ok v) :
    Readable depthLimit v := by
  have value := readValue_readable depthLimit (skip s).1
  unfold read at h
  split at h
  · cases h
  split at h
  · cases h
  · next w r _ ok =>
    split at h
    · cases h
      exact value.of_ok ok
    · cases h

end FlowCanvas.Json

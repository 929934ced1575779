import Mathlib.Data.List.Forall2

/-!
# The parts of a result

Readers and plans stop at their first fault. So if there is a result, each step before it has given
one, and this is how later proofs take such a computation apart: one step at a time
(`exists_of_bind_eq_ok`), or all steps along a list at once (`forall₂_of_mapM_eq_ok`). Two results
agree if both are the same fault, or both are there and related (`Agree`); they match if the faults
are related in a way of their own (`Match`).
-/

namespace FlowCanvas.Result

open List (Forall₂)

universe u v w x

variable {ε : Type u} {β : Type v} {γ : Type w} {δ : Type x}

/-- A result of two steps is that of the second on the result of the first. -/
theorem exists_of_bind_eq_ok {x : Except ε γ} {k : γ → Except ε δ} {d : δ}
    (h : x.bind k = .ok d) : ∃ c, x = .ok c ∧ k c = .ok d := by
  cases x with
  | error e => cases h
  | ok c => exact ⟨c, rfl, h⟩

/-- A mapped result is the image of one. -/
theorem exists_of_map_eq_ok {x : Except ε γ} {f : γ → δ} {d : δ} (h : x.map f = .ok d) :
    ∃ c, x = .ok c ∧ f c = d := by
  cases x with
  | error e => cases h
  | ok c => exact ⟨c, rfl, Except.ok.inj h⟩

/-- **The results of steps along a list**, one for each member. -/
theorem forall₂_of_mapM_eq_ok {f : β → Except ε γ} {l : List β} {r : List γ}
    (h : l.mapM f = .ok r) : Forall₂ (fun b c => f b = .ok c) l r := by
  induction l generalizing r with
  | nil =>
    cases h
    exact .nil
  | cons b l ih =>
    rw [List.mapM_cons] at h
    obtain ⟨c, hc, h⟩ := exists_of_bind_eq_ok h
    obtain ⟨cs, hcs, h⟩ := exists_of_bind_eq_ok h
    cases h
    exact .cons hc (ih hcs)

theorem exists_of_mapM_eq_ok {f : β → Except ε γ} {l : List β} {r : List γ}
    (h : l.mapM f = .ok r) : ∀ b ∈ l, ∃ c, f b = .ok c := by
  have given := (forall₂_of_mapM_eq_ok h).imp fun b c hc => And.intro (Exists.intro c hc) hc
  exact ((List.forall₂_and_left ..).1 given).1

/-- Steps that each give some result give the list of them. -/
theorem exists_mapM_eq_ok {f : β → Except ε γ} {l : List β} (h : ∀ b ∈ l, ∃ c, f b = .ok c) :
    ∃ r, l.mapM f = .ok r := by
  induction l with
  | nil => exact ⟨[], rfl⟩
  | cons b l ih =>
    obtain ⟨⟨c, hc⟩, hl⟩ := List.forall_mem_cons.1 h
    obtain ⟨r, hr⟩ := ih hl
    rw [List.mapM_cons, hc, hr]
    exact ⟨c :: r, rfl⟩

/-- A fault along a list is that of one of its members. -/
theorem exists_of_mapM_eq_error {f : β → Except ε γ} {l : List β} {e : ε}
    (h : l.mapM f = .error e) : ∃ b ∈ l, f b = .error e := by
  induction l with
  | nil => cases h
  | cons b l ih =>
    rw [List.mapM_cons] at h
    cases first : f b with
    | error e' =>
      rw [first] at h
      obtain rfl : e' = e := Except.error.inj h
      exact ⟨b, List.mem_cons_self, first⟩
    | ok c =>
      rw [first] at h
      cases others : l.mapM f with
      | error e' =>
        rw [others] at h
        obtain rfl : e' = e := Except.error.inj h
        obtain ⟨d, hd, fault⟩ := ih others
        exact ⟨d, List.mem_cons_of_mem _ hd, fault⟩
      | ok cs =>
        rw [others] at h
        cases h

/-- What all results show of what they are results of, the list of them shows of the list. -/
theorem map_eq_of_mapM_eq_ok {f : β → Except ε γ} {p : β → δ} {q : γ → δ}
    (hf : ∀ b c, f b = .ok c → q c = p b) {l : List β} {r : List γ} (h : l.mapM f = .ok r) :
    r.map q = l.map p := by
  have same : Forall₂ (· = ·) (l.map p) (r.map q) := by
    rw [List.forall₂_map_left_iff, List.forall₂_map_right_iff]
    exact (forall₂_of_mapM_eq_ok h).imp fun b c hc => (hf b c hc).symm
  rw [List.forall₂_eq_eq_eq] at same
  exact same.symm

/-- A result along a list comes from one of its members. -/
theorem exists_of_mem_of_mapM_eq_ok {f : β → Except ε γ} {l : List β} {r : List γ}
    (h : l.mapM f = .ok r) {c : γ} (hc : c ∈ r) : ∃ b ∈ l, f b = .ok c := by
  have along := forall₂_of_mapM_eq_ok h
  clear h
  induction along with
  | nil => cases hc
  | cons first _ ih =>
    obtain rfl | hc := List.mem_cons.1 hc
    · exact ⟨_, List.mem_cons_self, first⟩
    · obtain ⟨b, hb, step⟩ := ih hc
      exact ⟨b, List.mem_cons_of_mem _ hb, step⟩

/-- Steps that each give a result give the list of them. -/
theorem mapM_map_eq_ok {write : δ → β} {f : β → Except ε γ} {back : δ → γ} {l : List δ}
    (h : ∀ d ∈ l, f (write d) = .ok (back d)) : (l.map write).mapM f = .ok (l.map back) := by
  induction l with
  | nil => rfl
  | cons d l ih =>
    obtain ⟨hd, hl⟩ := List.forall_mem_cons.1 h
    rw [List.map_cons, List.mapM_cons, hd, ih hl]
    rfl

/-- The same fault, or results that are related by `R`. -/
inductive Agree (R : γ → δ → Prop) : Except ε γ → Except ε δ → Prop where
  | fault (e : ε) : Agree R (.error e) (.error e)
  | result {c : γ} {d : δ} (h : R c d) : Agree R (.ok c) (.ok d)

/-- Related results stay so where what is made of them is related. -/
theorem Agree.map {β₁ : Type*} {β₂ : Type*} {R : γ → δ → Prop} {S : β₁ → β₂ → Prop}
    {x : Except ε γ} {y : Except ε δ} (h : Agree R x y) {f : γ → β₁} {g : δ → β₂}
    (hfg : ∀ c d, R c d → S (f c) (g d)) : Agree S (x.map f) (y.map g) := by
  cases h with
  | fault e => exact .fault e
  | result h => exact .result (hfg _ _ h)

theorem Agree.of_eq {x y : Except ε γ} (h : x = y) : Agree (· = ·) x y := by
  subst h
  cases x with
  | error e => exact .fault e
  | ok c => exact .result rfl

/-- A fault is told by both or by neither. -/
theorem Agree.eq_error_iff {R : γ → δ → Prop} {x : Except ε γ} {y : Except ε δ} (h : Agree R x y)
    {e : ε} : x = .error e ↔ y = .error e := by
  cases h with
  | fault e' => simp only [Except.error.injEq]
  | result h => exact iff_of_false nofun nofun

/-- Faults that are related by `E`, or results that are related by `R`. -/
inductive Match {ε' : Type*} (E : ε → ε' → Prop) (R : γ → δ → Prop) :
    Except ε γ → Except ε' δ → Prop where
  | fault {e : ε} {e' : ε'} (h : E e e') : Match E R (.error e) (.error e')
  | result {c : γ} {d : δ} (h : R c d) : Match E R (.ok c) (.ok d)

theorem Match.map {ε' : Type*} {β₁ : Type*} {β₂ : Type*} {E : ε → ε' → Prop} {R : γ → δ → Prop}
    {S : β₁ → β₂ → Prop} {x : Except ε γ} {y : Except ε' δ} (h : Match E R x y) {f : γ → β₁}
    {g : δ → β₂} (hfg : ∀ c d, R c d → S (f c) (g d)) : Match E S (x.map f) (y.map g) := by
  cases h with
  | fault he => exact .fault he
  | result hc => exact .result (hfg _ _ hc)

theorem Match.mapError {ε' : Type*} {ε₁ : Type*} {ε₂ : Type*} {E : ε → ε' → Prop}
    {F : ε₁ → ε₂ → Prop} {R : γ → δ → Prop} {x : Except ε γ} {y : Except ε' δ}
    (h : Match E R x y) {f : ε → ε₁} {g : ε' → ε₂} (hfg : ∀ e e', E e e' → F (f e) (g e')) :
    Match F R (x.mapError f) (y.mapError g) := by
  cases h with
  | fault he => exact .fault (hfg _ _ he)
  | result hc => exact .result hc

end FlowCanvas.Result

import FlowCanvas.Outcome
import FlowCanvas.Proofs.Result

/-!
# Outcomes alike

Two systems are compared call by call. Their calls come out alike if the states that they leave are
related and if both answer or both fail, answers and faults being related as well. Calls that are
put together in one way come out alike if their parts do (`Outcome.Alike.andThen`,
`Outcome.Alike.each`).
-/

namespace FlowCanvas

universe u v w u' v' w' x

namespace Outcome

variable {σ : Type u} {ε : Type v} {β : Type w} {τ : Type u'} {δ : Type v'} {γ : Type w'}

/-- Two outcomes that leave related states and answer or fail in related ways. -/
structure Alike (S : σ → τ → Prop) (E : ε → δ → Prop) (R : β → γ → Prop) (o : Outcome σ ε β)
    (o' : Outcome τ δ γ) : Prop where
  /-- the states -/
  state : S o.state o'.state
  /-- what is answered -/
  answer : Result.Match E R o.answer o'.answer

namespace Alike

variable {S : σ → τ → Prop} {E : ε → δ → Prop} {R : β → γ → Prop} {o : Outcome σ ε β}
  {o' : Outcome τ δ γ}

theorem done {s : σ} {t : τ} {b : β} {c : γ} (hs : S s t) (hb : R b c) :
    Alike S E R (Outcome.done s b) (Outcome.done t c) :=
  ⟨hs, .result hb⟩

theorem failed {s : σ} {t : τ} {e : ε} {d : δ} (hs : S s t) (he : E e d) :
    Alike S E R (Outcome.failed s e) (Outcome.failed t d) :=
  ⟨hs, .fault he⟩

/-- Answers that are related are also related in any weaker way. -/
theorem mono {R₁ : β → γ → Prop} (h : Alike S E R o o') (hR : ∀ b c, R b c → R₁ b c) :
    Alike S E R₁ o o' := by
  obtain ⟨s, answer⟩ := o
  obtain ⟨t, answer'⟩ := o'
  obtain ⟨state, ends⟩ := h
  cases ends with
  | fault he => exact .failed state he
  | result hb => exact .done state (hR _ _ hb)

theorem map {β₁ : Type x} {γ₁ : Type x} {R₁ : β₁ → γ₁ → Prop} (h : Alike S E R o o') {f : β → β₁}
    {g : γ → γ₁} (hfg : ∀ b c, R b c → R₁ (f b) (g c)) : Alike S E R₁ (o.map f) (o'.map g) :=
  ⟨h.state, h.answer.map hfg⟩

/-- What is made of an answer on one side only. -/
theorem map_right {γ₁ : Type x} {R₁ : β → γ₁ → Prop} (h : Alike S E R o o') {g : γ → γ₁}
    (hg : ∀ b c, R b c → R₁ b (g c)) : Alike S E R₁ o (o'.map g) := by
  obtain ⟨s, answer⟩ := o
  obtain ⟨t, answer'⟩ := o'
  obtain ⟨state, ends⟩ := h
  cases ends with
  | fault he => exact .failed state he
  | result hb => exact .done state (hg _ _ hb)

theorem mapState {σ₁ τ₁ : Type x} {S₁ : σ₁ → τ₁ → Prop} (h : Alike S E R o o') {f : σ → σ₁}
    {g : τ → τ₁} (hfg : ∀ s t, S s t → S₁ (f s) (g t)) :
    Alike S₁ E R (o.mapState f) (o'.mapState g) :=
  ⟨hfg _ _ h.state, h.answer⟩

theorem mapFault {ε₁ δ₁ : Type x} {E₁ : ε₁ → δ₁ → Prop} (h : Alike S E R o o') {f : ε → ε₁}
    {g : δ → δ₁} (hfg : ∀ e d, E e d → E₁ (f e) (g d)) :
    Alike S E₁ R (o.mapFault f) (o'.mapFault g) :=
  ⟨h.state, h.answer.mapError hfg⟩

/-- Calls one after the other. -/
theorem andThen {β₁ : Type x} {γ₁ : Type x} {R₁ : β₁ → γ₁ → Prop} (h : Alike S E R o o')
    {next : σ → β → Outcome σ ε β₁} {next' : τ → γ → Outcome τ δ γ₁}
    (hnext : ∀ s t b c, S s t → R b c → Alike S E R₁ (next s b) (next' t c)) :
    Alike S E R₁ (o.andThen next) (o'.andThen next') := by
  obtain ⟨s, answer⟩ := o
  obtain ⟨t, answer'⟩ := o'
  obtain ⟨state, ends⟩ := h
  cases ends with
  | fault he => exact .failed state he
  | result hb => exact hnext s t _ _ state hb

/-- **Calls for the members of a list**, each of which comes out alike. -/
theorem each {ι : Type x} {step : ι → σ → Outcome σ ε Unit} {step' : ι → τ → Outcome τ δ Unit} :
    ∀ {items : List ι}, (∀ i ∈ items, ∀ s t, S s t → Alike S E (fun _ _ => True) (step i s)
      (step' i t)) → ∀ {s : σ} {t : τ}, S s t →
        Alike S E (fun _ _ => True) (Outcome.each step items s) (Outcome.each step' items t)
  | [], _, _, _, h => .done h trivial
  | i :: rest, alike, s, t, h => by
    obtain ⟨first, others⟩ := List.forall_mem_cons.mp alike
    exact (first s t h).andThen fun s t _ _ h _ => each others h

end Alike

end Outcome

end FlowCanvas

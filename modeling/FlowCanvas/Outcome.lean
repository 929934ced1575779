/-!
# Outcomes

A call to something with a state leaves a state behind whichever way it ends, so the state is not
part of the answer: a call that fails half way has done what it did before.
-/

namespace FlowCanvas

universe u v w

/-- What a call leaves behind. -/
structure Outcome (σ : Type u) (ε : Type v) (β : Type w) where
  /-- the state after the call -/
  state : σ
  /-- what the call answers, or why it failed -/
  answer : Except ε β

namespace Outcome

universe u₁ v₁ w₁

variable {σ : Type u} {ε : Type v} {β : Type w} {γ : Type w₁}

/-- A call that answers and changes the state to `s`. -/
def done (s : σ) (b : β) : Outcome σ ε β := ⟨s, .ok b⟩

/-- A call that fails and changes the state to `s`. -/
def failed (s : σ) (e : ε) : Outcome σ ε β := ⟨s, .error e⟩

/-- One call after the other; the second one is not made if the first one fails. -/
def andThen (o : Outcome σ ε β) (next : σ → β → Outcome σ ε γ) : Outcome σ ε γ :=
  match o.answer with
  | .ok b => next o.state b
  | .error e => failed o.state e

/-- A call for what something gives; it fails without a change if that is a fault. -/
def need {ζ : Type u₁} (s : σ) (r : Except ε ζ) (next : ζ → Outcome σ ε β) : Outcome σ ε β :=
  match r with
  | .ok z => next z
  | .error e => failed s e

/-- An outcome with its answer mapped. -/
def map (f : β → γ) (o : Outcome σ ε β) : Outcome σ ε γ := ⟨o.state, o.answer.map f⟩

/-- An outcome with its state mapped. -/
def mapState {τ : Type u₁} (f : σ → τ) (o : Outcome σ ε β) : Outcome τ ε β := ⟨f o.state, o.answer⟩

/-- An outcome with its fault mapped. -/
def mapFault {δ : Type v₁} (f : ε → δ) (o : Outcome σ ε β) : Outcome σ δ β :=
  ⟨o.state, o.answer.mapError f⟩

/-- Calls for the members of a list, up to the first that fails. -/
def each {ι : Type w₁} (step : ι → σ → Outcome σ ε Unit) : List ι → σ → Outcome σ ε Unit
  | [], s => done s ()
  | i :: rest, s => (step i s).andThen fun s _ => each step rest s

@[simp] theorem done_state (s : σ) (b : β) : (done s b : Outcome σ ε β).state = s := rfl

@[simp] theorem failed_state (s : σ) (e : ε) : (failed s e : Outcome σ ε β).state = s := rfl

@[simp] theorem map_state (f : β → γ) (o : Outcome σ ε β) : (o.map f).state = o.state := rfl

@[simp] theorem mapState_state {τ : Type u₁} (f : σ → τ) (o : Outcome σ ε β) :
    (o.mapState f).state = f o.state := rfl

@[simp] theorem mapFault_state {δ : Type v₁} (f : ε → δ) (o : Outcome σ ε β) :
    (o.mapFault f).state = o.state := rfl

@[simp] theorem done_andThen (s : σ) (b : β) (next : σ → β → Outcome σ ε γ) :
    (done s b).andThen next = next s b := rfl

@[simp] theorem failed_andThen (s : σ) (e : ε) (next : σ → β → Outcome σ ε γ) :
    (failed s e).andThen next = failed s e := rfl

/-- Two calls that answer have both answered. -/
theorem exists_of_andThen_eq_ok {o : Outcome σ ε β} {next : σ → β → Outcome σ ε γ} {c : γ}
    (h : (o.andThen next).answer = .ok c) :
    ∃ b, o.answer = .ok b ∧ o.andThen next = next o.state b := by
  obtain ⟨s, e | b⟩ := o
  · cases h
  · exact ⟨b, rfl, rfl⟩

/-- States may be mapped before the second of two calls as well as after it. -/
theorem mapState_andThen {τ : Type u₁} {f : σ → τ} {o : Outcome σ ε β}
    {next : σ → β → Outcome σ ε γ} {next' : τ → β → Outcome τ ε γ}
    (h : ∀ s b, next' (f s) b = (next s b).mapState f) :
    (o.mapState f).andThen next' = (o.andThen next).mapState f := by
  obtain ⟨s, e | b⟩ := o
  · rfl
  · exact h s b

/-- What holds after the first of two calls and is kept by the second holds after both. -/
theorem andThen_induction {P : σ → Prop} {o : Outcome σ ε β} {next : σ → β → Outcome σ ε γ}
    (first : P o.state) (second : ∀ b, P o.state → P (next o.state b).state) :
    P (o.andThen next).state := by
  unfold andThen
  split
  · exact second _ first
  · exact first

end Outcome

end FlowCanvas

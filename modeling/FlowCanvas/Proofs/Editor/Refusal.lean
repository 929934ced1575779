import FlowCanvas.Editor.Basic
import FlowCanvas.Proofs.Result

/-!
# Refusals

A call is refused if it asks for what cannot be done: for an edit that breaks a rule, for a node of
no category, or for a drag while one is on (`EditorFault.isRefusal`). Any other fault comes up while
an accepted call is carried out. So only a plan is refused, and then the editor is as it was
(`Editor.carryOut_refused`). The one call with something to do in front of its plan is that which
adds a node (`Editor.addNode_cases`).
-/

namespace FlowCanvas

universe u v w

/-- An edit is refused, a name is that of no category, or a drag is on already. -/
def EditorFault.isRefusal {α : Type} : EditorFault α → Bool
  | rejected _ => true
  | badCategory _ => true
  | drag (.busy ..) => true
  | drag (.pressed _) => true
  | _ => false

/-- Whether a call is refused. -/
def Outcome.isRefused {α : Type} {σ : Type u} {β : Type v} (o : Outcome σ (EditorFault α) β) :
    Bool :=
  match o.answer with
  | .ok _ => false
  | .error f => f.isRefusal

namespace Outcome

variable {σ : Type u} {ε : Type v} {β γ : Type w}

/-- Two calls, one after the other, fail where the first one fails or the second one does. -/
theorem answer_of_andThen_eq_error {o : Outcome σ ε β} {next : σ → β → Outcome σ ε γ} {f : ε}
    (h : (o.andThen next).answer = .error f) :
    o.answer = .error f ∨ ∃ b, (next o.state b).answer = .error f := by
  obtain ⟨s, f' | b⟩ := o
  · exact .inl (congrArg Except.error (Except.error.inj h))
  · exact .inr ⟨b, h⟩

theorem answer_of_map_eq_error {o : Outcome σ ε β} {g : β → γ} {f : ε}
    (h : (o.map g).answer = .error f) : o.answer = .error f := by
  obtain ⟨s, f' | b⟩ := o
  · exact congrArg Except.error (Except.error.inj h)
  · cases h

theorem exists_of_mapFault_eq_error {δ : Type v} {o : Outcome σ ε β} {g : ε → δ} {f : δ}
    (h : (o.mapFault g).answer = .error f) : ∃ f', f = g f' := by
  obtain ⟨s, f' | b⟩ := o
  · exact ⟨f', (Except.error.inj h).symm⟩
  · cases h

end Outcome

namespace Editor

variable {α β : Type} {e : Editor α} {f : EditorFault α}

theorem announce_not_refused {event : Event α} (h : (e.announce event).answer = .error f) :
    ¬ f.isRefusal = true := by
  obtain ⟨problem, rfl⟩ := Outcome.exists_of_mapFault_eq_error h
  exact Bool.false_ne_true

theorem close_not_refused (h : e.close.answer = .error f) : ¬ f.isRefusal = true := by
  obtain ⟨problem, rfl⟩ := Outcome.exists_of_mapFault_eq_error h
  exact Bool.false_ne_true

variable [StateFormat α]

theorem save_not_refused (h : e.save.answer = .error f) : ¬ f.isRefusal = true := by
  unfold save at h
  split at h
  · cases h
  · obtain ⟨fault, rfl⟩ := Outcome.exists_of_mapFault_eq_error h
    exact Bool.false_ne_true

/-- What is to be put in place is never refused. -/
theorem put_not_refused {g : Graph α} {event : Editor α → Event α}
    (h : ((e.put g).save.andThen fun e _ => e.announce (event e)).answer = .error f) :
    ¬ f.isRefusal = true := by
  rcases Outcome.answer_of_andThen_eq_error h with unsaved | ⟨-, untold⟩
  · exact save_not_refused unsaved
  · exact announce_not_refused untold

/-- Only a plan is refused, and then there is nothing to carry out. -/
theorem carryOut_refused {plan : Except Rejection (Plan α β)} (refusal : f.isRefusal = true)
    (h : (e.carryOut plan).answer = .error f) :
    ∃ r, plan = .error r ∧ f = .rejected r ∧ (e.carryOut plan).state = e := by
  rcases plan with r | ⟨_ | c, b⟩
  · cases h
    exact ⟨r, rfl, rfl, rfl⟩
  · cases h
  · -- a change is committed, which is no refusal
    exact absurd refusal (put_not_refused (Outcome.answer_of_map_eq_error h))

theorem reset_not_refused [Scalar α] (h : e.reset.answer = .error f) : ¬ f.isRefusal = true :=
  put_not_refused h

/-- **How a node is added.** The call is refused for the category before a token is drawn, or the
token is drawn and the plan is carried out. -/
theorem addNode_cases [Scalar α] (e : Editor α) (category : String) (position : Option (Point α))
    (label : Option String) :
    (∃ f, f.isRefusal = true ∧ e.addNode category position label = .failed e f) ∨
      ∃ c, Category.ofName? category = some c ∧ e.graph.isTaken c = false ∧
        e.addNode category position label = carryOut { e with tokens := e.tokens.draw }
          (e.graph.planAdd c (Graph.newId c e.tokens.next) position label) := by
  unfold addNode
  rcases Category.ofName? category with - | c
  · exact .inl ⟨_, rfl, rfl⟩
  dsimp only
  split
  · exact .inl ⟨_, rfl, rfl⟩
  · next free => exact .inr ⟨c, rfl, by simpa using free, rfl⟩

/-- A new node is refused before a token is drawn for it or after that. -/
theorem addNode_refused [Scalar α] {category : String} {position : Option (Point α)}
    {label : Option String} (refusal : f.isRefusal = true)
    (h : (e.addNode category position label).answer = .error f) :
    ∃ tokens, (e.addNode category position label).state = { e with tokens := tokens } := by
  rcases e.addNode_cases category position label with ⟨f', -, ends⟩ | ⟨c, -, -, ends⟩
  · rw [ends]
    exact ⟨e.tokens, rfl⟩
  · rw [ends] at h ⊢
    obtain ⟨-, -, -, state⟩ := carryOut_refused refusal h
    exact ⟨e.tokens.draw, state⟩

end Editor

end FlowCanvas

import FlowCanvas.Proofs.Editor.Commit
import FlowCanvas.Proofs.Editor.Plan
import FlowCanvas.Proofs.Editor.Refusal
import FlowCanvas.Proofs.Event.Dispatcher

/-!
# What an editor saves and announces

The processors of a lenient dispatcher cannot be felt: a call to the editor does the same under any
of them, and they all hear the same (`Dispatcher.Yields`). What they hear is one announcement of
each graph that is put in place, if its one save succeeds, and nothing where an edit is refused or
none is asked for (`Editor.Accounts`).
-/

namespace FlowCanvas

universe u v

/-! ### Calls under any dispatcher -/

/-- Under every lenient dispatcher `d` the call `o d` answers `a` and leaves the state `r`, but for
the dispatcher, which has told the events `es`. -/
def Dispatcher.Yields {α : Type} {σ : Type u} {ε : Type v} {β : Type}
    (o : Dispatcher α → Outcome σ ε β) (r : Dispatcher α → σ) (a : Except ε β)
    (es : List (Event α)) : Prop :=
  ∀ d : Dispatcher α, d.strict = false → ∃ d', d.Tells es d' ∧ o d = ⟨r d', a⟩

namespace Dispatcher.Yields

variable {α β γ : Type} {σ τ : Type u} {ε : Type v} {o : Dispatcher α → Outcome σ ε β}
  {r : Dispatcher α → σ} {a : Except ε β} {es : List (Event α)}

/-- A call that has nothing to do with the dispatcher. -/
theorem quiet (h : ∀ d, o d = ⟨r d, a⟩) : Yields o r a [] := fun d _ => ⟨d, .refl d, h d⟩

theorem map (h : Yields o r a es) (f : β → γ) : Yields (fun d => (o d).map f) r (a.map f) es := by
  intro d lenient
  obtain ⟨d', tells, made⟩ := h d lenient
  exact ⟨d', tells, congrArg (Outcome.map f) made⟩

theorem mapState (h : Yields o r a es) (f : σ → τ) :
    Yields (fun d => (o d).mapState f) (fun d => f (r d)) a es := by
  intro d lenient
  obtain ⟨d', tells, made⟩ := h d lenient
  exact ⟨d', tells, congrArg (Outcome.mapState f) made⟩

end Dispatcher.Yields

/-! ### Announcements -/

/-- An event that announces a graph and its code, as those after a reset or after any other edit. -/
def Event.Announces {α : Type} (reset : Bool) (g : Graph α) (code : String) : Event α → Prop
  | .changed g' code' _ _ => reset = false ∧ g' = g ∧ code' = code
  | .reset g' code' => reset = true ∧ g' = g ∧ code' = code
  | .bare .. => False

namespace Editor

variable {α β γ : Type} [StateFormat α]

omit [StateFormat α] in
/-- An editor with another dispatcher. -/
def tellTo (e : Editor α) (d : Dispatcher α) : Editor α := { e with dispatcher := d }

/-- How an editor `r` with a store that was `store` comes out of a call that answers `a` and has
told `es`; whether the call asked for an edit, and for which kind, is known. -/
inductive Account (store : Store α) (reset : Bool) (r : Editor α) :
    Bool → Except (EditorFault α) β → List (Event α) → Prop where
  /-- no edit was asked for, or it is refused -/
  | quiet {edits : Bool} {a : Except (EditorFault α) β} :
      (edits = true → ∃ f, a = .error f ∧ f.isRefusal = true) → r.store = some store →
      Account store reset r edits a []
  /-- the edit is saved and announced -/
  | told {event : Event α} (b : β) :
      r.store = some (store.save r.graph).state → (store.save r.graph).answer = .ok () →
      event.Announces reset r.graph r.code → Account store reset r true (.ok b) [event]
  /-- the edit cannot be saved -/
  | unsaved (f : FileFault) :
      r.store = some (store.save r.graph).state → (store.save r.graph).answer = .error f →
      Account store reset r true (.error (.file f)) []

theorem Account.map {store : Store α} {reset edits : Bool} {r : Editor α}
    {a : Except (EditorFault α) β} {es : List (Event α)} (h : Account store reset r edits a es)
    (f : β → γ) : Account store reset r edits (a.map f) es := by
  cases h with
  | quiet refused stored =>
    refine .quiet (fun asked => ?_) stored
    obtain ⟨fault, rfl, refusal⟩ := refused asked
    exact ⟨fault, rfl, refusal⟩
  | told b stored done announced => exact .told (f b) stored done announced
  | unsaved fault stored failed => exact .unsaved fault stored failed

theorem Account.exists_store {store : Store α} {reset edits : Bool} {r : Editor α}
    {a : Except (EditorFault α) β} {es : List (Event α)} (h : Account store reset r edits a es) :
    ∃ store', r.store = some store' := by
  cases h with
  | quiet _ stored => exact ⟨_, stored⟩
  | told _ stored _ _ => exact ⟨_, stored⟩
  | unsaved _ stored _ => exact ⟨_, stored⟩

theorem Account.tellTo {store : Store α} {reset edits : Bool} {r : Editor α}
    {a : Except (EditorFault α) β} {es : List (Event α)} (h : Account store reset r edits a es)
    (d : Dispatcher α) : Account store reset (r.tellTo d) edits a es := by
  cases h with
  | quiet refused stored => exact .quiet refused stored
  | told b stored done announced => exact .told b stored done announced
  | unsaved f stored failed => exact .unsaved f stored failed

/-- A call to an editor with a store, under any dispatcher, that comes out as it is accounted for.
-/
def Accounts (store : Store α) (reset edits : Bool)
    (o : Dispatcher α → Outcome (Editor α) (EditorFault α) β) : Prop :=
  ∃ r a es, Dispatcher.Yields o r.tellTo a es ∧ Account store reset r edits a es

theorem Accounts.map {store : Store α} {reset edits : Bool}
    {o : Dispatcher α → Outcome (Editor α) (EditorFault α) β} (h : Accounts store reset edits o)
    (f : β → γ) : Accounts store reset edits fun d => (o d).map f := by
  obtain ⟨r, a, es, yields, account⟩ := h
  exact ⟨r, a.map f, es, yields.map f, account.map f⟩

omit [StateFormat α] in
theorem dispatch_yields (e : Editor α) (m : Message α) :
    Dispatcher.Yields (fun d => (((d.dispatch m).mapState e.tellTo).mapFault .processor :
      Outcome (Editor α) (EditorFault α) Unit)) e.tellTo (.ok ()) m.event?.toList := by
  intro d lenient
  obtain ⟨d', made, tells⟩ := Dispatcher.exists_dispatch_eq lenient m
  refine ⟨d', tells, ?_⟩
  simp only [made]
  rfl

/-- **A graph that is put in place is saved once and announced once**, unless the save fails. -/
theorem put_accounts {e : Editor α} {store : Store α} (hs : e.store = some store) (g : Graph α)
    {reset : Bool} {event : Editor α → Event α} (blind : ∀ e d, event (e.tellTo d) = event e)
    (announces : ∀ e, (event e).Announces reset e.graph e.code) :
    Accounts store reset true
      fun d => ((e.tellTo d).put g).save.andThen fun e _ => e.announce (event e) := by
  let r : Editor α := { e.put g with store := some (store.save g).state }
  have saves (d : Dispatcher α) : ((e.tellTo d).put g).save =
      ⟨r.tellTo d, (store.save g).answer.mapError .file⟩ :=
    put_save (show (e.tellTo d).store = some store from hs) g
  rcases answer : (store.save g).answer with f | done
  · -- nobody is told of what is not saved
    refine ⟨r, .error (.file f), [], .quiet fun d => ?_, .unsaved f rfl answer⟩
    rw [saves, answer]
    rfl
  · refine ⟨r, .ok (), [event r], fun d lenient => ?_, .told () rfl answer (announces r)⟩
    obtain ⟨d', tells, made⟩ := r.dispatch_yields (.event (event r)) d lenient
    refine ⟨d', tells, Eq.trans ?_ made⟩
    simp only [saves, answer, Outcome.andThen, Except.mapError, blind]
    rfl

/-- A plan that is carried out is saved and announced, if it is accepted and has a change. -/
theorem carryOut_accounts {e : Editor α} {store : Store α} (hs : e.store = some store)
    {plan : Except Rejection (Plan α β)} {edits : Bool}
    (asks : ∀ p, plan = .ok p → p.change.isSome = edits) :
    Accounts store false edits fun d => (e.tellTo d).carryOut plan := by
  rcases plan with r | ⟨_ | c, b⟩
  · exact ⟨e, _, [], .quiet fun _ => rfl, .quiet (fun _ => ⟨.rejected r, rfl, rfl⟩) hs⟩
  · obtain rfl : false = edits := asks _ rfl
    exact ⟨e, _, [], .quiet fun _ => rfl, .quiet nofun hs⟩
  · obtain rfl : true = edits := asks _ rfl
    have committed : Accounts store false true fun d => (e.tellTo d).commit c :=
      put_accounts hs c.graph.syncEntry (fun _ _ => rfl) fun _ => ⟨rfl, rfl, rfl⟩
    exact committed.map fun _ => b

theorem close_accounts {e : Editor α} {store : Store α} (hs : e.store = some store) :
    Accounts store false false fun d => (e.tellTo d).close :=
  ⟨e, .ok (), [], e.dispatch_yields .shutdown, .quiet nofun hs⟩

variable [Scalar α]

theorem reset_accounts {e : Editor α} {store : Store α} (hs : e.store = some store) :
    Accounts store true true fun d => (e.tellTo d).reset :=
  put_accounts hs Graph.initial (fun _ _ => rfl) fun _ => ⟨rfl, rfl, rfl⟩

theorem addNode_accounts {e : Editor α} {store : Store α} (hs : e.store = some store)
    (category : String) (position : Option (Point α)) (label : Option String) :
    Accounts store false true fun d => (e.tellTo d).addNode category position label := by
  rcases named : Category.ofName? category with - | c
  · refine ⟨e, .error (.badCategory category), [], .quiet fun d => ?_,
      .quiet (fun _ => ⟨_, rfl, rfl⟩) hs⟩
    simp only [addNode, named]
    rfl
  · by_cases taken : e.graph.isTaken c = true
    · refine ⟨e, .error (.rejected (.duplicateTerminal c)), [], .quiet fun d => ?_,
        .quiet (fun _ => ⟨_, rfl, rfl⟩) hs⟩
      simp only [addNode, named]
      exact if_pos taken
    · let drawn : Editor α := { e with tokens := e.tokens.draw }
      have made (d : Dispatcher α) : (e.tellTo d).addNode category position label =
          (drawn.tellTo d).carryOut
            (e.graph.planAdd c (Graph.newId c e.tokens.next) position label) := by
        simp only [addNode, named]
        exact if_neg taken
      simp only [made]
      refine carryOut_accounts (show drawn.store = some store from hs) fun p hp => ?_
      obtain ⟨label, -, rfl⟩ := Result.exists_of_map_eq_ok hp
      rfl

end Editor

/-! ### Plans with a change -/

/-- A plan that makes a change whatever it has found. -/
theorem Plan.isSome_change_of_map {α β ζ : Type} {found : Except Rejection ζ}
    {plan : ζ → Plan α β} (changes : ∀ z, (plan z).change.isSome = true) (p : Plan α β)
    (h : found.map plan = .ok p) : p.change.isSome = true := by
  obtain ⟨z, -, rfl⟩ := Result.exists_of_map_eq_ok h
  exact changes z

namespace Graph

variable {α : Type} [Scalar α]

/-- Drawing an edge is a change unless there is one. -/
theorem isSome_change_of_planConnect {g : Graph α} {source target : String} {p : Plan α (Edge α)}
    (h : g.planConnect source target = .ok p) :
    p.change.isSome = (g.between source target).isEmpty := by
  obtain ⟨s, t, rfl, rfl, -, -, -, -, ⟨_, _, found, rfl⟩ | ⟨none, rfl⟩⟩ := planConnect_eq_ok h
  · rw [found]
    rfl
  · rw [none]
    rfl

omit [Scalar α] in
theorem isSome_change_of_planRename {g : Graph α} {id text : String} {p : Plan α (Node α)}
    (h : g.planRename id text = .ok p) : p.change.isSome = true := by
  obtain ⟨n, label, -, -, -, -, rfl⟩ := planRename_eq_ok h
  rfl

end Graph

end FlowCanvas

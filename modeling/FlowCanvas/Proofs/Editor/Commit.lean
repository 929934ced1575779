import FlowCanvas.Proofs.Session.History
import FlowCanvas.Proofs.Store.Save

/-!
# What an editor commits

To commit a graph is to put it in place with its code and to save it; then the processors are told.
`Editor.Commits e p o` says of the outcome `o` of a call to the editor `e` that it has committed the
graph `p`, or nothing, to the graph, the code and the store, whichever way the call has ended. A
failing processor undoes none of it, and the one failure that a commit has of its own is that of the
save.

The pointer reaches the editor through the controller of drags. A release commits once, however
often the controller listens.
-/

namespace FlowCanvas

universe u v

/-! ### Commits -/

/-- The graph that an accepted plan puts in place, if it has a change to make. -/
def Plan.committed? {α : Type u} {β : Type v} : Except Rejection (Plan α β) → Option (Graph α)
  | .ok ⟨some c, _⟩ => some c.graph.syncEntry
  | _ => none

namespace Editor

variable {α β γ : Type} [StateFormat α]

/-- What is stored after a graph is put in place, or nothing is. -/
def storeAfter (e : Editor α) : Option (Graph α) → Option (Store α)
  | none => e.store
  | some g => e.store.map fun s => (s.save g).state

theorem storeAfter_some {e : Editor α} {s : Store α} (hs : e.store = some s) (g : Graph α) :
    e.storeAfter (some g) = some (s.save g).state := by
  rw [storeAfter, hs]
  rfl

/-- An outcome is that of putting a graph in place, or of leaving everything as it is. A save that
fails is told. -/
structure Commits (e : Editor α) (p : Option (Graph α))
    (o : Outcome (Editor α) (EditorFault α) β) : Prop where
  /-- the graph -/
  graph : o.state.graph = p.getD e.graph
  /-- its code -/
  code : o.state.code = (p.map Graph.source).getD e.code
  /-- what is stored -/
  store : o.state.store = e.storeAfter p
  /-- saves that fail, and nothing else that could be taken for one -/
  unsaved : ∀ f, o.answer = .error (.file f) ↔
    ∃ g s, p = some g ∧ e.store = some s ∧ (s.save g).answer = .error f

namespace Commits

variable {e : Editor α} {p : Option (Graph α)} {o : Outcome (Editor α) (EditorFault α) β}

/-- Nothing is committed where nothing of the three is touched. -/
theorem of_eq (hgraph : o.state.graph = e.graph) (hcode : o.state.code = e.code)
    (hstore : o.state.store = e.store) (hfile : ∀ f, o.answer ≠ .error (.file f)) :
    Commits e none o := by
  refine ⟨hgraph, hcode, hstore, fun f => iff_of_false (hfile f) ?_⟩
  rintro ⟨g, s, hg, -⟩
  cases hg

theorem map (h : Commits e p o) (f : β → γ) : Commits e p (o.map f) := by
  refine ⟨h.graph, h.code, h.store, fun fault => ?_⟩
  rw [← h.unsaved]
  obtain ⟨state, answer⟩ := o
  cases answer <;> simp [Outcome.map, Except.map]

/-- A graph that is committed without a failing save is saved. -/
theorem saved {g : Graph α} (h : Commits e (some g) o) {s : Store α} (hs : e.store = some s)
    (done : ∀ f, o.answer ≠ .error (.file f)) :
    (s.save g).answer = .ok () ∧ o.state.store = some (s.save g).state := by
  refine ⟨?_, h.store.trans (storeAfter_some hs g)⟩
  rcases answer : (s.save g).answer with f | -
  · exact absurd ((h.unsaved f).2 ⟨g, s, rfl, hs, answer⟩) (done f)
  · rfl

/-- The tokens do not matter. -/
theorem of_tokens {tokens : Tokens} (h : Commits { e with tokens := tokens } p o) :
    Commits e p o := by
  have same : storeAfter { e with tokens := tokens } p = e.storeAfter p := by cases p <;> rfl
  exact ⟨h.graph, h.code, h.store.trans same, h.unsaved⟩

end Commits

omit [StateFormat α] in
/-- Telling the processors touches nothing of it, and fails for no file. -/
theorem announce_answer_ne (e : Editor α) (event : Event α) (f : FileFault) :
    (e.announce event).answer ≠ .error (.file f) := by
  unfold announce
  rcases (e.dispatcher.emit event) with ⟨state, problem | done⟩ <;> nofun

/-- A graph that is put in place is saved with its code, whether or not the save succeeds. -/
theorem put_save {e : Editor α} {s : Store α} (hs : e.store = some s) (g : Graph α) :
    (e.put g).save = ⟨{ e.put g with store := some (s.save g).state },
      (s.save g).answer.mapError .file⟩ := by
  obtain ⟨graph, code, store, dispatcher, viewport, tokens⟩ := e
  obtain rfl : store = some s := hs
  rfl

/-- A graph is put in place, saved and told of. -/
theorem put_commits (e : Editor α) (g : Graph α) (event : Editor α → Event α) :
    Commits e (some g) ((e.put g).save.andThen fun e _ => e.announce (event e)) := by
  rcases hstore : e.store with - | s
  · -- without a store nothing is saved, and there is nothing to fail
    have nowhere : (e.put g).save = .done (e.put g) () := by
      unfold save put
      rw [hstore]
    rw [nowhere]
    refine ⟨rfl, rfl, ?_, fun f => iff_of_false (announce_answer_ne _ _ f) ?_⟩
    · rw [storeAfter, hstore]
      exact hstore
    · rintro ⟨g', s, -, hs, -⟩
      rw [hstore] at hs
      cases hs
  · rw [put_save hstore]
    have stored := storeAfter_some hstore g
    rcases hanswer : (s.save g).answer with f | done
    · -- the save fails, so nobody is told
      refine ⟨rfl, rfl, stored.symm, fun f' => ?_⟩
      constructor
      · intro failed
        cases failed
        exact ⟨g, s, rfl, hstore, hanswer⟩
      · rintro ⟨g', s', hg, hs, hf⟩
        cases hg
        cases hstore.symm.trans hs
        cases hanswer.symm.trans hf
        rfl
    · refine ⟨rfl, rfl, stored.symm, fun f => iff_of_false (announce_answer_ne _ _ f) ?_⟩
      rintro ⟨g', s', hg, hs, hf⟩
      cases hg
      cases hstore.symm.trans hs
      cases hanswer.symm.trans hf

/-- **A plan that is carried out commits its change**, if it is accepted and has any. -/
theorem carryOut_commits (e : Editor α) (plan : Except Rejection (Plan α β)) :
    Commits e (Plan.committed? plan) (e.carryOut plan) := by
  rcases plan with r | ⟨_ | c, b⟩
  · exact .of_eq rfl rfl rfl nofun
  · exact .of_eq rfl rfl rfl nofun
  · exact (e.put_commits c.graph.syncEntry fun e => .changed e.graph e.code c.action c.subject).map
      fun _ => b

/-- The graph that the release of a drag commits, if one is on. -/
def released? (e : Editor α) (c : Controller α) : Option (Graph α) :=
  c.drag.bind fun d => Plan.committed? (e.graph.planPin d.edge d.live)

theorem release_commits (e : Editor α) (c : Controller α) :
    Commits e (e.released? c) ((host.release e c).mapState Prod.fst) := by
  obtain ⟨drag, source⟩ := c
  rcases drag with - | d
  · exact .of_eq rfl rfl rfl nofun
  · exact ((e.carryOut_commits (e.graph.planPin d.edge d.live)).map fun _ => ()).map
      fun _ => some d.live

variable [Scalar α]

theorem reset_commits (e : Editor α) : Commits e (some Graph.initial) e.reset :=
  e.put_commits Graph.initial fun e => .reset e.graph e.code

/-- The graph that adding a node commits. -/
def added? (e : Editor α) (category : String) (position : Option (Point α))
    (label : Option String) : Option (Graph α) :=
  (Category.ofName? category).bind fun c =>
    if e.graph.isTaken c then none
    else Plan.committed? (e.graph.planAdd c (Graph.newId c e.tokens.next) position label)

theorem addNode_commits (e : Editor α) (category : String) (position : Option (Point α))
    (label : Option String) :
    Commits e (e.added? category position label) (e.addNode category position label) := by
  unfold addNode added?
  rcases Category.ofName? category with - | c
  · exact .of_eq rfl rfl rfl nofun
  simp only [Option.bind_some]
  split
  · exact .of_eq rfl rfl rfl nofun
  · exact (carryOut_commits { e with tokens := e.tokens.draw } _).of_tokens

/-! ### Pointer events -/

/-- The pointer goes up: a drag is released once, if the controller listens at all. -/
theorem push_up_commits (screen : Point α) (e : Editor α) (c : Controller α) :
    Commits e (if c.listeners = 0 then none else e.released? c)
      ((host.push (.up screen) (e, c)).mapState Prod.fst) := by
  rw [DragHost.push_eq]
  split
  · exact .of_eq rfl rfl rfl nofun
  · rw [DragHost.handle_up]
    exact (e.release_commits c).map fun _ => ()

/-- Any other event of the pointer touches nothing but the preview, and fails for no file. -/
theorem push_commits_none {event : PointerEvent α} (h : ∀ screen, event ≠ .up screen)
    (e : Editor α) (c : Controller α) :
    Commits e none ((host.push event (e, c)).mapState Prod.fst) := by
  rw [DragHost.push_eq]
  split
  · exact .of_eq rfl rfl rfl nofun
  · cases event with
    | down edge screen =>
      rw [DragHost.handle_down]
      split <;> exact .of_eq rfl rfl rfl nofun
    | move screen =>
      rw [DragHost.handle_move]
      split <;> exact .of_eq rfl rfl rfl nofun
    | up screen => exact absurd rfl (h screen)

end Editor

end FlowCanvas

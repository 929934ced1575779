import FlowCanvas.Proofs.Graph.Alike
import FlowCanvas.Proofs.Graph.Storable
import FlowCanvas.Proofs.Session.Views
import FlowCanvas.Proofs.Store.Shape

/-!
# Editors that no edit tells apart

An editor that has kept its graph and one that has loaded it again differ in whether a coordinate is
whole, and in what their stores hold. Neither matters: they are twins (`Editor.Twins`), and an edit
makes twins of twins and answers alike (`Session.run_twins`). The stores of twins have one shape, so
they take and refuse the same saves.
-/

namespace FlowCanvas

open Result (Agree)

/-! ### Edits without drags -/

namespace Call

/-- An edit, which is given doubles for its points; not a call that is part of a drag. -/
def IsEdit : Call Number → Prop
  | .addNode _ position _ => ∀ p ∈ position, p.IsReal
  | .moveNode _ position => position.IsReal
  | .pinControl _ point => point.IsReal
  | .renameNode .. => True
  | .removeNodes _ => True
  | .connect .. => True
  | .removeEdges _ => True
  | .setName _ => True
  | .reset => True
  | .setViewport .. => True
  | _ => False

end Call

/-- What settling does not change, graphs that settle to the same have in common. -/
theorem Graph.eq_of_settled_eq {β : Type} (f : Graph Number → β)
    (settled : ∀ g : Graph Number, f g.settled = f g) {g g' : Graph Number}
    (h : g.settled = g'.settled) : f g = f g' := by
  rw [← settled g, h, settled]

/-- Answers that are the same, or tell nodes that are alike. -/
def Answer.Alike : Answer Number → Answer Number → Prop
  | .node n, .node m => n.Alike m
  | a, b => a = b

/-! ### Dispatchers that raise nothing -/

/-- Calls that all succeed and keep what the next one needs, one after the other. -/
theorem Outcome.each_eq_done {σ ε ι : Type} {P : σ → Prop} {step : ι → σ → Outcome σ ε Unit}
    (keep : ∀ i s, P s → ∃ s', step i s = .done s' () ∧ P s') :
    ∀ (items : List ι) (s : σ), P s → ∃ s', each step items s = .done s' () ∧ P s'
  | [], s, h => ⟨s, rfl, h⟩
  | i :: rest, s, h => by
    obtain ⟨s', made, h'⟩ := keep i s h
    rw [each, made]
    exact each_eq_done keep rest s' h'

namespace Dispatcher

variable {α : Type}

/-- The failure of a processor is not passed on, or there are no processors. -/
def IsTolerant (d : Dispatcher α) : Prop := d.strict = true → d.processors = []

theorem dispatch_of_isTolerant {d : Dispatcher α} (h : d.IsTolerant) (m : Message α) :
    ∃ d', d.dispatch m = .done d' () ∧ d'.IsTolerant := by
  unfold dispatch
  -- deliveries keep a lenient dispatcher lenient, and a strict one has nothing to deliver
  by_cases strict : d.strict = true
  · rw [h strict]
    exact ⟨d, rfl, h⟩
  have deliver (x : Processor α × Nat) (d : Dispatcher α) (lenient : ¬d.strict = true) :
      ∃ d', d.deliver m x.2 x.1 = .done d' () ∧ ¬d'.strict = true := by
    unfold Dispatcher.deliver
    simp only
    split
    · exact ⟨_, rfl, lenient⟩
    · rw [if_neg lenient]
      exact ⟨_, rfl, lenient⟩
  obtain ⟨d', done, lenient⟩ := Outcome.each_eq_done deliver d.processors.zipIdx d strict
  exact ⟨d', done, fun strict => absurd strict lenient⟩

end Dispatcher

namespace Editor

/-! ### Sound editors -/

/-- An editor that has come from opening a store: its graph can be stored and has its entry
recorded, and its code is that of the graph. No processor can make a call fail. -/
structure IsSound (e : Editor Number) : Prop where
  /-- the graph can be stored -/
  storable : e.graph.IsStorable
  /-- its entry is recorded -/
  synced : e.graph.IsSynced
  /-- the code is that of the graph -/
  code : e.code = e.graph.source
  /-- failures of processors are not passed on -/
  tolerant : e.dispatcher.IsTolerant

variable {e e' : Editor Number}

theorem exists_announce_eq (h : e.dispatcher.IsTolerant) (event : Event Number) :
    ∃ d : Dispatcher Number, d.IsTolerant ∧
      e.announce event = .done { e with dispatcher := d } () := by
  obtain ⟨d, told, hd⟩ := Dispatcher.dispatch_of_isTolerant h (.event event)
  refine ⟨d, hd, ?_⟩
  rw [announce, Dispatcher.emit, told]
  rfl

/-- Where telling cannot fail, a graph that is put in place is saved and told of, and the call
answers what the save does. -/
theorem exists_put_save_eq {s : Store Number} (h : e.dispatcher.IsTolerant) (hs : e.store = some s)
    (g : Graph Number) (event : Editor Number → Event Number) :
    ∃ d : Dispatcher Number, d.IsTolerant ∧
      ((e.put g).save.andThen fun e _ => e.announce (event e)) =
        ⟨{ e.put g with store := some (s.save g).state, dispatcher := d },
          (s.save g).answer.mapError .file⟩ := by
  rw [Editor.put_save hs]
  cases (s.save g).answer with
  | error f => exact ⟨e.dispatcher, h, rfl⟩
  | ok done =>
    let saved : Editor Number := { e.put g with store := some (s.save g).state }
    have tolerant : saved.dispatcher.IsTolerant := h
    exact exists_announce_eq tolerant (event saved)

/-! ### Twins -/

/-- Two sound editors with the same graph up to settling, with stores of one shape, and with the
same tokens. -/
structure Twins (e e' : Editor Number) : Prop where
  /-- the one is sound -/
  left : e.IsSound
  /-- the other is sound -/
  right : e'.IsSound
  /-- their graphs settle to the same -/
  graph : e.graph.settled = e'.graph.settled
  /-- their stores have one shape -/
  store : ∃ s s', e.store = some s ∧ e'.store = some s' ∧ s.blank = s'.blank
  /-- their tokens are the same -/
  tokens : e.tokens = e'.tokens

namespace Twins

theorem of_isSound (h : e.IsSound) {s : Store Number} (hs : e.store = some s) : Twins e e where
  left := h
  right := h
  graph := by rfl
  store := ⟨s, s, hs, hs, by rfl⟩
  tokens := by rfl

theorem trans {e'' : Editor Number} (h : Twins e e') (h' : Twins e' e'') : Twins e e'' where
  left := h.left
  right := h'.right
  graph := h.graph.trans h'.graph
  store := by
    obtain ⟨s, s', hs, hs', shape⟩ := h.store
    obtain ⟨t, t', ht, ht', shape'⟩ := h'.store
    obtain rfl := Option.some.inj (hs'.symm.trans ht)
    exact ⟨s, t', hs, ht', shape.trans shape'⟩
  tokens := h.tokens.trans h'.tokens

/-- Twins have the same code. -/
theorem code (h : Twins e e') : e.code = e'.code := by
  rw [h.left.code, h.right.code, ← Graph.source_settled, h.graph, Graph.source_settled]

theorem draw (h : Twins e e') :
    Twins { e with tokens := e.tokens.draw } { e' with tokens := e'.tokens.draw } where
  left := ⟨h.left.storable, h.left.synced, h.left.code, h.left.tolerant⟩
  right := ⟨h.right.storable, h.right.synced, h.right.code, h.right.tolerant⟩
  graph := h.graph
  store := h.store
  tokens := congrArg Tokens.draw h.tokens

/-- How the canvas is seen does not matter. -/
theorem look (h : Twins e e') (v : Viewport Number) :
    Twins { e with viewport := v } { e' with viewport := v } where
  left := ⟨h.left.storable, h.left.synced, h.left.code, h.left.tolerant⟩
  right := ⟨h.right.storable, h.right.synced, h.right.code, h.right.tolerant⟩
  graph := h.graph
  store := h.store
  tokens := h.tokens

/-- **Twins put the same graph in place alike.** -/
theorem put_save (h : Twins e e') {g g' : Graph Number} (hg : g.IsStorable) (hg' : g'.IsStorable)
    (synced : g.IsSynced) (synced' : g'.IsSynced) (same : g.settled = g'.settled)
    (event event' : Editor Number → Event Number) :
    Twins ((e.put g).save.andThen fun e _ => e.announce (event e)).state
        ((e'.put g').save.andThen fun e _ => e.announce (event' e)).state ∧
      ((e.put g).save.andThen fun e _ => e.announce (event e)).answer =
        ((e'.put g').save.andThen fun e _ => e.announce (event' e)).answer := by
  obtain ⟨s, s', hs, hs', shape⟩ := h.store
  obtain ⟨answer, shape⟩ := Store.save_of_blank_eq shape g g'
  obtain ⟨d, hd, put⟩ := exists_put_save_eq h.left.tolerant hs g event
  obtain ⟨d', hd', put'⟩ := exists_put_save_eq h.right.tolerant hs' g' event'
  rw [put, put']
  refine ⟨?_, congrArg (Except.mapError EditorFault.file) answer⟩
  exact {
    left := ⟨hg, synced, by rfl, hd⟩
    right := ⟨hg', synced', by rfl, hd'⟩
    graph := same
    store := ⟨_, _, by rfl, by rfl, shape⟩
    tokens := h.tokens }

/-- **Twins carry out plans alike** that come to the same up to settling: answers that settle to
the same by `f` are related by `R`, if they satisfy what the plans keep. -/
theorem carryOut {β : Type} (h : Twins e e') {plan plan' : Except Rejection (Plan Number β)}
    {f : β → β} {Q : β → Prop} {R : β → β → Prop}
    (same : plan.map (Plan.settled f) = plan'.map (Plan.settled f))
    (keeps : Plan.Keeps Q plan) (keeps' : Plan.Keeps Q plan')
    (alike : ∀ b b', Q b → Q b' → f b = f b' → R b b') :
    Twins (e.carryOut plan).state (e'.carryOut plan').state ∧
      Agree R (e.carryOut plan).answer (e'.carryOut plan').answer := by
  rcases plan with r | ⟨_ | c, b⟩ <;> rcases plan' with r' | ⟨_ | c', b'⟩
  -- plans that come to the same are of one kind: refused, without a change, or with one
  all_goals simp only [Except.map, Plan.settled, Option.map_none, Option.map_some,
    Except.ok.injEq, Except.error.injEq, Plan.mk.injEq, Option.some.injEq, Change.mk.injEq,
    reduceCtorEq, false_and, true_and] at same
  · subst same
    exact ⟨h, .fault _⟩
  · exact ⟨h, .result (alike b b' (keeps _ rfl).2 (keeps' _ rfl).2 same)⟩
  · obtain ⟨⟨graphs, -, -⟩, answers⟩ := same
    obtain ⟨stored, kept⟩ := keeps _ rfl
    obtain ⟨stored', kept'⟩ := keeps' _ rfl
    have synced : c.graph.syncEntry.settled = c'.graph.syncEntry.settled := by
      rw [← Graph.syncEntry_settled, graphs, Graph.syncEntry_settled]
    obtain ⟨twins, ends⟩ := h.put_save (stored c rfl).syncEntry (stored' c' rfl).syncEntry
      (Graph.isSynced_syncEntry _) (Graph.isSynced_syncEntry _) synced
      (fun e => .changed e.graph e.code c.action c.subject)
      (fun e => .changed e.graph e.code c'.action c'.subject)
    exact ⟨twins, (Agree.of_eq ends).map fun _ _ _ => alike b b' kept kept' answers⟩

/-- Twins carry out a plan of a node alike. -/
theorem carryOut_node (h : Twins e e')
    (plan : Graph Number → Except Rejection (Plan Number (Node Number)))
    (settled : ∀ g : Graph Number,
      (plan g.settled).map (Plan.settled Node.settled) = (plan g).map (Plan.settled Node.settled))
    (keeps : ∀ g : Graph Number, g.IsStorable → Plan.Keeps Node.IsStorable (plan g)) :
    Twins (e.carryOut (plan e.graph)).state (e'.carryOut (plan e'.graph)).state ∧
      Agree Node.Alike (e.carryOut (plan e.graph)).answer (e'.carryOut (plan e'.graph)).answer :=
  h.carryOut (Graph.eq_of_settled_eq (fun g => (plan g).map (Plan.settled _)) settled h.graph)
    (keeps _ h.left.storable) (keeps _ h.right.storable) fun _ _ => Node.alike_of_settled_eq

/-- Twins carry out a plan alike whose answer is not settled: they answer the same. -/
theorem carryOut_same {β : Type} (h : Twins e e')
    (plan : Graph Number → Except Rejection (Plan Number β))
    (settled : ∀ g : Graph Number,
      (plan g.settled).map (Plan.settled id) = (plan g).map (Plan.settled id))
    (keeps : ∀ g : Graph Number, g.IsStorable → Plan.Keeps (fun _ => True) (plan g)) :
    Twins (e.carryOut (plan e.graph)).state (e'.carryOut (plan e'.graph)).state ∧
      Agree Eq (e.carryOut (plan e.graph)).answer (e'.carryOut (plan e'.graph)).answer :=
  h.carryOut (Graph.eq_of_settled_eq (fun g => (plan g).map (Plan.settled id)) settled h.graph)
    (keeps _ h.left.storable) (keeps _ h.right.storable) fun _ _ _ _ same => same

/-- **Twins add nodes alike.** -/
theorem addNode (h : Twins e e') (category : String) {position : Option (Point Number)}
    (real : ∀ p ∈ position, p.IsReal) (label : Option String) :
    Twins (e.addNode category position label).state (e'.addNode category position label).state ∧
      Agree Node.Alike (e.addNode category position label).answer
        (e'.addNode category position label).answer := by
  have taken (c : Category) : e.graph.isTaken c = e'.graph.isTaken c :=
    Graph.eq_of_settled_eq (·.isTaken c) (fun g => g.isTaken_settled c) h.graph
  unfold Editor.addNode
  rcases Category.ofName? category with - | c
  · exact ⟨h, .fault _⟩
  simp only [taken, h.tokens]
  split
  · exact ⟨h, .fault _⟩
  · -- both draw the token, also where the label is refused afterwards
    have drawn := h.draw
    rw [h.tokens] at drawn
    exact drawn.carryOut
      (Graph.eq_of_settled_eq (fun g => (g.planAdd c _ position label).map (Plan.settled _))
        (fun g => g.planAdd_settled c _ position label) h.graph)
      (h.left.storable.planAdd c _ real label) (h.right.storable.planAdd c _ real label)
      fun _ _ => Node.alike_of_settled_eq

end Twins

end Editor

/-! ### Calls -/

namespace Session

variable {s t : Session Number}

/-- **Twins make of a call twins again, and answer alike.** -/
theorem run_twins (h : s.editor.Twins t.editor) {c : Call Number} (hc : c.IsEdit) :
    (s.run c).state.editor.Twins (t.run c).state.editor ∧
      Agree Answer.Alike (s.run c).answer (t.run c).answer := by
  cases c with
  | addNode category position label =>
    obtain ⟨twins, answers⟩ := h.addNode category hc label
    exact ⟨twins, answers.map fun _ _ => id⟩
  | renameNode node text =>
    obtain ⟨twins, answers⟩ := h.carryOut_node (·.planRename node text)
      (fun g => g.planRename_settled node text) fun g hg => hg.planRename node text
    exact ⟨twins, answers.map fun _ _ => id⟩
  | moveNode node position =>
    obtain ⟨twins, answers⟩ := h.carryOut_node (·.planMove node position)
      (fun g => g.planMove_settled node position) fun g hg => hg.planMove node hc
    exact ⟨twins, answers.map fun _ _ => id⟩
  | removeNodes nodes =>
    obtain ⟨twins, answers⟩ := h.carryOut_same (·.planRemoveNodes nodes)
      (fun g => g.planRemoveNodes_settled nodes) fun g hg => hg.planRemoveNodes nodes
    exact ⟨twins, answers.map fun _ _ _ => rfl⟩
  | connect source target =>
    obtain ⟨twins, answers⟩ := h.carryOut_same (·.planConnect source target)
      (fun g => g.planConnect_settled source target) fun g hg => hg.planConnect source target
    exact ⟨twins, answers.map fun _ _ => congrArg Answer.edge⟩
  | removeEdges edges =>
    obtain ⟨twins, answers⟩ := h.carryOut_same (·.planRemoveEdges edges)
      (fun g => g.planRemoveEdges_settled edges) fun g hg => hg.planRemoveEdges edges
    exact ⟨twins, answers.map fun _ _ _ => rfl⟩
  | pinControl edge point =>
    obtain ⟨twins, answers⟩ := h.carryOut_same (·.planPin edge point)
      (fun g => g.planPin_settled edge point) fun g hg => hg.planPin edge hc
    exact ⟨twins, answers.map fun _ _ => congrArg Answer.edge⟩
  | setName raw =>
    obtain ⟨twins, answers⟩ := h.carryOut_same (fun g => .ok (g.planName raw))
      (fun g => congrArg Except.ok (g.planName_settled raw)) fun g hg => hg.planName raw
    exact ⟨twins, answers.map fun _ _ => congrArg Answer.name⟩
  | reset =>
    obtain ⟨twins, ends⟩ := h.put_save Graph.isStorable_initial Graph.isStorable_initial
      Graph.isSynced_initial Graph.isSynced_initial rfl (fun e => .reset e.graph e.code)
      (fun e => .reset e.graph e.code)
    exact ⟨twins, (Agree.of_eq ends).map fun _ _ _ => rfl⟩
  | setViewport x y zoom =>
    simp only [run, edit, Editor.setViewport]
    cases Viewport.of x y zoom with
    | error fault => exact ⟨h, .fault _⟩
    | ok v => exact ⟨h.look v, .result rfl⟩
  -- the other calls are no edits
  | close => exact hc.elim
  | beginDrag edge screen => exact hc.elim
  | moveDrag screen => exact hc.elim
  | releaseDrag => exact hc.elim
  | push event => exact hc.elim

end Session

end FlowCanvas

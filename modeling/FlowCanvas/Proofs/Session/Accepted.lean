import FlowCanvas.Proofs.Session.Refusal
import FlowCanvas.Proofs.Session.Views

/-!
# Accepted calls

A call that is not refused has made its edit, also if it fails after that because a save fails or a
processor does. What it leaves is told by its plan (`Editor.carryOut_accepted`), and for each call
that edits one lemma says all of an accepted one: the guards that it has passed, the graph that it
leaves, and the answer if there is one. A refused call leaves the graph alone
(`Session.graph_of_refused`).
-/

namespace FlowCanvas

universe u v

namespace Outcome

variable {α : Type} {σ : Type u} {β γ : Type v} {o : Outcome σ (EditorFault α) β}

@[simp] theorem isRefused_map (o : Outcome σ (EditorFault α) β) (f : β → γ) :
    (o.map f).isRefused = o.isRefused := by
  obtain ⟨s, f' | b⟩ := o <;> rfl

theorem isRefused_eq_true : o.isRefused = true ↔
    ∃ f, o.answer = .error f ∧ f.isRefusal = true := by
  obtain ⟨s, f | b⟩ := o
  · exact ⟨fun h => ⟨f, rfl, h⟩, by rintro ⟨f, ⟨⟩, h⟩; exact h⟩
  · exact iff_of_false Bool.false_ne_true (by rintro ⟨f, ⟨⟩, -⟩)

end Outcome

/-! ### Plans -/

/-- Nodes that are all there can be removed. -/
theorem Graph.exists_planRemoveNodes_eq_ok {α : Type u} {g : Graph α} {ids : List String}
    (present : ∀ id ∈ ids, g.has id = true) : ∃ p, g.planRemoveNodes ids = .ok p := by
  have each : ∀ id ∈ ids, ∃ n, g.requireNode id = .ok n := by
    intro id hid
    obtain ⟨n, hn⟩ := exists_node? (present id hid)
    exact ⟨n, by rw [requireNode, hn]⟩
  obtain ⟨ns, required⟩ := Result.exists_mapM_eq_ok each
  exact ⟨_, congrArg (Except.map _) required⟩

/-- Edges that are all there can be removed. -/
theorem Graph.exists_planRemoveEdges_eq_ok {α : Type u} {g : Graph α} {ids : List String}
    (present : ∀ id ∈ ids, ∃ e ∈ g.edges, e.id = id) : ∃ p, g.planRemoveEdges ids = .ok p := by
  have each : ∀ id ∈ ids, ∃ e, g.requireEdge id = .ok e := by
    intro id hid
    obtain ⟨e, he, rfl⟩ := present id hid
    obtain ⟨d, hd⟩ := exists_edge? he
    exact ⟨d, by rw [requireEdge, hd]⟩
  obtain ⟨es, required⟩ := Result.exists_mapM_eq_ok each
  exact ⟨_, congrArg (Except.map _) required⟩

/-- A graph is another one, or that with the control point of an edge pinned. -/
def Graph.PinnedAtMost {α : Type u} (g h : Graph α) : Prop :=
  h = g ∨ ∃ e point, g.edge? e.id = some e ∧
    h = (g.setEdge { e with control := some point, pinned := true }).syncEntry

theorem Graph.planPin_pinnedAtMost {α : Type u} (g : Graph α) (id : String) (point : Point α) :
    g.PinnedAtMost ((Plan.committed? (g.planPin id point)).getD g) := by
  rcases plan : g.planPin id point with r | p
  · exact .inl rfl
  · obtain ⟨e, -, found, rfl⟩ := planPin_eq_ok plan
    exact .inr ⟨e, point, found, rfl⟩

/-! ### Carrying out -/

namespace Editor

theorem released?_pinnedAtMost {α : Type} (e : Editor α) (c : Controller α) :
    e.graph.PinnedAtMost ((e.released? c).getD e.graph) := by
  obtain ⟨drag, source⟩ := c
  rcases drag with - | d
  · exact .inl rfl
  · exact e.graph.planPin_pinnedAtMost d.edge d.live

variable {α β : Type} [StateFormat α] {e : Editor α}

/-- **A plan that is carried out without being refused** has been accepted. The graph is the one
that it puts in place, if any, and the answer is that of the plan. -/
theorem carryOut_accepted {plan : Except Rejection (Plan α β)}
    (accepted : (e.carryOut plan).isRefused = false) :
    ∃ p, plan = .ok p ∧
      (e.carryOut plan).state.graph =
        (p.change.map fun c => c.graph.syncEntry).getD e.graph ∧
      ∀ b, (e.carryOut plan).answer = .ok b → b = p.answer := by
  rcases plan with r | ⟨_ | c, b⟩
  · cases accepted
  · exact ⟨_, rfl, rfl, fun _ h => (Except.ok.inj h).symm⟩
  · refine ⟨_, rfl, e.commit_graph c, fun _ h => ?_⟩
    obtain ⟨-, -, rfl⟩ := Result.exists_of_map_eq_ok h
    rfl

/-- An accepted plan is not refused when it is carried out. -/
theorem carryOut_not_refused {plan : Except Rejection (Plan α β)} {p : Plan α β}
    (h : plan = .ok p) : (e.carryOut plan).isRefused = false := by
  rw [← Bool.not_eq_true, Outcome.isRefused_eq_true]
  rintro ⟨f, failed, refusal⟩
  obtain ⟨r, refused, -⟩ := carryOut_refused refusal failed
  cases h.symm.trans refused

variable [Scalar α]

theorem addNode_accepted {category : String} {position : Option (Point α)}
    {label : Option String} (accepted : (e.addNode category position label).isRefused = false) :
    ∃ c text, let n := e.graph.newNode c (Graph.newId c e.tokens.next) text position
      e.drawnId? category = some n.id ∧ e.graph.isTaken c = false ∧
        Graph.newLabel c n.id label = .ok text ∧
        (e.addNode category position label).state.graph = (e.graph.addNode n).syncEntry ∧
        ∀ m, (e.addNode category position label).answer = .ok m → m = n := by
  rcases e.addNode_cases category position label with ⟨f, refusal, ends⟩ | ⟨c, named, free, ends⟩
  · rw [ends] at accepted
    cases accepted.symm.trans refusal
  rw [ends] at accepted ⊢
  obtain ⟨p, plan, graph, answer⟩ := carryOut_accepted accepted
  obtain ⟨text, hlabel, rfl⟩ := Graph.planAdd_eq_ok plan
  exact ⟨c, text, drawnId?_of_free named free, free, hlabel, graph, answer⟩

end Editor

/-! ### Calls -/

/-- Whether a call can do more to the graph than to pin an edge. -/
def Call.isShaping {α : Type} : Call α → Bool
  | pinControl .. => false
  | close => false
  | setViewport .. => false
  | beginDrag .. => false
  | moveDrag .. => false
  | releaseDrag => false
  | push .. => false
  | _ => true

namespace Session

variable {α : Type} [Scalar α] [StateFormat α] {s : Session α}

/-- **A refused call leaves the graph alone.** -/
theorem graph_of_refused {c : Call α} (refused : (s.run c).isRefused = true) :
    (s.run c).state.graph = s.graph := by
  obtain ⟨f, failed, refusal⟩ := Outcome.isRefused_eq_true.mp refused
  obtain ⟨unchanged, dropped⟩ := s.unchanged_of_refused c refusal failed
  rcases released : s.released? c with - | d
  · obtain ⟨tokens, state⟩ := unchanged released
    rw [state]
    rfl
  · rw [(dropped d released).2.2]
    rfl

theorem addNode_accepted {category : String} {position : Option (Point α)}
    {label : Option String}
    (accepted : (s.run (.addNode category position label)).isRefused = false) :
    ∃ c text, let n := s.graph.newNode c (Graph.newId c s.editor.tokens.next) text position
      s.drawnId? (.addNode category position label) = some n.id ∧ s.graph.isTaken c = false ∧
        Graph.newLabel c n.id label = .ok text ∧
        (s.run (.addNode category position label)).state.graph =
          (s.graph.addNode n).syncEntry ∧
        ∀ a, (s.run (.addNode category position label)).answer = .ok a → a = .node n := by
  obtain ⟨c, text, drawn, free, hlabel, graph, answer⟩ :=
    Editor.addNode_accepted ((Outcome.isRefused_map _ _).symm.trans accepted)
  refine ⟨c, text, drawn, free, hlabel, graph, fun a h => ?_⟩
  obtain ⟨m, hm, rfl⟩ := Result.exists_of_map_eq_ok h
  exact congrArg Answer.node (answer m hm)

theorem renameNode_accepted {node text : String}
    (accepted : (s.run (.renameNode node text)).isRefused = false) :
    ∃ n label, n.id = node ∧ s.graph.node? n.id = some n ∧ n.category.isTerminal = false ∧
      Graph.requireLabel node text = .ok label ∧
      (s.run (.renameNode node text)).state.graph = (s.graph.setNode { n with
        label := label
        identifier := Identifier.ofLabel label s.graph.nodes (some n.id) none }).syncEntry := by
  obtain ⟨p, plan, graph, -⟩ :=
    Editor.carryOut_accepted ((Outcome.isRefused_map _ _).symm.trans accepted)
  obtain ⟨n, label, hid, found, hterminal, hlabel, rfl⟩ := Graph.planRename_eq_ok plan
  exact ⟨n, label, hid, found, hterminal, hlabel, graph⟩

theorem moveNode_accepted {node : String} {position : Point α}
    (accepted : (s.run (.moveNode node position)).isRefused = false) :
    ∃ n, n.id = node ∧ s.graph.node? n.id = some n ∧
      (s.run (.moveNode node position)).state.graph =
        ((s.graph.setNode { n with position := position }).recenter (some [n.id])).syncEntry := by
  obtain ⟨p, plan, graph, -⟩ :=
    Editor.carryOut_accepted ((Outcome.isRefused_map _ _).symm.trans accepted)
  obtain ⟨n, hid, found, rfl⟩ := Graph.planMove_eq_ok plan
  exact ⟨n, hid, found, graph⟩

theorem removeNodes_accepted {ids : List String}
    (accepted : (s.run (.removeNodes ids)).isRefused = false) :
    (∀ id ∈ ids, s.graph.has id = true) ∧
      (s.run (.removeNodes ids)).state.graph = (s.graph.removeNodes ids).syncEntry := by
  obtain ⟨p, plan, graph, -⟩ :=
    Editor.carryOut_accepted ((Outcome.isRefused_map _ _).symm.trans accepted)
  obtain ⟨present, rfl⟩ := Graph.planRemoveNodes_eq_ok plan
  exact ⟨present, graph⟩

theorem removeNodes_not_refused {ids : List String}
    (present : ∀ id ∈ ids, s.graph.has id = true) :
    (s.run (.removeNodes ids)).isRefused = false := by
  obtain ⟨p, plan⟩ := Graph.exists_planRemoveNodes_eq_ok present
  exact (Outcome.isRefused_map _ _).trans (Editor.carryOut_not_refused plan)

/-- An edge that is drawn: the one that is there is the answer and nothing is changed, or there is
none and a new one is drawn. -/
theorem connect_accepted {source target : String}
    (accepted : (s.run (.connect source target)).isRefused = false) :
    ∃ m n, m.id = source ∧ n.id = target ∧ s.graph.node? m.id = some m ∧
      s.graph.node? n.id = some n ∧ m.category ≠ .stop ∧ n.category ≠ .start ∧
      ((∃ present rest, s.graph.between source target = present :: rest ∧
          (s.run (.connect source target)).state.graph = s.graph ∧
          ∀ a, (s.run (.connect source target)).answer = .ok a → a = .edge present) ∨
        (s.graph.between source target = [] ∧
          let e := Graph.newEdge source target
          let drawn := (s.graph.addEdge e).recenter (some [source, target])
          (s.run (.connect source target)).state.graph = drawn.syncEntry ∧
          ∀ a, (s.run (.connect source target)).answer = .ok a →
            a = .edge ((drawn.edge? e.id).getD e))) := by
  obtain ⟨p, plan, graph, answer⟩ :=
    Editor.carryOut_accepted ((Outcome.isRefused_map _ _).symm.trans accepted)
  have answered (a : Answer α) (h : (s.run (.connect source target)).answer = .ok a) :
      a = .edge p.answer := by
    obtain ⟨e, he, rfl⟩ := Result.exists_of_map_eq_ok h
    exact congrArg Answer.edge (answer e he)
  obtain ⟨m, n, rfl, rfl, hm, hn, hstop, hstart, ⟨present, rest, found, rfl⟩ | ⟨hnone, rfl⟩⟩ :=
    Graph.planConnect_eq_ok plan
  · exact ⟨m, n, rfl, rfl, hm, hn, hstop, hstart, .inl ⟨present, rest, found, graph, answered⟩⟩
  · exact ⟨m, n, rfl, rfl, hm, hn, hstop, hstart, .inr ⟨hnone, graph, answered⟩⟩

theorem removeEdges_accepted {ids : List String}
    (accepted : (s.run (.removeEdges ids)).isRefused = false) :
    (∀ id ∈ ids, ∃ e ∈ s.graph.edges, e.id = id) ∧
      (s.run (.removeEdges ids)).state.graph = (s.graph.removeEdges ids).syncEntry := by
  obtain ⟨p, plan, graph, -⟩ :=
    Editor.carryOut_accepted ((Outcome.isRefused_map _ _).symm.trans accepted)
  obtain ⟨present, rfl⟩ := Graph.planRemoveEdges_eq_ok plan
  exact ⟨present, graph⟩

theorem removeEdges_not_refused {ids : List String}
    (present : ∀ id ∈ ids, ∃ e ∈ s.graph.edges, e.id = id) :
    (s.run (.removeEdges ids)).isRefused = false := by
  obtain ⟨p, plan⟩ := Graph.exists_planRemoveEdges_eq_ok present
  exact (Outcome.isRefused_map _ _).trans (Editor.carryOut_not_refused plan)

theorem setName_graph (s : Session α) (raw : String) :
    (s.run (.setName raw)).state.graph =
      (s.graph.rename (Identifier.ofGraphName raw)).syncEntry :=
  s.editor.commit_graph ⟨_, _, _⟩

theorem reset_graph (s : Session α) : (s.run .reset).state.graph = Graph.initial :=
  s.editor.reset_graph

/-- **Any other call pins at most** the control point of an edge: by name, or because it releases a
drag. -/
theorem run_pinnedAtMost (s : Session α) {c : Call α} (other : c.isShaping = false) :
    s.graph.PinnedAtMost (s.run c).state.graph := by
  have left : (s.run c).state.graph = (s.committed? c).getD s.graph := (s.run_commits c).graph
  rw [left]
  cases c with
  | pinControl edge point => exact s.graph.planPin_pinnedAtMost edge point
  | releaseDrag => exact s.editor.released?_pinnedAtMost s.controller
  | push event =>
    cases event with
    | up screen =>
      rw [committed?]
      split
      · exact .inl rfl
      · exact s.editor.released?_pinnedAtMost s.controller
    | down edge screen => exact .inl rfl
    | move screen => exact .inl rfl
  | close => exact .inl rfl
  | setViewport x y zoom => exact .inl rfl
  | beginDrag edge screen => exact .inl rfl
  | moveDrag screen => exact .inl rfl
  | _ => cases other

end Session

end FlowCanvas

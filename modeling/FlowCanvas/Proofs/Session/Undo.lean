import FlowCanvas.Proofs.Graph.Recenter
import FlowCanvas.Proofs.Session.Accepted
import FlowCanvas.Proofs.Session.Placement

/-!
# Adding and removing

A node that has just been placed, or an edge that has just been drawn, can be removed again, and
then the graph and its code are what they were before (`Session.undo_after`). For a node this is
because no edge touches a new id. To draw an edge also brings the control points of other edges back
to the middle, but on a canvas that has been fresh they are there already, as far as they are not
pinned, so nothing but the new edge is left to take away. The recorded entry needs no memory of what
it was: it is derived from the graph each time.
-/

namespace FlowCanvas

universe u

namespace Graph

variable {α : Type u} {g h : Graph α}

/-- The entry that is recorded is told by the rest of the graph. -/
theorem IsSynced.syncEntry_eq_of_parts (synced : g.IsSynced) (nodes : h.nodes = g.nodes)
    (edges : h.edges = g.edges) (name : h.name = g.name) : h.syncEntry = g := by
  have entry : h.entryName = g.entryName := by
    simp only [entryName, entry?, start?, first?, firstFrom?, node?, nodes, edges]
  exact eq_of_parts nodes edges (entry.trans synced.symm) name

/-- **A node of a new id leaves nothing behind.** -/
theorem syncEntry_removeNodes_addNode (synced : g.IsSynced) (wired : g.Wired) {n : Node α}
    (fresh : g.has n.id = false) :
    ((g.addNode n).syncEntry.removeNodes [n.id]).syncEntry = g := by
  have other {id : String} (present : g.has id = true) : id ≠ n.id := by
    rintro rfl
    rw [present] at fresh
    cases fresh
  refine synced.syncEntry_eq_of_parts ?_ ?_ rfl
  · have kept : g.nodes.filter (fun m => !([n.id].contains m.id)) = g.nodes := by
      refine List.filter_eq_self.mpr fun m hm => ?_
      simpa using other (has_iff.mpr ⟨m, hm, rfl⟩)
    rw [removeNodes_nodes, syncEntry_nodes, addNode_nodes, List.filter_append, kept]
    simp
  · refine List.filter_eq_self.mpr fun e he => ?_
    simpa [Edge.touches] using ⟨other (wired.has_source e he), other (wired.has_target e he)⟩

variable [Scalar α] [Scalar.IsExact α]

/-- **An edge that is drawn leaves nothing behind**, in exact arithmetic: where all edges that are
not pinned are in the middle, drawing one moves no other. -/
theorem syncEntry_removeEdges_connect (synced : g.IsSynced) (centered : g.Centered)
    {source target : String}
    (distinct : ((g.addEdge (newEdge source target)).edges.map Edge.id).Nodup) :
    ((((g.addEdge (newEdge source target)).recenter (some [source, target])).syncEntry).removeEdges
      [edgeId source target]).syncEntry = g := by
  let drawn := g.addEdge (newEdge source target)
  have apart : ∀ e ∈ g.edges, e.id ≠ edgeId source target := by
    rw [addEdge_edges, List.map_append, List.nodup_append] at distinct
    exact fun e he => distinct.2.2 _ (List.mem_map_of_mem he) _ (List.mem_singleton_self _)
  have stay : g.edges.map (drawn.recentered (some [source, target])) = g.edges := by
    refine (List.map_congr_left fun e he => ?_).trans g.edges.map_id
    exact recentered_of_isCentered ((centered e he).congr (anchors?_of_nodes_eq rfl e)) _
  have kept : g.edges.filter (fun e => !([edgeId source target].contains e.id)) = g.edges := by
    refine List.filter_eq_self.mpr fun e he => ?_
    simpa using apart e he
  -- what is left of the edges is those that were there, none of which has the id that is removed
  refine synced.syncEntry_eq_of_parts (recenter_nodes _ _) ?_ (recenter_name _ _)
  rw [removeEdges_edges, syncEntry_edges, recenter_edges distinct, addEdge_edges, List.map_append,
    stay, List.filter_append, kept]
  simp

end Graph

/-! ### Sessions -/

namespace Session

variable {α : Type} [Scalar α] [StateFormat α] {s : Session α}

/-- After a call another one is accepted and gives back the graph, and with it the entry, and the
code. -/
def TakesBack (s : Session α) (c d : Call α) : Prop :=
  let t := (s.run c).state
  (t.run d).isRefused = false ∧ (t.run d).state.graph = s.graph ∧ (t.run d).state.code = s.code

/-- The code goes with the graph, so it is enough to give back that. -/
theorem InStep.takesBack {c d : Call α} (views : s.InStep)
    (accepted : ((s.run c).state.run d).isRefused = false)
    (graph : ((s.run c).state.run d).state.graph = s.graph) : s.TakesBack c d := by
  refine ⟨accepted, graph, ?_⟩
  rw [((views.run c).run d).code, graph, views.code]

/-- A node that has been placed is removed. -/
theorem takesBack_addNode (views : s.InStep) (wired : s.graph.Wired) {category : String}
    {position : Option (Point α)} {label : Option String}
    (accepted : (s.run (.addNode category position label)).isRefused = false)
    (fresh : ∀ id ∈ s.drawnId? (.addNode category position label), s.graph.has id = false) :
    ∃ id, s.drawnId? (.addNode category position label) = some id ∧
      (s.run (.addNode category position label)).state.graph.nodes.map Node.id =
        s.graph.nodes.map Node.id ++ [id] ∧
      (∀ a, (s.run (.addNode category position label)).answer = .ok a →
        ∃ n, a = .node n ∧ n.id = id) ∧
      s.TakesBack (.addNode category position label) (.removeNodes [id]) := by
  obtain ⟨c, text, drawn, -, -, graph, answer⟩ := addNode_accepted accepted
  let n := s.graph.newNode c (Graph.newId c s.editor.tokens.next) text position
  have placed : (s.run (.addNode category position label)).state.graph.nodes.map Node.id =
      s.graph.nodes.map Node.id ++ [n.id] := by
    rw [graph, Graph.syncEntry_nodes, Graph.addNode_nodes, List.map_append]
    rfl
  -- the node is there to be removed, as its id is the last of all
  have present : ∀ id ∈ [n.id],
      (s.run (.addNode category position label)).state.graph.has id = true := by
    intro id hid
    rw [List.mem_singleton.mp hid, ← Bool.not_eq_false, Graph.has_eq_false_iff, placed]
    simp
  have removable := removeNodes_not_refused present
  refine ⟨n.id, drawn, placed, fun a ha => ⟨n, answer a ha, rfl⟩, views.takesBack removable ?_⟩
  rw [(removeNodes_accepted removable).2, graph]
  exact Graph.syncEntry_removeNodes_addNode views.synced wired (fresh _ drawn)

/-- An edge that has been drawn is removed. -/
theorem takesBack_connect [Scalar.IsExact α] (views : s.InStep) (tidy : s.graph.Tidy)
    (centered : s.graph.Centered) {source target : String}
    (hnone : s.graph.between source target = [])
    (accepted : (s.run (.connect source target)).isRefused = false) :
    (s.run (.connect source target)).state.graph.edgeKeys =
        s.graph.edgeKeys ++ [(Graph.edgeId source target, source, target)] ∧
      (∀ a, (s.run (.connect source target)).answer = .ok a →
        ∃ e, a = .edge e ∧ e.id = Graph.edgeId source target) ∧
      s.TakesBack (.connect source target) (.removeEdges [Graph.edgeId source target]) := by
  obtain ⟨m, n, rfl, rfl, hm, hn, hstop, hstart, ⟨d, rest, found, -⟩ | ⟨-, graph, answer⟩⟩ :=
    connect_accepted accepted
  · rw [hnone] at found
    cases found
  have distinct := (tidy.connect (Graph.mem_of_node? hm) (Graph.mem_of_node? hn) hstop hstart
    hnone).wired.ids_nodup
  have keys : (s.run (.connect m.id n.id)).state.graph.edgeKeys =
      s.graph.edgeKeys ++ [(Graph.edgeId m.id n.id, m.id, n.id)] := by
    rw [graph]
    exact (Graph.recenter_edgeKeys distinct _).trans (List.map_append ..)
  -- the edge is there to be removed, as its key is the last of all
  have present : ∀ id ∈ [Graph.edgeId m.id n.id],
      ∃ e ∈ (s.run (.connect m.id n.id)).state.graph.edges, e.id = id := by
    intro id hid
    have key : (Graph.edgeId m.id n.id, m.id, n.id) ∈
        (s.run (.connect m.id n.id)).state.graph.edgeKeys := by
      rw [keys]
      exact List.mem_append_right _ (List.mem_singleton_self _)
    obtain ⟨e, he, same⟩ := List.mem_map.mp key
    exact ⟨e, he, (congrArg Prod.fst same).trans (List.mem_singleton.mp hid).symm⟩
  have removable := removeEdges_not_refused present
  refine ⟨keys, fun a ha => ⟨_, answer a ha, ?_⟩, views.takesBack removable ?_⟩
  · rcases drawn : Graph.edge? _ _ with - | e
    · rfl
    · exact Graph.id_of_edge? drawn
  · rw [(removeEdges_accepted removable).2, graph]
    exact Graph.syncEntry_removeEdges_connect views.synced centered distinct

/-- **To add and then to remove is to do nothing.** In every session that comes from a fresh canvas,
in exact arithmetic and with new ids, a node that is placed can be removed at once, and so can an
edge that is drawn where there was none. The graph is then the one before, entry and all, and the
code is the same text. -/
theorem undo_after [Scalar.IsExact α] {setup : Setup α} {opened : Opened α}
    (h : openWith setup = .ok opened) (initial : opened.session.graph = Graph.initial)
    (past : List (Call α)) (draws : opened.session.DrawsGenerated past) :
    let s := opened.session.after past
    (∀ category position label,
      let place := Call.addNode category position label
      (s.run place).isRefused = false → s.DrawsGenerated [place] →
        ∃ id, s.drawnId? place = some id ∧
          (s.run place).state.graph.nodes.map Node.id = s.graph.nodes.map Node.id ++ [id] ∧
          (∀ a, (s.run place).answer = .ok a → ∃ n, a = .node n ∧ n.id = id) ∧
          s.TakesBack place (.removeNodes [id])) ∧
      ∀ source target, s.graph.between source target = [] →
        let join := Call.connect source target
        (s.run join).isRefused = false →
          (s.run join).state.graph.edgeKeys =
              s.graph.edgeKeys ++ [(Graph.edgeId source target, source, target)] ∧
            (∀ a, (s.run join).answer = .ok a →
              ∃ e, a = .edge e ∧ e.id = Graph.edgeId source target) ∧
            s.TakesBack join (.removeEdges [Graph.edgeId source target]) := by
  intro s
  obtain ⟨g, hstart⟩ := exists_start_of_openWith h
  have views : s.InStep := (hstart ▸ inStep_start setup g : opened.session.InStep).after past
  have start : opened.session.graph.Tidy := initial ▸ Graph.Tidy.initial
  have tidy : s.graph.Tidy := tidy_after _ past start draws
  -- there are no edges in the beginning, so none that is off its middle
  have centered : s.graph.Centered := by
    refine centered_after start ?_ draws
    rw [initial]
    exact List.forall_mem_nil _
  constructor
  · intro category position label place accepted fresh
    exact takesBack_addNode views tidy.wired accepted fun id hid => (fresh.1 id hid).2
  · intro source target hnone join accepted
    exact takesBack_connect views tidy centered hnone accepted

attribute [local instance] instStateFormatReal

open scoped Plane in
/-- START leads to a step by an edge that is pinned, and the step to a branch by one that is not.
One more step is placed, or the branch is joined to the step, which opens a block. -/
theorem undo_after_branching :
    let setup : Setup ℝ := ⟨none, none, .of [] false, none, .counting⟩
    let s := start setup Graph.initial
    let step := "action-00000001"
    let branch := "conditional_branch-00000002"
    let past : List (Call ℝ) := [.addNode "action" none none, .connect "start-1" step,
      .pinControl "edge-start-1-action-00000001" ⟨7, 8⟩, .moveNode step ⟨300, 400⟩,
      .addNode "conditional_branch" none none, .connect step branch]
    let t := s.after past
    let place := Call.addNode "action" none none
    let join := Call.connect branch step
    openWith setup = .ok ⟨s, false⟩ ∧ s.graph = Graph.initial ∧ s.DrawsGenerated past ∧
      (t.run place).isRefused = false ∧ t.DrawsGenerated [place] ∧
      t.TakesBack place (.removeNodes ["action-00000003"]) ∧ t.graph.between branch step = [] ∧
      (t.run join).isRefused = false ∧
      t.TakesBack join (.removeEdges ["edge-conditional_branch-00000002-action-00000001"]) := by
  intro setup s step branch past t place join
  have opens : openWith setup = .ok ⟨s, false⟩ := rfl
  have initial : s.graph = Graph.initial := Graph.initial_syncEntry
  have draws : s.DrawsGenerated past := by decide
  have placed : (t.run place).isRefused = false := by decide
  have fresh : t.DrawsGenerated [place] := by decide
  have apart : t.graph.between branch step = [] := by
    rw [← List.isEmpty_iff]
    decide
  have joined : (t.run join).isRefused = false := by decide
  obtain ⟨undoPlace, undoJoin⟩ := undo_after opens initial past draws
  obtain ⟨id, drawn, -, -, back⟩ := undoPlace "action" none none placed fresh
  obtain rfl : id = "action-00000003" := Option.some.inj (drawn.symm.trans (by decide))
  exact ⟨opens, initial, draws, placed, fresh, back, apart, joined,
    (undoJoin branch step apart joined).2.2⟩

end Session

end FlowCanvas

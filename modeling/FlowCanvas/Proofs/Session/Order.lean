import FlowCanvas.Proofs.Graph.Recenter
import FlowCanvas.Proofs.Session.Accepted

/-!
# Order and frame

Nodes stand in the order in which they were placed, and edges in the order in which they were drawn,
whatever has been renamed, moved, pinned or removed in between (`Session.order_after`). Each
accepted call takes from the lists what it removes and puts what it adds behind the rest
(`Session.nodeIds_run`, `Session.edgeKeys_run`). So after a history the lists hold, call by call,
what has been added and not been removed since, and this follows in one way for both of them
(`Session.view_after`).

Each edit has its frame besides: what it may touch, everything else being left as it was
(`Session.Framed`).
-/

namespace FlowCanvas

universe u

/-! ### Edits within their frames -/

namespace Graph

variable {α : Type u} {g : Graph α}

/-- Where ids are pairwise different, to put a changed node in the place of those with its id is to
change it where it stands. -/
theorem setNode_nodes_eq (hids : (g.nodes.map Node.id).Nodup) {n : Node α}
    (hn : g.node? n.id = some n) {f : Node α → Node α} (hid : (f n).id = n.id) :
    (g.setNode (f n)).nodes = g.nodes.map fun m => if m.id = n.id then f m else m := by
  rw [setNode_nodes, hid]
  refine List.map_congr_left fun m hm => ?_
  split
  · next same => rw [eq_of_id_eq hids hm (mem_of_node? hn) same]
  · rfl

/-- To change what code does not show of the nodes with an id keeps the program. -/
theorem isKept_ite {k : String} {f : Node α → Node α} {ψ : Edge α → Edge α}
    (same : ∀ m, (f m).id = m.id ∧ (f m).category = m.category ∧ (f m).nameInCode = m.nameInCode ∧
      (f m).implementation = m.implementation)
    (source : ∀ e, (ψ e).source = e.source) (target : ∀ e, (ψ e).target = e.target) :
    g.IsKept id (fun m => if m.id = k then f m else m) ψ := by
  have kept (m : Node α) : let m' := if m.id = k then f m else m
      m'.id = m.id ∧ m'.category = m.category ∧ m'.nameInCode = m.nameInCode ∧
        m'.implementation = m.implementation := by
    split
    · exact same m
    · exact ⟨rfl, rfl, rfl, rfl⟩
  exact ⟨Function.injective_id, fun m _ => (kept m).1, fun m _ => (kept m).2.1,
    fun m _ => (kept m).2.2.1, fun m _ => (kept m).2.2.2, fun e _ => source e, fun e _ => target e⟩

/-- A node that takes the place of others has their id. -/
@[simp] theorem setNode_map_id (g : Graph α) (n : Node α) :
    (g.setNode n).nodes.map Node.id = g.nodes.map Node.id := by
  rw [setNode_nodes, List.map_map]
  refine List.map_congr_left fun m _ => ?_
  simp only [Function.comp_apply]
  split
  · next same => exact same.symm
  · rfl

/-- Nodes are looked up by their ids. -/
theorem filterMap_node? (hids : (g.nodes.map Node.id).Nodup) :
    (g.nodes.map Node.id).filterMap g.node? = g.nodes := by
  have found : ∀ n ∈ g.nodes, (g.node? ∘ Node.id) n = some n := fun n hn => node?_of_mem hids hn
  rw [List.filterMap_map, List.filterMap_congr found, List.filterMap_some]

@[simp] theorem syncEntry_edgeKeys (g : Graph α) : g.syncEntry.edgeKeys = g.edgeKeys := rfl

theorem PinnedAtMost.nodes {h : Graph α} (pinned : g.PinnedAtMost h) : h.nodes = g.nodes := by
  rcases pinned with rfl | ⟨e, point, -, rfl⟩ <;> rfl

theorem PinnedAtMost.edgeKeys {h : Graph α} (pinned : g.PinnedAtMost h)
    (hids : (g.edges.map Edge.id).Nodup) : h.edgeKeys = g.edgeKeys := by
  rcases pinned with rfl | ⟨e, point, found, rfl⟩
  · rfl
  · exact setEdge_edgeKeys hids (mem_of_edge? found) rfl rfl rfl

end Graph

/-! ### Lists kept along histories -/

/-- Whether a call takes a node away, if it is accepted. -/
def Call.removesNode {α : Type} : Call α → String → Bool
  | .removeNodes ids, id => ids.contains id
  | .reset, _ => true
  | _, _ => false

/-- Whether a call takes an edge away, if it is accepted: by its id, or with one of its ends. -/
def Call.removesEdge {α : Type} : Call α → String × String × String → Bool
  | .removeNodes ids, (_, source, target) => ids.contains source || ids.contains target
  | .removeEdges ids, (id, _, _) => ids.contains id
  | .reset, _ => true
  | _, _ => false

namespace Session

variable {α : Type} [Scalar α] [StateFormat α]

/-- The id of the node that a call places, if it is accepted. -/
def placedNode (s : Session α) : Call α → List String
  | .addNode category position label => (s.drawnId? (.addNode category position label)).toList
  | .reset => ["start-1"]
  | _ => []

/-- The id and the ends of the edge that a call draws, if it is accepted. -/
def drawnEdge (s : Session α) : Call α → List (String × String × String)
  | .connect source target =>
    if s.graph.between source target = [] then [(Graph.edgeId source target, source, target)]
    else []
  | _ => []

section

variable {β : Type} (removes : Call α → β → Bool) (adds : Session α → Call α → List β)

/-- Whether something that is there lasts through a history: no accepted call takes it away. -/
def lasts : Session α → List (Call α) → β → Bool
  | _, [], _ => true
  | s, c :: calls, b =>
    ((s.run c).isRefused || !removes c b) && lasts (s.run c).state calls b

/-- What the accepted calls of a history add, in the order of the calls, without what a later one
takes away. -/
def standing : Session α → List (Call α) → List β
  | _, [] => []
  | s, c :: calls =>
    (if (s.run c).isRefused then [] else adds s c).filter (lasts removes (s.run c).state calls) ++
      standing (s.run c).state calls

variable {removes adds}

omit [Scalar α] [StateFormat α] in
/-- A call that removes nothing and adds nothing. -/
theorem keeps_eq {c : Call α} (none : ∀ b, removes c b = false) {l : List β} :
    l.filter (fun b => !removes c b) ++ [] = l := by
  simp [none]

/-- **The order of a history.** Where each accepted call takes from a list what it removes and puts
behind the rest what it adds, the list holds after a history what has lasted, and then what has come
and stands. -/
theorem view_after (view : Graph α → List β)
    (step : ∀ (s : Session α) (c : Call α), s.graph.Tidy → (s.run c).isRefused = false →
      view (s.run c).state.graph = (view s.graph).filter (fun b => !removes c b) ++ adds s c)
    {s : Session α} {calls : List (Call α)} (tidy : s.graph.Tidy)
    (draws : s.DrawsGenerated calls) :
    view (s.after calls).graph =
      (view s.graph).filter (s.lasts removes calls) ++ s.standing removes adds calls := by
  induction calls generalizing s with
  | nil => simp [lasts, standing]
  | cons c calls ih =>
    have tidy' : (s.run c).state.graph.Tidy := s.tidy_after [c] tidy ⟨draws.1, trivial⟩
    rw [after_cons, ih tidy' draws.2]
    cases refused : (s.run c).isRefused with
    | true =>
      -- neither list of the statement sees a refused call
      rw [graph_of_refused refused]
      simp [lasts, standing, refused]
    | false =>
      -- what comes with this call has to outlast only the later ones
      rw [step s c tidy refused]
      simp [lasts, standing, refused, List.filter_append, Bool.and_comm]

end

/-! ### Calls -/

variable {s : Session α}

/-- **Nodes stand in the order in which they are placed.** -/
theorem nodeIds_run (s : Session α) (c : Call α) (accepted : (s.run c).isRefused = false) :
    (s.run c).state.graph.nodes.map Node.id =
      (s.graph.nodes.map Node.id).filter (fun id => !c.removesNode id) ++ s.placedNode c := by
  have others := s.run_pinnedAtMost (c := c)
  cases c with
  | addNode category position label =>
    obtain ⟨c, text, drawn, -, -, graph, -⟩ := addNode_accepted accepted
    rw [graph]
    simp [Call.removesNode, placedNode, drawn]
  | renameNode node text =>
    obtain ⟨n, label, -, found, -, -, graph⟩ := renameNode_accepted accepted
    rw [graph, Graph.syncEntry_nodes, Graph.setNode_map_id]
    exact (keeps_eq fun _ => rfl).symm
  | moveNode node position =>
    obtain ⟨n, -, found, graph⟩ := moveNode_accepted accepted
    rw [graph, Graph.syncEntry_nodes, Graph.recenter_nodes, Graph.setNode_map_id]
    exact (keeps_eq fun _ => rfl).symm
  | removeNodes ids =>
    rw [(removeNodes_accepted accepted).2]
    simp [Call.removesNode, placedNode, List.filter_map, Function.comp_def]
  | connect source target =>
    obtain ⟨m, n, -, -, -, -, -, -, ⟨_, _, -, graph, -⟩ | ⟨-, graph, -⟩⟩ :=
      connect_accepted accepted
    · rw [graph]
      exact (keeps_eq fun _ => rfl).symm
    · rw [graph, Graph.syncEntry_nodes, Graph.recenter_nodes, Graph.addEdge_nodes]
      exact (keeps_eq fun _ => rfl).symm
  | removeEdges ids =>
    rw [(removeEdges_accepted accepted).2]
    exact (keeps_eq fun _ => rfl).symm
  | setName raw =>
    rw [s.setName_graph raw]
    exact (keeps_eq fun _ => rfl).symm
  | reset =>
    rw [s.reset_graph]
    simp [Call.removesNode, placedNode, Graph.initial]
  | _ =>
    -- the other calls pin an edge at most
    rw [(others rfl).nodes]
    exact (keeps_eq fun _ => rfl).symm

/-- **Edges stand in the order in which they are drawn.** -/
theorem edgeKeys_run (s : Session α) (c : Call α) (tidy : s.graph.Tidy)
    (accepted : (s.run c).isRefused = false) :
    (s.run c).state.graph.edgeKeys =
      s.graph.edgeKeys.filter (fun k => !c.removesEdge k) ++ s.drawnEdge c := by
  have hids := tidy.wired.ids_nodup
  have others := s.run_pinnedAtMost (c := c)
  cases c with
  | addNode category position label =>
    obtain ⟨c, text, -, -, -, graph, -⟩ := addNode_accepted accepted
    rw [graph]
    exact (keeps_eq fun _ => rfl).symm
  | renameNode node text =>
    obtain ⟨n, label, -, -, -, -, graph⟩ := renameNode_accepted accepted
    rw [graph]
    exact (keeps_eq fun _ => rfl).symm
  | moveNode node position =>
    obtain ⟨n, -, -, graph⟩ := moveNode_accepted accepted
    rw [graph, Graph.syncEntry_edgeKeys]
    exact (Graph.recenter_edgeKeys (g := s.graph.setNode _) hids _).trans
      (keeps_eq fun _ => rfl).symm
  | removeNodes ids =>
    rw [(removeNodes_accepted accepted).2]
    simp [Call.removesEdge, drawnEdge, Graph.edgeKeys, Edge.touches, List.filter_map,
      Function.comp_def]
  | connect source target =>
    obtain ⟨m, n, rfl, rfl, hm, hn, hstop, hstart,
      ⟨d, rest, found, graph, -⟩ | ⟨hnone, graph, -⟩⟩ := connect_accepted accepted
    · rw [graph]
      simp [Call.removesEdge, drawnEdge, found]
    · have drawn := tidy.connect (Graph.mem_of_node? hm) (Graph.mem_of_node? hn) hstop hstart hnone
      rw [graph, Graph.syncEntry_edgeKeys, Graph.recenter_edgeKeys drawn.wired.ids_nodup]
      simp [Call.removesEdge, drawnEdge, hnone, Graph.edgeKeys, Graph.newEdge, Graph.edgeId]
  | removeEdges ids =>
    rw [(removeEdges_accepted accepted).2]
    simp [Call.removesEdge, drawnEdge, Graph.edgeKeys, List.filter_map, Function.comp_def]
  | setName raw =>
    rw [s.setName_graph raw]
    exact (keeps_eq fun _ => rfl).symm
  | reset =>
    rw [s.reset_graph]
    simp [Call.removesEdge, drawnEdge, Graph.initial, Graph.edgeKeys]
  | _ =>
    -- the other calls pin an edge at most, which keeps its id and its ends
    rw [(others rfl).edgeKeys hids]
    exact (keeps_eq fun _ => rfl).symm

/-! ### Frames -/

/-- **Calls stay within their frames.** A refused call leaves the graph alone. An accepted one
changes what is told here and leaves all other nodes and edges, and whatever else there is, as they
are. -/
structure Framed (s : Session α) : Prop where
  /-- refused calls change nothing -/
  refused : ∀ c, (s.run c).isRefused = true → (s.run c).state.graph = s.graph
  /-- a rename changes the label and the identifier of the node, and the entry perhaps -/
  renameNode : ∀ node text, (s.run (.renameNode node text)).isRefused = false →
    ∃ label identifier entry, (s.run (.renameNode node text)).state.graph =
      { s.graph with
        nodes := s.graph.nodes.map fun n =>
          if n.id = node then { n with label := label, identifier := identifier } else n
        entryPoint := entry }
  /-- a move changes the position of the node, and control points of its edges that are not pinned
  -/
  moveNode : ∀ node position, (s.run (.moveNode node position)).isRefused = false →
    ∃ control : Edge α → Option (Point α), (s.run (.moveNode node position)).state.graph =
      { s.graph with
        nodes := s.graph.nodes.map fun n =>
          if n.id = node then { n with position := position } else n
        edges := s.graph.edges.map fun e =>
          if e.pinned = false ∧ (e.source = node ∨ e.target = node) then
            { e with control := control e }
          else e }
  /-- nodes are removed with the edges that touch them -/
  removeNodes : ∀ ids, (s.run (.removeNodes ids)).isRefused = false →
    ∃ entry, (s.run (.removeNodes ids)).state.graph =
      { s.graph with
        nodes := s.graph.nodes.filter fun n => n.id ∉ ids
        edges := s.graph.edges.filter fun e => e.source ∉ ids ∧ e.target ∉ ids
        entryPoint := entry }
  /-- edges are removed -/
  removeEdges : ∀ ids, (s.run (.removeEdges ids)).isRefused = false →
    ∃ entry, (s.run (.removeEdges ids)).state.graph =
      { s.graph with
        edges := s.graph.edges.filter fun e => e.id ∉ ids
        entryPoint := entry }
  /-- only the name is changed -/
  setName : ∀ raw, (s.run (.setName raw)).state.graph =
    { s.graph with name := Identifier.ofGraphName raw }

/-- A move maps nodes and edges where they stand, and the entry stays. Control points are brought
back between the places that nodes have after it. -/
theorem moveNode_graph (hids : (s.graph.nodes.map Node.id).Nodup)
    (hedges : (s.graph.edges.map Edge.id).Nodup) (synced : s.graph.IsSynced) {node : String}
    {position : Point α} (accepted : (s.run (.moveNode node position)).isRefused = false) :
    ∃ h : Graph α,
      h.nodes = s.graph.nodes.map (fun n =>
        if n.id = node then { n with position := position } else n) ∧
      (s.run (.moveNode node position)).state.graph =
        s.graph.mapped (fun n => if n.id = node then { n with position := position } else n)
          (h.recentered (some [node])) := by
  obtain ⟨n, rfl, found, graph⟩ := moveNode_accepted accepted
  let h := s.graph.setNode { n with position := position }
  let φ (m : Node α) : Node α := if m.id = n.id then { m with position := position } else m
  have nodes : h.nodes = s.graph.nodes.map φ :=
    Graph.setNode_nodes_eq hids found (f := fun m => { m with position := position }) rfl
  refine ⟨h, nodes, ?_⟩
  have moved : h.recenter (some [n.id]) = s.graph.mapped φ (h.recentered (some [n.id])) := by
    rw [Graph.recenter_eq_mapped (g := h) hedges, Graph.mapped, List.map_id, nodes]
    rfl
  have kept : s.graph.IsKept id φ (h.recentered (some [n.id])) :=
    Graph.isKept_ite (fun _ => ⟨rfl, rfl, rfl, rfl⟩) (h.recentered_source _)
      (h.recentered_target _)
  have synced' : (s.graph.mapped φ (h.recentered (some [n.id]))).IsSynced :=
    synced.trans kept.entryName_mapped.symm
  rw [graph, moved, synced'.syncEntry_eq]

theorem framed_of_tidy (tidy : s.graph.Tidy) (synced : s.graph.IsSynced) : s.Framed where
  refused c := graph_of_refused
  renameNode node text accepted := by
    obtain ⟨n, label, rfl, found, -, -, graph⟩ := renameNode_accepted accepted
    refine ⟨label, Identifier.ofLabel label s.graph.nodes (some n.id) none,
      (s.run (.renameNode n.id text)).state.graph.entryPoint, ?_⟩
    rw [graph]
    refine Graph.eq_of_parts ?_ rfl rfl rfl
    exact Graph.setNode_nodes_eq tidy.nameSafe.ids_nodup found
      (f := fun m => { m with
        label := label
        identifier := Identifier.ofLabel label s.graph.nodes (some n.id) none }) rfl
  moveNode node position accepted := by
    obtain ⟨h, -, graph⟩ :=
      moveNode_graph tidy.nameSafe.ids_nodup tidy.wired.ids_nodup synced accepted
    refine ⟨fun e => (h.recentered (some [node]) e).control, graph.trans ?_⟩
    refine Graph.eq_of_parts rfl (List.map_congr_left fun e _ => ?_) rfl rfl
    have moves : Graph.follows (some [node]) e = true ↔
        e.pinned = false ∧ (e.source = node ∨ e.target = node) := by
      simp [Graph.follows, Edge.touches]
    simp only [← moves]
    exact Graph.recentered_eq _ e
  removeNodes ids accepted := by
    refine ⟨(s.run (.removeNodes ids)).state.graph.entryPoint, ?_⟩
    rw [(removeNodes_accepted accepted).2]
    refine Graph.eq_of_parts ?_ ?_ rfl rfl
    · simp
    · simp [Edge.touches]
  removeEdges ids accepted := by
    refine ⟨(s.run (.removeEdges ids)).state.graph.entryPoint, ?_⟩
    rw [(removeEdges_accepted accepted).2]
    refine Graph.eq_of_parts rfl ?_ rfl rfl
    simp
  setName raw := by
    have synced' : (s.graph.rename (Identifier.ofGraphName raw)).IsSynced := synced
    rw [s.setName_graph raw, synced'.syncEntry_eq]
    rfl

/-! ### Histories -/

/-- The ids of the nodes after a history that begins with START alone: those that have been placed
and are still there, in the order in which they were placed. -/
def nodeOrder (s : Session α) (calls : List (Call α)) : List String :=
  ["start-1"].filter (s.lasts Call.removesNode calls) ++
    s.standing Call.removesNode placedNode calls

/-- The edges after a history that begins without any: those that have been drawn and are still
there, in the order in which they were drawn. -/
def edgeOrder (s : Session α) (calls : List (Call α)) : List (String × String × String) :=
  s.standing Call.removesEdge drawnEdge calls

/-- **Order and frame over whole histories.** From a fresh canvas on, with new ids, the nodes that
are left stand in the order in which they were placed, and the edges that are left in the order in
which they were drawn. The code registers the steps among the nodes in that order. Whatever is
called then stays within its frame. -/
theorem order_after {setup : Setup α} {opened : Opened α} (h : openWith setup = .ok opened)
    (initial : opened.session.graph = Graph.initial) (calls : List (Call α))
    (draws : opened.session.DrawsGenerated calls) :
    let s := opened.session
    let t := s.after calls
    t.graph.nodes.map Node.id = s.nodeOrder calls ∧ t.graph.edgeKeys = s.edgeOrder calls ∧
      t.code = "\n".intercalate (headerLines t.graph.name ++
        t.graph.program.statements.flatMap (Statement.lines t.graph.name)) ∧
      t.graph.program.statements.filterMap Statement.registration? =
        (((s.nodeOrder calls).filterMap t.graph.node?).filter fun n => n.role = .executable).map
          Node.registration ∧
      t.Framed := by
  intro s t
  obtain ⟨g, hstart⟩ := exists_start_of_openWith h
  have views : t.InStep :=
    (hstart ▸ inStep_start setup g : opened.session.InStep).after calls
  have start : s.graph.Tidy := initial ▸ Graph.Tidy.initial
  have tidy : t.graph.Tidy := s.tidy_after calls start draws
  have nodes : t.graph.nodes.map Node.id = s.nodeOrder calls := by
    have order := view_after (fun g => g.nodes.map Node.id)
      (fun s c _ => s.nodeIds_run c) start draws
    rw [initial] at order
    exact order
  have edges : t.graph.edgeKeys = s.edgeOrder calls := by
    have order := view_after Graph.edgeKeys (fun s c => s.edgeKeys_run c) start draws
    rw [initial] at order
    exact order
  refine ⟨nodes, edges, ?_, ?_, framed_of_tidy tidy views.synced⟩
  · rw [views.code, Graph.source, Program.text, Program.lines_eq]
    rfl
  · rw [Program.filterMap_registration?, ← nodes,
      Graph.filterMap_node? tidy.nameSafe.ids_nodup]
    rfl

/-- A node is placed between two others and removed again, a START is placed behind them, an edge is
drawn twice, and a node is renamed and moved. -/
theorem order_after_replaced_start :
    let setup : Setup Number := ⟨none, none, .of [] false, none, .counting⟩
    let s := start setup Graph.initial
    let calls : List (Call Number) :=
      [.addNode "action" none (some "First"), .addNode "tool" none none,
        .addNode "action" none (some "Last"),
        .connect "action-00000003" "action-00000001", .connect "tool-00000002" "action-00000001",
        .connect "action-00000001" "action-00000003", .removeNodes ["tool-00000002", "start-1"],
        .addNode "start" none none, .connect "start-00000004" "action-00000003",
        .connect "action-00000003" "action-00000001", .renameNode "action-00000001" "Second",
        .moveNode "action-00000003" ⟨.whole 10, .whole 20⟩]
    let t := s.after calls
    openWith setup = .ok ⟨s, false⟩ ∧ s.graph = Graph.initial ∧ s.DrawsGenerated calls ∧
      t.graph.nodes.map Node.id = ["action-00000001", "action-00000003", "start-00000004"] ∧
      t.graph.edgeKeys.map Prod.snd =
        [("action-00000003", "action-00000001"), ("action-00000001", "action-00000003"),
          ("start-00000004", "action-00000003")] ∧
      (t.graph.program.statements.filterMap Statement.registration?).map Registration.name =
        ["Second", "Last"] ∧
      t.code = "\n".intercalate (headerLines t.graph.name ++
        ["my_graph.add_node(\"Second\", agent_function)",
          "my_graph.add_node(\"Last\", agent_function)",
          "my_graph.set_entry_point(\"Last\")",
          "my_graph.add_edge(\"Last\", \"Second\")",
          "my_graph.add_edge(\"Second\", \"Last\")"]) ∧ t.Framed := by
  intro setup s calls t
  have opens : openWith setup = .ok ⟨s, false⟩ := rfl
  have initial : s.graph = Graph.initial := Graph.initial_syncEntry
  have draws : s.DrawsGenerated calls := by decide
  obtain ⟨nodes, edges, text, -, framed⟩ := order_after opens initial calls draws
  exact ⟨opens, initial, draws, nodes.trans (by decide),
    (congrArg (List.map Prod.snd) edges).trans (by decide), by decide +kernel,
    text.trans (congrArg _ (by decide +kernel)), framed⟩

end Session

end FlowCanvas

import FlowCanvas.Proofs.Graph.Handle
import FlowCanvas.Proofs.Graph.Issue
import FlowCanvas.Proofs.Program.Block
import FlowCanvas.Proofs.Session.Naming

/-!
# Edges stay wired

A graph is wired if its edges join nodes that are there, one edge at most from a node to another,
each with an id of its own, and if no edge leaves END or enters START. From a fresh canvas on, every
history leaves the graph wired (`Session.wired_after`), so nothing dangles: no issue says so, and
the compiler has no edge to leave out for it.

That ids of edges are different hangs on the shape of the ids of nodes, so the invariant of the
induction (`Graph.Tidy`) keeps hold of both shapes, and of the names, by which an id tells the node
and with it the category at either end of an edge.
-/

namespace FlowCanvas

universe u

/-- The edges of a graph are in order. -/
structure Graph.Wired {α : Type u} (g : Graph α) : Prop where
  /-- every edge leaves a node that is there -/
  has_source : ∀ e ∈ g.edges, g.has e.source = true
  /-- every edge enters a node that is there -/
  has_target : ∀ e ∈ g.edges, g.has e.target = true
  /-- no two edges go from one node to another -/
  pairs_nodup : (g.edges.map fun e => (e.source, e.target)).Nodup
  /-- no two edges have one id -/
  ids_nodup : (g.edges.map Edge.id).Nodup
  /-- no edge leaves END -/
  source_ne_stop : ∀ e ∈ g.edges, ∀ n ∈ g.nodes, n.id = e.source → n.category ≠ .stop
  /-- no edge enters START -/
  target_ne_start : ∀ e ∈ g.edges, ∀ n ∈ g.nodes, n.id = e.target → n.category ≠ .start

/-- A wired graph with safe names, whose ids are those that the editor makes. -/
structure Graph.Tidy {α : Type u} (g : Graph α) : Prop where
  /-- the names are safe -/
  nameSafe : g.NameSafe
  /-- the edges are in order -/
  wired : g.Wired
  /-- the ids of nodes have one dash -/
  oneDash : ∀ n ∈ g.nodes, OneDash n.id
  /-- the ids of edges are made of those of their ends -/
  edge_id : ∀ e ∈ g.edges, e.id = edgeId e.source e.target

namespace Graph

variable {α : Type u}

/-! ### What the invariant sees of a graph -/

/-- What counts of a node: its id and its category. -/
def nodeKeys (g : Graph α) : List (String × Category) := g.nodes.map fun n => (n.id, n.category)

/-- What counts of an edge: its id and its two ends. -/
def edgeKeys (g : Graph α) : List (String × String × String) :=
  g.edges.map fun e => (e.id, e.source, e.target)

theorem has_iff_nodeKeys {g : Graph α} {id : String} :
    g.has id = true ↔ ∃ k ∈ g.nodeKeys, k.1 = id := by
  simp [has, nodeKeys]

/-- What all nodes have because of their keys, all nodes of a graph with the same keys have. -/
theorem forall_nodes_of_keys {g h : Graph α} (keys : h.nodeKeys = g.nodeKeys)
    (P : String × Category → Prop) (all : ∀ n ∈ g.nodes, P (n.id, n.category)) :
    ∀ n ∈ h.nodes, P (n.id, n.category) := by
  have all' : ∀ k ∈ h.nodeKeys, P k := keys ▸ List.forall_mem_map.mpr all
  exact List.forall_mem_map.mp all'

/-- What all edges have because of their keys, all edges of a graph with the same keys have. -/
theorem forall_edges_of_keys {g h : Graph α} (keys : h.edgeKeys = g.edgeKeys)
    (P : String × String × String → Prop) (all : ∀ e ∈ g.edges, P (e.id, e.source, e.target)) :
    ∀ e ∈ h.edges, P (e.id, e.source, e.target) := by
  have all' : ∀ k ∈ h.edgeKeys, P k := keys ▸ List.forall_mem_map.mpr all
  exact List.forall_mem_map.mp all'

/-- The invariants of edges see nothing but the keys. -/
theorem Tidy.of_keys_eq {g h : Graph α} (hg : g.Tidy) (hnames : h.NameSafe)
    (hnodes : h.nodeKeys = g.nodeKeys) (hedges : h.edgeKeys = g.edgeKeys) : h.Tidy := by
  have hhas : h.has = g.has := funext fun id => by
    rw [Bool.eq_iff_iff, has_iff_nodeKeys, has_iff_nodeKeys, hnodes]
  have hpairs : (h.edges.map fun e => (e.source, e.target)) =
      g.edges.map fun e => (e.source, e.target) := by
    simpa [edgeKeys, Function.comp_def] using congrArg (List.map Prod.snd) hedges
  have hids : h.edges.map Edge.id = g.edges.map Edge.id := by
    simpa [edgeKeys, Function.comp_def] using congrArg (List.map Prod.fst) hedges
  refine ⟨hnames, ⟨?_, ?_, ?_, ?_, ?_, ?_⟩, ?_, ?_⟩
  · rw [hhas]
    exact forall_edges_of_keys hedges (fun k => g.has k.2.1 = true) hg.wired.has_source
  · rw [hhas]
    exact forall_edges_of_keys hedges (fun k => g.has k.2.2 = true) hg.wired.has_target
  · rw [hpairs]
    exact hg.wired.pairs_nodup
  · rw [hids]
    exact hg.wired.ids_nodup
  · -- the edges are exchanged first, over the nodes of the new graph, and then the nodes
    refine forall_edges_of_keys hedges
      (fun k => ∀ n ∈ h.nodes, n.id = k.2.1 → n.category ≠ .stop) fun e he => ?_
    exact forall_nodes_of_keys hnodes (fun k => k.1 = e.source → k.2 ≠ .stop)
      (hg.wired.source_ne_stop e he)
  · refine forall_edges_of_keys hedges
      (fun k => ∀ n ∈ h.nodes, n.id = k.2.2 → n.category ≠ .start) fun e he => ?_
    exact forall_nodes_of_keys hnodes (fun k => k.1 = e.target → k.2 ≠ .start)
      (hg.wired.target_ne_start e he)
  · exact forall_nodes_of_keys hnodes (fun k => OneDash k.1) hg.oneDash
  · exact forall_edges_of_keys hedges (fun k => k.1 = edgeId k.2.1 k.2.2) hg.edge_id

/-! ### Edits -/

theorem setNode_nodeKeys {g : Graph α} (hids : (g.nodes.map Node.id).Nodup) {n m : Node α}
    (hn : n ∈ g.nodes) (hid : m.id = n.id) (hcategory : m.category = n.category) :
    (g.setNode m).nodeKeys = g.nodeKeys :=
  setNode_map_nodes hids hn hid (by rw [hid, hcategory])

theorem recenter_edgeKeys [Scalar α] {g : Graph α} (hids : (g.edges.map Edge.id).Nodup)
    (ids : Option (List String)) : (g.recenter ids).edgeKeys = g.edgeKeys := by
  rw [edgeKeys, recenter_edges hids, List.map_map]
  exact List.map_congr_left fun e _ => by simp

theorem setEdge_edgeKeys {g : Graph α} (hids : (g.edges.map Edge.id).Nodup) {e f : Edge α}
    (he : e ∈ g.edges) (hid : f.id = e.id) (hsource : f.source = e.source)
    (htarget : f.target = e.target) : (g.setEdge f).edgeKeys = g.edgeKeys := by
  rw [edgeKeys, setEdge_edges, List.map_map]
  refine List.map_congr_left fun d hd => ?_
  simp only [Function.comp_apply]
  split
  · next h =>
    obtain rfl : d = e := List.inj_on_of_nodup_map hids hd he (h.trans hid)
    rw [hid, hsource, htarget]
  · rfl

namespace Tidy

variable {g : Graph α}

theorem addNode {n : Node α} (hg : g.Tidy) (hnames : (g.addNode n).NameSafe)
    (hid : g.has n.id = false) (hdash : OneDash n.id) : (g.addNode n).Tidy := by
  have hkeep : ∀ id, g.has id = true → (g.addNode n).has id = true := fun id h => by
    obtain ⟨m, hm, hmid⟩ := has_iff.mp h
    exact has_iff.mpr ⟨m, List.mem_append_left _ hm, hmid⟩
  -- the new node is at no end of an edge, since all ends were there before
  have hother : ∀ m ∈ (g.addNode n).nodes, g.has m.id = true → m ∈ g.nodes := by
    intro m hm hhas
    rcases List.mem_append.mp hm with hm | hm
    · exact hm
    · rw [List.mem_singleton.mp hm, hid] at hhas
      cases hhas
  refine ⟨hnames, ⟨?_, ?_, hg.wired.pairs_nodup, hg.wired.ids_nodup, ?_, ?_⟩, ?_, hg.edge_id⟩
  · exact fun e he => hkeep _ (hg.wired.has_source e he)
  · exact fun e he => hkeep _ (hg.wired.has_target e he)
  · intro e he m hm hmid
    have hold := hother m hm (by rw [hmid]; exact hg.wired.has_source e he)
    exact hg.wired.source_ne_stop e he m hold hmid
  · intro e he m hm hmid
    have hold := hother m hm (by rw [hmid]; exact hg.wired.has_target e he)
    exact hg.wired.target_ne_start e he m hold hmid
  · exact forall_mem_addNode.mpr ⟨hg.oneDash, hdash⟩

/-- Fewer edges between the same nodes, or between those that are left. -/
theorem of_sublist {h : Graph α} (hg : g.Tidy) (hnames : h.NameSafe)
    (hnodes : h.nodes.Sublist g.nodes) (hedges : h.edges.Sublist g.edges)
    (hsource : ∀ e ∈ h.edges, h.has e.source = true)
    (htarget : ∀ e ∈ h.edges, h.has e.target = true) : h.Tidy :=
  ⟨hnames,
    ⟨hsource, htarget, hg.wired.pairs_nodup.sublist (hedges.map _),
      hg.wired.ids_nodup.sublist (hedges.map _),
      fun e he n hn => hg.wired.source_ne_stop e (hedges.subset he) n (hnodes.subset hn),
      fun e he n hn => hg.wired.target_ne_start e (hedges.subset he) n (hnodes.subset hn)⟩,
    fun n hn => hg.oneDash n (hnodes.subset hn), fun e he => hg.edge_id e (hedges.subset he)⟩

/-- Nodes go together with the edges that touch them. -/
theorem removeNodes (hg : g.Tidy) (ids : List String) : (g.removeNodes ids).Tidy := by
  have hkeep : ∀ id, g.has id = true → ids.contains id = false →
      (g.removeNodes ids).has id = true := fun id h hnot => by
    obtain ⟨n, hn, rfl⟩ := has_iff.mp h
    exact has_iff.mpr ⟨n, List.mem_filter.mpr ⟨hn, by rw [hnot]; rfl⟩, rfl⟩
  have hfree : ∀ e ∈ (g.removeNodes ids).edges,
      e ∈ g.edges ∧ ids.contains e.source = false ∧ ids.contains e.target = false := by
    intro e he
    obtain ⟨hmem, htouch⟩ := List.mem_filter.mp he
    simp only [Edge.touches, Bool.not_eq_true', Bool.or_eq_false_iff] at htouch
    exact ⟨hmem, htouch⟩
  refine hg.of_sublist (hg.nameSafe.removeNodes ids) List.filter_sublist List.filter_sublist ?_ ?_
  · intro e he
    obtain ⟨hmem, hsource, -⟩ := hfree e he
    exact hkeep _ (hg.wired.has_source e hmem) hsource
  · intro e he
    obtain ⟨hmem, -, htarget⟩ := hfree e he
    exact hkeep _ (hg.wired.has_target e hmem) htarget

theorem removeEdges (hg : g.Tidy) (ids : List String) : (g.removeEdges ids).Tidy := by
  have hsub : (g.removeEdges ids).edges.Sublist g.edges := List.filter_sublist
  exact hg.of_sublist (hg.nameSafe.of_nodes_eq rfl) (List.Sublist.refl _) hsub
    (fun e he => hg.wired.has_source e (hsub.subset he))
    (fun e he => hg.wired.has_target e (hsub.subset he))

/-- An edge is drawn between two nodes that none goes between; its id is new because it tells its
ends. -/
theorem connect {s t : Node α} (hg : g.Tidy) (hs : s ∈ g.nodes) (ht : t ∈ g.nodes)
    (hstop : s.category ≠ .stop) (hstart : t.category ≠ .start)
    (hnone : g.between s.id t.id = []) : (g.addEdge (newEdge s.id t.id)).Tidy := by
  have hpair : ∀ e ∈ g.edges, ¬ (e.source = s.id ∧ e.target = t.id) :=
    between_eq_nil_iff.mp hnone
  -- an edge with that id would have these two ends, and there is none
  have hid : ∀ e ∈ g.edges, e.id ≠ edgeId s.id t.id := by
    intro e he h
    rw [hg.edge_id e he] at h
    obtain ⟨n, hn, hnid⟩ := has_iff.mp (hg.wired.has_source e he)
    exact hpair e he (edgeId_injective (hnid ▸ hg.oneDash n hn) (hg.oneDash s hs) h)
  refine ⟨hg.nameSafe.of_nodes_eq rfl, ⟨?_, ?_, ?_, ?_, ?_, ?_⟩, hg.oneDash, ?_⟩
  · exact forall_mem_addEdge.mpr ⟨hg.wired.has_source, has_iff.mpr ⟨s, hs, rfl⟩⟩
  · exact forall_mem_addEdge.mpr ⟨hg.wired.has_target, has_iff.mpr ⟨t, ht, rfl⟩⟩
  · refine nodup_map_addEdge hg.wired.pairs_nodup fun e he h => hpair e he ?_
    exact ⟨congrArg Prod.fst h, congrArg Prod.snd h⟩
  · exact nodup_map_addEdge hg.wired.ids_nodup hid
  · refine forall_mem_addEdge.mpr ⟨hg.wired.source_ne_stop, fun n hn hnid => ?_⟩
    rw [eq_of_id_eq hg.nameSafe.ids_nodup hn hs hnid]
    exact hstop
  · refine forall_mem_addEdge.mpr ⟨hg.wired.target_ne_start, fun n hn hnid => ?_⟩
    rw [eq_of_id_eq hg.nameSafe.ids_nodup hn ht hnid]
    exact hstart
  · exact forall_mem_addEdge.mpr ⟨hg.edge_id, rfl⟩

theorem recenter [Scalar α] (hg : g.Tidy) (ids : Option (List String)) :
    (g.recenter ids).Tidy :=
  hg.of_keys_eq (hg.nameSafe.of_nodes_eq (recenter_nodes g ids))
    (by rw [nodeKeys, recenter_nodes]; rfl) (recenter_edgeKeys hg.wired.ids_nodup ids)

theorem initial [Scalar α] : (Graph.initial : Graph α).Tidy := by
  refine ⟨.initial, ⟨nofun, nofun, List.nodup_nil, List.nodup_nil, nofun, nofun⟩, ?_, nofun⟩
  intro n hn
  rw [List.mem_singleton.mp hn]
  exact oneDash_initial

/-- **Edits keep a graph tidy**, if a new node gets a new id of the shape that the editor makes. -/
theorem edited [Scalar α] {drawn : Option String} {h : Graph α} (hg : g.Tidy)
    (hdrawn : ∀ id ∈ drawn, IsGenerated id ∧ g.has id = false) (he : g.Edited drawn h) :
    h.Tidy := by
  have hnames : h.NameSafe := hg.nameSafe.edited (fun id hid => (hdrawn id hid).2) he
  have hnodeIds := hg.nameSafe.ids_nodup
  cases he with
  | addNode position hfree hlabel =>
    obtain ⟨hgenerated, hnew⟩ := hdrawn _ rfl
    exact hg.addNode hnames hnew hgenerated.oneDash
  | renameNode hn hterminal hlabel =>
    exact hg.of_keys_eq hnames (setNode_nodeKeys hnodeIds (mem_of_node? hn) rfl rfl) rfl
  | @moveNode n position hn =>
    have hmem := mem_of_node? hn
    have hset : (g.setNode { n with position := position }).Tidy :=
      hg.of_keys_eq (hg.nameSafe.setNode_of_identifier_eq hmem rfl rfl rfl)
        (setNode_nodeKeys hnodeIds hmem rfl rfl) rfl
    exact hset.recenter _
  | removeNodes hids => exact hg.removeNodes _
  | connect hs ht hstop hstart hnone =>
    exact (hg.connect (mem_of_node? hs) (mem_of_node? ht) hstop hstart hnone).recenter _
  | removeEdges hids => exact hg.removeEdges _
  | pinControl point hedge =>
    exact hg.of_keys_eq hnames rfl
      (setEdge_edgeKeys hg.wired.ids_nodup (mem_of_edge? hedge) rfl rfl rfl)
  | setName raw => exact hg.of_keys_eq hnames rfl rfl
  | reset => exact Tidy.initial

end Tidy

/-! ### Nothing dangles -/

theorem Wired.isAnchored {g : Graph α} (hg : g.Wired) {e : Edge α} (he : e ∈ g.edges) :
    g.isAnchored e = true := by
  rw [Graph.isAnchored, hg.has_source e he, hg.has_target e he, Bool.and_self]

theorem Tidy.kind_of_mem_issues {g : Graph α} (hg : g.Tidy) {i : Issue} (h : i ∈ g.issues) :
    i.kind ≠ "dangling_edge" ∧ i.kind ≠ "duplicate_identifier" := by
  have anchored : g.danglingIssues = [] :=
    danglingIssues_eq_nil_iff.mpr fun e he => hg.wired.isAnchored he
  have distinct : g.duplicateIssues = [] :=
    duplicateIssues_eq_nil_iff.mpr hg.nameSafe.identifiers_nodup
  simp only [issues, anchored, distinct, List.nil_append, List.append_nil, List.mem_append] at h
  rcases h with (h | h) | h
  · rcases kind_of_mem_dispatchIssues h with hk | hk <;> rw [hk] <;> decide
  · rcases kind_of_mem_entryIssues h with hk | hk <;> rw [hk] <;> decide
  · rw [kind_of_mem_unreachableIssues h]
    decide

/-- No omission of a wired graph is that of a dangling edge. -/
theorem Wired.ne_transition {g : Graph α} (hg : g.Wired) {o : Omission} (h : o ∈ g.omissions)
    (edge source target : String) : o ≠ .transition edge source target := by
  rintro rfl
  simp only [omissions, List.mem_append] at h
  rcases h with (h | h) | h
  · unfold omittedEntry at h
    split at h
    · cases List.mem_singleton.mp h
    · exact absurd h List.not_mem_nil
  · obtain ⟨e, -, he⟩ := List.mem_map.mp h
    cases he
  · obtain ⟨e, he, -⟩ := List.mem_map.mp h
    obtain ⟨hlive, hdangles⟩ := List.mem_filter.mp he
    have hmem : e ∈ g.edges := (List.mem_filter.mp hlive).1
    rw [dangles_eq, hg.isAnchored hmem] at hdangles
    cases hdangles

end Graph

/-! ### Histories -/

namespace Session

variable {α : Type} [Scalar α] [StateFormat α]

/-- A history draws ids as the editor makes them, each new to the graph that it is drawn for. -/
abbrev DrawsGenerated (s : Session α) (calls : List (Call α)) : Prop :=
  s.Draws (fun g id => Graph.IsGenerated id ∧ g.has id = false) calls

theorem tidy_after (s : Session α) (calls : List (Call α)) (hs : s.graph.Tidy)
    (hdraws : s.DrawsGenerated calls) : (s.after calls).graph.Tidy :=
  after_induction (P := Graph.Tidy)
    (fun _ h => h.of_keys_eq (h.nameSafe.of_nodes_eq rfl) rfl rfl)
    (fun _ _ _ hdrawn he h => h.edited hdrawn he) calls s hs hdraws

/-- **Edges stay wired.** From a fresh canvas on, every history that draws new ids of the shape that
the editor makes leaves the graph wired; no issue is one of a dangling edge or of an identifier used
twice, and the compiler leaves out no edge because it dangles. -/
theorem wired_after (s : Session α) (calls : List (Call α)) (hs : s.graph = Graph.initial)
    (hdraws : s.DrawsGenerated calls) :
    (s.after calls).graph.Wired ∧
      (∀ i ∈ (s.after calls).graph.issues,
        i.kind ≠ "dangling_edge" ∧ i.kind ≠ "duplicate_identifier") ∧
      ∀ o ∈ (s.after calls).graph.omissions, ∀ edge source target,
        o ≠ .transition edge source target := by
  have htidy : (s.after calls).graph.Tidy := s.tidy_after calls (hs ▸ .initial) hdraws
  exact ⟨htidy.wired, fun _ hi => htidy.kind_of_mem_issues hi,
    fun _ ho => htidy.wired.ne_transition ho⟩

/-- A loop, an END that is removed with its edges and placed again, and a pair that is joined twice.
-/
theorem wired_after_replaced_end :
    let s : Session Number :=
      .start ⟨none, none, .of [] false, none, .counting⟩ Graph.initial
    let calls : List (Call Number) :=
      [.addNode "tool" none none, .connect "tool-00000001" "tool-00000001",
        .addNode "end" none none, .connect "tool-00000001" "end-00000002",
        .removeNodes ["end-00000002"], .addNode "end" none none,
        .connect "tool-00000001" "end-00000003", .connect "tool-00000001" "end-00000003"]
    s.graph = Graph.initial ∧ s.DrawsGenerated calls ∧ (s.after calls).graph.Wired ∧
      (s.after calls).graph.edges.map Edge.id =
        ["edge-tool-00000001-tool-00000001", "edge-tool-00000001-end-00000003"] := by
  intro s calls
  have hs : s.graph = Graph.initial := Graph.initial_syncEntry
  have hdraws : s.DrawsGenerated calls := by decide
  exact ⟨hs, hdraws, (wired_after s calls hs hdraws).1, by decide⟩

end Session

end FlowCanvas

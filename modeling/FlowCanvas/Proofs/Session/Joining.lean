import FlowCanvas.Proofs.Graph.Handle
import FlowCanvas.Proofs.Graph.Recenter
import FlowCanvas.Proofs.Session.Accepted
import FlowCanvas.Proofs.Session.Placement

/-!
# Drawing an edge

An edge gets an id that is made of the ids of its ends, and in a graph that has been loaded or
handed over these may be any texts. If no edge has the id of the new one, then drawing it touches no
other edge. If one has, then the new edge takes its place as well, pinned or not, and the graph is
left with one edge twice (`Session.connect_edges`). So all other edges are kept exactly if the id is
free (`Session.joined_iff`), and two pairs of ends that share an id show that it need not be
(`Session.not_joined_shared_id`).
-/

namespace FlowCanvas

universe u

/-- An edge is as it was, up to a control point that is not pinned. -/
structure Edge.Keeps {α : Type u} (d e : Edge α) : Prop where
  /-- its id -/
  id : e.id = d.id
  /-- where it starts -/
  source : e.source = d.source
  /-- where it ends -/
  target : e.target = d.target
  /-- whether it is pinned -/
  pinned : e.pinned = d.pinned
  /-- where it is pinned -/
  control : d.pinned = true → e.control = d.control

namespace Graph

variable {α : Type u} {g h : Graph α}

/-- A graph has one edge more than another one, which joins two nodes, and has kept all others. -/
structure Joined (g h : Graph α) (source target : String) (e : Edge α) : Prop where
  /-- the edges that were there, each in its place, and the new one -/
  edges : ∃ kept, h.edges = kept ++ [e] ∧ List.Forall₂ Edge.Keeps g.edges kept
  /-- where the new one starts -/
  source_eq : e.source = source
  /-- where the new one ends -/
  target_eq : e.target = target
  /-- ids of edges are pairwise different -/
  ids_nodup : (h.edges.map Edge.id).Nodup

variable [Scalar α]

theorem recentered_keeps (g : Graph α) (ids : Option (List String)) (e : Edge α) :
    e.Keeps (g.recentered ids e) := by
  obtain ⟨hid, hsource, htarget, hpinned⟩ := g.recentered_ends ids e
  refine ⟨hid, hsource, htarget, hpinned, fun pinned => ?_⟩
  have stays : follows ids e = false := by simp [follows, pinned]
  rw [recentered_of_not_follows stays]

/-- A new edge between nodes that are there is brought to the middle. -/
theorem exists_recentered?_newEdge {s t : Node α} (hs : g.node? s.id = some s)
    (ht : g.node? t.id = some t) :
    ∃ a : Anchors α, (g.addEdge (newEdge s.id t.id)).recentered? (some [s.id, t.id])
        (newEdge s.id t.id) = some ⟨edgeId s.id t.id, s.id, t.id, some a.middle, false⟩ := by
  obtain ⟨a, ha⟩ : ∃ a, (g.addEdge (newEdge s.id t.id)).anchors? (newEdge s.id t.id) = some a :=
    exists_anchors? (has_of_node? hs) (has_of_node? ht)
  refine ⟨a, ?_⟩
  have moves : follows (some [s.id, t.id]) (newEdge s.id t.id : Edge α) = true := by
    simp [follows, newEdge, Edge.touches]
  rw [recentered?, moves, ha]
  rfl

end Graph

namespace Session

variable {α : Type} [Scalar α] [StateFormat α] {s : Session α}

/-- **What drawing an edge leaves**, whatever the ids of nodes and edges are: the new edge is behind
the others and is the answer, and it is also in the place of any edge that has its id. -/
theorem connect_edges {source target : String} (hids : (s.graph.edges.map Edge.id).Nodup)
    (hnone : s.graph.between source target = [])
    (accepted : (s.run (.connect source target)).isRefused = false) :
    ∃ e : Edge α, e.id = Graph.edgeId source target ∧ e.source = source ∧ e.target = target ∧
      (s.run (.connect source target)).state.graph.edges =
        (s.graph.edges.map fun d =>
          if d.id = e.id then e
          else (s.graph.addEdge (Graph.newEdge source target)).recentered (some [source, target]) d)
          ++ [e] ∧
      ∀ r, (s.run (.connect source target)).answer = .ok r → r = .edge e := by
  obtain ⟨m, n, rfl, rfl, hm, hn, -, -, ⟨_, _, found, -⟩ | ⟨-, graph, answer⟩⟩ :=
    connect_accepted accepted
  · rw [hnone] at found
    cases found
  let h := s.graph.addEdge (Graph.newEdge m.id n.id)
  obtain ⟨a, moved⟩ := Graph.exists_recentered?_newEdge hm hn
  let e : Edge α := ⟨Graph.edgeId m.id n.id, m.id, n.id, some a.middle, false⟩
  have edges : (h.recenter (some [m.id, n.id])).edges =
      (s.graph.edges.map fun d => if d.id = e.id then e else h.recentered (some [m.id, n.id]) d) ++
        [e] := Graph.recenter_addEdge_edges hids moved
  refine ⟨e, rfl, rfl, rfl, ?_, fun r hr => ?_⟩
  · rw [graph]
    exact edges
  · -- the edges that have the id are all one, so the first of them is the new one
    obtain ⟨d, hd⟩ : ∃ d, (h.recenter (some [m.id, n.id])).edge? e.id = some d := by
      refine Graph.exists_edge? (e := e) ?_
      rw [edges]
      exact List.mem_append_right _ (List.mem_singleton_self e)
    have same : d = e := by
      have mem := Graph.mem_of_edge? hd
      rw [edges] at mem
      rcases List.mem_append.mp mem with mem | mem
      · obtain ⟨d', -, rfl⟩ := List.mem_map.mp mem
        have hid := Graph.id_of_edge? hd
        split
        · rfl
        · next other =>
          rw [if_neg other, Graph.recentered_id] at hid
          exact absurd hid other
      · exact List.mem_singleton.mp mem
    rw [answer r hr]
    exact congrArg (fun d => Answer.edge (Option.getD d _)) (hd.trans (congrArg some same))

/-- **An edge is drawn without touching any other exactly if its id is free.** This is said of any
session, with any ids of nodes and with ids of edges that are pairwise different, and of two nodes
that no edge goes between. -/
theorem joined_iff {source target : String} (hids : (s.graph.edges.map Edge.id).Nodup)
    (hnone : s.graph.between source target = [])
    (accepted : (s.run (.connect source target)).isRefused = false) :
    (∃ e, s.graph.Joined (s.run (.connect source target)).state.graph source target e ∧
        ∀ r, (s.run (.connect source target)).answer = .ok r → r = .edge e) ↔
      s.graph.edge? (Graph.edgeId source target) = none := by
  obtain ⟨e, hid, hsource, htarget, edges, answer⟩ := connect_edges hids hnone accepted
  have ids : (s.run (.connect source target)).state.graph.edges.map Edge.id =
      s.graph.edges.map Edge.id ++ [e.id] := by
    rw [edges, List.map_append, List.map_map]
    refine congrArg (· ++ _) (List.map_congr_left fun d _ => ?_)
    simp only [Function.comp_apply]
    split
    · next same => exact same.symm
    · exact Graph.recentered_id ..
  rw [← hid]
  constructor
  · -- an id that was taken would stand twice now
    rintro ⟨_, joined, -⟩
    have distinct := joined.ids_nodup
    rw [ids, List.nodup_append] at distinct
    refine Graph.edge?_eq_none_iff.mpr fun d hd => ?_
    exact distinct.2.2 _ (List.mem_map_of_mem hd) _ (List.mem_singleton_self _)
  · intro free
    have apart := Graph.edge?_eq_none_iff.mp free
    refine ⟨e, ⟨⟨_, edges, ?_⟩, hsource, htarget, ?_⟩, answer⟩
    · rw [List.forall₂_map_right_iff, List.forall₂_same]
      intro d hd
      rw [if_neg (apart d hd)]
      exact Graph.recentered_keeps _ _ d
    · rw [ids, ← List.concat_eq_append]
      refine hids.concat fun mem => ?_
      obtain ⟨d, hd, same⟩ := List.mem_map.mp mem
      exact apart d hd same

/-- Nodes whose ids run into each other where they are joined by a dash, and an edge that has been
pinned. -/
def overlapping : Graph Number where
  nodes := ["a-b", "c", "a", "b-c"].map fun id =>
    ⟨id, .action, id, Identifier.base id, .null, Point.origin⟩
  edges := [⟨"edge-a-b-c", "a-b", "c", some ⟨.whole 5, .whole 5⟩, true⟩]
  entryPoint := .null
  name := defaultGraphName

/-- The id of an edge back is free. -/
theorem joined_iff_overlapping :
    let s := start ⟨some overlapping, none, .of [] false, none, .counting⟩ overlapping
    (s.graph.edges.map Edge.id).Nodup ∧ s.graph.between "c" "a-b" = [] ∧
      (s.run (.connect "c" "a-b")).isRefused = false ∧
      ∃ e, s.graph.Joined (s.run (.connect "c" "a-b")).state.graph "c" "a-b" e := by
  intro s
  have hids : (s.graph.edges.map Edge.id).Nodup := List.nodup_singleton _
  have apart : s.graph.between "c" "a-b" = [] := rfl
  have accepted : (s.run (.connect "c" "a-b")).isRefused = false := by decide
  have free : s.graph.edge? (Graph.edgeId "c" "a-b") = none := by
    rw [← Option.isNone_iff_eq_none]
    decide
  obtain ⟨e, joined, -⟩ := (joined_iff hids apart accepted).mpr free
  exact ⟨hids, apart, accepted, e, joined⟩

/-- **Two pairs of ends may share an id.** The pinned edge is lost when the other pair is joined,
and the new edge is there twice. -/
theorem not_joined_shared_id :
    let s := start ⟨some overlapping, none, .of [] false, none, .counting⟩ overlapping
    let t := (s.run (.connect "a" "b-c")).state
    (s.graph.nodes.map Node.id).Nodup ∧ (s.graph.edges.map Edge.id).Nodup ∧
      s.graph.between "a" "b-c" = [] ∧ (s.run (.connect "a" "b-c")).isRefused = false ∧
      (¬ ∃ e, s.graph.Joined t.graph "a" "b-c" e) ∧
      t.graph.edges.map (fun e => (e.id, e.source, e.target, e.pinned)) =
        [("edge-a-b-c", "a", "b-c", false), ("edge-a-b-c", "a", "b-c", false)] := by
  intro s t
  refine ⟨by decide, List.nodup_singleton _, rfl, by decide, ?_, by decide⟩
  rintro ⟨e, joined⟩
  have twice : ¬ (t.graph.edges.map Edge.id).Nodup := by decide
  exact twice joined.ids_nodup

end Session

end FlowCanvas

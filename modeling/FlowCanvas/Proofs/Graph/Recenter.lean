import FlowCanvas.Proofs.Graph.Center
import FlowCanvas.Proofs.Graph.Renamed

/-!
# What bringing control points back leaves alone

The loop that brings control points back puts edges in the place of edges with the same id. Whatever
the ids are, in the place of an edge there is then the last one of its id that has been brought back
(`Graph.recenter_edges_eq_last`), so edges that share an id become one and the same, and an edge
that is drawn takes the place of any that has its id already (`Graph.recenter_addEdge_edges`).

Where the ids are pairwise different all is left of an edge but the control point, and that too
unless the edge follows (`Graph.recentered_eq`). An edge that is in the middle already stays as it
is (`Graph.recentered_of_isCentered`).
-/

namespace FlowCanvas

universe u

namespace Graph

variable {α : Type u} {g : Graph α}

/-- The edge that is in the place of `d` after edges have been put in the place of those with their
ids, one after the other: the last one with the id of `d`, or `d` itself. -/
def lastOf (fs : List (Edge α)) (d : Edge α) : Edge α :=
  (fs.reverse.find? fun f => f.id == d.id).getD d

theorem lastOf_concat (fs : List (Edge α)) (f d : Edge α) :
    lastOf (fs ++ [f]) d = if d.id = f.id then f else lastOf fs d := by
  rw [lastOf, List.reverse_concat, List.find?_cons]
  by_cases same : d.id = f.id
  · simp [same]
  · rw [if_neg same, beq_false_of_ne fun h => same h.symm]
    rfl

@[simp] theorem lastOf_id (fs : List (Edge α)) (d : Edge α) : (lastOf fs d).id = d.id := by
  rw [lastOf]
  cases found : fs.reverse.find? fun f => f.id == d.id with
  | none => rfl
  | some f => simpa using List.find?_some found

theorem lastOf_of_forall_ne {fs : List (Edge α)} {d : Edge α} (h : ∀ f ∈ fs, f.id ≠ d.id) :
    lastOf fs d = d := by
  have none : fs.reverse.find? (fun f => f.id == d.id) = .none := by
    simpa using h
  rw [lastOf, none]
  rfl

theorem lastOf_of_mem {fs : List (Edge α)} (hids : (fs.map Edge.id).Nodup) {f d : Edge α}
    (hf : f ∈ fs) (same : f.id = d.id) : lastOf fs d = f := by
  obtain ⟨e, he⟩ : ∃ e, fs.reverse.find? (fun f => f.id == d.id) = some e :=
    Option.isSome_iff_exists.mp
      (List.find?_isSome.mpr ⟨f, List.mem_reverse.mpr hf, beq_iff_eq.mpr same⟩)
  have hid : e.id = d.id := by simpa using List.find?_some he
  have mem : e ∈ fs := List.mem_reverse.mp (List.mem_of_find?_eq_some he)
  rw [lastOf, he]
  exact List.inj_on_of_nodup_map hids mem hf (hid.trans same.symm)

/-- Edges put in the place of others, one after the other: the last one counts. -/
theorem foldl_setEdge_edges (g : Graph α) (fs : List (Edge α)) :
    (fs.foldl setEdge g).edges = g.edges.map (lastOf fs) := by
  induction fs using List.reverseRecOn with
  | nil => exact g.edges.map_id.symm
  | append_singleton fs f ih =>
    rw [List.foldl_append, List.foldl_cons, List.foldl_nil, setEdge_edges, ih, List.map_map]
    refine List.map_congr_left fun d _ => ?_
    rw [Function.comp_apply, lastOf_id, lastOf_concat]

variable [Scalar α]

theorem recentered?_id {ids : Option (List String)} {e f : Edge α}
    (h : g.recentered? ids e = some f) : f.id = e.id := by
  obtain ⟨-, a, -, rfl⟩ := recentered?_eq_some h
  rfl

/-- **The last one counts** among edges that share an id and are brought back. -/
theorem recenter_edges_eq_last (g : Graph α) (ids : Option (List String)) :
    (g.recenter ids).edges = g.edges.map (lastOf (g.edges.filterMap (g.recentered? ids))) := by
  rw [← foldl_setEdge_edges, List.foldl_filterMap, recenter_eq_foldl]
  refine congrArg (fun step => (g.edges.foldl step g).edges) ?_
  funext h e
  rw [recenterStep]
  cases g.recentered? ids e <;> rfl

/-- Where ids are pairwise different, each edge is the last one of its id. -/
theorem lastOf_filterMap_recentered? {ids : Option (List String)} {l : List (Edge α)}
    (hids : (l.map Edge.id).Nodup) {d : Edge α} (hd : d ∈ l) :
    lastOf (l.filterMap (g.recentered? ids)) d = g.recentered ids d := by
  rw [recentered]
  cases moved : g.recentered? ids d with
  | none =>
    refine lastOf_of_forall_ne fun f hf same => ?_
    obtain ⟨e, he, hef⟩ := List.mem_filterMap.mp hf
    obtain rfl : e = d :=
      List.inj_on_of_nodup_map hids he hd ((recentered?_id hef).symm.trans same)
    rw [moved] at hef
    cases hef
  | some f =>
    -- the edges that are brought back have the ids of those that were there, so these differ too
    refine lastOf_of_mem ?_ (List.mem_filterMap.mpr ⟨d, hd, moved⟩) (recentered?_id moved)
    rw [List.Nodup, List.pairwise_map, List.pairwise_filterMap]
    refine (List.pairwise_map.mp hids).imp fun {e e'} apart f hf f' hf' => ?_
    rwa [recentered?_id hf, recentered?_id hf']

/-- **What drawing an edge leaves.** The edges that were there are brought back as ever, but those
that have the id of the new edge, if there are any, have become the new edge. -/
theorem recenter_addEdge_edges (hids : (g.edges.map Edge.id).Nodup) {ids : Option (List String)}
    {e f : Edge α} (moved : (g.addEdge e).recentered? ids e = some f) :
    ((g.addEdge e).recenter ids).edges =
      (g.edges.map fun d => if d.id = e.id then f else (g.addEdge e).recentered ids d) ++ [f] := by
  have sameId : f.id = e.id := recentered?_id moved
  have last : (g.addEdge e).edges.filterMap ((g.addEdge e).recentered? ids) =
      g.edges.filterMap ((g.addEdge e).recentered? ids) ++ [f] := by
    rw [addEdge_edges, List.filterMap_append, List.filterMap_cons_some moved, List.filterMap_nil]
  -- the new edge comes last in the loop, so it counts for all edges of its id
  rw [recenter_edges_eq_last, last, addEdge_edges, List.map_append]
  congr 1
  · refine List.map_congr_left fun d hd => ?_
    rw [lastOf_concat, sameId, lastOf_filterMap_recentered? hids hd]
  · rw [List.map_singleton, lastOf_concat, if_pos sameId.symm]

/-- What every step of the loop keeps, the loop keeps. -/
theorem recenter_induction {P : Graph α → Prop} (ids : Option (List String)) (start : P g)
    (step : ∀ h e, P h → P (h.setEdge e)) : P (g.recenter ids) := by
  rw [recenter_eq_foldl]
  refine List.foldlRecOn g.edges (motive := P) _ start fun h ih e _ => ?_
  unfold recenterStep
  split
  · exact step h _ ih
  · exact ih

@[simp] theorem recenter_name (g : Graph α) (ids : Option (List String)) :
    (g.recenter ids).name = g.name :=
  recenter_induction (P := fun h => h.name = g.name) ids rfl fun _ _ ih => ih

@[simp] theorem recenter_entryPoint (g : Graph α) (ids : Option (List String)) :
    (g.recenter ids).entryPoint = g.entryPoint :=
  recenter_induction (P := fun h => h.entryPoint = g.entryPoint) ids rfl fun _ _ ih => ih

/-- Where edge ids are pairwise different, only the edges are mapped. -/
theorem recenter_eq_mapped (hids : (g.edges.map Edge.id).Nodup) (ids : Option (List String)) :
    g.recenter ids = g.mapped id (g.recentered ids) := by
  refine eq_of_parts ?_ (recenter_edges hids ids) (recenter_entryPoint g ids) (recenter_name g ids)
  rw [recenter_nodes, mapped, List.map_id]

/-- What is left of an edge: all but the control point, and that too unless the edge follows. -/
theorem recentered_eq (ids : Option (List String)) (e : Edge α) :
    g.recentered ids e =
      if follows ids e then { e with control := (g.recentered ids e).control } else e := by
  split
  · obtain ⟨hid, hsource, htarget, hpinned⟩ := g.recentered_ends ids e
    generalize g.recentered ids e = f at *
    obtain ⟨_, _, _, _, _⟩ := f
    simp only at hid hsource htarget hpinned
    rw [hid, hsource, htarget, hpinned]
  · next stays => exact recentered_of_not_follows (by simpa using stays)

/-- In exact arithmetic an edge that is in the middle already, or pinned, stays as it is. -/
theorem recentered_of_isCentered [Scalar.IsExact α] {e : Edge α} (centered : g.IsCentered e)
    (ids : Option (List String)) : g.recentered ids e = e := by
  rw [recentered_eq]
  split
  · next moves =>
    have free : e.pinned = false := by
      simp only [follows, Bool.and_eq_true, Bool.not_eq_true'] at moves
      exact moves.1
    obtain ⟨a, anchors, control⟩ := centered free
    rw [recentered_control moves anchors, ← control]
  · rfl

end Graph

end FlowCanvas

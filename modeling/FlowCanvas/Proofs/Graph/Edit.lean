import FlowCanvas.Graph.Anchor
import FlowCanvas.Graph.Entry
import FlowCanvas.Graph.Network
import Mathlib.Data.List.Find
import Mathlib.Data.List.Nodup

/-!
# Edits, field by field

What each edit of a graph does to its nodes and to its edges, so that no later proof has to open an
edit. The one edit with a loop in it brings control points back: it replaces edges by id, one after
the other, and where edge ids are pairwise different that comes to one pass over the list
(`recenter_edges`).
-/

namespace FlowCanvas

universe u v

namespace Graph

variable {α : Type u}

/-! ### Look-ups -/

theorem mem_of_node? {g : Graph α} {id : String} {n : Node α} (h : g.node? id = some n) :
    n ∈ g.nodes :=
  List.mem_of_find?_eq_some h

theorem id_of_node? {g : Graph α} {id : String} {n : Node α} (h : g.node? id = some n) :
    n.id = id := by
  simpa using List.find?_some h

theorem mem_of_edge? {g : Graph α} {id : String} {e : Edge α} (h : g.edge? id = some e) :
    e ∈ g.edges :=
  List.mem_of_find?_eq_some h

theorem id_of_edge? {g : Graph α} {id : String} {e : Edge α} (h : g.edge? id = some e) :
    e.id = id := by
  simpa using List.find?_some h

theorem has_iff {g : Graph α} {id : String} : g.has id = true ↔ ∃ n ∈ g.nodes, n.id = id := by
  simp [has]

theorem has_eq_false_iff {g : Graph α} {id : String} :
    g.has id = false ↔ id ∉ g.nodes.map Node.id := by
  simp [has]

theorem has_of_node? {g : Graph α} {id : String} {n : Node α} (h : g.node? id = some n) :
    g.has id = true :=
  has_iff.mpr ⟨n, mem_of_node? h, id_of_node? h⟩

theorem node?_isSome (g : Graph α) (id : String) : (g.node? id).isSome = g.has id := by
  rw [Bool.eq_iff_iff, node?, has, List.find?_isSome, List.any_eq_true]

theorem exists_node? {g : Graph α} {id : String} (h : g.has id = true) : ∃ n, g.node? id = some n :=
  Option.isSome_iff_exists.mp ((g.node?_isSome id).trans h)

theorem exists_edge? {g : Graph α} {e : Edge α} (h : e ∈ g.edges) : ∃ d, g.edge? e.id = some d :=
  Option.isSome_iff_exists.mp (List.find?_isSome.mpr ⟨e, h, beq_self_eq_true _⟩)

/-- Where ids are pairwise different, an id tells the node. -/
theorem eq_of_id_eq {g : Graph α} (hids : (g.nodes.map Node.id).Nodup) {n m : Node α}
    (hn : n ∈ g.nodes) (hm : m ∈ g.nodes) (h : n.id = m.id) : n = m :=
  List.inj_on_of_nodup_map hids hn hm h

theorem node?_of_mem {g : Graph α} (hids : (g.nodes.map Node.id).Nodup) {n : Node α}
    (hn : n ∈ g.nodes) : g.node? n.id = some n := by
  obtain ⟨m, hm⟩ := exists_node? (has_iff.mpr ⟨n, hn, rfl⟩)
  rw [hm, eq_of_id_eq hids (mem_of_node? hm) hn (id_of_node? hm)]

theorem between_eq_nil_iff {g : Graph α} {source target : String} :
    g.between source target = [] ↔ ∀ e ∈ g.edges, ¬ (e.source = source ∧ e.target = target) := by
  simp [between]

/-! ### Nodes and edges after an edit -/

@[simp] theorem addNode_nodes (g : Graph α) (n : Node α) : (g.addNode n).nodes = g.nodes ++ [n] :=
  rfl

@[simp] theorem addNode_edges (g : Graph α) (n : Node α) : (g.addNode n).edges = g.edges := rfl

@[simp] theorem setNode_nodes (g : Graph α) (n : Node α) :
    (g.setNode n).nodes = g.nodes.map fun m => if m.id = n.id then n else m := rfl

@[simp] theorem setNode_edges (g : Graph α) (n : Node α) : (g.setNode n).edges = g.edges := rfl

@[simp] theorem removeNodes_nodes (g : Graph α) (ids : List String) :
    (g.removeNodes ids).nodes = g.nodes.filter fun n => !ids.contains n.id := rfl

@[simp] theorem removeNodes_edges (g : Graph α) (ids : List String) :
    (g.removeNodes ids).edges = g.edges.filter fun e => !e.touches ids := rfl

@[simp] theorem addEdge_nodes (g : Graph α) (e : Edge α) : (g.addEdge e).nodes = g.nodes := rfl

@[simp] theorem addEdge_edges (g : Graph α) (e : Edge α) : (g.addEdge e).edges = g.edges ++ [e] :=
  rfl

@[simp] theorem setEdge_nodes (g : Graph α) (e : Edge α) : (g.setEdge e).nodes = g.nodes := rfl

@[simp] theorem setEdge_edges (g : Graph α) (e : Edge α) :
    (g.setEdge e).edges = g.edges.map fun d => if d.id = e.id then e else d := rfl

@[simp] theorem removeEdges_nodes (g : Graph α) (ids : List String) :
    (g.removeEdges ids).nodes = g.nodes := rfl

@[simp] theorem removeEdges_edges (g : Graph α) (ids : List String) :
    (g.removeEdges ids).edges = g.edges.filter fun e => !ids.contains e.id := rfl

@[simp] theorem rename_nodes (g : Graph α) (name : String) : (g.rename name).nodes = g.nodes := rfl

@[simp] theorem rename_edges (g : Graph α) (name : String) : (g.rename name).edges = g.edges := rfl

@[simp] theorem syncEntry_nodes (g : Graph α) : g.syncEntry.nodes = g.nodes := rfl

@[simp] theorem syncEntry_edges (g : Graph α) : g.syncEntry.edges = g.edges := rfl

theorem forall_mem_addNode {g : Graph α} {n : Node α} {P : Node α → Prop} :
    (∀ m ∈ (g.addNode n).nodes, P m) ↔ (∀ m ∈ g.nodes, P m) ∧ P n := by
  simp [or_imp, forall_and]

theorem forall_mem_addEdge {g : Graph α} {e : Edge α} {P : Edge α → Prop} :
    (∀ f ∈ (g.addEdge e).edges, P f) ↔ (∀ f ∈ g.edges, P f) ∧ P e := by
  simp [or_imp, forall_and]

theorem forall_mem_setNode {g : Graph α} {n : Node α} {P : Node α → Prop}
    (all : ∀ m ∈ g.nodes, P m) (new : P n) : ∀ m ∈ (g.setNode n).nodes, P m := by
  intro m hm
  obtain ⟨k, hk, rfl⟩ := List.mem_map.mp hm
  split
  · exact new
  · exact all k hk

/-- A node that differs in some respect from all that are there. -/
theorem nodup_map_addNode {β : Type v} {g : Graph α} {n : Node α} {f : Node α → β}
    (distinct : (g.nodes.map f).Nodup) (new : f n ∉ g.nodes.map f) :
    ((g.addNode n).nodes.map f).Nodup := by
  rw [addNode_nodes, List.map_append, List.map_singleton, ← List.concat_eq_append]
  exact distinct.concat new

/-- An edge that differs in some respect from all that are there. -/
theorem nodup_map_addEdge {β : Type v} {g : Graph α} {e : Edge α} {f : Edge α → β}
    (distinct : (g.edges.map f).Nodup) (new : ∀ d ∈ g.edges, f d ≠ f e) :
    ((g.addEdge e).edges.map f).Nodup := by
  rw [addEdge_edges, List.map_append, List.map_singleton, ← List.concat_eq_append]
  exact distinct.concat fun there => by
    obtain ⟨d, hd, same⟩ := List.mem_map.mp there
    exact new d hd same

/-- Where ids are pairwise different, a node put in the place of a node with its id that agrees with
that node in some respect leaves all nodes as they were in that respect. -/
theorem setNode_map_nodes {β : Type v} {g : Graph α} (hids : (g.nodes.map Node.id).Nodup)
    {n m : Node α} (hn : n ∈ g.nodes) (hid : m.id = n.id) {f : Node α → β} (hf : f m = f n) :
    (g.setNode m).nodes.map f = g.nodes.map f := by
  rw [setNode_nodes, List.map_map]
  refine List.map_congr_left fun k hk => ?_
  simp only [Function.comp_apply]
  split
  · next h =>
    rw [hf, eq_of_id_eq hids hk hn (h.trans hid)]
  · rfl

/-! ### Look-ups after an edit -/

theorem node?_addNode_of_has {g : Graph α} {id : String} (h : g.has id = true) (n : Node α) :
    (g.addNode n).node? id = g.node? id := by
  obtain ⟨m, hm⟩ := exists_node? h
  have found : g.nodes.find? (fun n => n.id == id) = some m := hm
  rw [node?, addNode_nodes, List.find?_append, found, hm]
  rfl

theorem node?_setNode (g : Graph α) (n : Node α) (id : String) :
    (g.setNode n).node? id = (g.node? id).map fun m => if m.id = n.id then n else m := by
  rw [node?, setNode_nodes, List.find?_map]
  refine congrArg (Option.map _) (List.find?_congr fun m _ => ?_)
  simp only [Function.comp_apply]
  split
  · next h => rw [h]
  · rfl

theorem node?_removeNodes {g : Graph α} {ids : List String} {id : String} (h : id ∉ ids) :
    (g.removeNodes ids).node? id = g.node? id := by
  rw [node?, node?, removeNodes_nodes, List.find?_filter]
  refine List.find?_congr fun n _ => ?_
  by_cases hid : n.id = id
  · simp [hid, h]
  · simp [hid]

theorem untouched {g : Graph α} {ids : List String} {e : Edge α}
    (he : e ∈ (g.removeNodes ids).edges) : e.source ∉ ids ∧ e.target ∉ ids := by
  simpa [Edge.touches] using (List.mem_filter.mp he).2

/-! ### Control points brought back -/

variable [Scalar α]

theorem initial_syncEntry : (initial : Graph α).syncEntry = initial := by
  simp [initial, syncEntry, entryName, entry?, start?, first?, firstFrom?, setEntryPoint]

/-- An edge with its control point brought back, whether or not that moves it. -/
def recentered (g : Graph α) (ids : Option (List String)) (e : Edge α) : Edge α :=
  (g.recentered? ids e).getD e

/-- An edge that is brought back is the same edge up to its control point, and it was not pinned. -/
theorem recentered?_eq_some {g : Graph α} {ids : Option (List String)} {e f : Edge α}
    (h : g.recentered? ids e = some f) :
    e.pinned = false ∧ ∃ a, g.anchors? e = some a ∧
      f = ⟨e.id, e.source, e.target, some a.middle, false⟩ := by
  unfold recentered? at h
  split at h
  · next hfollows =>
    have hpin : e.pinned = false := by
      simp only [follows, Bool.and_eq_true, Bool.not_eq_true'] at hfollows
      exact hfollows.1
    split at h
    · cases h
    · next a ha =>
      split at h
      · cases h
      · exact ⟨hpin, a, ha, (Option.some.inj h).symm⟩
  · cases h

theorem recentered_ends (g : Graph α) (ids : Option (List String)) (e : Edge α) :
    (g.recentered ids e).id = e.id ∧ (g.recentered ids e).source = e.source ∧
      (g.recentered ids e).target = e.target ∧ (g.recentered ids e).pinned = e.pinned := by
  unfold recentered
  rcases h : g.recentered? ids e with - | f
  · exact ⟨rfl, rfl, rfl, rfl⟩
  · obtain ⟨hpin, a, -, rfl⟩ := recentered?_eq_some h
    exact ⟨rfl, rfl, rfl, hpin.symm⟩

@[simp] theorem recentered_id (g : Graph α) (ids : Option (List String)) (e : Edge α) :
    (g.recentered ids e).id = e.id := (g.recentered_ends ids e).1

@[simp] theorem recentered_source (g : Graph α) (ids : Option (List String)) (e : Edge α) :
    (g.recentered ids e).source = e.source := (g.recentered_ends ids e).2.1

@[simp] theorem recentered_target (g : Graph α) (ids : Option (List String)) (e : Edge α) :
    (g.recentered ids e).target = e.target := (g.recentered_ends ids e).2.2.1

/-- One step of bringing control points back. -/
def recenterStep (g : Graph α) (ids : Option (List String)) (h : Graph α) (e : Edge α) : Graph α :=
  match g.recentered? ids e with
  | some f => h.setEdge f
  | none => h

theorem recenter_eq_foldl (g : Graph α) (ids : Option (List String)) :
    g.recenter ids = g.edges.foldl (g.recenterStep ids) g := rfl

theorem recenterStep_nodes (g : Graph α) (ids : Option (List String)) (h : Graph α) (e : Edge α) :
    (g.recenterStep ids h e).nodes = h.nodes := by
  unfold recenterStep
  split <;> rfl

@[simp] theorem recenter_nodes (g : Graph α) (ids : Option (List String)) :
    (g.recenter ids).nodes = g.nodes := by
  rw [recenter_eq_foldl]
  exact List.foldlRecOn g.edges (motive := fun h => h.nodes = g.nodes) _ rfl
    fun h ih e _ => (recenterStep_nodes g ids h e).trans ih

omit [Scalar α] in
/-- Putting an edge in the place of those with its id leaves alone a list without that id. -/
theorem map_setEdge_of_ne {f : Edge α} {l : List (Edge α)} (h : ∀ d ∈ l, d.id ≠ f.id) :
    (l.map fun d => if d.id = f.id then f else d) = l := by
  refine (List.map_congr_left fun d hd => ?_).trans l.map_id
  rw [if_neg (h d hd)]
  rfl

/-- A step meets only the edge that it is for. -/
theorem recenterStep_edges (g : Graph α) (ids : Option (List String)) {h : Graph α} {e : Edge α}
    {pre rest : List (Edge α)} (hedges : h.edges = pre ++ e :: rest)
    (hids : (h.edges.map Edge.id).Nodup) :
    (g.recenterStep ids h e).edges = pre ++ g.recentered ids e :: rest := by
  unfold recenterStep recentered
  rcases hf : g.recentered? ids e with - | f
  · exact hedges
  · have hid : e.id = f.id := by
      obtain ⟨-, a, -, rfl⟩ := recentered?_eq_some hf
      rfl
    rw [hedges, List.map_append, List.map_cons, List.nodup_append, List.nodup_cons, hid] at hids
    obtain ⟨-, ⟨hrest, -⟩, hpre⟩ := hids
    have hpre' : ∀ d ∈ pre, d.id ≠ f.id := fun d hd =>
      hpre _ (List.mem_map_of_mem hd) _ (List.mem_cons_self ..)
    have hrest' : ∀ d ∈ rest, d.id ≠ f.id := fun d hd hdf =>
      hrest (hdf ▸ List.mem_map_of_mem hd)
    simp only [setEdge_edges, hedges, List.map_append, List.map_cons, if_pos hid, Option.getD_some]
    rw [map_setEdge_of_ne hpre', map_setEdge_of_ne hrest']

/-- The loop, with the edges before the one it stands at already brought back. -/
theorem foldl_recenterStep_edges (g : Graph α) (ids : Option (List String)) :
    ∀ (rest pre : List (Edge α)) (h : Graph α), h.edges = pre ++ rest →
      (h.edges.map Edge.id).Nodup →
      (rest.foldl (g.recenterStep ids) h).edges = pre ++ rest.map (g.recentered ids) := by
  intro rest
  induction rest with
  | nil =>
    intro pre h hedges _
    exact hedges
  | cons e rest ih =>
    intro pre h hedges hids
    have hstep := g.recenterStep_edges ids hedges hids
    -- a step replaces an edge under its own id, so the ids stay as they were
    have hids' : ((g.recenterStep ids h e).edges.map Edge.id).Nodup := by
      rw [hedges] at hids
      rw [hstep]
      simpa using hids
    have htail := ih (pre ++ [g.recentered ids e]) (g.recenterStep ids h e)
      (by rw [hstep, List.append_assoc]; rfl) hids'
    rw [List.foldl_cons, htail, List.append_assoc]
    rfl

/-- **One pass**: where edge ids are pairwise different, bringing control points back replaces every
edge by itself with its control point brought back. -/
theorem recenter_edges {g : Graph α} (hids : (g.edges.map Edge.id).Nodup)
    (ids : Option (List String)) : (g.recenter ids).edges = g.edges.map (g.recentered ids) := by
  rw [recenter_eq_foldl]
  exact g.foldl_recenterStep_edges ids g.edges [] g rfl hids

end Graph

end FlowCanvas

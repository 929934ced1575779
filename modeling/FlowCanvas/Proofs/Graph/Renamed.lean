import FlowCanvas.Editor.Plan
import FlowCanvas.Proofs.Graph.Edit
import FlowCanvas.Proofs.Graph.Handle
import FlowCanvas.Proofs.Program.Mapped

/-!
# Graphs under other ids

Ids are handles and nothing else. If the ids of nodes and the ids of edges are replaced by others,
different ones by different ones, then what is found under an old id is found under the new one, and
each edit of the one graph is the same edit of the other one (`Graph.renamed_recenter` and its
kin). The code is the same as well, if every node has an identifier (`Graph.source_renamed`).

A new edge gets an id that is made of the ids of its ends, so a renaming has to fit: it takes this
id to the one that is made of the new ids of the ends (`Renaming.Fits`).
-/

namespace FlowCanvas

universe u

/-- Other ids for nodes and for edges. -/
structure Renaming where
  /-- the new id of a node -/
  node : String → String
  /-- the new id of an edge -/
  edge : String → String

namespace Renaming

/-- That different ids stay different. -/
structure IsFaithful (σ : Renaming) : Prop where
  /-- ids of nodes -/
  node : Function.Injective σ.node
  /-- ids of edges -/
  edge : Function.Injective σ.edge

/-- That the edges between some nodes get the ids that they would be given. -/
def Fits (σ : Renaming) (known : List String) : Prop :=
  ∀ s ∈ known, ∀ t ∈ known, σ.edge (Graph.edgeId s t) = Graph.edgeId (σ.node s) (σ.node t)

variable {σ : Renaming} (h : σ.IsFaithful)
include h

theorem IsFaithful.node_beq (a b : String) : (σ.node a == σ.node b) = (a == b) := by
  simp [h.node.eq_iff]

theorem IsFaithful.edge_beq (a b : String) : (σ.edge a == σ.edge b) = (a == b) := by
  simp [h.edge.eq_iff]

theorem IsFaithful.contains_node (ids : List String) (id : String) :
    (ids.map σ.node).contains (σ.node id) = ids.contains id := by
  simp [h.node.eq_iff]

theorem IsFaithful.contains_edge (ids : List String) (id : String) :
    (ids.map σ.edge).contains (σ.edge id) = ids.contains id := by
  simp [h.edge.eq_iff]

end Renaming

variable {α : Type u} {σ : Renaming}

/-! ### Nodes and edges -/

namespace Node

/-- A node under another id. -/
def renamed (σ : Renaming) (n : Node α) : Node α := { n with id := σ.node n.id }

@[simp] theorem renamed_id (n : Node α) : (n.renamed σ).id = σ.node n.id := rfl

@[simp] theorem renamed_category (n : Node α) : (n.renamed σ).category = n.category := rfl

@[simp] theorem renamed_position (n : Node α) : (n.renamed σ).position = n.position := rfl

/-- A node that has an identifier does not fall back on its id. -/
theorem nameInCode_renamed {n : Node α} (h : n.identifier ≠ "") :
    (n.renamed σ).nameInCode = n.nameInCode := by
  simp [nameInCode, renamed, h]

end Node

namespace Edge

/-- An edge under another id, between nodes under other ids. -/
def renamed (σ : Renaming) (e : Edge α) : Edge α :=
  { e with id := σ.edge e.id, source := σ.node e.source, target := σ.node e.target }

@[simp] theorem renamed_id (e : Edge α) : (e.renamed σ).id = σ.edge e.id := rfl

@[simp] theorem renamed_source (e : Edge α) : (e.renamed σ).source = σ.node e.source := rfl

@[simp] theorem renamed_target (e : Edge α) : (e.renamed σ).target = σ.node e.target := rfl

@[simp] theorem renamed_control (e : Edge α) : (e.renamed σ).control = e.control := rfl

@[simp] theorem renamed_pinned (e : Edge α) : (e.renamed σ).pinned = e.pinned := rfl

theorem isLoop_renamed (h : σ.IsFaithful) (e : Edge α) : (e.renamed σ).isLoop = e.isLoop :=
  h.node_beq e.source e.target

theorem touches_renamed (h : σ.IsFaithful) (ids : List String) (e : Edge α) :
    (e.renamed σ).touches (ids.map σ.node) = e.touches ids := by
  simp only [touches, renamed_source, renamed_target, h.contains_node]

end Edge

namespace Graph

/-- A graph under other ids. -/
def renamed (σ : Renaming) (g : Graph α) : Graph α := g.mapped (Node.renamed σ) (Edge.renamed σ)

@[simp] theorem renamed_nodes (g : Graph α) : (g.renamed σ).nodes = g.nodes.map (Node.renamed σ) :=
  rfl

@[simp] theorem renamed_edges (g : Graph α) : (g.renamed σ).edges = g.edges.map (Edge.renamed σ) :=
  rfl

@[simp] theorem renamed_name (g : Graph α) : (g.renamed σ).name = g.name := rfl

@[simp] theorem renamed_entryPoint (g : Graph α) : (g.renamed σ).entryPoint = g.entryPoint := rfl

/-- A graph is told by its parts. -/
theorem eq_of_parts {g h : Graph α} (nodes : g.nodes = h.nodes) (edges : g.edges = h.edges)
    (entryPoint : g.entryPoint = h.entryPoint) (name : g.name = h.name) : g = h := by
  cases g
  cases h
  simp_all

/-! ### The program -/

/-- That every node has an identifier. -/
def HasIdentifiers (g : Graph α) : Prop := ∀ n ∈ g.nodes, n.identifier ≠ ""

theorem isKept_renamed (h : σ.IsFaithful) {g : Graph α} (hg : g.HasIdentifiers) :
    g.IsKept σ.node (Node.renamed σ) (Edge.renamed σ) where
  injective := h.node
  id _ _ := rfl
  category _ _ := rfl
  nameInCode n hn := Node.nameInCode_renamed (hg n hn)
  implementation _ _ := rfl
  source _ _ := rfl
  target _ _ := rfl

/-- **The code of a graph under other ids is the same.** -/
theorem source_renamed (h : σ.IsFaithful) {g : Graph α} (hg : g.HasIdentifiers) :
    (g.renamed σ).source = g.source :=
  (isKept_renamed h hg).source_mapped

theorem renamed_syncEntry (h : σ.IsFaithful) {g : Graph α} (hg : g.HasIdentifiers) :
    (g.renamed σ).syncEntry = g.syncEntry.renamed σ := by
  rw [syncEntry, renamed, (isKept_renamed h hg).entryName_mapped]
  rfl

/-! ### Look-ups -/

theorem node?_renamed (h : σ.IsFaithful) (g : Graph α) (id : String) :
    (g.renamed σ).node? (σ.node id) = (g.node? id).map (Node.renamed σ) :=
  find?_map_of_eq fun n _ => h.node_beq n.id id

theorem edge?_renamed (h : σ.IsFaithful) (g : Graph α) (id : String) :
    (g.renamed σ).edge? (σ.edge id) = (g.edge? id).map (Edge.renamed σ) :=
  find?_map_of_eq fun e _ => h.edge_beq e.id id

theorem isTaken_renamed (g : Graph α) (c : Category) : (g.renamed σ).isTaken c = g.isTaken c := by
  have first : (g.renamed σ).first? c = (g.first? c).map (Node.renamed σ) :=
    find?_map_of_eq fun _ _ => rfl
  rw [isTaken, first, Option.isSome_map, isTaken]

theorem between_renamed (h : σ.IsFaithful) (g : Graph α) (source target : String) :
    (g.renamed σ).between (σ.node source) (σ.node target) =
      (g.between source target).map (Edge.renamed σ) := by
  rw [between, renamed_edges, List.filter_map]
  refine congrArg (List.map _) (List.filter_congr fun e _ => ?_)
  simp only [Function.comp_apply, Edge.renamed_source, Edge.renamed_target, h.node_beq]

theorem ofLabel_renamed (h : σ.IsFaithful) (label : String) (nodes : List (Node α))
    (except : Option String) (c : Option Category) :
    Identifier.ofLabel label (nodes.map (Node.renamed σ)) (except.map σ.node) c =
      Identifier.ofLabel label nodes except c := by
  have other (n : Node α) : except.map σ.node ≠ some (σ.node n.id) ↔ except ≠ some n.id := by
    cases except with
    | none => simp
    | some id => simp [h.node.eq_iff]
  have taken : Identifier.taken (nodes.map (Node.renamed σ)) (except.map σ.node) =
      Identifier.taken nodes except := by
    simp only [Identifier.taken, List.filter_map, List.map_map, Function.comp_def,
      Node.renamed_id, other]
    rfl
  rw [Identifier.ofLabel, taken, Identifier.ofLabel]

/-! ### Edits -/

theorem renamed_addNode (g : Graph α) (n : Node α) :
    (g.addNode n).renamed σ = (g.renamed σ).addNode (n.renamed σ) := by
  simp [renamed, mapped, addNode]

theorem renamed_setNode (h : σ.IsFaithful) (g : Graph α) (n : Node α) :
    (g.setNode n).renamed σ = (g.renamed σ).setNode (n.renamed σ) := by
  refine eq_of_parts ?_ rfl rfl rfl
  simp only [renamed_nodes, setNode_nodes, List.map_map]
  refine List.map_congr_left fun m _ => ?_
  simp only [Function.comp_apply, Node.renamed_id, h.node.eq_iff]
  exact apply_ite (Node.renamed σ) _ _ _

theorem renamed_removeNodes (h : σ.IsFaithful) (g : Graph α) (ids : List String) :
    (g.removeNodes ids).renamed σ = (g.renamed σ).removeNodes (ids.map σ.node) := by
  refine eq_of_parts ?_ ?_ rfl rfl
  · simp only [renamed_nodes, removeNodes_nodes, List.filter_map, Function.comp_def,
      Node.renamed_id, h.contains_node]
  · simp only [renamed_edges, removeNodes_edges, List.filter_map, Function.comp_def,
      Edge.touches_renamed h]

theorem renamed_addEdge (g : Graph α) (e : Edge α) :
    (g.addEdge e).renamed σ = (g.renamed σ).addEdge (e.renamed σ) := by
  simp [renamed, mapped, addEdge]

theorem renamed_setEdge (h : σ.IsFaithful) (g : Graph α) (e : Edge α) :
    (g.setEdge e).renamed σ = (g.renamed σ).setEdge (e.renamed σ) := by
  refine eq_of_parts rfl ?_ rfl rfl
  simp only [renamed_edges, setEdge_edges, List.map_map]
  refine List.map_congr_left fun d _ => ?_
  simp only [Function.comp_apply, Edge.renamed_id, h.edge.eq_iff]
  exact apply_ite (Edge.renamed σ) _ _ _

theorem renamed_removeEdges (h : σ.IsFaithful) (g : Graph α) (ids : List String) :
    (g.removeEdges ids).renamed σ = (g.renamed σ).removeEdges (ids.map σ.edge) := by
  refine eq_of_parts rfl ?_ rfl rfl
  simp only [renamed_edges, removeEdges_edges, List.filter_map, Function.comp_def,
    Edge.renamed_id, h.contains_edge]

variable [Scalar α]

/-! ### Control points brought back -/

theorem anchors?_renamed (h : σ.IsFaithful) (g : Graph α) (e : Edge α) :
    (g.renamed σ).anchors? (e.renamed σ) = g.anchors? e := by
  simp only [anchors?, Edge.renamed_source, Edge.renamed_target, node?_renamed h,
    Edge.isLoop_renamed h]
  cases g.node? e.source with
  | none => rfl
  | some s => cases g.node? e.target <;> rfl

theorem recentered?_renamed (h : σ.IsFaithful) (g : Graph α) (ids : Option (List String))
    (e : Edge α) :
    (g.renamed σ).recentered? (ids.map (List.map σ.node)) (e.renamed σ) =
      (g.recentered? ids e).map (Edge.renamed σ) := by
  have moves : follows (ids.map (List.map σ.node)) (e.renamed σ) = follows ids e := by
    cases ids with
    | none => rfl
    | some ids =>
      simp only [follows, Option.map_some, Option.all_some, Edge.touches_renamed h,
        Edge.renamed_pinned]
  simp only [recentered?, moves, anchors?_renamed h]
  split
  · cases g.anchors? e with
    | none => rfl
    | some a =>
      change (if (e.control.any fun p => a.middle.same p) = true then none else some _) =
        Option.map _ (if (e.control.any fun p => a.middle.same p) = true then none else some _)
      split <;> rfl
  · rfl

theorem renamed_recenter (h : σ.IsFaithful) (g : Graph α) (ids : Option (List String)) :
    (g.recenter ids).renamed σ = (g.renamed σ).recenter (ids.map (List.map σ.node)) := by
  have step (k : Graph α) (e : Edge α) : (g.recenterStep ids k e).renamed σ =
      (g.renamed σ).recenterStep (ids.map (List.map σ.node)) (k.renamed σ) (e.renamed σ) := by
    rw [recenterStep, recenterStep, recentered?_renamed h]
    cases g.recentered? ids e with
    | none => rfl
    | some f => exact renamed_setEdge h k f
  rw [recenter_eq_foldl, recenter_eq_foldl, renamed_edges, List.foldl_map]
  exact (List.foldl_hom (renamed σ) fun k e => (step k e).symm).symm

end Graph

end FlowCanvas

import FlowCanvas.Number.Basic
import FlowCanvas.Proofs.Graph.Renamed

/-!
# Copies of a graph

A copy of a graph has the same nodes and edges, one after the other, under other ids. What code has
no use for may differ as well, and from place to place: labels, positions, the ids, control points
and pins of edges, and the recorded entry point. If different ids stay different and every node has
an identifier, then a graph and its copy have the same code (`Graph.source_of_isCopy`). For without
all that code has no use for, the copy is the graph under other ids (`Graph.IsCopy.bare_eq`).

Nothing else is asked of the graphs: ids may occur twice, and edges may dangle.
-/

namespace FlowCanvas

universe u v w

/-- Lists whose entries agree one by one under two maps have the same image. -/
theorem map_eq_map_of_forall₂ {β : Type u} {γ : Type v} {δ : Type w} {f : β → δ} {g : γ → δ}
    {l : List β} {m : List γ} (h : List.Forall₂ (fun a b => g b = f a) l m) :
    m.map g = l.map f := by
  rw [← List.forall₂_eq_eq_eq, List.forall₂_map_left_iff, List.forall₂_map_right_iff]
  exact h.flip

variable {α : Type u} {r : String → String}

/-! ### What may differ -/

/-- That a node is another one under another id, with any label and at any position. -/
structure Node.IsCopy (r : String → String) (n m : Node α) : Prop where
  /-- the id -/
  id : m.id = r n.id
  /-- the kind -/
  category : m.category = n.category
  /-- the name in compiled code -/
  identifier : m.identifier = n.identifier
  /-- what it runs -/
  implementation : m.implementation = n.implementation

/-- That an edge is another one between ends under other ids, drawn in any way. -/
structure Edge.IsCopy (r : String → String) (e d : Edge α) : Prop where
  /-- where it starts -/
  source : d.source = r e.source
  /-- where it ends -/
  target : d.target = r e.target

/-- That a graph is another one under other ids, with any recorded entry point. -/
structure Graph.IsCopy (r : String → String) (g h : Graph α) : Prop where
  /-- the name -/
  name : h.name = g.name
  /-- the nodes, in order -/
  nodes : List.Forall₂ (Node.IsCopy r) g.nodes h.nodes
  /-- the edges, in order -/
  edges : List.Forall₂ (Edge.IsCopy r) g.edges h.edges

/-! ### Without what may differ -/

/-- Other ids for nodes alone. -/
def Renaming.ofNodes (r : String → String) : Renaming := ⟨r, id⟩

theorem Renaming.isFaithful_ofNodes (hr : Function.Injective r) : (ofNodes r).IsFaithful :=
  ⟨hr, Function.injective_id⟩

/-- A node without label and position. -/
def Node.bare [Scalar α] (n : Node α) : Node α := { n with label := "", position := Point.origin }

/-- An edge without anything but its ends. -/
def Edge.bare (e : Edge α) : Edge α := ⟨"", e.source, e.target, none, false⟩

theorem Node.IsCopy.bare_eq [Scalar α] {n m : Node α} (copy : n.IsCopy r m) :
    m.bare = n.bare.renamed (.ofNodes r) := by
  simp only [bare, renamed, Renaming.ofNodes, copy.id, copy.category, copy.identifier,
    copy.implementation]

theorem Edge.IsCopy.bare_eq {e d : Edge α} (copy : e.IsCopy r d) :
    d.bare = e.bare.renamed (.ofNodes r) := by
  simp only [bare, renamed, Renaming.ofNodes, copy.source, copy.target, id_eq]

namespace Graph

variable {g h : Graph α}

/-- A graph of bare nodes and edges. -/
def bare [Scalar α] (g : Graph α) : Graph α := g.mapped Node.bare Edge.bare

theorem source_bare [Scalar α] (g : Graph α) : g.bare.source = g.source := by
  have kept : g.IsKept id Node.bare Edge.bare :=
    ⟨Function.injective_id, fun _ _ => rfl, fun _ _ => rfl, fun _ _ => rfl, fun _ _ => rfl,
      fun _ _ => rfl, fun _ _ => rfl⟩
  exact kept.source_mapped

theorem HasIdentifiers.bare [Scalar α] (hg : g.HasIdentifiers) : g.bare.HasIdentifiers := by
  intro n hn
  obtain ⟨m, hm, rfl⟩ := List.mem_map.mp hn
  exact hg m hm

/-- The recorded entry point is not looked at. -/
theorem source_setEntryPoint (g : Graph α) (entry : Json) :
    (g.setEntryPoint entry).source = g.source := rfl

theorem IsCopy.bare_eq [Scalar α] (copy : g.IsCopy r h) :
    h.bare = (g.bare.renamed (.ofNodes r)).setEntryPoint h.entryPoint := by
  have nodes : h.nodes.map Node.bare = (g.nodes.map Node.bare).map (Node.renamed (.ofNodes r)) := by
    rw [List.map_map]
    exact map_eq_map_of_forall₂ (copy.nodes.imp fun _ _ => Node.IsCopy.bare_eq)
  have edges : h.edges.map Edge.bare = (g.edges.map Edge.bare).map (Edge.renamed (.ofNodes r)) := by
    rw [List.map_map]
    exact map_eq_map_of_forall₂ (copy.edges.imp fun _ _ => Edge.IsCopy.bare_eq)
  exact eq_of_parts nodes edges rfl copy.name

/-- **A graph and its copy have the same code.** -/
theorem source_of_isCopy [Scalar α] (hr : Function.Injective r) (copy : g.IsCopy r h)
    (hg : g.HasIdentifiers) : h.source = g.source :=
  calc
    h.source = h.bare.source := h.source_bare.symm
    _ = (g.bare.renamed (.ofNodes r)).source := by rw [copy.bare_eq, source_setEntryPoint]
    _ = g.bare.source := source_renamed (Renaming.isFaithful_ofNodes hr) hg.bare
    _ = g.source := g.source_bare

/-- A graph in which two nodes have one id, two edges dangle and the recorded entry point is that of
another graph. -/
def muddled : Graph Number where
  nodes := [⟨"start-1", .start, "START", "start", .null, Point.origin⟩,
    ⟨"action-1", .action, "Agent", "agent", .null, Point.origin⟩,
    ⟨"branch-1", .branch, "Conditional Edge", "choose", .null, Point.origin⟩,
    ⟨"action-1", .tool, "Tool", "look", .string "search", Point.origin⟩]
  edges := [⟨"e1", "start-1", "action-1", none, false⟩, ⟨"e2", "action-1", "branch-1", none, false⟩,
    ⟨"e3", "branch-1", "action-1", none, false⟩, ⟨"e4", "branch-1", "ghost", none, false⟩,
    ⟨"e5", "ghost", "action-1", none, false⟩, ⟨"e6", "action-1", "action-1", none, false⟩]
  entryPoint := .string "other"
  name := defaultGraphName

/-- A copy of it, in which all edges have one id and one of them is pinned. -/
def muddledCopy : Graph Number where
  nodes := [⟨"id start-1", .start, "", "start", .null, Point.origin⟩,
    ⟨"id action-1", .action, "first", "agent", .null, ⟨Scalar.whole 100, Scalar.whole 7⟩⟩,
    ⟨"id branch-1", .branch, "Agent", "choose", .null, ⟨Scalar.whole 7, Scalar.whole 100⟩⟩,
    ⟨"id action-1", .tool, "second", "look", .string "search", Point.origin⟩]
  edges := [⟨"e", "id start-1", "id action-1", none, false⟩,
    ⟨"e", "id action-1", "id branch-1", some Point.origin, true⟩,
    ⟨"e", "id branch-1", "id action-1", none, true⟩, ⟨"e", "id branch-1", "id ghost", none, false⟩,
    ⟨"e", "id ghost", "id action-1", none, false⟩, ⟨"e", "id action-1", "id action-1", none, false⟩]
  entryPoint := .null
  name := defaultGraphName

theorem source_of_isCopy_muddled :
    Function.Injective ("id " ++ ·) ∧ muddled.IsCopy ("id " ++ ·) muddledCopy ∧
      muddled.HasIdentifiers ∧ muddledCopy.source = muddled.source := by
  have hr : Function.Injective ("id " ++ ·) := fun _ _ => (String.append_right_inj _).mp
  have copy : muddled.IsCopy ("id " ++ ·) muddledCopy := by
    refine ⟨rfl, ?_, ?_⟩
    · repeat' constructor
    · repeat' constructor
  have hg : muddled.HasIdentifiers := by
    unfold HasIdentifiers
    decide
  exact ⟨hr, copy, hg, source_of_isCopy hr copy hg⟩

end Graph

end FlowCanvas

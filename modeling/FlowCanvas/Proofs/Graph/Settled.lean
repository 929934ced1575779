import FlowCanvas.Editor.Plan
import FlowCanvas.Number.Basic
import FlowCanvas.Proofs.Program.Mapped

/-!
# Settled coordinates

Some coordinates of a fresh canvas are whole numbers. They stay so until the graph is saved and
loaded again, which makes doubles of them. A settled graph is one after that. No edit can tell a
graph from the settled one but by the positions of nodes that it answers: the same edits are
refused, the same control points come out, for an anchor that an edge starts from is never whole,
and the code is the same (`planMove_settled` and its kin, `source_settled`).
-/

namespace FlowCanvas

universe u v

/-- A number as a double. -/
def Number.settled (a : Number) : Number := .real a.toFloat

@[simp] theorem Number.settled_settled (a : Number) : a.settled.settled = a.settled := rfl

namespace Node

/-- A node with its coordinates as doubles. -/
def settled (n : Node Number) : Node Number := { n with position := n.position.map Number.settled }

@[simp] theorem settled_id (n : Node Number) : n.settled.id = n.id := rfl

@[simp] theorem settled_category (n : Node Number) : n.settled.category = n.category := rfl

@[simp] theorem settled_identifier (n : Node Number) : n.settled.identifier = n.identifier := rfl

@[simp] theorem settled_settled (n : Node Number) : n.settled.settled = n.settled := rfl

end Node

namespace Graph

/-- A graph with the coordinates of its nodes as doubles. -/
def settled (g : Graph Number) : Graph Number := { g with nodes := g.nodes.map Node.settled }

@[simp] theorem settled_nodes (g : Graph Number) : g.settled.nodes = g.nodes.map Node.settled := rfl

@[simp] theorem settled_edges (g : Graph Number) : g.settled.edges = g.edges := rfl

@[simp] theorem settled_settled (g : Graph Number) : g.settled.settled = g.settled := by
  unfold settled
  rw [List.map_map]
  rfl

/-! ### Look-ups -/

theorem node?_settled (g : Graph Number) (id : String) :
    g.settled.node? id = (g.node? id).map Node.settled :=
  find?_map_of_eq fun _ _ => rfl

theorem first?_settled (g : Graph Number) (c : Category) :
    g.settled.first? c = (g.first? c).map Node.settled :=
  find?_map_of_eq fun _ _ => rfl

/-! ### The program -/

theorem settled_eq_mapped (g : Graph Number) : g.settled = g.mapped Node.settled id := by
  rw [mapped, List.map_id]
  rfl

/-- To settle coordinates is nothing to a program. -/
theorem isKept_settled (g : Graph Number) : g.IsKept id Node.settled id where
  injective := Function.injective_id
  id _ _ := rfl
  category _ _ := rfl
  nameInCode _ _ := rfl
  implementation _ _ := rfl
  source _ _ := rfl
  target _ _ := rfl

theorem syncEntry_settled (g : Graph Number) : g.settled.syncEntry = g.syncEntry.settled := by
  have entry : g.settled.entryName = g.entryName := by
    rw [settled_eq_mapped, g.isKept_settled.entryName_mapped]
  unfold syncEntry
  rw [entry]
  rfl

/-- **The code of a settled graph is the same.** -/
theorem source_settled (g : Graph Number) : g.settled.source = g.source := by
  rw [settled_eq_mapped, g.isKept_settled.source_mapped]

/-! ### Edits -/

theorem settled_addNode (g : Graph Number) (n : Node Number) :
    (g.addNode n).settled = g.settled.addNode n.settled := by
  simp [settled, addNode]

theorem settled_setNode (g : Graph Number) (n : Node Number) :
    (g.setNode n).settled = g.settled.setNode n.settled := by
  have nodes : (g.setNode n).settled.nodes = (g.settled.setNode n.settled).nodes := by
    simp only [settled_nodes, setNode_nodes, List.map_map]
    refine List.map_congr_left fun m _ => ?_
    exact apply_ite Node.settled _ _ _
  exact congrArg (fun nodes => ({ g with nodes := nodes } : Graph Number)) nodes

theorem settled_removeNodes (g : Graph Number) (ids : List String) :
    (g.removeNodes ids).settled = g.settled.removeNodes ids := by
  have nodes : (g.removeNodes ids).settled.nodes = (g.settled.removeNodes ids).nodes := by
    simp only [settled_nodes, removeNodes_nodes, List.filter_map]
    rfl
  exact congrArg (fun nodes => ({ g.removeNodes ids with nodes := nodes } : Graph Number)) nodes

/-- Where unpinned edges pass through is the same: what is halved is never whole. -/
theorem middle_settled (g : Graph Number) (e : Edge Number) :
    (g.settled.anchors? e).map Anchors.middle = (g.anchors? e).map Anchors.middle := by
  have middle (s t : Node Number) (loop : Bool) :
      Anchors.middle ⟨s.settled.box.centerBottom,
          if loop then s.settled.box.centerBottom else t.settled.box.centerTop⟩ =
        Anchors.middle ⟨s.box.centerBottom,
          if loop then s.box.centerBottom else t.box.centerTop⟩ := by
    -- a quotient is a double, whichever of the coordinates are whole
    obtain ⟨-, -, -, -, -, ⟨_ | _, _ | _⟩⟩ := s <;> obtain ⟨-, -, -, -, -, ⟨_ | _, _ | _⟩⟩ := t <;>
      cases loop <;> rfl
  unfold anchors?
  rw [node?_settled, node?_settled]
  cases g.node? e.source with
  | none => rfl
  | some s =>
    cases g.node? e.target with
    | none => rfl
    | some t => exact congrArg some (middle s t e.isLoop)

theorem recentered?_settled (g : Graph Number) (ids : Option (List String)) (e : Edge Number) :
    g.settled.recentered? ids e = g.recentered? ids e := by
  have middle := middle_settled g e
  unfold recentered?
  cases h : g.anchors? e with
  | none =>
    rw [h] at middle
    rw [Option.map_eq_none_iff.mp middle]
  | some a =>
    rw [h] at middle
    obtain ⟨b, hb, hmiddle⟩ := Option.map_eq_some_iff.mp middle
    rw [hb]
    simp only [hmiddle]

theorem settled_recenter (g : Graph Number) (ids : Option (List String)) :
    (g.recenter ids).settled = g.settled.recenter ids := by
  rw [recenter_eq_foldl, recenter_eq_foldl, settled_edges]
  have step (h : Graph Number) (e : Edge Number) :
      (g.recenterStep ids h e).settled = g.settled.recenterStep ids h.settled e := by
    unfold recenterStep
    rw [recentered?_settled]
    split <;> rfl
  exact (List.foldl_hom settled fun h e => (step h e).symm).symm

end Graph

/-! ### Plans -/

/-- A plan with the graph in it settled, and with the answer settled by `f`. -/
def Plan.settled {β : Type v} (f : β → β) (p : Plan Number β) : Plan Number β :=
  ⟨p.change.map fun c => ⟨c.graph.settled, c.action, c.subject⟩, f p.answer⟩

namespace Graph

theorem ofLabel_settled (label : String) (nodes : List (Node Number)) (except : Option String)
    (c : Option Category) :
    Identifier.ofLabel label (nodes.map Node.settled) except c =
      Identifier.ofLabel label nodes except c := by
  have taken : Identifier.taken (nodes.map Node.settled) except =
      Identifier.taken nodes except := by
    unfold Identifier.taken
    rw [List.filter_map, List.map_map]
    rfl
  unfold Identifier.ofLabel
  rw [taken]

theorem isTaken_settled (g : Graph Number) (c : Category) :
    g.settled.isTaken c = g.isTaken c := by
  rw [isTaken, first?_settled, Option.isSome_map, isTaken]

theorem requireNode_settled (g : Graph Number) (id : String) :
    g.settled.requireNode id = (g.requireNode id).map Node.settled := by
  unfold requireNode
  rw [node?_settled]
  cases g.node? id <;> rfl

theorem planAdd_settled (g : Graph Number) (c : Category) (id : String)
    (position : Option (Point Number)) (label : Option String) :
    (g.settled.planAdd c id position label).map (Plan.settled Node.settled) =
      (g.planAdd c id position label).map (Plan.settled Node.settled) := by
  unfold planAdd
  cases newLabel c id label with
  | error r => rfl
  | ok label =>
    have node : g.settled.newNode c id label position = g.newNode c id label position := by
      unfold newNode
      rw [settled_nodes, ofLabel_settled]
    simp only [Except.map, Plan.settled, Option.map_some, node, settled_addNode, settled_settled]

theorem planRename_settled (g : Graph Number) (id text : String) :
    (g.settled.planRename id text).map (Plan.settled Node.settled) =
      (g.planRename id text).map (Plan.settled Node.settled) := by
  unfold planRename
  rw [requireNode_settled]
  cases g.requireNode id with
  | error r => rfl
  | ok n =>
    change (if n.category.isTerminal then _ else _ : Except Rejection _).map _ =
      (if n.category.isTerminal then _ else _ : Except Rejection _).map _
    by_cases terminal : n.category.isTerminal = true
    · rw [if_pos terminal, if_pos terminal]
      rfl
    · rw [if_neg terminal, if_neg terminal, settled_nodes]
      cases requireLabel id text with
      | error r => rfl
      | ok label =>
        simp only [Except.map, Plan.settled, Option.map_some, ofLabel_settled, settled_setNode,
          settled_settled]
        rfl

theorem planMove_settled (g : Graph Number) (id : String) (position : Point Number) :
    (g.settled.planMove id position).map (Plan.settled Node.settled) =
      (g.planMove id position).map (Plan.settled Node.settled) := by
  unfold planMove
  rw [requireNode_settled]
  cases g.requireNode id with
  | error r => rfl
  | ok n =>
    simp only [Except.map, Plan.settled, Option.map_some, settled_recenter, settled_setNode,
      settled_settled]
    rfl

theorem mapM_requireNode_settled (g : Graph Number) (ids : List String) :
    ids.mapM g.settled.requireNode = (ids.mapM g.requireNode).map (List.map Node.settled) := by
  induction ids with
  | nil => rfl
  | cons id rest ih =>
    rw [List.mapM_cons, List.mapM_cons, requireNode_settled, ih]
    cases g.requireNode id with
    | error r => rfl
    | ok n => cases rest.mapM g.requireNode <;> rfl

theorem planRemoveNodes_settled (g : Graph Number) (ids : List String) :
    (g.settled.planRemoveNodes ids).map (Plan.settled id) =
      (g.planRemoveNodes ids).map (Plan.settled id) := by
  unfold planRemoveNodes
  rw [mapM_requireNode_settled]
  cases ids.mapM g.requireNode with
  | error r => rfl
  | ok ns =>
    simp only [Except.map, Plan.settled, Option.map_some, settled_removeNodes, settled_settled]

theorem planConnect_settled (g : Graph Number) (source target : String) :
    (g.settled.planConnect source target).map (Plan.settled id) =
      (g.planConnect source target).map (Plan.settled id) := by
  unfold planConnect
  rw [requireNode_settled, requireNode_settled]
  cases g.requireNode source with
  | error r => rfl
  | ok s =>
    cases g.requireNode target with
    | error r => rfl
    | ok t =>
      change (if s.category = .stop then _ else if t.category = .start then _ else _ :
          Except Rejection _).map _ =
        (if s.category = .stop then _ else if t.category = .start then _ else _ :
          Except Rejection _).map _
      by_cases leaves : s.category = .stop
      · rw [if_pos leaves, if_pos leaves]
      · rw [if_neg leaves, if_neg leaves]
        by_cases enters : t.category = .start
        · rw [if_pos enters, if_pos enters]
        · rw [if_neg enters, if_neg enters]
          have drawn : (g.settled.addEdge (newEdge source target)).recenter
              (some [source, target]) =
              ((g.addEdge (newEdge source target)).recenter (some [source, target])).settled :=
            (settled_recenter (g.addEdge (newEdge source target)) _).symm
          have between : g.settled.between source target = g.between source target := rfl
          rw [between]
          cases g.between source target with
          | cons present rest => rfl
          | nil =>
            simp only [drawn, Except.map, Plan.settled, Option.map_some, settled_settled]
            rfl

theorem planRemoveEdges_settled (g : Graph Number) (ids : List String) :
    (g.settled.planRemoveEdges ids).map (Plan.settled id) =
      (g.planRemoveEdges ids).map (Plan.settled id) := by
  have require : g.settled.requireEdge = g.requireEdge := rfl
  unfold planRemoveEdges
  rw [require]
  cases ids.mapM g.requireEdge with
  | error r => rfl
  | ok es =>
    have removed : (g.settled.removeEdges ids).settled = (g.removeEdges ids).settled :=
      settled_settled (g.removeEdges ids)
    simp only [Except.map, Plan.settled, Option.map_some, removed]

theorem planPin_settled (g : Graph Number) (id : String) (point : Point Number) :
    (g.settled.planPin id point).map (Plan.settled fun e => e) =
      (g.planPin id point).map (Plan.settled fun e => e) := by
  have require : g.settled.requireEdge = g.requireEdge := rfl
  unfold planPin
  rw [require]
  cases g.requireEdge id with
  | error r => rfl
  | ok e =>
    have pinned (d : Edge Number) : (g.settled.setEdge d).settled = (g.setEdge d).settled :=
      settled_settled (g.setEdge d)
    simp only [Except.map, Plan.settled, Option.map_some, pinned]

theorem planName_settled (g : Graph Number) (raw : String) :
    (g.settled.planName raw).settled id = (g.planName raw).settled id := by
  have renamed (name : String) : (g.settled.rename name).settled = (g.rename name).settled :=
    settled_settled (g.rename name)
  simp only [planName, Plan.settled, Option.map_some, renamed]

end Graph

end FlowCanvas

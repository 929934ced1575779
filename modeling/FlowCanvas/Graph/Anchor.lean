import FlowCanvas.Graph.Basic
import FlowCanvas.Plane.Curve

/-!
# Anchors and control points

A node is a box on the canvas. Edges leave it from the middle of its bottom side and enter it at the
middle of its top side; a loop does both at the bottom. The control point of an edge lies half way
between its anchors until the user has pinned it somewhere else. When nodes move, the control points
that are not pinned are brought back to the middle.
-/

namespace FlowCanvas

universe u

variable {α : Type u} [Scalar α]

/-- The box of a node. -/
structure Box (α : Type u) where
  /-- the left side -/
  x : α
  /-- the top side -/
  y : α
  /-- the width -/
  width : α
  /-- the height -/
  height : α

namespace Box

/-- The width of a box that is not told otherwise. -/
def defaultWidth : α := Scalar.ratio 180 1

/-- The height of a box that is not told otherwise. -/
def defaultHeight : α := Scalar.ratio 40 1

/-- The box with a top left corner. -/
def ofCorner (p : Point α) : Box α := ⟨p.x, p.y, defaultWidth, defaultHeight⟩

/-- The middle between left and right. -/
def centerX (b : Box α) : α := b.x + b.width / Scalar.whole 2

/-- The bottom side. -/
def bottom (b : Box α) : α := b.y + b.height

/-- Where edges leave. -/
def centerBottom (b : Box α) : Point α := ⟨b.centerX, b.bottom⟩

/-- Where edges enter. -/
def centerTop (b : Box α) : Point α := ⟨b.centerX, b.y⟩

end Box

/-- The box of a node. -/
def Node.box (n : Node α) : Box α := .ofCorner n.position

/-- Where an edge starts and ends. -/
structure Anchors (α : Type u) where
  /-- the point on the node that it leaves -/
  source : Point α
  /-- the point on the node that it enters -/
  target : Point α

namespace Anchors

/-- The control point of an edge that the user has not pinned. -/
def middle (a : Anchors α) : Point α := a.source.midpoint a.target

/-- The path of an edge between its anchors. -/
def path (a : Anchors α) (control : Point α) : Path α := Path.through a.source a.target control

end Anchors

/-- The control point that an edge is drawn with: where it is pinned, or in the middle. -/
def Edge.resolved (e : Edge α) (a : Anchors α) : Point α :=
  match e.pinned, e.control with
  | true, some p => p
  | _, _ => a.middle

namespace Graph

/-- The anchors of an edge, unless it dangles. -/
def anchors? (g : Graph α) (e : Edge α) : Option (Anchors α) :=
  match g.node? e.source, g.node? e.target with
  | some s, some t =>
    some ⟨s.box.centerBottom, if e.isLoop then s.box.centerBottom else t.box.centerTop⟩
  | _, _ => none

/-- The path of an edge as it is laid out, unless it dangles. -/
def path? (g : Graph α) (e : Edge α) : Option (Path α) :=
  (g.anchors? e).map fun a => a.path (e.resolved a)

/-- Whether bringing control points back concerns an edge: it is not pinned, and it touches one of
the nodes if any are named. -/
def follows (ids : Option (List String)) (e : Edge α) : Bool :=
  !e.pinned && ids.all fun ids => e.touches ids

/-- The edge with its control point brought back, if that moves it. -/
def recentered? (g : Graph α) (ids : Option (List String)) (e : Edge α) : Option (Edge α) :=
  if follows ids e then
    match g.anchors? e with
    | none => none
    | some a =>
      if e.control.any fun p => a.middle.same p then none
      else some ⟨e.id, e.source, e.target, some a.middle, false⟩
  else none

/-- A graph with the control points of its edges brought back, all of them or those that touch one
of the nodes `ids`. -/
def recenter (g : Graph α) (ids : Option (List String)) : Graph α :=
  g.edges.foldl
    (fun h e => match g.recentered? ids e with
      | some e => h.setEdge e
      | none => h) g

end Graph

end FlowCanvas

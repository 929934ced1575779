import FlowCanvas.Proofs.Graph.Arranged
import FlowCanvas.Proofs.Program.Copy
import FlowCanvas.Proofs.Session.Order

/-!
# Moves are confluent

Moves that come one after the other leave the graph that one gets by arranging it once, with each
node where it has been put last (`Session.isArranged_after`). What a move does to the control point
of an edge is undone by the next move of one of its ends, and the last of these sees both ends where
they stay. So neither the order of the moves nor what comes before the last move of a node counts
(`Session.moves_confluent`).
-/

namespace FlowCanvas

universe u

/-! ### Where nodes are put last -/

/-- Where a node has been put last, if it has been moved at all. -/
def lastPlace? {α : Type u} (moves : List (String × Point α)) (k : String) : Option (Point α) :=
  (moves.reverse.find? fun m => m.1 == k).map Prod.snd

theorem lastPlace?_concat {α : Type u} (moves : List (String × Point α)) (m : String × Point α) :
    lastPlace? (moves ++ [m]) = Function.update (lastPlace? moves) m.1 (some m.2) := by
  funext k
  rw [lastPlace?, List.reverse_concat, List.find?_cons]
  by_cases same : k = m.1
  · rw [same, Function.update_self, beq_self_eq_true]
    rfl
  · rw [Function.update_of_ne same, beq_false_of_ne fun h => same h.symm]
    rfl

/-! ### Graphs arranged by moves -/

/-- A graph is what is arranged for some places, up to control points, which are alike. -/
structure Graph.IsArranged (g : Graph Number) (places : String → Option (Point Number))
    (h : Graph Number) : Prop where
  /-- the nodes are in their places -/
  nodes : h.nodes = (g.placed places).nodes
  /-- the edges, in order -/
  edges : List.Forall₂ Edge.Alike h.edges (g.arranged places).edges
  /-- the recorded entry point is as it was -/
  entryPoint : h.entryPoint = g.entryPoint
  /-- the name is as it was -/
  name : h.name = g.name

namespace Graph.IsArranged

variable {g h : Graph Number} {places : String → Option (Point Number)}

theorem agrees (arranged : g.IsArranged places h) : h.Agrees (g.arranged places) where
  nodes := by
    rw [arranged.nodes]
    exact List.forall₂_same.mpr fun n _ => .refl n
  edges := arranged.edges
  entryPoint := arranged.entryPoint
  name := arranged.name

/-- Without any places a graph is arranged as it is. -/
theorem refl (g : Graph Number) : g.IsArranged (fun _ => none) g where
  nodes := g.nodes.map_id.symm
  edges := by
    rw [arranged, mapped, List.forall₂_map_right_iff, List.forall₂_same]
    intro e _
    rw [arrangedEdge_of_not_goes fun goes => by simpa using goes.2]
    exact .refl e
  entryPoint := rfl
  name := rfl

theorem nodeIds (arranged : g.IsArranged places h) :
    h.nodes.map Node.id = g.nodes.map Node.id := by
  rw [arranged.nodes, placed, mapped, List.map_map]
  rfl

theorem edgeIds (arranged : g.IsArranged places h) :
    h.edges.map Edge.id = g.edges.map Edge.id := by
  have ids : (g.arranged places).edges.map Edge.id = h.edges.map Edge.id :=
    map_eq_map_of_forall₂ (arranged.edges.imp fun _ _ close => close.id.symm)
  rw [← ids, Graph.arranged, mapped, List.map_map]
  exact List.map_congr_left fun e _ => (g.arrangedEdge_ends places e).1

/-- **One move more.** -/
theorem move {k : String} {p : Point Number} {h' : Graph Number} (arranged : g.IsArranged places h)
    (nodes : h'.nodes = h.nodes.map fun n => if n.id = k then { n with position := p } else n) :
    g.IsArranged (Function.update places k (some p))
      (h.mapped (fun n => if n.id = k then { n with position := p } else n)
        (h'.recentered (some [k]))) := by
  have moved : (h.nodes.map fun n => if n.id = k then { n with position := p } else n) =
      (g.placed (Function.update places k (some p))).nodes := by
    rw [arranged.nodes, placed, placed, mapped, mapped, List.map_map]
    refine List.map_congr_left fun n _ => ?_
    rw [Function.comp_apply, Node.placed_update]
    rfl
  refine ⟨moved, ?_, arranged.entryPoint, arranged.name⟩
  have edges := arranged.edges
  rw [Graph.arranged, mapped, List.forall₂_map_right_iff] at edges
  rw [Graph.arranged, mapped, mapped, List.forall₂_map_left_iff, List.forall₂_map_right_iff]
  exact edges.imp fun f e close => recentered_alike close (nodes.trans moved)

end Graph.IsArranged

/-! ### Sessions -/

namespace Session

variable {α : Type} [Scalar α] [StateFormat α]

/-- The calls that put nodes in places, one after the other. -/
def moveCalls (moves : List (String × Point α)) : List (Call α) :=
  moves.map fun m => .moveNode m.1 m.2

/-- A history of which no call is refused. -/
def Accepts (s : Session α) : List (Call α) → Prop
  | [] => True
  | c :: calls => (s.run c).isRefused = false ∧ (s.run c).state.Accepts calls

instance decidableAccepts : ∀ (s : Session α) (calls : List (Call α)), Decidable (s.Accepts calls)
  | _, [] => .isTrue trivial
  | s, c :: calls => @instDecidableAnd _ _ inferInstance (decidableAccepts (s.run c).state calls)

theorem after_concat (s : Session α) (calls : List (Call α)) (c : Call α) :
    s.after (calls ++ [c]) = ((s.after calls).run c).state := by
  rw [after, List.foldl_append]
  rfl

theorem accepts_concat {s : Session α} {calls : List (Call α)} {c : Call α} :
    s.Accepts (calls ++ [c]) ↔ s.Accepts calls ∧ ((s.after calls).run c).isRefused = false := by
  induction calls generalizing s with
  | nil => simp [Accepts]
  | cons d calls ih => rw [List.cons_append, Accepts, ih, Accepts, after_cons, and_assoc]

/-- **Moves leave what is arranged at once**, for the last place of each node. -/
theorem isArranged_after {s : Session Number} (views : s.InStep)
    (hids : (s.graph.nodes.map Node.id).Nodup) (hedges : (s.graph.edges.map Edge.id).Nodup)
    {moves : List (String × Point Number)} (accepted : s.Accepts (moveCalls moves)) :
    s.graph.IsArranged (lastPlace? moves) (s.after (moveCalls moves)).graph := by
  induction moves using List.reverseRecOn with
  | nil => exact .refl s.graph
  | append_singleton moves m ih =>
    rw [moveCalls, List.map_append, List.map_singleton, accepts_concat] at accepted
    obtain ⟨before, last⟩ := accepted
    have arranged := ih before
    have hids' := arranged.nodeIds.symm ▸ hids
    have hedges' := arranged.edgeIds.symm ▸ hedges
    obtain ⟨h, nodes, graph⟩ := moveNode_graph hids' hedges' (views.after _).synced last
    rw [lastPlace?_concat, moveCalls, List.map_append, List.map_singleton, after_concat]
    exact graph ▸ arranged.move nodes

/-- **Moves are confluent.** Whatever a session has been opened on and has been through, if ids tell
its nodes and its edges, then two histories of accepted moves leave graphs that agree as soon as
they move the same nodes and put each of them last in places that are alike. -/
theorem moves_confluent {setup : Setup Number} {opened : Opened Number}
    (h : openWith setup = .ok opened) (past : List (Call Number)) :
    let s := opened.session.after past
    (s.graph.nodes.map Node.id).Nodup → (s.graph.edges.map Edge.id).Nodup →
      ∀ moves moves' : List (String × Point Number),
        s.Accepts (moveCalls moves) → s.Accepts (moveCalls moves') →
        (∀ k, Option.Rel Point.Alike (lastPlace? moves k) (lastPlace? moves' k)) →
          (s.after (moveCalls moves)).graph.Agrees (s.after (moveCalls moves')).graph := by
  intro s hids hedges moves moves' accepted accepted' same
  have views : s.InStep := (inStep_of_openWith h).after past
  have left := (isArranged_after views hids hedges accepted).agrees
  have right := (isArranged_after views hids hedges accepted').agrees
  exact left.trans ((s.graph.arranged_agrees same).trans right.symm)

/-- A canvas with an edge that has no control point yet, one that is pinned, a loop and an edge that
have stale control points, and an edge that dangles. -/
def untidy : Graph Number where
  nodes := [⟨"start-1", .start, "START", "start", .null, ⟨.whole 100, .whole 100⟩⟩,
    ⟨"action-1", .action, "Agent", "agent", .null, Point.origin⟩,
    ⟨"tool-1", .tool, "Tool", "look", .null, ⟨.whole 200, .whole 300⟩⟩]
  edges := [⟨"e1", "start-1", "action-1", none, false⟩,
    ⟨"e2", "action-1", "tool-1", some ⟨.whole 1, .whole 2⟩, true⟩,
    ⟨"e3", "action-1", "action-1", some ⟨.whole 100, .whole 60⟩, false⟩,
    ⟨"e4", "start-1", "tool-1", some Point.origin, false⟩,
    ⟨"e5", "tool-1", "ghost", none, false⟩]
  entryPoint := .null
  name := defaultGraphName

/-- A node that is put somewhere else in between, and zeros of different signs. Without the detour
the control point of the loop has the value of the middle from the beginning, so it stays whole,
while after the detour it is a double. -/
theorem moves_confluent_untidy :
    let setup : Setup Number := ⟨some untidy, none, .of [] false, none, .counting⟩
    let s := start setup untidy
    let moves : List (String × Point Number) :=
      [("action-1", ⟨.whole 7, .whole 7⟩), ("tool-1", ⟨.real (-0), .whole 40⟩),
        ("action-1", ⟨.whole 10, .whole 20⟩)]
    let moves' : List (String × Point Number) :=
      [("action-1", ⟨.real 10, .real 20⟩), ("tool-1", ⟨.real 0, .real 40⟩)]
    openWith setup = .ok ⟨s, false⟩ ∧ (s.graph.nodes.map Node.id).Nodup ∧
      (s.graph.edges.map Edge.id).Nodup ∧ s.Accepts (moveCalls moves) ∧
      s.Accepts (moveCalls moves') ∧
      (∀ k, Option.Rel Point.Alike (lastPlace? moves k) (lastPlace? moves' k)) ∧
      (s.after (moveCalls moves)).graph.Agrees (s.after (moveCalls moves')).graph := by
  intro setup s moves moves'
  have opens : openWith setup = .ok ⟨s, false⟩ := rfl
  have hids : (s.graph.nodes.map Node.id).Nodup := by decide
  have hedges : (s.graph.edges.map Edge.id).Nodup := by decide
  have accepted : s.Accepts (moveCalls moves) := by decide +kernel
  have accepted' : s.Accepts (moveCalls moves') := by decide +kernel
  have same (k : String) :
      Option.Rel Point.Alike (lastPlace? moves k) (lastPlace? moves' k) := by
    by_cases action : k = "action-1"
    · rw [action]
      exact .some ⟨.inr (by decide +kernel), .inr (by decide +kernel)⟩
    by_cases tool : k = "tool-1"
    · rw [tool]
      exact .some ⟨.inr (by decide +kernel), .inr (by decide +kernel)⟩
    · -- no other node is moved
      have still : lastPlace? moves k = none := by
        simp [lastPlace?, moves, Ne.symm action, Ne.symm tool]
      have still' : lastPlace? moves' k = none := by
        simp [lastPlace?, moves', Ne.symm action, Ne.symm tool]
      rw [still, still']
      exact .none
  exact ⟨opens, hids, hedges, accepted, accepted', same,
    moves_confluent opens [] hids hedges moves moves' accepted accepted' same⟩

end Session

end FlowCanvas

import FlowCanvas.Proofs.Graph.Center
import FlowCanvas.Proofs.Session.Accepted

/-!
# Where control points stand

The user places the control point of an edge by pinning it or by releasing a drag on it. Where it
has been placed last since the edge was drawn can be read off a history (`Session.placement?`), and
from a fresh canvas on, in exact arithmetic, that is where it stands: an edge that has been placed
is pinned there, and any other one is not pinned and has its control point half way between its
anchors as they are now (`Session.control_after`).

Of all calls only those that place a control point touch a pinned edge without removing it
(`Session.keepsPins_run`).
-/

namespace FlowCanvas

universe u

/-! ### Pinned edges -/

namespace Graph

variable {α : Type u} {g h : Graph α}

theorem edge?_eq_none_iff {id : String} : g.edge? id = none ↔ ∀ e ∈ g.edges, e.id ≠ id := by
  simp [edge?]

theorem isNone_edge?_of_mem {e : Edge α} (he : e ∈ g.edges) : (g.edge? e.id).isNone = false := by
  rw [← Bool.not_eq_true, Option.isNone_iff_eq_none, edge?_eq_none_iff]
  exact fun absent => absent e he rfl

/-- No edge is pinned, freed or placed: the edges of the one graph are edges of the other, up to the
control points of those that are not pinned, or are new and not pinned. -/
def KeepsPins (g h : Graph α) : Prop :=
  ∀ f ∈ h.edges,
    (∃ e ∈ g.edges, e.id = f.id ∧ e.pinned = f.pinned ∧ (f.pinned = true → e.control = f.control)) ∨
      (g.edge? f.id = none ∧ f.pinned = false)

theorem KeepsPins.of_subset (edges : h.edges ⊆ g.edges) : g.KeepsPins h :=
  fun f hf => .inl ⟨f, edges hf, rfl, rfl, fun _ => rfl⟩

theorem KeepsPins.of_edges_eq (edges : h.edges = g.edges) : g.KeepsPins h :=
  .of_subset fun _ hf => edges ▸ hf

/-- A new edge with an id of its own, which is not pinned. -/
theorem keepsPins_addEdge {e : Edge α} (free : e.pinned = false)
    (distinct : ((g.addEdge e).edges.map Edge.id).Nodup) : g.KeepsPins (g.addEdge e) := by
  intro f hf
  rcases List.mem_append.mp hf with hf | hf
  · exact .inl ⟨f, hf, rfl, rfl, fun _ => rfl⟩
  · rw [List.mem_singleton.mp hf]
    rw [addEdge_edges, List.map_append, List.nodup_append] at distinct
    refine .inr ⟨edge?_eq_none_iff.mpr fun d hd => ?_, free⟩
    exact distinct.2.2 _ (List.mem_map_of_mem hd) _ (List.mem_singleton_self _)

/-- Bringing control points back leaves pinned edges alone. -/
theorem KeepsPins.recenter [Scalar α] (keeps : g.KeepsPins h)
    (distinct : (h.edges.map Edge.id).Nodup) (ids : Option (List String)) :
    g.KeepsPins (h.recenter ids) := by
  intro f hf
  rw [recenter_edges distinct] at hf
  obtain ⟨e, he, rfl⟩ := List.mem_map.mp hf
  obtain ⟨hid, -, -, hpinned⟩ := h.recentered_ends ids e
  rw [hid, hpinned]
  rcases keeps e he with ⟨d, hd, same, pins, control⟩ | new
  · refine .inl ⟨d, hd, same, pins, fun pinned => ?_⟩
    have stays : follows ids e = false := by simp [follows, pinned]
    rw [recentered_of_not_follows stays]
    exact control pinned
  · exact .inr new

/-- A moved node brings control points back, not pinned ones. -/
theorem keepsPins_move [Scalar α] (tidy : g.Tidy) (n : Node α) :
    g.KeepsPins ((g.setNode n).recenter (some [n.id])) := by
  have moved : g.KeepsPins (g.setNode n) := .of_subset (List.Subset.refl _)
  exact moved.recenter tidy.wired.ids_nodup _

/-- The edge that is drawn between two nodes is new. -/
theorem keepsPins_connect [Scalar α] {s t : Node α} (tidy : g.Tidy) (hs : g.node? s.id = some s)
    (ht : g.node? t.id = some t) (hstop : s.category ≠ .stop) (hstart : t.category ≠ .start)
    (hnone : g.between s.id t.id = []) :
    g.KeepsPins ((g.addEdge (newEdge s.id t.id)).recenter (some [s.id, t.id])) := by
  have drawn := tidy.connect (mem_of_node? hs) (mem_of_node? ht) hstop hstart hnone
  exact (keepsPins_addEdge rfl drawn.wired.ids_nodup).recenter drawn.wired.ids_nodup _

/-- The edges of a graph are pinned where `placed` says, and no others are. -/
structure PinnedAs (g : Graph α) (placed : String → Option (Point α)) : Prop where
  /-- edges that are there -/
  present : ∀ e ∈ g.edges,
    e.pinned = (placed e.id).isSome ∧ ∀ p, placed e.id = some p → e.control = some p
  /-- other edges are placed nowhere -/
  absent : ∀ id, g.edge? id = none → placed id = none

/-- What is said of places, for the edges of a graph only. -/
def placesOf (g : Graph α) (placed : String → Option (Point α)) (id : String) : Option (Point α) :=
  if (g.edge? id).isNone then none else placed id

theorem PinnedAs.of_present {placed : String → Option (Point α)}
    (present : ∀ e ∈ g.edges,
      e.pinned = (placed e.id).isSome ∧ ∀ p, placed e.id = some p → e.control = some p) :
    g.PinnedAs (g.placesOf placed) := by
  refine ⟨fun e he => ?_, fun id gone => ?_⟩
  · have there : g.placesOf placed e.id = placed e.id := by
      rw [placesOf, isNone_edge?_of_mem he]
      rfl
    rw [there]
    exact present e he
  · rw [placesOf, gone]
    rfl

theorem PinnedAs.keeps {placed : String → Option (Point α)} (hg : g.PinnedAs placed)
    (keeps : g.KeepsPins h) : h.PinnedAs (h.placesOf placed) := by
  refine .of_present fun f hf => ?_
  rcases keeps f hf with ⟨e, he, hid, hpinned, hcontrol⟩ | ⟨new, free⟩
  · obtain ⟨pinned, control⟩ := hg.present e he
    rw [← hid, ← hpinned]
    refine ⟨pinned, fun p hp => ?_⟩
    have isPinned : e.pinned = true := by rw [pinned, hp]; rfl
    rw [← hcontrol (hpinned ▸ isPinned)]
    exact control p hp
  · rw [free, hg.absent f.id new]
    exact ⟨rfl, nofun⟩

/-- An edge is pinned. -/
theorem PinnedAs.pin {placed : String → Option (Point α)} (hg : g.PinnedAs placed) (d : Edge α)
    (point : Point α)
    (edges : h.edges = (g.setEdge { d with control := some point, pinned := true }).edges) :
    h.PinnedAs (h.placesOf fun id => if d.id = id then some point else placed id) := by
  refine .of_present fun f hf => ?_
  rw [edges] at hf
  obtain ⟨e, he, rfl⟩ := List.mem_map.mp hf
  by_cases same : e.id = d.id
  · rw [if_pos same, if_pos rfl]
    exact ⟨rfl, fun p hp => hp⟩
  · rw [if_neg same, if_neg fun h => same h.symm]
    exact hg.present e he

end Graph

/-! ### Calls -/

namespace Session

variable {α : Type} [Scalar α] [StateFormat α]

omit [Scalar α] [StateFormat α] in
/-- Which edge a call is to pin, and where: by name, or by the release of a drag. -/
def pins? (s : Session α) : Call α → Option (PinRequest α)
  | .pinControl edge point => some ⟨edge, point⟩
  | c => (s.released? c).map fun d => ⟨d.edge, d.live⟩

omit [StateFormat α] in
/-- A call that is to pin an edge commits that, if the edge is there. -/
theorem committed?_of_pins? {s : Session α} {c : Call α} {r : PinRequest α}
    (h : s.pins? c = some r) :
    s.committed? c = Plan.committed? (s.graph.planPin r.edge r.point) := by
  have pinned {d : Drag α} (drag : s.controller.drag = some d) :
      s.editor.released? s.controller = Plan.committed? (s.graph.planPin d.edge d.live) := by
    rw [Editor.released?, drag]
    rfl
  cases c with
  | pinControl edge point =>
    cases h
    rfl
  | releaseDrag =>
    obtain ⟨d, drag, rfl⟩ := Option.map_eq_some_iff.mp h
    exact pinned drag
  | push event =>
    obtain ⟨d, released, rfl⟩ := Option.map_eq_some_iff.mp h
    cases event with
    | up screen =>
      simp only [released?] at released
      split at released
      · cases released
      · next listening => exact (if_neg listening).trans (pinned released)
    | down edge screen => cases released
    | move screen => cases released
  | _ => cases h

/-- A call that does not shape the graph and is not to pin an edge leaves the graph alone. -/
theorem graph_of_pins?_none {s : Session α} {c : Call α} (other : c.isShaping = false)
    (unplaced : s.pins? c = none) : (s.run c).state.graph = s.graph := by
  have left : (s.run c).state.graph = (s.committed? c).getD s.graph := (s.run_commits c).graph
  have released (idle : s.controller.drag = none) : s.editor.released? s.controller = none := by
    rw [Editor.released?, idle, Option.bind_none]
  rw [left]
  cases c with
  | pinControl edge point => cases unplaced
  | releaseDrag => rw [committed?, released (Option.map_eq_none_iff.mp unplaced), Option.getD_none]
  | push event =>
    cases event with
    | up screen =>
      have silent := Option.map_eq_none_iff.mp unplaced
      simp only [released?, committed?] at silent ⊢
      split
      · rfl
      · next listening => rw [released ((if_neg listening).symm.trans silent), Option.getD_none]
    | down edge screen => rfl
    | move screen => rfl
  | close => rfl
  | setViewport x y zoom => rfl
  | beginDrag edge screen => rfl
  | moveDrag screen => rfl
  | _ => cases other

/-- **Calls that place no control point keep pins.** -/
theorem keepsPins_run {s : Session α} {c : Call α} (tidy : s.graph.Tidy)
    (unplaced : s.pins? c = none) : s.graph.KeepsPins (s.run c).state.graph := by
  cases accepted : (s.run c).isRefused with
  | true => exact .of_edges_eq (congrArg Graph.edges (graph_of_refused accepted))
  | false =>
  have others := graph_of_pins?_none (s := s) (c := c)
  cases c with
  | addNode category position label =>
    obtain ⟨c, text, -, -, -, graph, -⟩ := addNode_accepted accepted
    exact .of_edges_eq (by rw [graph]; rfl)
  | renameNode node text =>
    obtain ⟨n, label, -, -, -, -, graph⟩ := renameNode_accepted accepted
    exact .of_edges_eq (by rw [graph]; rfl)
  | moveNode node position =>
    obtain ⟨n, -, -, graph⟩ := moveNode_accepted accepted
    rw [graph]
    exact Graph.keepsPins_move tidy { n with position := position }
  | removeNodes nodes =>
    rw [(removeNodes_accepted accepted).2]
    exact .of_subset List.filter_sublist.subset
  | connect source target =>
    obtain ⟨m, n, rfl, rfl, hm, hn, hstop, hstart, ⟨_, _, -, graph, -⟩ | ⟨hnone, graph, -⟩⟩ :=
      connect_accepted accepted
    · exact .of_edges_eq (congrArg Graph.edges graph)
    · rw [graph]
      exact Graph.keepsPins_connect tidy hm hn hstop hstart hnone
  | removeEdges edges =>
    rw [(removeEdges_accepted accepted).2]
    exact .of_subset List.filter_sublist.subset
  | setName raw => exact .of_edges_eq (by rw [s.setName_graph raw]; rfl)
  | reset =>
    rw [s.reset_graph]
    exact .of_subset (List.nil_subset _)
  | _ => exact .of_edges_eq (congrArg Graph.edges (others rfl unplaced))

/-! ### Histories -/

/-- Where the control points of edges have been placed after a call, if before it they had been
placed as told: an edge that is gone has been placed nowhere. -/
def placed (s : Session α) (c : Call α) (places : String → Option (Point α)) :
    String → Option (Point α) :=
  (s.run c).state.graph.placesOf fun id =>
    match s.pins? c with
    | some r => if r.edge = id then some r.point else places id
    | none => places id

/-- Where a control point has been placed last in a history, by edge, since the edge was drawn. -/
def placesAfter (s : Session α) (places : String → Option (Point α)) :
    List (Call α) → String → Option (Point α)
  | [] => places
  | c :: calls => (s.run c).state.placesAfter (s.placed c places) calls

/-- Where a control point has been placed last in a history that begins without edges. -/
def placement? (s : Session α) (calls : List (Call α)) (edge : String) : Option (Point α) :=
  s.placesAfter (fun _ => none) calls edge

theorem placed_of_present {s : Session α} {c : Call α} {places : String → Option (Point α)}
    {id : String} (present : ((s.run c).state.graph.edge? id).isNone = false) :
    s.placed c places id =
      match s.pins? c with
      | some r => if r.edge = id then some r.point else places id
      | none => places id := by
  rw [placed, Graph.placesOf, present]
  rfl

/-- A call that places nothing leaves the places of edges it leaves. -/
theorem placed_of_pins?_none {s : Session α} {c : Call α} {places : String → Option (Point α)}
    {id : String} (none : s.pins? c = none)
    (present : ((s.run c).state.graph.edge? id).isNone = false) :
    s.placed c places id = places id := by
  rw [placed_of_present present, none]

theorem placesAfter_concat (s : Session α) (places : String → Option (Point α))
    (calls : List (Call α)) (c : Call α) :
    s.placesAfter places (calls ++ [c]) =
      (s.after calls).placed c (s.placesAfter places calls) := by
  induction calls generalizing s places with
  | nil => rfl
  | cons d calls ih => exact ih _ _

/-- A place is forgotten only with its edge. -/
theorem isSome_placed {s : Session α} {c : Call α} {places : String → Option (Point α)}
    {f : Edge α} (hf : f ∈ (s.run c).state.graph.edges) (known : (places f.id).isSome = true) :
    (s.placed c places f.id).isSome = true := by
  rw [placed_of_present (Graph.isNone_edge?_of_mem hf)]
  split
  · split
    · rfl
    · exact known
  · exact known

/-- A call pins just the edge that it is to pin. -/
theorem pinnedAs_run {s : Session α} {places : String → Option (Point α)} (tidy : s.graph.Tidy)
    (pinned : s.graph.PinnedAs places) (c : Call α) :
    (s.run c).state.graph.PinnedAs (s.placed c places) := by
  unfold placed
  rcases pins : s.pins? c with - | r
  · exact pinned.keeps (keepsPins_run tidy pins)
  have left : (s.run c).state.graph =
      (Plan.committed? (s.graph.planPin r.edge r.point)).getD s.graph :=
    committed?_of_pins? pins ▸ (s.run_commits c).graph
  rw [left]
  rcases plan : s.graph.planPin r.edge r.point with f | p
  · -- there is no such edge
    obtain ⟨gone, -⟩ := Graph.planPin_eq_error plan
    refine .of_present fun e he => ?_
    have other : ¬ r.edge = e.id :=
      fun same => Graph.edge?_eq_none_iff.mp gone e he same.symm
    simp only [if_neg other]
    exact pinned.present e he
  · obtain ⟨d, hid, -, rfl⟩ := Graph.planPin_eq_ok plan
    simp only [← hid]
    exact pinned.pin d r.point rfl

theorem pinnedAs_after {s : Session α} {places : String → Option (Point α)}
    {calls : List (Call α)} (tidy : s.graph.Tidy) (pinned : s.graph.PinnedAs places)
    (hdraws : s.DrawsGenerated calls) :
    (s.after calls).graph.PinnedAs (s.placesAfter places calls) := by
  induction calls generalizing s places with
  | nil => exact pinned
  | cons c calls ih =>
    have tidy' : (s.run c).state.graph.Tidy := s.tidy_after [c] tidy ⟨hdraws.1, trivial⟩
    exact ih tidy' (pinnedAs_run tidy pinned c) hdraws.2

theorem centered_after [Scalar.IsExact α] {s : Session α} {calls : List (Call α)}
    (tidy : s.graph.Tidy) (centered : s.graph.Centered) (hdraws : s.DrawsGenerated calls) :
    (s.after calls).graph.Centered := by
  have both : (s.after calls).graph.Tidy ∧ (s.after calls).graph.Centered := by
    refine after_induction (P := fun g => g.Tidy ∧ g.Centered) (fun g hg => ?_)
      (fun g _ h hdrawn he hg => ⟨hg.1.edited hdrawn he, hg.2.edited hg.1 he⟩) calls s
      ⟨tidy, centered⟩ hdraws
    exact ⟨hg.1.of_keys_eq (hg.1.nameSafe.of_nodes_eq rfl) rfl rfl, hg.2⟩
  exact both.2

/-- **Control points are placed or in the middle.** From a fresh canvas on, in exact arithmetic and
with new ids, the pinned edges are those whose control point has been placed since they were drawn.
An edge that is not pinned has its control point half way between its anchors. A pinned one has it
where it has been placed last, and no call frees it that leaves it there. -/
theorem control_after [Scalar.IsExact α] (s : Session α) (calls : List (Call α))
    (hs : s.graph = Graph.initial) (hdraws : s.DrawsGenerated calls) :
    ∀ e ∈ (s.after calls).graph.edges,
      e.pinned = (s.placement? calls e.id).isSome ∧
      (e.pinned = false →
        ∃ a, (s.after calls).graph.anchors? e = some a ∧ e.control = some a.middle) ∧
      (e.pinned = true → e.control = s.placement? calls e.id ∧
        ∀ c, ∀ f ∈ ((s.after calls).run c).state.graph.edges, f.id = e.id → f.pinned = true) := by
  intro e he
  have tidy : s.graph.Tidy := hs ▸ .initial
  have none : s.graph.edges = [] := by rw [hs]; rfl
  have start : s.graph.PinnedAs fun _ => .none := by
    refine ⟨?_, fun _ _ => rfl⟩
    rw [none]
    exact List.forall_mem_nil _
  have centered : s.graph.Centered := by
    rw [Graph.Centered, none]
    exact List.forall_mem_nil _
  have places := pinnedAs_after tidy start hdraws
  obtain ⟨pinned, control⟩ := places.present e he
  refine ⟨pinned, centered_after tidy centered hdraws e he, fun isPinned => ?_⟩
  have known : (s.placement? calls e.id).isSome = true := pinned ▸ isPinned
  constructor
  · obtain ⟨p, hp⟩ := Option.isSome_iff_exists.mp known
    rw [hp]
    exact control p hp
  · intro c f hf same
    obtain ⟨pinned', -⟩ := (pinnedAs_run (s.tidy_after calls tidy hdraws) places c).present f hf
    rw [pinned']
    exact isSome_placed hf (same ▸ known)

/-- Graphs over the reals have no stored form, and sessions on them no store. -/
local instance : StateFormat ℝ where
  encode _ _ := []
  decode _ := .error .outOfRange

open scoped Plane in
/-- An edge is pinned and keeps its place when an end of it is moved; then a loop is drawn. -/
theorem control_after_pinned :
    let s : Session ℝ := .start ⟨none, none, .of [] false, none, .counting⟩ Graph.initial
    let node := "action-00000001"
    let edge := "edge-start-1-action-00000001"
    let loop := "edge-action-00000001-action-00000001"
    let calls : List (Call ℝ) := [.addNode "action" none none, .connect "start-1" node,
      .pinControl edge ⟨7, 8⟩, .moveNode node ⟨300, 400⟩, .connect node node]
    s.graph = Graph.initial ∧ s.DrawsGenerated calls ∧
      (s.after calls).graph.edges.map (fun e => (e.id, e.pinned)) = [(edge, true), (loop, false)] ∧
      s.placement? calls edge = some ⟨7, 8⟩ ∧
      ∀ e ∈ (s.after calls).graph.edges,
        e.pinned = (s.placement? calls e.id).isSome ∧
        (e.pinned = false →
          ∃ a, (s.after calls).graph.anchors? e = some a ∧ e.control = some a.middle) ∧
        (e.pinned = true → e.control = s.placement? calls e.id ∧
          ∀ c, ∀ f ∈ ((s.after calls).run c).state.graph.edges, f.id = e.id → f.pinned = true) := by
  intro s node edge loop calls
  have hs : s.graph = Graph.initial := Graph.initial_syncEntry
  have hdraws : s.DrawsGenerated calls := by decide
  have pinned : (((s.after (calls.take 2)).run (.pinControl edge ⟨7, 8⟩)).state.graph.edge?
      edge).isNone = false := by decide
  have moved : (((s.after (calls.take 3)).run (.moveNode node ⟨300, 400⟩)).state.graph.edge?
      edge).isNone = false := by decide
  have drawn : (((s.after (calls.take 4)).run (.connect node node)).state.graph.edge?
      edge).isNone = false := by decide
  refine ⟨hs, hdraws, by decide, ?_, control_after s calls hs hdraws⟩
  calc s.placement? calls edge
      = (s.after (calls.take 4)).placed (.connect node node) (s.placement? (calls.take 4)) edge :=
        congrFun (placesAfter_concat s _ (calls.take 4) _) edge
    _ = s.placement? (calls.take 4) edge := placed_of_pins?_none rfl drawn
    _ = (s.after (calls.take 3)).placed (.moveNode node ⟨300, 400⟩) (s.placement? (calls.take 3))
          edge := congrFun (placesAfter_concat s _ (calls.take 3) _) edge
    _ = s.placement? (calls.take 3) edge := placed_of_pins?_none rfl moved
    _ = (s.after (calls.take 2)).placed (.pinControl edge ⟨7, 8⟩) (s.placement? (calls.take 2))
          edge := congrFun (placesAfter_concat s _ (calls.take 2) _) edge
    _ = some ⟨7, 8⟩ := placed_of_present pinned

end Session

end FlowCanvas

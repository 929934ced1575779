import FlowCanvas.Command.Desk
import FlowCanvas.Proofs.Session.Preview

/-!
# Sweeps

A sweep drags the control point of an edge in steps: it begins a drag, queues the moves and the
release, and plays them. A move counts from the beginning of the drag and forgets the moves before
it (`DragHost.each_moves`), so of any number of steps only the last one matters, which ends at the
goal. The release pins the edge there and ends the drag, and the controller is idle again with
nothing left to play (`Session.sweep_eq`).

So in exact arithmetic the outcome of the command does not depend on the number of steps
(`Session.sweep_pins`).
-/

namespace FlowCanvas

universe u v w

/-! ### Moves in a row -/

namespace Outcome

variable {σ : Type u} {ε : Type v} {ι : Type w} {step : ι → σ → Outcome σ ε Unit}

theorem each_append (xs ys : List ι) (s : σ) :
    each step (xs ++ ys) s = (each step xs s).andThen fun s _ => each step ys s := by
  induction xs generalizing s with
  | nil => rfl
  | cons x rest ih =>
    rw [List.cons_append, each, each]
    rcases step x s with ⟨s', f | done⟩
    · rfl
    · exact ih s'

theorem each_singleton (x : ι) (s : σ) : each step [x] s = step x s := by
  rw [each]
  rcases step x s with ⟨s', f | done⟩ <;> rfl

end Outcome

section

variable {σ : Type u} {ε : Type v} {α : Type w} [Scalar α]

omit [Scalar α] in
theorem Controller.listeners_some (drag : Option (Drag α)) (source : PointerSource α) :
    (⟨drag, some source⟩ : Controller α).listeners = source.listeners := rfl

namespace DragHost

variable {h : DragHost σ ε α} {s : σ} {source : PointerSource α}

theorem push_move (positive : Scalar.positive (h.zoom s) = true) (listening : source.listeners ≠ 0)
    (d : Drag α) (p : Point α) :
    h.push (.move p) (s, ⟨some d, some source⟩) =
      .done (s, ⟨some (d.pulled (h.zoom s) p), some source⟩) () := by
  rw [push_eq, Controller.listeners_some, if_neg listening, handle_move,
    Controller.move_eq_ok rfl positive]

/-- **Of moves in a row the last one counts.** -/
theorem each_moves (positive : Scalar.positive (h.zoom s) = true)
    (listening : source.listeners ≠ 0) (screens : List (Point α)) (p : Point α) (d : Drag α) :
    Outcome.each h.push ((screens ++ [p]).map .move) (s, ⟨some d, some source⟩) =
      .done (s, ⟨some (d.pulled (h.zoom s) p), some source⟩) () := by
  induction screens generalizing d with
  | nil => exact (Outcome.each_singleton _ _).trans (push_move positive listening d p)
  | cons q rest ih =>
    rw [List.cons_append, List.map_cons, Outcome.each, push_move positive listening,
      Outcome.done_andThen, ih, Drag.pulled_pulled]

/-- The only listening hears the moves and the release, and the edge is pinned at the last one. -/
theorem play_moves (positive : Scalar.positive (h.zoom s) = true) (screens : List (Point α))
    (p q : Point α) (d : Drag α) :
    h.play (s, ⟨some d, some ⟨1, (screens ++ [p]).map .move ++ [.up q]⟩⟩) =
      (h.pin s ⟨d.edge, (d.pulled (h.zoom s) p).live⟩).mapState fun s =>
        (s, .idle (some (.silent []))) := by
  have listening : (⟨1, []⟩ : PointerSource α).listeners ≠ 0 := Nat.one_ne_zero
  simp only [play]
  rw [Outcome.each_append, each_moves positive listening, Outcome.done_andThen,
    Outcome.each_singleton, push_eq, Controller.listeners_some, if_neg listening, handle_up]
  simp only [release, Controller.release, Drag.pulled]
  rcases h.pin s _ with ⟨s', f | done⟩ <;> rfl

end DragHost

end

/-! ### Pinning with nobody to tell -/

namespace Graph

variable {α : Type u} {g : Graph α}

theorem edge?_of_mem (hids : (g.edges.map Edge.id).Nodup) {e : Edge α} (he : e ∈ g.edges) :
    g.edge? e.id = some e := by
  obtain ⟨d, hd⟩ := exists_edge? he
  rw [hd, List.inj_on_of_nodup_map hids (mem_of_edge? hd) he (id_of_edge? hd)]

/-- An edge that has been put in the place of another one is found there. -/
theorem edge?_setEdge {e f : Edge α} (found : g.edge? f.id = some e) :
    ( setEdge g f).edge? f.id = some f := by
  have same (d : Edge α) : (if d.id = f.id then f else d).id = d.id := by
    split
    · next h => exact h.symm
    · rfl
  have there : g.edges.find? ((fun d => d.id == f.id) ∘ fun d => if d.id = f.id then f else d) =
      some e := by
    rw [← found]
    congr 1
    funext d
    exact congrArg (· == f.id) (same d)
  rw [ edge?, setEdge_edges, List.find?_map, there, Option.map_some, if_pos (id_of_edge? found)]

/-- The graph with an edge pinned, and the entry point derived anew. -/
def withPinned (g : Graph α) (e : Edge α) (p : Point α) : Graph α :=
  (g.setEdge { e with control := some p, pinned := true }).syncEntry

theorem edge?_withPinned {id : String} {e : Edge α} (found : g.edge? id = some e) (p : Point α) :
    ( withPinned g e p).edge? id = some { e with control := some p, pinned := true } := by
  obtain rfl := id_of_edge? found
  exact edge?_setEdge (f := { e with control := some p, pinned := true }) found

/-- Where edge ids are pairwise different, nothing but that edge and the entry point is touched. -/
theorem syncEntry_withPinned (hids : (g.edges.map Edge.id).Nodup) {e : Edge α} (he : e ∈ g.edges)
    (p : Point α) :
    g.syncEntry.withPinned e p =
      { g with entryPoint := g.entryName, edges := g.edges.map (pinnedAt e.id p) } := by
  have kept := g.syncEntry.isKept_pinnedAt e.id p
  have name : entryName ( syncEntry g) = g.entryName := rfl
  rw [withPinned, setEdge_pinned (g := g.syncEntry) hids he, syncEntry, kept.entryName_mapped, name,
    mapped, List.map_id]
  rfl

end Graph

namespace Editor

variable {α : Type} {e : Editor α}

theorem announce_of_nobody (e : Editor α) (nobody : e.dispatcher.processors = [])
    (event : Event α) : e.announce event = .done e () := by
  rw [announce, Dispatcher.emit, Dispatcher.dispatch, nobody]
  rfl

variable [StateFormat α] {store : Store α}

/-- The editor with a graph put in place and saved to a store, as far as that succeeds. -/
def saved (e : Editor α) (store : Store α) (g : Graph α) : Editor α :=
  { e.put g with store := some (store.save g).state }

theorem commit_of_nobody (stored : e.store = some store) (nobody : e.dispatcher.processors = [])
    (c : Change α) :
    e.commit c = ⟨e.saved store c.graph.syncEntry,
      (store.save c.graph.syncEntry).answer.mapError .file⟩ := by
  rw [commit, put_save stored]
  rcases (store.save c.graph.syncEntry).answer with fault | done
  · rfl
  · exact announce_of_nobody (e.saved store c.graph.syncEntry) nobody _

/-- What a release asks for is done and saved. -/
theorem pin_of_nobody (stored : e.store = some store) (nobody : e.dispatcher.processors = [])
    {id : String} {f : Edge α} (found : e.graph.edge? id = some f) (p : Point α) :
    host.pin e ⟨id, p⟩ = ⟨e.saved store (e.graph.withPinned f p),
      (store.save (e.graph.withPinned f p)).answer.mapError .file⟩ := by
  have plan : e.graph.planPin id p =
      .ok ⟨some ⟨e.graph.setEdge { f with control := some p, pinned := true },
        "commit_control_point", some id⟩, { f with control := some p, pinned := true }⟩ := by
    rw [Graph.planPin, Graph.requireEdge, found]
    rfl
  simp only [host, pinControl, plan, carryOut, commit_of_nobody stored nobody]
  rw [Graph.withPinned]
  rcases (store.save (e.graph.setEdge _).syncEntry).answer with fault | done
  · rfl
  · rfl

end Editor

/-! ### The sweep -/

namespace Session

variable {α : Type}

theorem foldl_enqueue (editor : Editor α) (drag : Option (Drag α)) (n : Nat)
    (queue events : List (PointerEvent α)) :
    events.foldl enqueue (⟨editor, drag, some ⟨n, queue⟩⟩ : Session α) =
      ⟨editor, drag, some ⟨n, queue ++ events⟩⟩ := by
  induction events generalizing queue with
  | nil => rw [List.append_nil]; rfl
  | cons event rest ih =>
    rw [List.foldl_cons, List.append_cons]
    exact ih (queue ++ [event])

variable [Scalar α]

/-- Once an edge is pinned and no drag is on, it is drawn where it is pinned. -/
theorem drawnControl_pinned {s : Session α} (idle : s.controller.drag = none) {e : Edge α}
    {p : Point α} (control : e.control = some p) (pinned : e.pinned = true) :
    s.drawnControl e = p := by
  simp only [drawnControl, idle, Option.filter_none]
  cases s.graph.anchors? e with
  | none => rw [control, Option.getD_some]
  | some a => simp only [Edge.resolved, pinned, control]

open scoped Plane

/-- However many steps there are, the last move is to the goal. -/
theorem exists_sweepEvents_eq (goal : Point ℝ) {steps : ℕ} (h : 1 ≤ steps) :
    ∃ screens, sweepEvents goal steps = (screens ++ [goal]).map .move ++ [.up goal] := by
  obtain ⟨n, rfl⟩ := Nat.exists_eq_add_of_le' h
  refine ⟨(List.range n).map fun i =>
    (goal.scale (Scalar.whole (i + 1 : ℕ))).divide (Scalar.whole (n + 1 : ℕ)), ?_⟩
  have last : (goal.scale (Scalar.whole (n + 1 : ℕ))).divide (Scalar.whole (n + 1 : ℕ)) = goal := by
    have steps : ((n : ℝ) + 1) ≠ 0 := by positivity
    ext <;> simp [steps]
  rw [sweepEvents, List.range_succ, List.map_append, List.map_append, List.map_map,
    List.map_singleton, List.map_singleton, last]
  rfl

section

variable [StateFormat ℝ] {editor : Editor ℝ} {store : Store ℝ} {id : String} {e : Edge ℝ}

/-- The events of a sweep are played: the edge is pinned at the end of it, and the drag is over. -/
theorem play_sweepEvents (stored : editor.store = some store)
    (nobody : editor.dispatcher.processors = []) (found : editor.graph.edge? id = some e)
    (positive : 0 < editor.viewport.zoom) (control shift : Point ℝ) {steps : ℕ} (h : 1 ≤ steps) :
    let g := editor.graph.withPinned e (control + shift.divide editor.viewport.zoom)
    ((sweepEvents shift steps).foldl enqueue
        ⟨editor, some ⟨id, Point.origin, control, control⟩, some ⟨1, []⟩⟩).play =
      ⟨⟨editor.saved store g, .idle (some (.silent []))⟩,
        (store.save g).answer.mapError .file⟩ := by
  obtain ⟨screens, events⟩ := exists_sweepEvents_eq shift h
  have displaced (p : Point ℝ) : p - Point.origin = p := by
    ext <;> simp [Point.origin]
  have moved := DragHost.play_moves (h := Editor.host) (s := editor) (decide_eq_true positive)
    screens shift shift ⟨id, Point.origin, control, control⟩
  simp only [Drag.pulled, displaced, Editor.pin_of_nobody stored nobody found] at moved
  rw [foldl_enqueue, events, List.nil_append]
  exact congrArg (Outcome.mapState ofHeld) moved

/-- A pinned edge is drawn where it is pinned. -/
theorem controlPoint_saved (found : editor.graph.edge? id = some e) (p : Point ℝ)
    (source : Option (PointerSource ℝ)) :
    controlPoint ⟨editor.saved store (editor.graph.withPinned e p), .idle source⟩ id = .ok p := by
  have there : (editor.graph.withPinned e p).requireEdge id =
      .ok { e with control := some p, pinned := true } := by
    rw [Graph.requireEdge, Graph.edge?_withPinned found]
  rw [controlPoint]
  exact (congrArg _ there).trans (congrArg Except.ok (drawnControl_pinned rfl rfl rfl))

/-- **What a sweep comes to**: the edge is pinned where it was drawn, displaced by what the sweep
shows at the zoom, and the graph is saved. The drag is over, whether or not the save succeeds. -/
theorem sweep_eq (stored : editor.store = some store) (nobody : editor.dispatcher.processors = [])
    (found : editor.graph.edge? id = some e) (positive : 0 < editor.viewport.zoom)
    (shift : Point ℝ) {steps : ℕ} (h : 1 ≤ steps) :
    let s : Session ℝ := ⟨editor, .idle (some (.silent []))⟩
    let after := s.drawnControl e + shift.divide editor.viewport.zoom
    let g := editor.graph.withPinned e after
    s.sweep id shift steps =
      ⟨⟨editor.saved store g, .idle (some (.silent []))⟩,
        ((store.save g).answer.mapError .file).map fun _ => (s.drawnControl e, after)⟩ := by
  intro s after g
  -- no drag is on, so one begins where the edge is drawn
  have begun : s.beginDrag id Point.origin = .done ⟨editor,
      some ⟨id, Point.origin, s.drawnControl e, s.drawnControl e⟩, some ⟨1, []⟩⟩
        (s.drawnControl e) := by
    have drawn : s.controlPoint id = .ok (s.drawnControl e) := by
      rw [controlPoint, graph, Graph.requireEdge, found]
      rfl
    rw [beginDrag, drawn]
    rfl
  rw [sweep, begun, Outcome.done_andThen, play_sweepEvents stored nobody found positive _ _ h]
  have drawn : controlPoint ⟨editor.saved store g, .idle (some (.silent []))⟩ id = .ok after :=
    controlPoint_saved found after _
  rcases (store.save g).answer with fault | done
  · rfl
  · change Outcome.need _ ((controlPoint _ id).mapError _) _ = _
    rw [drawn]
    rfl

/-- **A sweep does not depend on its steps**, in exact arithmetic. On every state that can be loaded
and tells its edges apart, for each edge of it, and at every positive zoom: the edge is pinned where
it was drawn, displaced by what the sweep shows. Nothing else in the stored graph is changed, but
that the entry point is derived anew. No drag is on at the end, nothing waits to be played and
nobody listens. -/
theorem sweep_pins (d : Desk) (store : Store ℝ) {loaded : Loaded ℝ}
    (hload : store.load = .ok loaded) (distinct : (loaded.graph.edges.map Edge.id).Nodup)
    {e : Edge ℝ} (he : e ∈ loaded.graph.edges) (shift : Point ℝ) {zoom : ℝ} (positive : 0 < zoom)
    {steps : ℕ} (h : 1 ≤ steps) :
    ∃ s before, d.openStore none store = .ok s ∧ s.controlPoint e.id = .ok before ∧
      let after := before + shift.divide zoom
      let g : Graph ℝ := { loaded.graph with
        entryPoint := loaded.graph.entryName
        edges := loaded.graph.edges.map fun f =>
          if f.id = e.id then { f with control := some after, pinned := true } else f }
      let o := s.sweepAt zoom e.id shift steps
      o.answer = ((store.save g).answer.mapError .file).map (fun _ => (before, after)) ∧
        o.state.graph = g ∧ o.state.editor.store = some (store.save g).state ∧
        ((store.save g).answer = .ok () →
          (store.save g).state.data? = some (StateFormat.encode store.layout g)) ∧
        o.state.controller.drag = none ∧ o.state.controller.source = some (.silent []) := by
  let s : Session ℝ := start (d.setup none store) loaded.graph
  have opens : d.openStore none store = .ok s := by
    simp only [Desk.openStore, openWith, Desk.setup, hload]
    rfl
  have found : s.graph.edge? e.id = some e := Graph.edge?_of_mem distinct he
  have drawn : s.controlPoint e.id = .ok (s.drawnControl e) := by
    rw [controlPoint, Graph.requireEdge, found]
    rfl
  refine ⟨s, s.drawnControl e, opens, drawn, ?_⟩
  intro after g o
  let v : Viewport ℝ := ⟨Scalar.ratio 0 1, Scalar.ratio 0 1, zoom⟩
  have pinned : s.graph.withPinned e after = g := Graph.syncEntry_withPinned distinct he after
  have seen : s.edit (·.setViewport (Scalar.ratio 0 1) (Scalar.ratio 0 1) zoom) =
      .done ⟨{ s.editor with viewport := v }, .idle (some (.silent []))⟩ () := by
    have valid : Viewport.of (Scalar.ratio 0 1) (Scalar.ratio 0 1) zoom = .ok v :=
      if_pos (decide_eq_true positive)
    rw [edit, Editor.setViewport, valid]
    rfl
  let editor : Editor ℝ := { s.editor with viewport := v }
  have stored : editor.store = some store := rfl
  have swept := sweep_eq stored rfl found positive shift h
  have outcome : o = ⟨⟨editor.saved store g, .idle (some (.silent []))⟩,
      ((store.save g).answer.mapError .file).map fun _ => (s.drawnControl e, after)⟩ := by
    change s.sweepAt zoom e.id shift steps = _
    rw [← pinned, sweepAt, seen, Outcome.done_andThen]
    exact swept
  rw [outcome]
  exact ⟨rfl, rfl, rfl, Store.data?_of_save, rfl, rfl⟩

end

/-- A node with a loop. -/
noncomputable def loopGraph : Graph ℝ where
  nodes := [⟨"tool-1", .tool, "Tool", "Tool", .null, Point.origin⟩]
  edges := [⟨"loop", "tool-1", "tool-1", none, false⟩]
  entryPoint := .null
  name := defaultGraphName

/-- The node with its loop pinned. -/
noncomputable def sweptLoop : Graph ℝ :=
  { loopGraph with edges := [⟨"loop", "tool-1", "tool-1", some ⟨95, 50⟩, true⟩] }

/-- Records that tell the two graphs apart. -/
noncomputable local instance loopRecords : StateFormat ℝ where
  encode _ g := if g.edges.any Edge.pinned then [1] else [0]
  decode data := .ok (if data = [1] then sweptLoop else loopGraph)

/-- The loop is swept in three steps, at a zoom of two, and is loaded from the store where it has
been swept to. -/
theorem sweep_pins_loop :
    let d : Desk := ⟨⟨[], []⟩, .counting, ""⟩
    let store : Store ℝ := .inMemory (some [0]) .standard
    ∃ s : Session ℝ, d.openStore none store = .ok s ∧ s.controlPoint "loop" = .ok ⟨90, 40⟩ ∧
      let o := s.sweepAt 2 "loop" ⟨10, 20⟩ 3
      o.answer = .ok (⟨90, 40⟩, ⟨95, 50⟩) ∧ o.state.controller.drag = none ∧
        ∃ store', o.state.editor.store = some store' ∧ store'.data? = some [1] ∧
          store'.load = .ok ⟨sweptLoop, false⟩ := by
  intro d store
  have load : store.load = .ok ⟨loopGraph, false⟩ := rfl
  have distinct : (loopGraph.edges.map Edge.id).Nodup := List.nodup_singleton _
  obtain ⟨s, before, opens, drawn, answer, -, stored, held, idle, -⟩ := sweep_pins d store load
    distinct List.mem_cons_self ⟨10, 20⟩ two_pos (Nat.succ_pos 2)
  -- the loop is drawn below its node
  have middle : s.controlPoint "loop" = .ok ⟨90, 40⟩ := by
    obtain rfl : start (d.setup none store) loopGraph = s := Except.ok.inj opens
    let bottom : Point ℝ := (Box.ofCorner Point.origin).centerBottom
    have below : controlPoint (start (d.setup none store) loopGraph) "loop" =
        .ok (bottom.midpoint bottom) := rfl
    rw [below]
    congr 1
    ext <;> norm_num [bottom, Box.ofCorner, Box.centerBottom, Box.centerX, Box.bottom,
      Box.defaultWidth, Box.defaultHeight, Point.origin, Point.midpoint]
  obtain rfl : before = ⟨90, 40⟩ := Except.ok.inj (drawn.symm.trans middle)
  have reached : (⟨90, 40⟩ : Point ℝ) + Point.divide ⟨10, 20⟩ 2 = ⟨95, 50⟩ := by
    ext <;> norm_num
  rw [reached] at answer stored held
  have kept := held rfl
  refine ⟨s, opens, middle, answer, idle, _, stored, kept, rfl⟩

end Session

end FlowCanvas

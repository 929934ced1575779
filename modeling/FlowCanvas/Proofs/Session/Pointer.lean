import FlowCanvas.Proofs.Plane.Screen
import FlowCanvas.Proofs.Session.Preview

/-!
# The handle follows the pointer

A drag remembers where the pointer and the control point were when it began, and nothing that is
asked of the session before the release changes that (`Session.Drags`). So the preview after a move
does not depend on the moves before it: on screen it has gone as far from the control point as the
pointer has from where it was (`Session.handle_follows_pointer`). Only the zoom that the canvas is
seen with at the move matters, and that is positive in every session, for nothing but
`Call.setViewport` changes how the canvas is seen (`Session.viewport_run`).

The path of the dragged edge goes through the preview, since that is the control point it is drawn
with.
-/

namespace FlowCanvas

/-- A call that releases whatever is dragged. -/
def Call.isRelease {α : Type} : Call α → Bool
  | .releaseDrag | .push (.up _) => true
  | _ => false

/-! ### Exact geometry -/

section

open scoped Plane

/-- A displacement on the canvas is seen on screen as what it has been made from. -/
theorem Viewport.toScreen_displaced {v : Viewport ℝ} (h : 0 < v.zoom) (p d : Point ℝ) :
    v.toScreen (p + d.divide v.zoom) - v.toScreen p = d := by
  have zoom : v.zoom ≠ 0 := h.ne'
  ext
  · simp only [toScreen, Point.sub_x, Point.add_x, Point.divide_x]
    field_simp
    ring
  · simp only [toScreen, Point.sub_y, Point.add_y, Point.divide_y]
    field_simp
    ring

/-- A path goes through a point: one of its curves ends there, or it draws this point alone. -/
def Path.GoesThrough (path : Path ℝ) (p : Point ℝ) : Prop :=
  (∃ curves, path.curves = .ok curves ∧ ∃ b ∈ curves, b.tip = p) ∨ path = [.move p]

/-- The path of an edge goes through its control point. -/
theorem Path.goesThrough_through (s t c : Point ℝ) : (through s t c).GoesThrough c := by
  have curved (handle : Point ℝ) : GoesThrough [.move s, .quad handle c, .smooth t] c :=
    .inl ⟨_, rfl, _, List.mem_cons_self, rfl⟩
  by_cases loops : s = t
  · subst loops
    rw [through_self]
    by_cases collapsed : c = s
    · rw [collapsed, loop_self]
      exact .inr rfl
    · rw [loop_of_ne collapsed]
      exact curved _
  · rw [through_of_ne loops]
    exact curved _

end

/-! ### How the canvas is seen -/

namespace Editor

variable {α : Type} [StateFormat α]

theorem save_viewport (e : Editor α) : e.save.state.viewport = e.viewport := by
  unfold save
  split <;> rfl

/-- Saving and telling do not touch how the canvas is seen. -/
theorem save_andThen_announce_viewport (e : Editor α) (event : Editor α → Event α) :
    (e.save.andThen fun e _ => e.announce (event e)).state.viewport = e.viewport :=
  Outcome.andThen_induction (P := fun d : Editor α => d.viewport = e.viewport) e.save_viewport
    fun _ h => h

theorem carryOut_viewport {β : Type} (e : Editor α) (plan : Except Rejection (Plan α β)) :
    (e.carryOut plan).state.viewport = e.viewport := by
  rcases plan with r | ⟨_ | c, b⟩
  · rfl
  · rfl
  · exact (e.put c.graph.syncEntry).save_andThen_announce_viewport _

theorem release_viewport (e : Editor α) (c : Controller α) :
    (host.release e c).state.1.viewport = e.viewport := by
  obtain ⟨drag, source⟩ := c
  cases drag with
  | none => rfl
  | some d => exact e.carryOut_viewport _

variable [Scalar α]

theorem addNode_viewport (e : Editor α) (category : String) (position : Option (Point α))
    (label : Option String) : (e.addNode category position label).state.viewport = e.viewport := by
  rcases e.addNode_cases category position label with ⟨f, -, ends⟩ | ⟨c, -, -, ends⟩
  · rw [ends]
    rfl
  · rw [ends]
    exact carryOut_viewport { e with tokens := e.tokens.draw } _

theorem push_viewport (event : PointerEvent α) (e : Editor α) (c : Controller α) :
    (host.push event (e, c)).state.1.viewport = e.viewport := by
  rw [DragHost.push_eq]
  split
  · rfl
  · cases event with
    | down edge screen =>
      rw [DragHost.handle_down]
      split <;> rfl
    | move screen =>
      rw [DragHost.handle_move]
      split <;> rfl
    | up screen =>
      rw [DragHost.handle_up]
      exact e.release_viewport c

end Editor

/-! ### Paths by edge -/

namespace Session

section

variable {β : Type} {entries : List (String × β)}

/-- One entry more: it goes behind the others, or in the place of those with its key. -/
theorem byKey_concat (entries : List (String × β)) (x : String × β) :
    byKey (entries ++ [x]) =
      if (byKey entries).any fun y => y.1 == x.1 then
        (byKey entries).map fun y => if y.1 = x.1 then x else y
      else byKey entries ++ [x] := by
  rw [byKey, List.foldl_concat]
  rfl

theorem mem_of_mem_byKey {x : String × β} (h : x ∈ byKey entries) : x ∈ entries := by
  induction entries using List.reverseRecOn with
  | nil => exact h
  | append_singleton rest y ih =>
    rw [byKey_concat] at h
    split at h
    · obtain ⟨z, hz, hx⟩ := List.mem_map.mp h
      split at hx
      · exact hx ▸ List.mem_append_right _ (List.mem_singleton_self y)
      · exact List.mem_append_left _ (ih (hx ▸ hz))
    · rcases List.mem_append.mp h with old | new
      · exact List.mem_append_left _ (ih old)
      · exact List.mem_append_right _ new

/-- No key gets lost. -/
theorem exists_mem_byKey {x : String × β} (h : x ∈ entries) : ∃ b, (x.1, b) ∈ byKey entries := by
  suffices kept : ∃ y ∈ byKey entries, y.1 = x.1 from
    kept.elim fun y hy => ⟨y.2, hy.2 ▸ hy.1⟩
  induction entries using List.reverseRecOn with
  | nil => cases h
  | append_singleton rest last ih =>
    rw [byKey_concat]
    split
    · next seen =>
      -- the entry with this key stays, or the last one takes its place
      have old : ∃ y ∈ byKey rest, y.1 = x.1 := by
        rcases List.mem_append.mp h with old | new
        · exact ih old
        · obtain ⟨y, hy, same⟩ := List.any_eq_true.mp seen
          exact ⟨y, hy, List.mem_singleton.mp new ▸ eq_of_beq same⟩
      obtain ⟨y, hy, same⟩ := old
      refine ⟨_, List.mem_map_of_mem hy, ?_⟩
      split
      · next key => exact key ▸ same
      · exact same
    · rcases List.mem_append.mp h with old | new
      · obtain ⟨y, hy, same⟩ := ih old
        exact ⟨y, List.mem_append_left _ hy, same⟩
      · exact ⟨x, List.mem_append_right _ new, rfl⟩

end

section

variable {α : Type} [Scalar α] [StateFormat α]

/-- **How the canvas is seen is changed by one call only**, and to a viewport only. -/
theorem viewport_run (s : Session α) (c : Call α) :
    (s.run c).state.editor.viewport = s.editor.viewport ∨
      ∃ x y zoom, Viewport.of x y zoom = .ok (s.run c).state.editor.viewport := by
  cases c with
  | addNode category position label =>
    exact .inl (s.editor.addNode_viewport category position label)
  | renameNode node text => exact .inl (s.editor.carryOut_viewport _)
  | moveNode node position => exact .inl (s.editor.carryOut_viewport _)
  | removeNodes nodes => exact .inl (s.editor.carryOut_viewport _)
  | connect source target => exact .inl (s.editor.carryOut_viewport _)
  | removeEdges edges => exact .inl (s.editor.carryOut_viewport _)
  | pinControl edge point => exact .inl (s.editor.carryOut_viewport _)
  | setName raw => exact .inl (s.editor.carryOut_viewport (.ok (s.graph.planName raw)))
  | reset => exact .inl ((s.editor.put Graph.initial).save_andThen_announce_viewport _)
  | close => exact .inl rfl
  | setViewport x y zoom =>
    -- the one call that looks elsewhere, if it is given a viewport
    simp only [run, edit, Outcome.map_state, Outcome.mapState_state, Editor.setViewport]
    split
    · next valid => exact .inr ⟨x, y, zoom, valid⟩
    · exact .inl rfl
  | beginDrag edge screen =>
    left
    simp only [run, Outcome.map_state, beginDrag]
    split
    · rfl
    · split <;> rfl
  | moveDrag screen =>
    left
    simp only [run, Outcome.map_state, moveDrag]
    split <;> rfl
  | releaseDrag => exact .inl (s.editor.release_viewport s.controller)
  | push event => exact .inl (Editor.push_viewport event s.editor s.controller)

/-- A zoom that is positive stays positive. -/
theorem positive_zoom_after {s : Session α}
    (h : Scalar.positive s.editor.viewport.zoom = true) (calls : List (Call α)) :
    Scalar.positive (s.after calls).editor.viewport.zoom = true := by
  induction calls generalizing s with
  | nil => exact h
  | cons c calls ih =>
    refine ih ?_
    rcases s.viewport_run c with same | ⟨x, y, zoom, valid⟩
    · rwa [same]
    · unfold Viewport.of at valid
      split at valid
      · next positive =>
        rw [← Except.ok.inj valid]
        exact positive
      · cases valid

/-! ### From the beginning of a drag to its release -/

/-- A drag of an edge is on since the pointer was at one point and the control point at another. -/
def Drags (s : Session α) (edge : String) (screen control : Point α) : Prop :=
  ∃ live, s.controller.drag = some ⟨edge, screen, control, live⟩

variable {s : Session α} {edge : String} {screen control : Point α}

/-- Where a call moves the pointer to, as far as the controller hears of it. -/
def pointed? (s : Session α) : Call α → Option (Point α)
  | .moveDrag p => some p
  | .push (.move p) => if s.controller.listeners = 0 then none else some p
  | _ => none

omit [StateFormat α] in
/-- The preview goes from where the control point was as the pointer has gone, at a zoom. -/
theorem Drags.move (h : s.Drags edge screen control) {zoom : α}
    (positive : Scalar.positive zoom = true) (p : Point α) :
    let live := control + (p - screen).divide zoom
    s.controller.move zoom p =
      .ok ({ s.controller with drag := some ⟨edge, screen, control, live⟩ }, some live) := by
  obtain ⟨live, hd⟩ := h
  exact Controller.move_eq_ok hd positive p

/-- **A move of the pointer is accepted**, and all that it changes is the preview. -/
theorem Drags.run_of_pointed? (h : s.Drags edge screen control)
    (positive : Scalar.positive s.editor.viewport.zoom = true) {c : Call α} {p : Point α}
    (hc : s.pointed? c = some p) :
    let live := control + (p - screen).divide s.editor.viewport.zoom
    (∃ a, (s.run c).answer = .ok a) ∧
      (s.run c).state = { s with controller :=
        { s.controller with drag := some ⟨edge, screen, control, live⟩ } } := by
  have moved := h.move positive p
  cases c with
  | moveDrag q =>
    obtain rfl := Option.some.inj hc
    simp only [run, moveDrag, moved]
    exact ⟨⟨_, rfl⟩, rfl⟩
  | push event =>
    cases event with
    | move q =>
      simp only [pointed?] at hc
      split at hc
      · cases hc
      · next listening =>
        obtain rfl := Option.some.inj hc
        have heard : Editor.host.zoom s.editor = s.editor.viewport.zoom := rfl
        simp only [run, push_eq, if_neg listening, DragHost.handle_move, heard, moved]
        exact ⟨⟨_, rfl⟩, rfl⟩
    | down _ _ => cases hc
    | up _ => cases hc
  | _ => cases hc

omit [StateFormat α] in
/-- A move keeps where the drag began. -/
theorem Drags.of_move (h : s.Drags edge screen control) {zoom : α} {p : Point α}
    {c : Controller α} {q : Option (Point α)} (moved : s.controller.move zoom p = .ok (c, q)) :
    Drags { s with controller := c } edge screen control := by
  obtain ⟨live, hd⟩ := h
  simp only [Controller.move, hd] at moved
  split at moved
  · cases moved
    exact ⟨_, rfl⟩
  · cases moved

/-- Until its release a drag knows where it began. -/
theorem Drags.run (h : s.Drags edge screen control) {c : Call α} (hc : c.isRelease = false) :
    (s.run c).state.Drags edge screen control := by
  cases c with
  | beginDrag other point =>
    -- another drag is refused while this one is on
    obtain ⟨live, hd⟩ := h
    simp only [Session.run, Outcome.map_state, beginDrag]
    split
    · exact ⟨live, hd⟩
    · simp only [Controller.begin, hd]
      exact ⟨live, hd⟩
  | moveDrag p =>
    simp only [Session.run, Outcome.map_state, moveDrag]
    split
    · next moved => exact h.of_move moved
    · exact h
  | push event =>
    simp only [Session.run, Outcome.map_state, push_eq]
    split
    · exact h
    · cases event with
      | down other p =>
        rw [DragHost.handle_down]
        split <;> exact h
      | move p =>
        rw [DragHost.handle_move]
        split
        · next moved => exact h.of_move moved
        · exact h
      | up p => cases hc
  | releaseDrag => cases hc
  | _ => exact h

theorem Drags.after (h : s.Drags edge screen control) {calls : List (Call α)}
    (held : ∀ c ∈ calls, c.isRelease = false) : (s.after calls).Drags edge screen control := by
  induction calls generalizing s with
  | nil => exact h
  | cons c calls ih =>
    obtain ⟨hc, held⟩ := List.forall_mem_cons.mp held
    exact ih (h.run hc) held

end

/-! ### On screen -/

open scoped Plane

section

variable {s : Session ℝ} {d : Drag ℝ}

/-- Whatever is drawn for a dragged edge goes through the preview. -/
theorem goesThrough_of_mem_paths (hd : s.controller.drag = some d) {path : Path ℝ}
    (h : (d.edge, path) ∈ s.paths) : path.GoesThrough d.live := by
  obtain ⟨e, -, he⟩ := List.mem_filterMap.mp (mem_of_mem_byKey h)
  obtain ⟨p, hp, same⟩ := Option.map_eq_some_iff.mp he
  obtain ⟨a, -, rfl⟩ := Option.map_eq_some_iff.mp hp
  obtain ⟨key, rfl⟩ := Prod.mk.inj same
  have drawn : s.controlOf e = d.live := by
    refine drawnControl_of_drag hd ?_
    cases found : s.graph.edge? e.id with
    | none => exact key
    | some f => exact (Graph.id_of_edge? found).trans key
  rw [Anchors.path, drawn]
  exact Path.goesThrough_through a.source a.target d.live

/-- An edge that does not dangle is drawn. -/
theorem exists_mem_paths {e : Edge ℝ} (he : e ∈ s.graph.edges)
    (source : s.graph.has e.source = true) (target : s.graph.has e.target = true) :
    ∃ path, (e.id, path) ∈ s.paths := by
  obtain ⟨a, ha⟩ := Graph.exists_anchors? source target
  refine exists_mem_byKey (x := (e.id, a.path (s.controlOf e))) (List.mem_filterMap.mpr ⟨e, he, ?_⟩)
  rw [path?, ha]
  rfl

end

section

variable [StateFormat ℝ]

/-- **The handle follows the pointer**, in exact arithmetic. In every session, while a drag is on,
whatever has been asked since it began: a move of the pointer is accepted, and after it the preview
is seen as far from the control point at the beginning as the pointer is from where it was then,
however the canvas has been panned. The path of the dragged edge goes through the preview, and it is
drawn if the edge has both its ends. -/
theorem handle_follows_pointer {setup : Setup ℝ} {opened : Opened ℝ}
    (h : openWith setup = .ok opened) (past meanwhile : List (Call ℝ)) (edge : String)
    (screen control : Point ℝ) :
    let s := opened.session.after past
    let t := (s.beginDrag edge screen).state.after meanwhile
    (s.beginDrag edge screen).answer = .ok control →
    (∀ c ∈ meanwhile, c.isRelease = false) →
    ∀ c p, t.pointed? c = some p →
      let u := (t.run c).state
      (∃ a, (t.run c).answer = .ok a) ∧
        ∃ live, u.controller.live? = some live ∧
          u.editor.viewport.toScreen live - u.editor.viewport.toScreen control = p - screen ∧
          (∀ path, (edge, path) ∈ u.paths → path.GoesThrough live) ∧
          ∀ e ∈ u.graph.edges, e.id = edge → u.graph.has e.source = true →
            u.graph.has e.target = true → ∃ path, (edge, path) ∈ u.paths := by
  intro s t begun held c p hc u
  obtain ⟨g, started⟩ := exists_start_of_openWith h
  have positive : Scalar.positive t.editor.viewport.zoom = true := by
    have opening : Scalar.positive opened.session.editor.viewport.zoom = true := by
      rw [started]
      simp [start, Editor.of, Viewport.initial, Scalar.positive]
    refine positive_zoom_after ?_ meanwhile
    rw [(beginDrag_eq_done begun).2.2]
    exact positive_zoom_after opening past
  have drags : t.Drags edge screen control := by
    refine Drags.after ⟨control, ?_⟩ held
    rw [(beginDrag_eq_done begun).2.2]
    rfl
  obtain ⟨accepted, left⟩ := drags.run_of_pointed? positive hc
  change u = _ at left
  have hd : u.controller.drag = some ⟨edge, screen, control,
      control + (p - screen).divide t.editor.viewport.zoom⟩ := by
    rw [left]
  have view : u.editor.viewport = t.editor.viewport := by
    rw [left]
  refine ⟨accepted, _, congrArg (Option.map Drag.live) hd, ?_, fun path => ?_, ?_⟩
  · rw [view]
    exact Viewport.toScreen_displaced (of_decide_eq_true positive) control _
  · exact goesThrough_of_mem_paths hd
  · rintro e he rfl
    exact exists_mem_paths he

end

/-- No record holds a graph. -/
local instance noRecords : StateFormat ℝ where
  encode _ _ := []
  decode _ := .error .outOfRange

/-- The canvas is panned, and then the pointer moves. -/
theorem handle_follows_pointer_panned :
    let setup : Setup ℝ := ⟨none, none, .of [] false, some (.silent []), .counting⟩
    let past : List (Call ℝ) := [.addNode "action" none none, .connect "start-1" "action-00000001"]
    let edge := "edge-start-1-action-00000001"
    let s := (start setup Graph.initial).after past
    let t := (s.beginDrag edge ⟨1, 2⟩).state.after [.setViewport 10 20 1]
    let u := (t.run (.moveDrag ⟨4, 6⟩)).state
    ∃ control, (s.beginDrag edge ⟨1, 2⟩).answer = .ok control ∧
      t.pointed? (.moveDrag ⟨4, 6⟩) = some ⟨4, 6⟩ ∧
      ∃ live, u.controller.live? = some live ∧
        u.editor.viewport.toScreen live - u.editor.viewport.toScreen control =
          Point.mk 4 6 - Point.mk 1 2 ∧
        ∃ path, (edge, path) ∈ u.paths ∧ path.GoesThrough live := by
  intro setup past edge s t u
  have opens : openWith setup = .ok ⟨start setup Graph.initial, false⟩ := rfl
  have begins : (s.beginDrag edge ⟨1, 2⟩).answer.isOk = true := by decide
  have held : ∀ c ∈ [Call.setViewport (10 : ℝ) 20 1], c.isRelease = false :=
    List.forall_mem_singleton.mpr rfl
  have drawn : ∃ e ∈ s.graph.edges, e.id = edge ∧ s.graph.has e.source = true ∧
      s.graph.has e.target = true := by decide
  cases begun : (s.beginDrag edge ⟨1, 2⟩).answer with
  | error f =>
    rw [begun] at begins
    cases begins
  | ok control =>
    obtain ⟨-, live, hlive, follows, through, paths⟩ := handle_follows_pointer opens past
      [.setViewport 10 20 1] edge ⟨1, 2⟩ control begun held (.moveDrag ⟨4, 6⟩) ⟨4, 6⟩ rfl
    -- sessions are spelled out alike on both sides, so that none is run to compare them
    dsimp only at hlive follows through paths
    have hovers : ∀ c ∈ [Call.setViewport (10 : ℝ) 20 1, .moveDrag ⟨4, 6⟩], c.isHover = true :=
      List.forall_mem_cons.mpr ⟨rfl, List.forall_mem_singleton.mpr rfl⟩
    obtain ⟨p, previews⟩ := (previews_of_beginDrag begun).2.after hovers
    have same : u.graph = s.graph := previews.graph
    obtain ⟨e, he, id, source, target⟩ := drawn
    rw [← same] at he source target
    obtain ⟨path, mem⟩ := paths e he id source target
    dsimp only [u, t, s]
    exact ⟨control, rfl, rfl, live, hlive, follows, path, mem, through path mem⟩

end Session

end FlowCanvas

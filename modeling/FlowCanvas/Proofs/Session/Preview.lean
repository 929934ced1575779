import FlowCanvas.Proofs.Program.Mapped
import FlowCanvas.Proofs.Session.Placement

/-!
# Previews

While a control point is dragged, the pointer may be moved and the canvas panned and zoomed, and all
that comes of it is the preview: the editor stays as it is but for how the canvas is seen, and every
other edge is drawn as before (`Session.Previews`). What the release then commits is the graph with
this one edge pinned at the preview (`Session.graph_of_release`). The code of that is the same, for
where control points are is nothing that a program tells.
-/

namespace FlowCanvas

universe u

/-! ### Pinning -/

namespace Graph

variable {α : Type u}

/-- An edge pinned at a point, if it has an id. -/
def pinnedAt (id : String) (p : Point α) (e : Edge α) : Edge α :=
  if e.id = id then { e with control := some p, pinned := true } else e

@[simp] theorem pinnedAt_source (id : String) (p : Point α) (e : Edge α) :
    (pinnedAt id p e).source = e.source := by
  unfold pinnedAt
  split <;> rfl

@[simp] theorem pinnedAt_target (id : String) (p : Point α) (e : Edge α) :
    (pinnedAt id p e).target = e.target := by
  unfold pinnedAt
  split <;> rfl

/-- To pin an edge is nothing to a program. -/
theorem isKept_pinnedAt (g : Graph α) (edge : String) (p : Point α) :
    g.IsKept id id (pinnedAt edge p) where
  injective := Function.injective_id
  id _ _ := rfl
  category _ _ := rfl
  nameInCode _ _ := rfl
  implementation _ _ := rfl
  source e _ := pinnedAt_source edge p e
  target e _ := pinnedAt_target edge p e

/-- Where edge ids are pairwise different, to put a pinned edge in its place is to pin it. -/
theorem setEdge_pinned {g : Graph α} (hids : (g.edges.map Edge.id).Nodup) {e : Edge α}
    (he : e ∈ g.edges) (p : Point α) :
    g.setEdge { e with control := some p, pinned := true } = g.mapped id (pinnedAt e.id p) := by
  have edges : (g.setEdge { e with control := some p, pinned := true }).edges =
      g.edges.map (pinnedAt e.id p) := by
    rw [setEdge_edges]
    refine List.map_congr_left fun d hd => ?_
    simp only [pinnedAt]
    split
    · next h => rw [List.inj_on_of_nodup_map hids hd he h]
    · rfl
  simp only [mapped, List.map_id, ← edges]
  rfl

end Graph

/-! ### What is drawn -/

/-- A call that moves the pointer, or the canvas below it. -/
def Call.isHover {α : Type} : Call α → Bool
  | .moveDrag _ | .push (.move _) | .setViewport .. => true
  | _ => false

namespace Session

variable {α : Type}

/-- Where no key is repeated, entries by key are the entries. -/
theorem byKey_of_nodup {β : Type} {entries : List (String × β)}
    (h : (entries.map Prod.fst).Nodup) : byKey entries = entries := by
  suffices fold : ∀ (seen rest : List (String × β)), ((seen ++ rest).map Prod.fst).Nodup →
      rest.foldl (fun seen x =>
        if seen.any fun y => y.1 == x.1 then seen.map fun y => if y.1 = x.1 then x else y
        else seen ++ [x]) seen = seen ++ rest from fold [] entries h
  intro seen rest
  induction rest generalizing seen with
  | nil => simp
  | cons x rest ih =>
    intro distinct
    have new : ¬ (seen.any fun y => y.1 == x.1) = true := by
      intro known
      obtain ⟨y, hy, same⟩ := List.any_eq_true.mp known
      rw [List.map_append, List.nodup_append] at distinct
      exact distinct.2.2 y.1 (List.mem_map_of_mem hy) x.1 (by simp) (by simpa using same)
    rw [List.foldl_cons, if_neg new, ih _ (by simpa using distinct)]
    simp

variable [Scalar α]

/-- Where edge ids are pairwise different, paths come in the order of the edges. -/
theorem paths_eq {s : Session α} (hids : (s.graph.edges.map Edge.id).Nodup) :
    s.paths = s.graph.edges.filterMap fun e => (s.path? e).map fun p => (e.id, p) := by
  refine byKey_of_nodup (hids.sublist ?_)
  induction s.graph.edges with
  | nil => exact .slnil
  | cons e rest ih =>
    rw [List.filterMap_cons]
    cases s.path? e with
    | none => exact ih.cons _
    | some p => exact ih.cons_cons _

/-- A dragged edge is drawn through the preview. -/
theorem drawnControl_of_drag {s : Session α} {d : Drag α} (hd : s.controller.drag = some d)
    {e : Edge α} (he : e.id = d.edge) : s.drawnControl e = d.live := by
  have same : (d.edge == e.id) = true := by simpa using he.symm
  simp only [drawnControl, hd, Option.filter, same]
  rfl

/-- A session in which, beside the preview of a drag, only how the canvas is seen may have changed
since another one, in which there was no drag. -/
structure Previews (s : Session α) (edge : String) (p : Point α) (t : Session α) : Prop where
  /-- no drag was on -/
  idle : s.controller.drag = none
  /-- the editor -/
  editor : t.editor = { s.editor with viewport := t.editor.viewport }
  /-- the drag -/
  drag : ∃ d, t.controller.drag = some d ∧ d.edge = edge ∧ d.live = p

namespace Previews

variable {s t : Session α} {edge : String} {p : Point α}

omit [Scalar α] in
theorem graph (h : s.Previews edge p t) : t.graph = s.graph := by
  rw [Session.graph, h.editor]
  rfl

theorem drawnControl_of_ne (h : s.Previews edge p t) {e : Edge α} (he : e.id ≠ edge) :
    t.drawnControl e = s.drawnControl e := by
  obtain ⟨d, hd, rfl, -⟩ := h.drag
  have other : (d.edge == e.id) = false := by simpa using he.symm
  simp only [drawnControl, h.idle, hd, h.graph, Option.filter, other]
  rfl

theorem drawnControl_self (h : s.Previews edge p t) {e : Edge α} (he : e.id = edge) :
    t.drawnControl e = p := by
  obtain ⟨d, hd, rfl, rfl⟩ := h.drag
  exact drawnControl_of_drag hd he

/-- Another edge has the control point that it had. -/
theorem controlPoint_of_ne (h : s.Previews edge p t) {other : String} (ne : other ≠ edge) :
    t.controlPoint other = s.controlPoint other := by
  rw [controlPoint, h.graph, controlPoint]
  cases hfound : s.graph.requireEdge other with
  | error r => rfl
  | ok e =>
    obtain ⟨hid, -⟩ := Graph.requireEdge_eq_ok hfound
    exact congrArg Except.ok (h.drawnControl_of_ne (hid ▸ ne))

/-- Other edges have the paths that they had. -/
theorem path?_of_ne (h : s.Previews edge p t) {e : Edge α} (he : e.id ≠ edge) :
    t.path? e = s.path? e := by
  have same : t.controlOf e = s.controlOf e := by
    rw [controlOf, controlOf, h.graph]
    refine h.drawnControl_of_ne ?_
    cases hfound : s.graph.edge? e.id with
    | none => exact he
    | some f => exact Graph.id_of_edge? hfound ▸ he
  rw [path?, path?, h.graph, same]

/-- As many edges as before have paths. -/
theorem isSome_path? (h : s.Previews edge p t) (e : Edge α) :
    (t.path? e).isSome = (s.path? e).isSome := by
  rw [path?, path?, h.graph, Option.isSome_map, Option.isSome_map]

/-- The paths are those from before, up to the one of the dragged edge. -/
theorem paths (h : s.Previews edge p t) (hids : (s.graph.edges.map Edge.id).Nodup) :
    (t.paths.filter fun x => x.1 != edge) = (s.paths.filter fun x => x.1 != edge) ∧
      t.paths.map Prod.fst = s.paths.map Prod.fst := by
  rw [paths_eq hids, paths_eq (h.graph ▸ hids), h.graph]
  constructor
  · rw [List.filter_filterMap, List.filter_filterMap]
    refine List.filterMap_congr fun e _ => ?_
    by_cases he : e.id = edge
    · cases t.path? e <;> cases s.path? e <;> simp [Option.filter, he]
    · rw [h.path?_of_ne he]
  · rw [List.map_filterMap, List.map_filterMap]
    refine List.filterMap_congr fun e _ => ?_
    have same := h.isSome_path? e
    cases ht : t.path? e <;> cases hs : s.path? e <;> simp_all

/-- A move of the pointer changes the preview, and nothing else. -/
theorem moved (h : s.Previews edge p t) {zoom : α} {screen : Point α} {c : Controller α}
    {q : Option (Point α)} (hmove : t.controller.move zoom screen = .ok (c, q)) :
    ∃ p', s.Previews edge p' { t with controller := c } := by
  obtain ⟨d, hd, hedge, -⟩ := h.drag
  simp only [Controller.move, hd] at hmove
  split at hmove
  · cases hmove
    exact ⟨_, h.idle, h.editor, _, rfl, hedge, rfl⟩
  · cases hmove

variable [StateFormat α]

/-- Whatever hovers leaves a preview. -/
theorem run (h : s.Previews edge p t) {c : Call α} (hc : c.isHover = true) :
    ∃ p', s.Previews edge p' (t.run c).state := by
  cases c with
  | moveDrag screen =>
    simp only [Session.run, Outcome.map_state, moveDrag]
    split
    · next c q hmove => exact h.moved hmove
    · exact ⟨p, h⟩
  | push event =>
    cases event with
    | move screen =>
      simp only [Session.run, Outcome.map_state, push_eq]
      split
      · exact ⟨p, h⟩
      · rw [DragHost.handle_move]
        split
        · next c q hmove => exact h.moved hmove
        · exact ⟨p, h⟩
    | down _ _ => cases hc
    | up _ => cases hc
  | setViewport x y zoom =>
    simp only [Session.run, Outcome.map_state, edit, Outcome.mapState_state, Editor.setViewport]
    split
    · next v _ =>
      refine ⟨p, h.idle, ?_, h.drag⟩
      exact congrArg (fun e : Editor α => { e with viewport := v }) h.editor
    · exact ⟨p, h⟩
  | _ => cases hc

theorem after (h : s.Previews edge p t) {hover : List (Call α)}
    (hover_all : ∀ c ∈ hover, c.isHover = true) : ∃ p', s.Previews edge p' (t.after hover) := by
  induction hover generalizing p t with
  | nil => exact ⟨p, h⟩
  | cons c calls ih =>
    obtain ⟨hc, hcalls⟩ := List.forall_mem_cons.mp hover_all
    obtain ⟨p', h'⟩ := h.run hc
    exact ih h' hcalls

end Previews

/-- A drag begins where no other one is on, and previews the control point as it is drawn. -/
theorem beginDrag_eq_done {s : Session α} {edge : String} {screen control : Point α}
    (h : (s.beginDrag edge screen).answer = .ok control) :
    s.controlPoint edge = .ok control ∧ s.controller.drag = none ∧
      s.beginDrag edge screen = .done { s with
        controller := ⟨some ⟨edge, screen, control, control⟩,
          s.controller.source.map PointerSource.subscribe⟩ } control := by
  unfold beginDrag at h ⊢
  cases hcontrol : s.controlPoint edge with
  | error r =>
    rw [hcontrol] at h
    cases h
  | ok p =>
    simp only [hcontrol, Controller.begin] at h ⊢
    cases hd : s.controller.drag with
    | some d =>
      simp only [hd] at h
      cases h
    | none =>
      simp only [hd] at h
      cases h
      exact ⟨rfl, rfl, rfl⟩

theorem previews_of_beginDrag {s : Session α} {edge : String} {screen control : Point α}
    (h : (s.beginDrag edge screen).answer = .ok control) :
    s.controlPoint edge = .ok control ∧
      s.Previews edge control (s.beginDrag edge screen).state := by
  obtain ⟨hcontrol, hd, begun⟩ := beginDrag_eq_done h
  rw [begun]
  exact ⟨hcontrol, hd, rfl, _, rfl, rfl, rfl⟩

omit [Scalar α] in
/-- A release pins what is dragged at the preview. -/
theorem pins?_of_released? {t : Session α} {c : Call α} (hc : (t.released? c).isSome = true) :
    t.pins? c = t.controller.drag.map fun d => ⟨d.edge, d.live⟩ := by
  cases c with
  | releaseDrag => rfl
  | push event =>
    cases event with
    | up screen =>
      simp only [pins?, released?] at hc ⊢
      split at hc
      · cases hc
      · next listening => rw [if_neg listening]
    | down _ _ => cases hc
    | move _ => cases hc
  | _ => cases hc

variable [StateFormat α]

/-- What a release leaves: the edge is pinned at the preview, and the code stays as it is. -/
theorem Previews.release {s t : Session α} {edge : String} {p : Point α}
    (h : s.Previews edge p t) (views : s.InStep) (hids : (s.graph.edges.map Edge.id).Nodup)
    {e : Edge α} (he : s.graph.edge? edge = some e) {c : Call α}
    (hc : (t.released? c).isSome = true) :
    (t.run c).state.graph = s.graph.mapped id (Graph.pinnedAt edge p) ∧
      (t.run c).state.code = s.code := by
  obtain ⟨d, hd, rfl, rfl⟩ := h.drag
  have kept := s.graph.isKept_pinnedAt d.edge d.live
  have pins : t.pins? c = some ⟨d.edge, d.live⟩ := by rw [pins?_of_released? hc, hd]; rfl
  have plan : s.graph.planPin d.edge d.live =
      .ok ⟨some ⟨s.graph.setEdge { e with control := some d.live, pinned := true },
          "commit_control_point", some d.edge⟩,
        { e with control := some d.live, pinned := true }⟩ := by
    rw [Graph.planPin, Graph.requireEdge, he]
    rfl
  -- pinning changes nothing that the code shows, so the recorded entry is still the right one
  have synced : (s.graph.mapped id (Graph.pinnedAt d.edge d.live)).IsSynced :=
    views.synced.trans kept.entryName_mapped.symm
  have commits : t.committed? c = some (s.graph.mapped id (Graph.pinnedAt d.edge d.live)) := by
    rw [committed?_of_pins? pins, h.graph, plan, Plan.committed?,
      Graph.setEdge_pinned hids (Graph.mem_of_edge? he), Graph.id_of_edge? he, synced.syncEntry_eq]
  have left := t.run_commits c
  rw [commits] at left
  exact ⟨left.graph, left.code.trans (kept.source_mapped.trans views.code.symm)⟩

/-- **A drag is a preview, and then one edit of one edge.** From when it begins on an edge, while
the pointer is moved and the canvas is panned and zoomed, the editor stays as it is but for how the
canvas is seen, and the other edges are drawn as before. The release pins this edge where it was
drawn last, and changes nothing else in the graph and nothing in the code. -/
theorem preview_until_release {setup : Setup α} {opened : Opened α}
    (h : openWith setup = .ok opened) (past hover : List (Call α)) (edge : String)
    (screen control : Point α) :
    let s := opened.session.after past
    let t := (s.beginDrag edge screen).state.after hover
    (s.graph.edges.map Edge.id).Nodup → (s.beginDrag edge screen).answer = .ok control →
    (∀ c ∈ hover, c.isHover = true) →
      t.graph = s.graph ∧ t.code = s.code ∧ t.editor.store = s.editor.store ∧
      t.editor.dispatcher = s.editor.dispatcher ∧
      (∀ other, other ≠ edge → t.controlPoint other = s.controlPoint other) ∧
      (t.paths.filter fun x => x.1 != edge) = (s.paths.filter fun x => x.1 != edge) ∧
      t.paths.map Prod.fst = s.paths.map Prod.fst ∧
      ∃ p, t.controlPoint edge = .ok p ∧ t.controller.live? = some p ∧
        ∀ c, (t.released? c).isSome = true →
          (t.run c).state.graph =
            { s.graph with
              edges := s.graph.edges.map fun e =>
                if e.id = edge then { e with control := some p, pinned := true } else e } ∧
          (t.run c).state.code = s.code := by
  intro s t hids begun hovers
  obtain ⟨g, hstart⟩ := exists_start_of_openWith h
  have views : s.InStep := (hstart ▸ inStep_start setup g : opened.session.InStep).after past
  obtain ⟨hcontrol, begins⟩ := previews_of_beginDrag begun
  obtain ⟨p, previews⟩ : ∃ p, s.Previews edge p t := begins.after hovers
  obtain ⟨e, he, -⟩ := Result.exists_of_map_eq_ok hcontrol
  obtain ⟨hid, hfound⟩ := Graph.requireEdge_eq_ok he
  rw [hid] at hfound
  obtain ⟨others, keys⟩ := previews.paths hids
  have drawn : t.controlPoint edge = .ok p := by
    rw [controlPoint, previews.graph, he]
    exact congrArg Except.ok (previews.drawnControl_self hid)
  have live : t.controller.live? = some p := by
    obtain ⟨d, hd, -, rfl⟩ := previews.drag
    rw [Controller.live?, hd]
    rfl
  refine ⟨previews.graph, (congrArg Editor.code previews.editor :),
    (congrArg Editor.store previews.editor :), (congrArg Editor.dispatcher previews.editor :),
    fun other ne => previews.controlPoint_of_ne ne, others, keys, p, drawn, live, fun c hc => ?_⟩
  obtain ⟨graph, code⟩ := previews.release views hids hfound hc
  refine ⟨?_, code⟩
  rw [graph, Graph.mapped, List.map_id]
  rfl

/-- The pointer moves, the canvas is zoomed, and the pointer moves on, now through its source. -/
theorem preview_until_release_zoomed :
    let setup : Setup Number := ⟨none, some (.inMemory none .standard),
      .of [ProcessorKind.recording.processor] true, some (.silent []), .counting⟩
    let edge := "edge-start-1-action-00000001"
    let s := (start setup Graph.initial).after
      [.addNode "action" none none, .connect "start-1" "action-00000001"]
    let hover : List (Call Number) := [.moveDrag ⟨.whole 10, .whole 20⟩,
      .setViewport (.whole 0) (.whole 0) (.whole 2), .push (.move ⟨.whole 30, .whole 30⟩)]
    let t := (s.beginDrag edge Point.origin).state.after hover
    (s.graph.edges.map Edge.id).Nodup ∧ (s.beginDrag edge Point.origin).answer.isOk = true ∧
      t.graph = s.graph ∧ (t.released? .releaseDrag).isSome = true ∧
      (t.run .releaseDrag).state.code = s.code := by
  intro setup edge s hover t
  have opens : openWith setup = .ok ⟨start setup Graph.initial, false⟩ := rfl
  have hids : (s.graph.edges.map Edge.id).Nodup := by decide
  have begins : (s.beginDrag edge Point.origin).answer.isOk = true := by decide
  have hovers : ∀ c ∈ hover, c.isHover = true := by decide
  have released : (t.released? .releaseDrag).isSome = true := by decide
  cases begun : (s.beginDrag edge Point.origin).answer with
  | error f =>
    rw [begun] at begins
    cases begins
  | ok control =>
    have holds := preview_until_release opens [.addNode "action" none none,
      .connect "start-1" "action-00000001"] hover edge Point.origin control hids begun hovers
    obtain ⟨same, -, -, -, -, -, -, p, -, -, release⟩ := holds
    exact ⟨hids, rfl, same, released, (release .releaseDrag released).2⟩

end Session

end FlowCanvas

import FlowCanvas.Event.Processor
import FlowCanvas.Proofs.Editor.Account
import FlowCanvas.Proofs.Session.History
import FlowCanvas.Proofs.Session.Refusal

/-!
# What is heard of a session

A session commits an edit in one way: it puts the new graph in place, saves it, and announces it. So
the calls of a history that commit (`Session.commits`) are, one by one and in order, what is saved
and what is heard: one announcement each, with the graph and the code right after the call. Which
calls these are is read off what they ask for and whether they are refused. What is saved is read
off the log of the store, and what a save has come to off the data that it leaves (`Session.Kept`).
All of it holds of every processor, whatever it makes of what it hears (`Session.heard_after`). A
save that fails is not repeated, and its edit is announced to nobody.
-/

namespace FlowCanvas

namespace Session

variable {α : Type} [Scalar α] [StateFormat α]

omit [Scalar α] [StateFormat α] in
/-- A session with another dispatcher. -/
def tellTo (s : Session α) (d : Dispatcher α) : Session α :=
  { s with editor := s.editor.tellTo d }

omit [Scalar α] [StateFormat α] in
/-- Whether a call asks for an edit: it is one, other than of a pair that is connected, or it
releases a drag. -/
def edits (s : Session α) : Call α → Bool
  | .addNode .. => true
  | .renameNode .. => true
  | .moveNode .. => true
  | .removeNodes _ => true
  | .connect source target => (s.graph.between source target).isEmpty
  | .removeEdges _ => true
  | .pinControl .. => true
  | .setName _ => true
  | .reset => true
  | c => (s.released? c).isSome

end Session

/-- Whether a call is a reset. -/
def Call.isReset {α : Type} : Call α → Bool
  | .reset => true
  | _ => false

namespace Session

variable {α : Type} [Scalar α] [StateFormat α]

/-- A call to a session with a store, under any dispatcher, that comes out as it is accounted for.
-/
def Accounts {β : Type} (store : Store α) (reset edits : Bool)
    (o : Dispatcher α → Outcome (Session α) (EditorFault α) β) : Prop :=
  ∃ (r : Session α) (a : Except (EditorFault α) β) (es : List (Event α)),
    Dispatcher.Yields o r.tellTo a es ∧ Editor.Account store reset r.editor edits a es

namespace Accounts

variable {β γ : Type} {store : Store α} {reset edits : Bool}
  {o : Dispatcher α → Outcome (Session α) (EditorFault α) β}

omit [Scalar α] in
theorem map (h : Accounts store reset edits o) (f : β → γ) :
    Accounts store reset edits fun d => (o d).map f := by
  obtain ⟨r, a, es, yields, account⟩ := h
  exact ⟨r, a.map f, es, yields.map f, account.map f⟩

omit [Scalar α] in
/-- A call to the editor is accounted for as that call is. -/
theorem of_editor {o : Dispatcher α → Outcome (Editor α) (EditorFault α) β}
    (h : Editor.Accounts store reset edits o) (c : Controller α) :
    Accounts store reset edits fun d => (o d).mapState fun e => (⟨e, c⟩ : Session α) := by
  obtain ⟨r, a, es, yields, account⟩ := h
  exact ⟨⟨r, c⟩, a, es, yields.mapState fun e => (⟨e, c⟩ : Session α), account⟩

omit [Scalar α] in
/-- A call that asks for no edit and knows no dispatcher. -/
theorem quiet (r : Session α) (a : Except (EditorFault α) β) (stored : r.editor.store = some store)
    (h : ∀ d, o d = ⟨r.tellTo d, a⟩) : Accounts store reset false o :=
  ⟨r, a, [], .quiet h, .quiet nofun stored⟩

end Accounts

section Calls

variable {s : Session α} {store : Store α} (hs : s.editor.store = some store)

include hs

omit [Scalar α] in
theorem planned_accounts {β : Type} {edits : Bool} (plan : Except Rejection (Plan α β))
    (asks : ∀ p, plan = .ok p → p.change.isSome = edits) :
    Accounts store false edits fun d => (s.tellTo d).edit (·.carryOut plan) :=
  .of_editor (Editor.carryOut_accounts hs asks) s.controller

theorem setViewport_accounts (x y zoom : α) :
    Accounts store false false fun d => (s.tellTo d).edit (·.setViewport x y zoom) := by
  rcases view : Viewport.of x y zoom with f | v
  · refine .quiet s (.error (.badZoom f)) hs fun d => ?_
    simp only [edit, Editor.setViewport, view]
    rfl
  · refine .quiet { s with editor := { s.editor with viewport := v } } (.ok ()) hs fun d => ?_
    simp only [edit, Editor.setViewport, view]
    rfl

theorem beginDrag_accounts (edge : String) (screen : Point α) :
    Accounts store false false fun d => (s.tellTo d).beginDrag edge screen := by
  have control (d : Dispatcher α) : (s.tellTo d).controlPoint edge = s.controlPoint edge := rfl
  have controller (d : Dispatcher α) : (s.tellTo d).controller = s.controller := rfl
  rcases found : s.controlPoint edge with r | p
  · refine .quiet s (.error (.rejected r)) hs fun d => ?_
    simp only [beginDrag, control, found]
    rfl
  rcases begun : s.controller.begin edge screen p with f | c
  · refine .quiet s (.error (.drag f)) hs fun d => ?_
    simp only [beginDrag, control, controller, found, begun]
    rfl
  · refine .quiet { s with controller := c } (.ok p) hs fun d => ?_
    simp only [beginDrag, control, controller, found, begun]
    rfl

theorem moveDrag_accounts (screen : Point α) :
    Accounts store false false fun d => (s.tellTo d).moveDrag screen := by
  have controller (d : Dispatcher α) : (s.tellTo d).controller = s.controller := rfl
  have view (d : Dispatcher α) : (s.tellTo d).editor.viewport = s.editor.viewport := rfl
  rcases moved : s.controller.move s.editor.viewport.zoom screen with f | ⟨c, p⟩
  · refine .quiet s (.error (.drag f)) hs fun d => ?_
    simp only [moveDrag, controller, view, moved]
    rfl
  · refine .quiet { s with controller := c } (.ok p) hs fun d => ?_
    simp only [moveDrag, controller, view, moved]
    rfl

omit [Scalar α] in
theorem releaseDrag_accounts :
    Accounts store false (s.released? .releaseDrag).isSome fun d => (s.tellTo d).releaseDrag := by
  obtain ⟨e, drag, source⟩ := s
  cases drag with
  | none => exact .quiet ⟨e, none, source⟩ (.ok none) hs fun d => rfl
  | some dragged =>
    have pinned : Editor.Accounts store false true fun d =>
        (e.tellTo d).carryOut (e.graph.planPin dragged.edge dragged.live) :=
      Editor.carryOut_accounts hs (Plan.isSome_change_of_map fun _ => rfl)
    have ended := Accounts.of_editor (pinned.map fun _ => ())
      ⟨none, source.map PointerSource.unsubscribe⟩
    exact ended.map fun _ => some dragged.live

theorem push_accounts (event : PointerEvent α) :
    Accounts store false (s.released? (.push event)).isSome fun d => (s.tellTo d).push event := by
  have controller (d : Dispatcher α) : (s.tellTo d).controller = s.controller := rfl
  simp only [push_eq, controller]
  by_cases silent : s.controller.listeners = 0
  · -- nobody listens
    have none : s.released? (.push event) = none := by
      cases event <;> first | rfl | exact if_pos silent
    simp only [if_pos silent, none]
    exact .quiet s (.ok ()) hs fun d => rfl
  simp only [if_neg silent]
  cases event with
  | down edge screen =>
    simp only [DragHost.handle_down]
    by_cases dragging : s.controller.isDragging = true
    · simp only [if_pos dragging]
      exact .quiet s (.error (.drag (.pressed edge))) hs fun d => rfl
    · simp only [if_neg dragging]
      exact .quiet s (.ok ()) hs fun d => rfl
  | move screen =>
    simp only [DragHost.handle_move]
    have zoom (d : Dispatcher α) : Editor.host.zoom (s.tellTo d).editor = s.editor.viewport.zoom :=
      rfl
    simp only [zoom]
    rcases s.controller.move s.editor.viewport.zoom screen with f | ⟨c, p⟩
    · exact .quiet s (.error (.drag f)) hs fun d => rfl
    · exact .quiet { s with controller := c } (.ok ()) hs fun d => rfl
  | up screen =>
    simp only [DragHost.handle_up]
    have released : s.released? (.push (.up screen)) = s.released? .releaseDrag := if_neg silent
    rw [released]
    exact (releaseDrag_accounts hs).map fun _ => ()

/-- **What becomes of a call** in a session with a store, whoever hears of it. -/
theorem run_accounts (c : Call α) :
    Accounts store c.isReset (s.edits c) fun d => (s.tellTo d).run c := by
  cases c with
  | addNode category position label =>
    exact (Accounts.of_editor (Editor.addNode_accounts hs category position label) _).map _
  | renameNode node text =>
    exact (planned_accounts hs _ fun _ => Graph.isSome_change_of_planRename).map _
  | moveNode node position =>
    exact (planned_accounts hs (s.graph.planMove node position)
      (Plan.isSome_change_of_map fun _ => rfl)).map _
  | removeNodes nodes =>
    exact (planned_accounts hs (s.graph.planRemoveNodes nodes)
      (Plan.isSome_change_of_map fun _ => rfl)).map _
  | connect source target =>
    exact (planned_accounts hs _ fun _ => Graph.isSome_change_of_planConnect).map _
  | removeEdges edges =>
    exact (planned_accounts hs (s.graph.planRemoveEdges edges)
      (Plan.isSome_change_of_map fun _ => rfl)).map _
  | pinControl edge point =>
    exact (planned_accounts hs (s.graph.planPin edge point)
      (Plan.isSome_change_of_map fun _ => rfl)).map _
  | setName raw =>
    refine (planned_accounts hs (.ok (s.graph.planName raw)) fun p hp => ?_).map _
    obtain rfl := Except.ok.inj hp
    rfl
  | reset => exact (Accounts.of_editor (Editor.reset_accounts hs) _).map _
  | close => exact (Accounts.of_editor (Editor.close_accounts hs) _).map _
  | setViewport x y zoom => exact (setViewport_accounts hs x y zoom).map _
  | beginDrag edge screen => exact (beginDrag_accounts hs edge screen).map _
  | moveDrag screen => exact (moveDrag_accounts hs screen).map _
  | releaseDrag => exact (releaseDrag_accounts hs).map _
  | push event => exact (push_accounts hs event).map _

end Calls

/-! ### Histories -/

/-- **The commits of a history**: the calls that ask for an edit and are not refused, in order, each
with what it has left. -/
def commits (s : Session α) :
    List (Call α) → List (Call α × Outcome (Session α) (EditorFault α) (Answer α))
  | [] => []
  | c :: calls =>
    if s.edits c && !(s.run c).isRefused then (c, s.run c) :: commits (s.run c).state calls
    else commits (s.run c).state calls

/-- What a store becomes by one save of the graph of each commit. -/
def saved (store : Store α)
    (commits : List (Call α × Outcome (Session α) (EditorFault α) (Answer α))) : Store α :=
  commits.foldl (fun store x => (store.save x.2.state.graph).state) store

/-- A history in a session with a store, as it is saved. -/
structure Kept (s : Session α) (store : Store α) (calls : List (Call α)) : Prop where
  /-- what the store has been told to save is the graph of each commit, once and in order -/
  logged : (s.after calls).editor.store.map Store.log =
    some (store.log ++ (s.commits calls).map fun x => x.2.state.graph)
  /-- right after a commit that has been saved, the store holds the record of its graph -/
  held : ∀ x ∈ s.commits calls, x.2.answer.isOk = true →
    x.2.state.editor.store.bind Store.data? =
      some (StateFormat.encode store.layout x.2.state.graph)
  /-- in memory every commit is saved -/
  taken : ∀ data, store.shelf = .memory data → ∀ x ∈ s.commits calls, x.2.answer.isOk = true
  /-- nothing but these saves changes the store -/
  stored : (s.after calls).editor.store = some (saved store (s.commits calls))

/-- A history in a session with a store, as it is saved and heard of. -/
structure Recorded (s : Session α) (store : Store α) (calls : List (Call α)) (es : List (Event α)) :
    Prop where
  /-- each commit that has been saved is announced -/
  told : List.Forall₂
    (fun x e => e.Announces x.1.isReset x.2.state.graph x.2.state.code)
    ((s.commits calls).filter fun x => x.2.answer.isOk) es
  /-- the others could not be saved -/
  unsaved : ∀ x ∈ s.commits calls, x.2.answer.isOk = false → ∃ f, x.2.answer = .error (.file f)
  /-- each commit is saved once -/
  kept : s.Kept store calls

theorem commits_cons {s r : Session α} {c : Call α} {a : Except (EditorFault α) (Answer α)}
    (made : s.run c = ⟨r, a⟩) (calls : List (Call α)) :
    s.commits (c :: calls) =
      if s.edits c && !(⟨r, a⟩ : Outcome (Session α) (EditorFault α) (Answer α)).isRefused
      then (c, ⟨r, a⟩) :: r.commits calls else r.commits calls := by
  rw [commits, made]

namespace Kept

variable {s r : Session α} {store : Store α} {c : Call α} {calls : List (Call α)}

theorem nil (stored : s.editor.store = some store) : s.Kept store [] := by
  refine ⟨?_, List.forall_mem_nil _, fun _ _ => List.forall_mem_nil _, stored⟩
  change s.editor.store.map Store.log = some (store.log ++ [])
  rw [stored, List.append_nil]
  rfl

/-- A call that is no commit is not saved. -/
theorem skip (h : r.Kept store calls) (after : s.after (c :: calls) = r.after calls)
    (skipped : s.commits (c :: calls) = r.commits calls) : s.Kept store (c :: calls) := by
  refine ⟨?_, ?_, ?_, ?_⟩
  · rw [after, skipped]
    exact h.logged
  · rw [skipped]
    exact h.held
  · rw [skipped]
    exact h.taken
  · rw [after, skipped]
    exact h.stored

/-- A commit is saved before all that comes after it. -/
theorem commit {a : Except (EditorFault α) (Answer α)}
    (h : r.Kept (store.save r.graph).state calls) (after : s.after (c :: calls) = r.after calls)
    (made : s.commits (c :: calls) = (c, ⟨r, a⟩) :: r.commits calls)
    (stored : r.editor.store = some (store.save r.graph).state)
    (saves : a.isOk = true ↔ (store.save r.graph).answer = .ok ()) : s.Kept store (c :: calls) := by
  refine ⟨?_, ?_, fun data memory => ?_, ?_⟩
  · rw [after, made, h.logged, Store.save_log, List.append_assoc]
    rfl
  · rw [made]
    refine List.forall_mem_cons.mpr ⟨fun done => ?_, fun x hx done => ?_⟩
    · change r.editor.store.bind Store.data? = _
      rw [stored]
      exact Store.data?_of_save (saves.mp done)
    · rw [h.held x hx done, Store.save_layout]
  · rw [made]
    obtain ⟨done, data', memory'⟩ := Store.save_of_memory memory r.graph
    exact List.forall_mem_cons.mpr ⟨saves.mpr done, h.taken data' memory'⟩
  · rw [after, made]
    exact h.stored

end Kept

/-- A call comes before a history as it is accounted for. -/
theorem exists_recorded_cons {s r : Session α} {store : Store α} {c : Call α}
    {a : Except (EditorFault α) (Answer α)} {es : List (Event α)} (made : s.run c = ⟨r, a⟩)
    (account : Editor.Account store c.isReset r.editor (s.edits c) a es) :
    ∃ store', r.editor.store = some store' ∧ ∀ calls es', r.Recorded store' calls es' →
      s.Recorded store (c :: calls) (es ++ es') := by
  have after (calls : List (Call α)) : s.after (c :: calls) = r.after calls := by
    rw [after_cons, made]
  generalize asked : s.edits c = edits at account
  cases account with
  | quiet refused stored =>
    -- the call edits nothing or has been refused, so it is no commit
    refine ⟨store, stored, fun calls es' rest => ?_⟩
    have skipped : s.commits (c :: calls) = r.commits calls := by
      rw [commits_cons made, asked]
      cases edits with
      | false => rfl
      | true =>
        obtain ⟨f, rfl, refusal⟩ := refused rfl
        exact if_neg (by simp [Outcome.isRefused, refusal])
    exact ⟨skipped ▸ rest.told, skipped ▸ rest.unsaved, rest.kept.skip (after calls) skipped⟩
  | told b stored done announced =>
    -- a commit that has been saved is told first
    refine ⟨_, stored, fun calls es' rest => ?_⟩
    have made : s.commits (c :: calls) = (c, ⟨r, .ok b⟩) :: r.commits calls := by
      rw [commits_cons made, asked]
      rfl
    refine ⟨?_, ?_, ?_⟩
    · rw [made]
      exact .cons announced rest.told
    · rw [made]
      exact List.forall_mem_cons.mpr ⟨nofun, rest.unsaved⟩
    · exact rest.kept.commit (after calls) made stored (iff_of_true rfl done)
  | unsaved f stored failed =>
    -- one that could not be saved is told to nobody
    refine ⟨_, stored, fun calls es' rest => ?_⟩
    have made : s.commits (c :: calls) = (c, ⟨r, .error (.file f)⟩) :: r.commits calls := by
      rw [commits_cons made, asked]
      rfl
    refine ⟨?_, ?_, ?_⟩
    · rw [made]
      exact rest.told
    · rw [made]
      exact List.forall_mem_cons.mpr ⟨fun _ => ⟨f, rfl⟩, rest.unsaved⟩
    · refine rest.kept.commit (after calls) made stored (iff_of_false nofun fun done => ?_)
      cases failed.symm.trans done

omit [Scalar α] [StateFormat α] in
theorem edits_tellTo (s : Session α) (d : Dispatcher α) (c : Call α) :
    (s.tellTo d).edits c = s.edits c := by
  cases c <;> rfl

/-- What is heard of a history does not depend on who hears it. -/
theorem exists_recorded {s : Session α} {store : Store α} (hs : s.editor.store = some store)
    (calls : List (Call α)) : ∃ es, ∀ d : Dispatcher α, d.strict = false →
      d.Tells es ((s.tellTo d).after calls).editor.dispatcher ∧
        (s.tellTo d).Recorded store calls es := by
  induction calls generalizing s store with
  | nil => exact ⟨[], fun d _ => ⟨.refl d, .nil, List.forall_mem_nil _, .nil hs⟩⟩
  | cons c calls ih =>
    obtain ⟨r, a, es, yields, account⟩ := run_accounts hs c
    obtain ⟨store', hr⟩ := account.exists_store
    obtain ⟨es', rest⟩ := ih hr
    refine ⟨es ++ es', fun d lenient => ?_⟩
    obtain ⟨d', tells, made : (s.tellTo d).run c = _⟩ := yields d lenient
    obtain ⟨tells', recorded⟩ := rest d' (tells.strict.trans lenient)
    have accounted := account.tellTo d'
    rw [← edits_tellTo s d c] at accounted
    obtain ⟨store'', hr', cons⟩ := exists_recorded_cons made accounted
    obtain rfl : store' = store'' := Option.some.inj (hr.symm.trans hr')
    refine ⟨?_, cons calls es' recorded⟩
    rw [after_cons, made]
    exact tells.trans tells'

/-- A session with a store and a lenient dispatcher that has told nothing yet. -/
def heardBy (s : Session α) (store : Store α) (ps : List (Processor α)) : Session α :=
  { s with editor := { s.editor with store := some store, dispatcher := .of ps false } }

/-- **One save and one announcement per commit, whoever listens.** In a session with a store, whose
processors may fail on whatever they like, each of them hears the same events, and so do any others
in its place. These are the announcements of the commits of the history, in order, each with the
graph and the code right after its call, but for commits that could not be saved. The log of the
store has grown by the graphs of all commits, in order, each of them once, and right after a commit
that could be saved the store held the record of its graph. In memory all of them can be saved. -/
theorem heard_after (s : Session α) (store : Store α) (calls : List (Call α)) :
    ∃ es, ∀ ps : List (Processor α),
      (∀ i < ps.length, ((s.heardBy store ps).after calls).editor.dispatcher.heard i = es) ∧
        (s.heardBy store ps).Recorded store calls es := by
  let t : Session α := { s with editor := { s.editor with store := some store } }
  have hs : t.editor.store = some store := rfl
  obtain ⟨es, heard⟩ := exists_recorded hs calls
  refine ⟨es, fun ps => ?_⟩
  obtain ⟨tells, recorded⟩ := heard (.of ps false) rfl
  exact ⟨tells.heard, recorded⟩

/-- Behind a processor that fails on everything the next one hears of each commit, and each is saved
once. -/
example :
    let ps : List (Processor Number) :=
      [ProcessorKind.failing.processor, ProcessorKind.recording.processor]
    let setup : Setup Number := ⟨none, none, .of [] false, none, .counting⟩
    let s := (start setup Graph.initial).heardBy (.inMemory none .standard) ps
    let calls : List (Call Number) := [.addNode "action" none (some " "),
      .addNode "action" none none, .connect "start-1" "action-00000002",
      .connect "start-1" "action-00000002", .reset]
    ((s.after calls).editor.dispatcher.heard 1).map Event.action? =
        [some "add_node", some "connect", none] ∧
      (s.after calls).editor.store.map (fun store => store.log.map fun g => g.edges.length) =
        some [0, 1, 0] := by
  decide

end Session

end FlowCanvas

import FlowCanvas.Event.Processor
import FlowCanvas.Proofs.Editor.Commit
import FlowCanvas.Proofs.Program.Statement

/-!
# The views of a session

Four things go with the graph of a session: its code, the entry point recorded in it, the statement
that sets the entry in the code, and what the store holds. They are kept together by hand, at the
opening, in every commit and in a reset. Each call commits a graph that can be worked out from the
session before the call (`Session.committed?`), or nothing, and that is all that it does to them
(`Session.run_commits`). A call that is refused commits nothing; one that fails because a processor
failed has committed all the same.

From this the four stay together along every history (`Session.views_agree_after`), what is stored
from the first commit on.
-/

namespace FlowCanvas

universe u

/-! ### Graphs with their entry recorded -/

/-- The recorded entry point is the name of the node that START leads to. -/
def Graph.IsSynced {α : Type u} (g : Graph α) : Prop := g.entryPoint = g.entryName

namespace Graph

variable {α : Type u}

theorem isSynced_syncEntry (g : Graph α) : g.syncEntry.IsSynced := rfl

theorem IsSynced.syncEntry_eq {g : Graph α} (h : g.IsSynced) : g.syncEntry = g := by
  rw [syncEntry, ← h]
  rfl

theorem isSynced_initial [Scalar α] : (initial : Graph α).IsSynced := by
  rw [← initial_syncEntry]
  exact isSynced_syncEntry _

/-- A graph whose entry is recorded sets that entry in its code, and no other. -/
theorem IsSynced.count_entryLine {g : Graph α} (h : g.IsSynced) (name : String) :
    (g.entryPoint = .string name → g.program.lines.count (entryLine g.name name) = 1) ∧
      (g.entryPoint ≠ .string name → g.program.lines.count (entryLine g.name name) = 0) := by
  have count : g.program.lines.count (entryLine g.name name) =
      if g.program.entry = some name then 1 else 0 := g.program.count_entryLine name
  have entry : g.program.entry = some name ↔ g.entryPoint = .string name := by
    rw [h]
    unfold program entryName
    rcases g.entry? with - | n <;> simp
  rw [count]
  constructor
  · intro he
    rw [if_pos (entry.mpr he)]
  · intro he
    rw [if_neg (mt entry.mp he)]

end Graph

/-! ### Calls -/

namespace Session

variable {α : Type} [Scalar α] [StateFormat α]

/-- **The graph that a call commits**: the new graph of an edit that is accepted and has something
to change, and the initial graph of a reset. -/
def committed? (s : Session α) : Call α → Option (Graph α)
  | .addNode category position label => s.editor.added? category position label
  | .renameNode node text => Plan.committed? (s.graph.planRename node text)
  | .moveNode node position => Plan.committed? (s.graph.planMove node position)
  | .removeNodes nodes => Plan.committed? (s.graph.planRemoveNodes nodes)
  | .connect source target => Plan.committed? (s.graph.planConnect source target)
  | .removeEdges edges => Plan.committed? (s.graph.planRemoveEdges edges)
  | .pinControl edge point => Plan.committed? (s.graph.planPin edge point)
  | .setName raw => Plan.committed? (.ok (s.graph.planName raw))
  | .reset => some Graph.initial
  | .releaseDrag => s.editor.released? s.controller
  | .push (.up _) => if s.controller.listeners = 0 then none else s.editor.released? s.controller
  | _ => none

/-- **A call does to the graph, the code and the store what it commits, and nothing else.** -/
theorem run_commits (s : Session α) (c : Call α) :
    s.editor.Commits (s.committed? c) ((s.run c).mapState Session.editor) := by
  cases c with
  | addNode category position label =>
    exact (s.editor.addNode_commits category position label).map _
  | renameNode node text => exact (s.editor.carryOut_commits _).map _
  | moveNode node position => exact (s.editor.carryOut_commits _).map _
  | removeNodes nodes => exact (s.editor.carryOut_commits _).map _
  | connect source target => exact (s.editor.carryOut_commits _).map _
  | removeEdges edges => exact (s.editor.carryOut_commits _).map _
  | pinControl edge point => exact (s.editor.carryOut_commits _).map _
  | setName raw => exact (s.editor.carryOut_commits (.ok (s.graph.planName raw))).map _
  | reset => exact s.editor.reset_commits.map _
  | close =>
    -- processors may fail to shut down, but no file is touched
    have answer (f : FileFault) : s.editor.close.answer ≠ .error (.file f) := by
      unfold Editor.close
      rcases s.editor.dispatcher.shutdown with ⟨state, problem | done⟩ <;> nofun
    have quiet : s.editor.Commits none s.editor.close := .of_eq rfl rfl rfl answer
    exact quiet.map _
  | setViewport x y zoom =>
    have quiet : s.editor.Commits none (s.editor.setViewport x y zoom) := by
      unfold Editor.setViewport
      split <;> exact .of_eq rfl rfl rfl nofun
    exact quiet.map _
  | beginDrag edge screen =>
    have quiet : s.editor.Commits none ((s.beginDrag edge screen).mapState Session.editor) := by
      unfold beginDrag
      split
      · exact .of_eq rfl rfl rfl nofun
      · split <;> exact .of_eq rfl rfl rfl nofun
    exact quiet.map _
  | moveDrag screen =>
    have quiet : s.editor.Commits none ((s.moveDrag screen).mapState Session.editor) := by
      unfold moveDrag
      split <;> exact .of_eq rfl rfl rfl nofun
    exact quiet.map _
  | releaseDrag => exact (s.editor.release_commits s.controller).map Answer.point
  | push event =>
    cases event with
    | up screen => exact (s.editor.push_up_commits screen s.controller).map _
    | down edge screen =>
      have other (p : Point α) : PointerEvent.down edge screen ≠ .up p := nofun
      exact (Editor.push_commits_none other s.editor s.controller).map _
    | move screen =>
      have other (p : Point α) : PointerEvent.move screen ≠ .up p := nofun
      exact (Editor.push_commits_none other s.editor s.controller).map _

/-! ### Histories -/

/-- No call of a history fails to save. -/
def SavesAll (s : Session α) : List (Call α) → Prop
  | [] => True
  | c :: calls => (∀ f, (s.run c).answer ≠ .error (.file f)) ∧ SavesAll (s.run c).state calls

/-- Some call of a history commits a graph. -/
def CommitsIn (s : Session α) : List (Call α) → Prop
  | [] => False
  | c :: calls => (s.committed? c).isSome = true ∨ CommitsIn (s.run c).state calls

/-- The code is that of the graph, and the entry point is recorded in it. -/
structure InStep (s : Session α) : Prop where
  /-- the code -/
  code : s.code = s.graph.source
  /-- the recorded entry point -/
  synced : s.graph.IsSynced

/-- There is a store, with records in a layout. -/
def Stores (l : Json.Layout) (s : Session α) : Prop :=
  ∃ store, s.editor.store = some store ∧ store.layout = l

/-- There is a store, and it holds the graph. -/
def Holds (l : Json.Layout) (s : Session α) : Prop :=
  ∃ store, s.editor.store = some store ∧ store.layout = l ∧
    store.data? = some (StateFormat.encode l s.graph)

omit [StateFormat α] in
theorem inStep_start (setup : Setup α) (g : Graph α) : (start setup g).InStep :=
  ⟨rfl, Graph.isSynced_syncEntry g⟩

/-- A session that has been opened has started on some graph. -/
theorem exists_start_of_openWith {setup : Setup α} {opened : Opened α}
    (h : openWith setup = .ok opened) : ∃ g, opened.session = start setup g := by
  unfold openWith at h
  split at h
  · cases h
    exact ⟨_, rfl⟩
  · cases h
    exact ⟨_, rfl⟩
  · obtain ⟨loaded, -, rfl⟩ := Result.exists_of_map_eq_ok h
    exact ⟨_, rfl⟩

/-- A session that has been opened is in step. -/
theorem inStep_of_openWith {setup : Setup α} {opened : Opened α}
    (h : openWith setup = .ok opened) : opened.session.InStep := by
  obtain ⟨g, started⟩ := exists_start_of_openWith h
  rw [started]
  exact inStep_start setup g

omit [StateFormat α] in
theorem isSynced_of_committed? {s : Session α} {c : Call α} {g : Graph α}
    (h : s.committed? c = some g) : g.IsSynced := by
  have planned {β : Type} {plan : Except Rejection (Plan α β)}
      (hg : Plan.committed? plan = some g) : g.IsSynced := by
    rcases plan with r | ⟨_ | c, b⟩
    · cases hg
    · cases hg
    · obtain rfl := Option.some.inj hg
      exact Graph.isSynced_syncEntry _
  have released (hg : s.editor.released? s.controller = some g) : g.IsSynced := by
    obtain ⟨d, -, hd⟩ := Option.bind_eq_some_iff.mp hg
    exact planned hd
  cases c with
  | addNode category position label =>
    obtain ⟨k, -, hk⟩ := Option.bind_eq_some_iff.mp h
    split at hk
    · cases hk
    · exact planned hk
  | renameNode node text => exact planned h
  | moveNode node position => exact planned h
  | removeNodes nodes => exact planned h
  | connect source target => exact planned h
  | removeEdges edges => exact planned h
  | pinControl edge point => exact planned h
  | setName raw => exact @planned _ (.ok (s.graph.planName raw)) h
  | reset =>
    obtain rfl := Option.some.inj h
    exact Graph.isSynced_initial
  | releaseDrag => exact released h
  | push event =>
    cases event with
    | up screen =>
      simp only [committed?] at h
      split at h
      · cases h
      · exact released h
    | down edge screen => cases h
    | move screen => cases h
  | _ => cases h

theorem InStep.run {s : Session α} (h : s.InStep) (c : Call α) : (s.run c).state.InStep := by
  have left := s.run_commits c
  rcases hp : s.committed? c with - | g
  · rw [hp] at left
    have hgraph : (s.run c).state.graph = s.graph := left.graph
    have hcode : (s.run c).state.code = s.code := left.code
    refine ⟨?_, ?_⟩
    · rw [hcode, hgraph]
      exact h.code
    · rw [hgraph]
      exact h.synced
  · rw [hp] at left
    have hgraph : (s.run c).state.graph = g := left.graph
    have hcode : (s.run c).state.code = g.source := left.code
    refine ⟨?_, ?_⟩
    · rw [hcode, hgraph]
    · rw [hgraph]
      exact isSynced_of_committed? hp

theorem InStep.after {s : Session α} (h : s.InStep) :
    ∀ calls : List (Call α), (s.after calls).InStep := by
  intro calls
  induction calls generalizing s with
  | nil => exact h
  | cons c calls ih => exact ih (h.run c)

theorem Stores.run {l : Json.Layout} {s : Session α} (h : s.Stores l) (c : Call α) :
    (s.run c).state.Stores l := by
  obtain ⟨store, hstore, hlayout⟩ := h
  have left : (s.run c).state.editor.store = s.editor.storeAfter (s.committed? c) :=
    (s.run_commits c).store
  rcases hp : s.committed? c with - | g
  · rw [hp] at left
    exact ⟨store, left.trans hstore, hlayout⟩
  · rw [hp, Editor.storeAfter, hstore] at left
    exact ⟨(store.save g).state, left, (store.save_layout g).trans hlayout⟩

/-- A call that commits and does not fail to save leaves the graph in the store. -/
theorem Stores.holds_of_committed? {l : Json.Layout} {s : Session α} (h : s.Stores l) {c : Call α}
    (commits : (s.committed? c).isSome = true)
    (saved : ∀ f, (s.run c).answer ≠ .error (.file f)) : (s.run c).state.Holds l := by
  obtain ⟨store, hstore, rfl⟩ := h
  obtain ⟨g, hp⟩ := Option.isSome_iff_exists.mp commits
  have left := s.run_commits c
  rw [hp] at left
  have hgraph : (s.run c).state.graph = g := left.graph
  obtain ⟨done, hleft⟩ := left.saved hstore saved
  refine ⟨_, hleft, store.save_layout g, ?_⟩
  rw [hgraph]
  exact Store.data?_of_save done

/-- A call that commits nothing leaves the graph where it is. -/
theorem Holds.run {l : Json.Layout} {s : Session α} (h : s.Holds l) {c : Call α}
    (none : s.committed? c = none) : (s.run c).state.Holds l := by
  obtain ⟨store, hstore, hlayout, hdata⟩ := h
  have left := s.run_commits c
  rw [none] at left
  have hgraph : (s.run c).state.graph = s.graph := left.graph
  exact ⟨store, left.store.trans hstore, hlayout, hgraph.symm ▸ hdata⟩

theorem Holds.after {l : Json.Layout} {s : Session α} (h : s.Holds l) (stores : s.Stores l) :
    ∀ {calls : List (Call α)}, s.SavesAll calls → (s.after calls).Holds l := by
  intro calls
  induction calls generalizing s with
  | nil =>
    intro _
    exact h
  | cons c calls ih =>
    rintro ⟨saved, rest⟩
    rcases hp : s.committed? c with - | g
    · exact ih (h.run hp) (stores.run c) rest
    · have commits : (s.committed? c).isSome = true := by rw [hp]; rfl
      exact ih (stores.holds_of_committed? commits saved) (stores.run c) rest

/-- **From the first commit on the store holds the graph.** -/
theorem Stores.holds_after {l : Json.Layout} {s : Session α} (stores : s.Stores l) :
    ∀ {calls : List (Call α)}, s.SavesAll calls → s.CommitsIn calls → (s.after calls).Holds l := by
  intro calls
  induction calls generalizing s with
  | nil =>
    intro _ never
    exact never.elim
  | cons c calls ih =>
    rintro ⟨saved, rest⟩ (commits | later)
    · exact (stores.holds_of_committed? commits saved).after (stores.run c) rest
    · exact ih (stores.run c) rest later

/-- **The views of a session agree.** However a session has been opened, and whatever has been asked
of it, its code is that of its graph, the recorded entry point is the name of the node that START
leads to, and the code sets just that entry, once. From the first commit on, if no save fails, the
store holds the graph. -/
theorem views_agree_after {setup : Setup α} {opened : Opened α} (h : openWith setup = .ok opened)
    (calls : List (Call α)) :
    let s := opened.session.after calls
    s.code = s.graph.source ∧ s.graph.entryPoint = s.graph.entryName ∧
      (∀ name,
        (s.graph.entryPoint = .string name →
          s.graph.program.lines.count (entryLine s.graph.name name) = 1) ∧
        (s.graph.entryPoint ≠ .string name →
          s.graph.program.lines.count (entryLine s.graph.name name) = 0)) ∧
      ∀ store, setup.store = some store → opened.session.SavesAll calls →
        opened.session.CommitsIn calls → s.Holds store.layout := by
  intro s
  obtain ⟨g, hstart⟩ := exists_start_of_openWith h
  have views : s.InStep := (hstart ▸ inStep_start setup g : opened.session.InStep).after calls
  refine ⟨views.code, views.synced, fun name => views.synced.count_entryLine name, ?_⟩
  intro store hstore saves commits
  have stores : opened.session.Stores store.layout := hstart ▸ ⟨store, hstore, rfl⟩
  exact stores.holds_after saves commits

/-- A store in memory takes every graph, so no call fails to save. -/
theorem savesAll_of_memory {s : Session α} {store : Store α} {data : Option Text.Utf8.Octets}
    (h : s.editor.store = some store) (memory : store.shelf = .memory data) :
    ∀ calls : List (Call α), s.SavesAll calls := by
  intro calls
  induction calls generalizing s store data with
  | nil => trivial
  | cons c calls ih =>
    have left := s.run_commits c
    have stored : ∃ store' data', (s.run c).state.editor.store = some store' ∧
        store'.shelf = .memory data' := by
      have hstore := left.store
      rcases hp : s.committed? c with - | g
      · rw [hp] at hstore
        exact ⟨store, data, hstore.trans h, memory⟩
      · rw [hp, Editor.storeAfter_some h] at hstore
        obtain ⟨-, data', kept⟩ := Store.save_of_memory memory g
        exact ⟨_, data', hstore, kept⟩
    obtain ⟨store', data', hstore', memory'⟩ := stored
    refine ⟨fun f failed => ?_, ih hstore' memory'⟩
    obtain ⟨g, t, -, ht, hf⟩ := (left.unsaved f).mp failed
    obtain rfl := Option.some.inj (h.symm.trans ht)
    rw [(Store.save_of_memory memory g).1] at hf
    cases hf

/-- A strict processor that fails on everything: each edit has been made and saved all the same. -/
theorem views_agree_after_failures :
    let setup : Setup Number :=
      ⟨none, some (.inMemory none .standard), .of [ProcessorKind.failing.processor] true, none,
        .counting⟩
    let calls : List (Call Number) :=
      [.addNode "action" none none, .connect "start-1" "action-00000001",
        .renameNode "action-00000001" " Main Step "]
    let s := start setup Graph.initial
    openWith setup = .ok ⟨s, false⟩ ∧ s.SavesAll calls ∧ s.CommitsIn calls ∧
      (s.after calls).Holds .standard ∧
      (s.after calls).graph.entryPoint.plain = "Main_Step" := by
  intro setup calls s
  have opens : openWith setup = .ok ⟨s, false⟩ := rfl
  have stored : s.editor.store = some (.inMemory none .standard) := rfl
  have saves : s.SavesAll calls := savesAll_of_memory stored rfl calls
  have commits : s.CommitsIn calls := .inl (by decide)
  exact ⟨opens, saves, commits, (views_agree_after opens calls).2.2.2 _ rfl saves commits,
    by decide⟩

end Session

end FlowCanvas

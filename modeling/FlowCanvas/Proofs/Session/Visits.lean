import FlowCanvas.Proofs.Session.Opening
import FlowCanvas.Proofs.Session.Twin

/-!
# A session for each call

A command opens a session on the store, makes its edit and ends, so that a history made by commands
has a session for each call (`Session.visits`), and what is not stored is lost in between. As long
as every edit is saved nobody can tell this from one session that makes all the calls
(`Session.visits_alike`): the graph that is opened again is alike to the one that was saved
(`Store.load_of_save`), and the two sessions are twins again.

After an edit that could not be saved they part: the one session goes on with the edit, and the next
command does not know of it (`Session.visits_differ_unsaved`).
-/

namespace FlowCanvas

open Result (Agree)

/-! ### What is stored -/

/-- **What has been saved is loaded, settled.** -/
theorem Store.load_of_save {s : Store Number} {g : Graph Number} (storable : g.IsStorable)
    (done : (s.save g).answer = .ok ()) : (s.save g).state.load = .ok ⟨g.settled, false⟩ :=
  load_of_ofOctets_eq_ok (holding_of_save done) (Graph.decode_encode storable s.layout)

/-- What is loaded can be stored again. -/
theorem Store.isStorable_of_load {s : Store Number} {l : Loaded Number} (h : s.load = .ok l) :
    l.graph.IsStorable := by
  unfold load at h
  split at h
  · cases h
  · cases h
    exact Graph.isStorable_initial
  · cases h
    exact Graph.isStorable_initial
  · split at h
    · next decoded =>
      cases h
      exact Graph.isStorable_of_decode decoded
    · split at h
      · cases h
        exact Graph.isStorable_initial
      · cases h

namespace Session

/-! ### Histories -/

/-- What there is to see of a call: what it answers, and the graph and the code after it. -/
structure Turn (α : Type) where
  /-- the answer, or why the call failed -/
  answer : Except (EditorFault α) (Answer α)
  /-- the graph after the call -/
  graph : Graph α
  /-- the code after the call -/
  code : String

variable {α : Type}

/-- What there is to see of an outcome. -/
def Turn.of (o : Outcome (Session α) (EditorFault α) (Answer α)) : Turn α :=
  ⟨o.answer, o.state.graph, o.state.code⟩

variable [Scalar α] [StateFormat α]

/-- The turns of calls that are all made in one session. -/
def turns (s : Session α) : List (Call α) → List (Turn α)
  | [] => []
  | c :: calls => .of (s.run c) :: turns (s.run c).state calls

omit [Scalar α] [StateFormat α] in
/-- What the next session is opened with: what is stored and which tokens are left. -/
def leave (setup : Setup α) (s : Session α) : Setup α :=
  { setup with store := s.editor.store, tokens := s.editor.tokens }

/-- The turns of calls that each have a session of their own, or why it does not open. -/
def visits (setup : Setup α) : List (Call α) → List (Except StoreFault (Turn α))
  | [] => []
  | c :: calls =>
    match openWith setup with
    | .error f => .error f :: visits setup calls
    | .ok opened =>
      .ok (.of (opened.session.run c)) :: visits (leave setup (opened.session.run c).state) calls

/-- Turns that look the same: the outcomes are, the graphs are alike, and the code is the same. -/
structure Turn.Alike (t u : Turn Number) : Prop where
  /-- the answers -/
  answer : Agree Answer.Alike t.answer u.answer
  /-- the graphs, with the recorded entry points -/
  graph : t.graph.Alike u.graph
  /-- the code -/
  code : t.code = u.code

/-! ### Opening again -/

variable {setup : Setup Number} {s : Session Number}

/-- A session whose store gives its graph, settled and with its entry recorded. -/
def IsStored (s : Session Number) : Prop :=
  ∃ (store : Store Number) (l : Loaded Number), s.editor.store = some store ∧ store.load = .ok l ∧
    l.graph.syncEntry.settled = s.graph.settled

theorem isSound_start {g : Graph Number} (hg : g.IsStorable)
    (tolerant : setup.dispatcher.IsTolerant) : (start setup g).editor.IsSound :=
  ⟨hg.syncEntry, g.isSynced_syncEntry, rfl, tolerant⟩

/-- A session that has been opened on a store is sound, and its graph is stored. -/
theorem isStored_of_openWith {store : Store Number} {opened : Opened Number}
    (h : openWith (onStore setup store) = .ok opened) (tolerant : setup.dispatcher.IsTolerant) :
    opened.session.editor.IsSound ∧ opened.session.IsStored := by
  rw [openWith_onStore] at h
  obtain ⟨l, hl, rfl⟩ := Result.exists_of_map_eq_ok h
  exact ⟨isSound_start (Store.isStorable_of_load hl) tolerant, store, l, rfl, hl, rfl⟩

/-- **A call that does not fail to save leaves a session stored.** -/
theorem IsStored.run (h : s.IsStored) {c : Call Number}
    (sound : (s.run c).state.editor.IsSound) (saved : ∀ f, (s.run c).answer ≠ .error (.file f)) :
    (s.run c).state.IsStored := by
  obtain ⟨store, l, hstore, hl, hgraph⟩ := h
  have left := s.run_commits c
  rcases hp : s.committed? c with - | g
  · -- nothing is committed, and the store gives what it gave
    rw [hp] at left
    have same : (s.run c).state.graph = s.graph := left.graph
    exact ⟨store, l, left.store.trans hstore, hl, hgraph.trans (congrArg Graph.settled same.symm)⟩
  · -- what is committed has its entry recorded, so the load does not change it
    rw [hp] at left
    have same : (s.run c).state.graph = g := left.graph
    have storable : g.IsStorable := same ▸ sound.storable
    have synced : g.IsSynced := same ▸ sound.synced
    obtain ⟨done, kept⟩ := left.saved hstore saved
    refine ⟨_, _, kept, Store.load_of_save storable done, ?_⟩
    rw [Graph.syncEntry_settled, Graph.settled_settled, synced.syncEntry_eq, same]

/-- **A session that is stored is a twin of the next one.** -/
theorem IsStored.exists_openWith (h : s.IsStored) (sound : s.editor.IsSound)
    (fresh : setup.graph = none) (tolerant : setup.dispatcher.IsTolerant) :
    ∃ opened, openWith (leave setup s) = .ok opened ∧ opened.session.IsStored ∧
      opened.session.editor.Twins s.editor := by
  obtain ⟨store, l, hstore, hl, hgraph⟩ := h
  have next : leave setup s = onStore (leave setup s) store := by
    simp only [leave, onStore, hstore, fresh]
  have opens : openWith (leave setup s) = .ok ⟨start (leave setup s) l.graph, l.discarded⟩ := by
    rw [next, openWith_onStore, hl]
    rfl
  refine ⟨_, opens, ⟨store, l, hstore, hl, rfl⟩, ?_⟩
  exact {
    left := isSound_start (Store.isStorable_of_load hl) tolerant
    right := sound
    graph := hgraph
    store := ⟨store, store, hstore, hstore, rfl⟩
    tokens := rfl }

/-! ### Sessions side by side -/

/-- What twins show of an edit looks the same. -/
theorem alike_of_twins {t : Session Number} (h : s.editor.Twins t.editor) {c : Call Number}
    (hc : c.IsEdit) : (Turn.of (s.run c)).Alike (.of (t.run c)) := by
  obtain ⟨twins, answers⟩ := run_twins h hc
  exact ⟨answers,
    Graph.alike_of_settled_eq twins.left.storable twins.right.storable twins.graph, twins.code⟩

/-- Twins of which the one opens a session for each call and the other makes all calls look the same
up to the first edit that is not saved. The induction is on the calls: after each that is saved, the
next session is a twin of the one that has been left, which is a twin of the one that goes on. -/
theorem visits_alike_of_twins {t : Session Number} {opened : Opened Number}
    (fresh : setup.graph = none) (tolerant : setup.dispatcher.IsTolerant) :
    ∀ {calls : List (Call Number)} {i : Nat}, openWith setup = .ok opened →
      opened.session.IsStored → opened.session.editor.Twins t.editor → (∀ c ∈ calls, c.IsEdit) →
      i < calls.length → t.SavesAll (calls.take i) →
      ∃ v u, (visits setup calls)[i]? = some (.ok v) ∧ (t.turns calls)[i]? = some u ∧
        v.Alike u := by
  intro calls
  induction calls generalizing setup t opened with
  | nil =>
    intro i _ _ _ _ hi
    cases hi
  | cons c calls ih =>
    intro i opens stored twins edits hi saves
    have edit : c.IsEdit := edits c List.mem_cons_self
    rw [visits, opens, turns]
    cases i with
    | zero => exact ⟨_, _, rfl, rfl, alike_of_twins twins edit⟩
    | succ i =>
      obtain ⟨saved, saves⟩ := saves
      obtain ⟨twins, answers⟩ := run_twins twins edit
      -- the visit has been saved because the call in the one session has been
      have saved' (f : FileFault) : (opened.session.run c).answer ≠ .error (.file f) :=
        fun failed => saved f (answers.eq_error_iff.1 failed)
      have stored := stored.run twins.left saved'
      obtain ⟨next, opens, stored, again⟩ := stored.exists_openWith twins.left fresh tolerant
      have fresh : (leave setup (opened.session.run c).state).graph = none := fresh
      exact ih fresh tolerant opens stored (again.trans twins)
        (fun c hc => edits c (List.mem_cons_of_mem _ hc)) (Nat.lt_of_succ_lt_succ hi) saves

/-- **Whether edits are made one to a session or all in one session cannot be told**, up to the
first edit that is not saved: each edit answers alike, and leaves alike graphs and the same code. -/
theorem visits_alike {store : Store Number} {opened : Opened Number}
    (h : openWith (onStore setup store) = .ok opened) (tolerant : setup.dispatcher.IsTolerant)
    {calls : List (Call Number)} (edits : ∀ c ∈ calls, c.IsEdit) {i : Nat} (hi : i < calls.length)
    (saves : opened.session.SavesAll (calls.take i)) :
    ∃ v u, (visits (onStore setup store) calls)[i]? = some (.ok v) ∧
      (opened.session.turns calls)[i]? = some u ∧ v.Alike u := by
  obtain ⟨sound, stored⟩ := isStored_of_openWith h tolerant
  obtain ⟨store', -, hstore, -⟩ := id stored
  have fresh : (onStore setup store).graph = none := rfl
  exact visits_alike_of_twins fresh tolerant h stored (.of_isSound sound hstore) edits hi saves

/-- Three edits on a store in memory. -/
theorem visits_alike_inMemory :
    let store := Store.inMemory none .standard
    let s := start (onStore bare store) Graph.initial
    let calls : List (Call Number) :=
      [.addNode "action" none (some "Load"), .connect "start-1" "action-00000001",
        .moveNode "start-1" ⟨.real 80.5, .real 40.0⟩]
    openWith (onStore bare store) = .ok ⟨s, false⟩ ∧ bare.dispatcher.IsTolerant ∧
      (∀ c ∈ calls, c.IsEdit) ∧ 2 < calls.length ∧ s.SavesAll (calls.take 2) ∧
      ∃ v u, (visits (onStore bare store) calls)[2]? = some (.ok v) ∧
        (s.turns calls)[2]? = some u ∧ v.Alike u := by
  intro store s calls
  have opens : openWith (onStore bare store) = .ok ⟨s, false⟩ := rfl
  have tolerant : bare.dispatcher.IsTolerant := fun _ => rfl
  have edits : ∀ c ∈ calls, c.IsEdit := by
    simp only [calls, List.forall_mem_cons]
    exact ⟨nofun, trivial, ⟨trivial, trivial⟩, nofun⟩
  have stored : s.editor.store = some (.inMemory none .standard) := rfl
  have saves : s.SavesAll (calls.take 2) := savesAll_of_memory stored rfl _
  have bound : 2 < calls.length := by decide
  exact ⟨opens, tolerant, edits, bound, saves, visits_alike opens tolerant edits bound saves⟩

/-- A store whose directory is taken by a file, so that no graph can be saved in it. -/
def blockedStore : Store Number :=
  .inFile (.ofText "notes/state.json") ⟨[(["notes"], .file [])], []⟩ .standard

/-- A session on that store. -/
def blockedSession : Session Number := start (onStore bare blockedStore) Graph.initial

/-- A node is added on that store and gets another label. The one session knows of the node, and the
next command does not. -/
theorem visits_differ_unsaved :
    let calls : List (Call Number) :=
      [.addNode "action" none (some "Load"), .renameNode "action-00000001" "Save"]
    openWith (onStore bare blockedStore) = .ok ⟨blockedSession, false⟩ ∧
      (∀ c ∈ calls, c.IsEdit) ∧
      ∃ v u, (visits (onStore bare blockedStore) calls)[1]? = some (.ok v) ∧
        (blockedSession.turns calls)[1]? = some u ∧
        v.answer = .error (.rejected (.unknownNode "action-00000001")) ∧
        u.answer = .error (.file .alreadyExists) ∧ ¬ v.Alike u := by
  have unsaved : ((blockedSession.run (.addNode "action" none (some "Load"))).state.run
      (.renameNode "action-00000001" "Save")).answer = .error (.file .alreadyExists) := by rfl
  intro calls
  have edits : ∀ c ∈ calls, c.IsEdit := by
    simp only [calls, List.forall_mem_cons]
    exact ⟨nofun, trivial, nofun⟩
  refine ⟨rfl, edits, _, _, rfl, rfl, rfl, unsaved, fun h => ?_⟩
  have parted := h.answer.eq_error_iff.2 unsaved
  cases parted

end Session

end FlowCanvas

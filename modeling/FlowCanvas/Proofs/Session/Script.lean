import FlowCanvas.Proofs.Graph.Handle
import FlowCanvas.Proofs.Session.History
import FlowCanvas.Proofs.Session.Renamed
import FlowCanvas.Proofs.Text.Digits
import Mathlib.Logic.Equiv.Fintype

/-!
# Scripts

A script is a history of a session that knows no ids: in its calls, the place of an id is taken by
the numeral of when the node or the edge came, counted from zero (`Scripted.named`). So it can be
run with other tokens, and then all that depends on the tokens are the ids themselves
(`Scripted.runs_alike`): there is one renaming under which every call of the one run is the same
call of the other one, answers and faults and all.

The renaming is there before the runs are compared. It takes what the one run draws to what the
other run draws, in order, and it does so for the ids of edges as well, which is possible as ids of
the shape that new nodes get are told by the ids of their edges.
-/

namespace FlowCanvas

open Text

/-! ### Runs of scripts -/

/-- A session with the ids of all nodes and of all edges that it has had, in the order in which they
came. -/
structure Scripted (α : Type) where
  /-- the session -/
  session : Session α
  /-- the ids of its nodes -/
  nodes : List String
  /-- the ids of its edges -/
  edges : List String

namespace Scripted

/-- What a numeral stands for, or the empty text, which is no id, if that has not come yet. -/
def named (ids : List String) (numeral : String) : String :=
  ids.getD (digitsValue numeral.toList) ""

/-- The ids that have come. -/
def newcomers (before after : List String) : List String :=
  after.filter fun id => !before.contains id

variable {α : Type}

/-- A session at the beginning of a script. -/
def of (s : Session α) : Scripted α :=
  ⟨s, s.editor.graph.nodes.map Node.id, s.editor.graph.edges.map Edge.id⟩

/-- What the numerals of a script stand for. -/
def ids (x : Scripted α) : Renaming := ⟨named x.nodes, named x.edges⟩

/-- What a script has come to when the session has become another one. -/
def follow (x : Scripted α) (s : Session α) : Scripted α where
  session := s
  nodes := x.nodes ++
    newcomers (x.session.editor.graph.nodes.map Node.id) (s.editor.graph.nodes.map Node.id)
  edges := x.edges ++
    newcomers (x.session.editor.graph.edges.map Edge.id) (s.editor.graph.edges.map Edge.id)

variable [Scalar α] [StateFormat α]

/-- One call of a script. -/
def run (x : Scripted α) (c : Call α) : Outcome (Scripted α) (EditorFault α) (Answer α) :=
  (x.session.run (c.renamed x.ids)).mapState x.follow

/-- What the calls of a script come to, one after the other. -/
def trace : Scripted α → List (Call α) → List (Outcome (Scripted α) (EditorFault α) (Answer α))
  | _, [] => []
  | x, c :: script => x.run c :: trace (x.run c).state script

/-- The ids that a script draws for new nodes. -/
def drawn : Scripted α → List (Call α) → List String
  | _, [] => []
  | x, c :: script =>
    (x.session.drawnId? (c.renamed x.ids)).toList ++ drawn (x.run c).state script

/-- Two calls that come to the same up to ids. -/
abbrev RunAlike (σ : Renaming) (o o' : Outcome (Scripted α) (EditorFault α) (Answer α)) : Prop :=
  o.Alike (fun x y => Session.ShowsAs σ x.session y.session) (fun r r' => r' = r.renamed σ)
    (fun a a' => a' = a.renamed σ) o'

/-! ### Numerals -/

theorem named_map {r : String → String} (hr : r "" = "") (ids : List String) (numeral : String) :
    named (ids.map r) numeral = r (named ids numeral) := by
  have found := List.getD_map (d := "") (l := ids) (n := digitsValue numeral.toList) r
  rwa [hr] at found

theorem newcomers_map {r : String → String} (hr : Function.Injective r)
    (before after : List String) :
    newcomers (before.map r) (after.map r) = (newcomers before after).map r := by
  have same (id : String) : (before.map r).contains (r id) = before.contains id := by
    simp [hr.eq_iff]
  simp only [newcomers, List.filter_map, Function.comp_def, same]

/-! ### Runs that are one up to ids -/

/-- Two runs that are one up to ids so far. -/
structure Mirrors (σ : Renaming) (known : List String) (x y : Scripted α) : Prop where
  /-- the sessions -/
  session : x.session.Mirrors σ known y.session
  /-- the ids of nodes -/
  nodes : y.nodes = x.nodes.map σ.node
  /-- the ids of edges -/
  edges : y.edges = x.edges.map σ.edge

/-- A renaming for two runs, which takes the ids that the one draws to those that the other draws
and leaves alone the empty text. -/
structure Pairs (σ : Renaming) (known : List String) (pairs : List (String × String)) : Prop
    extends σ.Serves known where
  /-- no node has the empty text as its id -/
  no_node : σ.node "" = ""
  /-- no edge has it -/
  no_edge : σ.edge "" = ""
  /-- what is drawn -/
  pair : ∀ p ∈ pairs, p.1 ∈ known ∧ σ.node p.1 = p.2

namespace Mirrors

variable {σ : Renaming} {known : List String} {x y : Scripted α}

omit [Scalar α] [StateFormat α] in
/-- The numerals stand for ids that go together. -/
theorem call (h : Mirrors σ known x y) (node : σ.node "" = "") (edge : σ.edge "" = "")
    (c : Call α) : c.renamed y.ids = (c.renamed x.ids).renamed σ := by
  refine c.renamed_renamed (fun id => ?_) fun id => ?_
  · simp only [ids, h.nodes, named_map node]
  · simp only [ids, h.edges, named_map edge]

omit [Scalar α] [StateFormat α] in
theorem follow (h : Mirrors σ known x y) (faithful : σ.IsFaithful) {s t : Session α}
    (next : s.Mirrors σ known t) : Mirrors σ known (x.follow s) (y.follow t) where
  session := next
  nodes := by
    have came := newcomers_map faithful.node (x.session.editor.graph.nodes.map Node.id)
      (s.editor.graph.nodes.map Node.id)
    simp only [Scripted.follow, h.nodes, h.session.editor.graph, next.editor.graph,
      Graph.renamed_nodes, List.map_append, ← came, List.map_map]
    rfl
  edges := by
    have came := newcomers_map faithful.edge (x.session.editor.graph.edges.map Edge.id)
      (s.editor.graph.edges.map Edge.id)
    simp only [Scripted.follow, h.edges, h.session.editor.graph, next.editor.graph,
      Graph.renamed_edges, List.map_append, ← came, List.map_map]
    rfl

/-- One call of a script. -/
theorem run (h : Mirrors σ known x y) {pairs : List (String × String)} (go : Pairs σ known pairs)
    (c : Call α) (drawn : ∀ p ∈ (x.session.drawnId? (c.renamed x.ids)).toList.zip
      (y.session.drawnId? (c.renamed y.ids)).toList, p ∈ pairs) :
    (x.run c).Alike (Mirrors σ known) (fun r r' => r' = r.renamed σ)
      (fun a a' => a' = a.renamed σ) (y.run c) := by
  have call := h.call go.no_node go.no_edge c
  have both := h.session.isSome_drawnId? (c.renamed x.ids)
  unfold Scripted.run
  rw [call] at drawn ⊢
  refine (h.session.run go.toServes (c.renamed x.ids) ?_ ?_).mapState
    fun _ _ => h.follow go.toIsFaithful
  · -- both draw an id or neither does, and two ids that are drawn go together
    cases hx : x.session.drawnId? (c.renamed x.ids) with
    | none => simpa [hx] using both
    | some id =>
      cases hy : y.session.drawnId? ((c.renamed x.ids).renamed σ) with
      | none => simp [hx, hy] at both
      | some id' =>
        have drawn := drawn (id, id') (by simp [hx, hy])
        exact congrArg some (go.pair _ drawn).2.symm
  · intro id hid
    obtain ⟨id', hy⟩ := Option.isSome_iff_exists.mp (both.trans (Option.isSome_of_mem hid))
    have drawn := drawn (id, id') (by simp [Option.mem_def.mp hid, hy])
    exact (go.pair _ drawn).1

/-- **Runs that are one up to ids stay so**, if what they draw goes together. -/
theorem trace {pairs : List (String × String)} (go : Pairs σ known pairs) :
    ∀ {script : List (Call α)} {x y : Scripted α}, Mirrors σ known x y →
      (∀ p ∈ (x.drawn script).zip (y.drawn script), p ∈ pairs) →
      List.Forall₂ (RunAlike σ) (x.trace script) (y.trace script)
  | [], _, _, _, _ => .nil
  | c :: script, x, y, h, drawn => by
    have both := h.session.isSome_drawnId? (c.renamed x.ids)
    rw [← h.call go.no_node go.no_edge] at both
    have length : (x.session.drawnId? (c.renamed x.ids)).toList.length =
        (y.session.drawnId? (c.renamed y.ids)).toList.length := by
      rw [Option.length_toList, Option.length_toList, both]
    simp only [Scripted.drawn, List.zip_append length, List.forall_mem_append] at drawn
    have called := h.run go c drawn.1
    exact .cons ⟨called.state.session.showsAs go.toIsFaithful, called.answer⟩
      (trace go called.state drawn.2)

end Mirrors

/-! ### The renaming of two runs -/

/-- Texts that go together, by a renaming that leaves the empty text alone. -/
theorem exists_renaming {ι : Type} [Finite ι] {f g : ι → String} (hf : Function.Injective f)
    (hg : Function.Injective g) (hf_ne : ∀ i, f i ≠ "") (hg_ne : ∀ i, g i ≠ "") :
    ∃ r : String → String, Function.Injective r ∧ r "" = "" ∧ ∀ i, r (f i) = g i := by
  have extend (f : ι → String) (hf : Function.Injective f) (ne : ∀ i, f i ≠ "") :
      Function.Injective fun i : Option ι => (i.map f).getD "" := by
    rintro (- | i) (- | j) h
    · rfl
    · exact absurd h.symm (ne j)
    · exact absurd h (ne i)
    · exact congrArg some (hf h)
  obtain ⟨r, hr⟩ := Equiv.Perm.exists_extending_pair _ _ (extend f hf hf_ne) (extend g hg hg_ne)
  exact ⟨r, r.injective, hr none, fun i => hr (some i)⟩

/-- Ids that tell the nodes, and whose edges tell their ends. -/
structure AreHandles (ids : List String) : Prop where
  /-- they are pairwise different -/
  nodup : ids.Nodup
  /-- they have one dash -/
  dash : ∀ id ∈ ids, Graph.OneDash id

/-- The ids that are drawn, with that of the START that is there from the beginning. -/
theorem AreHandles.of_generated {ids : List String} (distinct : ids.Nodup)
    (generated : ∀ id ∈ ids, Graph.IsGenerated id) : AreHandles ("start-1" :: ids) where
  nodup := by
    refine List.nodup_cons.mpr ⟨fun h => ?_, distinct⟩
    exact absurd (generated _ h) (by decide)
  dash := List.forall_mem_cons.mpr ⟨Graph.oneDash_initial, fun id h => (generated id h).oneDash⟩

namespace AreHandles

variable {pairs : List (String × String)} {side : String × String → String}

theorem node (h : AreHandles (pairs.map side)) :
    Function.Injective fun p : {p // p ∈ pairs} => side p.1 := fun p q same =>
  Subtype.ext (List.inj_on_of_nodup_map h.nodup p.2 q.2 same)

theorem edge (h : AreHandles (pairs.map side)) :
    Function.Injective fun x : {p // p ∈ pairs} × {p // p ∈ pairs} =>
      Graph.edgeId (side x.1.1) (side x.2.1) := by
  intro x y same
  have dash (p : {p // p ∈ pairs}) := h.dash (side p.1) (List.mem_map_of_mem p.2)
  obtain ⟨source, target⟩ := Graph.edgeId_injective (dash x.1) (dash y.1) same
  exact Prod.ext (h.node source) (h.node target)

theorem ne_empty (h : AreHandles (pairs.map side)) (p : {p // p ∈ pairs}) : side p.1 ≠ "" :=
  (h.dash _ (List.mem_map_of_mem p.2)).ne_empty

end AreHandles

/-- **There is a renaming for two runs** that draw each id once, for the pairs of what they draw. -/
theorem exists_pairs {pairs : List (String × String)} (left : AreHandles (pairs.map Prod.fst))
    (right : AreHandles (pairs.map Prod.snd)) (start : ("start-1", "start-1") ∈ pairs) :
    ∃ σ, Pairs σ (pairs.map Prod.fst) pairs := by
  obtain ⟨r, hr, no_node, nodes⟩ :=
    exists_renaming left.node right.node left.ne_empty right.ne_empty
  obtain ⟨e, he, no_edge, edges⟩ := exists_renaming left.edge right.edge
    (fun _ => Graph.edgeId_ne_empty _ _) fun _ => Graph.edgeId_ne_empty _ _
  refine ⟨⟨r, e⟩, {
    node := hr
    edge := he
    fits := fun s hs t ht => ?_
    start := nodes ⟨_, start⟩
    start_mem := List.mem_map_of_mem start
    no_node := no_node
    no_edge := no_edge
    pair := fun p hp => ⟨List.mem_map_of_mem hp, nodes ⟨p, hp⟩⟩ }⟩
  obtain ⟨p, hp, rfl⟩ := List.mem_map.mp hs
  obtain ⟨q, hq, rfl⟩ := List.mem_map.mp ht
  have ends := congrArg₂ Graph.edgeId (nodes ⟨p, hp⟩) (nodes ⟨q, hq⟩)
  exact (edges (⟨p, hp⟩, ⟨q, hq⟩)).trans ends.symm

theorem map_fst_zip_sublist {β γ : Type} :
    ∀ (l : List β) (l' : List γ), ((l.zip l').map Prod.fst).Sublist l
  | [], _ => List.Sublist.slnil
  | _ :: _, [] => List.nil_sublist _
  | b :: l, _ :: l' => (map_fst_zip_sublist l l').cons_cons b

theorem map_snd_zip_sublist {β γ : Type} (l : List β) (l' : List γ) :
    ((l.zip l').map Prod.snd).Sublist l' := by
  rw [← List.zip_swap l' l, List.map_map]
  exact map_fst_zip_sublist l' l

theorem AreHandles.sublist {ids ids' : List String} (h : AreHandles ids) (sub : ids'.Sublist ids) :
    AreHandles ids' :=
  ⟨h.nodup.sublist sub, fun id hid => h.dash id (sub.subset hid)⟩

/-! ### The two runs -/

variable {α : Type} [Scalar α] [StateFormat α]

omit [StateFormat α] in
/-- Two runs begin alike, whatever their tokens are. -/
theorem mirrors_of {σ : Renaming} {known : List String} (serves : σ.Serves known)
    {setup : Setup α} (blind : setup.dispatcher.IsBlind) (tokens tokens' : Tokens) :
    Mirrors σ known (of (Session.start { setup with tokens := tokens } Graph.initial))
      (of (Session.start { setup with tokens := tokens' } Graph.initial)) := by
  have graph : (Graph.initial : Graph α).syncEntry = Graph.initial.syncEntry.renamed σ := by
    rw [Graph.initial_syncEntry, serves.renamed_initial]
  have knows : (Graph.initial : Graph α).syncEntry.Knows known := .initial serves.start_mem
  refine ⟨⟨⟨graph, knows, rfl, rfl, blind.mirrors, rfl⟩, rfl⟩, ?_, rfl⟩
  exact congrArg (fun id => [id]) serves.start.symm

/-- **The ids of new nodes leave no trace.** A script is run twice from a fresh canvas with
different tokens. If each run draws ids as new nodes get them, and none twice, then the runs are the
same but for the ids: every call is accepted in both or fails in both for the same reason, and after
it both show the same graph, code, control points and paths. -/
theorem runs_alike (setup : Setup α) (blind : setup.dispatcher.IsBlind) (tokens tokens' : Tokens)
    (script : List (Call α)) :
    let x := of (Session.start { setup with tokens := tokens } Graph.initial)
    let y := of (Session.start { setup with tokens := tokens' } Graph.initial)
    (x.drawn script).Nodup → (∀ id ∈ x.drawn script, Graph.IsGenerated id) →
    (y.drawn script).Nodup → (∀ id ∈ y.drawn script, Graph.IsGenerated id) →
      ∃ σ : Renaming, σ.IsFaithful ∧
        List.Forall₂ (RunAlike σ) (x.trace script) (y.trace script) := by
  intro x y distinct generated distinct' generated'
  -- the START that is there from the beginning goes with itself
  let pairs := ("start-1", "start-1") :: (x.drawn script).zip (y.drawn script)
  have left : AreHandles (pairs.map Prod.fst) :=
    (AreHandles.of_generated distinct generated).sublist ((map_fst_zip_sublist _ _).cons_cons _)
  have right : AreHandles (pairs.map Prod.snd) :=
    (AreHandles.of_generated distinct' generated').sublist ((map_snd_zip_sublist _ _).cons_cons _)
  obtain ⟨σ, go⟩ := exists_pairs left right (List.mem_cons_self ..)
  exact ⟨σ, go.toIsFaithful, (mirrors_of go.toServes blind tokens tokens').trace go
    fun p hp => List.mem_cons_of_mem _ hp⟩

/-- Two nodes and two edges, with ids that have nothing in common but their categories. The node
that is to be removed has not come yet, so that call is refused in both runs. -/
theorem runs_alike_branching :
    let setup : Setup Number := ⟨none, some (.inMemory none .standard),
      .of [ProcessorKind.recording.processor] true, none, .counting⟩
    let tokens : Tokens := ⟨fun n => ["cafe0123", "beef4567"].getD n "", 0⟩
    let script : List (Call Number) := [.addNode "action" none (some "Fetch"),
      .addNode "conditional_branch" none none, .connect "0" "1", .connect "1" "2",
      .removeNodes ["3"], .pinControl "1" ⟨.whole 10, .whole 20⟩]
    let x := of (Session.start { setup with tokens := .counting } Graph.initial)
    let y := of (Session.start { setup with tokens := tokens } Graph.initial)
    setup.dispatcher.IsBlind ∧ x.drawn script = ["action-00000001", "conditional_branch-00000002"] ∧
      y.drawn script = ["action-cafe0123", "conditional_branch-beef4567"] ∧
      ((x.trace script).map fun o => o.answer.isOk) = [true, true, true, true, false, true] ∧
      ∃ σ : Renaming, σ.IsFaithful ∧
        List.Forall₂ (RunAlike σ) (x.trace script) (y.trace script) := by
  intro setup tokens script x y
  have blind : setup.dispatcher.IsBlind := fun _ p hp => by
    rw [List.mem_singleton.mp hp]
    exact ProcessorKind.isBlind .recording
  have left : x.drawn script = ["action-00000001", "conditional_branch-00000002"] := by decide
  have right : y.drawn script = ["action-cafe0123", "conditional_branch-beef4567"] := by decide
  refine ⟨blind, left, right, by decide, runs_alike setup blind .counting tokens script ?_ ?_ ?_ ?_⟩
  · exact left ▸ (by decide)
  · exact left ▸ (by decide)
  · exact right ▸ (by decide)
  · exact right ▸ (by decide)

end Scripted

end FlowCanvas

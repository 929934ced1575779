import FlowCanvas.Proofs.Drag.Delivery
import FlowCanvas.Proofs.Editor.Plan
import FlowCanvas.Proofs.Editor.Refusal
import FlowCanvas.Session.Call

/-!
# What a call makes of the graph

Whatever is asked of a session, its graph afterwards is the one before or comes from it by one of
nine edits, each with the guards that the call has passed (`Graph.Edited`, `Session.run_graph`). A
call that fails while it saves or tells the processors has made its edit all the same, so the answer
of the call does not matter here.

The one thing that an edit takes from outside the graph is the id of a new node. A history draws its
ids from a condition `Q` if every drawn id satisfies `Q` in the graph that it is drawn for
(`Session.Draws`), and what every edit keeps under that condition, every history keeps
(`Session.after_induction`).
-/

namespace FlowCanvas

universe u v w

/-! ### Edits with their guards -/

/-- What one edit makes of a graph, before the entry point is derived anew; the edit may bring the
id of a new node. -/
inductive Graph.Edited {α : Type u} [Scalar α] (g : Graph α) : Option String → Graph α → Prop where
  /-- a node is added -/
  | addNode {c : Category} {id label : String} {text : Option String}
      (position : Option (Point α)) :
      g.isTaken c = false → Graph.newLabel c id text = .ok label →
      Edited g (some id) (g.addNode (g.newNode c id label position))
  /-- a node gets another label -/
  | renameNode {n : Node α} {label : String} :
      g.node? n.id = some n → n.category.isTerminal = false → label ≠ "" →
      Edited g none (g.setNode { n with
        label := label
        identifier := Identifier.ofLabel label g.nodes (some n.id) none })
  /-- a node is moved -/
  | moveNode {n : Node α} (position : Point α) :
      g.node? n.id = some n →
      Edited g none ((g.setNode { n with position := position }).recenter (some [n.id]))
  /-- nodes are removed -/
  | removeNodes {ids : List String} :
      (∀ id ∈ ids, g.has id = true) → Edited g none (g.removeNodes ids)
  /-- an edge is drawn -/
  | connect {s t : Node α} :
      g.node? s.id = some s → g.node? t.id = some t → s.category ≠ .stop → t.category ≠ .start →
      g.between s.id t.id = [] →
      Edited g none ((g.addEdge (Graph.newEdge s.id t.id)).recenter (some [s.id, t.id]))
  /-- edges are removed -/
  | removeEdges {ids : List String} :
      (∀ id ∈ ids, ∃ e ∈ g.edges, e.id = id) → Edited g none (g.removeEdges ids)
  /-- the control point of an edge is pinned -/
  | pinControl {e : Edge α} (point : Point α) :
      g.edge? e.id = some e →
      Edited g none (g.setEdge { e with control := some point, pinned := true })
  /-- the graph gets a name -/
  | setName (raw : String) : Edited g none (g.rename (Identifier.ofGraphName raw))
  /-- the canvas is cleared -/
  | reset : Edited g none Graph.initial

/-! ### Plans make edits -/

namespace Graph

variable {α : Type u} [Scalar α]

theorem edited_of_planAdd {g : Graph α} {c : Category} {id : String} {position : Option (Point α)}
    {text : Option String} {p : Plan α (Node α)} {ch : Change α} (hfree : g.isTaken c = false)
    (h : g.planAdd c id position text = .ok p) (hch : p.change = some ch) :
    g.Edited (some id) ch.graph := by
  obtain ⟨label, hlabel, rfl⟩ := planAdd_eq_ok h
  obtain rfl := Option.some.inj hch
  exact .addNode position hfree hlabel

theorem edited_of_planRename {g : Graph α} {id text : String} {p : Plan α (Node α)}
    {ch : Change α} (h : g.planRename id text = .ok p) (hch : p.change = some ch) :
    g.Edited none ch.graph := by
  obtain ⟨n, label, -, hfound, hterminal, hlabel, rfl⟩ := planRename_eq_ok h
  obtain rfl := Option.some.inj hch
  exact .renameNode hfound hterminal (requireLabel_eq_ok hlabel)

theorem edited_of_planMove {g : Graph α} {id : String} {position : Point α}
    {p : Plan α (Node α)} {ch : Change α} (h : g.planMove id position = .ok p)
    (hch : p.change = some ch) : g.Edited none ch.graph := by
  obtain ⟨n, -, hfound, rfl⟩ := planMove_eq_ok h
  obtain rfl := Option.some.inj hch
  exact .moveNode position hfound

theorem edited_of_planRemoveNodes {g : Graph α} {ids : List String} {p : Plan α Unit}
    {ch : Change α} (h : g.planRemoveNodes ids = .ok p) (hch : p.change = some ch) :
    g.Edited none ch.graph := by
  obtain ⟨hids, rfl⟩ := planRemoveNodes_eq_ok h
  obtain rfl := Option.some.inj hch
  exact .removeNodes hids

theorem edited_of_planConnect {g : Graph α} {source target : String} {p : Plan α (Edge α)}
    {ch : Change α} (h : g.planConnect source target = .ok p) (hch : p.change = some ch) :
    g.Edited none ch.graph := by
  obtain ⟨s, t, -, -, hsource, htarget, hstop, hstart, ⟨_, _, -, rfl⟩ | ⟨hnone, rfl⟩⟩ :=
    planConnect_eq_ok h
  · -- the edge is there already, so nothing is changed
    cases hch
  · obtain rfl := Option.some.inj hch
    exact .connect hsource htarget hstop hstart hnone

theorem edited_of_planRemoveEdges {g : Graph α} {ids : List String} {p : Plan α Unit}
    {ch : Change α} (h : g.planRemoveEdges ids = .ok p) (hch : p.change = some ch) :
    g.Edited none ch.graph := by
  obtain ⟨hids, rfl⟩ := planRemoveEdges_eq_ok h
  obtain rfl := Option.some.inj hch
  exact .removeEdges hids

theorem edited_of_planPin {g : Graph α} {id : String} {point : Point α} {p : Plan α (Edge α)}
    {ch : Change α} (h : g.planPin id point = .ok p) (hch : p.change = some ch) :
    g.Edited none ch.graph := by
  obtain ⟨e, -, hfound, rfl⟩ := planPin_eq_ok h
  obtain rfl := Option.some.inj hch
  exact .pinControl point hfound

/-- The graph after a call: the one before, or an edit of it with the entry point derived anew. -/
def Becomes (g : Graph α) (drawn : Option String) (g' : Graph α) : Prop :=
  g' = g ∨ ∃ h, g.Edited drawn h ∧ g' = h.syncEntry

theorem Becomes.refl (g : Graph α) (drawn : Option String) : g.Becomes drawn g := .inl rfl

theorem Edited.becomes {g h : Graph α} {drawn : Option String} (he : g.Edited drawn h) :
    g.Becomes drawn h.syncEntry := .inr ⟨h, he, rfl⟩

end Graph

/-! ### Editors -/

namespace Editor

variable {α : Type}

variable [StateFormat α]

theorem save_graph (e : Editor α) : e.save.state.graph = e.graph := by
  unfold save
  split <;> rfl

/-- Saving and telling leave the graph alone, whether or not they fail. -/
theorem save_andThen_announce_graph (e : Editor α) (event : Editor α → Event α) :
    (e.save.andThen fun e _ => e.announce (event e)).state.graph = e.graph :=
  Outcome.andThen_induction (P := fun d : Editor α => d.graph = e.graph) e.save_graph fun _ h => h

theorem commit_graph (e : Editor α) (c : Change α) :
    (e.commit c).state.graph = c.graph.syncEntry :=
  (e.put c.graph.syncEntry).save_andThen_announce_graph _

variable [Scalar α]

theorem reset_graph (e : Editor α) : e.reset.state.graph = Graph.initial :=
  (e.put Graph.initial).save_andThen_announce_graph _

/-- A plan whose changes are edits makes an edit when it is carried out. -/
theorem carryOut_becomes {β : Type} (e : Editor α) {plan : Except Rejection (Plan α β)}
    {drawn : Option String}
    (h : ∀ p ch, plan = .ok p → p.change = some ch → e.graph.Edited drawn ch.graph) :
    e.graph.Becomes drawn (e.carryOut plan).state.graph := by
  rcases plan with r | ⟨_ | ch, b⟩
  · exact .refl _ _
  · exact .refl _ _
  · have hgraph : (e.carryOut (.ok ⟨some ch, b⟩)).state.graph = ch.graph.syncEntry :=
      e.commit_graph ch
    rw [hgraph]
    exact (h _ ch rfl rfl).becomes

/-- The id that a new node of a named category gets, unless it is refused before one is drawn. -/
def drawnId? (e : Editor α) (category : String) : Option String :=
  (Category.ofName? category).bind fun c =>
    if e.graph.isTaken c then none else some (Graph.newId c e.tokens.next)

omit [StateFormat α] [Scalar α] in
theorem drawnId?_of_free {e : Editor α} {category : String} {c : Category}
    (named : Category.ofName? category = some c) (free : e.graph.isTaken c = false) :
    e.drawnId? category = some (Graph.newId c e.tokens.next) := by
  rw [drawnId?, named, Option.bind_some, free]
  rfl

theorem addNode_becomes (e : Editor α) (category : String) (position : Option (Point α))
    (label : Option String) :
    e.graph.Becomes (e.drawnId? category) (e.addNode category position label).state.graph := by
  rcases e.addNode_cases category position label with ⟨f, -, ends⟩ | ⟨c, named, free, ends⟩
  · rw [ends]
    exact .refl _ _
  · rw [ends, drawnId?_of_free named free]
    exact carryOut_becomes { e with tokens := e.tokens.draw } fun p ch hp hch =>
      Graph.edited_of_planAdd free hp hch

theorem pinControl_becomes (e : Editor α) (id : String) (point : Point α) :
    e.graph.Becomes none (e.pinControl id point).state.graph :=
  e.carryOut_becomes fun _ _ => Graph.edited_of_planPin

/-! ### Pointer events -/

theorem release_becomes (e : Editor α) (c : Controller α) :
    e.graph.Becomes none (host.release e c).state.1.graph := by
  obtain ⟨drag, source⟩ := c
  cases drag with
  | none => exact .refl _ _
  | some d => exact e.pinControl_becomes d.edge d.live

theorem push_becomes (event : PointerEvent α) (e : Editor α) (c : Controller α) :
    e.graph.Becomes none (host.push event (e, c)).state.1.graph := by
  rw [DragHost.push_eq]
  split
  · exact .refl _ _
  · cases event with
    | down edge screen =>
      rw [DragHost.handle_down]
      split <;> exact .refl _ _
    | move screen =>
      rw [DragHost.handle_move]
      split <;> exact .refl _ _
    | up screen =>
      rw [DragHost.handle_up]
      exact e.release_becomes c

end Editor

/-! ### Sessions -/

namespace Session

variable {α : Type} [Scalar α] [StateFormat α]

/-- The id that a call draws for a new node, if it draws one. -/
def drawnId? (s : Session α) : Call α → Option String
  | .addNode category _ _ => s.editor.drawnId? category
  | _ => none

/-- **A call makes at most one edit of the graph**, whether it is accepted or refused. -/
theorem run_graph (s : Session α) (c : Call α) :
    s.graph.Becomes (s.drawnId? c) (s.run c).state.graph := by
  cases c with
  | addNode category position label => exact s.editor.addNode_becomes category position label
  | renameNode node text => exact s.editor.carryOut_becomes fun _ _ => Graph.edited_of_planRename
  | moveNode node position => exact s.editor.carryOut_becomes fun _ _ => Graph.edited_of_planMove
  | removeNodes nodes => exact s.editor.carryOut_becomes fun _ _ => Graph.edited_of_planRemoveNodes
  | connect source target => exact s.editor.carryOut_becomes fun _ _ => Graph.edited_of_planConnect
  | removeEdges edges => exact s.editor.carryOut_becomes fun _ _ => Graph.edited_of_planRemoveEdges
  | pinControl edge point => exact s.editor.pinControl_becomes edge point
  | setName raw =>
    refine s.editor.carryOut_becomes fun p ch hp hch => ?_
    obtain rfl := Except.ok.inj hp
    obtain rfl := Option.some.inj hch
    exact .setName raw
  | reset =>
    refine .inr ⟨Graph.initial, .reset, ?_⟩
    rw [Graph.initial_syncEntry]
    exact s.editor.reset_graph
  | close => exact .refl _ _
  | setViewport x y zoom =>
    refine .inl ?_
    simp only [run, edit, graph, Outcome.map_state, Outcome.mapState_state, Editor.setViewport]
    split <;> rfl
  | beginDrag edge screen =>
    refine .inl ?_
    simp only [run, graph, Outcome.map_state, beginDrag]
    split
    · rfl
    · split <;> rfl
  | moveDrag screen =>
    refine .inl ?_
    simp only [run, graph, Outcome.map_state, moveDrag]
    split <;> rfl
  | releaseDrag => exact s.editor.release_becomes s.controller
  | push event => exact Editor.push_becomes event s.editor s.controller

/-- A history draws its ids from `Q`: each of them satisfies `Q` in the graph that it is drawn for.
-/
def Draws (Q : Graph α → String → Prop) (s : Session α) : List (Call α) → Prop
  | [] => True
  | c :: calls => (∀ id ∈ s.drawnId? c, Q s.graph id) ∧ Draws Q (s.run c).state calls

instance decidableDraws {Q : Graph α → String → Prop} [∀ g id, Decidable (Q g id)] :
    ∀ (s : Session α) (calls : List (Call α)), Decidable (s.Draws Q calls)
  | _, [] => .isTrue trivial
  | s, c :: calls =>
    @instDecidableAnd _ _ inferInstance (decidableDraws (s.run c).state calls)

@[simp] theorem after_nil (s : Session α) : s.after [] = s := rfl

@[simp] theorem after_cons (s : Session α) (c : Call α) (calls : List (Call α)) :
    s.after (c :: calls) = (s.run c).state.after calls := rfl

theorem Draws.of_isPrefix {Q : Graph α → String → Prop} :
    ∀ {calls done : List (Call α)} {s : Session α}, s.Draws Q calls → done <+: calls →
      s.Draws Q done
  | _, [], _, _, _ => trivial
  | [], _ :: _, _, _, h => absurd (List.prefix_nil.mp h) (List.cons_ne_nil _ _)
  | c :: calls, d :: done, s, hdraws, h => by
    obtain ⟨rfl, hrest⟩ := List.cons_prefix_cons.mp h
    exact ⟨hdraws.1, hdraws.2.of_isPrefix hrest⟩

/-- **Histories keep what edits keep.** -/
theorem after_induction {P : Graph α → Prop} {Q : Graph α → String → Prop}
    (sync : ∀ g, P g → P g.syncEntry)
    (edit : ∀ g drawn h, (∀ id ∈ drawn, Q g id) → g.Edited drawn h → P g → P h) :
    ∀ (calls : List (Call α)) (s : Session α), P s.graph → s.Draws Q calls →
      P (s.after calls).graph := by
  intro calls
  induction calls with
  | nil =>
    intro s hs _
    exact hs
  | cons c calls ih =>
    intro s hs hdraws
    obtain ⟨hdrawn, hrest⟩ := hdraws
    refine ih (s.run c).state ?_ hrest
    rcases s.run_graph c with hgraph | ⟨h, hedit, hgraph⟩
    · rw [hgraph]
      exact hs
    · rw [hgraph]
      exact sync h (edit s.graph _ h hdrawn hedit hs)

end Session

end FlowCanvas

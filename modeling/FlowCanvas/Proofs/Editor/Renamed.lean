import FlowCanvas.Proofs.Graph.Identifier
import FlowCanvas.Proofs.Graph.Renamed
import FlowCanvas.Proofs.Editor.Commit
import FlowCanvas.Proofs.Editor.Plan
import FlowCanvas.Proofs.Event.Blind
import FlowCanvas.Proofs.Store.Shape

/-!
# Editors under other ids

An edit that is asked for by id is the same edit under other ids: it is refused for the same reason
with the new id in it, or it comes to the same plan (`Plan.Mirrors`, `Graph.planConnect_mirrors` and
its kin). So two editors whose graphs are one up to ids, with stores of one shape and with
processors that do not look at ids, stay so and answer alike (`Editor.Mirrors.carryOut`).

Of all that an editor hands out only three things show ids: the nodes and edges that it answers, its
faults, and what it tells its processors.
-/

namespace FlowCanvas

universe u v

/-! ### Refusals -/

/-- A refusal under other ids. -/
def Rejection.renamed (σ : Renaming) : Rejection → Rejection
  | duplicateTerminal c => duplicateTerminal c
  | emptyLabel node => emptyLabel (σ.node node)
  | renameNotAllowed node c => renameNotAllowed (σ.node node) c
  | unknownNode node => unknownNode (σ.node node)
  | unknownEdge edge => unknownEdge (σ.edge edge)
  | leavesStop => leavesStop
  | entersStart => entersStart

/-- A fault of the controller of drags under other ids. -/
def DragFault.renamed {α : Type u} (σ : Renaming) : DragFault α → DragFault α
  | busy edge current => busy (σ.edge edge) (σ.edge current)
  | pressed edge => pressed (σ.edge edge)
  | badZoom fault => badZoom fault

/-- A fault under other ids. -/
def EditorFault.renamed {α : Type} (σ : Renaming) : EditorFault α → EditorFault α
  | rejected cause => rejected (cause.renamed σ)
  | drag fault => drag (fault.renamed σ)
  | fault => fault

/-! ### Plans -/

/-- A plan, and what it is under other ids; the answer is renamed by `f`. -/
inductive Plan.Mirrors {α : Type u} {β : Type v} (σ : Renaming) (f : β → β) :
    Except Rejection (Plan α β) → Except Rejection (Plan α β) → Prop where
  /-- it is refused -/
  | refused (r : Rejection) : Mirrors σ f (.error r) (.error (r.renamed σ))
  /-- it only answers -/
  | idle (b : β) : Mirrors σ f (.ok ⟨none, b⟩) (.ok ⟨none, f b⟩)
  /-- it has a change to make -/
  | change (g : Graph α) (action : String) (subject subject' : Option String) (b : β) :
    Mirrors σ f (.ok ⟨some ⟨g, action, subject⟩, b⟩)
      (.ok ⟨some ⟨g.renamed σ, action, subject'⟩, f b⟩)

theorem Plan.Mirrors.of_change {α : Type u} {β : Type v} {σ : Renaming} {f : β → β}
    {g g' : Graph α} {b b' : β} (hg : g' = g.renamed σ) (hb : b' = f b) (action : String)
    (subject subject' : Option String) :
    Mirrors σ f (.ok ⟨some ⟨g, action, subject⟩, b⟩) (.ok ⟨some ⟨g', action, subject'⟩, b'⟩) := by
  subst hg hb
  exact .change g action subject subject' b

namespace Graph

variable {α : Type u} {σ : Renaming} (h : σ.IsFaithful) (g : Graph α)

/-- A result under other ids. -/
def renamedResult {β : Type v} (σ : Renaming) (f : β → β) (x : Except Rejection β) :
    Except Rejection β :=
  (x.map f).mapError (Rejection.renamed σ)

include h

theorem requireNode_renamed (id : String) : (g.renamed σ).requireNode (σ.node id) =
    renamedResult σ (Node.renamed σ) (g.requireNode id) := by
  rw [requireNode, node?_renamed h, requireNode]
  cases g.node? id <;> rfl

theorem requireEdge_renamed (id : String) : (g.renamed σ).requireEdge (σ.edge id) =
    renamedResult σ (Edge.renamed σ) (g.requireEdge id) := by
  rw [requireEdge, edge?_renamed h, requireEdge]
  cases g.edge? id <;> rfl

omit h in
theorem requireLabel_renamed (node text : String) : requireLabel (σ.node node) text =
    renamedResult σ id (requireLabel node text) := by
  unfold requireLabel
  simp only
  split <;> rfl

omit h in
/-- Things that are required one after the other. -/
theorem mapM_renamed {β : Type v} {f : β → β} {find find' : String → Except Rejection β}
    {r : String → String} (hfind : ∀ id, find' (r id) = renamedResult σ f (find id)) :
    ∀ ids : List String, (ids.map r).mapM find' = renamedResult σ (List.map f) (ids.mapM find)
  | [] => rfl
  | id :: ids => by
    rw [List.map_cons, List.mapM_cons, List.mapM_cons, hfind, mapM_renamed hfind ids]
    cases find id with
    | error r => rfl
    | ok b => cases ids.mapM find <;> rfl

theorem planRename_mirrors (id text : String) : Plan.Mirrors σ (Node.renamed σ)
    (g.planRename id text) ((g.renamed σ).planRename (σ.node id) text) := by
  rw [planRename, planRename, requireNode_renamed h]
  cases g.requireNode id with
  | error r => exact .refused r
  | ok n =>
    change Plan.Mirrors σ _ (if n.category.isTerminal then _ else _ : Except Rejection _)
      (if n.category.isTerminal then _ else _ : Except Rejection _)
    split
    · exact .refused _
    · rw [requireLabel_renamed]
      cases requireLabel id text with
      | error r => exact .refused r
      | ok label =>
        -- identifiers do not depend on ids, so the node gets the same one under its other id
        let renamed : Node α :=
          { n with label := label, identifier := Identifier.ofLabel label g.nodes (some id) none }
        have node : { n.renamed σ with
            label := label
            identifier := Identifier.ofLabel label (g.renamed σ).nodes (some (σ.node id)) none } =
            renamed.renamed σ := by
          have identifier := ofLabel_renamed h label g.nodes (some id) none
          simp only [Node.renamed, renamed_nodes, renamed] at identifier ⊢
          rw [← identifier]
          rfl
        refine .of_change ?_ node _ _ _
        rw [renamed_setNode h]
        exact congrArg (g.renamed σ).setNode node

theorem planRemoveNodes_mirrors (ids : List String) : Plan.Mirrors σ id (g.planRemoveNodes ids)
    ((g.renamed σ).planRemoveNodes (ids.map σ.node)) := by
  rw [planRemoveNodes, planRemoveNodes, mapM_renamed (requireNode_renamed h g)]
  cases ids.mapM g.requireNode with
  | error r => exact .refused r
  | ok ns => exact .of_change (renamed_removeNodes h g ids).symm rfl _ _ _

theorem planRemoveEdges_mirrors (ids : List String) : Plan.Mirrors σ id (g.planRemoveEdges ids)
    ((g.renamed σ).planRemoveEdges (ids.map σ.edge)) := by
  rw [planRemoveEdges, planRemoveEdges, mapM_renamed (requireEdge_renamed h g)]
  cases ids.mapM g.requireEdge with
  | error r => exact .refused r
  | ok es => exact .of_change (renamed_removeEdges h g ids).symm rfl _ _ _

theorem planPin_mirrors (edge : String) (point : Point α) : Plan.Mirrors σ (Edge.renamed σ)
    (g.planPin edge point) ((g.renamed σ).planPin (σ.edge edge) point) := by
  rw [planPin, planPin, requireEdge_renamed h]
  cases g.requireEdge edge with
  | error r => exact .refused r
  | ok e => exact .of_change (renamed_setEdge h g _).symm rfl _ _ _

omit h in
theorem planName_mirrors (raw : String) :
    Plan.Mirrors σ id (.ok (g.planName raw)) (.ok ((g.renamed σ).planName raw)) :=
  .of_change rfl rfl _ _ _

variable [Scalar α]

theorem planAdd_mirrors (c : Category) (node : String) (position : Option (Point α))
    (text : Option String) : Plan.Mirrors σ (Node.renamed σ) (g.planAdd c node position text)
      ((g.renamed σ).planAdd c (σ.node node) position text) := by
  have label : newLabel c (σ.node node) text = renamedResult σ id (newLabel c node text) := by
    cases text with
    | none => rfl
    | some text =>
      simp only [newLabel]
      split
      · rfl
      · exact requireLabel_renamed node text
  rw [planAdd, planAdd, label]
  cases newLabel c node text with
  | error r => exact .refused r
  | ok label =>
    have new : (g.renamed σ).newNode c (σ.node node) label position =
        (g.newNode c node label position).renamed σ := by
      have identifier := ofLabel_renamed h label g.nodes none (some c)
      simp only [newNode, Node.renamed, renamed_nodes] at identifier ⊢
      rw [← identifier]
      rfl
    refine .of_change ?_ new _ _ _
    rw [renamed_addNode]
    exact congrArg (g.renamed σ).addNode new

theorem planMove_mirrors (node : String) (position : Point α) : Plan.Mirrors σ (Node.renamed σ)
    (g.planMove node position) ((g.renamed σ).planMove (σ.node node) position) := by
  rw [planMove, planMove, requireNode_renamed h]
  cases g.requireNode node with
  | error r => exact .refused r
  | ok n =>
    refine .of_change ?_ rfl _ _ _
    rw [renamed_recenter h, renamed_setNode h]
    rfl

theorem planConnect_mirrors {known : List String} (fits : σ.Fits known)
    (ids : ∀ n ∈ g.nodes, n.id ∈ known) (source target : String) :
    Plan.Mirrors σ (Edge.renamed σ) (g.planConnect source target)
      ((g.renamed σ).planConnect (σ.node source) (σ.node target)) := by
  rw [planConnect, planConnect, requireNode_renamed h, requireNode_renamed h]
  cases hs : g.requireNode source with
  | error r => exact .refused r
  | ok s =>
    cases ht : g.requireNode target with
    | error r => exact .refused r
    | ok t =>
      obtain ⟨rfl, hsource⟩ := requireNode_eq_ok hs
      obtain ⟨rfl, htarget⟩ := requireNode_eq_ok ht
      change Plan.Mirrors σ _
        (if s.category = .stop then _ else if t.category = .start then _ else _)
        (if s.category = .stop then _ else if t.category = .start then _ else _)
      split
      · exact .refused _
      split
      · exact .refused _
      rw [between_renamed h]
      cases g.between s.id t.id with
      | cons present _ => exact .idle present
      | nil =>
        -- the one place where an id is made of others: the renaming has to fit the ids of the ends
        have new : newEdge (σ.node s.id) (σ.node t.id) =
            (newEdge s.id t.id : Edge α).renamed σ := by
          have id := fits s.id (ids s (mem_of_node? hsource)) t.id (ids t (mem_of_node? htarget))
          simp only [Edge.renamed, newEdge_id, id]
          rfl
        have drawn : ((g.renamed σ).addEdge (newEdge (σ.node s.id) (σ.node t.id))).recenter
            (some [σ.node s.id, σ.node t.id]) =
              ((g.addEdge (newEdge s.id t.id)).recenter (some [s.id, t.id])).renamed σ := by
          rw [renamed_recenter h, renamed_addEdge, new]
          rfl
        refine .of_change drawn ?_ _ _ _
        rw [drawn, new, Edge.renamed_id, edge?_renamed h]
        cases ((g.addEdge (newEdge s.id t.id)).recenter (some [s.id, t.id])).edge?
          (newEdge s.id t.id : Edge α).id <;> rfl

end Graph

/-! ### Graphs with known ids -/

/-- A renaming that can be worked with where the ids of nodes are known: it fits them, and it spares
the id that a fresh canvas comes with. -/
structure Renaming.Serves (σ : Renaming) (known : List String) : Prop extends σ.IsFaithful where
  /-- edges between known nodes get the ids that they would be given -/
  fits : σ.Fits known
  /-- the START of a fresh canvas keeps its id -/
  start : σ.node "start-1" = "start-1"
  /-- it is known -/
  start_mem : "start-1" ∈ known

theorem Renaming.Serves.renamed_initial {α : Type u} [Scalar α] {σ : Renaming}
    {known : List String} (h : σ.Serves known) :
    (Graph.initial : Graph α).renamed σ = Graph.initial := by
  refine Graph.eq_of_parts ?_ rfl rfl rfl
  simp only [Graph.renamed_nodes, Graph.initial, List.map_cons, List.map_nil, Node.renamed, h.start]

/-- That the ids of all nodes are known, and that each node has an identifier. -/
def Graph.Knows {α : Type u} (known : List String) (g : Graph α) : Prop :=
  ∀ n ∈ g.nodes, n.identifier ≠ "" ∧ n.id ∈ known

namespace Graph.Knows

variable {α : Type u} {known : List String} {g h : Graph α}

theorem of_subset (hg : g.Knows known) (nodes : h.nodes ⊆ g.nodes) : h.Knows known :=
  fun n hn => hg n (nodes hn)

theorem setNode (hg : g.Knows known) {n : Node α} (hn : n.identifier ≠ "" ∧ n.id ∈ known) :
    (g.setNode n).Knows known :=
  forall_mem_setNode hg hn

theorem ofLabel_ne (label : String) (nodes : List (Node α)) (except : Option String)
    (c : Option Category) : Identifier.ofLabel label nodes except c ≠ "" :=
  (Identifier.isName_iff.mp (Identifier.isName_ofLabel label nodes except c)).1

theorem initial [Scalar α] (start : "start-1" ∈ known) : (initial : Graph α).Knows known := by
  intro n hn
  rw [List.mem_singleton.mp hn]
  exact ⟨fun h => absurd h (by decide : "start" ≠ ""), start⟩

variable [Scalar α]

/-- Edits keep ids known, if those that they draw are. -/
theorem edited (hg : g.Knows known) (start : "start-1" ∈ known) {drawn : Option String}
    (hdrawn : ∀ id ∈ drawn, id ∈ known) (he : g.Edited drawn h) : h.Knows known := by
  cases he with
  | addNode position hfree hlabel =>
    exact forall_mem_addNode.mpr ⟨hg, ofLabel_ne _ _ _ _, hdrawn _ rfl⟩
  | @renameNode n label hfound hterminal hlabel =>
    have named := ofLabel_ne label g.nodes (some n.id) none
    exact hg.setNode ⟨named, (hg n (mem_of_node? hfound)).2⟩
  | @moveNode n position hfound =>
    have moved : (g.setNode { n with position := position }).Knows known :=
      hg.setNode (hg n (mem_of_node? hfound))
    exact moved.of_subset fun n hn => by rwa [recenter_nodes] at hn
  | removeNodes hids => exact hg.of_subset List.filter_sublist.subset
  | connect hs ht hstop hstart hnone =>
    exact hg.of_subset fun n hn => by rwa [recenter_nodes] at hn
  | removeEdges hids => exact hg
  | pinControl point hfound => exact hg
  | setName raw => exact hg
  | reset => exact initial start

end Graph.Knows

/-! ### Editors -/

namespace Editor

variable {α β : Type}

/-- Two editors of one graph up to ids, which are known, with stores of one shape. -/
structure Mirrors (σ : Renaming) (known : List String) (e e' : Editor α) : Prop where
  /-- the graph -/
  graph : e'.graph = e.graph.renamed σ
  /-- its ids are known -/
  knows : e.graph.Knows known
  /-- the code -/
  code : e'.code = e.code
  /-- the shape of the store -/
  store : e'.store.map Store.blank = e.store.map Store.blank
  /-- who is told -/
  dispatcher : e.dispatcher.Mirrors e'.dispatcher
  /-- how the canvas is seen -/
  viewport : e'.viewport = e.viewport

/-- Two calls that come to the same up to ids; the answer is renamed by `f`. -/
abbrev EndsAs (σ : Renaming) (known : List String) (f : β → β)
    (o o' : Outcome (Editor α) (EditorFault α) β) : Prop :=
  o.Alike (Mirrors σ known) (fun r r' => r' = r.renamed σ) (fun b b' => b' = f b) o'

namespace Mirrors

variable {σ : Renaming} {known : List String} {e e' : Editor α}

/-- The processors are told of what is the same but for ids. -/
theorem tell (h : Mirrors σ known e e') {m m' : Message α} (hm : m'.heading = m.heading) :
    EndsAs σ known id
      (((e.dispatcher.dispatch m).mapState fun d => { e with dispatcher := d }).mapFault .processor)
      (((e'.dispatcher.dispatch m').mapState fun d => { e' with dispatcher := d }).mapFault
        .processor) := by
  have next (d d' : Dispatcher α) (hd : d.Mirrors d') :
      Mirrors σ known { e with dispatcher := d } { e' with dispatcher := d' } :=
    ⟨h.graph, h.knows, h.code, h.store, hd, h.viewport⟩
  refine .mono (((h.dispatcher.dispatch hm).mapState next).mapFault fun p p' hp => ?_)
    fun _ _ _ => rfl
  exact congrArg EditorFault.processor hp.symm

theorem close (h : Mirrors σ known e e') : EndsAs σ known id e.close e'.close := h.tell rfl

variable [StateFormat α]

theorem save (h : Mirrors σ known e e') : EndsAs σ known id e.save e'.save := by
  have shape := h.store
  unfold Editor.save
  cases hs : e.store with
  | none =>
    cases hs' : e'.store with
    | none => exact .done h rfl
    | some s' => simp [hs, hs'] at shape
  | some s =>
    cases hs' : e'.store with
    | none => simp [hs, hs'] at shape
    | some s' =>
      simp only [hs, hs', Option.map_some, Option.some.injEq] at shape
      obtain ⟨answer, shape⟩ := Store.save_of_blank_eq shape e'.graph e.graph
      refine ⟨⟨h.graph, h.knows, h.code, congrArg some shape, h.dispatcher, h.viewport⟩, ?_⟩
      simp only [Outcome.mapFault, Outcome.mapState, answer]
      cases (s.save e.graph).answer with
      | error f => exact .fault rfl
      | ok done => exact .result trivial

/-- A graph is put in place, saved and told of. -/
theorem put_save (h : Mirrors σ known e e') (faithful : σ.IsFaithful) {g g' : Graph α}
    (hg : g.Knows known) (same : g' = g.renamed σ) (event event' : Editor α → Event α)
    (heading : ∀ d d' : Editor α, d'.code = d.code →
      (Message.event (event' d')).heading = (Message.event (event d)).heading) :
    EndsAs σ known id ((e.put g).save.andThen fun e _ => e.announce (event e))
      ((e'.put g').save.andThen fun e _ => e.announce (event' e)) := by
  subst same
  have code : (g.renamed σ).source = g.source :=
    Graph.source_renamed faithful fun n hn => (hg n hn).1
  have put : Mirrors σ known (e.put g) (e'.put (g.renamed σ)) :=
    ⟨rfl, hg, code, h.store, h.dispatcher, h.viewport⟩
  exact put.save.andThen fun d d' _ _ hd _ => hd.tell (heading d d' hd.code)

variable [Scalar α]

/-- **A plan is carried out alike** on both sides, if its change is an edit. -/
theorem carryOut (h : Mirrors σ known e e') (serves : σ.Serves known) {f : β → β}
    {plan plan' : Except Rejection (Plan α β)} (plans : Plan.Mirrors σ f plan plan')
    {drawn : Option String} (hdrawn : ∀ id ∈ drawn, id ∈ known)
    (edits : ∀ p ch, plan = .ok p → p.change = some ch → e.graph.Edited drawn ch.graph) :
    EndsAs σ known f (e.carryOut plan) (e'.carryOut plan') := by
  cases plans with
  | refused r => exact .failed h rfl
  | idle b => exact .done h rfl
  | change g action subject subject' b =>
    have knows : g.Knows known := h.knows.edited serves.start_mem hdrawn (edits _ _ rfl rfl)
    have synced : (g.renamed σ).syncEntry = g.syncEntry.renamed σ :=
      Graph.renamed_syncEntry serves.toIsFaithful fun n hn => (knows n hn).1
    have committed : EndsAs σ known id (e.commit ⟨g, action, subject⟩)
        (e'.commit ⟨g.renamed σ, action, subject'⟩) :=
      h.put_save serves.toIsFaithful (show g.syncEntry.Knows known from knows) synced
        (fun e => .changed e.graph e.code action subject)
        (fun e => .changed e.graph e.code action subject')
        fun _ _ code => congrArg (Heading.changed · action) code
    exact committed.map fun _ _ _ => rfl

theorem reset (h : Mirrors σ known e e') (serves : σ.Serves known) :
    EndsAs σ known id e.reset e'.reset :=
  h.put_save serves.toIsFaithful (.initial serves.start_mem) serves.renamed_initial.symm
    (fun e => .reset e.graph e.code) (fun e => .reset e.graph e.code)
    fun _ _ code => congrArg Heading.reset code

/-- A plan that draws no id. -/
theorem carryOut_plan (h : Mirrors σ known e e') (serves : σ.Serves known) {f : β → β}
    {plan plan' : Except Rejection (Plan α β)} (plans : Plan.Mirrors σ f plan plan')
    (edits : ∀ p ch, plan = .ok p → p.change = some ch → e.graph.Edited none ch.graph) :
    EndsAs σ known f (e.carryOut plan) (e'.carryOut plan') :=
  h.carryOut serves plans (by simp) edits

theorem renameNode (h : Mirrors σ known e e') (serves : σ.Serves known) (id text : String) :
    EndsAs σ known (Node.renamed σ) (e.renameNode id text) (e'.renameNode (σ.node id) text) :=
  h.carryOut_plan serves (h.graph ▸ e.graph.planRename_mirrors serves.toIsFaithful id text)
    fun _ _ => Graph.edited_of_planRename

theorem moveNode (h : Mirrors σ known e e') (serves : σ.Serves known) (id : String)
    (position : Point α) :
    EndsAs σ known (Node.renamed σ) (e.moveNode id position) (e'.moveNode (σ.node id) position) :=
  h.carryOut_plan serves (h.graph ▸ e.graph.planMove_mirrors serves.toIsFaithful id position)
    fun _ _ => Graph.edited_of_planMove

theorem removeNodes (h : Mirrors σ known e e') (serves : σ.Serves known) (ids : List String) :
    EndsAs σ known (fun u => u) (e.removeNodes ids) (e'.removeNodes (ids.map σ.node)) :=
  h.carryOut_plan serves (h.graph ▸ e.graph.planRemoveNodes_mirrors serves.toIsFaithful ids)
    fun _ _ => Graph.edited_of_planRemoveNodes

theorem connect (h : Mirrors σ known e e') (serves : σ.Serves known) (source target : String) :
    EndsAs σ known (Edge.renamed σ) (e.connect source target)
      (e'.connect (σ.node source) (σ.node target)) :=
  h.carryOut_plan serves (h.graph ▸ e.graph.planConnect_mirrors serves.toIsFaithful serves.fits
    (fun n hn => (h.knows n hn).2) source target) fun _ _ => Graph.edited_of_planConnect

theorem removeEdges (h : Mirrors σ known e e') (serves : σ.Serves known) (ids : List String) :
    EndsAs σ known (fun u => u) (e.removeEdges ids) (e'.removeEdges (ids.map σ.edge)) :=
  h.carryOut_plan serves (h.graph ▸ e.graph.planRemoveEdges_mirrors serves.toIsFaithful ids)
    fun _ _ => Graph.edited_of_planRemoveEdges

theorem pinControl (h : Mirrors σ known e e') (serves : σ.Serves known) (id : String)
    (point : Point α) :
    EndsAs σ known (Edge.renamed σ) (e.pinControl id point) (e'.pinControl (σ.edge id) point) :=
  h.carryOut_plan serves (h.graph ▸ e.graph.planPin_mirrors serves.toIsFaithful id point)
    fun _ _ => Graph.edited_of_planPin

theorem setName (h : Mirrors σ known e e') (serves : σ.Serves known) (raw : String) :
    EndsAs σ known (fun name => name) (e.setName raw) (e'.setName raw) := by
  refine h.carryOut_plan serves (h.graph ▸ e.graph.planName_mirrors raw) fun p ch hp hch => ?_
  obtain rfl := Except.ok.inj hp
  obtain rfl := Option.some.inj hch
  exact .setName raw

/-- A node is added under ids that go together, if any are drawn. -/
theorem addNode (h : Mirrors σ known e e') (serves : σ.Serves known) {category : String}
    (draws : e'.drawnId? category = (e.drawnId? category).map σ.node)
    (hdrawn : ∀ id ∈ e.drawnId? category, id ∈ known) (position : Option (Point α))
    (label : Option String) :
    EndsAs σ known (Node.renamed σ) (e.addNode category position label)
      (e'.addNode category position label) := by
  have taken (c : Category) : e'.graph.isTaken c = e.graph.isTaken c := by
    rw [h.graph, Graph.isTaken_renamed]
  unfold Editor.addNode
  unfold drawnId? at draws hdrawn
  cases hc : Category.ofName? category with
  | none => exact .failed h rfl
  | some c =>
    simp only [hc, Option.bind_some, taken] at draws hdrawn ⊢
    split
    · exact .failed h rfl
    · next free =>
      rw [if_neg free] at draws hdrawn
      rw [if_neg free] at draws
      have id : Graph.newId c e'.tokens.next = σ.node (Graph.newId c e.tokens.next) :=
        Option.some.inj draws
      -- what is mirrored does not include tokens, which need not be the same
      have drawn : Mirrors σ known { e with tokens := e.tokens.draw }
          { e' with tokens := e'.tokens.draw } :=
        ⟨h.graph, h.knows, h.code, h.store, h.dispatcher, h.viewport⟩
      have plans := e.graph.planAdd_mirrors serves.toIsFaithful c (Graph.newId c e.tokens.next)
        position label
      rw [← h.graph, ← id] at plans
      exact drawn.carryOut serves plans hdrawn fun _ _ =>
        Graph.edited_of_planAdd (by simpa using free)

omit [StateFormat α] in
theorem setViewport (h : Mirrors σ known e e') (x y zoom : α) :
    EndsAs σ known id (e.setViewport x y zoom) (e'.setViewport x y zoom) := by
  unfold Editor.setViewport
  cases Viewport.of x y zoom with
  | error fault => exact .failed h rfl
  | ok v => exact .done ⟨h.graph, h.knows, h.code, h.store, h.dispatcher, rfl⟩ rfl

end Mirrors

end Editor

end FlowCanvas

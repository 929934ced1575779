import FlowCanvas.Proofs.Program.Legible
import Mathlib.Data.List.Find

/-!
# Programs of mapped graphs

A program is made of what nodes do and of which edge leads where; ids only tell nodes apart. So the
nodes and the edges of a graph can be mapped in any way that keeps this, with other ids instead of
the old ones if different ids stay different, and the program is the same but for the ids of its
branches, which the text does not show (`Graph.source_mapped`).
-/

namespace FlowCanvas

universe u

/-- A block under another id of its branch. -/
def Dispatch.relabelled (r : String → String) (d : Dispatch) : Dispatch :=
  { d with branch := r d.branch }

namespace Graph

variable {α : Type u}

/-- A graph with its nodes and edges mapped. -/
def mapped (φ : Node α → Node α) (ψ : Edge α → Edge α) (g : Graph α) : Graph α :=
  { g with nodes := g.nodes.map φ, edges := g.edges.map ψ }

/-- That maps of the nodes and edges of a graph keep what a program is made of, up to ids, and that
these are mapped without confusion. -/
structure IsKept (g : Graph α) (r : String → String) (φ : Node α → Node α) (ψ : Edge α → Edge α) :
    Prop where
  /-- different ids stay different -/
  injective : Function.Injective r
  /-- the ids of nodes -/
  id : ∀ n ∈ g.nodes, (φ n).id = r n.id
  /-- the categories of nodes -/
  category : ∀ n ∈ g.nodes, (φ n).category = n.category
  /-- the names of nodes in code -/
  nameInCode : ∀ n ∈ g.nodes, (φ n).nameInCode = n.nameInCode
  /-- the implementations of nodes -/
  implementation : ∀ n ∈ g.nodes, (φ n).implementation = n.implementation
  /-- where edges start -/
  source : ∀ e ∈ g.edges, (ψ e).source = r e.source
  /-- where edges end -/
  target : ∀ e ∈ g.edges, (ψ e).target = r e.target

/-- What is searched for among images is the image of what is searched for. -/
theorem find?_map_of_eq {β : Type u} {f : β → β} {p q : β → Bool} {l : List β}
    (h : ∀ a ∈ l, p (f a) = q a) : (l.map f).find? p = (l.find? q).map f := by
  rw [List.find?_map]
  exact congrArg (Option.map f) (List.find?_congr h)

namespace IsKept

variable {g : Graph α} {r : String → String} {φ : Node α → Node α} {ψ : Edge α → Edge α}
  (k : g.IsKept r φ ψ)
include k

/-! ### Look-ups -/

theorem beq (a b : String) : (r a == r b) = (a == b) := by
  simp [k.injective.eq_iff]

theorem role {n : Node α} (hn : n ∈ g.nodes) : (φ n).role = n.role :=
  congrArg Category.role (k.category n hn)

theorem latest?_mapped (id : String) :
    latest? (g.nodes.map φ) (r id) = (latest? g.nodes id).map φ := by
  rw [latest?, ← List.map_reverse]
  refine find?_map_of_eq fun n hn => ?_
  rw [k.id n (List.mem_reverse.mp hn), k.beq]

theorem node?_mapped (id : String) : (g.mapped φ ψ).node? (r id) = (g.node? id).map φ :=
  find?_map_of_eq fun n hn => by rw [k.id n hn, k.beq]

theorem start?_mapped : (g.mapped φ ψ).start? = g.start?.map φ :=
  find?_map_of_eq fun n hn => by rw [k.category n hn]

theorem firstFrom?_mapped (id : String) :
    (g.mapped φ ψ).firstFrom? (r id) = (g.firstFrom? id).map ψ :=
  find?_map_of_eq fun e he => by rw [k.source e he, k.beq]

theorem entry?_mapped : entry? (g.mapped φ ψ) = (g.entry?).map φ := by
  change (g.mapped φ ψ).start?.bind
      (fun s => ((g.mapped φ ψ).firstFrom? s.id).bind fun e => (g.mapped φ ψ).node? e.target) =
    (g.start?.bind fun s => (g.firstFrom? s.id).bind fun e => g.node? e.target).map φ
  rw [k.start?_mapped]
  cases hs : g.start? with
  | none => rfl
  | some s =>
    have hid := k.id s (List.mem_of_find?_eq_some hs)
    simp only [Option.map_some, Option.bind_some, hid, k.firstFrom?_mapped]
    cases he : g.firstFrom? s.id with
    | none => rfl
    | some e =>
      have htarget := k.target e (List.mem_of_find?_eq_some he)
      simp only [Option.map_some, Option.bind_some, htarget, k.node?_mapped]

theorem program_entry_mapped : (g.mapped φ ψ).program.entry = g.program.entry := by
  change Option.map Node.nameInCode _ = Option.map Node.nameInCode _
  rw [k.entry?_mapped, Option.map_map]
  exact Option.map_congr fun n hn => k.nameInCode n (mem_nodes_of_entry hn)

theorem entryName_mapped : (g.mapped φ ψ).entryName = g.entryName := by
  rw [entryName, k.entry?_mapped, entryName]
  cases h : g.entry? with
  | none => rfl
  | some n => exact congrArg Json.string (k.nameInCode n (mem_nodes_of_entry h))

/-! ### Kinds of edges -/

theorem role?_mapped (id : String) : (g.mapped φ ψ).role? (r id) = g.role? id := by
  rw [role?, mapped, k.latest?_mapped, Option.map_map, role?]
  exact Option.map_congr fun n hn => k.role (mem_of_latest? hn)

theorem isStart_mapped (id : String) : (g.mapped φ ψ).isStart (r id) = g.isStart id := by
  rw [isStart, mapped, k.latest?_mapped, isStart]
  cases h : latest? g.nodes id with
  | none => rfl
  | some n => simp [k.category n (mem_of_latest? h)]

theorem liveEdges_mapped : (g.mapped φ ψ).liveEdges = g.liveEdges.map ψ := by
  change (g.edges.map ψ).filter _ = (g.edges.filter _).map ψ
  rw [List.filter_map]
  refine congrArg (List.map ψ) (List.filter_congr fun e he => ?_)
  simp only [Function.comp_apply, isLive, k.source e he, k.target e he, k.role?_mapped,
    k.isStart_mapped]

theorem chosenEdges_mapped : (g.mapped φ ψ).chosenEdges = g.chosenEdges.map ψ := by
  rw [chosenEdges, k.liveEdges_mapped, List.filter_map, chosenEdges]
  refine congrArg (List.map ψ) (List.filter_congr fun e he => ?_)
  have hsource := k.source e (mem_liveEdges_iff.mp he).1
  simp only [Function.comp_apply, hsource, k.role?_mapped]

theorem transition?_mapped {e : Edge α} (he : e ∈ g.edges) :
    (g.mapped φ ψ).transition? (ψ e) = g.transition? e := by
  simp only [transition?, mapped, k.source e he, k.target e he, k.latest?_mapped]
  cases hs : latest? g.nodes e.source with
  | none => rfl
  | some s =>
    cases ht : latest? g.nodes e.target with
    | none => rfl
    | some t =>
      have hs := mem_of_latest? hs
      have ht := mem_of_latest? ht
      simp only [Option.map_some, k.role hs, k.role ht, k.nameInCode s hs, k.nameInCode t ht]

/-! ### Blocks -/

theorem feeder?_mapped (id : String) :
    feeder? (g.nodes.map φ) (g.edges.map ψ) (r id) =
      (feeder? g.nodes g.edges id).map φ := by
  have first : (g.edges.map ψ).find? (fun e => e.target == r id) =
      (g.edges.find? fun e => e.target == id).map ψ :=
    find?_map_of_eq fun e he => by rw [k.target e he, k.beq]
  rw [feeder?, first, feeder?]
  cases he : g.edges.find? fun e => e.target == id with
  | none => rfl
  | some e =>
    have hsource := k.source e (List.mem_of_find?_eq_some he)
    simp only [Option.map_some, Option.bind_some, hsource, k.latest?_mapped]

theorem choice?_mapped {e : Edge α} (he : e ∈ g.edges) :
    choice? (g.nodes.map φ) (g.edges.map ψ) (ψ e) =
      (choice? g.nodes g.edges e).map (Prod.map φ (Prod.map φ φ)) := by
  simp only [choice?, k.source e he, k.target e he, k.latest?_mapped, k.feeder?_mapped]
  cases latest? g.nodes e.source <;> cases feeder? g.nodes g.edges e.source <;>
    cases latest? g.nodes e.target <;> rfl

end IsKept

theorem mem_of_choice? {nodes : List (Node α)} {edges : List (Edge α)} {e : Edge α}
    {c : Node α × Node α × Node α} (h : choice? nodes edges e = some c) :
    c.1 ∈ nodes ∧ c.2.1 ∈ nodes ∧ c.2.2 ∈ nodes := by
  unfold choice? at h
  split at h
  · next branch feeder target hbranch hfeeder htarget =>
    cases h
    exact ⟨mem_of_latest? hbranch, mem_of_feeder? hfeeder, mem_of_latest? htarget⟩
  · cases h

/-- One choice more, under other ids. -/
theorem addChoice_relabelled {r : String → String} (hr : Function.Injective r)
    (blocks : List Dispatch) (branch feeder target : String) :
    addChoice (blocks.map (Dispatch.relabelled r)) (r branch) feeder target =
      (addChoice blocks branch feeder target).map (Dispatch.relabelled r) := by
  have same (b : Dispatch) : (r b.branch == r branch) = (b.branch == branch) := by
    simp [hr.eq_iff]
  have known : ((blocks.map (Dispatch.relabelled r)).any fun b => b.branch == r branch) =
      blocks.any fun b => b.branch == branch := by
    simp only [List.any_map, Function.comp_def, Dispatch.relabelled, same]
  rw [addChoice, known, addChoice]
  split
  · rw [List.map_map, List.map_map]
    refine List.map_congr_left fun b _ => ?_
    simp only [Function.comp_apply, Dispatch.relabelled, hr.eq_iff]
    split <;> rfl
  · rw [List.map_append]
    rfl

namespace IsKept

variable {g : Graph α} {r : String → String} {φ : Node α → Node α} {ψ : Edge α → Edge α}

/-- Choices between nodes are collected under other ids. -/
theorem foldl_addChoice_mapped (k : g.IsKept r φ ψ) :
    ∀ (cs : List (Node α × Node α × Node α)) (blocks : List Dispatch),
      (∀ c ∈ cs, c.1 ∈ g.nodes ∧ c.2.1 ∈ g.nodes ∧ c.2.2 ∈ g.nodes) →
        cs.foldl (fun blocks c => addChoice blocks (φ c.1).id (φ c.2.1).nameInCode
            (φ c.2.2).nameInCode) (blocks.map (Dispatch.relabelled r)) =
          (cs.foldl (fun blocks c => addChoice blocks c.1.id c.2.1.nameInCode c.2.2.nameInCode)
            blocks).map (Dispatch.relabelled r)
  | [], _, _ => rfl
  | c :: cs, blocks, h => by
    obtain ⟨⟨hbranch, hfeeder, htarget⟩, hrest⟩ := List.forall_mem_cons.mp h
    rw [List.foldl_cons, List.foldl_cons, k.id _ hbranch, k.nameInCode _ hfeeder,
      k.nameInCode _ htarget, addChoice_relabelled k.injective]
    exact foldl_addChoice_mapped k cs _ hrest

theorem dispatches_mapped (k : g.IsKept r φ ψ) :
    dispatches (g.nodes.map φ) (g.edges.map ψ) (g.chosenEdges.map ψ) =
      (dispatches g.nodes g.edges g.chosenEdges).map (Dispatch.relabelled r) := by
  have choices : (g.chosenEdges.map ψ).filterMap (choice? (g.nodes.map φ) (g.edges.map ψ)) =
      (g.chosenEdges.filterMap (choice? g.nodes g.edges)).map (Prod.map φ (Prod.map φ φ)) := by
    rw [List.filterMap_map, List.map_filterMap]
    exact List.filterMap_congr fun e he => k.choice?_mapped (mem_chosenEdges_iff.mp he).1
  rw [dispatches, choices, dispatches, List.foldl_map]
  refine k.foldl_addChoice_mapped _ [] fun c hc => ?_
  obtain ⟨e, -, he⟩ := List.mem_filterMap.mp hc
  exact mem_of_choice? he

/-- **The program of a mapped graph** is the same but for the ids of its branches. -/
theorem program_mapped (k : g.IsKept r φ ψ) :
    (g.mapped φ ψ).program =
      { g.program with dispatches := g.program.dispatches.map (Dispatch.relabelled r) } := by
  have registrations : (g.mapped φ ψ).program.registrations = g.program.registrations := by
    change ((g.nodes.map φ).filter _).map _ = (g.nodes.filter _).map _
    have steps : g.nodes.filter ((fun n => decide (n.role = .executable)) ∘ φ) =
        g.nodes.filter fun n => decide (n.role = .executable) :=
      List.filter_congr fun n hn => by rw [Function.comp_apply, k.role hn]
    rw [List.filter_map, steps, List.map_map]
    refine List.map_congr_left fun n hn => ?_
    have hmem := (List.mem_filter.mp hn).1
    simp only [Function.comp_apply, Node.registration, Node.implementationName,
      Node.implementationOrName, k.nameInCode n hmem, k.implementation n hmem]
  -- only here are ids part of the program: those of the branches
  have dispatches : (g.mapped φ ψ).program.dispatches =
      g.program.dispatches.map (Dispatch.relabelled r) := by
    change Graph.dispatches _ _ (g.mapped φ ψ).chosenEdges = _
    rw [k.chosenEdges_mapped]
    exact k.dispatches_mapped
  have transitions : (g.mapped φ ψ).program.transitions = g.program.transitions := by
    change (g.mapped φ ψ).liveEdges.filterMap _ = g.liveEdges.filterMap _
    rw [k.liveEdges_mapped, List.filterMap_map]
    exact List.filterMap_congr fun e he => k.transition?_mapped (mem_liveEdges_iff.mp he).1
  calc (g.mapped φ ψ).program
      = ⟨g.name, (g.mapped φ ψ).program.registrations, (g.mapped φ ψ).program.entry,
          (g.mapped φ ψ).program.dispatches, (g.mapped φ ψ).program.transitions⟩ := rfl
    _ = { g.program with dispatches := g.program.dispatches.map (Dispatch.relabelled r) } := by
      rw [registrations, dispatches, transitions]
      exact congrArg (fun entry => (⟨g.name, _, entry, _, _⟩ : Program)) k.program_entry_mapped

theorem source_mapped (k : g.IsKept r φ ψ) : (g.mapped φ ψ).source = g.source := by
  refine Program.text_eq_of_shown_eq ?_
  rw [k.program_mapped, Program.shown_eq_iff]
  simp [Dispatch.relabelled]

end IsKept

end Graph

end FlowCanvas

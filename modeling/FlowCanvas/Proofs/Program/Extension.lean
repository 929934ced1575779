import FlowCanvas.Proofs.Program.Grouping

/-!
# One edge more

An edge that is placed behind all others changes a program in one place only. A plain edge adds a
transition behind the others. An edge out of a branch adds a choice, if the branch is fed: a block
behind the others if its branch has none, and otherwise a target in the block, unless the target is
there already. Nothing else moves, since such an edge is neither the first one out of START nor the
first one into a branch, and since the blocks are numbered in order. The main result says so of the
text, line by line (`source_addEdge`).

It is not about edges that leave START, enter a branch, touch a remark or dangle.
-/

namespace FlowCanvas

universe u

/-- That a text has become another one by lines that were put in, below `above` and above `below`.
-/
def GainsLines (old new : String) (above added below : List String) : Prop :=
  old = "\n".intercalate (above ++ below) ∧ new = "\n".intercalate (above ++ added ++ below)

/-! ### Where lines are put in -/

theorem dispatchLines_append (graph : String) (index : Nat) (ds es : List Dispatch) :
    dispatchLines graph index (ds ++ es) =
      dispatchLines graph index ds ++ dispatchLines graph (index + ds.length) es := by
  simp only [dispatchLines_eq, List.zipIdx_append, List.flatMap_append]

namespace Dispatch

/-- The lines that close a block. -/
def closing : List String := [indentation ++ "\x7d,", ")"]

/-- A block with a target behind the others. -/
def withTarget (d : Dispatch) (target : String) : Dispatch :=
  { d with targets := d.targets ++ [target] }

/-- One target more is one line more, in front of those that close the block. -/
theorem exists_lines_withTarget (graph : String) (index : Nat) (d : Dispatch) (target : String) :
    ∃ opening, d.lines graph index = opening ++ closing ∧
      (d.withTarget target).lines graph index = opening ++ targetLine target :: closing :=
  ⟨_, rfl, by simp [lines, withTarget, closing]⟩

end Dispatch

namespace Program

/-- The lines of a program down to the end of its first blocks. -/
def linesUpTo (p : Program) (blocks : List Dispatch) : List String :=
  headerLines p.name ++ p.registrations.map (Registration.line p.name)
    ++ (p.entry.map (entryLine p.name)).toList ++ dispatchLines p.name 1 blocks

/-- The lines of a program from its last blocks on, of which the first has number `index`. -/
def linesFrom (p : Program) (index : Nat) (blocks : List Dispatch) : List String :=
  dispatchLines p.name index blocks ++ p.transitions.map (Transition.line p.name)

variable {p q : Program} {before after : List Dispatch}

theorem lines_eq_append (h : p.dispatches = before ++ after) :
    p.lines = p.linesUpTo before ++ p.linesFrom (before.length + 1) after := by
  rw [lines, linesUpTo, linesFrom, h, dispatchLines_append, Nat.add_comm 1]
  simp only [List.append_assoc]

/-- One transition more is one line more, at the end. -/
theorem gainsLines_transition {t : Transition}
    (h : q = { p with transitions := p.transitions ++ [t] }) :
    GainsLines p.text q.text p.lines [t.line p.name] [] := by
  subst h
  refine ⟨by rw [List.append_nil, text], ?_⟩
  simp [text, lines]

/-- A block behind the others stands in front of the transitions. -/
theorem gainsLines_block {d : Dispatch} (h : q = { p with dispatches := p.dispatches ++ [d] }) :
    GainsLines p.text q.text (p.linesUpTo p.dispatches)
      (d.lines p.name (p.dispatches.length + 1)) (p.transitions.map (Transition.line p.name)) := by
  subst h
  constructor
  · rw [text, lines_eq_append (List.append_nil p.dispatches).symm]
    rfl
  · rw [text, lines_eq_append rfl]
    simp [linesUpTo, linesFrom, dispatchLines]

/-- A target more is a line more in its block. -/
theorem gainsLines_target {d : Dispatch} {target : String}
    (hp : p.dispatches = before ++ d :: after)
    (h : q = { p with dispatches := before ++ d.withTarget target :: after }) :
    ∃ opening, d.lines p.name (before.length + 1) = opening ++ Dispatch.closing ∧
      GainsLines p.text q.text (p.linesUpTo before ++ opening) [targetLine target]
        (Dispatch.closing ++ p.linesFrom (before.length + 2) after) := by
  obtain ⟨opening, hd, hmore⟩ := d.exists_lines_withTarget p.name (before.length + 1) target
  refine ⟨opening, hd, ?_, ?_⟩
  · rw [text, lines_eq_append hp, linesFrom, dispatchLines, hd]
    simp [linesFrom]
  · subst h
    rw [text, lines_eq_append rfl]
    simp only [linesFrom, dispatchLines]
    rw [hmore]
    simp [linesUpTo]

end Program

namespace Graph

variable {α : Type u}

/-! ### One choice more -/

/-- The first choice of its branch makes a block. -/
theorem addChoice_of_not_mem {blocks : List Dispatch} {branch feeder target : String}
    (h : branch ∉ blocks.map Dispatch.branch) :
    addChoice blocks branch feeder target = blocks ++ [⟨branch, feeder, [target]⟩] := by
  have new : ¬ (blocks.any fun b => b.branch == branch) = true := by simpa using h
  rw [addChoice, if_neg new]

/-- A further choice of a branch is in its block. -/
theorem addChoice_of_split {before after : List Dispatch} {d : Dispatch} {feeder target : String}
    (distinct : ((before ++ d :: after).map Dispatch.branch).Nodup) :
    addChoice (before ++ d :: after) d.branch feeder target =
      before ++ (if target ∈ d.targets then d else d.withTarget target) :: after := by
  have known : ((before ++ d :: after).any fun b => b.branch == d.branch) = true := by simp
  -- the other blocks are of other branches
  rw [List.map_append, List.map_cons, List.nodup_middle, List.nodup_cons] at distinct
  have other : ∀ b ∈ before ++ after, b.branch ≠ d.branch := fun b hb same =>
    distinct.1 (by rw [← List.map_append]; exact List.mem_map.mpr ⟨b, hb, same⟩)
  have still (bs : List Dispatch) (hbs : ∀ b ∈ bs, b.branch ≠ d.branch) :
      (bs.map fun b => if b.branch = d.branch ∧ target ∉ b.targets then
        { b with targets := b.targets ++ [target] } else b) = bs :=
    (List.map_congr_left fun b hb => if_neg fun h => hbs b hb h.1).trans (List.map_id _)
  have ⟨hbefore, hafter⟩ := List.forall_mem_append.mp other
  rw [addChoice, if_pos known, List.map_append, List.map_cons, still before hbefore,
    still after hafter]
  by_cases h : target ∈ d.targets <;> simp [h, Dispatch.withTarget]

/-! ### What does not move -/

section AddEdge

variable {g : Graph α} {e : Edge α}

/-- An edge that comes last is first only where there is no other one. -/
theorem find?_concat_of_neg {β : Type u} {l : List β} {b : β} {first : β → Bool}
    (h : first b = false) : (l ++ [b]).find? first = l.find? first := by
  rw [List.find?_append, List.find?_cons_of_neg (by simp [h]), List.find?_nil, Option.or_none]

theorem entry?_addEdge (h : ∀ s, g.start? = some s → e.source ≠ s.id) :
    entry? (g.addEdge e) = g.entry? := by
  change (g.start?.bind fun s => ((g.addEdge e).firstFrom? s.id).bind fun d => g.node? d.target) =
    g.start?.bind fun s => (g.firstFrom? s.id).bind fun d => g.node? d.target
  refine Option.bind_congr fun s hs => ?_
  have kept : (g.addEdge e).firstFrom? s.id = g.firstFrom? s.id :=
    find?_concat_of_neg (by simpa using h s hs)
  rw [kept]

theorem feederName?_addEdge {id : String} (h : e.target ≠ id) :
    (g.addEdge e).feederName? id = g.feederName? id := by
  have kept : (g.addEdge e).firstInto? id = g.firstInto? id :=
    find?_concat_of_neg (by simpa using h)
  rw [feederName?_eq, feederName?_eq, kept]
  rfl

end AddEdge

/-! ### One edge more -/

/-- That an edge leads from one node to another, does not leave START, touches no remark and enters
no branch. -/
structure Leads (g : Graph α) (e : Edge α) (s t : Node α) : Prop where
  /-- the node that it leaves -/
  source : g.node? e.source = some s
  /-- the node that it enters -/
  target : g.node? e.target = some t
  /-- it does not leave START -/
  inner : s.category ≠ .start
  /-- it leaves no remark -/
  leaves : s.role ≠ .remark
  /-- it enters no remark -/
  enters : t.role ≠ .remark
  /-- it enters no branch -/
  goal : t.role ≠ .dispatch

namespace Leads

variable {g : Graph α} {e : Edge α} {s t : Node α}

/-- No branch leads to itself by such an edge. -/
theorem target_ne (lead : g.Leads e s t) (branch : s.role = .dispatch) : e.target ≠ s.id := by
  intro same
  have found := lead.target
  rw [same, id_of_node? lead.source, lead.source] at found
  obtain rfl := Option.some.inj found
  exact lead.goal branch

variable (hids : (g.nodes.map Node.id).Nodup) (lead : g.Leads e s t)
include hids lead

theorem latest?_source : latest? g.nodes e.source = some s := by
  rw [latest?_eq_node? hids, lead.source]

theorem latest?_target : latest? g.nodes e.target = some t := by
  rw [latest?_eq_node? hids, lead.target]

theorem isLive : g.isLive e = true := by
  have inner : g.isStart e.source = false := by
    simp [isStart, lead.latest?_source hids, lead.inner]
  simp [Graph.isLive, role?_of_latest? (lead.latest?_source hids),
    role?_of_latest? (lead.latest?_target hids), lead.leaves, lead.enters, inner]

theorem liveEdges_addEdge : (g.addEdge e).liveEdges = g.liveEdges ++ [e] := by
  change (g.edges ++ [e]).filter g.isLive = g.edges.filter g.isLive ++ [e]
  rw [List.filter_append, List.filter_cons_of_pos (lead.isLive hids), List.filter_nil]

theorem chosenEdges_addEdge :
    (g.addEdge e).chosenEdges = g.chosenEdges ++ if s.role = .dispatch then [e] else [] := by
  have role : g.role? e.source = some s.role := role?_of_latest? (lead.latest?_source hids)
  rw [chosenEdges, lead.liveEdges_addEdge hids, List.filter_append]
  change g.chosenEdges ++ [e].filter (fun d => g.role? d.source = some .dispatch) = _
  by_cases h : s.role = .dispatch <;> simp [role, h]

theorem transitions_addEdge :
    (g.addEdge e).program.transitions = g.program.transitions ++
      if s.role = .dispatch then [] else [⟨s.nameInCode, t.nameInCode⟩] := by
  change (g.addEdge e).liveEdges.filterMap g.transition? = _
  rw [lead.liveEdges_addEdge hids, List.filterMap_append]
  have last : g.transition? e =
      if s.role = .dispatch then none else some ⟨s.nameInCode, t.nameInCode⟩ := by
    rw [transition?, lead.latest?_source hids, lead.latest?_target hids]
    simp [lead.goal]
  refine congrArg (g.program.transitions ++ ·) ?_
  by_cases h : s.role = .dispatch <;> simp [last, h]

/-- A run enters where it did. -/
theorem program_addEdge : (g.addEdge e).program =
    { g.program with
      dispatches := (g.addEdge e).program.dispatches
      transitions := (g.addEdge e).program.transitions } := by
  have entry : (g.addEdge e).program.entry = g.program.entry := by
    -- an edge out of START would leave the one node that has its id
    refine congrArg (Option.map Node.nameInCode) (entry?_addEdge fun b hb same => ?_)
    have found := node?_of_mem hids (List.mem_of_find?_eq_some hb)
    rw [← same, lead.source] at found
    obtain rfl := Option.some.inj found
    exact lead.inner (by simpa using List.find?_some hb)
  calc (g.addEdge e).program
      = ⟨g.name, g.program.registrations, (g.addEdge e).program.entry,
          (g.addEdge e).program.dispatches, (g.addEdge e).program.transitions⟩ := rfl
    _ = _ := by
      rw [entry]
      rfl

/-- The blocks that there were are fed as they were. -/
theorem filterMap_fed_addEdge :
    (outline g.nodes g.chosenEdges).filterMap (Dispatch.fed (g.addEdge e).feederName?) =
      g.program.dispatches := by
  rw [program_dispatches]
  refine List.filterMap_congr fun d hd => ?_
  -- what has a block is a branch, and the new edge enters none
  have other : e.target ≠ d.branch := by
    intro same
    obtain ⟨c, hc, hid, -⟩ := hasChoice_of_mem hd
    have branch := (mem_chosenEdges_iff.mp hc).2.1
    rw [hid, ← same, role?_of_latest? (lead.latest?_target hids)] at branch
    exact lead.goal (Option.some.inj branch)
  rw [Dispatch.fed, feederName?_addEdge other, Dispatch.fed]

/-- **A plain edge adds a transition.** -/
theorem program_addEdge_of_plain (plain : s.role ≠ .dispatch) : (g.addEdge e).program =
    { g.program with
      transitions := g.program.transitions ++ [⟨s.nameInCode, t.nameInCode⟩] } := by
  have blocks : (g.addEdge e).program.dispatches = g.program.dispatches := by
    rw [program_dispatches, lead.chosenEdges_addEdge hids, if_neg plain, List.append_nil]
    exact lead.filterMap_fed_addEdge hids
  rw [lead.program_addEdge hids, blocks, lead.transitions_addEdge hids, if_neg plain]

section Choice

variable (branch : s.role = .dispatch)
include branch

theorem outline_addEdge : outline g.nodes (g.addEdge e).chosenEdges =
    addChoice (outline g.nodes g.chosenEdges) s.id "" t.nameInCode := by
  have last : arm? g.nodes e = some (s, t) := by
    rw [arm?, lead.latest?_source hids, lead.latest?_target hids]
    rfl
  rw [lead.chosenEdges_addEdge hids, if_pos branch, outline, List.filterMap_append,
    List.foldl_append, List.filterMap_cons_some last]
  rfl

/-- **An edge out of a branch changes nothing but the blocks.** -/
theorem program_addEdge_of_branch : (g.addEdge e).program =
    { g.program with dispatches := (g.addEdge e).program.dispatches } := by
  rw [lead.program_addEdge hids, lead.transitions_addEdge hids, if_pos branch, List.append_nil]

theorem dispatches_addEdge_of_fed {name : String} (fed : g.feederName? s.id = some name) :
    (g.addEdge e).program.dispatches =
      addChoice g.program.dispatches s.id name t.nameInCode := by
  rw [program_dispatches, addEdge_nodes, lead.outline_addEdge hids branch,
    filterMap_fed_addChoice ((feederName?_addEdge (lead.target_ne branch)).trans fed),
    lead.filterMap_fed_addEdge hids]

theorem program_addEdge_of_unfed (unfed : g.feederName? s.id = none) :
    (g.addEdge e).program = g.program := by
  have blocks : (g.addEdge e).program.dispatches = g.program.dispatches := by
    rw [program_dispatches, addEdge_nodes, lead.outline_addEdge hids branch,
      filterMap_fed_addChoice_of_none ((feederName?_addEdge (lead.target_ne branch)).trans unfed),
      lead.filterMap_fed_addEdge hids]
  rw [lead.program_addEdge_of_branch hids branch, blocks]

end Choice

end Leads

/-- **One edge more changes the text in one place.** An edge that leads from a node to another one,
and neither leaves START nor enters a branch nor touches a remark, is placed behind all others. If
it is plain, its line is added at the very end. If it leaves a branch that is fed by a node, there
are three cases: the branch has no block yet, and one with the next number is put in behind the
others and in front of the transitions; the block of the branch lacks the target, and a line for it
is put in as the last one before the block is closed; or the block has the target, and the text
stays. If the branch is not fed, the text stays as well. -/
theorem source_addEdge {g : Graph α} (hids : (g.nodes.map Node.id).Nodup) {e : Edge α}
    {s t : Node α} (lead : g.Leads e s t) :
    let p := g.program
    let next := (g.addEdge e).source
    (s.role ≠ .dispatch →
      GainsLines g.source next p.lines [Transition.line p.name ⟨s.nameInCode, t.nameInCode⟩] []) ∧
    (s.role = .dispatch → ∀ f, g.firstFeeder? s.id = some f →
      (s.id ∉ p.dispatches.map Dispatch.branch →
        GainsLines g.source next (p.linesUpTo p.dispatches)
          (Dispatch.lines p.name (p.dispatches.length + 1) ⟨s.id, f.nameInCode, [t.nameInCode]⟩)
          (p.transitions.map (Transition.line p.name))) ∧
      ∀ d ∈ p.dispatches, d.branch = s.id →
        (t.nameInCode ∉ d.targets → ∃ before after opening, p.dispatches = before ++ d :: after ∧
          d.lines p.name (before.length + 1) = opening ++ Dispatch.closing ∧
          GainsLines g.source next (p.linesUpTo before ++ opening) [targetLine t.nameInCode]
            (Dispatch.closing ++ p.linesFrom (before.length + 2) after)) ∧
        (t.nameInCode ∈ d.targets → next = g.source)) ∧
    (s.role = .dispatch → g.firstFeeder? s.id = none → next = g.source) := by
  intro p next
  refine ⟨fun plain => ?_, fun branch f hf => ?_, fun branch hf => ?_⟩
  · exact Program.gainsLines_transition (lead.program_addEdge_of_plain hids plain)
  · have fed : g.feederName? s.id = some f.nameInCode := by
      rw [feederName?_eq_firstFeeder? hids, hf, Option.map_some]
    have program := lead.program_addEdge_of_branch hids branch
    have blocks := lead.dispatches_addEdge_of_fed hids branch fed
    refine ⟨fun first => ?_, fun d hd hid => ?_⟩
    · rw [addChoice_of_not_mem first] at blocks
      exact Program.gainsLines_block (by rw [program, blocks])
    · obtain ⟨before, after, split⟩ := List.append_of_mem hd
      -- no other block is of this branch, so all others stay
      have distinct : (p.dispatches.map Dispatch.branch).Nodup := by
        rw [branches_grouped hids]
        exact (nodup_eraseDups _).filter _
      rw [split] at distinct
      rw [show g.program.dispatches = _ from split, ← hid, addChoice_of_split distinct] at blocks
      refine ⟨fun lacks => ?_, fun has => ?_⟩
      · rw [if_neg lacks] at blocks
        obtain ⟨opening, lines, gains⟩ :=
          Program.gainsLines_target split (program.trans (by rw [blocks]))
        exact ⟨before, after, opening, split, lines, gains⟩
      · rw [if_pos has, ← split] at blocks
        exact congrArg Program.text (program.trans (by rw [blocks]))
  · have unfed : g.feederName? s.id = none := by
      rw [feederName?_eq_firstFeeder? hids, hf, Option.map_none]
    exact congrArg Program.text (lead.program_addEdge_of_unfed hids branch unfed)

/-- The first of two blocks gets a target more, and the second one stays where it is. -/
theorem source_addEdge_interleaved :
    let e : Edge Number := ⟨"e12", "branch-2", "action-1", none, false⟩
    let s : Node Number := ⟨"branch-2", .branch, "Conditional Edge", "pick", .null, Point.origin⟩
    let t : Node Number := ⟨"action-1", .action, "Agent", "agent", .null, Point.origin⟩
    let d : Dispatch := ⟨"branch-2", "agent", ["look", "end"]⟩
    (interleaved.nodes.map Node.id).Nodup ∧ interleaved.Leads e s t ∧
      d ∈ interleaved.program.dispatches ∧ interleaved.program.dispatches.length = 2 ∧
      ∃ before after opening, interleaved.program.dispatches = before ++ d :: after ∧
        d.lines interleaved.name (before.length + 1) = opening ++ Dispatch.closing ∧
        GainsLines interleaved.source (interleaved.addEdge e).source
          (interleaved.program.linesUpTo before ++ opening) [targetLine "agent"]
          (Dispatch.closing ++ interleaved.program.linesFrom (before.length + 2) after) := by
  intro e s t d
  have hids : (interleaved.nodes.map Node.id).Nodup := by decide
  have lead : interleaved.Leads e s t := ⟨rfl, rfl, by decide, by decide, by decide, by decide⟩
  have block : d ∈ interleaved.program.dispatches := by decide
  obtain ⟨-, fed, -⟩ := source_addEdge hids lead
  exact ⟨hids, lead, block, by decide, ((fed rfl t rfl).2 d block rfl).1 (by decide)⟩

end Graph

end FlowCanvas

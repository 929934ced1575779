import FlowCanvas.Proofs.Graph.Edit
import FlowCanvas.Proofs.Program.Block
import FlowCanvas.Proofs.Program.Reading

/-!
# Graphs of one frame

Two graphs have one frame if their programs have the same name, the same steps and the same
transitions, and if the same branches have the same choices. All that can still tell their programs
apart is where a run enters and who feeds each of the branches that have a choice. If these agree,
the programs are the same (`SameFrame.program_eq`); if the texts are the same, these agree, either
because no name breaks a line (`SameFrame.agree_of_lines`), or because the one graph has all that
the other one has (`SameFrame.agree_of_source`).
-/

namespace FlowCanvas

universe u v w

/-! ### Blocks that are fed in two ways -/

/-- Lists mapped in two ways, of which the one is defined wherever the other one is, are the same
only if the two ways are. -/
theorem eq_of_filterMap_eq {β : Type v} {γ : Type w} {f f' : β → Option γ} :
    ∀ {l : List β}, (∀ a ∈ l, (f' a).isSome → (f a).isSome) →
      l.filterMap f' = l.filterMap f → ∀ a ∈ l, f' a = f a
  | [], _, _ => fun _ h => absurd h List.not_mem_nil
  | a :: l, hdom, h => by
    have ⟨hhead, htail⟩ := List.forall_mem_cons.mp hdom
    refine List.forall_mem_cons.mpr ?_
    cases hf : f a with
    | none =>
      have hf' : f' a = none := by simpa [hf] using hhead
      rw [List.filterMap_cons_none hf, List.filterMap_cons_none hf'] at h
      exact ⟨hf', eq_of_filterMap_eq htail h⟩
    | some c =>
      cases hf' : f' a with
      | some c' =>
        rw [List.filterMap_cons_some hf, List.filterMap_cons_some hf'] at h
        obtain ⟨hc, hrest⟩ := List.cons.inj h
        exact ⟨congrArg some hc, eq_of_filterMap_eq htail hrest⟩
      | none =>
        -- the longer list cannot be made up for by the rest
        rw [List.filterMap_cons_some hf, List.filterMap_cons_none hf'] at h
        have shorter : (l.filterMap f').length ≤ (l.filterMap f).length := by
          rw [List.length_filterMap_eq_countP, List.length_filterMap_eq_countP]
          exact List.countP_mono_left htail
        rw [h, List.length_cons] at shorter
        exact absurd shorter (by omega)

theorem map_feeder_filterMap_fed (feeder : String → Option String) (ds : List Dispatch) :
    (ds.filterMap (Dispatch.fed feeder)).map Dispatch.feeder =
      ds.filterMap fun d => feeder d.branch := by
  rw [List.map_filterMap]
  refine List.filterMap_congr fun d _ => ?_
  cases h : feeder d.branch <;> simp [Dispatch.fed, h]

/-- More feeders give blocks of more weight, unless they are the same feeders. -/
theorem sum_filterMap_fed {feeder feeder' : String → Option String}
    {weight : Dispatch → Nat} (hweight : ∀ d, 0 < weight d) :
    ∀ {ds : List Dispatch},
      (∀ d ∈ ds, ∀ name, feeder d.branch = some name → feeder' d.branch = some name) →
      ((ds.filterMap (Dispatch.fed feeder)).map weight).sum ≤
          ((ds.filterMap (Dispatch.fed feeder')).map weight).sum ∧
        (((ds.filterMap (Dispatch.fed feeder)).map weight).sum =
            ((ds.filterMap (Dispatch.fed feeder')).map weight).sum →
          ∀ d ∈ ds, feeder' d.branch = feeder d.branch)
  | [], _ => ⟨Nat.le_refl _, fun _ _ h => absurd h List.not_mem_nil⟩
  | d :: ds, hmore => by
    have ⟨hhead, htail⟩ := List.forall_mem_cons.mp hmore
    obtain ⟨hle, heq⟩ := sum_filterMap_fed hweight htail
    cases h : feeder d.branch with
    | some name =>
      -- a block that both lists have weighs the same in both
      have h' := hhead name h
      simp only [List.filterMap_cons, Dispatch.fed, h, h', Option.map_some, List.map_cons,
        List.sum_cons, List.forall_mem_cons, true_and] at hle heq ⊢
      exact ⟨by omega, fun hsum => heq (by omega)⟩
    | none =>
      cases h' : feeder' d.branch with
      | none =>
        simp only [List.filterMap_cons, Dispatch.fed, h, h', Option.map_none,
          List.forall_mem_cons, true_and] at hle heq ⊢
        exact ⟨hle, heq⟩
      | some name =>
        -- a block that only the second list has is too much for the sums to be the same
        have hpos := hweight { d with feeder := name }
        simp only [List.filterMap_cons, Dispatch.fed, h, h', Option.map_none, Option.map_some,
          List.map_cons, List.sum_cons] at hle heq ⊢
        exact ⟨by omega, fun hsum => absurd hsum (by omega)⟩

namespace Graph

variable {α : Type u}

/-! ### Edges out of branches -/

/-- What is no terminal is no START. -/
theorem isStart_eq_false_of_role? {g : Graph α} {id : String} (h : g.role? id ≠ some .terminal) :
    g.isStart id = false := by
  simp only [isStart, role?] at h ⊢
  cases hn : latest? g.nodes id with
  | none => rfl
  | some n =>
    rw [hn, Option.map_some] at h
    simp only [Option.any_some, decide_eq_false_iff_not]
    intro hstart
    exact h (by rw [Node.role, hstart]; rfl)

theorem mem_liveEdges_iff {g : Graph α} {e : Edge α} :
    e ∈ g.liveEdges ↔ e ∈ g.edges ∧ g.role? e.source ≠ some .remark ∧
      g.role? e.target ≠ some .remark ∧ g.isStart e.source = false := by
  simp [liveEdges, isLive, and_assoc]

theorem mem_chosenEdges_iff {g : Graph α} {e : Edge α} :
    e ∈ g.chosenEdges ↔
      e ∈ g.edges ∧ g.role? e.source = some .dispatch ∧ g.role? e.target ≠ some .remark := by
  rw [chosenEdges, List.mem_filter, mem_liveEdges_iff, decide_eq_true_eq]
  constructor
  · rintro ⟨⟨he, -, htarget, -⟩, hsource⟩
    exact ⟨he, hsource, htarget⟩
  · rintro ⟨he, hsource, htarget⟩
    have live : g.role? e.source ≠ some .remark := by rw [hsource]; decide
    have inner : g.isStart e.source = false := isStart_eq_false_of_role? (by rw [hsource]; decide)
    exact ⟨⟨he, live, htarget, inner⟩, hsource⟩

theorem exists_source_of_mem_chosenEdges {g : Graph α} {e : Edge α} (he : e ∈ g.chosenEdges) :
    ∃ n, latest? g.nodes e.source = some n ∧ n.role = .dispatch :=
  Option.map_eq_some_iff.mp (mem_chosenEdges_iff.mp he).2.1

/-! ### The frame -/

/-- Whether a branch has a choice: a live edge to a node. -/
def HasChoice (g : Graph α) (id : String) : Prop :=
  ∃ e ∈ g.chosenEdges, e.source = id ∧ g.has e.target = true

instance (g : Graph α) (id : String) : Decidable (g.HasChoice id) :=
  inferInstanceAs (Decidable (∃ e ∈ g.chosenEdges, e.source = id ∧ g.has e.target = true))

theorem hasChoice_iff {g : Graph α} {id : String} :
    g.HasChoice id ↔ id ∈ (outline g.nodes g.chosenEdges).map Dispatch.branch := by
  rw [mem_branches_outline]
  refine exists_congr fun e => and_congr_right fun he => and_congr_right fun hid => ?_
  have source : (latest? g.nodes id).isSome = true := by
    obtain ⟨n, hn, -⟩ := exists_source_of_mem_chosenEdges he
    rw [← hid, hn, Option.isSome_some]
  rw [latest?_isSome g.nodes e.target]
  exact ⟨fun h => ⟨source, h⟩, And.right⟩

theorem hasChoice_of_mem {g : Graph α} {d : Dispatch}
    (hd : d ∈ outline g.nodes g.chosenEdges) : g.HasChoice d.branch :=
  hasChoice_iff.mpr (List.mem_map_of_mem hd)

theorem program_dispatches (g : Graph α) :
    g.program.dispatches =
      (outline g.nodes g.chosenEdges).filterMap (Dispatch.fed g.feederName?) :=
  dispatches_eq g.nodes g.edges g.chosenEdges

section Blocks

variable {g : Graph α} {d : Dispatch}

/-- A block of a program is a block of the outline under the name of what feeds its branch. -/
theorem exists_outline_of_mem (hd : d ∈ g.program.dispatches) :
    ∃ o ∈ outline g.nodes g.chosenEdges, o.branch = d.branch ∧ o.targets = d.targets ∧
      g.feederName? o.branch = some d.feeder := by
  rw [program_dispatches] at hd
  obtain ⟨o, ho, hfed⟩ := List.mem_filterMap.mp hd
  obtain ⟨name, hname, rfl⟩ := Option.map_eq_some_iff.mp hfed
  exact ⟨o, ho, rfl, rfl, hname⟩

/-- **A branch that has a choice and is fed has a block.** -/
theorem exists_mem_dispatches {id name : String} (hid : g.HasChoice id)
    (hname : g.feederName? id = some name) :
    ∃ d ∈ g.program.dispatches, d.branch = id ∧ d.feeder = name := by
  obtain ⟨o, ho, rfl⟩ := List.mem_map.mp (hasChoice_iff.mp hid)
  rw [program_dispatches]
  exact ⟨{ o with feeder := name },
    List.mem_filterMap.mpr ⟨o, ho, by rw [Dispatch.fed, hname, Option.map_some]⟩, rfl, rfl⟩

/-- No other branch has one. -/
theorem hasChoice_of_mem_dispatches (hd : d ∈ g.program.dispatches) : g.HasChoice d.branch := by
  obtain ⟨o, ho, hbranch, -⟩ := exists_outline_of_mem hd
  exact hbranch ▸ hasChoice_of_mem ho

/-- A block stands under the name of what feeds its branch. -/
theorem feederName?_of_mem (hd : d ∈ g.program.dispatches) :
    g.feederName? d.branch = some d.feeder := by
  obtain ⟨o, -, hbranch, -, hname⟩ := exists_outline_of_mem hd
  exact hbranch ▸ hname

/-- The targets of a block are those of the live edges that leave its branch. -/
theorem mem_targets_iff (hd : d ∈ g.program.dispatches) {t : String} :
    t ∈ d.targets ↔ ∃ e ∈ g.chosenEdges, e.source = d.branch ∧
      (latest? g.nodes e.target).map Node.nameInCode = some t := by
  obtain ⟨o, ho, hbranch, htargets, -⟩ := exists_outline_of_mem hd
  rw [← htargets, mem_targets_outline ho t, hbranch]
  refine exists_congr fun e => and_congr_right fun he => and_congr_right fun _ => ?_
  obtain ⟨n, hn, -⟩ := exists_source_of_mem_chosenEdges he
  rw [hn, Option.isSome_some, and_iff_right rfl]

end Blocks

/-- That the programs of two graphs differ at most in the entry and in the feeders. -/
structure SameFrame (h g : Graph α) : Prop where
  /-- the name of the graph -/
  name : h.name = g.name
  /-- the steps -/
  registrations : h.program.registrations = g.program.registrations
  /-- the transitions -/
  transitions : h.program.transitions = g.program.transitions
  /-- the branches with their choices -/
  outline : outline h.nodes h.chosenEdges = outline g.nodes g.chosenEdges

/-- That a run enters two graphs under one name, and that the branches that have a choice are fed
under the same names. -/
structure SameFeeders (h g : Graph α) : Prop where
  /-- the entry -/
  entry : h.program.entry = g.program.entry
  /-- the feeders -/
  feeder : ∀ id, g.HasChoice id → h.feederName? id = g.feederName? id

namespace SameFrame

variable {g h k : Graph α}

theorem trans (hkh : SameFrame k h) (hhg : SameFrame h g) : SameFrame k g where
  name := hkh.name.trans hhg.name
  registrations := hkh.registrations.trans hhg.registrations
  transitions := hkh.transitions.trans hhg.transitions
  outline := hkh.outline.trans hhg.outline

theorem sameFeeders (hentry : h.program.entry = g.program.entry)
    (hfeeder : ∀ d ∈ Graph.outline g.nodes g.chosenEdges,
      h.feederName? d.branch = g.feederName? d.branch) : SameFeeders h g where
  entry := hentry
  feeder id hid := by
    obtain ⟨d, hd, rfl⟩ := List.mem_map.mp (hasChoice_iff.mp hid)
    exact hfeeder d hd

/-- **Graphs of one frame with the same feeders have the same program.** -/
theorem program_eq (frame : SameFrame h g) (same : SameFeeders h g) : h.program = g.program := by
  have name : h.program.name = g.program.name := frame.name
  have blocks : h.program.dispatches = g.program.dispatches := by
    rw [program_dispatches, program_dispatches, frame.outline]
    refine List.filterMap_congr fun d hd => ?_
    rw [Dispatch.fed, Dispatch.fed, same.feeder d.branch (hasChoice_of_mem hd)]
  calc
    h.program = ⟨h.program.name, h.program.registrations, h.program.entry, h.program.dispatches,
      h.program.transitions⟩ := rfl
    _ = g.program := by
      rw [name, frame.registrations, same.entry, blocks, frame.transitions]

/-- Lines tell feeders apart, where the one graph feeds all that the other one feeds. -/
theorem agree_of_lines (frame : SameFrame h g)
    (hfed : ∀ id, g.HasChoice id → (h.feederName? id).isSome → (g.feederName? id).isSome)
    (hlines : h.program.lines = g.program.lines) : SameFeeders h g := by
  obtain ⟨hentry, hblocks⟩ :=
    Program.lines_inj frame.name frame.registrations frame.transitions hlines
  rw [program_dispatches, program_dispatches, frame.outline, map_feeder_filterMap_fed,
    map_feeder_filterMap_fed] at hblocks
  exact sameFeeders hentry
    (eq_of_filterMap_eq (fun d hd => hfed d.branch (hasChoice_of_mem hd)) hblocks)

/-- The text tells an entry and feeders from none. -/
theorem agree_of_source (frame : SameFrame h g)
    (hentry : ∀ name, g.program.entry = some name → h.program.entry = some name)
    (hfeeder : ∀ id, g.HasChoice id → ∀ name,
      g.feederName? id = some name → h.feederName? id = some name)
    (hsource : h.source = g.source) : SameFeeders h g := by
  have total := congrArg Program.brackets hsource
  rw [source, source, Program.brackets_text_eq, Program.brackets_text_eq] at total
  have name : h.program.name = g.program.name := frame.name
  rw [name, frame.registrations, frame.transitions, program_dispatches, program_dispatches,
    frame.outline] at total
  -- with feeders added there can only be more brackets, and there are as many
  obtain ⟨hle, heq⟩ := sum_filterMap_fed (Program.blockBrackets_pos g.program.name)
    fun d hd => hfeeder d.branch (hasChoice_of_mem hd)
  cases hg : g.program.entry with
  | some name =>
    rw [hg, hentry name hg] at total
    exact sameFeeders (by rw [hg, hentry name hg]) (heq (by omega))
  | none =>
    cases hh : h.program.entry with
    | none =>
      rw [hg, hh] at total
      exact sameFeeders (by rw [hg, hh]) (heq (by omega))
    | some name =>
      rw [hg, hh] at total
      have hpos := Program.brackets_entryLine_pos g.program.name name
      simp only [Option.map_some, Option.map_none, Option.toList_some, Option.toList_none,
        List.map_cons, List.map_nil, List.sum_cons, List.sum_nil] at total
      exact absurd total (by omega)

end SameFrame

/-! ### Names that break no line -/

/-- That no name in a graph breaks a line. -/
structure OnOneLine (g : Graph α) : Prop where
  /-- the name of the graph -/
  name : '\n' ∉ g.name.toList
  /-- the names of the nodes -/
  node : ∀ n ∈ g.nodes, '\n' ∉ n.nameInCode.toList
  /-- the names of what the nodes run -/
  implementation : ∀ n ∈ g.nodes, '\n' ∉ n.implementationName.toList

theorem mem_nodes_of_entry {g : Graph α} {n : Node α} (h : g.entry? = some n) : n ∈ g.nodes := by
  obtain ⟨start, -, hstart⟩ := Option.bind_eq_some_iff.mp h
  obtain ⟨e, -, he⟩ := Option.bind_eq_some_iff.mp hstart
  exact mem_of_node? he

theorem transition?_eq_some_iff {g : Graph α} {e : Edge α} {t : Transition} :
    g.transition? e = some t ↔ ∃ m n, latest? g.nodes e.source = some m ∧
      latest? g.nodes e.target = some n ∧ m.role ≠ .dispatch ∧ n.role ≠ .dispatch ∧
      ⟨m.nameInCode, n.nameInCode⟩ = t := by
  simp only [transition?]
  cases latest? g.nodes e.source with
  | none => simp
  | some m =>
    cases latest? g.nodes e.target with
    | none => simp
    | some n =>
      by_cases h : m.role = .dispatch ∨ n.role = .dispatch
      · simp only [if_pos h]
        constructor
        · rintro ⟨⟩
        · rintro ⟨_, _, ⟨⟩, ⟨⟩, hm, hn, -⟩
          exact absurd h (not_or.mpr ⟨hm, hn⟩)
      · obtain ⟨hm, hn⟩ := not_or.mp h
        simp only [if_neg h]
        constructor
        · intro same
          exact ⟨m, n, rfl, rfl, hm, hn, Option.some.inj same⟩
        · rintro ⟨_, _, ⟨⟩, ⟨⟩, -, -, same⟩
          rw [same]

theorem digits_on_one_line (n : Nat) : '\n' ∉ (toString n).toList := by
  intro h
  rw [Nat.toString_eq_repr, Nat.toList_repr] at h
  exact absurd (Nat.isDigit_of_mem_toDigits (by decide) (by decide) h) (by decide)

theorem dispatchLines_on_one_line {graph : String} (hname : '\n' ∉ graph.toList) :
    ∀ {ds : List Dispatch} {index : Nat},
      (∀ d ∈ ds, '\n' ∉ d.feeder.toList ∧ ∀ t ∈ d.targets, '\n' ∉ t.toList) →
        ∀ l ∈ dispatchLines graph index ds, '\n' ∉ l.toList
  | [], _, _ => fun _ h => absurd h List.not_mem_nil
  | d :: ds, index, h => by
    have ⟨⟨hfeeder, htargets⟩, hrest⟩ := List.forall_mem_cons.mp h
    have target : ∀ t ∈ d.targets, '\n' ∉ (targetLine t).toList := fun t ht => by
      simp [targetLine, indentation, inQuotes, htargets t ht]
    have number : '\n' ∉
        (indentation ++ "conditional_function_" ++ toString index ++ ",").toList := by
      simp only [String.toList_append, List.mem_append, not_or]
      exact ⟨⟨by decide, digits_on_one_line index⟩, by decide⟩
    refine List.forall_mem_append.mpr ⟨?_, dispatchLines_on_one_line hname hrest⟩
    simp only [Dispatch.lines, List.forall_mem_append, List.forall_mem_cons, List.forall_mem_map]
    refine ⟨⟨⟨by decide, ?_, ?_, number, by decide, by simp⟩, target⟩, by decide, by decide,
      by simp⟩
    · simp [hname]
    · simp [indentation, inQuotes, hfeeder]

theorem headerLines_on_one_line {graph : String} (hname : '\n' ∉ graph.toList) :
    ∀ l ∈ headerLines graph, '\n' ∉ l.toList := by
  simp only [headerLines, List.forall_mem_cons]
  refine ⟨by decide, by decide, by decide, by decide, by decide, by decide, by decide, by decide,
    by decide, ?_, by simp⟩
  simp [hname]

namespace OnOneLine

variable {g : Graph α} (hg : g.OnOneLine)
include hg

theorem registration {r : Registration} (hr : r ∈ g.program.registrations) :
    '\n' ∉ (r.line g.program.name).toList := by
  have hname : '\n' ∉ g.program.name.toList := hg.name
  obtain ⟨n, hn, rfl⟩ := List.mem_map.mp hr
  have hmem := (List.mem_filter.mp hn).1
  have run : '\n' ∉ (if n.registration.quoted then inQuotes n.registration.implementation
      else n.registration.implementation).toList := by
    split <;> simp [Node.registration, inQuotes, hg.implementation n hmem]
  simp only [Registration.line, String.toList_append, List.mem_append, not_or]
  refine ⟨⟨⟨⟨⟨hname, by decide⟩, ?_⟩, by decide⟩, run⟩, by decide⟩
  simp [Node.registration, inQuotes, hg.node n hmem]

theorem entry : ∀ l ∈ (g.program.entry.map (entryLine g.program.name)).toList,
    '\n' ∉ l.toList := by
  have hname : '\n' ∉ g.program.name.toList := hg.name
  intro l hl
  obtain ⟨name, hentry, rfl⟩ := Option.map_eq_some_iff.mp (Option.mem_toList.mp hl)
  obtain ⟨n, hn, rfl⟩ := Option.map_eq_some_iff.mp hentry
  simp [toList_entryLine, hname, hg.node n (mem_nodes_of_entry hn)]

/-- What a block names are nodes of the graph. -/
theorem dispatch {d : Dispatch} (hd : d ∈ g.program.dispatches) :
    '\n' ∉ d.feeder.toList ∧ ∀ t ∈ d.targets, '\n' ∉ t.toList := by
  refine ⟨?_, fun t ht => ?_⟩
  · obtain ⟨n, hn, hfeeder⟩ := Option.map_eq_some_iff.mp (feederName?_of_mem hd)
    rw [← hfeeder]
    exact hg.node n (mem_of_feeder? hn)
  · obtain ⟨e, -, -, htarget⟩ := (mem_targets_iff hd).mp ht
    obtain ⟨n, hn, rfl⟩ := Option.map_eq_some_iff.mp htarget
    exact hg.node n (mem_of_latest? hn)

theorem transition {t : Transition} (ht : t ∈ g.program.transitions) :
    '\n' ∉ (t.line g.program.name).toList := by
  have hname : '\n' ∉ g.program.name.toList := hg.name
  obtain ⟨e, -, he⟩ := List.mem_filterMap.mp ht
  obtain ⟨m, n, hm, hn, -, -, rfl⟩ := transition?_eq_some_iff.mp he
  simp [Transition.line, inQuotes, hname, hg.node m (mem_of_latest? hm),
    hg.node n (mem_of_latest? hn)]

/-- Then each line of the program is one line. -/
theorem lines : ∀ l ∈ g.program.lines, '\n' ∉ l.toList := by
  have blocks : ∀ l ∈ dispatchLines g.program.name 1 g.program.dispatches, '\n' ∉ l.toList :=
    dispatchLines_on_one_line hg.name fun _ hd => hg.dispatch hd
  simp only [Program.lines, List.forall_mem_append, List.forall_mem_map]
  exact ⟨⟨⟨⟨headerLines_on_one_line hg.name, fun _ hr => hg.registration hr⟩, hg.entry⟩, blocks⟩,
    fun _ ht => hg.transition ht⟩

end OnOneLine

end Graph

end FlowCanvas

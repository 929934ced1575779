import FlowCanvas.Proofs.Program.Pruning

/-!
# Remarks

Remarks are for the reader of a canvas. Neither they nor the edges that touch them have a line of
their own in a program, but a remark is a node, so it counts where the first edge out of START leads
to it, or where the first edge into a branch comes from it. The main result says that this is the
only trace that remarks leave (`source_withoutRemarks`). It is shown in two steps: first the edges
go that touch remarks, then the remarks go that no edge touches any more.
-/

namespace FlowCanvas

universe u

namespace Graph

variable {α : Type u}

/-- The ids of the remarks. -/
def remarkIds (g : Graph α) : List String := (g.nodes.filter fun n => n.role = .remark).map Node.id

/-- A graph without its remarks and the edges that touch them. -/
def withoutRemarks (g : Graph α) : Graph α := g.removeNodes g.remarkIds

/-- That a remark which comes first where only the first one counts has the name of the one that
would count without it. -/
structure RemarksHidden (g : Graph α) : Prop where
  /-- the remark that START leads to -/
  start : ∀ s e n, g.start? = some s → g.firstFrom? s.id = some e → g.node? e.target = some n →
    n.role = .remark → g.withoutRemarks.program.entry = some n.nameInCode
  /-- the remark that leads to a branch with a choice -/
  branch : ∀ id e n, g.HasChoice id → g.firstInto? id = some e → g.node? e.source = some n →
    n.role = .remark → g.withoutRemarks.feederName? id = some n.nameInCode

section Remarks

variable {g : Graph α}

theorem mem_remarkIds {id : String} :
    id ∈ g.remarkIds ↔ ∃ n ∈ g.nodes, n.role = .remark ∧ n.id = id := by
  simp [remarkIds, and_assoc]

section Distinct

variable (hids : (g.nodes.map Node.id).Nodup)
include hids

theorem mem_remarkIds_iff_role {n : Node α} (hn : n ∈ g.nodes) :
    n.id ∈ g.remarkIds ↔ n.role = .remark := by
  rw [mem_remarkIds]
  constructor
  · rintro ⟨m, hm, hrole, hid⟩
    rwa [eq_of_id_eq hids hn hm hid.symm]
  · exact fun h => ⟨n, hn, h, rfl⟩

theorem latest?_eq_node? (id : String) : latest? g.nodes id = g.node? id := by
  cases hn : g.node? id with
  | none =>
    rw [← Option.not_isSome_iff_eq_none, latest?_isSome]
    have absent := node?_isSome g id
    rw [hn] at absent
    simpa [has] using absent.symm
  | some n =>
    have there := latest?_isSome g.nodes id
    obtain ⟨m, hm⟩ := Option.isSome_iff_exists.mp
      (there.trans ((node?_isSome g id).symm.trans (by rw [hn, Option.isSome_some])))
    rw [hm, eq_of_id_eq hids (mem_of_latest? hm) (mem_of_node? hn)
      ((id_of_latest? hm).trans (id_of_node? hn).symm)]

theorem role?_eq_remark_iff {id : String} : g.role? id = some .remark ↔ id ∈ g.remarkIds := by
  rw [role?, Option.map_eq_some_iff, mem_remarkIds]
  constructor
  · rintro ⟨n, hn, hrole⟩
    exact ⟨n, mem_of_latest? hn, hrole, id_of_latest? hn⟩
  · rintro ⟨n, hn, hrole, rfl⟩
    obtain ⟨m, hm⟩ := Option.isSome_iff_exists.mp
      ((latest?_isSome g.nodes n.id).trans (has_iff.mpr ⟨n, hn, rfl⟩))
    exact ⟨m, hm, by rwa [eq_of_id_eq hids (mem_of_latest? hm) hn (id_of_latest? hm)]⟩

/-- Edges that touch a remark are not live. -/
theorem sameFrame_untouched : SameFrame (g.keepEdges fun e => !e.touches g.remarkIds) g := by
  refine sameFrame_keepEdges fun e _ he => .inl ?_
  have touched : e.source ∈ g.remarkIds ∨ e.target ∈ g.remarkIds := by
    simpa [Edge.touches, imp_iff_not_or] using he
  rw [← role?_eq_remark_iff hids, ← role?_eq_remark_iff hids] at touched
  rcases touched with h | h <;> simp [isLive, h]

/-- Removed nodes that are not steps are not missed among the steps. -/
theorem registrations_withoutRemarks :
    g.withoutRemarks.program.registrations = g.program.registrations := by
  refine congrArg (List.map Node.registration) ?_
  rw [withoutRemarks, removeNodes_nodes, List.filter_filter]
  refine List.filter_congr fun n hn => ?_
  have hrole := mem_remarkIds_iff_role hids hn
  cases h : n.role <;> simp_all

theorem start?_withoutRemarks : g.withoutRemarks.start? = g.start? := by
  rw [start?, first?, start?, first?, withoutRemarks, removeNodes_nodes, List.find?_filter]
  refine List.find?_congr fun n hn => ?_
  have hrole := mem_remarkIds_iff_role hids hn
  by_cases h : n.category = .start
  · simp [h, hrole, Node.role, Category.role]
  · simp [h]

end Distinct

/-! Where no edge leads to a removed node, look-ups do not meet it. -/

theorem latest?_removeNodes {ids : List String} {id : String} (h : id ∉ ids) :
    latest? (g.removeNodes ids).nodes id = latest? g.nodes id := by
  rw [latest?, latest?, removeNodes_nodes, ← List.filter_reverse, List.find?_filter]
  refine List.find?_congr fun n _ => ?_
  by_cases hid : n.id = id
  · simp [hid, h]
  · simp [hid]

theorem liveEdges_removeNodes (ids : List String) :
    (g.removeNodes ids).liveEdges = (g.keepEdges fun e => !e.touches ids).liveEdges := by
  refine List.filter_congr fun e he => ?_
  obtain ⟨hs, ht⟩ := untouched he
  simp only [isLive, role?, isStart, latest?_removeNodes hs, latest?_removeNodes ht]
  rfl

theorem sameFrame_removeNodes {ids : List String}
    (h : (g.removeNodes ids).program.registrations = g.program.registrations) :
    SameFrame (g.removeNodes ids) (g.keepEdges fun e => !e.touches ids) where
  name := rfl
  registrations := h
  transitions := by
    -- an edge that is left touches no removed node, so that its ends are found as before
    have same : (g.removeNodes ids).liveEdges.filterMap (g.removeNodes ids).transition? =
        (g.removeNodes ids).liveEdges.filterMap g.transition? := by
      refine List.filterMap_congr fun e he => ?_
      obtain ⟨hs, ht⟩ := untouched (List.mem_filter.mp he).1
      rw [transition?, latest?_removeNodes hs, latest?_removeNodes ht, transition?]
    exact same.trans (by rw [liveEdges_removeNodes]; rfl)
  outline := by
    have chosen : (g.removeNodes ids).chosenEdges =
        (g.keepEdges fun e => !e.touches ids).chosenEdges := by
      rw [chosenEdges, chosenEdges, ← liveEdges_removeNodes]
      refine List.filter_congr fun e he => ?_
      obtain ⟨hs, -⟩ := untouched (List.mem_filter.mp he).1
      simp only [role?, latest?_removeNodes hs]
      rfl
    have arms : (g.removeNodes ids).chosenEdges.filterMap (arm? (g.removeNodes ids).nodes) =
        (g.removeNodes ids).chosenEdges.filterMap (arm? g.nodes) := by
      refine List.filterMap_congr fun e he => ?_
      obtain ⟨hs, ht⟩ := untouched (List.mem_filter.mp (List.mem_filter.mp he).1).1
      rw [arm?, latest?_removeNodes hs, latest?_removeNodes ht, arm?]
    rw [outline, arms, chosen]
    rfl

section Distinct

variable (hids : (g.nodes.map Node.id).Nodup)
include hids

theorem sameFrame_withoutRemarks : SameFrame g.withoutRemarks g :=
  (sameFrame_removeNodes (registrations_withoutRemarks hids)).trans (sameFrame_untouched hids)

/-- A node at one end of an edge that is touched by remarks only there. -/
theorem node?_of_mem_remarkIds {id : String} (h : id ∈ g.remarkIds) :
    ∃ n, g.node? id = some n ∧ n.role = .remark := by
  obtain ⟨n, hn, hrole, rfl⟩ := mem_remarkIds.mp h
  exact ⟨n, node?_of_mem hids hn, hrole⟩

theorem entry_withoutRemarks_iff :
    g.withoutRemarks.program.entry = g.program.entry ↔
      ∀ s e n, g.start? = some s → g.firstFrom? s.id = some e → g.node? e.target = some n →
        n.role = .remark → g.withoutRemarks.program.entry = some n.nameInCode := by
  constructor
  · intro h s e n hs he hn _
    rw [h, program_entry, hs, Option.bind_some, he, Option.bind_some, hn]
    rfl
  · intro h
    -- the entry is the target of the first edge from START; where START or the edge is missing,
    -- there is none in either graph
    cases hs : g.start? with
    | none => rw [program_entry, program_entry, start?_withoutRemarks hids, hs]; rfl
    | some s =>
      have notRemark : s.id ∉ g.remarkIds := by
        have hcategory : s.category = .start := by simpa using List.find?_some hs
        rw [mem_remarkIds_iff_role hids (List.mem_of_find?_eq_some hs), Node.role, hcategory]
        decide
      cases he : g.firstFrom? s.id with
      | none =>
        have none' : g.withoutRemarks.firstFrom? s.id = none := find?_filter_eq_none he
        rw [program_entry, program_entry, start?_withoutRemarks hids, hs, Option.bind_some,
          Option.bind_some, he, none']
        rfl
      | some e =>
        have hsource : e.source = s.id := by simpa using List.find?_some he
        by_cases ht : e.target ∈ g.remarkIds
        · obtain ⟨n, hn, hrole⟩ := node?_of_mem_remarkIds hids ht
          rw [h s e n hs he hn hrole, program_entry, hs, Option.bind_some, he, Option.bind_some, hn]
          rfl
        · -- the edge touches no remark and stays the first one, and so does its target
          have kept : g.withoutRemarks.firstFrom? s.id = some e :=
            find?_filter_of_pos he (by simp [Edge.touches, hsource, notRemark, ht])
          rw [program_entry, program_entry, start?_withoutRemarks hids, hs, Option.bind_some,
            Option.bind_some, he, kept, Option.bind_some, Option.bind_some, withoutRemarks,
            node?_removeNodes ht]

/-- What leads to a branch, with and without remarks: the same, unless a remark comes first. -/
theorem feederName?_withoutRemarks {id : String} (hid : g.HasChoice id) :
    g.withoutRemarks.feederName? id = g.feederName? id ∨
      ∃ e n, g.firstInto? id = some e ∧ g.node? e.source = some n ∧ n.role = .remark ∧
        g.feederName? id = some n.nameInCode := by
  have notRemark : id ∉ g.remarkIds := by
    obtain ⟨e, he, rfl, -⟩ := hid
    have hrole := (mem_chosenEdges_iff.mp he).2.1
    rw [← role?_eq_remark_iff hids, hrole]
    decide
  cases he : g.firstInto? id with
  | none =>
    have none' : g.withoutRemarks.firstInto? id = none := find?_filter_eq_none he
    rw [feederName?_eq, feederName?_eq, he, none']
    exact .inl rfl
  | some e =>
    have htarget : e.target = id := by simpa using List.find?_some he
    by_cases hs : e.source ∈ g.remarkIds
    · obtain ⟨n, hn, hrole⟩ := node?_of_mem_remarkIds hids hs
      refine .inr ⟨e, n, rfl, hn, hrole, ?_⟩
      rw [feederName?_eq, he, Option.bind_some, latest?_eq_node? hids, hn]
      rfl
    · -- the edge touches no remark and stays the first one
      have kept : g.withoutRemarks.firstInto? id = some e :=
        find?_filter_of_pos he (by simp [Edge.touches, htarget, notRemark, hs])
      rw [feederName?_eq, feederName?_eq, he, kept, Option.bind_some, Option.bind_some,
        withoutRemarks, latest?_removeNodes hs]
      exact .inl rfl

theorem remarksHidden_iff : g.RemarksHidden ↔ SameFeeders g.withoutRemarks g := by
  constructor
  · intro h
    refine ⟨(entry_withoutRemarks_iff hids).mpr h.start, fun id hid => ?_⟩
    obtain same | ⟨e, n, he, hn, hrole, hname⟩ := feederName?_withoutRemarks hids hid
    · exact same
    · rw [hname, h.branch id e n hid he hn hrole]
  · intro h
    refine ⟨(entry_withoutRemarks_iff hids).mp h.entry, fun id e n hid he hn _ => ?_⟩
    rw [h.feeder id hid, feederName?_eq, he, Option.bind_some, latest?_eq_node? hids, hn]
    rfl

/-- **Remarks leave no trace in the lines of a program exactly if each remark that comes first has
the name of the one that would count without it.** The text is then the same, and if no name breaks
a line, then only then. -/
theorem source_withoutRemarks :
    (g.withoutRemarks.program.lines = g.program.lines ↔ g.RemarksHidden) ∧
      (g.RemarksHidden → g.withoutRemarks.source = g.source) ∧
      (g.OnOneLine → (g.withoutRemarks.source = g.source ↔ g.RemarksHidden)) := by
  have frame := sameFrame_withoutRemarks hids
  have hidden (h : g.RemarksHidden) : g.withoutRemarks.program = g.program :=
    frame.program_eq ((remarksHidden_iff hids).mp h)
  have lines : g.withoutRemarks.program.lines = g.program.lines ↔ g.RemarksHidden := by
    refine ⟨fun h => (remarksHidden_iff hids).mpr (frame.agree_of_lines (fun id hid hfed => ?_) h),
      fun h => congrArg Program.lines (hidden h)⟩
    -- a branch that is fed without remarks is fed with them
    obtain same | ⟨_, _, _, _, _, hname⟩ := feederName?_withoutRemarks hids hid
    · rwa [← same]
    · rw [hname, Option.isSome_some]
  refine ⟨lines, fun h => congrArg Program.text (hidden h), fun plain => ?_⟩
  have still : g.withoutRemarks.OnOneLine :=
    ⟨plain.name, fun n hn => plain.node n (List.mem_filter.mp hn).1,
      fun n hn => plain.implementation n (List.mem_filter.mp hn).1⟩
  exact ⟨fun h => lines.mp (Program.lines_eq_of_text_eq plain.lines still.lines h),
    fun h => congrArg Program.text (hidden h)⟩

end Distinct

end Remarks

/-! A START edge to a remark, in front of another one. -/

/-- A graph with a remark, whose START leads to a step first. -/
def annotated : Graph Number where
  nodes := [⟨"start-1", .start, "START", "start", .null, Point.origin⟩,
    ⟨"text-1", .remark, "Text", "note", .null, Point.origin⟩,
    ⟨"action-1", .action, "Agent", "agent", .null, Point.origin⟩]
  edges := [⟨"e1", "start-1", "action-1", none, false⟩, ⟨"e2", "start-1", "text-1", none, false⟩,
    ⟨"e3", "text-1", "action-1", none, false⟩]
  entryPoint := .null
  name := defaultGraphName

theorem source_withoutRemarks_annotated :
    (annotated.nodes.map Node.id).Nodup ∧ annotated.OnOneLine ∧ annotated.RemarksHidden ∧
      annotated.withoutRemarks.source = annotated.source := by
  have distinct : (annotated.nodes.map Node.id).Nodup := by decide
  have plain : annotated.OnOneLine := ⟨by decide, by decide, by decide⟩
  have hidden : annotated.RemarksHidden := by
    constructor
    · intro s e n hs he hn hrole
      cases hs
      cases he
      cases hn
      cases hrole
    · rintro id e n ⟨d, hd, -⟩
      have none : annotated.chosenEdges = [] := rfl
      exact absurd (none ▸ hd) List.not_mem_nil
  exact ⟨distinct, plain, hidden, (source_withoutRemarks distinct).2.1 hidden⟩

/-- The same graph with the edges the other way round. -/
def remarkFirst : Graph Number := { annotated with edges := annotated.edges.reverse }

/-- The program is entered at the remark. -/
theorem source_ne_withoutRemarks_remarkFirst :
    (remarkFirst.nodes.map Node.id).Nodup ∧
      remarkFirst.withoutRemarks.source ≠ remarkFirst.source := by
  decide +kernel

end Graph

end FlowCanvas

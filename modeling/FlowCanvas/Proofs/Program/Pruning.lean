import FlowCanvas.Number.Basic
import FlowCanvas.Proofs.Program.Frame
import Mathlib.Data.List.Find

/-!
# Edges that dangle

An edge that dangles has no line of its own in a program. But where only the first edge counts, at
START and at a branch, it may come first and keep the next edge from counting. The main result says
that this is the only trace such edges leave (`source_withoutDangling_iff`). What is shown on the
way holds for any edges that have no line of their own.
-/

namespace FlowCanvas

universe u v w

/-! ### The first of some -/

section First

variable {β : Type v} {γ : Type w} {keep first : β → Bool} {link : β → Option γ} {l : List β}

/-- The first one stays the first, if it is kept. -/
theorem find?_filter_of_pos {b : β} (h : l.find? first = some b) (hb : keep b = true) :
    (l.filter keep).find? first = some b := by
  induction l with
  | nil => cases h
  | cons c rest ih =>
    by_cases hc : first c = true
    · rw [List.find?_cons_of_pos hc] at h
      obtain rfl := Option.some.inj h
      rw [List.filter_cons_of_pos hb, List.find?_cons_of_pos hc]
    · rw [List.find?_cons_of_neg hc] at h
      by_cases hk : keep c = true
      · rw [List.filter_cons_of_pos hk, List.find?_cons_of_neg hc, ih h]
      · rw [List.filter_cons_of_neg hk, ih h]

theorem find?_filter_eq_none (h : l.find? first = none) : (l.filter keep).find? first = none :=
  List.find?_eq_none.mpr fun b hb => List.find?_eq_none.mp h b (List.mem_filter.mp hb).1

/-- If those that link to something are kept, what the first one links to stays. -/
theorem link_filter_of_some (hkeep : ∀ b ∈ l, first b = true → keep b = (link b).isSome) {c : γ}
    (h : (l.find? first).bind link = some c) :
    ((l.filter keep).find? first).bind link = some c := by
  obtain ⟨b, hb, hlink⟩ := Option.bind_eq_some_iff.mp h
  have hk : keep b = true := by
    rw [hkeep b (List.mem_of_find?_eq_some hb) (List.find?_some hb), hlink, Option.isSome_some]
  rw [find?_filter_of_pos hb hk, Option.bind_some, hlink]

/-- If just those that link to something are kept, the first link changes exactly if the first one
links to nothing while a later one links to something. -/
theorem link_filter_eq_iff (hkeep : ∀ b ∈ l, first b = true → keep b = (link b).isSome) :
    ((l.filter keep).find? first).bind link = (l.find? first).bind link ↔
      ∀ b, l.find? first = some b →
        (link b).isSome = true ∨ ∀ d ∈ l, first d = true → link d = none := by
  cases hfirst : l.find? first with
  | none => simp [find?_filter_eq_none hfirst]
  | some b =>
    cases hlink : link b with
    | some c =>
      have stays := link_filter_of_some hkeep (c := c) (by rw [hfirst, Option.bind_some, hlink])
      rw [stays, Option.bind_some, hlink]
      simp [hlink]
    | none =>
      simp only [Option.bind_some, hlink, Option.some.injEq, forall_eq', Option.isSome_none,
        Bool.false_eq_true, false_or, Option.bind_eq_none_iff]
      constructor
      · intro h d hd hfd
        -- a later link would make its edge a candidate, and the winner would link to something
        by_contra hne
        have hkd : keep d = true := by rw [hkeep d hd hfd]; exact Option.isSome_iff_ne_none.mpr hne
        obtain ⟨e, he⟩ := Option.isSome_iff_exists.mp
          (List.find?_isSome.mpr ⟨d, List.mem_filter.mpr ⟨hd, hkd⟩, hfd⟩)
        obtain ⟨hel, hke⟩ := List.mem_filter.mp (List.mem_of_find?_eq_some he)
        rw [hkeep e hel (List.find?_some he), h e he] at hke
        cases hke
      · intro h e he
        exact h e (List.mem_filter.mp (List.mem_of_find?_eq_some he)).1 (List.find?_some he)

end First

namespace Graph

variable {α : Type u}

/-! ### Who is first -/

/-- The first edge that enters a node. -/
def firstInto? (g : Graph α) (id : String) : Option (Edge α) :=
  g.edges.find? fun e => e.target == id

theorem program_entry (g : Graph α) :
    g.program.entry = g.start?.bind fun s => (g.firstFrom? s.id).bind fun e =>
      (g.node? e.target).map Node.nameInCode := by
  change (g.start?.bind fun s => (g.firstFrom? s.id).bind fun e => g.node? e.target).map
    Node.nameInCode = _
  rw [Option.map_bind]
  exact Option.bind_congr fun s _ => Option.map_bind

theorem feederName?_eq (g : Graph α) (id : String) :
    g.feederName? id =
      (g.firstInto? id).bind fun e => (latest? g.nodes e.source).map Node.nameInCode := by
  rw [feederName?, feeder?, Option.map_bind]
  rfl

theorem has_of_start? {g : Graph α} {s : Node α} (h : g.start? = some s) : g.has s.id = true :=
  has_iff.mpr ⟨s, List.mem_of_find?_eq_some h, rfl⟩

theorem has_of_hasChoice {g : Graph α} {id : String} (h : g.HasChoice id) : g.has id = true := by
  obtain ⟨e, he, rfl, -⟩ := h
  obtain ⟨n, hn, -⟩ := exists_source_of_mem_chosenEdges he
  exact has_iff.mpr ⟨n, mem_of_latest? hn, id_of_latest? hn⟩

/-! ### Fewer edges -/

/-- A graph with those edges that pass a test. -/
def keepEdges (g : Graph α) (keep : Edge α → Bool) : Graph α :=
  { g with edges := g.edges.filter keep }

section KeepEdges

variable {g : Graph α} {keep : Edge α → Bool}

theorem transition?_of_dangles {e : Edge α} (h : g.dangles e = true) : g.transition? e = none := by
  rcases dangles_iff.mp h with hs | ht
  · rw [transition?, hs]
  · rw [transition?, ht]
    cases latest? g.nodes e.source <;> rfl

theorem arm?_of_dangles {e : Edge α} (h : g.dangles e = true) : arm? g.nodes e = none := by
  rcases dangles_iff.mp h with hs | ht
  · rw [arm?, hs, Option.bind_none]
  · rw [arm?, ht]
    cases latest? g.nodes e.source <;> rfl

theorem filterMap_liveEdges_keepEdges {β : Type v} {f : Edge α → Option β}
    (hf : ∀ e, g.dangles e = true → f e = none)
    (hkeep : ∀ e ∈ g.edges, keep e = false → g.isLive e = false ∨ g.dangles e = true) :
    (g.keepEdges keep).liveEdges.filterMap f = g.liveEdges.filterMap f := by
  have live : (g.keepEdges keep).liveEdges = (g.edges.filter keep).filter g.isLive := rfl
  rw [live, liveEdges, List.filterMap_filter, List.filterMap_filter, List.filterMap_filter]
  refine List.filterMap_congr fun e he => ?_
  by_cases hk : keep e = true
  · rw [if_pos hk]
  · rw [if_neg hk]
    rcases hkeep e he (by simpa using hk) with hlive | hdangles
    · simp [hlive]
    · simp [hf e hdangles]

/-- Edges that are not live or that dangle do not belong to the frame. -/
theorem sameFrame_keepEdges
    (hkeep : ∀ e ∈ g.edges, keep e = false → g.isLive e = false ∨ g.dangles e = true) :
    SameFrame (g.keepEdges keep) g where
  name := rfl
  registrations := rfl
  transitions := filterMap_liveEdges_keepEdges (fun _ => transition?_of_dangles) hkeep
  outline := by
    have arms : (g.keepEdges keep).chosenEdges.filterMap (arm? g.nodes) =
        g.chosenEdges.filterMap (arm? g.nodes) := by
      rw [chosenEdges, chosenEdges, List.filterMap_filter, List.filterMap_filter]
      refine filterMap_liveEdges_keepEdges (fun e he => ?_) hkeep
      rw [arm?_of_dangles he, ite_self]
    exact congrArg (List.foldl (fun blocks a => addChoice blocks a.1.id "" a.2.nameInCode) []) arms

end KeepEdges

/-! ### Edges that dangle -/

/-- A graph without the edges that dangle. -/
def withoutDangling (g : Graph α) : Graph α := g.keepEdges g.isAnchored

/-- That no edge that dangles comes first where a later one would count. -/
structure Unshadowed (g : Graph α) : Prop where
  /-- the first edge that leaves START enters a node, if any edge does that leaves it -/
  start : ∀ s e, g.start? = some s → g.firstFrom? s.id = some e →
    g.has e.target = true ∨ ∀ d ∈ g.edges, d.source = s.id → g.has d.target = false
  /-- the first edge that enters a branch with a choice leaves a node, if any edge does that enters
  it -/
  branch : ∀ id e, g.HasChoice id → g.firstInto? id = some e →
    g.has e.source = true ∨ ∀ d ∈ g.edges, d.target = id → g.has d.source = false

section Dangling

variable {g : Graph α}

theorem sameFrame_withoutDangling (g : Graph α) : SameFrame g.withoutDangling g :=
  sameFrame_keepEdges fun e _ he => .inr (by rw [dangles_eq, he, Bool.not_false])

/-- What an edge out of START links to is anchored exactly if there is something. -/
theorem isAnchored_out {id : String} (hid : g.has id = true) :
    ∀ e ∈ g.edges, (e.source == id) = true →
      g.isAnchored e = ((g.node? e.target).map Node.nameInCode).isSome := by
  intro e _ he
  rw [isAnchored, eq_of_beq he, hid, Bool.true_and, Option.isSome_map, node?_isSome]

theorem isAnchored_in {id : String} (hid : g.has id = true) :
    ∀ e ∈ g.edges, (e.target == id) = true →
      g.isAnchored e = ((latest? g.nodes e.source).map Node.nameInCode).isSome := by
  intro e _ he
  rw [isAnchored, eq_of_beq he, hid, Bool.and_true, Option.isSome_map, latest?_isSome]
  rfl

theorem entry_withoutDangling_of_some {name : String} (h : g.program.entry = some name) :
    g.withoutDangling.program.entry = some name := by
  rw [program_entry] at h ⊢
  obtain ⟨s, hs, h⟩ := Option.bind_eq_some_iff.mp h
  exact Option.bind_eq_some_iff.mpr
    ⟨s, hs, link_filter_of_some (isAnchored_out (has_of_start? hs)) h⟩

theorem entry_withoutDangling_iff :
    g.withoutDangling.program.entry = g.program.entry ↔
      ∀ s e, g.start? = some s → g.firstFrom? s.id = some e →
        g.has e.target = true ∨ ∀ d ∈ g.edges, d.source = s.id → g.has d.target = false := by
  rw [program_entry, program_entry]
  have starts : g.withoutDangling.start? = g.start? := rfl
  rw [starts]
  cases hs : g.start? with
  | none => simp
  | some s =>
    refine (link_filter_eq_iff (isAnchored_out (has_of_start? hs))).trans ?_
    simp only [Option.isSome_map, node?_isSome, beq_iff_eq, ← Option.isNone_iff_eq_none,
      ← Option.not_isSome, Bool.not_eq_true', Option.some.injEq]
    constructor
    · rintro h s' e rfl
      exact h e
    · exact fun h e => h s e rfl

theorem feederName?_withoutDangling_of_some {id : String} (hid : g.has id = true) {name : String}
    (h : g.feederName? id = some name) : g.withoutDangling.feederName? id = some name := by
  rw [feederName?_eq] at h ⊢
  exact link_filter_of_some (isAnchored_in hid) h

theorem feederName?_withoutDangling_iff {id : String} (hid : g.has id = true) :
    g.withoutDangling.feederName? id = g.feederName? id ↔
      ∀ e, g.firstInto? id = some e →
        g.has e.source = true ∨ ∀ d ∈ g.edges, d.target = id → g.has d.source = false := by
  rw [feederName?_eq, feederName?_eq]
  refine (link_filter_eq_iff (isAnchored_in hid)).trans ?_
  simp only [Option.isSome_map, latest?_isSome, beq_iff_eq, ← Option.isNone_iff_eq_none,
    ← Option.not_isSome, Bool.not_eq_true']
  rfl

theorem unshadowed_iff :
    g.Unshadowed ↔ SameFeeders g.withoutDangling g := by
  constructor
  · exact fun h =>
      ⟨entry_withoutDangling_iff.mpr h.start, fun id hid =>
        (feederName?_withoutDangling_iff (has_of_hasChoice hid)).mpr fun e => h.branch id e hid⟩
  · exact fun h =>
      ⟨entry_withoutDangling_iff.mp h.entry, fun id e hid =>
        (feederName?_withoutDangling_iff (has_of_hasChoice hid)).mp (h.feeder id hid) e⟩

/-- **Edges that dangle leave a trace exactly if one of them comes first where a later one would
count.** -/
theorem source_withoutDangling_iff (g : Graph α) :
    g.withoutDangling.source = g.source ↔ g.Unshadowed := by
  have frame := sameFrame_withoutDangling g
  rw [unshadowed_iff]
  constructor
  · exact frame.agree_of_source (fun _ => entry_withoutDangling_of_some)
      fun id hid _ => feederName?_withoutDangling_of_some (has_of_hasChoice hid)
  · exact fun same => congrArg Program.text (frame.program_eq same)

end Dangling

/-! A START edge into nowhere, in front of another one. -/

/-- A graph whose START leads into nowhere first and then to a step. -/
def shadowed : Graph Number where
  nodes := [⟨"start-1", .start, "START", "start", .null, Point.origin⟩,
    ⟨"action-1", .action, "Agent", "agent", .null, Point.origin⟩]
  edges := [⟨"e1", "start-1", "ghost", none, false⟩, ⟨"e2", "start-1", "action-1", none, false⟩]
  entryPoint := .null
  name := defaultGraphName

/-- The edge into nowhere takes the entry along. -/
theorem source_ne_withoutDangling_shadowed :
    (shadowed.nodes.map Node.id).Nodup ∧ shadowed.withoutDangling.source ≠ shadowed.source := by
  decide +kernel

end Graph

end FlowCanvas

import FlowCanvas.Proofs.Graph.Identifier
import FlowCanvas.Proofs.Program.Branch
import FlowCanvas.Proofs.Text.Separator

/-!
# Programs read off their text

A text shows all of a program but the ids of its branches (`Program.shown`), and if no name in it
breaks a line or closes a quote, it can be read back: the declaration tells the name of the graph,
and then each statement is told from the others by how it begins, and ends where the next one begins
(`Statement.lines_append_inj`). So two graphs whose names are fit for code have the same text
exactly if their programs show the same (`Graph.source_eq_iff`).
-/

namespace FlowCanvas

universe u

/-! ### What is shown -/

/-- A block without the id of its branch. -/
def Dispatch.shown (d : Dispatch) : Dispatch := { d with branch := "" }

theorem Dispatch.shown_eq_iff {d e : Dispatch} :
    d.shown = e.shown ↔ d.feeder = e.feeder ∧ d.targets = e.targets := by
  simp [shown]

namespace Statement

/-- A statement without the id of a branch. -/
def shown : Statement → Statement
  | choose number d => choose number d.shown
  | s => s

/-- The step that a statement registers. -/
def registration? : Statement → Option Registration
  | register r => some r
  | _ => none

/-- The name of the step that a statement enters at. -/
def entered? : Statement → Option String
  | enter name => some name
  | _ => none

/-- The block of a statement. -/
def block? : Statement → Option Dispatch
  | choose _ d => some d
  | _ => none

/-- The transition of a statement. -/
def transition? : Statement → Option Transition
  | move t => some t
  | _ => none

end Statement

namespace Program

variable {p q : Program}

/-- A program without the ids of its branches. -/
def shown (p : Program) : Program := { p with dispatches := p.dispatches.map Dispatch.shown }

/-- What is shown, piece by piece. -/
theorem shown_eq_iff :
    p.shown = q.shown ↔ p.name = q.name ∧ p.registrations = q.registrations ∧ p.entry = q.entry ∧
      (p.dispatches.map fun d => (d.feeder, d.targets)) =
        (q.dispatches.map fun d => (d.feeder, d.targets)) ∧
      p.transitions = q.transitions := by
  have blocks : p.dispatches.map Dispatch.shown = q.dispatches.map Dispatch.shown ↔
      (p.dispatches.map fun d => (d.feeder, d.targets)) =
        q.dispatches.map fun d => (d.feeder, d.targets) := by
    simp only [← List.forall₂_eq_eq_eq, List.forall₂_map_left_iff, List.forall₂_map_right_iff,
      Dispatch.shown_eq_iff, Prod.mk.injEq]
  rw [← blocks]
  simp [shown]

theorem statements_shown (p : Program) : p.shown.statements = p.statements.map Statement.shown := by
  have entry : (p.entry.map Statement.enter).toList.map Statement.shown =
      (p.entry.map Statement.enter).toList := by
    cases p.entry <;> rfl
  simp [statements, shown, entry, List.zipIdx_map, Statement.shown, Function.comp_def]

/-! The pieces are found among the statements. -/

theorem filterMap_registration? (p : Program) :
    p.statements.filterMap Statement.registration? = p.registrations := by
  cases p.entry <;> simp [statements, Statement.registration?, Function.comp_def]

theorem head?_filterMap_entered? (p : Program) :
    (p.statements.filterMap Statement.entered?).head? = p.entry := by
  cases h : p.entry <;> simp [statements, h, Statement.entered?, Function.comp_def]

theorem filterMap_block? (p : Program) :
    p.statements.filterMap Statement.block? = p.dispatches := by
  cases p.entry <;> simp [statements, Statement.block?, Function.comp_def, List.zipIdx_map_fst]

theorem filterMap_transition? (p : Program) :
    p.statements.filterMap Statement.transition? = p.transitions := by
  cases p.entry <;> simp [statements, Statement.transition?, Function.comp_def]

theorem eq_of_statements_eq (hname : p.name = q.name) (h : p.statements = q.statements) :
    p = q := by
  have registrations : p.registrations = q.registrations := by
    rw [← filterMap_registration?, h, filterMap_registration?]
  have entry : p.entry = q.entry := by
    rw [← head?_filterMap_entered?, h, head?_filterMap_entered?]
  have dispatches : p.dispatches = q.dispatches := by
    rw [← filterMap_block?, h, filterMap_block?]
  have transitions : p.transitions = q.transitions := by
    rw [← filterMap_transition?, h, filterMap_transition?]
  cases p
  cases q
  simp_all

/-- What is not shown makes no difference. -/
@[simp] theorem text_shown (p : Program) : p.shown.text = p.text := by
  have same (s : Statement) : s.shown.lines p.name = s.lines p.name := by cases s <;> rfl
  have name : p.shown.name = p.name := rfl
  rw [text, text, lines_eq, lines_eq, statements_shown, name]
  simp only [List.flatMap_map, same]

theorem text_eq_of_shown_eq (h : p.shown = q.shown) : p.text = q.text := by
  rw [← p.text_shown, h, q.text_shown]

end Program

/-! ### Names in quotes -/

/-- A name without a quote in it ends where its quotes are closed. -/
theorem inQuotes_append_inj {a b s t : String} (ha : '"' ∉ a.toList) (hb : '"' ∉ b.toList)
    (h : inQuotes a ++ s = inQuotes b ++ t) : a = b ∧ s = t := by
  have chars := congrArg String.toList h
  have quote : "\"".toList = ['"'] := by decide
  simp only [inQuotes, String.toList_append, List.append_assoc, quote, List.cons_append,
    List.cons.injEq, true_and] at chars
  obtain ⟨hname, hrest⟩ := append_cons_inj ha hb chars
  exact ⟨String.toList_injective hname, String.toList_injective hrest⟩

theorem inQuotes_injective : Function.Injective inQuotes := by
  intro a b h
  have chars := congrArg String.toList h
  simp only [inQuotes, String.toList_append, List.append_assoc, List.append_cancel_left_eq]
    at chars
  exact String.toList_injective (List.append_cancel_right chars)

theorem quote_mem_inQuotes (s : String) : '"' ∈ (inQuotes s).toList := by
  simp [inQuotes]

/-! ### Statements read back -/

namespace Statement

/-- That no name of a step closes a quote too early, where one would be taken for another. -/
def IsLegible : Statement → Prop
  | register r => '"' ∉ r.name.toList ∧ '"' ∉ r.implementation.toList
  | move t => '"' ∉ t.source.toList
  | _ => True

end Statement

theorem Registration.line_injective {graph : String} {r r' : Registration}
    (hr : (Statement.register r).IsLegible) (hr' : (Statement.register r').IsLegible)
    (h : r.line graph = r'.line graph) : r = r' := by
  obtain ⟨name, implementation, quoted⟩ := r
  obtain ⟨name', implementation', quoted'⟩ := r'
  simp only [line, String.append_assoc, String.append_right_inj] at h
  obtain ⟨rfl, htail⟩ := inQuotes_append_inj hr.1 hr'.1 h
  simp only [String.append_right_inj, String.append_left_inj] at htail
  -- a placeholder has quotes around it, and nothing else has quotes in it
  have differ {i j : String} (hj : '"' ∉ j.toList) : inQuotes i ≠ j := by
    rintro rfl
    exact hj (quote_mem_inQuotes i)
  cases quoted <;> cases quoted'
  · obtain rfl : implementation = implementation' := htail
    rfl
  · exact absurd htail.symm (differ hr.2)
  · exact absurd htail (differ hr'.2)
  · obtain rfl := inQuotes_injective htail
    rfl

theorem Transition.line_injective {graph : String} {t t' : Transition}
    (ht : (Statement.move t).IsLegible) (ht' : (Statement.move t').IsLegible)
    (h : t.line graph = t'.line graph) : t = t' := by
  obtain ⟨source, target⟩ := t
  obtain ⟨source', target'⟩ := t'
  simp only [line, String.append_assoc, String.append_right_inj] at h
  obtain ⟨rfl, htail⟩ := inQuotes_append_inj ht ht' h
  simp only [String.append_right_inj] at htail
  obtain rfl := inQuotes_injective ((String.append_left_inj _).mp htail)
  rfl

theorem Registration.line_ne_line (graph : String) (r : Registration) (t : Transition) :
    r.line graph ≠ t.line graph := by
  intro h
  have chars := congrArg String.toList h
  simp [line, Transition.line] at chars

theorem Registration.line_ne_empty (graph : String) (r : Registration) : r.line graph ≠ "" := by
  intro h
  have chars := congrArg String.toList h
  simp [line] at chars

theorem Transition.line_ne_empty (graph : String) (t : Transition) : t.line graph ≠ "" := by
  intro h
  have chars := congrArg String.toList h
  simp [line] at chars

namespace Statement

theorem lines_eq_cons (graph : String) (s : Statement) : ∃ l ls, s.lines graph = l :: ls := by
  cases s <;> exact ⟨_, _, rfl⟩

/-- **A statement is read off the lines that it begins**: no other one begins the same lines. -/
theorem lines_append_inj {graph : String} {rest rest' : List String} :
    ∀ {s t : Statement}, s.IsLegible → t.IsLegible →
      s.lines graph ++ rest = t.lines graph ++ rest' → s.shown = t.shown ∧ rest = rest'
  | register r, register r', hr, hr', h => by
    obtain ⟨hline, hrest⟩ := List.cons.inj h
    exact ⟨by rw [r.line_injective hr hr' hline], hrest⟩
  -- statements of different kinds differ in their first lines
  | register r, enter _, _, _, h => absurd (List.cons.inj h).1 (r.line_ne_entryLine _ _)
  | register r, choose .., _, _, h => absurd (List.cons.inj h).1 (r.line_ne_empty _)
  | register r, move t, _, _, h => absurd (List.cons.inj h).1 (r.line_ne_line _ t)
  | enter _, register r, _, _, h => absurd (List.cons.inj h).1.symm (r.line_ne_entryLine _ _)
  | enter _, enter _, _, _, h => by
    obtain ⟨hline, hrest⟩ := List.cons.inj h
    exact ⟨by rw [entryLine_injective _ hline], hrest⟩
  | enter _, choose .., _, _, h => absurd (List.cons.inj h).1.symm ne_entryLine_empty
  | enter _, move t, _, _, h => absurd (List.cons.inj h).1.symm (t.line_ne_entryLine _ _)
  | choose .., register r, _, _, h => absurd (List.cons.inj h).1.symm (r.line_ne_empty _)
  | choose .., enter _, _, _, h => absurd (List.cons.inj h).1 ne_entryLine_empty
  | choose .., choose .., _, _, h => by
    obtain ⟨rfl, hfeeder, htargets, hrest⟩ := Dispatch.lines_append_inj h
    exact ⟨by rw [shown, shown, Dispatch.shown_eq_iff.mpr ⟨hfeeder, htargets⟩], hrest⟩
  | choose .., move t, _, _, h => absurd (List.cons.inj h).1.symm (t.line_ne_empty _)
  | move t, register r, _, _, h => absurd (List.cons.inj h).1.symm (r.line_ne_line _ t)
  | move t, enter _, _, _, h => absurd (List.cons.inj h).1 (t.line_ne_entryLine _ _)
  | move t, choose .., _, _, h => absurd (List.cons.inj h).1 (t.line_ne_empty _)
  | move t, move t', ht, ht', h => by
    obtain ⟨hline, hrest⟩ := List.cons.inj h
    exact ⟨by rw [t.line_injective ht ht' hline], hrest⟩

/-- Statements are read off their lines one after the other. -/
theorem flatMap_lines_inj {graph : String} :
    ∀ {ss ts : List Statement}, (∀ s ∈ ss, s.IsLegible) → (∀ t ∈ ts, t.IsLegible) →
      ss.flatMap (lines graph) = ts.flatMap (lines graph) → ss.map shown = ts.map shown
  | [], [], _, _, _ => rfl
  | [], t :: ts, _, _, h => by
    obtain ⟨l, ls, hl⟩ := t.lines_eq_cons graph
    simp [hl] at h
  | s :: ss, [], _, _, h => by
    obtain ⟨l, ls, hl⟩ := s.lines_eq_cons graph
    simp [hl] at h
  | s :: ss, t :: ts, hs, ht, h => by
    have ⟨hs, hss⟩ := List.forall_mem_cons.mp hs
    have ⟨ht, hts⟩ := List.forall_mem_cons.mp ht
    rw [List.flatMap_cons, List.flatMap_cons] at h
    obtain ⟨hhead, hrest⟩ := lines_append_inj hs ht h
    rw [List.map_cons, List.map_cons, hhead, flatMap_lines_inj hss hts hrest]

end Statement

theorem headerLines_append_inj {graph graph' : String} {rest rest' : List String}
    (h : headerLines graph ++ rest = headerLines graph' ++ rest') :
    graph = graph' ∧ rest = rest' := by
  simp only [headerLines, List.cons_append, List.nil_append, List.cons.injEq, true_and] at h
  exact ⟨(String.append_left_inj _).mp h.1, h.2⟩

/-- The lines of a program tell what it shows. -/
theorem Program.shown_eq_of_lines_eq {p q : Program} (hp : ∀ s ∈ p.statements, s.IsLegible)
    (hq : ∀ s ∈ q.statements, s.IsLegible) (h : p.lines = q.lines) : p.shown = q.shown := by
  rw [lines_eq, lines_eq] at h
  obtain ⟨hname, hstatements⟩ := headerLines_append_inj h
  rw [← hname] at hstatements
  refine eq_of_statements_eq hname ?_
  rw [statements_shown, statements_shown]
  exact Statement.flatMap_lines_inj hp hq hstatements

/-! ### Graphs whose names are fit for code -/

namespace Graph

open Identifier

variable {α : Type u}

/-- That whatever a graph gives a name to in code has a name that is fit for it. -/
structure IsNamed (g : Graph α) : Prop where
  /-- the graph -/
  name : isName g.name = true
  /-- each node -/
  node : ∀ n ∈ g.nodes, isName n.nameInCode = true
  /-- each implementation that is set -/
  implementation : ∀ n ∈ g.nodes, n.implementation.isSet = true → isName n.implementationName = true

namespace IsNamed

variable {g h : Graph α}

/-- A name holds no character that is not safe. -/
theorem not_mem_of_isName {s : String} (hs : isName s = true) {c : Char} (hc : isSafe c = false) :
    c ∉ s.toList := by
  intro hmem
  rw [(isName_iff.mp hs).2 c hmem] at hc
  cases hc

/-- A placeholder is fit for code as well, being made of the name of its node. -/
theorem isName_implementationName (hg : g.IsNamed) {n : Node α} (hn : n ∈ g.nodes) :
    isName n.implementationName = true := by
  by_cases hset : n.implementation.isSet = true
  · exact hg.implementation n hn hset
  · obtain ⟨-, hsafe⟩ := isName_iff.mp (hg.node n hn)
    have made : n.implementationName = n.nameInCode ++ "_func" := by
      rw [Node.implementationName, Node.implementationOrName, if_neg hset]
      rfl
    rw [made, isName_iff]
    refine ⟨by simp, fun c hc => ?_⟩
    rw [String.toList_append, List.mem_append] at hc
    rcases hc with hc | hc
    · exact hsafe c hc
    · have suffix : "_func".toList.all isSafe = true := by decide
      exact List.all_eq_true.mp suffix c hc

theorem onOneLine (hg : g.IsNamed) : g.OnOneLine where
  name := not_mem_of_isName hg.name (by decide)
  node n hn := not_mem_of_isName (hg.node n hn) (by decide)
  implementation n hn := not_mem_of_isName (hg.isName_implementationName hn) (by decide)

theorem isLegible (hg : g.IsNamed) : ∀ s ∈ g.program.statements, s.IsLegible := by
  intro s hs
  cases s with
  | register r =>
    obtain ⟨n, hn, rfl⟩ := List.mem_map.mp (Program.register_mem_statements.mp hs)
    have hmem := (List.mem_filter.mp hn).1
    exact ⟨not_mem_of_isName (hg.node n hmem) (by decide),
      not_mem_of_isName (hg.isName_implementationName hmem) (by decide)⟩
  | move t =>
    obtain ⟨e, -, he⟩ := List.mem_filterMap.mp (Program.move_mem_statements.mp hs)
    obtain ⟨m, n, hm, -, -, -, rfl⟩ := transition?_eq_some_iff.mp he
    exact not_mem_of_isName (hg.node m (mem_of_latest? hm)) (by decide)
  | enter name => trivial
  | choose number d => trivial

end IsNamed

variable {g h : Graph α}

/-- The text of a graph tells what its program shows, and nothing else. -/
theorem source_eq_iff (hg : g.IsNamed) (hh : h.IsNamed) :
    g.source = h.source ↔ g.program.shown = h.program.shown := by
  constructor
  · intro same
    have hlines := Program.lines_eq_of_text_eq hh.onOneLine.lines hg.onOneLine.lines same
    exact Program.shown_eq_of_lines_eq hg.isLegible hh.isLegible hlines
  · exact Program.text_eq_of_shown_eq

/-- **The text of a graph tells its program**: its name, its steps with what they run, where a run
enters, the blocks in order with their feeders and targets, and the transitions in order. -/
theorem pieces_eq_of_source_eq (hg : g.IsNamed) (hh : h.IsNamed) (same : g.source = h.source) :
    g.name = h.name ∧ g.program.registrations = h.program.registrations ∧
      g.program.entry = h.program.entry ∧
      (g.program.dispatches.map fun d => (d.feeder, d.targets)) =
        (h.program.dispatches.map fun d => (d.feeder, d.targets)) ∧
      g.program.transitions = h.program.transitions :=
  Program.shown_eq_iff.mp ((source_eq_iff hg hh).mp same)

/-- An agent with a tool, under any two ids of the agent and of its branch. -/
def tooled (agent branch : String) : Graph Number where
  nodes := [⟨"start-1", .start, "START", "start", .null, Point.origin⟩,
    ⟨agent, .action, "Agent", "agent", .string "run_agent", Point.origin⟩,
    ⟨branch, .branch, "Conditional Edge", "choose", .null, Point.origin⟩,
    ⟨"tool-1", .tool, "Tool", "look", .null, Point.origin⟩]
  edges := [⟨"e1", "start-1", agent, none, false⟩, ⟨"e2", agent, branch, none, false⟩,
    ⟨"e3", branch, "tool-1", none, false⟩, ⟨"e4", "tool-1", agent, none, false⟩]
  entryPoint := .null
  name := defaultGraphName

theorem pieces_eq_of_source_eq_tooled :
    (tooled "action-1" "branch-1").IsNamed ∧ (tooled "a" "b").IsNamed ∧
      (tooled "action-1" "branch-1").source = (tooled "a" "b").source ∧
      (tooled "action-1" "branch-1").program.registrations =
        (tooled "a" "b").program.registrations ∧
      (tooled "action-1" "branch-1").program.transitions =
        (tooled "a" "b").program.transitions := by
  have hg : (tooled "action-1" "branch-1").IsNamed := ⟨by decide, by decide, by decide⟩
  have hh : (tooled "a" "b").IsNamed := ⟨by decide, by decide, by decide⟩
  have same := (source_eq_iff hg hh).mpr (by decide)
  obtain ⟨-, registrations, -, -, transitions⟩ := pieces_eq_of_source_eq hg hh same
  exact ⟨hg, hh, same, registrations, transitions⟩

end Graph

end FlowCanvas

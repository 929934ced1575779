import FlowCanvas.Proofs.Program.Statement
import FlowCanvas.Proofs.Text.Digits
import Mathlib.Algebra.GroupWithZero.Nat

/-!
# What a text tells of its program

Two programs may differ in their entry and in who feeds their branches, while the steps and the
transitions are the same. The lines of the text then tell the difference (`Program.lines_inj`), and
so does the text itself, if no name in it breaks a line. If names do break lines, a count of opening
brackets still tells an entry and blocks that are there from ones that are not: numbers, the one
thing in a block that depends on the blocks before it, hold no brackets.
-/

namespace FlowCanvas

/-! ### The lines of a block -/

theorem targetLine_injective : Function.Injective targetLine := by
  intro a b h
  have chars := congrArg String.toList h
  simp only [targetLine, inQuotes, String.toList_append, List.append_assoc,
    List.append_cancel_left_eq] at chars
  have size := congrArg List.length chars
  simp only [List.length_append] at size
  exact String.toList_injective (List.append_inj_left chars (by omega))

theorem targetLine_ne_close (t : String) : targetLine t ≠ indentation ++ "\x7d," := by
  intro h
  have chars := congrArg String.toList h
  simp [targetLine, indentation] at chars

/-- The targets of a block end where it is closed. -/
theorem map_targetLine_append_inj {rest rest' : List String} :
    ∀ {ts us : List String},
      ts.map targetLine ++ (indentation ++ "\x7d,") :: rest =
        us.map targetLine ++ (indentation ++ "\x7d,") :: rest' → ts = us ∧ rest = rest'
  | [], [], h => ⟨rfl, (List.cons.inj h).2⟩
  | [], u :: _, h => absurd (List.cons.inj h).1.symm (targetLine_ne_close u)
  | t :: _, [], h => absurd (List.cons.inj h).1 (targetLine_ne_close t)
  | t :: ts, u :: us, h => by
    obtain ⟨head, tail⟩ := List.cons.inj h
    obtain ⟨htargets, hrest⟩ := map_targetLine_append_inj tail
    exact ⟨by rw [targetLine_injective head, htargets], hrest⟩

theorem feederLine_injective : Function.Injective fun s => indentation ++ inQuotes s ++ "," := by
  intro a b h
  have chars := congrArg String.toList h
  simp only [inQuotes, String.toList_append, List.append_assoc, List.append_cancel_left_eq] at chars
  exact String.toList_injective (List.append_cancel_right chars)

theorem numberLine_injective : Function.Injective
    fun n : Nat => indentation ++ "conditional_function_" ++ toString n ++ "," := by
  intro m n h
  have chars := congrArg String.toList h
  simp only [String.toList_append, List.append_assoc, List.append_cancel_left_eq] at chars
  have digits := List.append_cancel_right chars
  simp only [Nat.toString_eq_repr, Nat.toList_repr] at digits
  exact Text.decimal_injective digits

/-- The lines of a block tell all of it but the id of the branch. -/
theorem Dispatch.lines_append_inj {graph : String} {m n : Nat} {d e : Dispatch}
    {rest rest' : List String} (h : d.lines graph m ++ rest = e.lines graph n ++ rest') :
    m = n ∧ d.feeder = e.feeder ∧ d.targets = e.targets ∧ rest = rest' := by
  simp only [Dispatch.lines, List.append_assoc, List.cons_append, List.nil_append,
    List.cons.injEq, true_and] at h
  obtain ⟨hfeeder, hnumber, htail⟩ := h
  obtain ⟨htargets, hrest⟩ := map_targetLine_append_inj htail
  exact ⟨numberLine_injective hnumber, feederLine_injective hfeeder, htargets,
    (List.cons.inj hrest).2⟩

/-- The lines of blocks tell who feeds each of them. -/
theorem dispatchLines_inj {graph : String} :
    ∀ {ds es : List Dispatch} {index : Nat},
      dispatchLines graph index ds = dispatchLines graph index es →
        ds.map Dispatch.feeder = es.map Dispatch.feeder
  | [], [], _, _ => rfl
  | [], e :: es, index, h => by simp [dispatchLines, Dispatch.lines] at h
  | d :: ds, [], index, h => by simp [dispatchLines, Dispatch.lines] at h
  | d :: ds, e :: es, index, h => by
    obtain ⟨-, hfeeder, -, hrest⟩ := Dispatch.lines_append_inj h
    rw [List.map_cons, List.map_cons, hfeeder, dispatchLines_inj hrest]

/-- Blocks begin with an empty line. -/
theorem dispatchLines_head {graph : String} {index : Nat} {ds : List Dispatch} {l : String}
    {rest : List String} (h : dispatchLines graph index ds = l :: rest) : l = "" := by
  cases ds with
  | nil => cases h
  | cons d ds => exact (List.cons.inj h).1.symm

namespace Program

variable {p q : Program}

/-! ### Lines and text -/

/-- **The lines of a program tell its entry and its feeders**, the rest being known. -/
theorem lines_inj (hname : q.name = p.name) (hsteps : q.registrations = p.registrations)
    (htransitions : q.transitions = p.transitions) (h : q.lines = p.lines) :
    q.entry = p.entry ∧ q.dispatches.map Dispatch.feeder = p.dispatches.map Dispatch.feeder := by
  simp only [lines, hname, hsteps, htransitions, List.append_assoc,
    List.append_cancel_left_eq] at h
  rw [← List.append_assoc, ← List.append_assoc] at h
  have h := List.append_cancel_right h
  cases hq : q.entry with
  | none =>
    cases hp : p.entry with
    | none =>
      rw [hq, hp] at h
      exact ⟨rfl, dispatchLines_inj h⟩
    | some name =>
      rw [hq, hp] at h
      -- blocks begin with an empty line, and an entry is none
      exact absurd (dispatchLines_head h).symm ne_entryLine_empty
  | some name =>
    cases hp : p.entry with
    | none =>
      rw [hq, hp] at h
      exact absurd (dispatchLines_head h.symm).symm ne_entryLine_empty
    | some other =>
      rw [hq, hp] at h
      obtain ⟨hentry, hblocks⟩ := List.cons.inj h
      exact ⟨congrArg some (entryLine_injective _ hentry), dispatchLines_inj hblocks⟩

/-- The text tells the lines, if each of them is one line. -/
theorem lines_eq_of_text_eq (hp : ∀ l ∈ p.lines, '\n' ∉ l.toList)
    (hq : ∀ l ∈ q.lines, '\n' ∉ l.toList) (h : q.text = p.text) : q.lines = p.lines := by
  have back {r : Program} (hr : ∀ l ∈ r.lines, '\n' ∉ l.toList) :
      List.splitOn '\n' r.text.toList = r.lines.map String.toList := by
    rw [text, String.toList_intercalate]
    refine List.splitOn_intercalate '\n' (List.forall_mem_map.mpr hr) ?_
    simp [lines, headerLines]
  have same : q.lines.map String.toList = p.lines.map String.toList := by
    rw [← back hp, ← back hq, h]
  exact List.map_injective_iff.mpr (fun _ _ => String.toList_injective) same

/-! ### Brackets -/

/-- How many opening brackets a text has. -/
def brackets (s : String) : Nat := s.toList.count '('

theorem count_intercalate {c d : Char} (hc : c ≠ d) :
    ∀ ls : List (List Char), ([d].intercalate ls).count c = (ls.map (List.count c)).sum
  | [] => rfl
  | [l] => by simp [List.intercalate]
  | l :: m :: rest => by
    have ih := count_intercalate hc (m :: rest)
    simp only [List.intercalate, List.intersperse_cons_cons, List.flatten_cons, List.count_append,
      List.map_cons, List.sum_cons] at ih ⊢
    rw [ih, List.count_singleton, if_neg (by simpa using hc.symm)]
    omega

theorem brackets_text (p : Program) : brackets p.text = (p.lines.map brackets).sum := by
  have newline : "\n".toList = ['\n'] := by decide
  rw [brackets, text, String.toList_intercalate, newline, count_intercalate (by decide),
    List.map_map]
  rfl

/-- How many opening brackets the lines of a block have. -/
def blockBrackets (graph : String) (d : Dispatch) : Nat := ((d.lines graph 0).map brackets).sum

theorem blockBrackets_pos (graph : String) (d : Dispatch) : 0 < blockBrackets graph d := by
  have call : brackets (graph ++ ".add_conditional_edges(") ≠ 0 := by
    simp [brackets, List.count_append]
  simp only [blockBrackets, Dispatch.lines, List.map_append, List.map_cons, List.sum_append,
    List.sum_cons]
  omega

/-- The number of a block holds no brackets. -/
theorem brackets_number (n : Nat) :
    brackets (indentation ++ "conditional_function_" ++ toString n ++ ",") = 0 := by
  have digits : (Nat.toDigits 10 n).count '(' = 0 := by
    rw [List.count_eq_zero]
    intro h
    exact absurd (Nat.isDigit_of_mem_toDigits (by decide) (by decide) h) (by decide)
  simp [brackets, indentation, List.count_append, digits]

theorem sum_brackets_dispatchLines (graph : String) :
    ∀ (index : Nat) (ds : List Dispatch),
      ((dispatchLines graph index ds).map brackets).sum = (ds.map (blockBrackets graph)).sum
  | _, [] => rfl
  | index, d :: ds => by
    rw [dispatchLines, List.map_append, List.sum_append, sum_brackets_dispatchLines,
      List.map_cons, List.sum_cons]
    simp only [blockBrackets, Dispatch.lines, List.map_append, List.map_cons, List.sum_append,
      List.sum_cons, brackets_number]

/-- The opening brackets of a text, part by part. -/
theorem brackets_text_eq (p : Program) :
    brackets p.text = ((headerLines p.name).map brackets).sum +
      ((p.registrations.map (Registration.line p.name)).map brackets).sum +
      ((p.entry.map (entryLine p.name)).toList.map brackets).sum +
      (p.dispatches.map (blockBrackets p.name)).sum +
      ((p.transitions.map (Transition.line p.name)).map brackets).sum := by
  rw [brackets_text, lines]
  simp only [List.map_append, List.sum_append, sum_brackets_dispatchLines]

theorem brackets_entryLine_pos (graph name : String) : 0 < brackets (entryLine graph name) := by
  have opened : '(' ∈ ".set_entry_point(\"".toList := by decide
  rw [brackets, toList_entryLine, List.count_pos_iff]
  exact List.mem_append_left _ (List.mem_append_left _ (List.mem_append_right _ opened))

end Program

end FlowCanvas

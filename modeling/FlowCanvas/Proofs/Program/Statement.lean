import FlowCanvas.Program.Printer
import Mathlib.Data.List.Basic

/-!
# The statement of the entry

Among the lines of a program there is one that sets its entry, if the program has one, and no other
line can be taken for it (`count_entryLine`). Names may hold anything, quotes included, so this is
read off the two ends of a line: in front stands the name of the graph with the call, and behind
stands the closing bracket of the call, with something before it.
-/

namespace FlowCanvas

/-! ### Both ends of a line -/

theorem toList_entryLine (graph name : String) :
    (entryLine graph name).toList =
      graph.toList ++ ".set_entry_point(\"".toList ++ name.toList ++ ['"', ')'] := by
  simp [entryLine, inQuotes]

/-- The statement tells the name. -/
theorem entryLine_injective (graph : String) : Function.Injective (entryLine graph) := by
  intro a b h
  have chars := congrArg String.toList h
  simp only [toList_entryLine, List.append_assoc, List.append_cancel_left_eq] at chars
  exact String.toList_injective (List.append_cancel_right chars)

/-- A line ends as its last part does. -/
theorem getLast?_append_char (s : String) {t : String} {c : Char} (h : t.toList = [c]) :
    (s ++ t).toList.getLast? = some c := by
  rw [String.toList_append, h]
  exact List.getLast?_concat

/-- A line with another end is no such statement. -/
theorem ne_entryLine_of_getLast? {graph name l : String} {c : Char}
    (h : l.toList.getLast? = some c) (hc : c ≠ ')') : l ≠ entryLine graph name := by
  rintro rfl
  rw [entryLine, getLast?_append_char _ (by decide : ")".toList = [')'])] at h
  exact hc (Option.some.inj h).symm

theorem ne_entryLine_empty {graph name : String} : "" ≠ entryLine graph name := by
  intro h
  have chars := congrArg String.toList h
  simp [toList_entryLine] at chars

theorem ne_entryLine_bracket {graph name : String} : ")" ≠ entryLine graph name := by
  intro h
  have size := congrArg (fun s => s.toList.length) h
  simp only [toList_entryLine, List.length_append] at size
  exact absurd size (by simp)

/-! ### The other lines -/

theorem headerLines_ne_entryLine {graph name l : String} (h : l ∈ headerLines graph) :
    l ≠ entryLine graph name := by
  simp only [headerLines, List.mem_cons, List.not_mem_nil, or_false] at h
  rcases h with rfl | rfl | rfl | rfl | rfl | rfl | rfl | rfl | rfl | rfl
  · exact ne_entryLine_of_getLast? (c := 't') (by decide) (by decide)
  · exact ne_entryLine_empty
  · exact ne_entryLine_of_getLast? (c := 'h') (by decide) (by decide)
  · exact ne_entryLine_empty
  · exact ne_entryLine_empty
  · exact ne_entryLine_of_getLast? (c := ':') (by decide) (by decide)
  · exact ne_entryLine_of_getLast? (c := 's') (by decide) (by decide)
  · exact ne_entryLine_empty
  · exact ne_entryLine_empty
  · -- the declaration of the graph, whose call has another name
    intro h
    have chars := congrArg String.toList h
    simp [toList_entryLine] at chars

theorem Registration.line_ne_entryLine (graph name : String) (r : Registration) :
    r.line graph ≠ entryLine graph name := by
  intro h
  have chars := congrArg String.toList h
  simp [Registration.line, toList_entryLine] at chars

theorem Transition.line_ne_entryLine (graph name : String) (t : Transition) :
    t.line graph ≠ entryLine graph name := by
  intro h
  have chars := congrArg String.toList h
  simp [Transition.line, toList_entryLine] at chars

theorem Dispatch.lines_ne_entryLine {graph name l : String} {index : Nat} {d : Dispatch}
    (h : l ∈ d.lines graph index) : l ≠ entryLine graph name := by
  simp only [Dispatch.lines, List.mem_append, List.mem_cons, List.not_mem_nil, or_false,
    List.mem_map] at h
  have ends (s : String) {t : String} {c : Char} (ht : t.toList = [c]) (hc : c ≠ ')') :
      s ++ t ≠ entryLine graph name := ne_entryLine_of_getLast? (getLast?_append_char s ht) hc
  rcases h with ((rfl | rfl | rfl | rfl | rfl) | ⟨t, -, rfl⟩) | rfl | rfl
  · exact ne_entryLine_empty
  · intro h
    have chars := congrArg String.toList h
    simp [toList_entryLine] at chars
  · exact ends _ (by decide : ",".toList = [',']) (by decide)
  · exact ends _ (by decide : ",".toList = [',']) (by decide)
  · exact ends _ (by decide : "\x7b".toList = ['\x7b']) (by decide)
  · exact ends _ (by decide : ",".toList = [',']) (by decide)
  · exact ne_entryLine_of_getLast? (c := ',') (by decide) (by decide)
  · exact ne_entryLine_bracket

theorem dispatchLines_ne_entryLine {graph name l : String} :
    ∀ {ds : List Dispatch} {index : Nat}, l ∈ dispatchLines graph index ds →
      l ≠ entryLine graph name
  | [], _, h => absurd h List.not_mem_nil
  | d :: ds, index, h => by
    rcases List.mem_append.mp h with h | h
    · exact d.lines_ne_entryLine h
    · exact dispatchLines_ne_entryLine h

namespace Program

/-- **A program sets its entry once, by its name, and no other.** -/
theorem count_entryLine (p : Program) (name : String) :
    p.lines.count (entryLine p.name name) = if p.entry = some name then 1 else 0 := by
  have header : (headerLines p.name).count (entryLine p.name name) = 0 :=
    List.count_eq_zero.mpr fun h => headerLines_ne_entryLine h rfl
  have steps : (p.registrations.map (Registration.line p.name)).count (entryLine p.name name) = 0 :=
    List.count_eq_zero.mpr fun h => by
      obtain ⟨r, -, hr⟩ := List.mem_map.mp h
      exact r.line_ne_entryLine _ _ hr
  have branches : (dispatchLines p.name 1 p.dispatches).count (entryLine p.name name) = 0 :=
    List.count_eq_zero.mpr fun h => dispatchLines_ne_entryLine h rfl
  have arrows :
      (p.transitions.map (Transition.line p.name)).count (entryLine p.name name) = 0 :=
    List.count_eq_zero.mpr fun h => by
      obtain ⟨t, -, ht⟩ := List.mem_map.mp h
      exact t.line_ne_entryLine _ _ ht
  have entry : (p.entry.map (entryLine p.name)).toList.count (entryLine p.name name) =
      if p.entry = some name then 1 else 0 := by
    rcases p.entry with - | other
    · rfl
    · simp [List.count_singleton, (entryLine_injective p.name).eq_iff]
  simp only [lines, List.count_append, header, steps, branches, arrows, entry, Nat.zero_add,
    Nat.add_zero]

end Program

end FlowCanvas

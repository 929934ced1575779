import Mathlib.Data.List.Basic

/-!
# Separators

A part of a text in which a character does not occur ends where this character stands
(`append_cons_inj`). Parts that are joined with a separator between them are told apart in this way
if a separator is put behind the last one as well (`intercalate_append_separator`). Joined parts
grow at their end by a separator and a part (`intercalate_concat`).
-/

namespace FlowCanvas

/-- A part that a character does not occur in ends where this character stands. -/
theorem append_cons_inj {c : Char} : ∀ {a a' r r' : List Char}, c ∉ a → c ∉ a' →
    a ++ c :: r = a' ++ c :: r' → a = a' ∧ r = r'
  | [], [], _, _, _, _, h => ⟨rfl, List.tail_eq_of_cons_eq h⟩
  | [], d :: a', _, _, _, ha', h => by
    obtain ⟨rfl, -⟩ := List.cons.inj h
    exact absurd (List.mem_cons_self ..) ha'
  | d :: a, [], _, _, ha, _, h => by
    obtain ⟨rfl, -⟩ := List.cons.inj h
    exact absurd (List.mem_cons_self ..) ha
  | d :: a, d' :: a', r, r', ha, ha', h => by
    obtain ⟨rfl, htail⟩ := List.cons.inj h
    obtain ⟨rfl, hr⟩ := append_cons_inj (List.not_mem_of_not_mem_cons ha)
      (List.not_mem_of_not_mem_cons ha') htail
    exact ⟨rfl, hr⟩

/-- Joined parts and one separator more are the parts with a separator behind each. -/
theorem intercalate_append_separator (c : Char) : ∀ {parts : List (List Char)}, parts ≠ [] →
    [c].intercalate parts ++ [c] = parts.flatMap fun s => s ++ [c]
  | [], h => absurd rfl h
  | [s], _ => by simp
  | s :: t :: parts, _ => by
    rw [List.flatMap_cons, ← intercalate_append_separator c (List.cons_ne_nil t parts),
      List.intercalate_cons_cons]
    simp

/-- A part more is joined by a separator more. -/
theorem intercalate_concat (sep p : List Char) : ∀ {ps : List (List Char)}, ps ≠ [] →
    sep.intercalate (ps ++ [p]) = sep.intercalate ps ++ sep ++ p
  | [], h => absurd rfl h
  | [q], _ => by simp
  | q :: r :: ps, _ => by
    have ih := intercalate_concat sep p (List.cons_ne_nil r ps)
    rw [List.cons_append] at ih
    simp [List.intercalate_cons_cons, ih]

end FlowCanvas

import FlowCanvas.Program.Printer
import Mathlib.Data.List.Basic

/-!
# Programs as sequences of statements

The text of a program is its header and then one statement after the other (`Program.lines_eq`). A
statement names nodes: the step that it registers or that a run enters at, the node that feeds a
branch and the targets of the branch, and both ends of a transition. What a text says of a node is
thus said by some statement, and which statements there are is read off the program
(`Program.move_mem_statements` and its kin).
-/

namespace FlowCanvas

/-- A statement of a program. -/
inductive Statement where
  /-- a step is registered -/
  | register (r : Registration)
  /-- the step is set that a run enters at -/
  | enter (name : String)
  /-- the choices of a branch are added, under the number of its block -/
  | choose (number : Nat) (d : Dispatch)
  /-- a transition is added -/
  | move (t : Transition)
  deriving DecidableEq, Repr

namespace Statement

/-- The names of nodes in a statement. -/
def names : Statement → List String
  | register r => [r.name]
  | enter name => [name]
  | choose _ d => d.feeder :: d.targets
  | move t => [t.source, t.target]

/-- The lines of a statement. -/
def lines (graph : String) : Statement → List String
  | register r => [r.line graph]
  | enter name => [entryLine graph name]
  | choose number d => d.lines graph number
  | move t => [t.line graph]

end Statement

theorem dispatchLines_eq (graph : String) :
    ∀ (index : Nat) (ds : List Dispatch),
      dispatchLines graph index ds = (ds.zipIdx index).flatMap fun d => d.1.lines graph d.2
  | _, [] => rfl
  | index, d :: ds => by
    rw [dispatchLines, dispatchLines_eq graph (index + 1) ds, List.zipIdx_cons, List.flatMap_cons]

namespace Program

/-- The statements of a program, in order. -/
def statements (p : Program) : List Statement :=
  p.registrations.map .register ++ (p.entry.map .enter).toList
    ++ (p.dispatches.zipIdx 1).map (fun d => .choose d.2 d.1) ++ p.transitions.map .move

/-- **A program is written statement by statement.** -/
theorem lines_eq (p : Program) :
    p.lines = headerLines p.name ++ p.statements.flatMap (Statement.lines p.name) := by
  have steps : (p.registrations.map Statement.register).flatMap (Statement.lines p.name) =
      p.registrations.map (Registration.line p.name) := by
    rw [List.flatMap_map]
    exact List.flatMap_pure_eq_map _ _
  have entry : (p.entry.map Statement.enter).toList.flatMap (Statement.lines p.name) =
      (p.entry.map (entryLine p.name)).toList := by
    cases p.entry <;> rfl
  have branches : ((p.dispatches.zipIdx 1).map fun d => Statement.choose d.2 d.1).flatMap
      (Statement.lines p.name) = dispatchLines p.name 1 p.dispatches := by
    rw [List.flatMap_map, dispatchLines_eq]
    rfl
  have arrows : (p.transitions.map Statement.move).flatMap (Statement.lines p.name) =
      p.transitions.map (Transition.line p.name) := by
    rw [List.flatMap_map]
    exact List.flatMap_pure_eq_map _ _
  simp only [lines, statements, List.flatMap_append, steps, entry, branches, arrows,
    List.append_assoc]

/-! ### Which statements there are -/

section

variable {p : Program}

@[simp] theorem register_mem_statements {r : Registration} :
    .register r ∈ p.statements ↔ r ∈ p.registrations := by
  simp [statements]

@[simp] theorem enter_mem_statements {name : String} :
    .enter name ∈ p.statements ↔ p.entry = some name := by
  simp [statements]

theorem choose_mem_statements {number : Nat} {d : Dispatch} :
    .choose number d ∈ p.statements ↔ (d, number) ∈ p.dispatches.zipIdx 1 := by
  simp [statements]

@[simp] theorem move_mem_statements {t : Transition} :
    .move t ∈ p.statements ↔ t ∈ p.transitions := by
  simp [statements]

/-- The blocks are those of the program, under some numbers. -/
theorem exists_choose_mem_statements {d : Dispatch} :
    (∃ number, .choose number d ∈ p.statements) ↔ d ∈ p.dispatches := by
  simp only [choose_mem_statements]
  constructor
  · rintro ⟨number, h⟩
    exact List.fst_mem_of_mem_zipIdx h
  · intro h
    obtain ⟨i, hi, rfl⟩ := List.mem_iff_getElem.mp h
    exact ⟨1 + i, List.mk_add_mem_zipIdx_iff_getElem?.mpr (List.getElem?_eq_getElem hi)⟩

end

end Program

end FlowCanvas

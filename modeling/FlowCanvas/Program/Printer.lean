import FlowCanvas.Program.Basic

/-!
# The text of a program

A program is written as source text, one statement after the other: the declaration of the graph,
its steps, the entry, one block per branch and the transitions. Names stand between double quotes as
they are. The same program always gives the same text.
-/

namespace FlowCanvas

universe u

/-- A text between double quotes, nothing in it escaped. -/
def inQuotes (s : String) : String := "\"" ++ s ++ "\""

/-- One level of indentation. -/
def indentation : String := "    "

/-- The lines in front of the statements; the last one declares the graph. -/
def headerLines (graph : String) : List String :=
  ["from typing import TypedDict",
   "",
   "from langgraph.graph import StateGraph",
   "",
   "",
   "class AgentState(TypedDict, total=False):",
   "    pass",
   "",
   "",
   graph ++ " = StateGraph(AgentState)"]

/-- The statement of a registration. -/
def Registration.line (graph : String) (r : Registration) : String :=
  let implementation := if r.quoted then inQuotes r.implementation else r.implementation
  graph ++ ".add_node(" ++ inQuotes r.name ++ ", " ++ implementation ++ ")"

/-- The statement of the entry. -/
def entryLine (graph name : String) : String := graph ++ ".set_entry_point(" ++ inQuotes name ++ ")"

/-- The statement of a transition. -/
def Transition.line (graph : String) (t : Transition) : String :=
  graph ++ ".add_edge(" ++ inQuotes t.source ++ ", " ++ inQuotes t.target ++ ")"

/-- The line of a target, which stands for itself. -/
def targetLine (target : String) : String :=
  indentation ++ indentation ++ inQuotes target ++ ": " ++ inQuotes target ++ ","

/-- The lines of a branch, which is the one with number `index`. -/
def Dispatch.lines (graph : String) (index : Nat) (d : Dispatch) : List String :=
  ["",
   graph ++ ".add_conditional_edges(",
   indentation ++ inQuotes d.feeder ++ ",",
   indentation ++ "conditional_function_" ++ toString index ++ ",",
   indentation ++ "\x7b"]
  ++ d.targets.map targetLine
  ++ [indentation ++ "\x7d,", ")"]

/-- The lines of branches numbered from `index` on. -/
def dispatchLines (graph : String) : (index : Nat) → List Dispatch → List String
  | _, [] => []
  | index, d :: rest => d.lines graph index ++ dispatchLines graph (index + 1) rest

namespace Program

/-- The lines of a program. A name that holds line feeds makes one of these more than one line. -/
def lines (p : Program) : List String :=
  headerLines p.name
  ++ p.registrations.map (Registration.line p.name)
  ++ (p.entry.map (entryLine p.name)).toList
  ++ dispatchLines p.name 1 p.dispatches
  ++ p.transitions.map (Transition.line p.name)

/-- The text of a program. -/
def text (p : Program) : String := "\n".intercalate p.lines

end Program

/-- The source text that a graph compiles to. -/
def Graph.source {α : Type u} (g : Graph α) : String := g.program.text

end FlowCanvas

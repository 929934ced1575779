/-!
# Categories

The palette from which nodes are taken. A category fixes the label and the implementation that a new
node starts with, and its role: what the compiler makes of the node.
-/

namespace FlowCanvas

/-- What a node does in a compiled program. -/
inductive Role where
  /-- a step of the program -/
  | executable
  /-- a choice between several targets -/
  | dispatch
  /-- the start or the end -/
  | terminal
  /-- a remark on the canvas -/
  | remark
  deriving DecidableEq, Repr

/-- The name of a role. -/
def Role.name : Role → String
  | executable => "executable"
  | dispatch => "dispatch"
  | terminal => "terminal"
  | remark => "annotation"

/-- A kind of node on the palette. -/
inductive Category where
  /-- where a run begins -/
  | start
  /-- where a run ends -/
  | stop
  /-- a step that acts -/
  | action
  /-- a step that uses a tool -/
  | tool
  /-- a choice -/
  | branch
  /-- free text -/
  | remark
  deriving DecidableEq, Repr

namespace Category

/-- All categories, in the order of the palette. -/
def all : List Category := [start, stop, action, tool, branch, remark]

/-- The name of a category. -/
def name : Category → String
  | start => "start"
  | stop => "end"
  | action => "action"
  | tool => "tool"
  | branch => "conditional_branch"
  | remark => "annotation"

/-- The category with a name. -/
def ofName? (s : String) : Option Category := all.find? fun c => c.name == s

/-- The role of a category. -/
def role : Category → Role
  | start => .terminal
  | stop => .terminal
  | action => .executable
  | tool => .executable
  | branch => .dispatch
  | remark => .remark

/-- The label of a new node. -/
def defaultLabel : Category → String
  | start => "START"
  | stop => "END"
  | action => "Agent"
  | tool => "Tool"
  | branch => "Conditional Edge"
  | remark => "Text"

/-- The implementation of a new node, if it has any. -/
def defaultImplementation : Category → Option String
  | start => some "start_function"
  | stop => some "end_function"
  | action => some "agent_function"
  | tool => some "tool_function"
  | branch => some "condition_function"
  | remark => none

/-- Whether there is at most one node of a category. -/
def isTerminal (c : Category) : Bool := c.role = .terminal

@[simp] theorem ofName?_name (c : Category) : ofName? c.name = some c := by
  cases c <;> decide

theorem name_of_ofName? {s : String} {c : Category} (h : ofName? s = some c) : c.name = s := by
  have found := List.find?_some h
  exact eq_of_beq found

theorem name_injective : Function.Injective name := by
  intro c d h
  have same : ofName? c.name = ofName? d.name := congrArg ofName? h
  rw [ofName?_name, ofName?_name] at same
  exact Option.some.inj same

end Category

end FlowCanvas

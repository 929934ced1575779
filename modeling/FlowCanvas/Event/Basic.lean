import FlowCanvas.Graph.Basic

/-!
# Events

What an editing session announces: that the graph has changed, by which action and to which node or
edge, or that it has been reset. Either announcement carries the graph and its code right after it.
A bare event tells only these two.
-/

namespace FlowCanvas

universe u

/-- An announcement. -/
inductive Event (α : Type u) where
  /-- an edit has been made -/
  | changed (graph : Graph α) (code : String) (action : String) (subject : Option String)
  /-- the graph has been reset -/
  | reset (graph : Graph α) (code : String)
  /-- a graph and its code, and nothing else -/
  | bare (graph : Graph α) (code : String)

namespace Event

variable {α : Type u}

/-- The graph after what is announced. -/
def graph : Event α → Graph α
  | changed g .. => g
  | reset g _ => g
  | bare g _ => g

/-- The code of that graph. -/
def code : Event α → String
  | changed _ c .. => c
  | reset _ c => c
  | bare _ c => c

/-- The action, if an edit is announced. -/
def action? : Event α → Option String
  | changed _ _ a _ => some a
  | _ => none

/-- What the edit was of, if it was of one thing. -/
def subject? : Event α → Option String
  | changed _ _ _ s => s
  | _ => none

end Event

end FlowCanvas

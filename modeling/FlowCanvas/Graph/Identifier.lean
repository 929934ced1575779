import FlowCanvas.Graph.Basic

/-!
# Identifiers

Labels are free text; compiled code needs names made of the letters `A` to `Z` and `a` to `z`, the
ten digits and the underscore. A label becomes a base name, and the base name gets the least number
behind it that no other node has taken. `start` and `end` count as taken from the beginning, so that
the two terminal nodes, which always bear these names, collide with nothing when they come late.

The search for a free number ends: of one more candidates than there are taken names, all different,
one is free.
-/

namespace FlowCanvas

universe u

namespace Identifier

open Text

/-- A letter or a digit of ASCII. -/
def isAlphanumeric (c : Char) : Bool :=
  let n := c.toNat
  decide (48 ≤ n ∧ n ≤ 57) || decide (65 ≤ n ∧ n ≤ 90) || decide (97 ≤ n ∧ n ≤ 122)

/-- A character that a name may hold. -/
def isSafe (c : Char) : Bool := isAlphanumeric c || c == '_'

/-- Whether a text is a name: safe characters, and at least one. -/
def isName (s : String) : Bool := s != "" && s.toList.all isSafe

/-- How many characters of a label are kept if nothing else of it can be. -/
def fallbackLength : Nat := 10

/-- The name of a node whose label yields none. -/
def fallback : String := "node"

/-- The name that a label suggests: blanks become underscores and unsafe characters are dropped. -/
def base (label : String) : String :=
  let safe := (squeeze isBlank '_' (trim label.toList)).filter isSafe
  if safe ≠ [] then String.ofList safe
  else
    let letters := (label.toList.filter isAlphanumeric).take fallbackLength
    if letters ≠ [] then String.ofList letters else fallback

/-- The fixed name of a node of a terminal category. -/
def fixed? : Category → Option String
  | .start => some "start"
  | .stop => some "end"
  | _ => none

/-- The names that no other node may take. -/
def reserved : List String := ["start", "end"]

/-- A base name with a number behind it. -/
def numbered (base : String) (k : Nat) : String :=
  base ++ "_" ++ String.ofList (decimal k)

/-- The first free name among a base name with the numbers from `k` on; `fuel` bounds the search. -/
def firstFree (taken : List String) (base : String) : (fuel k : Nat) → String
  | 0, k => numbered base k
  | fuel + 1, k =>
    if taken.contains (numbered base k) then firstFree taken base fuel (k + 1) else numbered base k

/-- A base name if it is free, or else the first free one with a number behind it. -/
def unique (taken : List String) (base : String) : String :=
  if taken.contains base then firstFree taken base taken.length 1 else base

/-- The names that are taken for a node: the reserved ones and those of all nodes but `except`. -/
def taken {α : Type u} (nodes : List (Node α)) (except : Option String) : List String :=
  reserved ++ (nodes.filter fun n => decide (except ≠ some n.id)).map Node.identifier

/-- The identifier for a label, unique among the nodes but for the one being renamed. -/
def ofLabel {α : Type u} (label : String) (nodes : List (Node α)) (except : Option String)
    (category : Option Category) : String :=
  match category.bind fixed? with
  | some name => name
  | none => unique (taken nodes except) (base label)

/-- The name of a graph: the safe characters of a text, or the default name if it has none. -/
def ofGraphName (raw : String) : String :=
  let safe := raw.toList.filter isSafe
  if safe = [] then defaultGraphName else String.ofList safe

end Identifier

end FlowCanvas

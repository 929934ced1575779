/-!
# Arguments

A command line is read twice: here it is cut into options and plain arguments, by a list of the
options that there are; what the arguments mean is another matter. An option has a long name behind
two dashes and perhaps a letter behind one. A value follows a long name behind an equals sign,
follows a letter at once, or is the next argument, whatever that looks like. Letters can share a
dash. Two dashes alone end the options, and one dash alone is a plain argument.

These rules are not the program's own. They are those of the library for command lines that it is
built on, written down after what that library documents and what it does. What is proved of
commands starts from a request that has been read, and rests on none of them.
-/

namespace FlowCanvas

/-- An option that can be given. -/
structure Switch where
  /-- its long name -/
  long : String
  /-- its letter, if it has one -/
  short : Option Char
  /-- whether it takes a value -/
  takesValue : Bool
  deriving DecidableEq, Repr

/-- A command line in its parts. -/
structure Arguments where
  /-- the plain arguments, in order -/
  plain : List String
  /-- the options by their long names, in order, each with its value or an empty one -/
  given : List (String × String)
  deriving DecidableEq, Repr

/-- The options of one argument. -/
structure Given where
  /-- the options -/
  options : List (String × String)
  /-- the option whose value is the next argument, if there is one -/
  waiting : Option String
  deriving DecidableEq, Repr

namespace Arguments

/-- No arguments. -/
def empty : Arguments := ⟨[], []⟩

/-- Whether an option is given. -/
def has (a : Arguments) (long : String) : Bool := a.given.any fun g => g.1 == long

/-- The value of an option, the last one if there are several. -/
def value? (a : Arguments) (long : String) : Option String :=
  (a.given.reverse.find? fun g => g.1 == long).map Prod.snd

/-- Whether an argument is to be read as options. -/
def isOptions (arg : String) : Bool :=
  match arg.toList with
  | '-' :: _ :: _ => true
  | _ => false

/-- The options of letters behind one dash. -/
def letters? (switches : List Switch) : List Char → Option Given
  | [] => some ⟨[], none⟩
  | c :: rest =>
    match switches.find? fun s => s.short == some c with
    | none => none
    | some s =>
      if s.takesValue then
        some (if rest = [] then ⟨[], some s.long⟩
          else ⟨[(s.long, String.ofList rest)], none⟩)
      else (letters? switches rest).map fun g => { g with options := (s.long, "") :: g.options }

/-- The options of an argument that begins with a dash. -/
def options? (switches : List Switch) (arg : String) : Option Given :=
  let name := arg.toList.takeWhile (· != '=')
  match switches.find? fun s => '-' :: '-' :: s.long.toList == name,
    arg.toList.drop name.length with
  | some s, [] =>
    some (if s.takesValue then ⟨[], some s.long⟩ else ⟨[(s.long, "")], none⟩)
  | some s, _ :: value =>
    if s.takesValue then some ⟨[(s.long, String.ofList value)], none⟩ else none
  | none, _ =>
    if name.take 2 = ['-', '-'] then none else letters? switches (arg.toList.drop 1)

/-- Arguments with options in front. -/
def withOptions (options : List (String × String)) (a : Arguments) : Arguments :=
  { a with given := options ++ a.given }

/-- The parts of a command line. Options may stand among the plain arguments if `mixed`, and else
the first plain argument ends them. -/
def read? (switches : List Switch) (mixed : Bool) : List String → Option Arguments
  | [] => some empty
  | arg :: rest =>
    if arg = "--" then some ⟨rest, []⟩
    else if isOptions arg then
      match options? switches arg with
      | none => none
      | some ⟨options, none⟩ =>
        (read? switches mixed rest).map (withOptions options)
      | some ⟨options, some long⟩ =>
        match rest with
        | [] => none
        | value :: rest =>
          (read? switches mixed rest).map (withOptions (options ++ [(long, value)]))
    else if mixed then
      (read? switches mixed rest).map fun a => { a with plain := arg :: a.plain }
    else some ⟨arg :: rest, []⟩

end Arguments

end FlowCanvas

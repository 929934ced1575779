import FlowCanvas.Text.Blank
import FlowCanvas.Text.Lines

/-!
# The prompt

A question that is asked until it is answered with yes or no. No answer at all means no, and when
nothing more is typed the question stays open. What is typed appears behind the question.

The program words the question. Asking it is up to the library for command lines.
-/

namespace FlowCanvas.Prompt

open Text

/-- The question. -/
def question : String := "Discard the current graph? [y/N]: "

/-- What is said about an answer that means nothing. -/
def complaint : String := "Error: invalid input\n"

/-- What a typed line means. -/
def decision? (line : List Char) : Option Bool :=
  let word := trim (line.map Char.toLower)
  if word = ['y'] ∨ word = ['y', 'e', 's'] then some true
  else if word = [] ∨ word = ['n'] ∨ word = ['n', 'o'] then some false
  else none

/-- All that appears while the question is asked, and the answer if there is one. -/
def ask : (typed : List (List Char)) → String × Option Bool
  | [] => (question, none)
  | line :: rest =>
    let shown := question ++ String.ofList line ++ "\n"
    match decision? line with
    | some b => (shown, some b)
    | none =>
      let (more, answer) := ask rest
      (shown ++ complaint ++ more, answer)

end FlowCanvas.Prompt

import FlowCanvas.Command.Desk
import Std.Time.Format

/-!
# The program

The outer layer of the command line. It reads the files that a request looks at, hands everything to
the desk, prints what that replies and writes the files that have changed.
-/

namespace FlowCanvas.Main

/-- The help for a command line. -/
def help : String :=
  "Usage: flowcanvas COMMAND [OPTIONS] [ARGUMENTS]\n\n"
    ++ "  new [--name NAME] [--force]\n"
    ++ "  show [--json] [--plain] [--output FILE]\n"
    ++ "  inspect [--json] [--output FILE]\n"
    ++ "  rename NAME\n"
    ++ "  reset [--yes]\n"
    ++ "  node add CATEGORY [--label LABEL] [--x X] [--y Y]\n"
    ++ "  node rename NODE LABEL\n"
    ++ "  node rm NODES...\n"
    ++ "  node move NODE X Y\n"
    ++ "  edge add SOURCE TARGET\n"
    ++ "  edge rm EDGES...\n"
    ++ "  edge path [EDGE] [--json]\n"
    ++ "  edge drag EDGE DX DY [--zoom ZOOM] [--steps STEPS]\n\n"
    ++ "All of them take --state FILE.\n"

/-- The name of a place. -/
def name (p : Place) : String := (FilePath.absolute p).text

/-- A tree with what is at a place of the disk. -/
def look (t : FileTree) (p : Place) : IO FileTree := do
  if p = [] ∨ t.entry? p.dropLast ≠ some .directory then return t
  try
    let data ← IO.FS.readBinFile (name p)
    return t.put p (.file data.toList)
  catch
    | .noFileOrDirectory .. => return t
    | .inappropriateType .. => return t.put p .directory
    | e => throw e

/-- A desk with what a request looks at. -/
def prepare (r : Request) : IO Desk := do
  let here := (FilePath.ofText (← IO.currentDir).toString).parts
  let now ← Std.Time.Timestamp.now
  let time := (Std.Time.DateTime.ofTimestampWithZone now .UTC).format
    "uuuu-MM-dd'T'HH:mm:ss.SSSSSSxxx"
  let token := String.ofList ((← IO.getRandomBytes 4).toList.flatMap fun o => Text.hex 2 o.toNat)
  let above := (FilePath.ancestors here).reverse
  let files ← above.foldlM look ⟨[], here⟩
  let files ← (above.map fun p => p ++ [Settings.projectFile]).foldlM look files
  let desk : Desk := ⟨files, ⟨fun _ => token, 0⟩, time⟩
  let files ← ((desk.requestPaths r).flatMap files.trail).foldlM look files
  return { desk with files := files }

/-- Asks until there is an answer; gives back all that was typed. -/
partial def ask (typed : List Char) : IO (List Char) := do
  IO.print Prompt.question
  (← IO.getStdout).flush
  let line ← (← IO.getStdin).getLine
  let typed := typed ++ line.toList
  if line.isEmpty then return typed
  match Prompt.decision? (Text.typedLines line.toList).flatten with
  | some _ => return typed
  | none =>
    IO.print Prompt.complaint
    ask typed

/-- Writes a file all at once. -/
def save (p : Place) (data : Text.Utf8.Octets) : IO Unit := do
  IO.FS.createDirAll (name p.dropLast)
  let temporary := name p ++ ".tmp"
  IO.FS.writeBinFile temporary ⟨data.toArray⟩
  IO.FS.rename temporary (name p)

/-- Writes the files that are new or have changed. -/
def saveChanges (before after : FileTree) : IO Unit :=
  after.entries.forM fun
    | (p, .file data) => if before.entry? p = some (.file data) then pure () else save p data
    | _ => pure ()

end FlowCanvas.Main

open FlowCanvas in
/-- Runs a command line. -/
def main (args : List String) : IO UInt32 := do
  let request := Request.ofArguments args
  let desk ← Main.prepare request
  let typed ← if request.asks then Main.ask [] else pure []
  let shown := if request.asks then (Prompt.ask (Text.typedLines typed)).1.length else 0
  let reply := desk.reply args typed
  Main.saveChanges desk.files reply.desk.files
  IO.print (String.ofList (reply.printed.toList.drop shown))
  match request, reply.fault with
  | .help, _ => IO.print Main.help
  | .refused, _ => IO.eprint Main.help
  | .run .., some fault => IO.eprintln fault.message
  | .run .., none => pure ()
  return reply.status.toUInt32

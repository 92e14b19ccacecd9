import LanguageShell.Calculator.Language
import LanguageShell.Program

/-!
The calculator as a program. Commands are executed on a tree of files, so the files that they can
come to load are read first. Line editors are not started.
-/

namespace LanguageShell.Calculator

def loadedPaths (commands : List (Command Place)) : List CodeText :=
  commands.filterMap fun
    | .load path _ => some path
    | _ => none

/-- The paths of the places on the way to a path, which comes last. -/
def waypoints (path : CodeText) : List CodeText :=
  let names := FileTree.components path
  (List.range names.length).map fun n =>
    FileTree.spell (FileTree.isAbsolute path) (names.take (n + 1))

def plainPath? (path : CodeText) : Option String := do
  let chars ← path.points.mapM fun
    | .char c => some c
    | .surrogate _ => none
  return String.ofList chars

/-- Adds what is found at a path. A directory is what can be opened but not be read. Nothing is
found at a path with surrogates. -/
def look (tree : FileTree) (path : CodeText) : IO FileTree := do
  let some plain := plainPath? path | return tree
  match ← (IO.FS.readBinFile plain).toBaseIO with
  | .ok bytes => return tree.write path bytes.toList
  | .error (.inappropriateType none ..) => return tree.addDirectory path
  | .error _ => return tree

partial def collect (tree : FileTree) (path : CodeText) : IO FileTree := do
  if (FileTree.unresolvable? path).isSome then return tree
  let isKnown := (tree.find? (tree.realPath path)).isSome
  let tree ← (waypoints path).foldlM look tree
  if isKnown then return tree
  match (tree.source path).bind (Parser.located parseFile) with
  | .error _ => return tree
  | .ok commands => (loadedPaths commands).foldlM collect tree

def emptyTree : IO FileTree := do
  let directory ← IO.currentDir
  return { workingDirectory := FileTree.components directory.toString }

def filesForCommand (text : String) : IO FileTree := do
  match Parser.located parseSingle (Shell.commandSource text) with
  | .error _ => emptyTree
  | .ok command => (loadedPaths [command]).foldlM collect (← emptyTree)

def tell (events : List Event) : IO Unit := do
  for event in events do
    IO.print (screenOf [event])
    (← IO.getStdout).flush
    IO.eprint event.errors

/-- Writes what is left to be told of a run; its exit code. -/
def finish (run : Run Env) : IO UInt32 := do
  tell run.events
  match run.ending with
  | .failed (.fault fault) => IO.eprintln fault.message
  | _ => pure ()
  return ((run.ending.exitCode?).getD 1).toUInt32

partial def converse (setup : Setup) (state : Shell.State Env) : IO (Trace Env) := do
  tell [.prompted (Shell.prompt language state)]
  let line ← (← IO.getStdin).getLine
  let typed := (line.dropSuffix "\n").copy
  let input := if line.isEmpty then .endOfInput else .line typed
  let useFile := language.useFile setup (← filesForCommand (state.textWith typed))
  let response := Shell.respond language setup.reporter (language.execute setup useFile true) state
    input
  match response.outcome with
  | .error failure => return ⟨response.events, .error failure⟩
  | .ok (.over env) => return ⟨response.events, .ok env⟩
  | .ok (.more next) =>
    tell response.events
    converse setup next

/-- Runs the queued files and then the shell, if it is wanted; the exit code. -/
def runConfiguration (configuration : Configuration) : IO UInt32 := do
  let setup := configuration.setup
  let tree ← (configuration.files.map (·.path)).foldlM collect (← emptyTree)
  let queued := Program.runQueue (language.useFile setup tree) language.initial configuration.files
  match queued.outcome with
  | .ok env =>
    if configuration.interactiveShell then
      tell (queued.events ++ (Shell.greet language .unix).events)
      finish (Program.conclude setup.reporter (← converse setup { env }))
    else finish (Program.conclude setup.reporter queued)
  | .error _ => finish (Program.conclude setup.reporter queued)

end LanguageShell.Calculator

open LanguageShell LanguageShell.Calculator in
def main (words : List String) : IO UInt32 := do
  match CommandLine.ofLanguage language with
  | .error failure => finish { ending := .failed failure }
  | .ok command =>
    match command.decision .unix command.name words with
    | .error (.misuse error) =>
      IO.eprint (command.complaint command.name error)
      return 2
    | .error (.fault fault) => finish { ending := .failed (.fault fault) }
    | .ok (.print text) =>
      IO.print text
      return 0
    | .ok (.run configuration) => runConfiguration configuration

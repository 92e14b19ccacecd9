import LanguageShell.CommandLine.Help
import LanguageShell.Shell

/-!
What a run is to do, as the arguments say. A call for the version is heeded as soon as it is seen,
whatever else is wrong with the arguments.
-/

namespace LanguageShell

structure Configuration where
  interactiveShell : Bool := true
  /-- The line editors to try, if any are wanted. -/
  editors : Option (List String) := some LineEditor.defaults
  files : List FileEntry := []
  verbosity : Int := CommandLine.defaultVerbosity
  settings : List (String × Datum) := []

namespace Configuration

def setup (configuration : Configuration) : Setup where
  reporter := ⟨configuration.verbosity⟩
  settings := configuration.settings

/-- The configuration for settings and file arguments; the queue has the files to be run. -/
def ofSettings (command : CommandLine) (queue : List FileEntry)
    (settings : List (String × Datum)) (files : List String) : Configuration :=
  let isSet (name : String) : Bool := match settings.lookup name with
    | some (.truth b) => b
    | _ => false
  { interactiveShell := !isSet "no_shell" && files.isEmpty
    editors :=
      if isSet "no_wrapper" then none
      else match settings.lookup "wrapper" with
        | some (.text editor) => if editor = "" then some LineEditor.defaults else some [editor]
        | _ => some LineEditor.defaults
    files := queue
    verbosity := match settings.lookup "verbosity" with
      | some (.integer n) => n
      | _ => CommandLine.defaultVerbosity
    settings := settings.filter fun setting => command.own.any (·.name = setting.1) }

end Configuration

namespace CommandLine

/-- What the arguments lead to: a text that is printed, or a run. -/
inductive Decision where
  | print (text : String)
  | run (configuration : Configuration)

def versionLine (command : CommandLine) (platform : Platform) : String :=
  Text.withoutControls s!"{command.name} ({platform.name})\n"

def callsVersion (command : CommandLine) (words : List String) : Bool :=
  (scan command.options words).any fun
    | .option option _ => option.name = "version"
    | .file _ => false

/-- Decides what to do for the arguments; `program` is the name that the program is called by. -/
def decision (command : CommandLine) (platform : Platform) (program : String)
    (words : List String) : Except Refusal Decision :=
  if command.callsVersion words then .ok (.print (command.versionLine platform))
  else do
    match ← command.read words with
    | .help => return .print (command.help program)
    | .version => return .print (command.versionLine platform)
    | .run settings files =>
      let queue := fileQueue command.options words
      return .run (.ofSettings command queue settings files)

end CommandLine

end LanguageShell

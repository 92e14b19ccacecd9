import LanguageShell.Language
import LanguageShell.Text.Blank

/-!
A language whose commands are lines of text. It repeats each command and remembers it; some lines
make a command fail or run a file. What it presents to the user can be chosen freely.
-/

namespace LanguageShell.Echo

structure Description where
  name : Option String := none
  helpDirective : Option String := none
  prompt : Option String := none
  morePrompt : Option String := none
  options : List CommandOption := []
  loadsFiles : Bool := false
  /-- A line that ends so is continued on the next one. -/
  moreSuffix : Option String := none

/-- One command, without the blanks around it; one that starts with `!` is refused. -/
def parseCommand : Parser String := fun source =>
  let text := Text.trim (String.ofList source.text)
  if text.startsWith "!" then .error (.raised (.fault (.refused text))) else .ok text

/-- The commands of a file: its lines, all of which end with a newline. -/
def parseFile : Parser (List String) := fun source =>
  .ok ((String.ofList source.text).splitOn "\n").dropLast

def execute (_ : Setup) (useFile : List String → FileEntry → Trace (List String))
    (interactive : Bool) (env : List String) (command : String) : Trace (List String) :=
  match command.dropPrefix? "fail ", command.dropPrefix? "use " with
  | some message, _ => .fail (.diagnostic { kind := .warning, message := message.copy })
  | none, some path => useFile env ⟨path.copy, false⟩
  | none, none => do
    let shown := if interactive then "yes" else "no"
    Trace.printLine s!"got {command} {shown}"
    return env ++ [command]

def language (description : Description) : Language (List String) String where
  title := "Echo"
  name := description.name
  options := description.options
  helpDirective := description.helpDirective
  prompt := description.prompt.getD "# "
  morePrompt := description.morePrompt.getD "  "
  initial := []
  readsMore text := match description.moreSuffix with
    | some suffix => text.endsWith suffix
    | none => false
  parseFile := if description.loadsFiles then some parseFile else none
  parseCommand := parseCommand
  execute := execute

end LanguageShell.Echo

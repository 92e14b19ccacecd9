import LanguageShell.Diagnostic
import LanguageShell.Language
import LanguageShell.LineEditor

/-!
The command line of a language: the options that every language has, then its own. A form or a
setting may be declared only once.
-/

namespace LanguageShell

structure CommandLine where
  name : String
  /-- The options that every language has. -/
  common : List CommandOption
  /-- The options of the language. -/
  own : List CommandOption
  loadsFiles : Bool

namespace CommandLine

def helpForm : String := "--help"

/-- The setting that the file arguments make up. -/
def filesName : String := "files"

def defaultVerbosity : Int := 2

def commonOptions : List CommandOption := [
  OptionDeclaration.toOption {
    declarations := ["--wrapper"]
    default := some .absent
    placeholder := some "<program>"
    help := "Specify a command-line wrapper to be used (such as rlwrap or ledit)." },
  OptionDeclaration.toOption {
    declarations := [LineEditor.offFlag]
    isFlag := some true
    help := "Do not use a command-line wrapper." },
  OptionDeclaration.toOption {
    declarations := ["-v", "version"]
    isFlag := some true
    help := "Print language information and exit." },
  OptionDeclaration.toOption {
    declarations := ["-n", "no_shell"]
    isFlag := some true
    help := "Do not run the interactive toplevel." },
  OptionDeclaration.toOption {
    declarations := ["-l", "load"]
    isRepeated := true
    placeholder := some "<file>"
    help := "Load <file> into the initial environment." },
  OptionDeclaration.toOption {
    declarations := ["--verbosity"]
    type := some (.uniform .integer)
    default := some (.integer defaultVerbosity)
    placeholder := some "<n>"
    help := "Print diagnostics up to this severity (1 errors, 2 warnings, 3 debug).  " ++
      s!"[default: {defaultVerbosity}]" }]

/-- The option that asks for help; no setting belongs to it. -/
def helpOption : CommandOption where
  name := "help"
  forms := [helpForm]
  default := some (.truth false)
  help := "Show this message and exit."

/-- The options for which arguments are set, in the order of their declaration. -/
def options (command : CommandLine) : List CommandOption :=
  command.common ++ command.own

structure Declared where
  forms : List String := [helpForm]
  names : List String := []

/-- Adds what an option declares, forms first. -/
def Declared.add (declared : Declared) (forms : List String) (name : String) :
    Except Failure Declared :=
  let duplicate (what name : String) : Failure :=
    .diagnostic ⟨.configuration, s!"Command-line {what} \x60{name}\x60 is defined more than once.",
      .unknown⟩
  let addForm (seen : List String) (form : String) : Except Failure (List String) :=
    if form ∈ seen then .error (duplicate "option" form) else .ok (form :: seen)
  match forms.foldlM addForm declared.forms with
  | .error failure => .error failure
  | .ok forms =>
    if name ∈ declared.names then .error (duplicate "parameter" name)
    else .ok ⟨forms, name :: declared.names⟩

/-- Refuses options that share a form or a setting with each other or with the files. -/
def checkDuplicates (options : List CommandOption) : Except Failure Unit := do
  let addOption (declared : Declared) (option : CommandOption) : Except Failure Declared :=
    declared.add (option.forms ++ option.offForms) option.name
  let declared ← options.foldlM addOption {}
  let _ ← declared.add [] filesName
  return ()

def ofLanguage (language : Language Env Cmd) : Except Failure CommandLine := do
  match language.name with
  | none | some "" =>
    throw (.diagnostic ⟨.configuration,
      s!"Language \x60{language.title}\x60 does not declare a name.", .unknown⟩)
  | some name =>
    checkDuplicates (commonOptions ++ language.options)
    return ⟨name, commonOptions, language.options, language.parseFile.isSome⟩

end CommandLine

end LanguageShell

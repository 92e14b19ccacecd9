import LanguageShell.CommandLine.Read
import LanguageShell.Text.Paragraph

/-!
The help text of a command line, and how a wrong use of it is reported. All is laid out for lines
of 78 characters, and control sequences are left out of what is written.
-/

namespace LanguageShell

namespace CommandOption

/-- The values that the option takes, as the help shows them. -/
def placeholders (option : CommandOption) : String :=
  (option.placeholder.getD option.type.title) ++ (if option.valueCount = 1 then "" else "...")

/-- The forms of one side of an option, those with the fewest marks first. -/
def showForms (option : CommandOption) (forms : List String) : String :=
  let withMarks (n : Nat) : List String := forms.filter (OptionDeclaration.markLength · = n)
  let shown := ", ".intercalate (withMarks 0 ++ withMarks 1 ++ withMarks 2)
  if option.takesValue then shown ++ " " ++ option.placeholders else shown

/-- What the help lists the option as. A slash does not stand between forms that start with
one. -/
def heading (option : CommandOption) : String :=
  if option.offForms.isEmpty then option.showForms option.forms
  else
    let hasSlash := (option.forms ++ option.offForms).any (OptionDeclaration.marks · = "/")
    let separator := if hasSlash then "; " else " / "
    option.showForms option.forms ++ separator ++ option.showForms option.offForms

end CommandOption

namespace CommandLine

def helpWidth : Nat := 78

/-- The least width that is left for what stands beside a column. -/
def minTextWidth : Nat := 10

/-- The least width that is left for what stands behind the name of the program. -/
def minUsageWidth : Nat := 20

def maxFormsWidth : Nat := 30

/-- The width of the gaps between columns and at the start of a line. -/
def gapWidth : Nat := 2

def spaces (n : Nat) : List Char :=
  List.replicate n ' '

/-- A name that the program is called by, as it is shown: nothing blank stands before it. -/
def shownName (program : String) : List Char :=
  program.toList.dropWhile Text.isBlank

/-- How the program is called; `program` is the name that it is called by. -/
def usage (command : CommandLine) (program : String) : List Char :=
  let pieces := if command.loadsFiles then "[OPTION] ... [FILE] ..." else "[OPTION] ..."
  let title := "Usage: ".toList
  let start := title ++ shownName program ++ [' ']
  let width := Text.visibleLength start
  if width + minUsageWidth ≤ helpWidth then
    Text.joinLines (Text.fill start (spaces width) helpWidth pieces.toList)
  else
    let indent := spaces (title.length + 4)
    start ++ '\n' :: Text.joinLines (Text.fill indent indent helpWidth pieces.toList)

def optionLines (formsWidth : Nat) (option : CommandOption) : List (List Char) :=
  let shown := option.heading.toList
  let width := Text.visibleLength shown
  let column := formsWidth + gapWidth
  let textWidth := max (helpWidth - column - gapWidth) minTextWidth
  let lines := Text.bareLines (Text.wrap [] textWidth option.help.toList)
  let indented (line : List Char) : List Char := spaces (column + gapWidth) ++ line
  match lines with
  | [] => [spaces gapWidth ++ shown]
  | line :: rest =>
    if width ≤ formsWidth then
      (spaces gapWidth ++ shown ++ spaces (column - width) ++ line) :: rest.map indented
    else (spaces gapWidth ++ shown) :: (line :: rest).map indented

/-- What the language is, in a few words. A form feed ends them. -/
def summary (command : CommandLine) : List Char :=
  (Text.dedent s!"Toplevel of the {command.name} language.".toList).takeWhile (· ≠ '\x0c')

def help (command : CommandLine) (program : String) : String :=
  let options := command.options ++ [helpOption]
  let widest := (options.map (Text.visibleLength ·.heading.toList)).foldl max 0
  let paragraphs := [
    command.usage program,
    Text.wrap (spaces gapWidth) helpWidth command.summary,
    "Options:\n".toList ++
      Text.joinLines (options.flatMap (optionLines (min widest maxFormsWidth)))]
  Text.withoutControls (String.ofList (['\n', '\n'].intercalate paragraphs) ++ "\n")

def complaint (command : CommandLine) (program : String) (error : UsageError) : String :=
  let hint :=
    if error.isBrief then ""
    else
      let name := String.ofList (shownName program)
      String.ofList (command.usage program) ++ s!"\nTry '{name} {helpForm}' for help.\n\n"
  Text.withoutControls (hint ++ s!"Error: {error.message}\n")

end CommandLine

end LanguageShell

import LanguageShell.CommandLine.Command

/-!
A first look at the arguments, before they are read in earnest: which options occur with which
values, and which arguments are files, in their order. It complains about nothing. Options that it
does not know are skipped, and values that are missing are left out.
-/

namespace LanguageShell

namespace CommandOption

/-- How many of the arguments that follow an option belong to it, if a value may be attached. -/
def consumed (option : CommandOption) (attached : Option String) : Nat :=
  if option.takesValue then max option.valueCount 1 - (if attached.isSome then 1 else 0) else 0

def firstValue (option : CommandOption) (attached : Option String) (rest : List String) :
    Option String :=
  if option.takesValue then attached.orElse fun _ => rest.head? else none

end CommandOption

namespace CommandLine

/-- What the arguments are made of: files, and options with their first value. -/
inductive Item where
  | file (path : String)
  | option (option : CommandOption) (value : Option String)

def findForm? (options : List CommandOption) (form : String) : Option CommandOption :=
  options.find? fun option => option.forms.contains form

/-- A word of the form `--name=value`, taken apart at the first equals sign. -/
def splitAtEquals (word : String) : String × Option String :=
  let chars := word.toList
  let name := String.ofList (chars.takeWhile (· ≠ '='))
  if '=' ∈ chars then (name, some (String.ofList ((chars.dropWhile (· ≠ '=')).drop 1)))
  else (name, none)

/-- Looks at the letters of a cluster such as `-nl`. The result has the options found and the
number of following arguments that belong to them. -/
def scanCluster (options : List CommandOption) (rest : List String) :
    List Char → List Item × Nat
  | [] => ([], 0)
  | c :: letters =>
    match findForm? options (String.ofList ['-', c]) with
    | none => scanCluster options rest letters
    | some option =>
      let attached := if letters.isEmpty then none else some (String.ofList letters)
      if option.takesValue then
        ([.option option (option.firstValue attached rest)], option.consumed attached)
      else
        let (items, n) := scanCluster options rest letters
        (.option option none :: items, n)

/-- Looks at the arguments one by one. After `--` all are files. -/
def scan (options : List CommandOption) : List String → List Item
  | [] => []
  | word :: rest =>
    if word = "--" then rest.map .file
    else if word.startsWith "--" then
      let (form, attached) := splitAtEquals word
      match findForm? options form with
      | none => scan options rest
      | some option =>
        .option option (option.firstValue attached rest) ::
          scan options (rest.drop (option.consumed attached))
    else if word.startsWith "-" && word ≠ "-" then
      let (items, n) := scanCluster options rest (word.toList.drop 1)
      items ++ scan options (rest.drop n)
    else .file word :: scan options rest
termination_by words => words.length
decreasing_by all_goals simp only [List.length_drop, List.length_cons]; omega

/-- The files to be run, in their order: those of `-l` do not show their results. -/
def fileQueue (options : List CommandOption) (words : List String) : List FileEntry :=
  (scan options words).filterMap fun
    | .file path => some ⟨path, true⟩
    | .option option value =>
      if option.name = "load" then value.map fun path => ⟨path, false⟩ else none

end CommandLine

end LanguageShell

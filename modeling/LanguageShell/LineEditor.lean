/-!
Starting the program again under a line editor, which then reads lines in its place. The program
under the editor is told not to start one itself.
-/

namespace LanguageShell.LineEditor

def defaults : List String := ["rlwrap", "ledit"]

def offFlag : String := "--no-wrapper"

structure Invocation where
  /-- All the words of the command that started it, the executable first. -/
  command : Option (List String) := none
  /-- The path of the executable; empty if it is not known. -/
  executable : String := ""
  /-- The name by which the program goes, and its arguments. -/
  arguments : List String := []

/-- The arguments that start the program again, the name of its executable first. -/
def Invocation.words (invocation : Invocation) : List String :=
  let words := match invocation.command with
    | some (word :: rest) => word :: rest
    | _ => invocation.executable :: invocation.arguments
  if invocation.executable = "" then words else invocation.executable :: words.drop 1

/-- The arguments with the flag that turns editors off, ahead of what `--` makes files. -/
def withoutEditor (words : List String) : List String :=
  words.takeWhile (· ≠ "--") ++ offFlag :: words.dropWhile (· ≠ "--")

/-- The attempts to start an editor, and whether the last one took the program's place. -/
structure Launch where
  attempts : List (List String)
  replaced : Bool
deriving DecidableEq, Repr

def launch (starts : String → Bool) (words : List String) : List String → Launch
  | [] => ⟨[], false⟩
  | editor :: others =>
    let attempt := editor :: withoutEditor words
    if starts editor then ⟨[attempt], true⟩
    else
      let rest := launch starts words others
      ⟨attempt :: rest.attempts, rest.replaced⟩

end LanguageShell.LineEditor

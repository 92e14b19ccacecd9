import LanguageShell.CommandLine.Configuration
import LanguageShell.Loading

/-!
A run of a language's program: the arguments decide what to do, the queued files are run one after
another, and then the shell. A diagnostic that a file gives rise to ends the run.
-/

namespace LanguageShell

structure Surroundings where
  platform : Platform := .unix
  files : FileTree := {}
  /-- What can be read from the standard input. -/
  input : List Shell.Input := []
  isTerminal : Bool := false
  invocation : LineEditor.Invocation := {}
  /-- Whether a program can be started. -/
  starts : String → Bool := fun _ => false

inductive Ending (Env : Type) where
  /-- There is nothing more to do, and an environment if files or commands were run. -/
  | finished (env : Option Env)
  /-- A diagnostic was reported. -/
  | reported
  /-- A line editor took the program's place. -/
  | replaced
  | misused (error : CommandLine.UsageError)
  | failed (failure : Failure)

structure Run (Env : Type) where
  events : List Event := []
  /-- The attempts to start a line editor. -/
  attempts : List (List String) := []
  ending : Ending Env

/-- The exit code of a program that ends so, unless something else takes its place. -/
def Ending.exitCode? : Ending Env → Option Nat
  | finished _ => some 0
  | reported => some 1
  | misused _ => some 2
  | replaced => none
  | failed _ => none

namespace Program

variable {Env Cmd : Type}

/-- Runs the queued files, each in the environment that the one before left. -/
def runQueue (useFile : Env → FileEntry → Trace Env) (env : Env) (queue : List FileEntry) :
    Trace Env :=
  queue.foldlM useFile env

def runConfigured (language : Language Env Cmd) (configuration : Configuration)
    (surroundings : Surroundings) : Trace Env := do
  let setup := configuration.setup
  let useFile := language.useFile setup surroundings.files
  let env ← runQueue useFile language.initial configuration.files
  if configuration.interactiveShell then
    let visit := Shell.visit language surroundings.platform setup.reporter
      (language.execute setup useFile true) env surroundings.input
    visit.trace
  else return env

def conclude (reporter : Reporter) (trace : Trace Env) : Run Env :=
  match trace.outcome with
  | .ok env => { events := trace.events, ending := .finished (some env) }
  | .error (.diagnostic diagnostic) =>
    let report := reporter.diagnostic diagnostic
    { events := trace.events ++ report.events, ending := .reported }
  | .error failure => { events := trace.events, ending := .failed failure }

/-- Runs a configuration, under a line editor if one is wanted and can be started. -/
def run (language : Language Env Cmd) (configuration : Configuration)
    (surroundings : Surroundings) : Run Env :=
  let editors := if configuration.interactiveShell && surroundings.isTerminal then
    configuration.editors.getD [] else []
  let launch := LineEditor.launch surroundings.starts surroundings.invocation.words editors
  if launch.replaced then { attempts := launch.attempts, ending := .replaced }
  else
    let trace := runConfigured language configuration surroundings
    { conclude configuration.setup.reporter trace with attempts := launch.attempts }

def main (language : Language Env Cmd) (surroundings : Surroundings) (words : List String) :
    Run Env :=
  match CommandLine.ofLanguage language with
  | .error failure => { ending := .failed failure }
  | .ok command =>
    match command.decision surroundings.platform command.name words with
    | .error (.misuse error) => { ending := .misused error }
    | .error (.fault fault) => { ending := .failed (.fault fault) }
    | .ok (.print text) => { events := [.printed text], ending := .finished none }
    | .ok (.run configuration) => run language configuration surroundings

def complaint (language : Language Env Cmd) (run : Run Env) : String :=
  match run.ending, CommandLine.ofLanguage language with
  | .misused error, .ok command => command.complaint command.name error
  | _, _ => ""

end Program

end LanguageShell

import LanguageShell.Program
import LanguageShell.Proofs.Calculator.Output
import LanguageShell.Proofs.Report
import LanguageShell.Proofs.Survival

/-!
The queue of files up to the first one that fails. The error that ends the load of that file is
reported at the end of the run, and neither the files behind it nor the shell have any part in that
run.
-/

namespace LanguageShell

/-! ### The report at the end -/

namespace Reporter

variable {reporter : Reporter} {events : List Event}

theorem told_cases (reporter : Reporter) (diagnostic : Diagnostic) :
    (∃ text, reporter.told (.diagnostic diagnostic) = [.reported 1 text]) ∨
      reporter.verbosity < 1 ∧ reporter.told (.diagnostic diagnostic) = [] := by
  rw [told]
  split
  · exact .inl ⟨_, rfl⟩
  · rename_i hshows
    exact .inr ⟨not_le.mp hshows, rfl⟩

theorem outputOf_append_told (events : List Event) (diagnostic : Diagnostic) :
    outputOf (events ++ reporter.told (.diagnostic diagnostic)) = outputOf events := by
  rw [outputOf_append]
  obtain ⟨text, htold⟩ | ⟨-, htold⟩ := told_cases reporter diagnostic <;> rw [htold]
  · exact String.append_empty
  · exact String.append_empty

theorem filter_append_told (h : ∀ event ∈ events, event.IsQuiet reporter)
    (diagnostic : Diagnostic) :
    (events ++ reporter.told (.diagnostic diagnostic)).filter Event.isErrorReport =
      reporter.told (.diagnostic diagnostic) := by
  rw [List.filter_append, filter_isErrorReport_of_isQuiet h]
  obtain ⟨text, htold⟩ | ⟨-, htold⟩ := told_cases reporter diagnostic <;> rw [htold] <;> rfl

theorem errorsOf_append_told (hverbosity : reporter.verbosity < 1)
    (h : ∀ event ∈ events, event.IsQuiet reporter) (diagnostic : Diagnostic) :
    errorsOf (events ++ reporter.told (.diagnostic diagnostic)) = "" := by
  have hhidden : ¬reporter.Shows 1 := not_le.mpr hverbosity
  rw [errorsOf_append, errorsOf_of_isQuiet hverbosity h, told, if_neg hhidden]
  rfl

theorem prompted_not_mem_append_told (h : ∀ event ∈ events, event.IsQuiet reporter)
    (diagnostic : Diagnostic) (text : String) :
    .prompted text ∉ events ++ reporter.told (.diagnostic diagnostic) := by
  rw [List.mem_append]
  rintro (hprompt | hprompt)
  · exact h _ hprompt
  · obtain ⟨_, htold⟩ | ⟨-, htold⟩ := told_cases reporter diagnostic
    · rw [htold, List.mem_singleton] at hprompt
      cases hprompt
    · rw [htold] at hprompt
      cases hprompt

end Reporter

/-! ### Runs of the program -/

namespace Shell

variable {Env Cmd : Type} {language : Language Env Cmd} {reporter : Reporter}
  {execute : Env → Cmd → Trace Env}

theorem exists_fault_of_visit {platform : Platform} {env : Env} {inputs : List Input}
    {name : String} (hname : language.name = some name) {failure : Failure}
    (h : (visit language platform reporter execute env inputs).outcome = .error failure) :
    ∃ fault, failure = .fault fault := by
  rw [visit_eq platform env inputs hname] at h
  obtain ⟨_, _, _, _, fault, -, -, -, -, rfl⟩ := converse_eq_error_iff_attempt.mp h
  exact ⟨fault, rfl⟩

theorem head_turns_visit {platform : Platform} {env : Env} {inputs : List Input} {name : String}
    (hname : language.name = some name) :
    (visit language platform reporter execute env inputs).turns[0]? =
      some ⟨(greet language platform).events, env, language.prompt⟩ := by
  rw [visit_eq platform env inputs hname]
  exact head_turns_converse _ _ _

theorem prompted_mem_visit {platform : Platform} {env : Env} {inputs : List Input} {name : String}
    (hname : language.name = some name) :
    .prompted language.prompt ∈
      (visit language platform reporter execute env inputs).trace.events := by
  have hhead : _ ∈ (visit language platform reporter execute env inputs).turns :=
    List.mem_of_getElem? (head_turns_visit hname)
  exact List.mem_append_left _ (List.mem_flatMap.mpr ⟨_, hhead, by simp⟩)

end Shell

theorem LineEditor.launch_replaced_iff {starts : String → Bool} {words editors : List String} :
    (launch starts words editors).replaced = true ↔ ∃ editor ∈ editors, starts editor = true := by
  induction editors with
  | nil => simp [launch]
  | cons editor editors ih =>
      rw [launch]
      cases hstarts : starts editor <;> simp [hstarts, ih]

namespace Program

variable {Env Cmd : Type} {language : Language Env Cmd} {configuration : Configuration}
  {surroundings : Surroundings}

/-- Whether a line editor takes the program's place before anything is run. -/
def IsReplaced (configuration : Configuration) (surroundings : Surroundings) : Prop :=
  configuration.interactiveShell = true ∧ surroundings.isTerminal = true ∧
    ∃ editor ∈ configuration.editors.getD [], surroundings.starts editor = true

def launched (configuration : Configuration) (surroundings : Surroundings) : LineEditor.Launch :=
  LineEditor.launch surroundings.starts surroundings.invocation.words
    (if configuration.interactiveShell && surroundings.isTerminal then
      configuration.editors.getD [] else [])

theorem launched_replaced_iff :
    (launched configuration surroundings).replaced = true ↔
      IsReplaced configuration surroundings := by
  rw [launched, LineEditor.launch_replaced_iff]
  unfold IsReplaced
  split
  · rename_i hinteractive
    rw [Bool.and_eq_true] at hinteractive
    simp [hinteractive]
  · rename_i hinteractive
    simp only [List.not_mem_nil, false_and, exists_false, false_iff]
    rintro ⟨hshell, hterminal, -⟩
    exact hinteractive (by rw [hshell, hterminal]; rfl)

theorem run_of_isReplaced (h : IsReplaced configuration surroundings) :
    run language configuration surroundings =
      { attempts := (launched configuration surroundings).attempts, ending := .replaced } := by
  rw [← launched_replaced_iff] at h
  exact if_pos h

theorem run_of_not_isReplaced (h : ¬IsReplaced configuration surroundings) :
    run language configuration surroundings =
      { conclude configuration.setup.reporter (runConfigured language configuration surroundings)
        with attempts := (launched configuration surroundings).attempts } := by
  rw [← launched_replaced_iff] at h
  exact if_neg h

/-- Runs files one after another, the first one in the environment that the language starts with. -/
def runFiles (language : Language Env Cmd) (configuration : Configuration)
    (surroundings : Surroundings) (files : List FileEntry) : Trace Env :=
  runQueue (language.useFile configuration.setup surroundings.files) language.initial files

/-- What comes after the queue: a visit to the shell, if it is wanted. -/
def afterQueue (language : Language Env Cmd) (configuration : Configuration)
    (surroundings : Surroundings) (env : Env) : Trace Env :=
  if configuration.interactiveShell then
    (Shell.visit language surroundings.platform configuration.setup.reporter
      (language.execute configuration.setup
        (language.useFile configuration.setup surroundings.files) true) env
      surroundings.input).trace
  else pure env

theorem runConfigured_eq (language : Language Env Cmd) (configuration : Configuration)
    (surroundings : Surroundings) :
    runConfigured language configuration surroundings =
      runFiles language configuration surroundings configuration.files >>=
        afterQueue language configuration surroundings :=
  rfl

theorem runConfigured_of_error {front back : List FileEntry} {entry : FileEntry}
    (hfiles : configuration.files = front ++ entry :: back) {env : Env}
    (hfront : (runFiles language configuration surroundings front).outcome = .ok env)
    {failure : Failure}
    (hentry : (language.useFile configuration.setup surroundings.files env entry).outcome =
      .error failure) :
    runConfigured language configuration surroundings =
      ⟨(runFiles language configuration surroundings front).events ++
        (language.useFile configuration.setup surroundings.files env entry).events,
        .error failure⟩ := by
  rw [runConfigured_eq, hfiles, runFiles, runQueue, Trace.foldlM_of_error hfront hentry back]
  rfl

theorem run_of_diagnostic (h : ¬IsReplaced configuration surroundings)
    {front back : List FileEntry} {entry : FileEntry}
    (hfiles : configuration.files = front ++ entry :: back) {env : Env}
    (hfront : (runFiles language configuration surroundings front).outcome = .ok env)
    {diagnostic : Diagnostic}
    (hentry : (language.useFile configuration.setup surroundings.files env entry).outcome =
      .error (.diagnostic diagnostic)) :
    run language configuration surroundings =
      { events := (runFiles language configuration surroundings front).events ++
          (language.useFile configuration.setup surroundings.files env entry).events ++
          configuration.setup.reporter.told (.diagnostic diagnostic)
        attempts := (launched configuration surroundings).attempts
        ending := .reported } := by
  rw [run_of_not_isReplaced h, runConfigured_of_error hfiles hfront hentry]
  simp only [conclude, Reporter.diagnostic_eq_told]

theorem conclude_of_ok {reporter : Reporter} {trace : Trace Env} {env : Env}
    (h : trace.outcome = .ok env) :
    conclude reporter trace = { events := trace.events, ending := .finished (some env) } := by
  rw [conclude, h]

theorem conclude_of_fault {reporter : Reporter} {trace : Trace Env} {fault : Fault}
    (h : trace.outcome = .error (.fault fault)) :
    conclude reporter trace = { events := trace.events, ending := .failed (.fault fault) } := by
  rw [conclude, h]

/-- The shell comes after a queue that succeeds; it does not fail with a diagnostic. -/
theorem run_of_ok {name : String} (hname : language.name = some name)
    (h : ¬IsReplaced configuration surroundings) {env : Env}
    (hqueue : (runFiles language configuration surroundings configuration.files).outcome =
      .ok env) :
    (run language configuration surroundings).events =
      (runFiles language configuration surroundings configuration.files).events ++
        (afterQueue language configuration surroundings env).events ∧
    ∀ last, (afterQueue language configuration surroundings env).outcome = .ok last →
      (run language configuration surroundings).ending = .finished (some last) := by
  rw [run_of_not_isReplaced h, runConfigured_eq, Trace.bind_of_ok hqueue]
  cases houtcome : (afterQueue language configuration surroundings env).outcome with
  | ok last =>
      rw [conclude_of_ok rfl]
      refine ⟨rfl, fun other hother => ?_⟩
      rw [Except.ok.inj hother]
  | error failure =>
      -- Only the shell is left to fail, and it reports all but faults by itself.
      obtain ⟨fault, rfl⟩ : ∃ fault, failure = .fault fault := by
        unfold afterQueue at houtcome
        split at houtcome
        · exact Shell.exists_fault_of_visit hname houtcome
        · cases houtcome
      rw [conclude_of_fault rfl]
      exact ⟨rfl, fun _ hother => nomatch hother⟩

/-- Whether the shell is wanted shows in what comes after the queue: it asks for a line. -/
theorem exists_prompt_afterQueue_iff {name : String} (hname : language.name = some name)
    (env : Env) :
    (∃ text, .prompted text ∈ (afterQueue language configuration surroundings env).events) ↔
      configuration.interactiveShell = true := by
  unfold afterQueue
  split
  · rename_i hshell
    exact iff_of_true ⟨language.prompt, Shell.prompted_mem_visit hname⟩ hshell
  · rename_i hshell
    exact iff_of_false (fun ⟨_, hprompt⟩ => nomatch hprompt) hshell

theorem exists_events_conclude (reporter : Reporter) (trace : Trace Env) :
    ∃ more, (conclude reporter trace).events = trace.events ++ more := by
  unfold conclude
  split
  · exact ⟨[], (List.append_nil _).symm⟩
  · exact ⟨_, rfl⟩
  · exact ⟨[], (List.append_nil _).symm⟩

theorem exists_events_run (h : ¬IsReplaced configuration surroundings)
    {front back : List FileEntry} {entry : FileEntry}
    (hfiles : configuration.files = front ++ entry :: back) {env : Env}
    (hfront : (runFiles language configuration surroundings front).outcome = .ok env) :
    ∃ more, (run language configuration surroundings).events =
      (runFiles language configuration surroundings front).events ++
        (language.useFile configuration.setup surroundings.files env entry).events ++ more := by
  obtain ⟨⟨within, hwithin⟩, -⟩ := Calculator.isPart_foldlM hfront entry back
  obtain ⟨shell, hshell⟩ := Trace.exists_events_bind
    (runFiles language configuration surroundings configuration.files)
    (afterQueue language configuration surroundings)
  obtain ⟨last, hlast⟩ := exists_events_conclude configuration.setup.reporter
    (runConfigured language configuration surroundings)
  refine ⟨within ++ shell ++ last, ?_⟩
  rw [run_of_not_isReplaced h]
  show (conclude _ _).events = _
  rw [hlast, runConfigured_eq, hshell, hfiles, runFiles, runQueue, hwithin]
  simp only [List.append_assoc]
  rfl

end Program

namespace Calculator

variable {setup : Setup} {tree : FileTree}

theorem isQuiet_runQueue (files : List FileEntry) (env : Env) :
    ∀ event ∈ (Program.runQueue (language.useFile setup tree) env files).events,
      event.IsQuiet setup.reporter :=
  Trace.forall_events_foldlM (fun env entry => isQuiet_run ⟨[], env, entry⟩) files env

open Program

variable {configuration : Configuration} {surroundings : Surroundings} {front : List FileEntry}
  {entry : FileEntry} {env : Env} {diagnostic : Diagnostic}

/-- Whether the queue comes to an entry in an environment and the entry fails with a diagnostic. -/
structure FailsAt (configuration : Configuration) (surroundings : Surroundings)
    (front : List FileEntry) (entry : FileEntry) (env : Env) (diagnostic : Diagnostic) :
    Prop where
  stays : ¬IsReplaced configuration surroundings
  files : ∃ back, configuration.files = front ++ entry :: back
  before : (runFiles language configuration surroundings front).outcome = .ok env
  fails : (language.useFile configuration.setup surroundings.files env entry).outcome =
    .error (.diagnostic diagnostic)

namespace FailsAt

def loads (configuration : Configuration) (surroundings : Surroundings) (front : List FileEntry)
    (entry : FileEntry) (env : Env) : List Event :=
  (runFiles language configuration surroundings front).events ++
    (language.useFile configuration.setup surroundings.files env entry).events

theorem run_eq (h : FailsAt configuration surroundings front entry env diagnostic) :
    Program.run language configuration surroundings =
      { events := loads configuration surroundings front entry env ++
          configuration.setup.reporter.told (.diagnostic diagnostic)
        attempts := (launched configuration surroundings).attempts
        ending := .reported } := by
  obtain ⟨back, hfiles⟩ := h.files
  exact run_of_diagnostic h.stays hfiles h.before h.fails

theorem isQuiet_loads :
    ∀ event ∈ loads configuration surroundings front entry env,
      event.IsQuiet configuration.setup.reporter := by
  intro event hevent
  obtain hevent | hevent := List.mem_append.mp hevent
  · exact isQuiet_runQueue front [] event hevent
  · exact isQuiet_run ⟨[], env, entry⟩ event hevent

theorem filter_isErrorReport
    (h : FailsAt configuration surroundings front entry env diagnostic) :
    (Program.run language configuration surroundings).events.filter Event.isErrorReport =
      configuration.setup.reporter.told (.diagnostic diagnostic) := by
  rw [h.run_eq]
  exact Reporter.filter_append_told isQuiet_loads diagnostic

theorem errorsOf_eq_empty (h : FailsAt configuration surroundings front entry env diagnostic)
    (hverbosity : configuration.verbosity < 1) :
    errorsOf (Program.run language configuration surroundings).events = "" := by
  rw [h.run_eq]
  exact Reporter.errorsOf_append_told hverbosity isQuiet_loads diagnostic

theorem prompted_not_mem (h : FailsAt configuration surroundings front entry env diagnostic)
    (text : String) :
    .prompted text ∉ (Program.run language configuration surroundings).events := by
  rw [h.run_eq]
  exact Reporter.prompted_not_mem_append_told isQuiet_loads diagnostic text

theorem outputOf_eq (h : FailsAt configuration surroundings front entry env diagnostic)
    {completed : List Event}
    (hcompleted : Request.FailsAfter configuration.setup surroundings.files
      (.diagnostic diagnostic) ⟨[], env, entry⟩ completed) :
    outputOf (Program.run language configuration surroundings).events =
      outputOf (runFiles language configuration surroundings front).events ++
        outputOf completed := by
  rw [h.run_eq, Reporter.outputOf_append_told, loads, outputOf_append, ← hcompleted.output_eq.2]
  rfl

/-- An entry without commands fails at once, with nothing completed. -/
theorem outputOf_of_unreadable
    (h : FailsAt configuration surroundings front entry env diagnostic) {failure : Failure}
    (hcontents : contents surroundings.files entry.path = .error failure) :
    outputOf (Program.run language configuration surroundings).events =
      outputOf (runFiles language configuration surroundings front).events := by
  have hnew : ¬(Request.mk [] env entry).IsRecursive surroundings.files := fun h => nomatch h.2
  have hfails : (language.useFile configuration.setup surroundings.files env entry).outcome =
      .error failure :=
    congrArg Trace.outcome (Request.run_of_error hnew hcontents)
  obtain rfl := Except.error.inj (h.fails.symm.trans hfails)
  rw [h.outputOf_eq (.unreadable hnew hcontents)]
  exact String.append_empty

/-- Neither the entries behind the failing one nor the input make a difference. -/
theorem run_eq_run (h : FailsAt configuration surroundings front entry env diagnostic)
    (others : List FileEntry) (inputs : List Shell.Input) :
    Program.run language { configuration with files := front ++ entry :: others }
        { surroundings with input := inputs } =
      Program.run language configuration surroundings := by
  have hothers : FailsAt { configuration with files := front ++ entry :: others }
      { surroundings with input := inputs } front entry env diagnostic :=
    ⟨h.stays, ⟨others, rfl⟩, h.before, h.fails⟩
  exact hothers.run_eq.trans h.run_eq.symm

end FailsAt

theorem exists_prompt_run_iff (hstays : ¬IsReplaced configuration surroundings)
    (hqueue : (runFiles language configuration surroundings configuration.files).outcome =
      .ok env) :
    (∃ text, .prompted text ∈ (Program.run language configuration surroundings).events) ↔
      configuration.interactiveShell = true := by
  have hname : language.name = some "calc" := rfl
  rw [← exists_prompt_afterQueue_iff hname env]
  refine exists_congr fun text => ?_
  rw [(run_of_ok hname hstays hqueue).1, List.mem_append, or_iff_right]
  exact fun hprompt => isQuiet_runQueue _ _ _ hprompt

/-- The queue of files ends with the first one that fails. Unless a line editor takes the program's
place, the files are run in order, each in the environment that those before leave. If one of them
fails with a diagnostic, then that is reported, once and if errors are shown at all, and the run is
over with exit code 1: neither the files behind it nor the input make a difference, and the output
is that of the files before and of the commands that were completed, in the file and in those that
it loads. If all files succeed, then the shell is started exactly if it is wanted, in the
environment that they leave. -/
theorem file_queue_ends_with_first_failure (configuration : Configuration)
    (surroundings : Surroundings) :
    let setup := configuration.setup
    let tree := surroundings.files
    let useFile := language.useFile setup tree
    let queue := runQueue useFile []
    let run := Program.run language configuration surroundings
    (IsReplaced configuration surroundings → run.events = [] ∧ run.ending = .replaced) ∧
    (¬IsReplaced configuration surroundings →
      (∀ front entry back env, configuration.files = front ++ entry :: back →
        (queue front).outcome = .ok env →
        ∃ more, run.events = (queue front).events ++ (useFile env entry).events ++ more) ∧
      (∀ front entry back env diagnostic, configuration.files = front ++ entry :: back →
        (queue front).outcome = .ok env →
        (useFile env entry).outcome = .error (.diagnostic diagnostic) →
        let loads := (queue front).events ++ (useFile env entry).events
        let report := setup.reporter.told (.diagnostic diagnostic)
        run.events = loads ++ report ∧ run.ending = .reported ∧ run.ending.exitCode? = some 1 ∧
        run.events.filter Event.isErrorReport = report ∧
        (configuration.verbosity < 1 → errorsOf run.events = "") ∧
        (∀ text, .prompted text ∉ run.events) ∧
        (∃ completed, Request.FailsAfter setup tree (.diagnostic diagnostic) ⟨[], env, entry⟩
          completed) ∧
        (∀ completed, Request.FailsAfter setup tree (.diagnostic diagnostic) ⟨[], env, entry⟩
          completed → outputOf run.events = outputOf (queue front).events ++ outputOf completed) ∧
        ((∃ failure, contents tree entry.path = .error failure) →
          outputOf run.events = outputOf (queue front).events) ∧
        ∀ others inputs, Program.run language
          { configuration with files := front ++ entry :: others }
          { surroundings with input := inputs } = run) ∧
      ∀ env, (queue configuration.files).outcome = .ok env →
        let visit := Shell.visit language surroundings.platform setup.reporter
          (language.execute setup useFile true) env surroundings.input
        let next := if configuration.interactiveShell then visit.trace else pure env
        run.events = (queue configuration.files).events ++ next.events ∧
        (∀ last, next.outcome = .ok last → run.ending = .finished (some last)) ∧
        ((∃ text, .prompted text ∈ run.events) ↔ configuration.interactiveShell = true) ∧
        visit.turns[0]?.map (·.env) = some env) := by
  intro setup tree useFile queue run
  have hname : language.name = some "calc" := rfl
  refine ⟨fun hreplaced => ?_, fun hstays => ⟨?_, ?_, ?_⟩⟩
  · have hrun : run = { attempts := (launched configuration surroundings).attempts
                        ending := .replaced } := run_of_isReplaced hreplaced
    rw [hrun]
    exact ⟨rfl, rfl⟩
  · intro front entry back env hfiles hfront
    exact exists_events_run hstays hfiles hfront
  · intro front entry back env diagnostic hfiles hfront hentry loads report
    have hfails : FailsAt configuration surroundings front entry env diagnostic :=
      ⟨hstays, ⟨back, hfiles⟩, hfront, hentry⟩
    have hrun : run = { events := loads ++ report
                        attempts := (launched configuration surroundings).attempts
                        ending := .reported } := hfails.run_eq
    exact ⟨by rw [hrun], by rw [hrun], by rw [hrun]; rfl, hfails.filter_isErrorReport,
      hfails.errorsOf_eq_empty, hfails.prompted_not_mem, exists_failsAfter hentry,
      fun _ => hfails.outputOf_eq, fun ⟨_, hcontents⟩ => hfails.outputOf_of_unreadable hcontents,
      hfails.run_eq_run⟩
  · intro env hqueue visit next
    obtain ⟨hevents, hending⟩ := run_of_ok hname hstays hqueue
    refine ⟨hevents, hending, exists_prompt_run_iff hstays hqueue, ?_⟩
    rw [Shell.head_turns_visit hname]
    rfl

/-- A queue whose second file comes to load one that there is not. -/
theorem file_queue_with_missing_file :
    let tree : FileTree := { files := [
      (["", "a"], "show x;\n".toUTF8.toList),
      (["", "b"], "show y;\nload \"c\";\nhelp;\n".toUTF8.toList)] }
    let configuration : Configuration := { files := [⟨"a", false⟩, ⟨"b", true⟩, ⟨"a", false⟩] }
    let run := Program.run language configuration { files := tree }
    ¬IsReplaced configuration { files := tree } ∧ run.ending.exitCode? = some 1 ∧
      outputOf run.events = "x\ny\n" ∧
      run.events.filter Event.isErrorReport = [.reported 1
        "Fatal error at unknown position:\n  c: No such file or directory\n"] ∧
      ∀ text, .prompted text ∉ run.events := by
  intro tree configuration run
  have hstays : ¬IsReplaced configuration { files := tree } := fun h => nomatch h.2.1
  obtain ⟨name, place, ha⟩ : ∃ name place,
      contents tree "a" = .ok [.display (.var "x" name) place] :=
    ⟨_, _, by cbv⟩
  obtain ⟨name', first, second, third, hb⟩ : ∃ name first second third,
      contents tree "b" = .ok ([.display (.var "y" name) first] ++
        .load "c" second :: [.help third]) :=
    ⟨_, _, _, _, by cbv⟩
  have hc : contents tree "c" = .error (.fatal "c: No such file or directory") := by cbv
  let useFile := language.useFile configuration.setup tree
  have hload : useFile [] ⟨"a", false⟩ =
      ⟨[.entered (tree.realPath "a"), .printed "x\n", .left], .ok []⟩ := by
    let request : Request := ⟨[], [], ⟨"a", false⟩⟩
    have hidle : request.place tree ∉ request.inProgress := List.not_mem_nil
    exact (Request.run_of_contents hidle ha).trans rfl
  have hfront : runQueue useFile [] [⟨"a", false⟩] =
      ⟨[.entered (tree.realPath "a"), .printed "x\n", .left], .ok []⟩ := by
    rw [runQueue, List.foldlM_cons, hload]
    rfl
  have hnew : ¬(Request.mk [tree.realPath "b"] [] ⟨"c", false⟩).IsRecursive tree := by
    rintro ⟨-, hmem⟩
    have hb : tree.realPath "b" = ["", "b"] := by cbv
    have hc : tree.realPath "c" = ["", "c"] := by cbv
    have hsame : tree.realPath "c" = tree.realPath "b" := List.mem_singleton.mp hmem
    simp [hb, hc] at hsame
  have hfails : Request.FailsAfter configuration.setup tree
      (.fatal "c: No such file or directory") ⟨[], [], ⟨"b", true⟩⟩ _ :=
    .load List.not_mem_nil hb rfl (.unreadable hnew hc)
  obtain ⟨-, hfailure, -⟩ := (file_queue_ends_with_first_failure configuration _).2 hstays
  obtain ⟨-, -, hexit, hreport, -, hprompt, -, houtput, -⟩ :=
    hfailure [⟨"a", false⟩] ⟨"b", true⟩ [⟨"a", false⟩] [] _ rfl (by rw [hfront]) hfails.output_eq.1
  refine ⟨hstays, hexit, ?_, hreport, hprompt⟩
  rw [houtput _ hfails, hfront]
  rfl

end Calculator

end LanguageShell

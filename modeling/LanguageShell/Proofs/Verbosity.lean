import LanguageShell.Proofs.Calculator.FirstFailure

/-!
Runs with fewer messages. What is reported is only ever written: where a reporter leaves messages
out, files, the shell and the program do the same as with all messages, provided that the commands
of the language do. The messages that are left out are missing, and everything else is there in its
order.
-/

namespace LanguageShell

/-! ### Reports -/

/-- Whether a message of the severity has the label in its heading. -/
inductive Report.Heads : Int → String → Prop
  | diagnostic (kind : Diagnostic.Kind) : Heads 1 kind.label
  | warning : Heads 2 "Warning"
  | trace : Heads 3 "Debug"

namespace Event

/-- Whether the event takes place at a verbosity: a report does if it is within it. -/
def IsWithin (verbosity : Int) : Event → Bool
  | reported severity _ => severity ≤ verbosity
  | printed _ | prompted _ | interrupted | entered _ | left => true

def isReported : Event → Bool
  | reported .. => true
  | printed _ | prompted _ | interrupted | entered _ | left => false

/-- Whether what is reported is a whole message, with a heading for its severity. -/
def IsWhole : Event → Prop
  | reported severity text => ∃ label place body, Report.Heads severity label ∧
      text = Report.render label place body
  | printed _ | prompted _ | interrupted | entered _ | left => True

end Event

namespace Reporter

/-- Whether one reporter writes what is kept of the other one's messages. All that is no message is
kept. -/
structure Filters (keep : Event → Bool) (reporter filtered : Reporter) : Prop where
  plain : ∀ event : Event, event.isReported = false → keep event = true
  report : ∀ {severity : Int} {label : String}, Report.Heads severity label →
    ∀ {template : String} {arguments : List Datum} {body : String},
      Template.fill template arguments = .ok body → ∀ place,
        (reporter.report label severity template arguments place).keeping keep =
          filtered.report label severity template arguments place

/-- A reporter writes the messages of one with a greater verbosity, without those that are not
within its own. -/
theorem filters_within {reporter : Reporter} {verbosity : Int}
    (h : verbosity ≤ reporter.verbosity) :
    reporter.Filters (·.IsWithin verbosity) ⟨verbosity⟩ where
  plain event hevent := by
    cases event with
    | reported => cases hevent
    | printed | prompted | interrupted | entered | left => rfl
  report := by
    intro severity label _ template arguments body hfill place
    rw [report_of_fill hfill, report_of_fill hfill]
    by_cases hlow : severity ≤ verbosity
    · rw [if_pos (show reporter.Shows severity from hlow.trans h),
        if_pos (show Shows ⟨verbosity⟩ severity from hlow)]
      exact Trace.keeping_emit (decide_eq_true hlow)
    · rw [if_neg (show ¬Shows ⟨verbosity⟩ severity from hlow)]
      split
      · -- The message is written, but it is not within the verbosity.
        simp [Trace.keeping, Trace.emit, Event.IsWithin, hlow, Trace.pure_eq]
      · rfl

open Classical in
theorem filters_isWhole (reporter : Reporter) :
    reporter.Filters (fun event => decide event.IsWhole) reporter where
  plain event hevent := by
    cases event with
    | reported => cases hevent
    | printed | prompted | interrupted | entered | left => exact decide_eq_true trivial
  report := by
    intro severity label hheads template arguments body hfill place
    rw [report_of_fill hfill]
    split
    · exact Trace.keeping_emit (decide_eq_true ⟨label, place, body, hheads, rfl⟩)
    · rfl

theorem Filters.diagnostic {keep : Event → Bool} {reporter filtered : Reporter}
    (h : reporter.Filters keep filtered) (diagnostic : Diagnostic) :
    (reporter.diagnostic diagnostic).keeping keep = filtered.diagnostic diagnostic :=
  h.report (.diagnostic _) (Template.fill_text _) _

end Reporter

/-! ### Files -/

variable {Env Cmd : Type}

/-- Whether the commands of a language do the same under a reporter that filters the messages of
another one, but for these messages, provided that the function that runs files does so. -/
def Language.OnlyReports (language : Language Env Cmd) : Prop :=
  ∀ (keep : Event → Bool) (setup : Setup) (filtered : Reporter),
    setup.reporter.Filters keep filtered →
    ∀ use other : Env → FileEntry → Trace Env,
      (∀ env entry, (use env entry).keeping keep = other env entry) →
      ∀ interactive env command,
        (language.execute setup use interactive env command).keeping keep =
          language.execute { setup with reporter := filtered } other interactive env command

section

variable {language : Language Env Cmd} (hlanguage : language.OnlyReports) {keep : Event → Bool}
  {setup : Setup} {filtered : Reporter} (h : setup.reporter.Filters keep filtered)

include hlanguage h

/-- The files that are not in progress get fewer from load to load. -/
theorem Language.keeping_load (tree : FileTree) (inProgress : List RealPath) (env : Env)
    (entry : FileEntry) :
    (language.load setup tree inProgress env entry).keeping keep =
      language.load { setup with reporter := filtered } tree inProgress env entry := by
  induction hlength : (tree.idleFiles inProgress).length using Nat.strongRecOn
    generalizing inProgress env entry with
  | ind length ih =>
      rw [load, load]
      cases hparse : language.parseFile with
      | none => rfl
      | some parse =>
          dsimp only
          split
          · rfl
          split
          · rfl
          rename_i hnew
          split
          · rfl
          rename_i text hread
          split
          · rfl
          have hless := FileTree.length_idleFiles_cons
            (FileTree.mem_of_find?_isSome (FileTree.find?_realPath_of_read hread)) hnew
          have huse := fun env entry => ih _ (hlength ▸ hless) _ env entry rfl
          rw [Trace.keeping_bind, Trace.keeping_emit (h.plain _ rfl)]
          refine congrArg _ (funext fun _ => ?_)
          rw [Trace.keeping_andFinally (h.plain _ rfl), Trace.keeping_foldlM]
          exact hlanguage keep setup filtered h _ _ huse entry.interactive

end

/-! ### The shell -/

namespace Shell

variable {language : Language Env Cmd} {keep : Event → Bool} {reporter filtered : Reporter}

def Visit.keeping (keep : Event → Bool) (visit : Visit Env) : Visit Env where
  turns := visit.turns.map fun turn => { turn with events := turn.events.filter keep }
  events := visit.events.filter keep
  outcome := visit.outcome

theorem Visit.trace_keeping (hprompt : ∀ text, keep (.prompted text) = true) (visit : Visit Env) :
    (visit.keeping keep).trace = visit.trace.keeping keep := by
  have hturns : (visit.keeping keep).turns.flatMap
        (fun turn => turn.events ++ [.prompted turn.prompt]) =
      (visit.turns.flatMap fun turn => turn.events ++ [.prompted turn.prompt]).filter keep := by
    rw [List.filter_flatMap, keeping, List.flatMap_map]
    simp [hprompt]
  rw [trace, trace, hturns, Trace.keeping, List.filter_append]
  rfl

variable (h : reporter.Filters keep filtered)

include h

theorem keeping_recover (env : Env) (attempt : Trace Env) :
    (recover reporter env attempt).keeping keep = recover filtered env (attempt.keeping keep) := by
  obtain ⟨events, failure | next⟩ := attempt
  · cases failure with
    | diagnostic diagnostic =>
        show Trace.keeping _ (_ >>= fun _ => _ >>= fun _ => _) = (_ >>= fun _ => _ >>= fun _ => _)
        rw [Trace.keeping_bind]
        refine congrArg _ (funext fun _ => ?_)
        rw [Trace.keeping_bind, ← h.diagnostic]
        rfl
    | interrupted => simp [recover, Trace.keeping, h.plain .interrupted rfl]
    | fault fault => rfl
  · rfl

theorem filter_greet (platform : Platform) :
    (greet language platform).events.filter keep = (greet language platform).events := by
  unfold greet
  split
  · rfl
  · rw [List.filter_eq_self]
    intro event hevent
    obtain ⟨line, -, rfl⟩ := List.mem_map.mp hevent
    exact h.plain _ rfl

variable {execute other : Env → Cmd → Trace Env}
  (hexecute : ∀ env command, (execute env command).keeping keep = other env command)

include hexecute

theorem keeping_respond (language : Language Env Cmd) (state : State Env) (input : Input) :
    (respond language reporter execute state input).keeping keep =
      respond language filtered other state input := by
  cases input with
  | line line =>
      rw [respond, respond]
      split
      · rfl
      · have hrun : (runCommand language execute state.env (state.textWith line)).keeping keep =
            runCommand language other state.env (state.textWith line) := by
          rw [runCommand, runCommand, Trace.keeping_bind]
          exact congrArg _ (funext fun command => hexecute state.env command)
        rw [Trace.keeping_bind, ← hrun, ← keeping_recover h]
        rfl
  | interrupt =>
      rw [respond, Trace.keeping_bind, Trace.keeping_emit (h.plain .interrupted rfl)]
      rfl
  | endOfInput =>
      rw [respond, Trace.keeping_bind, Trace.printLine,
        Trace.keeping_emit (h.plain _ rfl)]
      rfl

theorem keeping_converse (events : List Event) (state : State Env) (inputs : List Input) :
    (converse language reporter execute events state inputs).keeping keep =
      converse language filtered other (events.filter keep) state inputs := by
  induction inputs generalizing events state with
  | nil =>
      rw [converse.eq_2 _ _ _ _ _ _ state.env rfl, converse.eq_2 _ _ _ _ _ _ state.env rfl]
      have hover := keeping_respond h hexecute language state .endOfInput
      rw [List.head?_nil, Option.getD_none, ← hover]
      rfl
  | cons input inputs ih =>
      have hrespond := keeping_respond h hexecute language state input
      cases houtcome : (respond language reporter execute state input).outcome with
      | error failure =>
          have hother := (congrArg Trace.outcome hrespond).symm.trans houtcome
          rw [converse.eq_1 _ _ _ _ _ _ failure houtcome, converse.eq_1 _ _ _ _ _ _ failure hother,
            List.head?_cons, Option.getD_some, ← hrespond]
          rfl
      | ok next =>
          have hother := (congrArg Trace.outcome hrespond).symm.trans houtcome
          obtain next | env := next
          · rw [converse_of_more houtcome, converse_of_more hother, ← hrespond]
            simp only [Trace.keeping, ← ih]
            rfl
          · rw [converse.eq_2 _ _ _ _ _ _ env houtcome, converse.eq_2 _ _ _ _ _ _ env hother,
              List.head?_cons, Option.getD_some, ← hrespond]
            rfl

theorem keeping_visit (platform : Platform) (env : Env) (inputs : List Input) :
    (visit language platform reporter execute env inputs).keeping keep =
      visit language platform filtered other env inputs := by
  unfold visit
  dsimp only
  split
  · rw [keeping_converse h hexecute, filter_greet h]
  · rw [Visit.keeping, filter_greet h]
    rfl

end Shell

/-! ### The program -/

def Run.keeping (keep : Event → Bool) (run : Run Env) : Run Env :=
  { run with events := run.events.filter keep }

namespace Program

theorem keeping_conclude {keep : Event → Bool} {reporter filtered : Reporter}
    (h : reporter.Filters keep filtered) (trace : Trace Env) :
    (conclude reporter trace).keeping keep = conclude filtered (trace.keeping keep) := by
  obtain ⟨events, failure | env⟩ := trace
  · cases failure with
    | diagnostic diagnostic =>
        simp only [conclude, Run.keeping, Trace.keeping, List.filter_append, ← h.diagnostic]
    | interrupted | fault => rfl
  · rfl

variable {language : Language Env Cmd} (hlanguage : language.OnlyReports) {keep : Event → Bool}
  {configuration : Configuration} {verbosity : Int}
  (h : configuration.setup.reporter.Filters keep ⟨verbosity⟩)

include hlanguage h

theorem keeping_runConfigured (surroundings : Surroundings) :
    (runConfigured language configuration surroundings).keeping keep =
      runConfigured language { configuration with verbosity } surroundings := by
  have huse := Language.keeping_load hlanguage h surroundings.files []
  have hqueue : (runFiles language configuration surroundings configuration.files).keeping keep =
      runFiles language { configuration with verbosity } surroundings configuration.files :=
    Trace.keeping_foldlM huse configuration.files language.initial
  rw [runConfigured_eq, runConfigured_eq, Trace.keeping_bind]
  refine congr (congrArg _ hqueue) (funext fun env => ?_)
  unfold afterQueue
  split
  · have hexecute := hlanguage keep configuration.setup _ h _ _ huse true
    rw [← Shell.Visit.trace_keeping fun _ => h.plain _ rfl]
    exact congrArg _ (Shell.keeping_visit h hexecute ..)
  · rfl

theorem keeping_run (surroundings : Surroundings) :
    (run language configuration surroundings).keeping keep =
      run language { configuration with verbosity } surroundings := by
  by_cases hreplaced : IsReplaced configuration surroundings
  · rw [run_of_isReplaced hreplaced, run_of_isReplaced (by exact hreplaced)]
    rfl
  · have hconclude := keeping_conclude h (runConfigured language configuration surroundings)
    rw [keeping_runConfigured hlanguage h] at hconclude
    rw [run_of_not_isReplaced hreplaced, run_of_not_isReplaced (by exact hreplaced),
      show ({ configuration with verbosity } : Configuration).setup.reporter = ⟨verbosity⟩ from rfl,
      ← hconclude]
    rfl

end Program

end LanguageShell

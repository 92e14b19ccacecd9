import LanguageShell.Proofs.Calculator.Recursion

/-!
What loads write. A command writes to the output when it has computed everything, so one that fails
writes nothing there, and the output of a load that fails is that of the commands that are
completed, its own and those of the files that it loads. No load reports an error: the one that ends
it is the affair of those who started it.
-/

namespace LanguageShell

/-! ### Quiet computations -/

/-- Whether the event raises no alarm: no line is asked for, and what is reported is no error and
within the verbosity. -/
def Event.IsQuiet (reporter : Reporter) : Event → Prop
  | printed _ | entered _ | left => True
  | reported severity _ => 1 < severity ∧ reporter.Shows severity
  | prompted _ | interrupted => False

def Event.isErrorReport : Event → Bool
  | reported severity _ => severity ≤ 1
  | printed _ | prompted _ | interrupted | entered _ | left => false

/-- Whether a computation is quiet and writes nothing to the output. -/
def Trace.IsMute {α : Type} (reporter : Reporter) (trace : Trace α) : Prop :=
  ∀ event ∈ trace.events, event.IsQuiet reporter ∧ event.output = ""

/-- Whether a computation is quiet and writes nothing to the output if it fails. -/
structure Trace.IsReticent {α : Type} (reporter : Reporter) (trace : Trace α) : Prop where
  quiet : ∀ event ∈ trace.events, event.IsQuiet reporter
  silent : ∀ failure, trace.outcome = .error failure → outputOf trace.events = ""

theorem outputOf_eq_empty {events : List Event} (h : ∀ event ∈ events, event.output = "") :
    outputOf events = "" := by
  induction events with
  | nil => rfl
  | cons event events ih =>
      have hrest := ih fun other hother => h other (List.mem_cons_of_mem _ hother)
      have hfirst := h event List.mem_cons_self
      rw [← List.singleton_append, outputOf_append, hrest]
      simp [outputOf, hfirst]

theorem filter_isErrorReport_of_isQuiet {reporter : Reporter} {events : List Event}
    (h : ∀ event ∈ events, event.IsQuiet reporter) : events.filter Event.isErrorReport = [] := by
  rw [List.filter_eq_nil_iff]
  intro event hevent herror
  have hquiet := h event hevent
  cases event with
  | reported severity text =>
      have hlow : severity ≤ 1 := of_decide_eq_true herror
      have hhigh : 1 < severity := hquiet.1
      omega
  | printed | prompted | interrupted | entered | left => cases herror

theorem errorsOf_of_isQuiet {reporter : Reporter} (hverbosity : reporter.verbosity < 1)
    {events : List Event} (h : ∀ event ∈ events, event.IsQuiet reporter) :
    errorsOf events = "" := by
  induction events with
  | nil => rfl
  | cons event events ih =>
      have hrest := ih fun other hother => h other (List.mem_cons_of_mem _ hother)
      have hfirst : event.errors = "" := by
        have hquiet := h event List.mem_cons_self
        cases event with
        | reported severity text =>
            -- Such a report is not within the verbosity.
            have hhigh : 1 < severity := hquiet.1
            have hshows : severity ≤ reporter.verbosity := hquiet.2
            omega
        | interrupted => exact hquiet.elim
        | printed | prompted | entered | left => rfl
      rw [← List.singleton_append, errorsOf_append, hrest]
      simp [errorsOf, hfirst]

/-! ### Steps one after another -/

namespace Trace

variable {α β : Type} {reporter : Reporter}

theorem IsMute.of_nil {trace : Trace α} (h : trace.events = []) : trace.IsMute reporter := by
  intro event hevent
  rw [h] at hevent
  cases hevent

theorem IsMute.bind {trace : Trace α} {next : α → Trace β} (h : trace.IsMute reporter)
    (hnext : ∀ a, (next a).IsMute reporter) : (trace >>= next).IsMute reporter := by
  cases houtcome : trace.outcome with
  | error failure =>
      rw [bind_of_error houtcome]
      exact h
  | ok a =>
      rw [bind_of_ok houtcome]
      intro event hevent
      exact (List.mem_append.mp hevent).elim (h event) (hnext a event)

theorem IsMute.report {label : String} {severity : Int} (h : 1 < severity) (template : String)
    (arguments : List Datum) (place : Option Place) :
    (reporter.report label severity template arguments place).IsMute reporter := by
  rw [Reporter.report, Reporter.message]
  split
  · rename_i hshows
    cases Template.fill template arguments with
    | error fault => exact .of_nil rfl
    | ok body =>
        intro event hevent
        obtain rfl := List.mem_singleton.mp hevent
        exact ⟨⟨h, hshows⟩, rfl⟩
  · exact .of_nil rfl

theorem IsMute.isReticent {trace : Trace α} (h : trace.IsMute reporter) :
    trace.IsReticent reporter where
  quiet event hevent := (h event hevent).1
  silent _ _ := outputOf_eq_empty fun event hevent => (h event hevent).2

/-- What comes before the end must not write to the output, for the end may fail. -/
theorem IsReticent.bind {trace : Trace α} {next : α → Trace β} (h : trace.IsMute reporter)
    (hnext : ∀ a, (next a).IsReticent reporter) : (trace >>= next).IsReticent reporter := by
  cases houtcome : trace.outcome with
  | error failure =>
      rw [bind_of_error houtcome]
      exact ⟨h.isReticent.quiet, fun _ _ => h.isReticent.silent failure houtcome⟩
  | ok a =>
      rw [bind_of_ok houtcome]
      refine ⟨fun event hevent => ?_, fun failure hfailure => ?_⟩
      · exact (List.mem_append.mp hevent).elim (h.isReticent.quiet event) ((hnext a).quiet event)
      · rw [outputOf_append, outputOf_eq_empty fun event hevent => (h event hevent).2,
          (hnext a).silent failure hfailure]
        rfl

theorem IsReticent.bind_pure {trace : Trace α} (h : trace.IsReticent reporter) (f : α → β) :
    (trace >>= fun a => Pure.pure (f a)).IsReticent reporter := by
  cases houtcome : trace.outcome with
  | error failure =>
      rw [bind_of_error houtcome]
      exact ⟨h.quiet, fun _ _ => h.silent failure houtcome⟩
  | ok a =>
      rw [bind_of_ok houtcome]
      refine ⟨fun event hevent => h.quiet event ?_, fun _ hfailure => nomatch hfailure⟩
      simpa [pure_eq] using hevent

theorem isReticent_printLine (text : String) : (printLine text).IsReticent reporter where
  quiet event hevent := by
    obtain rfl := List.mem_singleton.mp hevent
    trivial
  silent _ h := nomatch h

variable {f : β → α → Trace β}

theorem forall_events_foldlM {holds : Event → Prop}
    (h : ∀ b a, ∀ event ∈ (f b a).events, holds event) (items : List α) (start : β) :
    ∀ event ∈ (items.foldlM f start).events, holds event := by
  induction items generalizing start with
  | nil => exact fun _ hevent => nomatch hevent
  | cons first items ih =>
      rw [List.foldlM_cons]
      cases houtcome : (f start first).outcome with
      | error failure =>
          rw [bind_of_error houtcome]
          exact h start first
      | ok next =>
          rw [bind_of_ok houtcome]
          intro event hevent
          exact (List.mem_append.mp hevent).elim (h start first event) (ih next event)

theorem foldlM_of_error {front : List α} {start middle : β}
    (hfront : (front.foldlM f start).outcome = .ok middle) {a : α} {failure : Failure}
    (ha : (f middle a).outcome = .error failure) (back : List α) :
    (front ++ a :: back).foldlM f start =
      ⟨(front.foldlM f start).events ++ (f middle a).events, .error failure⟩ := by
  rw [List.foldlM_append, bind_of_ok hfront, List.foldlM_cons, bind_of_error ha]

end Trace

namespace Calculator

/-! ### What loads write -/

theorem isMute_compute (setup : Setup) (env : Env) (e : Expr) :
    (compute setup env e).IsMute setup.reporter := by
  apply Trace.IsMute.bind (.of_nil rfl)
  intro _
  apply Trace.IsMute.bind (.of_nil rfl)
  intro text
  apply Trace.IsMute.bind (.report (by decide) _ _ _)
  intro _
  exact .of_nil rfl

theorem isReticent_echo (setup : Setup) (interactive : Bool) (start : String) (value : Value) :
    (echo setup interactive start value).IsReticent setup.reporter := by
  unfold echo
  split
  · exact .bind (.of_nil rfl) fun _ => Trace.isReticent_printLine _
  · exact Trace.IsMute.isReticent (.of_nil rfl)

/-- A command writes to the output when it has computed everything, so it writes nothing if it
fails. -/
theorem isReticent_execute {command : Command Place} (h : command.IsLoad = false) (setup : Setup)
    (use : Env → FileEntry → Trace Env) (interactive : Bool) (env : Env) :
    (execute setup use interactive env command).IsReticent setup.reporter := by
  cases command with
  | load => cases h
  | define name e _ =>
      apply Trace.IsReticent.bind (isMute_compute setup env e)
      intro value
      split
      · apply Trace.IsReticent.bind (.report (by decide) _ _ _)
        intro _
        exact (isReticent_echo _ _ _ _).bind_pure _
      · exact (isReticent_echo _ _ _ _).bind_pure _
  | eval e _ =>
      apply Trace.IsReticent.bind (isMute_compute setup env e)
      intro value
      exact (isReticent_echo _ _ _ _).bind_pure _
  | display | listing =>
      apply Trace.IsReticent.bind (.of_nil rfl)
      intro text
      exact (Trace.isReticent_printLine _).bind_pure _
  | help => exact (Trace.isReticent_printLine _).bind_pure _

variable {setup : Setup} {tree : FileTree}

theorem isQuiet_run (request : Request) :
    ∀ event ∈ (request.run setup tree).events, event.IsQuiet setup.reporter := by
  induction request using Request.induction tree with
  | recursive request hrecursive =>
      rw [Request.run_of_isRecursive setup hrecursive]
      exact fun _ hevent => nomatch hevent
  | unreadable request failure hrecursive hcontents =>
      rw [Request.run_of_error hrecursive hcontents]
      exact fun _ hevent => nomatch hevent
  | readable request commands hidle hcontents ih =>
      have hcommands : ∀ event ∈ (request.perform setup tree commands).events,
          event.IsQuiet setup.reporter := by
        apply Trace.forall_events_foldlM
        intro env command
        obtain hload | ⟨path, place, rfl⟩ := command.isLoad_cases
        · exact (isReticent_execute hload ..).quiet
        · exact ih env ⟨path, false⟩
      rw [Request.run_of_contents hidle hcontents]
      intro event hevent
      simp only [List.mem_cons, List.mem_append, List.not_mem_nil, or_false] at hevent
      obtain rfl | hevent | rfl := hevent
      · trivial
      · exact hcommands event hevent
      · trivial

/-- How a load fails, with what the commands did that were completed before: those of its own file,
and if the one that fails is a load, those that were completed there. -/
inductive Request.FailsAfter (setup : Setup) (tree : FileTree) (failure : Failure) :
    Request → List Event → Prop where
  | refused {request : Request} (recursive : request.IsRecursive tree)
      (refusal : failure = request.refusal) : FailsAfter setup tree failure request []
  | unreadable {request : Request} (new : ¬request.IsRecursive tree)
      (unreadable : contents tree request.entry.path = .error failure) :
      FailsAfter setup tree failure request []
  | command {request : Request} {front back : List (Command Place)} {command : Command Place}
      {middle : Env} (idle : request.place tree ∉ request.inProgress)
      (readable : contents tree request.entry.path = .ok (front ++ command :: back))
      (before : (request.perform setup tree front).outcome = .ok middle)
      (noLoad : command.IsLoad = false)
      (fails : (execute setup (language.load setup tree (request.place tree :: request.inProgress))
        request.entry.interactive middle command).outcome = .error failure) :
      FailsAfter setup tree failure request (request.perform setup tree front).events
  | load {request : Request} {front back : List (Command Place)} {path : CodeText} {place : Place}
      {middle : Env} {completed : List Event} (idle : request.place tree ∉ request.inProgress)
      (readable : contents tree request.entry.path = .ok (front ++ .load path place :: back))
      (before : (request.perform setup tree front).outcome = .ok middle)
      (inner : FailsAfter setup tree failure
        ⟨request.place tree :: request.inProgress, middle, ⟨path, false⟩⟩ completed) :
      FailsAfter setup tree failure request
        ((request.perform setup tree front).events ++ completed)

theorem outputOf_enclosed (file : RealPath) (events : List Event) :
    outputOf (.entered file :: (events ++ [.left])) = outputOf events := by
  rw [← List.singleton_append, outputOf_append, outputOf_append]
  show "" ++ (outputOf events ++ "") = _
  rw [String.empty_append, String.append_empty]

theorem Request.FailsAfter.output_eq {request : Request} {failure : Failure}
    {completed : List Event} (h : request.FailsAfter setup tree failure completed) :
    (request.run setup tree).outcome = .error failure ∧
      outputOf (request.run setup tree).events = outputOf completed := by
  -- What a load that fails does is what its first commands did and what the last one did, which is
  -- nothing on the output, or what the inner load did.
  induction h with
  | refused recursive refusal =>
      rw [run_of_isRecursive setup recursive, refusal]
      exact ⟨rfl, rfl⟩
  | unreadable new unreadable =>
      rw [run_of_error new unreadable]
      exact ⟨rfl, rfl⟩
  | @command request front back command middle idle readable before noLoad fails =>
      rw [run_of_contents idle readable, perform, Trace.foldlM_of_error before fails]
      refine ⟨rfl, ?_⟩
      rw [outputOf_enclosed, outputOf_append,
        (isReticent_execute noLoad _ _ _ _).silent failure fails, String.append_empty]
      rfl
  | @load request front back path place middle completed idle readable before _ ih =>
      obtain ⟨houtcome, houtput⟩ := ih
      have hload : (execute setup (language.load setup tree
          (request.place tree :: request.inProgress)) request.entry.interactive middle
          (.load path place)).outcome = .error failure := houtcome
      rw [run_of_contents idle readable, perform, Trace.foldlM_of_error before hload]
      refine ⟨rfl, ?_⟩
      rw [outputOf_enclosed, outputOf_append, outputOf_append, ← houtput]
      rfl

/-- Every load that fails does so in such a way. -/
theorem exists_failsAfter {request : Request} {failure : Failure}
    (h : (request.run setup tree).outcome = .error failure) :
    ∃ completed, request.FailsAfter setup tree failure completed := by
  obtain ⟨events, inner, hreaches, hbreaks⟩ := run_eq_error_iff.mp h
  clear h
  have hinner : ∃ completed, inner.FailsAfter setup tree failure completed := by
    cases hbreaks with
    | refused recursive refusal => exact ⟨_, .refused recursive refusal⟩
    | unreadable new unreadable => exact ⟨_, .unreadable new unreadable⟩
    | command idle readable before noLoad fails =>
        exact ⟨_, .command idle readable before noLoad fails⟩
  clear hbreaks
  -- From the load that fails by itself outwards.
  induction hreaches with
  | refl => exact hinner
  | tail _ executes ih =>
      obtain ⟨completed, hcompleted⟩ := hinner
      obtain ⟨idle, readable, before⟩ := executes
      exact ih ⟨_, .load idle readable before hcompleted⟩

end Calculator

end LanguageShell

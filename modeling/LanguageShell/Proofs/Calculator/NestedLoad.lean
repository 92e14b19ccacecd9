import LanguageShell.Proofs.Calculator.Inlining
import LanguageShell.Proofs.Progress

/-!
Loads within loads. A load enters its file and executes the commands; when it comes to one that
loads another file, that is a load in turn, with one more file in progress. What the inner load does
is part of what the outer one does, and if it fails, so does the outer one. Only loads enter files,
and only loads fail for want of a file; the other commands write and compute.
-/

namespace LanguageShell

/-- Whether the failure is one of those that loading a file raises itself. -/
def Failure.IsFatal : Failure → Bool
  | .diagnostic problem => problem.kind = .fatal
  | .interrupted | .fault _ => false

/-- Whether a computation has nothing to do with files: it enters and leaves none, and it does not
fail for want of one. -/
structure Trace.IgnoresFiles {α : Type} (trace : Trace α) : Prop where
  written : ∀ event ∈ trace.events, event.IsWritten = true
  notFatal : ∀ failure, trace.outcome = .error failure → failure.IsFatal = false

namespace Trace.IgnoresFiles

variable {α β : Type}

theorem pure (a : α) : (Pure.pure a : Trace α).IgnoresFiles where
  written _ h := nomatch h
  notFatal _ h := nomatch h

theorem emit {event : Event} (h : event.IsWritten = true) : (Trace.emit event).IgnoresFiles where
  written other hother := by rwa [List.mem_singleton.mp hother]
  notFatal _ h := nomatch h

theorem ofExcept {result : Except Failure α}
    (h : ∀ failure, result = .error failure → failure.IsFatal = false) :
    (Trace.ofExcept result).IgnoresFiles where
  written _ h := nomatch h
  notFatal := h

theorem ofFaulty (result : Except Fault α) : (Trace.ofFaulty result).IgnoresFiles := by
  apply ofExcept
  intro failure h
  cases result with
  | ok a => cases h
  | error fault =>
      cases h
      rfl

theorem bind {trace : Trace α} {next : α → Trace β} (h : trace.IgnoresFiles)
    (hnext : ∀ a, (next a).IgnoresFiles) : (trace >>= next).IgnoresFiles := by
  cases houtcome : trace.outcome with
  | error failure =>
      rw [Trace.bind_of_error houtcome]
      refine ⟨h.written, fun other hother => h.notFatal other ?_⟩
      rw [houtcome, Except.error.inj hother]
  | ok a =>
      rw [Trace.bind_of_ok houtcome]
      refine ⟨fun event hevent => ?_, (hnext a).notFatal⟩
      obtain hevent | hevent := List.mem_append.mp hevent
      · exact h.written event hevent
      · exact (hnext a).written event hevent

theorem report (reporter : Reporter) (label : String) (severity : Int) (template : String)
    (arguments : List Datum) (place : Option Place) :
    (reporter.report label severity template arguments place).IgnoresFiles := by
  apply bind (ofFaulty _)
  intro text
  cases text with
  | none => exact pure ()
  | some text => exact emit rfl

end Trace.IgnoresFiles

namespace Calculator

/-! ### Commands that load nothing -/

theorem bind_eq_error {ε α β : Type} {result : Except ε α} {next : α → Except ε β} {error : ε} :
    result >>= next = .error error ↔
      result = .error error ∨ ∃ a, result = .ok a ∧ next a = .error error := by
  cases result <;> simp [bind, Except.bind]

namespace Term

variable {φ : Type}

end Term

/-- A load: the files that are in progress before it, the environment, and the file. -/
structure Request where
  inProgress : List RealPath
  env : Env
  entry : FileEntry

namespace Request

def place (tree : FileTree) (request : Request) : RealPath :=
  tree.realPath request.entry.path

def run (setup : Setup) (tree : FileTree) (request : Request) : Trace Env :=
  language.load setup tree request.inProgress request.env request.entry

def perform (setup : Setup) (tree : FileTree) (request : Request)
    (commands : List (Command Place)) : Trace Env :=
  commands.foldlM (execute setup
    (language.load setup tree (request.place tree :: request.inProgress))
    request.entry.interactive) request.env

/-- Whether the file is in progress. What is no path leads to no file. -/
def IsRecursive (tree : FileTree) (request : Request) : Prop :=
  request.entry.path.IsPath ∧ request.place tree ∈ request.inProgress

def refusal (request : Request) : Failure :=
  .fatal s!"recursive load of {request.entry.path}"

variable {setup : Setup} {tree : FileTree} {request : Request}

theorem run_of_isRecursive (setup : Setup) (h : request.IsRecursive tree) :
    request.run setup tree = .fail request.refusal := by
  have hparse : language.parseFile = some parseFile := rfl
  rw [run, Language.load]
  simp only [hparse, FileTree.unresolvable?_eq_none_iff.mpr h.1]
  exact dif_pos h.2

theorem run_of_error (h : ¬request.IsRecursive tree) {failure : Failure}
    (hcontents : contents tree request.entry.path = .error failure) :
    request.run setup tree = .fail failure := by
  by_cases hnew : request.place tree ∈ request.inProgress
  · -- The path cannot be resolved then, which is found first.
    have hparse : language.parseFile = some parseFile := rfl
    rw [run, Language.load]
    cases hpath : FileTree.unresolvable? request.entry.path with
    | some fault =>
        rw [contents_of_unresolvable hpath] at hcontents
        simp only [hparse, Except.error.inj hcontents]
    | none => exact absurd ⟨FileTree.unresolvable?_eq_none_iff.mp hpath, hnew⟩ h
  · rw [run, load_of_not_mem hnew, hcontents]

theorem run_of_contents (hidle : request.place tree ∉ request.inProgress)
    {commands : List (Command Place)}
    (hcontents : contents tree request.entry.path = .ok commands) :
    request.run setup tree =
      ⟨.entered (request.place tree) ::
          ((request.perform setup tree commands).events ++ [.left]),
        (request.perform setup tree commands).outcome⟩ := by
  rw [run, load_of_not_mem hidle, hcontents]
  rfl

theorem place_not_mem_of_contents (h : ¬request.IsRecursive tree)
    {commands : List (Command Place)}
    (hcontents : contents tree request.entry.path = .ok commands) :
    request.place tree ∉ request.inProgress :=
  fun hmem => h ⟨isPath_of_contents hcontents, hmem⟩

/-- What is so of a load whose file is in progress or has no commands, and of one whose commands are
executed if it is so of all loads while they are, is so of every load. The files that are not in
progress get fewer from load to load. -/
theorem induction (tree : FileTree) {motive : Request → Prop}
    (recursive : ∀ request : Request, request.IsRecursive tree → motive request)
    (unreadable : ∀ (request : Request) (failure : Failure), ¬request.IsRecursive tree →
      contents tree request.entry.path = .error failure → motive request)
    (readable : ∀ (request : Request) (commands : List (Command Place)),
      request.place tree ∉ request.inProgress →
      contents tree request.entry.path = .ok commands →
      (∀ env entry, motive ⟨request.place tree :: request.inProgress, env, entry⟩) →
      motive request)
    (request : Request) : motive request := by
  induction hlength : (tree.idleFiles request.inProgress).length using Nat.strongRecOn
    generalizing request with
  | ind length ih =>
      by_cases hrecursive : request.IsRecursive tree
      · exact recursive request hrecursive
      cases hcontents : contents tree request.entry.path with
      | error failure => exact unreadable request failure hrecursive hcontents
      | ok commands =>
          have hidle := place_not_mem_of_contents hrecursive hcontents
          have hless := FileTree.length_idleFiles_cons (mem_files_of_contents hcontents) hidle
          exact readable request commands hidle hcontents fun _ _ => ih _ (hlength ▸ hless) _ rfl

end Request

/-- The load that comes next within another one: the outer load has entered its file and executed
all commands before the one that loads, with these events. -/
inductive Executes (setup : Setup) (tree : FileTree) (outer : Request) :
    List Event → Request → Prop
  | load {front back : List (Command Place)} {path : CodeText} {place : Place} {after : Env}
      (idle : outer.place tree ∉ outer.inProgress)
      (readable : contents tree outer.entry.path = .ok (front ++ .load path place :: back))
      (before : (outer.perform setup tree front).outcome = .ok after) :
      Executes setup tree outer
        (.entered (outer.place tree) :: (outer.perform setup tree front).events)
        ⟨outer.place tree :: outer.inProgress, after, ⟨path, false⟩⟩

/-- The loads that take place while a load runs, itself included, with the events before each. -/
inductive Reaches (setup : Setup) (tree : FileTree) (outer : Request) :
    List Event → Request → Prop
  | refl : Reaches setup tree outer [] outer
  | tail {events more : List Event} {middle inner : Request}
      (reaches : Reaches setup tree outer events middle)
      (executes : Executes setup tree middle more inner) :
      Reaches setup tree outer (events ++ more) inner

variable {setup : Setup} {tree : FileTree}

theorem Reaches.head {outer middle inner : Request} {events more : List Event}
    (hexecutes : Executes setup tree outer events middle)
    (h : Reaches setup tree middle more inner) :
    Reaches setup tree outer (events ++ more) inner := by
  induction h with
  | refl =>
      rw [List.append_nil]
      exact .tail .refl hexecutes
  | tail _ executes ih =>
      rw [← List.append_assoc]
      exact .tail ih executes

/-! ### Inner loads as parts of outer ones -/

/-- Whether one computation is a part of another one, after some events: it takes place there, and
the other one fails if it does. -/
def IsPart {α β : Type} (events : List Event) (part : Trace α) (whole : Trace β) : Prop :=
  (∃ more, whole.events = events ++ part.events ++ more) ∧
    ∀ failure, part.outcome = .error failure → whole.outcome = .error failure

theorem IsPart.trans {α β γ : Type} {events more : List Event} {part : Trace α} {middle : Trace β}
    {whole : Trace γ} (h : IsPart events middle whole) (h' : IsPart more part middle) :
    IsPart (events ++ more) part whole := by
  obtain ⟨⟨after, hwhole⟩, hfails⟩ := h
  obtain ⟨⟨others, hmiddle⟩, hfails'⟩ := h'
  refine ⟨⟨others ++ after, ?_⟩, fun failure hpart => hfails failure (hfails' failure hpart)⟩
  rw [hwhole, hmiddle]
  simp only [List.append_assoc]

theorem isPart_foldlM {β γ : Type} {f : γ → β → Trace γ} {front : List β} {start middle : γ}
    (h : (front.foldlM f start).outcome = .ok middle) (b : β) (back : List β) :
    IsPart (front.foldlM f start).events (f middle b)
      ((front ++ b :: back).foldlM f start) := by
  rw [List.foldlM_append, Trace.bind_of_ok h, List.foldlM_cons]
  cases houtcome : (f middle b).outcome with
  | error failure =>
      -- The rest is not executed, and the failure is that of the part.
      rw [Trace.bind_of_error houtcome]
      exact ⟨⟨[], by simp⟩, fun other hother => houtcome.symm.trans hother⟩
  | ok next =>
      rw [Trace.bind_of_ok houtcome]
      refine ⟨⟨(back.foldlM f next).events, by simp⟩, fun failure hfailure => ?_⟩
      cases houtcome.symm.trans hfailure

theorem Executes.isPart {outer inner : Request} {events : List Event}
    (h : Executes setup tree outer events inner) :
    IsPart events (inner.run setup tree) (outer.run setup tree) := by
  obtain ⟨hidle, hreadable, hbefore⟩ := h
  rename_i front back path place after
  rw [Request.run_of_contents hidle hreadable]
  obtain ⟨⟨more, hevents⟩, hfails⟩ := isPart_foldlM hbefore (.load path place) back
  refine ⟨⟨more ++ [.left], ?_⟩, hfails⟩
  rw [Request.perform, hevents]
  simp only [List.cons_append, List.append_assoc]
  rfl

theorem Reaches.isPart {outer inner : Request} {events : List Event}
    (h : Reaches setup tree outer events inner) :
    IsPart events (inner.run setup tree) (outer.run setup tree) := by
  induction h with
  | refl => exact ⟨⟨[], by simp⟩, fun _ hfailure => hfailure⟩
  | tail _ executes ih => exact ih.trans executes.isPart

/-! ### The files in progress -/

/-- Whether the command is executed in the environment while a load runs, by the load itself or by
one that it leads to. -/
def Request.Performs (setup : Setup) (tree : FileTree) (request : Request) (env : Env)
    (command : Command Place) : Prop :=
  ∃ events inner front back, Reaches setup tree request events inner ∧
    inner.place tree ∉ inner.inProgress ∧
    contents tree inner.entry.path = .ok (front ++ command :: back) ∧
    (inner.perform setup tree front).outcome = .ok env

theorem Executes.performs {outer inner : Request} {events : List Event}
    (h : Executes setup tree outer events inner) {env : Env} {command : Command Place}
    (hinner : inner.Performs setup tree env command) : outer.Performs setup tree env command := by
  obtain ⟨more, last, front, back, hreaches, hrest⟩ := hinner
  exact ⟨events ++ more, last, front, back, hreaches.head h, hrest⟩

theorem invariant_foldlM {β γ : Type} {f : γ → β → Trace γ} {invariant : γ → Prop}
    {items : List β} {start last : γ} (hstart : invariant start)
    (hstep : ∀ front b back middle next, items = front ++ b :: back →
      (front.foldlM f start).outcome = .ok middle → invariant middle →
      (f middle b).outcome = .ok next → invariant next)
    (h : (items.foldlM f start).outcome = .ok last) : invariant last := by
  induction items using List.reverseRecOn generalizing last with
  | nil =>
      obtain rfl : start = last := Except.ok.inj h
      exact hstart
  | append_singleton front b ih =>
      rw [List.foldlM_append] at h
      obtain ⟨middle, hfront, hlast⟩ := Trace.outcome_bind_eq_ok.mp h
      have hb : (f middle b).outcome = .ok last := by simpa using hlast
      refine hstep front b [] middle last rfl hfront (ih ?_ hfront) hb
      -- A step among the first ones is one among all.
      rintro first a back before next rfl
      exact hstep first a (back ++ [b]) before next (by simp)

/-- What holds of the environment before a load and is preserved by the commands that are executed,
loads apart, holds of the environment after it. -/
theorem invariant_run {invariant : Env → Prop} {request : Request} (hstart : invariant request.env)
    (hcommand : ∀ use interactive env command next, request.Performs setup tree env command →
      command.IsLoad = false → invariant env →
      (execute setup use interactive env command).outcome = .ok next → invariant next)
    {next : Env} (h : (request.run setup tree).outcome = .ok next) : invariant next := by
  induction request using Request.induction tree generalizing next with
  | recursive request hrecursive =>
      rw [Request.run_of_isRecursive setup hrecursive] at h
      cases h
  | unreadable request failure hrecursive hcontents =>
      rw [Request.run_of_error hrecursive hcontents] at h
      cases h
  | readable request commands hidle hcontents ih =>
      rw [Request.run_of_contents hidle hcontents] at h
      refine invariant_foldlM hstart ?_ h
      rintro front command back middle next rfl hfront hmiddle hexecute
      obtain hload | ⟨path, place, rfl⟩ := command.isLoad_cases
      · exact hcommand _ _ middle command next
          ⟨[], request, front, back, .refl, hidle, hcontents, hfront⟩ hload hmiddle hexecute
      · have hexecutes := Executes.load hidle hcontents hfront
        exact ih middle ⟨path, false⟩ hmiddle
          (fun use interactive env command next hperforms =>
            hcommand use interactive env command next (hexecutes.performs hperforms))
          hexecute

end Calculator

end LanguageShell

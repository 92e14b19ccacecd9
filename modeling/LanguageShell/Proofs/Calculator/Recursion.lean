import LanguageShell.Proofs.Calculator.NestedLoad
import LanguageShell.Proofs.Calculator.Verdict

/-!
Recursive loads. A load is refused as recursive exactly while its file is in progress. Whether that
can happen is a matter of the load commands alone: the files in progress are those that lead to the
load, so a load that is refused closes a cycle of them; and a run that succeeds has executed all the
loads that it leads to, so it cannot lead to a cycle.
-/

namespace LanguageShell

namespace Calculator

open Relation

variable {setup : Setup} {tree : FileTree}

/-! ### How a load fails -/

theorem Entry.exists_diagnostic {entry : Entry} {source : Source} {failure : Failure}
    (h : entry.read source = .error failure) :
    ∃ diagnostic : Diagnostic, failure = .diagnostic diagnostic ∧ diagnostic.kind = .form := by
  obtain ⟨verdict, hjudges⟩ := Judges.exists_verdict entry source.text
  have hdescribes := hjudges.describes
  unfold Verdict.Describes at hdescribes
  rw [h] at hdescribes
  split at hdescribes
  · obtain ⟨commands, hcommands⟩ := hdescribes
    cases hcommands
  · obtain ⟨-, -, -, -, ordered, hfailure⟩ := hdescribes
    exact ⟨_, Except.error.inj hfailure, rfl⟩

theorem located_cases (source : Source) :
    (∃ command, Parser.located parseSingle source = .ok command) ∨
      ∃ diagnostic : Diagnostic, diagnostic.kind = .form ∧
        Parser.located parseSingle source = .error (.diagnostic diagnostic) := by
  cases hparse : Parser.located parseSingle source with
  | ok command => exact .inl ⟨command, rfl⟩
  | error failure =>
      have hread : Entry.single.read source = .error failure := by
        rw [Entry.read, hparse]
        rfl
      obtain ⟨diagnostic, rfl, hkind⟩ := Entry.exists_diagnostic hread
      exact .inr ⟨diagnostic, hkind, rfl⟩

theorem exists_of_foldlM_eq_error {β γ : Type} {f : γ → β → Trace γ} {items : List β}
    {start : γ} {failure : Failure} (h : (items.foldlM f start).outcome = .error failure) :
    ∃ front b back middle, items = front ++ b :: back ∧
      (front.foldlM f start).outcome = .ok middle ∧ (f middle b).outcome = .error failure := by
  induction items generalizing start with
  | nil => cases h
  | cons first items ih =>
      rw [List.foldlM_cons] at h
      cases hfirst : (f start first).outcome with
      | error other =>
          rw [Trace.bind_of_error hfirst] at h
          exact ⟨[], first, items, start, rfl, rfl, hfirst.trans h⟩
      | ok next =>
          rw [Trace.bind_of_ok hfirst] at h
          obtain ⟨front, b, back, middle, rfl, hfront, hb⟩ := ih h
          refine ⟨first :: front, b, back, middle, rfl, ?_, hb⟩
          rw [List.foldlM_cons, Trace.bind_of_ok hfirst]
          exact hfront

/-- How a load fails without an inner one that fails: its file is in progress or has no commands, or
one of them fails that is no load. -/
inductive Request.Breaks (setup : Setup) (tree : FileTree) (request : Request)
    (failure : Failure) : Prop where
  | refused (recursive : request.IsRecursive tree) (refusal : failure = request.refusal)
  | unreadable (new : ¬request.IsRecursive tree)
      (unreadable : contents tree request.entry.path = .error failure)
  | command {front back : List (Command Place)} {command : Command Place} {middle : Env}
      (idle : request.place tree ∉ request.inProgress)
      (readable : contents tree request.entry.path = .ok (front ++ command :: back))
      (before : (request.perform setup tree front).outcome = .ok middle)
      (noLoad : command.IsLoad = false)
      (fails : (execute setup (language.load setup tree (request.place tree :: request.inProgress))
        request.entry.interactive middle command).outcome = .error failure)

theorem Request.Breaks.outcome_eq {request : Request} {failure : Failure}
    (h : request.Breaks setup tree failure) :
    (request.run setup tree).outcome = .error failure := by
  cases h with
  | refused recursive refusal =>
      rw [run_of_isRecursive setup recursive, refusal]
      rfl
  | unreadable new unreadable =>
      rw [run_of_error new unreadable]
      rfl
  | command idle readable before _ fails =>
      rw [run_of_contents idle readable]
      exact (isPart_foldlM before _ _).2 failure fails

/-- A load fails as the one does among those it leads to that fails by itself. -/
theorem run_eq_error_iff {request : Request} {failure : Failure} :
    (request.run setup tree).outcome = .error failure ↔
      ∃ events inner, Reaches setup tree request events inner ∧
        inner.Breaks setup tree failure := by
  refine ⟨fun h => ?_, fun ⟨_, _, hreaches, hbreaks⟩ => hreaches.isPart.2 _ hbreaks.outcome_eq⟩
  induction request using Request.induction tree with
  | recursive request hrecursive =>
      rw [Request.run_of_isRecursive setup hrecursive] at h
      exact ⟨[], request, .refl, .refused hrecursive (Except.error.inj h).symm⟩
  | unreadable request other hrecursive hcontents =>
      rw [Request.run_of_error hrecursive hcontents] at h
      rw [Except.error.inj h] at hcontents
      exact ⟨[], request, .refl, .unreadable hrecursive hcontents⟩
  | readable request commands hidle hcontents ih =>
      rw [Request.run_of_contents hidle hcontents] at h
      obtain ⟨front, command, back, middle, rfl, hfront, hcommand⟩ := exists_of_foldlM_eq_error h
      obtain hload | ⟨path, place, rfl⟩ := command.isLoad_cases
      · exact ⟨[], request, .refl, .command hidle hcontents hfront hload hcommand⟩
      · obtain ⟨events, inner, hreaches, hbreaks⟩ := ih middle ⟨path, false⟩ hcommand
        exact ⟨_, inner, hreaches.head (.load hidle hcontents hfront), hbreaks⟩

theorem Executes.loads {outer inner : Request} {events : List Event}
    (h : Executes setup tree outer events inner) :
    Loads tree outer.entry.path inner.entry.path := by
  obtain ⟨-, hreadable, -⟩ := h
  exact ⟨_, _, hreadable, List.mem_append_right _ List.mem_cons_self⟩

end Calculator

end LanguageShell

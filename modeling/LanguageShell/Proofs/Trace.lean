import LanguageShell.Trace
import Mathlib

/-!
Laws of traces. A computation that goes on where another one ended has the events of both, unless
the first one failed. Only some events write anything; what is written does not depend on the
others, neither on prompts nor on the notes about files.
-/

namespace LanguageShell

def Event.IsWritten : Event → Bool
  | .prompted _ | .entered _ | .left => false
  | .printed _ | .reported .. | .interrupted => true

theorem outputOf_append (front back : List Event) :
    outputOf (front ++ back) = outputOf front ++ outputOf back := by
  simp [outputOf, String.join_append]

theorem errorsOf_append (front back : List Event) :
    errorsOf (front ++ back) = errorsOf front ++ errorsOf back := by
  simp [errorsOf, String.join_append]

theorem join_filter {keep : Event → Bool} {text : Event → String}
    (h : ∀ event, keep event = false → text event = "") (events : List Event) :
    String.join ((events.filter keep).map text) = String.join (events.map text) := by
  induction events with
  | nil => rfl
  | cons event events ih =>
      cases hkeep : keep event with
      | true =>
          rw [List.filter_cons_of_pos hkeep, List.map_cons, List.map_cons, String.join_cons,
            String.join_cons, ih]
      | false =>
          rw [List.filter_cons_of_neg (by simp [hkeep]), List.map_cons, String.join_cons,
            h event hkeep, String.empty_append, ih]

namespace Trace

variable {α β γ : Type}

theorem pure_eq (a : α) : (Pure.pure a : Trace α) = ⟨[], .ok a⟩ :=
  rfl

theorem bind_of_ok {trace : Trace α} {a : α} (h : trace.outcome = .ok a) (next : α → Trace β) :
    trace >>= next = ⟨trace.events ++ (next a).events, (next a).outcome⟩ := by
  change trace.bind next = _
  rw [bind, h]

theorem bind_of_error {trace : Trace α} {failure : Failure} (h : trace.outcome = .error failure)
    (next : α → Trace β) : trace >>= next = ⟨trace.events, .error failure⟩ := by
  change trace.bind next = _
  rw [bind, h]

theorem exists_events_bind (trace : Trace α) (next : α → Trace β) :
    ∃ others, (trace >>= next).events = trace.events ++ others := by
  cases h : trace.outcome with
  | error failure => exact ⟨[], by rw [bind_of_error h, List.append_nil]⟩
  | ok a => exact ⟨(next a).events, by rw [bind_of_ok h]⟩

theorem bind_bind {next : α → Trace β} {after : β → Trace γ} (trace : Trace α) :
    trace >>= next >>= after = trace >>= fun a => next a >>= after := by
  obtain ⟨events, failure | a⟩ := trace
  · rfl
  · rw [bind_of_ok rfl next, bind_of_ok rfl fun a => next a >>= after]
    cases h : (next a).outcome with
    | error failure => rw [bind_of_error h, bind_of_error rfl]
    | ok b => rw [bind_of_ok h, bind_of_ok rfl, List.append_assoc]

instance : LawfulMonad Trace :=
  LawfulMonad.mk' Trace
    (fun trace => by
      obtain ⟨events, failure | a⟩ := trace
      · rfl
      · exact congrArg (Trace.mk · _) (List.append_nil events))
    (fun _ _ => rfl)
    (fun trace _ _ => bind_bind trace)

theorem outcome_bind_eq_ok {trace : Trace α} {next : α → Trace β} {b : β} :
    (trace >>= next).outcome = .ok b ↔
      ∃ a, trace.outcome = .ok a ∧ (next a).outcome = .ok b := by
  cases h : trace.outcome with
  | error failure => simp [bind_of_error h]
  | ok a => simp [bind_of_ok h]

/-! ### What is left out -/

/-- The trace without the events that are not to be kept. -/
def keeping (keep : Event → Bool) (trace : Trace α) : Trace α :=
  { trace with events := trace.events.filter keep }

@[simp] theorem outcome_keeping (keep : Event → Bool) (trace : Trace α) :
    (trace.keeping keep).outcome = trace.outcome :=
  rfl

@[simp] theorem keeping_ofExcept (keep : Event → Bool) (result : Except Failure α) :
    (ofExcept result).keeping keep = ofExcept result :=
  rfl

theorem keeping_emit {keep : Event → Bool} {event : Event} (h : keep event = true) :
    (emit event).keeping keep = emit event := by
  simp [emit, keeping, h]

theorem keeping_bind (keep : Event → Bool) (trace : Trace α) (next : α → Trace β) :
    (trace >>= next).keeping keep = trace.keeping keep >>= fun a => (next a).keeping keep := by
  cases h : trace.outcome with
  | error failure =>
      rw [bind_of_error h, bind_of_error ((outcome_keeping keep trace).trans h)]
      rfl
  | ok a =>
      rw [bind_of_ok h, bind_of_ok ((outcome_keeping keep trace).trans h)]
      simp [keeping]

theorem keeping_andFinally {keep : Event → Bool} {event : Event} (h : keep event = true)
    (trace : Trace α) :
    (trace.andFinally event).keeping keep = (trace.keeping keep).andFinally event := by
  simp [andFinally, keeping, h]

theorem keeping_foldlM {keep : Event → Bool} {f g : β → α → Trace β}
    (h : ∀ b a, (f b a).keeping keep = g b a) (items : List α) (start : β) :
    (items.foldlM f start).keeping keep = items.foldlM g start := by
  induction items generalizing start with
  | nil => rfl
  | cons item items ih =>
      rw [List.foldlM_cons, List.foldlM_cons, keeping_bind, h]
      simp only [ih]

/-! ### What is written -/

def written (trace : Trace α) : Trace α :=
  { trace with events := trace.events.filter Event.IsWritten }

@[simp] theorem outcome_written (trace : Trace α) : trace.written.outcome = trace.outcome :=
  rfl

theorem written_bind (trace : Trace α) (next : α → Trace β) :
    (trace >>= next).written = trace.written >>= fun a => (next a).written :=
  keeping_bind Event.IsWritten trace next

@[simp] theorem written_pure (a : α) : (Pure.pure a : Trace α).written = Pure.pure a :=
  rfl

@[simp] theorem written_fail (failure : Failure) :
    (fail failure : Trace α).written = fail failure :=
  rfl

@[simp] theorem written_andFinally_left (trace : Trace α) :
    (trace.andFinally .left).written = trace.written := by
  simp [andFinally, written, Event.IsWritten]

theorem output_of_not_isWritten {event : Event} (h : event.IsWritten = false) :
    event.output = "" ∧ event.errors = "" := by
  cases event <;> first
    | exact ⟨rfl, rfl⟩
    | cases h

theorem outputOf_written (trace : Trace α) :
    outputOf trace.written.events = outputOf trace.events :=
  join_filter (fun _ h => (output_of_not_isWritten h).1) trace.events

theorem errorsOf_written (trace : Trace α) :
    errorsOf trace.written.events = errorsOf trace.events :=
  join_filter (fun _ h => (output_of_not_isWritten h).2) trace.events

/-- What is written alike ends alike, and both streams hold the same. -/
theorem agree_of_written {first second : Trace α} (h : first.written = second.written) :
    first.outcome = second.outcome ∧ outputOf first.events = outputOf second.events ∧
      errorsOf first.events = errorsOf second.events := by
  refine ⟨?_, ?_, ?_⟩
  · rw [← outcome_written first, h, outcome_written]
  · rw [← outputOf_written first, h, outputOf_written]
  · rw [← errorsOf_written first, h, errorsOf_written]

end Trace

end LanguageShell

import LanguageShell.Parsing
import LanguageShell.Proofs.Location

/-!
How the failures of parsers are told. What is nobody's mistake in the text is passed on as it is; of
everything else there is a diagnostic, with a span that lies in the text, wherever the parser
believes that it has stopped. Since diagnostics are passed on, a failure that is told is not told
again.
-/

namespace LanguageShell

/-- The parser that gives up with failures that are told already. -/
def Parser.ofTold {α : Type} (parse : Source → Except Failure α) : Parser α :=
  fun source => (parse source).mapError .raised

namespace ParserFailure

/-- Whether the failure says nothing about the text, or all there is to say: there is a diagnostic
already, the user interrupts, or the nesting is too deep. -/
def IsPassedOn : ParserFailure → Bool
  | raised (.diagnostic _) | raised .interrupted | raised (.fault .tooDeep) => true
  | _ => false

def token? : ParserFailure → Option (Int × Int)
  | unexpectedToken false (some start) (some stop) => some (start, stop)
  | _ => none

/-- Whether such a token is known with both its ends and does not end before it starts. -/
def HasOrderedToken : ParserFailure → Prop
  | unexpectedToken false start stop => ∃ first last, start = some first ∧ stop = some last ∧
      first ≤ last
  | _ => True

/-- The offset at which the parser has stopped, as far as it knows. -/
def offset? : ParserFailure → Option Int
  | unexpectedToken _ offset _ | unexpectedCharacter offset | stopped offset => offset
  | raised _ => none

def IsUnexpectedCharacter : ParserFailure → Bool
  | unexpectedCharacter _ => true
  | _ => false

def characterReach (size : Nat) : Option Int → Int × Int
  | some offset => if 0 ≤ offset then (offset, offset + 1) else (size, size)
  | none => (size, size)

/-- The offsets between which the failure lies in a text of the given size: those of the token, or
else those of a character. -/
def reach (size : Nat) (failure : ParserFailure) : Int × Int :=
  failure.token?.getD (characterReach size failure.offset?)

variable {failure : ParserFailure} {source : Source}

/-! ### The span of a failure -/

/-- Whether the span reaches in the source from the one offset to the other. -/
structure Covers (source : Source) (span : Span) (ends : Int × Int) : Prop where
  start_eq : span.start = source.location ends.1
  stop_eq : span.stop = source.location ends.2
  filename_eq : span.filename = source.filename

theorem covers_characterAt (source : Source) (offset : Option Int) :
    Covers source (characterAt source offset) (characterReach source.size offset) := by
  have hend : Covers source source.endOfInput (source.size, source.size) :=
    ⟨rfl, by simp [Source.endOfInput, Source.slice], rfl⟩
  cases offset with
  | none => exact hend
  | some offset =>
      rw [characterAt, characterReach]
      split
      · exact ⟨rfl, rfl, rfl⟩
      · exact hend

theorem exists_span (h : failure.HasOrderedToken) (source : Source) :
    ∃ span, failure.span source = .ok span ∧
      Covers source span (failure.reach source.size) := by
  cases failure with
  | raised => exact ⟨_, rfl, covers_characterAt source none⟩
  | unexpectedCharacter offset | stopped offset =>
      exact ⟨_, rfl, covers_characterAt source offset⟩
  | unexpectedToken isEnd start stop =>
      cases isEnd with
      | true => exact ⟨_, rfl, covers_characterAt source start⟩
      | false =>
          obtain ⟨first, last, rfl, rfl, hle⟩ := h
          have hordered : (source.location first).offset ≤ (source.location last).offset :=
            Int.ofNat_le.mpr (source.clamp_mono hle)
          let span : Span :=
            ⟨source.location first, source.location last, source.filename, hordered⟩
          have hspan : source.span first last = .ok span :=
            Source.span_eq_ok_iff.mpr ⟨rfl, rfl, rfl⟩
          exact ⟨span, hspan, rfl, rfl, rfl⟩

/-! ### Telling a failure -/

theorem wording_eq (failure : ParserFailure) : failure.wording =
    if failure.IsUnexpectedCharacter then "unrecognised symbol" else "general confusion" := by
  cases failure <;> rfl

theorem toFailure_of_isPassedOn {told : Failure} (h : (raised told).IsPassedOn = true)
    (source : Source) : (raised told).toFailure source = told := by
  cases told with
  | diagnostic | interrupted => rfl
  | fault fault =>
      cases fault with
      | tooDeep => rfl
      | _ => cases h

theorem toFailure_of_not_isPassedOn (h : failure.IsPassedOn = false) {span : Span}
    (hspan : failure.span source = .ok span) :
    failure.toFailure source = .diagnostic ⟨.form, failure.wording, .known span⟩ := by
  unfold toFailure
  split
  · cases h
  · cases h
  · cases h
  · rw [hspan]

theorem isPassedOn_toFailure (h : failure.HasOrderedToken) (source : Source) :
    (raised (failure.toFailure source)).IsPassedOn = true := by
  cases hpassed : failure.IsPassedOn with
  | false =>
      obtain ⟨span, hspan, -⟩ := exists_span h source
      rw [toFailure_of_not_isPassedOn hpassed hspan]
      rfl
  | true =>
      cases failure with
      | raised told => rwa [toFailure_of_isPassedOn hpassed]
      | unexpectedCharacter | unexpectedToken | stopped => cases hpassed

theorem located_ofTold {α : Type} (parse : Source → Except Failure α) (source : Source) :
    Parser.located (Parser.ofTold parse) source =
      (parse source).mapError fun told => (raised told).toFailure source := by
  unfold Parser.located Parser.ofTold
  cases parse source <;> rfl

end ParserFailure

open ParserFailure

/-- A parser that is located gives the same results as before, and passes on what is nobody's
mistake in the text. All other failures become diagnostics, whose spans lie in the text: they reach
from one end of an unexpected token to the other, or over the character at which the parser has
stopped, where offsets outside of the text count as its nearest end, or else they are the end of the
text. To locate the parser again changes nothing. -/
theorem parser_failures_are_told_in_range {α : Type} (parse : Parser α) (source : Source)
    (h : ∀ failure, parse source = .error failure → failure.HasOrderedToken) :
    (∀ result, Parser.located parse source = .ok result ↔ parse source = .ok result) ∧
    (∀ told, parse source = .error (.raised told) → (raised told).IsPassedOn = true →
      Parser.located parse source = .error told) ∧
    (∀ failure, parse source = .error failure → failure.IsPassedOn = false →
      ∃ span : Span, Parser.located parse source = .error (.diagnostic ⟨.form,
          if failure.IsUnexpectedCharacter then "unrecognised symbol" else "general confusion",
          .known span⟩) ∧
        Covers source span (failure.reach source.text.length) ∧
        span.start.offset =
          max 0 (min (failure.reach source.text.length).1 source.text.length) ∧
        span.stop.offset =
          max 0 (min (failure.reach source.text.length).2 source.text.length) ∧
        0 ≤ span.start.offset ∧ span.start.offset ≤ span.stop.offset ∧
        span.stop.offset ≤ source.text.length) ∧
    Parser.located (Parser.ofTold (Parser.located parse)) source = Parser.located parse source := by
  refine ⟨?_, ?_, ?_, ?_⟩
  · intro result
    unfold Parser.located
    cases parse source with
    | ok other =>
        show Except.ok other = Except.ok result ↔ _
        rw [Except.ok.injEq, Except.ok.injEq]
    | error failure => exact ⟨nofun, nofun⟩
  · intro told hparse hpassed
    rw [Parser.located, hparse]
    exact congrArg Except.error (toFailure_of_isPassedOn hpassed source)
  · intro failure hparse hpassed
    obtain ⟨span, hspan, hcovers⟩ := exists_span (h failure hparse) source
    have hordered := span.start_le_stop
    have hstart : span.start.offset = _ :=
      (congrArg Location.offset hcovers.start_eq).trans (source.clamp_eq _)
    have hstop : span.stop.offset = _ :=
      (congrArg Location.offset hcovers.stop_eq).trans (source.clamp_eq _)
    rw [source.size_eq] at hcovers hstart hstop
    refine ⟨span, ?_, hcovers, hstart, hstop, ?_, hordered, ?_⟩
    · rw [Parser.located, hparse, ← wording_eq, ← toFailure_of_not_isPassedOn hpassed hspan]
      rfl
    · omega
    · omega
  · rw [located_ofTold, Parser.located]
    cases hparse : parse source with
    | ok result => rfl
    | error failure =>
        exact congrArg Except.error
          (toFailure_of_isPassedOn (isPassedOn_toFailure (h failure hparse) source) source)

/-- A token that reaches beyond both ends of the text. -/
theorem failure_at_token_around_text :
    let source : Source := .ofString "ab\nc" "f"
    let failure : ParserFailure := .unexpectedToken false (some (-3)) (some 100)
    let parse : Parser Unit := fun _ => .error failure
    (∀ other, parse source = .error other → other.HasOrderedToken) ∧
      failure.IsPassedOn = false ∧
      (∃ span : Span, Parser.located parse source =
          .error (.diagnostic ⟨.form, "general confusion", .known span⟩) ∧
        span.start = ⟨0, 1, 0⟩ ∧ span.stop = ⟨4, 2, 3⟩ ∧ span.filename = "f") ∧
      Parser.located (Parser.ofTold (Parser.located parse)) source =
        Parser.located parse source := by
  intro source failure parse
  have hordered : ∀ other, parse source = .error other → other.HasOrderedToken := by
    intro other hother
    obtain rfl : failure = other := Except.error.inj hother
    exact ⟨-3, 100, rfl, rfl, by decide⟩
  obtain ⟨-, -, htold, hagain⟩ := parser_failures_are_told_in_range parse source hordered
  obtain ⟨span, hlocated, hcovers, -⟩ := htold failure rfl rfl
  refine ⟨hordered, rfl, ⟨span, hlocated, ?_, ?_, hcovers.filename_eq⟩, hagain⟩
  · exact hcovers.start_eq.trans (by decide)
  · exact hcovers.stop_eq.trans (by decide)

end LanguageShell

import LanguageShell.Proofs.Calculator.Start

/-!
The verdict on a text: it is accepted, or something is wrong with it at a certain place. A comment
that is left open comes before all else. Then the text is read up to the first token after which no
text can go on, or to the first place at which there is no token, or to its end; and only a text of
which all tokens fit is refused for what its literals mean. Each text has one verdict, which the
grammar alone decides, and the parser reports it at the place that goes with it.
-/

namespace LanguageShell.Calculator

/-- What is to be said of a text. -/
inductive Verdict where
  | accepted
  /-- A comment is left open. -/
  | openComment
  /-- The token that stands there cannot come next. -/
  | misplaced (extent : Extent)
  /-- No token begins at the offset. -/
  | unknown (offset : Nat)
  /-- The text ends too early; its last token begins at the offset. -/
  | incomplete (last : Nat)
  /-- A literal has no meaning. -/
  | meaningless
deriving DecidableEq, Repr

/-- Which verdict a text gets, by the grammar. -/
inductive Judges (entry : Entry) (text : List Char) : Verdict → Prop
  | accepted (analysis : Analysis entry text) (readable : analysis.IsReadable) :
      Judges entry text .accepted
  | openComment (isOpen : HasOpenComment text) : Judges entry text .openComment
  | misplaced (closed : ¬HasOpenComment text) (start : Start entry text) {word : Word}
      {after : List Char} (refuses : start.Refuses word after) :
      Judges entry text (.misplaced ⟨start.offset, start.offset + word.text.length⟩)
  | unknown (closed : ¬HasOpenComment text) (start : Start entry text)
      (sticks : Sticks start.rest) : Judges entry text (.unknown start.offset)
  | incomplete (closed : ¬HasOpenComment text) (start : Start entry text)
      (ends : start.rest = []) (unfinished : ∀ sentences, ¬Derives entry sentences start.leaves) :
      Judges entry text (.incomplete start.lastOffset)
  | meaningless (analysis : Analysis entry text) (unreadable : ¬analysis.IsReadable) :
      Judges entry text .meaningless

namespace Verdict

/-- What is said of a text of the given length, and the offsets between which the fault lies. -/
def complaint? (size : Nat) : Verdict → Option (String × Nat × Nat)
  | accepted => none
  | openComment => some ("unterminated comment", size, size)
  | misplaced extent => some ("general confusion", extent.start, extent.stop)
  | unknown offset => some ("unrecognised symbol", offset, offset + 1)
  | incomplete last => some ("general confusion", last, min (last + 1) size)
  | meaningless => some ("general confusion", size, size)

def failure? : Verdict → Option ParserFailure
  | accepted | openComment => none
  | misplaced extent => some (.unexpectedToken false (some extent.start) (some extent.stop))
  | unknown offset => some (.unexpectedCharacter (some offset))
  | incomplete last => some (.unexpectedToken true (some last) none)
  | meaningless => some (.stopped none)

theorem failure?_injective {first second : Verdict} (hfirst : first ≠ .openComment)
    (hsecond : second ≠ .openComment) (h : first.failure? = second.failure?) : first = second := by
  cases first <;> cases second <;> simp_all [failure?]
  rename_i extent other
  cases extent
  cases other
  simp_all

end Verdict

/-- Whether reading the lexemes of a text fails as the verdict says. -/
def ReadsAs (entry : Entry) (text : List Char) (verdict : Verdict) : Prop :=
  match verdict.failure? with
  | none => ∃ commands, readLexemes entry (Lexemes.ofText text) = .ok commands
  | some failure => readLexemes entry (Lexemes.ofText text) = .error failure

theorem ReadsAs.unique {entry : Entry} {text : List Char} {first second : Verdict}
    (h : ReadsAs entry text first) (h' : ReadsAs entry text second) (hfirst : first ≠ .openComment)
    (hsecond : second ≠ .openComment) : first = second := by
  refine Verdict.failure?_injective hfirst hsecond ?_
  unfold ReadsAs at h h'
  cases hread : readLexemes entry (Lexemes.ofText text) with
  | ok commands => cases first <;> cases second <;> simp_all [Verdict.failure?]
  | error failure => cases first <;> cases second <;> simp_all [Verdict.failure?]

namespace Start

variable {entry : Entry} {text : List Char}

theorem readsAs_misplaced (start : Start entry text) {word : Word} {after : List Char}
    (h : start.Refuses word after) :
    ReadsAs entry text (.misplaced ⟨start.offset, start.offset + word.text.length⟩) := by
  obtain ⟨hrest, hwins, token, htoken, hviable⟩ := h
  obtain ⟨draft, hdraft, hrun⟩ := start.exists_draft
  have hlexemes := start.ofText_eq
  have hleads : Leads [word] after := ⟨by simpa using hwins, trivial⟩
  have hword := hleads.ofTextAt start.offset
  simp only [textOf_cons, textOf_nil, List.append_nil, Word.lexemesFrom, htoken,
    List.singleton_append] at hword
  rw [hrest, hword] at hlexemes
  have hrefused := (Draft.step_forget_eq_none_iff hdraft token _).mpr hviable
  have hrunAll : Reading.run entry {} (Lexemes.ofText text).list =
      .error ⟨token, ⟨start.offset, start.offset + word.text.length⟩⟩ := by
    rw [hlexemes, Reading.run_append hrun, Reading.run, hrefused]
  simp only [ReadsAs, Verdict.failure?, readLexemes, hrunAll]

theorem readsAs_unknown (start : Start entry text) (h : Sticks start.rest) :
    ReadsAs entry text (.unknown start.offset) := by
  obtain ⟨draft, -, hrun⟩ := start.exists_draft
  have hlexemes := start.ofText_eq
  rw [h.ofTextAt, List.append_nil] at hlexemes
  simp only [ReadsAs, Verdict.failure?, readLexemes, hlexemes, hrun]

theorem readsAs_incomplete (start : Start entry text) (ends : start.rest = [])
    (unfinished : ∀ sentences, ¬Derives entry sentences start.leaves) :
    ReadsAs entry text (.incomplete start.lastOffset) := by
  obtain ⟨⟨done, stage⟩, hdraft, hrun⟩ := start.exists_draft
  have hlexemes := start.ofText_eq
  rw [ends, Lexemes.ofTextAt, List.append_nil] at hlexemes
  have hfinish : (⟨done, stage⟩ : Draft Extent).forget.finish? entry = none := by
    cases stage with
    | idle =>
        simp only [Draft.forget, Draft.Stage.forget, Reading.finish?, List.length_map]
        exact if_neg fun hadmits => unfinished _ (Draft.derives_of_run hdraft hadmits)
    | _ => rfl
  simp only [ReadsAs, Verdict.failure?, readLexemes, hlexemes, hrun, hfinish, lastOffset]

end Start

namespace Judges

variable {entry : Entry} {text : List Char}

/-- The verdict of the grammar is what the reader comes to. -/
theorem readsAs {verdict : Verdict} (h : Judges entry text verdict)
    (hverdict : verdict ≠ .openComment) : ReadsAs entry text verdict := by
  cases h with
  | accepted analysis readable =>
      exact ⟨_, readLexemes_eq_ok_iff.mpr ⟨analysis, readable, rfl⟩⟩
  | openComment => exact absurd rfl hverdict
  | misplaced _ start refuses => exact start.readsAs_misplaced refuses
  | unknown _ start sticks => exact start.readsAs_unknown sticks
  | incomplete _ start ends unfinished => exact start.readsAs_incomplete ends unfinished
  | meaningless analysis unreadable =>
      obtain ⟨hstuck, reading, hrun, hfinish⟩ := exists_analysis_iff.mpr ⟨analysis, rfl⟩
      have hall : (Lexemes.ofText text).list.all (·.token.isReadable) = false := by
        rw [← Bool.not_eq_true, analysis.lexemes_eq]
        exact fun h => unreadable (analysis.all_isReadable.mp h)
      simp [ReadsAs, Verdict.failure?, readLexemes, hrun, hstuck, hfinish, hall]

theorem eq_openComment_iff {verdict : Verdict} (h : Judges entry text verdict) :
    verdict = .openComment ↔ HasOpenComment text := by
  cases h with
  | openComment isOpen => exact iff_of_true rfl isOpen
  | accepted analysis | meaningless analysis =>
      exact iff_of_false nofun analysis.not_hasOpenComment
  | misplaced closed | unknown closed | incomplete closed => exact iff_of_false nofun closed

theorem unique {first second : Verdict} (h : Judges entry text first)
    (h' : Judges entry text second) : first = second := by
  by_cases hopen : HasOpenComment text
  · rw [h.eq_openComment_iff.mpr hopen, h'.eq_openComment_iff.mpr hopen]
  · have hfirst := mt h.eq_openComment_iff.mp hopen
    have hsecond := mt h'.eq_openComment_iff.mp hopen
    exact (h.readsAs hfirst).unique (h'.readsAs hsecond) hfirst hsecond

theorem exists_of_run_eq_error {words : List Word} {rest : List Char} {lexeme : Lexeme}
    (closed : ¬HasOpenComment text) (happend : textOf words ++ rest = text)
    (hleads : Leads words rest) (hrun : Reading.run entry {} (Word.lexemes words) = .error lexeme) :
    ∃ verdict, Judges entry text verdict := by
  obtain ⟨front, back, middle, hsplit, hfront, hrefused⟩ := Reading.exists_of_run_eq_error hrun
  obtain ⟨before, word, after, rfl, rfl, htoken, hextent⟩ := exists_word_of_lexemesFrom hsplit
  obtain ⟨hbefore, hwins, -⟩ := hleads.of_append
  have hwhole : textOf before ++ (word.text ++ (textOf after ++ rest)) = text := by
    simpa using happend
  have hleadsBefore : Leads before (word.text ++ (textOf after ++ rest)) := by
    simpa using hbefore
  obtain ⟨start, rfl, hrest⟩ := Start.exists_of_run hwhole hleadsBefore hfront
  have hrefuses : start.Refuses word (textOf after ++ rest) := by
    refine ⟨hrest, hwins, lexeme.token, htoken, ?_⟩
    obtain ⟨draft, hdraft, hrunDraft⟩ := start.exists_draft
    obtain rfl := Except.ok.inj (hrunDraft.symm.trans hfront)
    rw [Nat.zero_add] at hextent
    rw [← Draft.step_forget_eq_none_iff hdraft, Start.offset, ← hextent]
    exact hrefused
  exact ⟨_, .misplaced closed start hrefuses⟩

theorem exists_verdict (entry : Entry) (text : List Char) :
    ∃ verdict, Judges entry text verdict := by
  by_cases hopen : HasOpenComment text
  · exact ⟨_, .openComment hopen⟩
  obtain ⟨words, rest, happend, hleads, hrest⟩ := exists_leads text
  cases hrun : Reading.run entry {} (Word.lexemes words) with
  | error lexeme => exact exists_of_run_eq_error hopen happend hleads hrun
  | ok reading =>
      obtain ⟨start, rfl, rfl⟩ := Start.exists_of_run happend hleads hrun
      obtain hends | hsticks := hrest
      · by_cases hderives : ∃ sentences, Derives entry sentences start.leaves
        · obtain ⟨sentences, hsentences⟩ := hderives
          have hsplits : Splits text start.words :=
            splits_iff.mpr ⟨by simpa [hends] using happend, by simpa [hends] using hleads⟩
          let analysis : Analysis entry text :=
            ⟨start.words, start.leaves, sentences, hsplits, start.interprets, hsentences⟩
          by_cases hreadable : analysis.IsReadable
          · exact ⟨_, .accepted analysis hreadable⟩
          · exact ⟨_, .meaningless analysis hreadable⟩
        · exact ⟨_, .incomplete hopen start hends (not_exists.mp hderives)⟩
      · exact ⟨_, .unknown hopen start hsticks⟩

theorem complaint_bounds {verdict : Verdict} (h : Judges entry text verdict) {message : String}
    {first last : Nat} (hcomplaint : verdict.complaint? text.length = some (message, first, last)) :
    first ≤ last ∧ last ≤ text.length := by
  cases h with
  | accepted => cases hcomplaint
  | openComment | meaningless =>
      cases hcomplaint
      exact ⟨le_rfl, le_rfl⟩
  | misplaced _ start refuses =>
      cases hcomplaint
      have hsize := start.offset_add_length
      -- The token is a part of the text that remains.
      rw [refuses.1, List.length_append] at hsize
      refine ⟨Nat.le_add_right _ _, ?_⟩
      dsimp only
      omega
  | unknown _ start sticks =>
      cases hcomplaint
      have hsize := start.offset_add_length
      have hrest := List.length_pos_of_ne_nil sticks.1
      exact ⟨Nat.le_succ _, by omega⟩
  | incomplete _ start =>
      cases hcomplaint
      have hsize := start.offset_add_length
      have hlast := start.lastOffset_le
      exact ⟨by omega, Nat.min_le_right _ _⟩

end Judges

/-! ### Diagnostics -/

def Entry.read (entry : Entry) (source : Source) : Except Failure (List (Command Place)) :=
  match entry with
  | .file => Parser.located parseFile source
  | .single => (Parser.located parseSingle source).map ([·])

theorem Entry.read_eq (entry : Entry) (source : Source) :
    entry.read source = Parser.located (parse entry) source := by
  cases entry with
  | file => rfl
  | single =>
      simp only [read, Parser.located, parseSingle]
      cases hparse : parse .single source with
      | error failure => rfl
      | ok commands =>
          obtain ⟨analysis, -, rfl⟩ := parse_eq_ok_iff.mp hparse
          obtain ⟨hadmits, -⟩ := analysis.derives
          have hlength : analysis.commands.length = 1 := by
            simpa [Analysis.commands, Entry.Admits] using hadmits
          obtain ⟨command, hcommand⟩ := List.length_eq_one_iff.mp hlength
          rw [hcommand]
          rfl

namespace Verdict

/-- The diagnostic for what a verdict complains of: it reaches from the first offset to the last. -/
theorem toFailure_eq {verdict : Verdict} {source : Source} {failure : ParserFailure}
    {message : String} {first last : Nat} (hfailure : verdict.failure? = some failure)
    (hcomplaint : verdict.complaint? source.size = some (message, first, last))
    (hordered : (source.location first).offset ≤ (source.location last).offset) :
    failure.toFailure source = .diagnostic ⟨.form, message, .known
      ⟨source.location first, source.location last, source.filename, hordered⟩⟩ := by
  cases verdict with
  | accepted | openComment => cases hfailure
  | misplaced extent =>
      cases hfailure
      cases hcomplaint
      simp only [ParserFailure.toFailure, ParserFailure.span, Source.nodeSpan, Source.span,
        Span.between, Option.getD_some, dif_pos hordered, ParserFailure.wording]
  | unknown offset =>
      cases hfailure
      cases hcomplaint
      rfl
  | incomplete offset =>
      cases hfailure
      cases hcomplaint
      have hlast : source.location ((first : Int) + (1 : Nat)) =
          source.location (min (first + 1) source.size : Nat) := by
        simp only [Source.location, Source.clamp, ← Nat.cast_add, Int.toNat_natCast, min_assoc,
          min_self]
      simp only [← hlast]
      rfl
  | meaningless =>
      cases hfailure
      cases hcomplaint
      rfl

end Verdict

theorem Judges.read_eq {entry : Entry} {source : Source} {verdict : Verdict}
    (h : Judges entry source.text verdict) {message : String} {first last : Nat}
    (hcomplaint : verdict.complaint? source.size = some (message, first, last))
    (hordered : (source.location first).offset ≤ (source.location last).offset) :
    entry.read source = .error (.diagnostic ⟨.form, message, .known
      ⟨source.location first, source.location last, source.filename, hordered⟩⟩) := by
  rw [Entry.read_eq, Parser.located]
  by_cases hopen : HasOpenComment source.text
  · obtain rfl := h.eq_openComment_iff.mpr hopen
    cases hcomplaint
    rw [parse, if_pos hopen]
    rfl
  · have hreads := h.readsAs (mt h.eq_openComment_iff.mp hopen)
    unfold ReadsAs at hreads
    split at hreads
    · rename_i hfailure
      cases h with
      | accepted => cases hcomplaint
      | openComment isOpen => exact absurd isOpen hopen
      | _ => cases hfailure
    · rename_i failure hfailure
      rw [parse, if_neg hopen, hreads, ← Verdict.toFailure_eq hfailure hcomplaint hordered]
      rfl

/-- Whether a result is what the verdict leads to. A text that is accepted gives commands; for any
other one there is a diagnostic, which reaches from one offset to another within the text. -/
def Verdict.Describes (verdict : Verdict) (source : Source)
    (result : Except Failure (List (Command Place))) : Prop :=
  match verdict.complaint? source.size with
  | none => ∃ commands, result = .ok commands
  | some (message, first, last) =>
      first ≤ last ∧ last ≤ source.size ∧
      (source.location first).offset = first ∧ (source.location last).offset = last ∧
      ∃ ordered, result = .error (.diagnostic ⟨.form, message, .known
        ⟨source.location first, source.location last, source.filename, ordered⟩⟩)

theorem offset_location_of_le {source : Source} {offset : Nat}
    (h : offset ≤ source.size) : (source.location offset).offset = offset := by
  simp [Source.clamp, Nat.min_eq_left h]

theorem Judges.describes {entry : Entry} {source : Source} {verdict : Verdict}
    (h : Judges entry source.text verdict) : verdict.Describes source (entry.read source) := by
  unfold Verdict.Describes
  split
  · rename_i hcomplaint
    cases h with
    | accepted analysis readable =>
        rw [Entry.read_eq, Parser.located, parse_eq_ok_iff.mpr ⟨analysis, readable, rfl⟩]
        exact ⟨_, rfl⟩
    | _ => cases hcomplaint
  · rename_i message first last hcomplaint
    obtain ⟨hle, hsize⟩ := h.complaint_bounds (source.size_eq ▸ hcomplaint)
    rw [← source.size_eq] at hsize
    have hfirst := offset_location_of_le (hle.trans hsize)
    have hlast := offset_location_of_le hsize
    have hordered : (source.location first).offset ≤ (source.location last).offset := by
      rw [hfirst, hlast]
      exact_mod_cast hle
    exact ⟨hle, hsize, hfirst, hlast, hordered, h.read_eq hcomplaint hordered⟩

/-- Each text has one verdict, from both start symbols, and the parser comes to it: it accepts the
text, or else its diagnostic says what is wrong, at offsets within the text, and never is there
another failure. -/
theorem syntax_failure_follows_verdict (entry : Entry) (source : Source) :
    ∃ verdict, Judges entry source.text verdict ∧
      (∀ other, Judges entry source.text other → other = verdict) ∧
      verdict.Describes source (entry.read source) := by
  obtain ⟨verdict, hjudges⟩ := Judges.exists_verdict entry source.text
  exact ⟨verdict, hjudges, fun _ hother => hother.unique hjudges, hjudges.describes⟩

end LanguageShell.Calculator

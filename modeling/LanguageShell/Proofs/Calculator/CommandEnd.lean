import LanguageShell.Proofs.Calculator.FileAndShell
import LanguageShell.Proofs.Calculator.Joined

/-!
Where a command ends for the shell. A text of one command that is cut before one of its newlines is
cut between tokens, in a comment or in a string. Between tokens the beginning ends a command just if
it holds the semicolon, and then it is parsed as the command that the whole text is; in a comment it
never does. In a string, which may go on over a newline after a backslash and a carriage return, the
string alone decides. Where no string does so, the shell reads the lines up to the first newline
after the semicolon that is outside of comments.
-/

namespace LanguageShell.Calculator

open Shell Pattern

/-! ### Beginnings of a text -/

/-- Whether the text is cut before one of its newlines, or is left as it is. -/
def IsBeginning (front text : List Char) : Prop :=
  front = text ∨ front ++ ['\n'] <+: text

instance (front text : List Char) : Decidable (IsBeginning front text) :=
  inferInstanceAs (Decidable (_ ∨ _))

theorem isBeginning_iff {front text : List Char} :
    IsBeginning front text ↔ ∃ rest, text ++ ['\n'] = front ++ '\n' :: rest := by
  constructor
  · rintro (rfl | ⟨rest, rfl⟩)
    · exact ⟨[], rfl⟩
    · exact ⟨rest ++ ['\n'], by simp⟩
  · rintro ⟨rest, htext⟩
    obtain rfl | ⟨others, last, rfl⟩ := List.eq_nil_or_concat rest
    · exact .inl (List.append_cancel_right htext).symm
    · have hparts : text ++ ['\n'] = (front ++ '\n' :: others) ++ [last] := by simp [htext]
      refine .inr ⟨others, ?_⟩
      rw [(List.append_inj' hparts rfl).1, List.append_assoc, List.singleton_append]

/-- Whether a text that consists of the words is cut before a newline within one of them, which is
of the pattern, so that a part of this word is left. -/
def CutIn (words : List Word) (front : List Char) (pattern : Pattern) (part : List Char) : Prop :=
  ∃ before after rest, words = before ++ ⟨pattern, part ++ '\n' :: rest⟩ :: after ∧
    front = textOf before ++ part

/-- Whether the beginning of a text that consists of the words holds a semicolon of it. -/
def HoldsSemicolon (words : List Word) (front : List Char) : Prop :=
  ∃ before semicolon after, words = before ++ semicolon :: after ∧
    semicolon.token? = some .semicolon ∧ textOf (before ++ [semicolon]) <+: front

/-- Whether the beginning of a text holds a semicolon of it and is not cut within a comment. -/
structure IsComplete (words : List Word) (front : List Char) : Prop where
  semicolon : HoldsSemicolon words front
  closed : ∀ part, ¬CutIn words front .blockComment part

theorem exists_cutIn {text front rest : List Char} {words : List Word} (h : Splits text words)
    (htext : text = front ++ '\n' :: rest) :
    ∃ pattern part, CutIn words front pattern part := by
  have hwords : textOf words ++ [] = front ++ '\n' :: rest := by
    rw [List.append_nil, h.textOf_eq, htext]
  obtain ⟨before, ⟨pattern, _⟩, after, part, last, rfl, rfl, rfl⟩ :=
    exists_word_of_textOf hwords List.not_mem_nil
  exact ⟨pattern, part, before, after, last, rfl, rfl⟩

theorem token?_ne_semicolon {word : Word} (h : word.pattern.regex.Matches word.text)
    (hnewline : '\n' ∈ word.text) : word.token? ≠ some .semicolon := by
  obtain hpattern | hpattern | hpattern := eq_of_newline_mem h hnewline <;>
    simp [Word.token?, Word.piece, hpattern, piece]

theorem holdsSemicolon_iff {before after : List Word} {word : Word} {part rest : List Char}
    (h : word.pattern.regex.Matches word.text) (hword : word.text = part ++ '\n' :: rest) :
    HoldsSemicolon (before ++ word :: after) (textOf before ++ part) ↔
      .semicolon ∈ before.filterMap Word.token? := by
  have hne := token?_ne_semicolon h (by simp [hword])
  constructor
  · rintro ⟨front, semicolon, back, hwords, hsemicolon, hprefix⟩
    obtain ⟨middle, rfl, hrest⟩ | ⟨middle, rfl, hrest⟩ := List.append_eq_append_iff.mp hwords
    · exfalso
      cases middle with
      | nil =>
          obtain rfl := (List.cons.inj hrest).1
          exact hne hsemicolon
      | cons other middle =>
          -- The semicolon would come after the word, which does not end before the cut.
          obtain rfl := (List.cons.inj hrest).1
          have hlength := hprefix.length_le
          simp only [textOf_append, textOf_cons, hword, List.length_append, List.length_cons]
            at hlength
          omega
    · cases middle with
      | nil =>
          obtain rfl := (List.cons.inj hrest).1
          exact absurd hsemicolon hne
      | cons other middle =>
          obtain rfl := (List.cons.inj hrest).1
          simp [hsemicolon]
  · intro hmem
    obtain ⟨semicolon, hword, hsemicolon⟩ := List.mem_filterMap.mp hmem
    obtain ⟨front, back, rfl⟩ := List.append_of_mem hword
    exact ⟨front, semicolon, back ++ word :: after, by simp, hsemicolon, by simp⟩

/-- Strings that stay open are cut where no command ends. -/
theorem StringsStayOpen.endsCommand_eq_false {words : List Word} (h : StringsStayOpen words)
    {front part : List Char} (hcut : CutIn words front .quoted part) :
    endsCommand part = false := by
  obtain ⟨before, after, rest, rfl, -⟩ := hcut
  exact readsMore_eq_true.mp (h ⟨.quoted, part ++ '\n' :: rest⟩ (by simp) rfl part rest rfl)

/-! ### Texts of one command -/

theorem filterMap_eq_of_semicolon_mem {before after : List Word} {sentence : Sentence α}
    (h : (before ++ after).filterMap Word.token? = tokensOf sentence.yield)
    (hmem : .semicolon ∈ before.filterMap Word.token?) :
    before.filterMap Word.token? = tokensOf sentence.yield ∧
      after.filterMap Word.token? = [] := by
  have hyield : tokensOf sentence.yield = tokensOf sentence.body ++ [.semicolon] := by
    simp [Sentence.yield, Terminal.spelled]
  rw [List.filterMap_append] at h
  have hprefix : before.filterMap Word.token? <+: tokensOf sentence.body ++ [.semicolon] :=
    ⟨_, h.trans hyield⟩
  obtain hall | hbody := List.prefix_concat_iff.mp hprefix
  · rw [← hyield] at hall
    rw [hall] at h
    exact ⟨hall, List.append_right_eq_self.mp h⟩
  · exact absurd (hbody.subset hmem) (semicolon_not_mem_body sentence)

section OneCommand

variable {text : List Char} {words : List Word} {sentence : Sentence α}
  (hsplits : Splits text words) (htokens : words.filterMap Word.token? = tokensOf sentence.yield)
include hsplits htokens

/-- Whether a beginning of the text ends a command depends on the word within which it is cut. -/
theorem endsCommand_of_cutIn {front part : List Char} {pattern : Pattern}
    (h : CutIn words front pattern part) :
    (pattern = .blank ∧ (endsCommand front = true ↔ HoldsSemicolon words front)) ∨
    (pattern = .blockComment ∧ endsCommand front = false) ∨
    (pattern = .quoted ∧ endsCommand front = endsCommand part ∧
      ¬HoldsSemicolon words front) := by
  obtain ⟨before, after, rest, rfl, rfl⟩ := h
  have hmatch := hsplits.matches_of_mem ⟨pattern, part ++ '\n' :: rest⟩ (by simp)
  obtain ⟨hbefore, hwins, -⟩ := hsplits.leads.of_append
  rw [textOf_cons, List.append_assoc] at hbefore
  have hchain : (before.filterMap Word.token?).IsChain Token.MayPrecede := by
    have hall := sentence.apart.chain
    rw [← htokens, List.filterMap_append] at hall
    exact (List.isChain_append.mp hall).1
  rw [holdsSemicolon_iff hmatch rfl]
  rcases endsCommand_within hbefore hwins hchain rfl with
    ⟨hblank, hiff⟩ | ⟨hcomment, hopen⟩ | ⟨rfl, hstring⟩
  · refine .inl ⟨hblank, hiff.trans ⟨List.mem_of_getLast?, fun hmem => ?_⟩⟩
    rw [(filterMap_eq_of_semicolon_mem htokens hmem).1]
    simp [Sentence.yield, Terminal.spelled]
  · exact .inr (.inl ⟨hcomment, hopen⟩)
  · refine .inr (.inr ⟨rfl, hstring, fun hmem => ?_⟩)
    -- The string would be a token after the semicolon.
    have hafter := (filterMap_eq_of_semicolon_mem htokens hmem).2
    simp [Word.token?, Word.piece, piece] at hafter

theorem not_cutIn_comment {front : List Char} (h : endsCommand front = true) (part : List Char) :
    ¬CutIn words front .blockComment part := by
  intro hcut
  rcases endsCommand_of_cutIn hsplits htokens hcut with ⟨hne, -⟩ | ⟨-, hopen⟩ | ⟨hne, -⟩
  · cases hne
  · rw [hopen] at h
    cases h
  · cases hne

theorem IsComplete.exists_cutIn {front rest : List Char} (h : IsComplete words front)
    (htext : text = front ++ '\n' :: rest) :
    ∃ part, CutIn words front .blank part ∧ endsCommand front = true := by
  obtain ⟨pattern, part, hcut⟩ := Calculator.exists_cutIn hsplits htext
  rcases endsCommand_of_cutIn hsplits htokens hcut with ⟨rfl, hiff⟩ | ⟨rfl, -⟩ | ⟨-, -, hnot⟩
  · exact ⟨part, hcut, hiff.mpr h.semicolon⟩
  · exact absurd hcut (h.closed part)
  · exact absurd h.semicolon hnot

/-- Where a beginning of the text ends a command. -/
theorem endsCommand_iff_isComplete {front rest : List Char}
    (htext : text = front ++ '\n' :: rest) :
    endsCommand front = true ↔ IsComplete words front ∨
      ∃ part, CutIn words front .quoted part ∧ endsCommand part = true := by
  constructor
  · intro hends
    have hclosed := not_cutIn_comment hsplits htokens hends
    obtain ⟨pattern, part, hcut⟩ := exists_cutIn hsplits htext
    rcases endsCommand_of_cutIn hsplits htokens hcut with ⟨-, hiff⟩ | ⟨rfl, -⟩ | ⟨rfl, hsame, -⟩
    · exact .inl ⟨hiff.mp hends, hclosed⟩
    · exact absurd hcut (hclosed part)
    · exact .inr ⟨part, hcut, hsame ▸ hends⟩
  · rintro (hcomplete | ⟨part, hcut, hpart⟩)
    · obtain ⟨-, -, hends⟩ := hcomplete.exists_cutIn hsplits htokens htext
      exact hends
    · rcases endsCommand_of_cutIn hsplits htokens hcut with ⟨hne, -⟩ | ⟨hne, -⟩ | ⟨-, hsame, -⟩
      · cases hne
      · cases hne
      · exact hsame.trans hpart

theorem isComplete_of_newline {front : List Char} (htext : text = front ++ ['\n']) :
    IsComplete words front := by
  obtain rfl | ⟨others, last, rfl⟩ := List.eq_nil_or_concat words
  · have hnil : [] = front ++ ['\n'] := hsplits.textOf_eq.trans htext
    simp at hnil
  rw [List.concat_eq_append] at hsplits htokens ⊢
  have hmatch := hsplits.matches_of_mem last (by simp)
  obtain ⟨part, hpart, rfl⟩ :
      ∃ part, last.text = part ++ ['\n'] ∧ front = textOf others ++ part := by
    have hparts : textOf others ++ last.text = front ++ ['\n'] := by
      simpa [textOf_append] using hsplits.textOf_eq.trans htext
    obtain hnil | ⟨part, c, hlast⟩ := List.eq_nil_or_concat last.text
    · exact absurd (hnil ▸ hmatch) last.pattern.not_matches_nil
    · rw [hlast, List.concat_eq_append, ← List.append_assoc] at hparts
      obtain ⟨rfl, hc⟩ := List.append_inj' hparts rfl
      exact ⟨part, by rw [hlast, List.concat_eq_append, hc], rfl⟩
  obtain ⟨pattern, _⟩ := last
  obtain rfl := hpart
  obtain rfl := eq_blank_of_newline hmatch
  have hcut : CutIn (others ++ [⟨.blank, part ++ ['\n']⟩]) (textOf others ++ part) .blank part :=
    ⟨others, [], [], rfl, rfl⟩
  have hholds : HoldsSemicolon (others ++ [⟨.blank, part ++ ['\n']⟩]) (textOf others ++ part) := by
    rw [holdsSemicolon_iff hmatch rfl]
    have hnone : Word.token? ⟨.blank, part ++ ['\n']⟩ = none := rfl
    have hall : others.filterMap Word.token? = tokensOf sentence.yield := by
      simpa [hnone] using htokens
    rw [hall]
    simp [Sentence.yield, Terminal.spelled]
  rcases endsCommand_of_cutIn hsplits htokens hcut with ⟨-, hiff⟩ | ⟨hne, -⟩ | ⟨hne, -⟩
  · exact ⟨hholds, not_cutIn_comment hsplits htokens (hiff.mpr hholds)⟩
  · cases hne
  · cases hne

end OneCommand

/-! ### Parsing a beginning -/

theorem Analysis.exists_same {entry : Entry} {text other : List Char} {words : List Word}
    (analysis : Analysis entry text) (hsplits : Splits other words)
    (h : Word.lexemes words = Word.lexemes analysis.words) :
    ∃ same : Analysis entry other, same.sentences = analysis.sentences ∧
      (analysis.IsReadable → same.IsReadable) := by
  let same : Analysis entry other :=
    ⟨words, analysis.leaves, analysis.sentences, hsplits, h ▸ analysis.interprets,
      analysis.derives⟩
  refine ⟨same, rfl, fun hreadable => same.all_isReadable.mp ?_⟩
  change (Word.lexemes words).all _ = true
  rw [h]
  exact analysis.all_isReadable.mpr hreadable

theorem Word.lexemes_append_of_none {front back : List Word}
    (h : back.filterMap Word.token? = []) : Word.lexemes (front ++ back) = Word.lexemes front := by
  rw [Word.lexemes, Word.lexemesFrom_append, Word.lexemesFrom_eq_nil h, List.append_nil]
  rfl

/-- A text that is cut among blanks splits into the words before the cut, whether a newline comes
after them or not. -/
theorem Splits.of_cut {text part rest : List Char} {before after : List Word}
    (h : Splits text (before ++ ⟨.blank, part ++ '\n' :: rest⟩ :: after)) :
    Splits (textOf before ++ part) (before ++ blanksOf part) ∧
      Splits (textOf before ++ part ++ ['\n']) (before ++ [⟨.blank, part ++ ['\n']⟩]) := by
  have hmatch := h.matches_of_mem ⟨.blank, part ++ '\n' :: rest⟩ (by simp)
  have hblanks : ∀ c ∈ part, isIgnorable c = true := fun c hc =>
    (Regex.matches_several_char.mp hmatch).2 c (by simp [hc])
  have hleads := h.of_append.1
  rw [textOf_cons] at hleads
  constructor
  · have hpart : Splits part (blanksOf part) := by
      simpa using Splits.blanks .nil hblanks (by simp)
    have hshort : Leads before part := hleads.truncate (by simp)
    exact hshort.splits hpart
  · have hshort : Leads before (part ++ ['\n']) := hleads.truncate (by simp)
    rw [List.append_assoc]
    exact hshort.splits (splits_line_end hblanks)

/-- The beginning of a text, cut among blanks after all tokens, is parsed as the whole text is. -/
theorem parseSingle_of_cut {source short : Source} {command : Command Place}
    {before after : List Word} {part rest : List Char} (hparse : parseSingle source = .ok command)
    (hsplits : Splits source.text (before ++ ⟨.blank, part ++ '\n' :: rest⟩ :: after))
    (hafter : after.filterMap Word.token? = [])
    (hshort : short.text = textOf before ++ part ++ ['\n'])
    (hname : short.filename = source.filename) : parseSingle short = .ok command := by
  obtain ⟨analysis, hreadable, hcommand⟩ := parseSingle_eq_ok_iff.mp hparse
  have hwords := analysis.splits.unique hsplits
  have hlexemes : Word.lexemes analysis.words = Word.lexemes before := by
    rw [hwords]
    refine Word.lexemes_append_of_none ?_
    rw [List.filterMap_cons_none rfl, hafter]
  obtain ⟨hfront, hnewline⟩ := hsplits.of_cut
  obtain ⟨front, hsentences, -⟩ := analysis.exists_same hfront
    ((Word.lexemes_append_of_none (filterMap_blanksOf part)).trans hlexemes.symm)
  rw [← hshort] at hnewline
  obtain ⟨same, hsame, hreadable'⟩ := analysis.exists_same hnewline
    ((Word.lexemes_append_of_none rfl).trans hlexemes.symm)
  -- Both texts begin with the line before the cut, in which all tokens stand.
  let line : Source := { text := textOf before ++ part, filename := source.filename }
  have hwhole :
      source.Joins line { text := rest ++ textOf after, filename := source.filename } := by
    refine ⟨?_, rfl, rfl⟩
    rw [← hsplits.textOf_eq, textOf_append, textOf_cons]
    simp [line]
  have hjoins : short.Joins line { text := [], filename := source.filename } :=
    ⟨hshort, hname, hname⟩
  refine parseSingle_eq_ok_iff.mpr ⟨same, hreadable' hreadable, ?_⟩
  rw [← hcommand, Analysis.commands, Analysis.commands, hsame]
  refine List.map_congr_left fun sentence hsentence => ?_
  refine Sentence.command_map_congr
    (P := fun extent => extent.start ≤ line.size ∧ extent.stop ≤ line.size)
    (fun _ _ hfirst hlast => ⟨hfirst.1, hlast.2⟩) (fun extent hextent => ?_) fun leaf hleaf => ?_
  · exact (hjoins.place_first hextent.1 hextent.2).trans
      (hwhole.place_first hextent.1 hextent.2).symm
  · refine front.bounds_of_mem ?_
    rw [← front.derives.2, hsentences]
    exact List.mem_flatMap.mpr ⟨sentence, hsentence, hleaf⟩

theorem stop_eq_of_semicolon {before after : List Word} {semicolon : Word}
    {sentence : Sentence Extent}
    (h : Word.lexemes (before ++ semicolon :: after) = lexemesOf sentence.yield)
    (hsemicolon : semicolon.token? = some .semicolon) :
    sentence.command.note.stop = (textOf (before ++ [semicolon])).length := by
  have htokens : (before ++ [semicolon] ++ after).filterMap Word.token? =
      tokensOf sentence.yield := by
    rw [List.append_assoc, List.singleton_append, ← Word.map_token_lexemesFrom 0,
      ← map_token_lexemesOf, ← h]
    rfl
  have hafter := (filterMap_eq_of_semicolon_mem htokens (by simp [hsemicolon])).2
  have hstop := sentence.covers.stop
  rw [← h, Word.lexemes, Word.lexemesFrom_append, Word.lexemesFrom, hsemicolon] at hstop
  simp only [Word.lexemesFrom_eq_nil hafter, List.getLast?_append_cons, List.getLast?_singleton,
    Option.map_some, Nat.zero_add] at hstop
  rw [← Option.some.inj hstop]
  simp [textOf_append]

theorem exists_stop {source : Source} {command : Command Place} {words : List Word}
    (hparse : parseSingle source = .ok command) (hsplits : Splits source.text words) :
    ∃ extent : Extent, extent.Locates command.note ∧ ∀ front, front <+: source.text →
      (HoldsSemicolon words front ↔ extent.stop ≤ front.length) := by
  obtain ⟨analysis, -, hcommand⟩ := parseSingle_eq_ok_iff.mp hparse
  obtain ⟨sentence, hsentences, rfl⟩ := List.map_eq_singleton_iff.mp hcommand
  obtain rfl := analysis.splits.unique hsplits
  have hmem : sentence ∈ analysis.sentences := by simp [hsentences]
  have hlexemes : Word.lexemes analysis.words = lexemesOf sentence.yield := by
    rw [← analysis.lexemesOf_yieldAll, hsentences, yieldAll_cons, yieldAll_nil, List.append_nil]
  refine ⟨_, (analysis.exists_extent_of_command hmem).1, fun front hfront => ⟨?_, fun hstop => ?_⟩⟩
  · rintro ⟨before, semicolon, after, hwords, hsemicolon, hprefix⟩
    rw [hwords] at hlexemes
    rw [stop_eq_of_semicolon hlexemes hsemicolon]
    exact hprefix.length_le
  · have htoken : .semicolon ∈ analysis.words.filterMap Word.token? := by
      rw [analysis.filterMap_token?, hsentences]
      simp [Sentence.yield, Terminal.spelled]
    obtain ⟨semicolon, hword, hsemicolon⟩ := List.mem_filterMap.mp htoken
    obtain ⟨before, after, hwords⟩ := List.append_of_mem hword
    have htext : textOf (before ++ [semicolon]) <+: source.text := by
      rw [← hsplits.textOf_eq, hwords]
      exact ⟨textOf after, by simp⟩
    rw [hwords] at hlexemes
    rw [stop_eq_of_semicolon hlexemes hsemicolon] at hstop
    exact ⟨before, semicolon, after, hwords, hsemicolon,
      List.prefix_of_prefix_length_le htext hfront hstop⟩

theorem exists_sentence {source : Source} {command : Command Place} {words : List Word}
    (hparse : parseSingle source = .ok command) (hsplits : Splits source.text words) :
    ∃ sentence : Sentence Extent, words.filterMap Word.token? = tokensOf sentence.yield := by
  obtain ⟨analysis, -, hcommand⟩ := parseSingle_eq_ok_iff.mp hparse
  obtain ⟨sentence, hsentences, -⟩ := List.map_eq_singleton_iff.mp hcommand
  refine ⟨sentence, ?_⟩
  rw [← analysis.splits.unique hsplits, analysis.filterMap_token?, hsentences]
  simp

theorem IsComplete.parseSingle {source short : Source} {command : Command Place}
    {words : List Word} {front rest : List Char} (h : IsComplete words front)
    (hparse : parseSingle source = .ok command) (hsplits : Splits source.text words)
    (htext : source.text = front ++ '\n' :: rest) (hshort : short.text = front ++ ['\n'])
    (hname : short.filename = source.filename) : parseSingle short = .ok command := by
  obtain ⟨sentence, htokens⟩ := exists_sentence hparse hsplits
  obtain ⟨part, ⟨before, after, others, rfl, rfl⟩, -⟩ := h.exists_cutIn hsplits htokens htext
  have hmatch := hsplits.matches_of_mem ⟨.blank, part ++ '\n' :: others⟩ (by simp)
  have hmem := (holdsSemicolon_iff hmatch rfl).mp h.semicolon
  have hafter := (filterMap_eq_of_semicolon_mem htokens hmem).2
  rw [List.filterMap_cons_none rfl] at hafter
  exact parseSingle_of_cut hparse hsplits hafter hshort hname

/-! ### Lines in the shell -/

/-- Whether the shell that is given lines executes the command first, and then goes on with the
other lines. -/
def ExecutesFirst (lines : List String) (command : Command Place) (others : List String) : Prop :=
  ∀ (platform : Platform) (reporter : Reporter) (execute : Env → Command Place → Trace Env)
    (env : Env),
    (visit language platform reporter execute env (lines.map .line)).trace.written =
      (greet language platform >>= fun _ =>
        recover reporter env (execute env command) >>= fun next =>
          (Shell.converse language reporter execute [] { env := next }
            (others.map .line)).trace).written

theorem exists_executesFirst {piece rest : List Char} {command : Command Place}
    {lines : List String} (hlines : ∀ line ∈ lines, '\n' ∉ line.toList)
    (htext : textOfLines lines = piece ++ '\n' :: rest) (hopen : StaysOpen language piece)
    (hends : endsCommand piece = true)
    (hparse : parseSingle (commandSource (String.ofList piece)) = .ok command) :
    ∃ others, textOfLines others = rest ∧ ExecutesFirst lines command others := by
  have hname : language.name = some "calc" := rfl
  obtain ⟨others, hothers, hvisit⟩ :=
    written_visit_of_piece hlines htext hopen (readsMore_eq_false.mpr hends) hname
  have hlocated : Parser.located language.parseCommand (commandSource (String.ofList piece)) =
      .ok command :=
    mapError_eq_ok.mpr hparse
  refine ⟨others, hothers, fun platform reporter execute env => ?_⟩
  rw [hvisit, runCommand_of_ok language execute hlocated]

/-- Of the lines of one command the shell reads those of the shortest beginning that is complete. -/
theorem exists_shortest {text : String} {command : Command Place} {words : List Word}
    (hparse : parseSingle (commandSource text) = .ok command)
    (hsplits : Splits (text.toList ++ ['\n']) words) (hstrings : StringsStayOpen words)
    {lines : List String} {rest : List Char} (hlines : ∀ line ∈ lines, '\n' ∉ line.toList)
    (htext : textOfLines lines = text.toList ++ '\n' :: rest) :
    ∃ front others, IsBeginning front text.toList ∧ IsComplete words front ∧
      (∀ shorter, IsBeginning shorter text.toList → IsComplete words shorter →
        front.length ≤ shorter.length) ∧
      textOfLines lines = front ++ '\n' :: textOfLines others ∧
      ExecutesFirst lines command others := by
  have hwhole : (commandSource text).text = text.toList ++ ['\n'] := by
    simp [commandSource, Source.ofString]
  rw [← hwhole] at hsplits
  obtain ⟨sentence, htokens⟩ := exists_sentence hparse hsplits
  have hcomplete : ∀ {front back : List Char}, text.toList ++ ['\n'] = front ++ '\n' :: back →
      (endsCommand front = true ↔ IsComplete words front) := by
    intro front back hfront
    rw [endsCommand_iff_isComplete hsplits htokens (hwhole.trans hfront)]
    refine or_iff_left ?_
    rintro ⟨part, hcut, hpart⟩
    rw [hstrings.endsCommand_eq_false hcut] at hpart
    cases hpart
  have hlast : endsCommand text.toList = true :=
    (hcomplete rfl).mpr (isComplete_of_newline hsplits htokens hwhole)
  obtain ⟨front, back, hfront, hopen, hends⟩ : ∃ front back,
      text.toList ++ ['\n'] = front ++ '\n' :: back ∧ StaysOpen language front ∧
        language.readsMore (String.ofList front) = false :=
    exists_first_piece (readsMore_eq_false.mpr hlast)
  rw [readsMore_eq_false] at hends
  have hdone := (hcomplete hfront).mp hends
  have hshort : parseSingle (commandSource (String.ofList front)) = .ok command := by
    refine hdone.parseSingle hparse hsplits (hwhole.trans hfront) ?_ rfl
    simp [commandSource, Source.ofString]
  have hall : textOfLines lines = front ++ '\n' :: (back ++ rest) := by
    rw [htext, ← List.singleton_append, ← List.append_assoc, hfront]
    simp
  obtain ⟨others, hothers, hexecutes⟩ := exists_executesFirst hlines hall hopen hends hshort
  refine ⟨front, others, isBeginning_iff.mpr ⟨back, hfront⟩, hdone, ?_, hothers ▸ hall, hexecutes⟩
  intro shorter hbeginning hshorter
  obtain ⟨tail, htail⟩ := isBeginning_iff.mp hbeginning
  by_contra hless
  -- The shell would have stopped at the shorter one.
  obtain ⟨middle, rfl⟩ : shorter ++ ['\n'] <+: front := by
    refine List.prefix_of_prefix_length_le ⟨tail, by simp [htail]⟩ ⟨_, hfront.symm⟩ ?_
    rw [List.length_append, List.length_singleton]
    omega
  have hmore := readsMore_eq_true.mp (hopen shorter middle (by simp))
  rw [(hcomplete htail).mpr hshorter] at hmore
  cases hmore

/-- Where a text of one command is cut before a newline, or left as it is, the beginning ends a
command just if it holds the semicolon and no comment is open at the cut, or if the cut is within a
string of which the part before it looks like the end of a command. A beginning that holds the
semicolon, and is not cut within a comment, is parsed as the command at the same places; the whole
text is one. Only strings with carriage returns are cut. If none of them looks like the end of a
command, then the shell reads the lines of the shortest beginning of this kind, and no others,
before it executes the command. -/
theorem commands_end_where_complete {text filename : String} {command : Command Place}
    {words : List Word} (hparse : parseSingle (.ofString (text ++ "\n") filename) = .ok command)
    (hsplits : Splits (text.toList ++ ['\n']) words) :
    (∃ extent : Extent, extent.Locates command.note ∧ ∀ front, IsBeginning front text.toList →
      (HoldsSemicolon words front ↔ extent.stop ≤ front.length)) ∧
    (∀ front : String, IsBeginning front.toList text.toList →
      (endsCommand front.toList = true ↔ IsComplete words front.toList ∨
        ∃ part, CutIn words front.toList .quoted part ∧ endsCommand part = true) ∧
      (IsComplete words front.toList →
        parseSingle (.ofString (front ++ "\n") filename) = .ok command)) ∧
    IsComplete words text.toList ∧ endsCommand text.toList = true ∧
    ('\r' ∉ text.toList → StringsStayOpen words) ∧
    (StringsStayOpen words → filename = "" → ∀ (lines : List String) (rest : List Char),
      (∀ line ∈ lines, '\n' ∉ line.toList) → textOfLines lines = text.toList ++ '\n' :: rest →
      ∃ front others, IsBeginning front text.toList ∧ IsComplete words front ∧
        (∀ shorter, IsBeginning shorter text.toList → IsComplete words shorter →
          front.length ≤ shorter.length) ∧
        textOfLines lines = front ++ '\n' :: textOfLines others ∧
        ExecutesFirst lines command others) := by
  have hwhole : (Source.ofString (text ++ "\n") filename).text = text.toList ++ ['\n'] := by
    simp [Source.ofString]
  have hwords : Splits (Source.ofString (text ++ "\n") filename).text words := hwhole ▸ hsplits
  obtain ⟨sentence, htokens⟩ := exists_sentence hparse hwords
  have hlast := isComplete_of_newline hsplits htokens rfl
  obtain ⟨extent, hlocates, hstop⟩ := exists_stop hparse hwords
  refine ⟨⟨extent, hlocates, fun front hfront => ?_⟩, fun front hfront => ⟨?_, fun hcomplete => ?_⟩,
    hlast, ?_, fun hreturn => ?_, ?_⟩
  · obtain ⟨rest, hrest⟩ := isBeginning_iff.mp hfront
    exact hstop front ⟨_, (hwhole.trans hrest).symm⟩
  · obtain ⟨rest, hrest⟩ := isBeginning_iff.mp hfront
    exact endsCommand_iff_isComplete hsplits htokens hrest
  · obtain ⟨rest, hrest⟩ := isBeginning_iff.mp hfront
    exact hcomplete.parseSingle hparse hwords (hwhole.trans hrest) (by simp [Source.ofString]) rfl
  · exact (endsCommand_iff_isComplete hsplits htokens rfl).mpr (.inl hlast)
  · obtain ⟨analysis, hreadable, -⟩ := parseSingle_eq_ok_iff.mp hparse
    rw [← analysis.splits.unique hwords]
    refine analysis.stringsStayOpen hreadable ?_
    simpa [hwhole] using hreturn
  · rintro hstrings rfl lines rest hlines htext
    exact exists_shortest hparse hsplits hstrings hlines htext

/-- Comments with semicolons stand within a command of two lines and after it. -/
theorem command_ends_between_comments :
    let text := "1 + (* one;\n*) 2; # sum;\n(* done;\n*)"
    let front := "1 + (* one;\n*) 2; # sum;"
    ∃ command words, parseSingle (.ofString (text ++ "\n")) = .ok command ∧
      Splits (text.toList ++ ['\n']) words ∧ IsBeginning front.toList text.toList ∧
      endsCommand front.toList = true ∧ IsComplete words front.toList ∧
      parseSingle (.ofString (front ++ "\n")) = .ok command ∧
      ∃ read others, IsComplete words read ∧ read.length ≤ front.toList.length ∧
        textOfLines ["1 + (* one;", "*) 2; # sum;", "(* done;", "*)", "help;"] =
          read ++ '\n' :: textOfLines others ∧
        ExecutesFirst ["1 + (* one;", "*) 2; # sum;", "(* done;", "*)", "help;"] command
          others := by
  intro text front
  let words : List Word := [⟨.number, ['1']⟩, ⟨.blank, [' ']⟩, ⟨.plus, ['+']⟩, ⟨.blank, [' ']⟩,
    ⟨.blockComment, "(* one;\n*)".toList⟩, ⟨.blank, [' ']⟩, ⟨.number, ['2']⟩,
    ⟨.semicolon, [';']⟩, ⟨.blank, [' ']⟩, ⟨.lineComment, "# sum;".toList⟩, ⟨.blank, ['\n']⟩,
    ⟨.blockComment, "(* done;\n*)".toList⟩, ⟨.blank, ['\n']⟩]
  obtain ⟨command, hparse⟩ : ∃ command, parseSingle (.ofString (text ++ "\n")) = .ok command :=
    ⟨_, by cbv⟩
  have hsplits : Splits (text.toList ++ ['\n']) words := by decide
  have hfront : IsBeginning front.toList text.toList := by decide
  have hends : endsCommand front.toList = true := by cbv
  obtain ⟨-, hbeginnings, -, -, hreturn, hshell⟩ := commands_end_where_complete hparse hsplits
  have hstrings := hreturn (by decide)
  obtain ⟨hiff, hsame⟩ := hbeginnings front hfront
  have hcomplete : IsComplete words front.toList := by
    refine (hiff.mp hends).resolve_right ?_
    rintro ⟨part, hcut, hpart⟩
    rw [hstrings.endsCommand_eq_false hcut] at hpart
    cases hpart
  obtain ⟨read, others, -, hread, hshortest, htext, hexecutes⟩ :=
    hshell hstrings rfl ["1 + (* one;", "*) 2; # sum;", "(* done;", "*)", "help;"]
      "help;\n".toList (by decide) (by decide)
  exact ⟨command, words, hparse, hsplits, hfront, hends, hcomplete, hsame hcomplete, read, others,
    hread, hshortest _ hfront hcomplete, htext, hexecutes⟩

/-- In a string that goes on after a backslash, a carriage return and a newline, a semicolon and the
sign of a comment look like the end of a command, which is not even parsed. -/
theorem command_seems_to_end_within_string :
    let text := "load \"x;# \\\r\ny\";"
    let front := "load \"x;# \\\r"
    ∃ command words, parseSingle (.ofString (text ++ "\n")) = .ok command ∧
      Splits (text.toList ++ ['\n']) words ∧ IsBeginning front.toList text.toList ∧
      endsCommand front.toList = true ∧ ¬HoldsSemicolon words front.toList ∧
      ∀ other, parseSingle (.ofString (front ++ "\n")) ≠ .ok other := by
  intro text front
  have hsplits : Splits (text.toList ++ ['\n']) ([⟨.name, "load".toList⟩, ⟨.blank, [' ']⟩] ++
      ⟨.quoted, "\"x;# \\\r\ny\"".toList⟩ :: [⟨.semicolon, [';']⟩, ⟨.blank, ['\n']⟩]) := by
    decide
  have hquoted := hsplits.matches_of_mem ⟨.quoted, "\"x;# \\\r\ny\"".toList⟩ (by simp)
  obtain ⟨failure, hfails⟩ :
      ∃ failure, parseSingle (.ofString (front ++ "\n")) = .error failure :=
    ⟨_, by cbv⟩
  refine ⟨_, _, by cbv, hsplits, by decide, by cbv, ?_, ?_⟩
  · have hparts : front.toList =
        textOf [⟨.name, "load".toList⟩, ⟨.blank, [' ']⟩] ++ "\"x;# \\\r".toList := by
      decide
    rw [hparts, holdsSemicolon_iff hquoted rfl]
    decide
  · intro other hother
    rw [hfails] at hother
    cases hother

end LanguageShell.Calculator

import LanguageShell.Proofs.Calculator.Execution
import LanguageShell.Proofs.Calculator.Newline

/-!
Files line by line. If a line ends after each semicolon of a file, before the next token, then the
shell cuts the lines of the file into its commands: the text up to the line end after a semicolon is
one command, and no command ends before.
-/

namespace LanguageShell.Calculator

open Shell Pattern

/-- Whether after each semicolon a line ends before the next token, outside of block comments. -/
def SeparateLines (words : List Word) : Prop :=
  ∀ front semicolon gap next back, words = front ++ semicolon :: (gap ++ next :: back) →
    semicolon.token? = some .semicolon → (∀ word ∈ gap, word.token? = none) →
      next.token? ≠ none → ∃ word ∈ gap, word.pattern ≠ .blockComment ∧ '\n' ∈ word.text

def LineEndsFirst : List Word → Bool
  | [] => true
  | word :: words =>
    word.token?.isNone &&
      ((word.pattern ≠ .blockComment && '\n' ∈ word.text) || LineEndsFirst words)

theorem lineEndsFirst_iff {words : List Word} :
    LineEndsFirst words ↔ ∀ gap next back, words = gap ++ next :: back →
      (∀ word ∈ gap, word.token? = none) → next.token? ≠ none →
        ∃ word ∈ gap, word.pattern ≠ .blockComment ∧ '\n' ∈ word.text := by
  induction words with
  | nil => simp [LineEndsFirst]
  | cons word words ih =>
      simp only [LineEndsFirst, Bool.and_eq_true, Bool.or_eq_true, ih, Option.isNone_iff_eq_none,
        decide_eq_true_eq]
      constructor
      · rintro ⟨hnone, hends⟩ (_ | ⟨other, gap⟩) next back heq hgap hnext
        · obtain ⟨rfl, -⟩ := List.cons.inj heq
          exact absurd hnone hnext
        · obtain ⟨rfl, hwords⟩ := List.cons.inj heq
          obtain hends | hrest := hends
          · exact ⟨word, List.mem_cons_self, hends⟩
          · obtain ⟨found, hmem, hfound⟩ :=
              hrest gap next back hwords (fun w hw => hgap w (List.mem_cons_of_mem _ hw)) hnext
            exact ⟨found, List.mem_cons_of_mem _ hmem, hfound⟩
      · intro h
        have hnone : word.token? = none := by
          by_contra hword
          obtain ⟨_, hmem, _⟩ := h [] word words rfl (by simp) hword
          exact absurd hmem List.not_mem_nil
        refine ⟨hnone, or_iff_not_imp_left.mpr fun hends gap next back heq hgap hnext => ?_⟩
        obtain ⟨found, hmem, hfound⟩ := h (word :: gap) next back (by simp [heq])
          (List.forall_mem_cons.mpr ⟨hnone, hgap⟩) hnext
        obtain rfl | hmem := List.mem_cons.mp hmem
        · exact absurd hfound hends
        · exact ⟨found, hmem, hfound⟩

/-- Whether a line ends within the word, which stands between tokens. -/
def EndsLine (word : Word) : Prop :=
  word.pattern = .blank ∧ '\n' ∈ word.text

instance (word : Word) : Decidable (EndsLine word) :=
  inferInstanceAs (Decidable (_ ∧ _))

/-- Whether no string has a line end in it before which the string alone would end a command. -/
def StringsStayOpen (words : List Word) : Prop :=
  ∀ word ∈ words, word.pattern = .quoted → StaysOpen language word.text

namespace SeparateLines

theorem of_append_left {front back : List Word} (h : SeparateLines (front ++ back)) :
    SeparateLines front := by
  rintro others semicolon gap next rest rfl
  exact h others semicolon gap next (rest ++ back) (by simp)

theorem of_append_right {front back : List Word} (h : SeparateLines (front ++ back)) :
    SeparateLines back := by
  rintro others semicolon gap next rest rfl
  exact h (front ++ others) semicolon gap next rest (by simp)

protected theorem nil : SeparateLines [] := by
  intro front semicolon gap next back heq
  simp at heq

theorem cons_iff {word : Word} {words : List Word} :
    SeparateLines (word :: words) ↔
      (word.token? = some .semicolon → LineEndsFirst words) ∧ SeparateLines words := by
  rw [lineEndsFirst_iff]
  constructor
  · refine fun h => ⟨fun hword gap next back heq => ?_, fun front semicolon gap next back heq => ?_⟩
    · exact h [] word gap next back (by simp [heq]) hword
    · exact h (word :: front) semicolon gap next back (by simp [heq])
  · rintro ⟨hfirst, hrest⟩ (_ | ⟨other, front⟩) semicolon gap next back heq hsemicolon
    · obtain ⟨rfl, hwords⟩ := List.cons.inj heq
      exact hfirst hsemicolon gap next back hwords
    · exact hrest front semicolon gap next back (List.cons.inj heq).2 hsemicolon

instance decidable : (words : List Word) → Decidable (SeparateLines words)
  | [] => .isTrue SeparateLines.nil
  | _ :: words =>
    have := SeparateLines.decidable words
    decidable_of_iff _ cons_iff.symm

theorem concat {word : Word} {words : List Word} (h : SeparateLines words)
    (hword : word.token? = none) : SeparateLines (words ++ [word]) := by
  intro front semicolon gap next back heq hsemicolon hgap hnext
  obtain rfl | ⟨others, last, rfl⟩ := List.eq_nil_or_concat back
  · have hlast : words ++ [word] = (front ++ semicolon :: gap) ++ [next] := by simpa using heq
    obtain rfl := List.singleton_inj.mp (List.append_inj' hlast rfl).2
    exact absurd hword hnext
  · have hlast : words ++ [word] = (front ++ semicolon :: (gap ++ next :: others)) ++ [last] := by
      simpa using heq
    exact h front semicolon gap next others (List.append_inj' hlast rfl).1 hsemicolon hgap hnext

theorem blanks {words : List Word} (h : SeparateLines words) (text : List Char) :
    SeparateLines (blanksOf text ++ words) := by
  unfold blanksOf
  split
  · exact h
  · exact cons_iff.mpr ⟨fun hblank => by simp [Word.token?, Word.piece, piece] at hblank, h⟩

end SeparateLines

theorem StringsStayOpen.blanks {words : List Word} (text : List Char) (h : StringsStayOpen words) :
    StringsStayOpen (blanksOf text ++ words) := by
  intro word hword hquoted
  obtain hblank | hword := List.mem_append.mp hword
  · unfold blanksOf at hblank
    split at hblank
    · exact absurd hblank List.not_mem_nil
    · obtain rfl := List.mem_singleton.mp hblank
      cases hquoted
  · exact h word hword hquoted

theorem exists_first {words : List Word} {sentence : Sentence α}
    {sentences : List (Sentence α)}
    (h : words.filterMap Word.token? = tokensOf (yieldAll (sentence :: sentences))) :
    ∃ before semicolon after, words = before ++ semicolon :: after ∧
      before.filterMap Word.token? = tokensOf sentence.body ∧
      semicolon.token? = some .semicolon ∧
      after.filterMap Word.token? = tokensOf (yieldAll sentences) := by
  simp only [yieldAll_cons, Sentence.yield, tokensOf_append, tokensOf_cons,
    List.append_assoc, List.singleton_append] at h
  obtain ⟨front, back, rfl, hfront, hback⟩ := List.filterMap_eq_append_iff.mp h
  obtain ⟨skipped, semicolon, after, rfl, hskipped, hsemicolon, hafter⟩ :=
    List.filterMap_eq_cons_iff.mp hback
  refine ⟨front ++ skipped, semicolon, after, by simp, ?_, hsemicolon, hafter⟩
  rw [List.filterMap_append, hfront, List.filterMap_eq_nil_iff.mpr hskipped, List.append_nil]

theorem semicolon_not_mem_phrase {layer : Layer} (phrase : Phrase α layer) :
    Token.semicolon ∉ tokensOf phrase.yield := by
  induction phrase with
  | number | name => simp [Phrase.yield, Terminal.spelled]
  | parens _ _ _ ih => simpa [Phrase.yield, Terminal.spelled] using ih
  | ofAtom _ ih | ofUnary _ ih | ofProduct _ ih => exact ih
  | neg _ _ ih => simpa [Phrase.yield, Terminal.spelled] using ih
  | product _ sign _ _ ihl ihr | sum _ sign _ _ ihl ihr =>
      cases sign <;> simpa [Phrase.yield, Terminal.spelled] using ⟨ihl, ihr⟩

theorem semicolon_not_mem_body (sentence : Sentence α) :
    Token.semicolon ∉ tokensOf sentence.body := by
  cases sentence with
  | define _ _ _ expr _ | eval expr _ | display _ expr _ =>
      simpa [Sentence.body, Terminal.spelled] using semicolon_not_mem_phrase expr
  | load | listing | help => simp [Sentence.body, Terminal.spelled]

theorem exists_last_blank {text : List Char} {front back : List Word}
    (h : Splits text (front ++ back)) (hne : back ≠ []) (hend : text.getLast? = some '\n') :
    ∃ word ∈ back, EndsLine word := by
  obtain rfl | ⟨others, last, rfl⟩ := List.eq_nil_or_concat back
  · exact absurd rfl hne
  · rw [List.concat_eq_append, ← List.append_assoc] at h
    have hmatches := h.matches_of_mem last (by simp)
    have htext : last.text ≠ [] := fun hnil => last.pattern.not_matches_nil (hnil ▸ hmatches)
    rw [← h.textOf_eq, textOf_append, textOf_cons, textOf_nil, List.append_nil,
      List.getLast?_append_of_ne_nil _ htext] at hend
    obtain ⟨chars, hchars⟩ := List.getLast?_eq_some_iff.mp hend
    rw [hchars] at hmatches
    exact ⟨last, by simp, eq_blank_of_newline hmatches, by simp [hchars]⟩

theorem exists_line_end {text : List Char} {before after : List Word} {semicolon : Word}
    (hsplits : Splits text (before ++ semicolon :: after))
    (hsemicolon : semicolon.token? = some .semicolon)
    (hseparate : SeparateLines (before ++ semicolon :: after)) (hend : text.getLast? = some '\n') :
    ∃ gap ending others, after = gap ++ ending :: others ∧
      (∀ word ∈ gap, word.token? = none ∧ ¬EndsLine word) ∧ EndsLine ending := by
  have hmatches := hsplits.matches_of_mem
  have hblank : ∀ word ∈ after, word.token? = none → word.pattern ≠ .blockComment →
      '\n' ∈ word.text → EndsLine word := by
    intro word hword htoken hcomment hnewline
    obtain hpattern | hpattern | hpattern :=
      eq_of_newline_mem (hmatches word (by simp [hword])) hnewline
    · exact ⟨hpattern, hnewline⟩
    · exact absurd hpattern hcomment
    · simp [Word.token?, Word.piece, hpattern, piece] at htoken
  -- The words before the next token, and those from it on.
  obtain ⟨leading, rest, rfl, hleading, hrest⟩ : ∃ leading rest, after = leading ++ rest ∧
      (∀ word ∈ leading, word.token? = none) ∧
      ∀ next, rest.head? = some next → next.token? ≠ none := by
    refine ⟨after.takeWhile (·.token?.isNone), after.dropWhile (·.token?.isNone), by simp, ?_, ?_⟩
    · intro word hword
      simpa using List.mem_takeWhile_imp hword
    · intro next hnext
      have hfirst := List.head?_dropWhile_not (·.token?.isNone) after
      rw [hnext] at hfirst
      simpa [Option.isSome_iff_ne_none] using hfirst
  have hexists : ∃ word ∈ leading, EndsLine word := by
    cases rest with
    | cons next back =>
        obtain ⟨word, hword, hcomment, hnewline⟩ :=
          hseparate before semicolon leading next back rfl hsemicolon hleading (hrest next rfl)
        exact ⟨word, hword, hblank word (by simp [hword]) (hleading word hword) hcomment hnewline⟩
    | nil =>
        rw [List.append_nil] at hsplits hblank
        obtain ⟨last, hlast, hends⟩ := exists_last_blank hsplits (List.cons_ne_nil _ _) hend
        obtain rfl | hmem := List.mem_cons.mp hlast
        · simp [Word.token?, Word.piece, hends.1, piece] at hsemicolon
        · exact ⟨last, hmem, hends⟩
  obtain ⟨word, hword, hends⟩ := hexists
  obtain ⟨ending, hfind⟩ : ∃ ending, leading.find? (EndsLine ·) = some ending :=
    Option.isSome_iff_exists.mp (List.find?_isSome.mpr ⟨word, hword, by simpa using hends⟩)
  obtain ⟨hending, gap, others, rfl, hgap⟩ := List.find?_eq_some_iff_append.mp hfind
  refine ⟨gap, ending, others ++ rest, by simp, fun word hword => ⟨?_, ?_⟩, by simpa using hending⟩
  · exact hleading word (by simp [hword])
  · simpa using hgap word hword

theorem readsMore_eq_false {text : List Char} :
    language.readsMore (String.ofList text) = false ↔ endsCommand text = true := by
  simp [language]

theorem readsMore_eq_true {text : List Char} :
    language.readsMore (String.ofList text) = true ↔ endsCommand text = false := by
  simp [language]

/-- Before a newline within a word a command ends after a semicolon if the word is of blanks, and
never if it is a comment; within a string it depends on the string alone. -/
theorem endsCommand_within {before : List Word} {word : Word} {first last rest : List Char}
    (h : Leads before (word.text ++ rest)) (hwins : word.pattern.Wins word.text rest)
    (hchain : (before.filterMap Word.token?).IsChain Token.MayPrecede)
    (hword : word.text = first ++ '\n' :: last) :
    (word.pattern = .blank ∧ (endsCommand (textOf before ++ first) = true ↔
      (before.filterMap Word.token?).getLast? = some .semicolon)) ∨
    (word.pattern = .blockComment ∧ endsCommand (textOf before ++ first) = false) ∨
    (word.pattern = .quoted ∧
      endsCommand (textOf before ++ first) = endsCommand first) := by
  have hmatch := hwins.1.1
  obtain hpattern | hpattern | hpattern := eq_of_newline_mem hmatch (by simp [hword])
  · rw [hpattern, hword] at hmatch
    have hblanks : ∀ c ∈ first, isIgnorable c = true := fun c hc =>
      (Regex.matches_several_char.mp hmatch).2 c (by simp [hc])
    have hfirst : Leads before first := h.truncate (by simp [hword])
    exact .inl ⟨hpattern, endsCommand_blanks hfirst hblanks hchain⟩
  · exact .inr (.inl ⟨hpattern, not_endsCommand_comment h (hpattern ▸ hwins) hchain hword⟩)
  · rw [hpattern, hword] at hmatch
    obtain ⟨inner, rfl⟩ : ∃ inner, first = '"' :: inner := by
      obtain ⟨quote, others, hquote, _, hparts⟩ := hmatch
      obtain rfl := Regex.matches_literal.mp hquote
      cases first with
      | nil => simp at hparts
      | cons c inner => exact ⟨inner, by rw [(List.cons.inj hparts).1]⟩
    have hfirst : Leads before ('"' :: inner) := h.truncate (by simp [hword])
    exact .inr (.inr ⟨hpattern, endsCommand_string hfirst hchain⟩)

/-- No command ends in words, and on the line after them, if none of their lines ends after a
semicolon. -/
theorem staysOpen_textOf {words : List Word} {line rest : List Char}
    (h : Leads words (line ++ rest)) (hline : '\n' ∉ line)
    (hchain : (words.filterMap Word.token?).IsChain Token.MayPrecede)
    (hstrings : StringsStayOpen words)
    (hends : ∀ front word back, words = front ++ word :: back → EndsLine word →
      (front.filterMap Word.token?).getLast? ≠ some .semicolon) :
    StaysOpen language (textOf words ++ line) := by
  intro front back htext
  rw [readsMore_eq_true]
  obtain ⟨before, word, after, first, last, rfl, hword, rfl⟩ := exists_word_of_textOf htext hline
  obtain ⟨hbefore, hwins, -⟩ := h.of_append
  rw [List.filterMap_append] at hchain
  rw [textOf_cons, List.append_assoc] at hbefore
  obtain ⟨hpattern, hiff⟩ | ⟨-, hcomment⟩ | ⟨hpattern, hstring⟩ :=
    endsCommand_within hbefore hwins (List.isChain_append.mp hchain).1 hword
  · rw [← Bool.not_eq_true, hiff]
    exact hends before word after rfl ⟨hpattern, by simp [hword]⟩
  · exact hcomment
  · rw [hstring]
    exact readsMore_eq_true.mp (hstrings word (by simp) hpattern _ _ hword)

theorem not_semicolon_before {sentence : Sentence α} {before gap : List Word} {semicolon : Word}
    (hbefore : before.filterMap Word.token? = tokensOf sentence.body)
    (hsemicolon : semicolon.token? = some .semicolon) (hgap : ∀ word ∈ gap, ¬EndsLine word) :
    ∀ front word back, before ++ semicolon :: gap = front ++ word :: back → EndsLine word →
      (front.filterMap Word.token?).getLast? ≠ some .semicolon := by
  intro front word back heq hends hlast
  obtain ⟨middle, rfl, hrest⟩ | ⟨middle, rfl, -⟩ := List.append_eq_append_iff.mp heq
  · cases middle with
    | nil =>
        obtain rfl := (List.cons.inj hrest).1
        simp [Word.token?, Word.piece, hends.1, piece] at hsemicolon
    | cons _ middle =>
        have hmem : word ∈ gap := by simp [(List.cons.inj hrest).2]
        exact hgap word hmem hends
  · refine semicolon_not_mem_body sentence ?_
    rw [← hbefore, List.filterMap_append]
    exact List.mem_append_left _ (List.mem_of_getLast? hlast)

theorem exists_line {text : List Char} {opening others : List Word} {ending : Word}
    (h : Splits text (opening ++ ending :: others)) (hending : EndsLine ending) :
    ∃ line blanks rest, '\n' ∉ line ∧ (∀ c ∈ line, isIgnorable c = true) ∧
      Leads opening (line ++ '\n' :: rest) ∧ text = textOf opening ++ line ++ '\n' :: rest ∧
      Splits rest (blanksOf blanks ++ others) := by
  obtain ⟨hblank, hnewline⟩ := hending
  obtain ⟨line, back, hparts, hline⟩ := List.eq_append_cons_of_mem hnewline
  obtain ⟨hleads, hrest⟩ := h.of_append
  have htext := h.textOf_eq
  rw [textOf_append, textOf_cons, hparts] at htext
  rw [textOf_cons, hparts] at hleads
  have hwins : ending.pattern.Wins ending.text (textOf others) ∧ Splits (textOf others) others := by
    have hsingle : Splits (textOf (ending :: others)) ([ending] ++ others) := hrest
    exact ⟨by simpa using hsingle.of_append.1.1, hsingle.of_append.2⟩
  obtain ⟨hword, hothers⟩ := hwins
  rw [hblank, hparts, wins_blank_iff] at hword
  obtain ⟨-, hall, hhead⟩ := hword
  refine ⟨line, back, back ++ textOf others, hline, fun c hc => hall c (by simp [hc]), ?_, ?_, ?_⟩
  · simpa using hleads
  · simpa using htext.symm
  · exact hothers.blanks (fun c hc => hall c (by simp [hc])) hhead

/-- The text of a command, up to the end of the line on which its semicolon stands, is read and
parsed by the shell. -/
theorem exists_command {sentence : Sentence α} {opening : List Word} {line rest : List Char}
    (hleads : Leads opening (line ++ '\n' :: rest)) (hline : ∀ c ∈ line, isIgnorable c = true)
    (htokens : opening.filterMap Word.token? = tokensOf sentence.yield)
    (hmeaning : ∀ token ∈ tokensOf sentence.yield, token.HasMeaning) (hproper : sentence.Proper) :
    language.readsMore (String.ofList (textOf opening ++ line)) = false ∧ ∃ command,
      Parser.located language.parseCommand
        (commandSource (String.ofList (textOf opening ++ line))) = .ok command ∧
      command.map (fun _ => ()) = sentence.shape := by
  constructor
  · have hshort : Leads opening line := hleads.truncate (List.prefix_append _ _)
    rw [readsMore_eq_false, endsCommand_blanks hshort hline (htokens ▸ sentence.apart.chain),
      htokens]
    simp [Sentence.yield, Terminal.spelled]
  · have hshort : Leads opening (line ++ ['\n']) := hleads.truncate (by simp)
    have hsplits := hshort.splits (splits_line_end hline)
    have hblank : Word.token? ⟨.blank, line ++ ['\n']⟩ = none := rfl
    have hsource : Splits (commandSource (String.ofList (textOf opening ++ line))).text
        (opening ++ [⟨.blank, line ++ ['\n']⟩]) := by
      simpa [commandSource, Source.ofString] using hsplits
    obtain ⟨command, hparse, hshape⟩ :=
      exists_parseSingle sentence hsource (by simpa [hblank] using htokens) hmeaning hproper
    exact ⟨command, mapError_eq_ok.mpr hparse, hshape⟩

/-! ### Cutting a file -/

/-- What is kept true of the part of a file that follows a line end after a command: its words, of
which the tokens are those of the sentences that are left, and that it ends with a line end. -/
structure Remains (text : List Char) (words : List Word) (sentences : List (Sentence α)) :
    Prop where
  splits : Splits text words
  tokens : words.filterMap Word.token? = tokensOf (yieldAll sentences)
  separate : SeparateLines words
  strings : StringsStayOpen words
  ends : text = [] ∨ text.getLast? = some '\n'

namespace Remains

variable {text : List Char} {words : List Word} {sentence : Sentence α}
  {sentences : List (Sentence α)}

theorem staysOpen (h : Remains text words ([] : List (Sentence α))) : StaysOpen language text := by
  have hnone : ∀ front word back, words = front ++ word :: back → EndsLine word →
      (front.filterMap Word.token?).getLast? ≠ some .semicolon := by
    rintro front word back rfl _
    have htokens := h.tokens
    simp only [List.filterMap_append, yieldAll_nil, tokensOf_nil, List.append_eq_nil_iff] at htokens
    simp [htokens.1]
  have hleads : Leads words ([] ++ []) := h.splits.leads
  have hopen := staysOpen_textOf hleads (by simp) (h.tokens ▸ List.isChain_nil) h.strings hnone
  rwa [List.append_nil, h.splits.textOf_eq] at hopen

theorem exists_opening (h : Remains text words (sentence :: sentences)) :
    ∃ opening ending others, words = opening ++ ending :: others ∧ EndsLine ending ∧
      opening.filterMap Word.token? = tokensOf sentence.yield ∧
      others.filterMap Word.token? = tokensOf (yieldAll sentences) ∧
      ∀ front word back, opening = front ++ word :: back → EndsLine word →
        (front.filterMap Word.token?).getLast? ≠ some .semicolon := by
  obtain ⟨before, semicolon, after, rfl, hbefore, hsemicolon, hafter⟩ := exists_first h.tokens
  have hlast : text.getLast? = some '\n' := by
    refine h.ends.resolve_left ?_
    rintro rfl
    exact absurd (h.splits.unique .nil) (by simp)
  obtain ⟨gap, ending, others, rfl, hgap, hending⟩ :=
    exists_line_end h.splits hsemicolon h.separate hlast
  have hnone : gap.filterMap Word.token? = [] :=
    List.filterMap_eq_nil_iff.mpr fun word hword => (hgap word hword).1
  have hblank : ending.token? = none := by simp [Word.token?, Word.piece, hending.1, piece]
  refine ⟨before ++ semicolon :: gap, ending, others, by simp, hending, ?_, ?_, ?_⟩
  · simp [hbefore, hsemicolon, hnone, Sentence.yield, Terminal.spelled]
  · simpa [hnone, hblank] using hafter
  · exact not_semicolon_before hbefore hsemicolon fun word hword => (hgap word hword).2

theorem exists_piece (h : Remains text words (sentence :: sentences))
    (hmeaning : ∀ token ∈ tokensOf sentence.yield, token.HasMeaning) (hproper : sentence.Proper) :
    ∃ piece rest others command, text = piece ++ '\n' :: rest ∧ Remains rest others sentences ∧
      StaysOpen language piece ∧ language.readsMore (String.ofList piece) = false ∧
      Parser.located language.parseCommand (commandSource (String.ofList piece)) = .ok command ∧
      command.map (fun _ => ()) = sentence.shape := by
  obtain ⟨opening, ending, others, rfl, hending, hopening, hothers, hbounds⟩ := h.exists_opening
  obtain ⟨line, blanks, rest, hline, hblanks, hleads, rfl, hrest⟩ := exists_line h.splits hending
  obtain ⟨hfinished, command, hparse, hshape⟩ :=
    exists_command hleads hblanks hopening hmeaning hproper
  have hunfinished := staysOpen_textOf hleads hline (hopening ▸ sentence.apart.chain)
    (fun word hword => h.strings word (List.mem_append_left _ hword)) hbounds
  have hseparated : SeparateLines (blanksOf blanks ++ others) := by
    have hall : SeparateLines (opening ++ [ending] ++ others) := by simpa using h.separate
    exact hall.of_append_right.blanks blanks
  have hremains : Remains rest (blanksOf blanks ++ others) sentences := by
    refine ⟨hrest, by simpa [filterMap_blanksOf] using hothers, hseparated, ?_, ?_⟩
    · exact StringsStayOpen.blanks blanks fun word hword => h.strings word (by simp [hword])
    · cases rest with
      | nil => exact .inl rfl
      | cons c rest =>
          have hlast := h.ends.resolve_left (by simp)
          rw [List.getLast?_append_cons, List.getLast?_cons_cons] at hlast
          exact .inr hlast
  exact ⟨_, rest, _, command, rfl, hremains, hunfinished, hfinished, hparse, hshape⟩

end Remains

/-- The shell cuts the lines of a text into its commands and parses each of them. -/
theorem exists_cuts {sentences : List (Sentence α)} {text : List Char} {words : List Word}
    (h : Remains text words sentences)
    (hmeaning : ∀ token ∈ tokensOf (yieldAll sentences), token.HasMeaning)
    (hproper : ∀ sentence ∈ sentences, sentence.Proper) :
    ∃ (pieces : List (List Char)) (commands : List (Command Place)), Cuts language text pieces ∧
      pieces.map (fun piece =>
        Parser.located language.parseCommand (commandSource (String.ofList piece))) =
          commands.map .ok ∧
      commands.map (·.map fun _ => ()) = sentences.map Sentence.shape := by
  induction sentences generalizing text words with
  | nil => exact ⟨[], [], .rest h.staysOpen, rfl, rfl⟩
  | cons sentence sentences ih =>
      rw [yieldAll_cons, tokensOf_append] at hmeaning
      obtain ⟨piece, rest, others, command, rfl, hremains, hunfinished, hfinished, hparse, hshape⟩ :=
        h.exists_piece (fun token htoken => hmeaning token (List.mem_append_left _ htoken))
          (hproper sentence List.mem_cons_self)
      obtain ⟨pieces, commands, hcuts, hparses, hshapes⟩ := ih hremains
        (fun token htoken => hmeaning token (List.mem_append_right _ htoken))
        (fun other hother => hproper other (List.mem_cons_of_mem _ hother))
      refine ⟨piece :: pieces, command :: commands, .piece hunfinished hfinished hcuts, ?_, ?_⟩
      · rw [List.map_cons, List.map_cons, hparse, hparses]
      · rw [List.map_cons, List.map_cons, hshape, hshapes]

end LanguageShell.Calculator

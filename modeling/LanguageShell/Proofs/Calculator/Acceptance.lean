import LanguageShell.Proofs.Calculator.Comment
import LanguageShell.Proofs.Calculator.Context

/-!
The texts that are accepted. An analysis of a text splits it into words, says which part each token
plays, and groups the tokens into sentences. A text has one analysis at most. It is parsed if it has
one whose literals can be read, and then the commands are those of the sentences.

The search for open comments that comes first makes no difference to this.
-/

namespace LanguageShell.Calculator

/-- A text as the sentences of which it consists. -/
structure Analysis (entry : Entry) (text : List Char) where
  words : List Word
  leaves : List (Leaf Extent)
  sentences : List (Sentence Extent)
  splits : Splits text words
  interprets : Interprets entry [] (Word.lexemes words) leaves
  derives : Derives entry sentences leaves

/-- Whether the token has a meaning: strings must be such that they stand for a text, and integers
must not have too many digits. -/
def Token.HasMeaning : Token → Prop
  | .quoted text => ∃ value, Text.unquote? text = some value
  | .number text => Pattern.digits.Matches text → text.length ≤ Fault.maxIntegerDigits
  | _ => True

namespace Analysis

variable {entry : Entry} {text : List Char}

def IsReadable (analysis : Analysis entry text) : Prop :=
  ∀ word ∈ analysis.words, ∀ token, word.token? = some token → token.HasMeaning

theorem isReadable_iff_tokens (analysis : Analysis entry text) : analysis.IsReadable ↔
    ∀ token ∈ analysis.words.filterMap Word.token?, token.HasMeaning := by
  constructor
  · intro h token hmem
    obtain ⟨word, hword, htoken⟩ := List.mem_filterMap.mp hmem
    exact h word hword token htoken
  · intro h word hword token htoken
    exact h token (List.mem_filterMap.mpr ⟨word, hword, htoken⟩)

/-- The commands of the text; it is the text of the source. -/
def commands {source : Source} (analysis : Analysis entry source.text) : List (Command Place) :=
  analysis.sentences.map fun sentence => sentence.command.map (Extent.place source)

theorem unique (first second : Analysis entry text) : first = second := by
  obtain ⟨words, leaves, sentences, hsplits, hinterprets, hderives⟩ := first
  obtain ⟨words', leaves', sentences', hsplits', hinterprets', hderives'⟩ := second
  obtain rfl := hsplits.unique hsplits'
  obtain rfl := hinterprets.unique hinterprets'
  obtain rfl := hderives.unique hderives'
  rfl

theorem map_lexeme (analysis : Analysis entry text) :
    analysis.leaves.map Leaf.lexeme = Word.lexemes analysis.words :=
  analysis.interprets.lexemes_eq

theorem filterMap_token? (analysis : Analysis entry text) :
    analysis.words.filterMap Word.token? = tokensOf (yieldAll analysis.sentences) := by
  rw [← Word.map_token_lexemesFrom 0 analysis.words, analysis.derives.2, tokensOf]
  change (Word.lexemes analysis.words).map (·.token) = _
  rw [← analysis.map_lexeme, List.map_map]
  rfl

theorem isChain (analysis : Analysis entry text) :
    (analysis.words.filterMap Word.token?).IsChain Token.MayPrecede := by
  rw [analysis.filterMap_token?]
  exact isChain_yieldAll analysis.sentences

/-- A text that can be understood leaves no comment open. -/
theorem not_hasOpenComment (analysis : Analysis entry text) : ¬HasOpenComment text :=
  Calculator.not_hasOpenComment analysis.splits analysis.isChain

theorem lexemes_eq (analysis : Analysis entry text) :
    Lexemes.ofText text = ⟨Word.lexemes analysis.words, none⟩ :=
  analysis.splits.ofTextAt 0

theorem map_place_command {source : Source} (analysis : Analysis entry source.text) :
    (analysis.sentences.map Sentence.command).map (·.map (Extent.place source)) =
      analysis.commands := by
  rw [commands, List.map_map]
  rfl

/-- Places apart, the commands are what the sentences stand for. -/
theorem map_commands {source : Source} (analysis : Analysis entry source.text) :
    analysis.commands.map (·.map fun _ => ()) = analysis.sentences.map Sentence.shape := by
  rw [commands, List.map_map]
  refine List.map_congr_left fun sentence _ => ?_
  rw [Function.comp_apply, Command.map_map, ← sentence.map_command]

end Analysis

/-! ### Analyses from tokens -/

theorem exists_leaves {terminals : List Terminal} {lexemes : List Lexeme}
    (h : terminals.map Terminal.spelled = lexemes.map (·.token)) :
    ∃ leaves : List (Leaf Extent), leaves.map (·.1) = terminals ∧
      leaves.map Leaf.lexeme = lexemes := by
  induction lexemes generalizing terminals with
  | nil => exact ⟨[], (List.map_eq_nil_iff.mp h).symm, rfl⟩
  | cons lexeme lexemes ih =>
      obtain ⟨terminal, rest, rfl, hspelled, hrest⟩ := List.map_eq_cons_iff.mp h
      obtain ⟨leaves, rfl, rfl⟩ := ih hrest
      exact ⟨(terminal, lexeme.extent) :: leaves, rfl, by simp [Leaf.lexeme, hspelled]⟩

/-- Whether a sentence begins with a keyword in disguise does not depend on its marks. -/
theorem proper_iff_terminals {α : Type} (sentence : Sentence α) :
    sentence.Proper ↔
      ∀ terminal, sentence.terminals.head? = some terminal → ¬terminal.IsDisguised := by
  rw [Sentence.Proper, Sentence.terminals, Sentence.yield, List.head?_map,
    List.head?_append_of_ne_nil _ sentence.body_ne_nil]
  simp only [Option.map_eq_some_iff, forall_exists_index, and_imp]
  exact ⟨fun h _ leaf hleaf heq => heq ▸ h leaf hleaf, fun h leaf hleaf => h _ leaf hleaf rfl⟩

/-- A text has an analysis if the tokens among its words are those of sentences. -/
theorem exists_analysis_of_tokens {α : Type} {entry : Entry} {text : List Char}
    {words : List Word} {sentences : List (Sentence α)} (hsplits : Splits text words)
    (hadmits : entry.Admits sentences)
    (htokens : words.filterMap Word.token? = tokensOf (yieldAll sentences))
    (hproper : ∀ sentence ∈ sentences, sentence.Proper) :
    ∃ analysis : Analysis entry text, analysis.words = words ∧
      analysis.sentences.map Sentence.shape = sentences.map Sentence.shape := by
  have hspelled : ((yieldAll sentences).map (·.1)).map Terminal.spelled =
      (Word.lexemes words).map (·.token) := by
    rw [List.map_map, Word.lexemes, Word.map_token_lexemesFrom, htokens]
    rfl
  obtain ⟨leaves, hterminals, hlexemes⟩ := exists_leaves hspelled
  obtain ⟨others, hyield, hshapes, hothers⟩ := exists_relabelled_all sentences hterminals
  have hderives : Derives entry others leaves := by
    refine ⟨?_, hyield⟩
    have hlength := congrArg List.length hshapes
    rw [List.length_map, List.length_map] at hlength
    rwa [Entry.Admits, hlength]
  have hothersProper : ∀ other ∈ others, other.Proper := by
    intro other hother
    have hmem : other.terminals ∈ sentences.map Sentence.terminals :=
      hothers ▸ List.mem_map_of_mem hother
    obtain ⟨sentence, hsentence, heq⟩ := List.mem_map.mp hmem
    rw [proper_iff_terminals, ← heq]
    exact (proper_iff_terminals sentence).mp (hproper sentence hsentence)
  exact ⟨⟨words, leaves, others, hsplits,
    (interprets_iff hderives).mpr ⟨hlexemes, hothersProper⟩, hderives⟩, rfl, hshapes⟩

/-! ### Literals -/

theorem matches_digits_iff {text : List Char} (h : Pattern.number.regex.Matches text) :
    Pattern.digits.Matches text ↔
      (text.any fun c => c = '.' || c = 'e' || c = 'E') = false := by
  simp only [List.any_eq_false, Bool.or_eq_true, decide_eq_true_eq, not_or]
  constructor
  · intro hdigits c hc
    have hdigit := (Regex.matches_several_char.mp hdigits).2 c hc
    refine ⟨⟨?_, ?_⟩, ?_⟩ <;> rintro rfl <;> exact absurd hdigit (by decide)
  · intro hnone
    obtain ⟨whole, places, exponent, rfl, hwhole, hplaces, hexponent⟩ :=
      Pattern.matches_number.mp h
    obtain rfl | hfraction := hplaces
    · obtain rfl | hpower := hexponent
      · rw [List.append_nil, List.append_nil]
        exact Regex.matches_several_char.mpr hwhole
      · obtain ⟨letter, sign, digits, rfl, hletter, _⟩ := Pattern.matches_power.mp hpower
        obtain ⟨⟨_, he⟩, hE⟩ := hnone letter (by simp)
        exact (hletter.elim he hE).elim
    · obtain ⟨digits, rfl, _⟩ := Pattern.matches_fraction.mp hfraction
      exact absurd rfl (hnone '.' (by simp)).1.1

theorem isReadable_iff {word : Word} {token : Token} (h : word.pattern.regex.Matches word.text)
    (htoken : word.token? = some token) : token.isReadable = true ↔ token.HasMeaning := by
  obtain ⟨pattern, text⟩ := word
  cases pattern with
  | blank | lineComment | blockComment => simp [Word.token?, Word.piece, Pattern.piece] at htoken
  | number =>
      obtain rfl := Option.some.inj htoken
      rw [Token.HasMeaning, matches_digits_iff h, Token.isReadable, Bool.or_eq_true,
        decide_eq_true_eq]
      cases text.any fun c => c = '.' || c = 'e' || c = 'E' <;> simp
  | quoted =>
      obtain rfl := Option.some.inj htoken
      exact Option.isSome_iff_exists
  | _ =>
      obtain rfl := Option.some.inj htoken
      exact iff_of_true rfl trivial

-- An escape may spell a surrogate.
example : (Token.quoted "\"\\ud800\"".toList).isReadable = true := by cbv

theorem Analysis.all_isReadable {entry : Entry} {text : List Char}
    (analysis : Analysis entry text) :
    ((Word.lexemes analysis.words).all (·.token.isReadable) = true) ↔ analysis.IsReadable := by
  have hmatches := analysis.splits.matches_of_mem
  have hall : ((Word.lexemes analysis.words).all (·.token.isReadable)) =
      (analysis.words.filterMap Word.token?).all Token.isReadable := by
    rw [← Word.map_token_lexemesFrom 0, List.all_map]
    rfl
  rw [hall, List.all_eq_true, IsReadable]
  constructor
  · intro h word hword token htoken
    exact (isReadable_iff (hmatches word hword) htoken).mp
      (h token (List.mem_filterMap.mpr ⟨word, hword, htoken⟩))
  · intro h token htoken
    obtain ⟨word, hword, htoken⟩ := List.mem_filterMap.mp htoken
    exact (isReadable_iff (hmatches word hword) htoken).mpr (h word hword token htoken)

/-! ### Parsing -/

theorem exists_analysis_iff {entry : Entry} {text : List Char} {commands : List (Command Extent)} :
    ((Lexemes.ofText text).stuck = none ∧ ∃ reading,
        Reading.run entry {} (Lexemes.ofText text).list = .ok reading ∧
          reading.finish? entry = some commands) ↔
      ∃ analysis : Analysis entry text, analysis.sentences.map Sentence.command = commands := by
  rw [Reading.run_finish_iff]
  constructor
  · rintro ⟨hstuck, sentences, leaves, hderives, hlexemes, hproper, hcommands⟩
    obtain ⟨words, hsplits⟩ := exists_splits_of_stuck hstuck
    have hinterprets := (interprets_iff hderives).mpr ⟨hlexemes, hproper⟩
    rw [Lexemes.ofText, hsplits.ofTextAt] at hinterprets
    exact ⟨⟨words, leaves, sentences, hsplits, hinterprets, hderives⟩, hcommands⟩
  · rintro ⟨analysis, hcommands⟩
    obtain ⟨hlexemes, hproper⟩ := (interprets_iff analysis.derives).mp analysis.interprets
    rw [analysis.lexemes_eq]
    exact ⟨rfl, _, _, analysis.derives, hlexemes, hproper, hcommands⟩

theorem readLexemes_eq_ok_iff {entry : Entry} {text : List Char}
    {commands : List (Command Extent)} :
    readLexemes entry (Lexemes.ofText text) = .ok commands ↔ ∃ analysis : Analysis entry text,
      analysis.IsReadable ∧ analysis.sentences.map Sentence.command = commands := by
  constructor
  · intro h
    unfold readLexemes at h
    split at h
    · cases h
    · cases h
    · rename_i reading hrun hstuck
      split at h
      · cases h
      · rename_i found hfinish
        split at h
        · rename_i hreadable
          obtain rfl := Except.ok.inj h
          obtain ⟨analysis, hcommands⟩ := exists_analysis_iff.mp ⟨hstuck, reading, hrun, hfinish⟩
          rw [analysis.lexemes_eq] at hreadable
          exact ⟨analysis, analysis.all_isReadable.mp hreadable, hcommands⟩
        · cases h
  · rintro ⟨analysis, hreadable, hcommands⟩
    obtain ⟨hstuck, reading, hrun, hfinish⟩ := exists_analysis_iff.mpr ⟨analysis, hcommands⟩
    have hall : (Lexemes.ofText text).list.all (·.token.isReadable) = true := by
      rw [analysis.lexemes_eq]
      exact analysis.all_isReadable.mpr hreadable
    simp only [readLexemes, hrun, hstuck, hfinish, hall, if_true]

/-- The search for open comments refuses no text that would be accepted without it. -/
theorem parse_eq_ok_iff_readLexemes {entry : Entry} {source : Source}
    {commands : List (Command Place)} :
    parse entry source = .ok commands ↔ (readLexemes entry (Lexemes.ofText source.text)).map
      (·.map (·.map (Extent.place source))) = .ok commands := by
  cases hread : readLexemes entry (Lexemes.ofText source.text) with
  | error failure =>
      rw [parse, hread]
      split <;> simp [Except.map]
  | ok found =>
      obtain ⟨analysis, _⟩ := readLexemes_eq_ok_iff.mp hread
      rw [parse, if_neg analysis.not_hasOpenComment, hread]

theorem parse_eq_ok_iff {entry : Entry} {source : Source} {commands : List (Command Place)} :
    parse entry source = .ok commands ↔ ∃ analysis : Analysis entry source.text,
      analysis.IsReadable ∧ analysis.commands = commands := by
  rw [parse_eq_ok_iff_readLexemes]
  constructor
  · intro h
    cases hread : readLexemes entry (Lexemes.ofText source.text) with
    | error failure =>
        rw [hread] at h
        cases h
    | ok found =>
        rw [hread] at h
        obtain ⟨analysis, hreadable, rfl⟩ := readLexemes_eq_ok_iff.mp hread
        exact ⟨analysis, hreadable, analysis.map_place_command.symm.trans (Except.ok.inj h)⟩
  · rintro ⟨analysis, hreadable, rfl⟩
    rw [readLexemes_eq_ok_iff.mpr ⟨analysis, hreadable, rfl⟩, ← analysis.map_place_command]
    rfl

theorem parseFile_eq_ok_iff {source : Source} {commands : List (Command Place)} :
    parseFile source = .ok commands ↔ ∃ analysis : Analysis .file source.text,
      analysis.IsReadable ∧ analysis.commands = commands :=
  parse_eq_ok_iff

theorem parseSingle_eq_ok_iff {source : Source} {command : Command Place} :
    parseSingle source = .ok command ↔ ∃ analysis : Analysis .single source.text,
      analysis.IsReadable ∧ analysis.commands = [command] := by
  rw [← parse_eq_ok_iff, parseSingle]
  constructor
  · intro h
    split at h
    · rename_i found hparse
      rw [hparse, Except.ok.inj h]
    · cases h
    · cases h
  · intro h
    rw [h]

theorem exists_parse (entry : Entry) {source : Source} {words : List Word} (sentence : Sentence α)
    (hsplits : Splits source.text words)
    (htokens : words.filterMap Word.token? = tokensOf sentence.yield)
    (hmeaning : ∀ token ∈ tokensOf sentence.yield, token.HasMeaning) (hproper : sentence.Proper) :
    ∃ command, parse entry source = .ok [command] ∧
      command.map (fun _ => ()) = sentence.shape := by
  have hall : words.filterMap Word.token? = tokensOf (yieldAll [sentence]) := by simp [htokens]
  have hadmits : entry.Admits [sentence] := .inr rfl
  obtain ⟨analysis, rfl, hshapes⟩ := exists_analysis_of_tokens hsplits hadmits hall
    (by simpa using hproper)
  have hmap := analysis.map_commands
  rw [hshapes, List.map_singleton] at hmap
  obtain ⟨command, hcommand, hshape⟩ := List.map_eq_singleton_iff.mp hmap
  have hreadable : analysis.IsReadable := by
    rwa [analysis.isReadable_iff_tokens, htokens]
  exact ⟨command, parse_eq_ok_iff.mpr ⟨analysis, hreadable, hcommand⟩, hshape⟩

theorem exists_parseSingle {source : Source} {words : List Word} (sentence : Sentence α)
    (hsplits : Splits source.text words)
    (htokens : words.filterMap Word.token? = tokensOf sentence.yield)
    (hmeaning : ∀ token ∈ tokensOf sentence.yield, token.HasMeaning) (hproper : sentence.Proper) :
    ∃ command, parseSingle source = .ok command ∧ command.map (fun _ => ()) = sentence.shape := by
  obtain ⟨command, hparse, hshape⟩ :=
    exists_parse .single sentence hsplits htokens hmeaning hproper
  exact ⟨command, parseSingle_eq_ok_iff.mpr (parse_eq_ok_iff.mp hparse), hshape⟩

/-- The parser accepts exactly the texts of its grammar, from both start symbols. An accepted text
has one analysis, of which the commands are the trees; and that no comment is open, which is looked
up first, follows from the analysis. -/
theorem parser_accepts_exactly_grammar (source : Source) :
    (∀ commands, parseFile source = .ok commands ↔
      ∃ analysis : Analysis .file source.text, analysis.IsReadable ∧
        analysis.commands = commands) ∧
    (∀ command, parseSingle source = .ok command ↔
      ∃ analysis : Analysis .single source.text, analysis.IsReadable ∧
        analysis.commands = [command]) ∧
    (∀ entry (first second : Analysis entry source.text), first = second) ∧
    (∀ entry (analysis : Analysis entry source.text),
      analysis.commands.map (·.map fun _ => ()) = analysis.sentences.map Sentence.shape ∧
        ¬HasOpenComment source.text) ∧
    (∀ entry commands, parse entry source = .ok commands ↔
      (readLexemes entry (Lexemes.ofText source.text)).map
        (·.map (·.map (Extent.place source))) = .ok commands) := by
  refine ⟨fun _ => parseFile_eq_ok_iff, fun _ => parseSingle_eq_ok_iff,
    fun _ => Analysis.unique, fun _ analysis => ?_, fun _ _ => parse_eq_ok_iff_readLexemes⟩
  exact ⟨analysis.map_commands, analysis.not_hasOpenComment⟩

end LanguageShell.Calculator

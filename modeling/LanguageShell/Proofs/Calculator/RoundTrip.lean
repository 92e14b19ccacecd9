import LanguageShell.Calculator.Compare
import LanguageShell.Proofs.Calculator.Acceptance
import LanguageShell.Proofs.Calculator.Elision
import LanguageShell.Proofs.Calculator.PrintedPhrase

/-!
Printing and parsing. An expression that the parser gives can be printed, and what is printed is
parsed as the same expression, unless it is so high that a part of it is left out; then the text is
not parsed at all. As a command of its own the text of an expression may begin with a keyword, which
takes it for something else.
-/

namespace LanguageShell.Calculator

namespace Term

variable {φ α β : Type}

inductive Within (part : Term φ α) : Term φ α → Prop where
  | self : Within part part
  | neg {operand : Term φ α} {note : α} : Within part operand → Within part (.neg operand note)
  | left {op : Operator} {left right : Term φ α} {note : α} :
      Within part left → Within part (.bin op left right note)
  | right {op : Operator} {left right : Term φ α} {note : α} :
      Within part right → Within part (.bin op left right note)

def IsIntegral (e : Term φ α) : Prop :=
  e.All (fun value => ∃ n, value = .int n) fun _ => True

/-- What the literals and names of parsed expressions are like: integers can be written. -/
def IsLegible (e : Term φ α) : Prop :=
  e.All (fun value => ∀ n, value = .int n → ∃ m : Nat, n = m ∧ Integer.Writable m)
    fun name => Pattern.name.regex.Matches name.toList

theorem All.within {literal : Value → Prop} {name : String → Prop} {part e : Term φ α}
    (h : e.All literal name) (hpart : Within part e) : part.All literal name := by
  induction hpart with
  | self => exact h
  | neg _ ih => exact ih h
  | left _ ih => exact ih h.1
  | right _ ih => exact ih h.2

theorem all_map {literal : Value → Prop} {name : String → Prop} (f : α → β) (e : Term φ α) :
    (e.map f).All literal name ↔ e.All literal name := by
  induction e with
  | num | var | foreign => rfl
  | neg _ _ ih => exact ih
  | bin _ _ _ _ ihl ihr => exact and_congr ihl ihr

theorem IsLegible.isWritable {e : Term φ α} (h : e.IsLegible) (hintegral : e.IsIntegral) :
    e.IsWritable := by
  induction e with
  | foreign => exact h.elim
  | num value _ =>
      obtain ⟨n, rfl⟩ := hintegral
      obtain ⟨m, rfl, hm⟩ := h n rfl
      exact ⟨m, rfl, hm⟩
  | var => exact h
  | neg _ _ ih => exact ih h hintegral
  | bin _ _ _ _ ihl ihr => exact ⟨ihl h.1 hintegral.1, ihr h.2 hintegral.2⟩

end Term

/-- Whether the parser gives the expression, as that of a command or as a part of it. -/
def Produced (e : Expr) : Prop :=
  ∃ entry source commands command expr, parse entry source = .ok commands ∧ command ∈ commands ∧
    command.expr? = some expr ∧ Term.Within e expr

/-! ### What the parser gives -/

def Token.IsGenuine (token : Token) : Prop :=
  token.HasMeaning ∧
    ∃ word : Word, word.pattern.regex.Matches word.text ∧ word.token? = some token

theorem Token.IsGenuine.name {text : List Char} (h : (Token.name text).IsGenuine) :
    Pattern.name.regex.Matches text := by
  obtain ⟨_, ⟨pattern, chars⟩, hmatches, htoken⟩ := h
  cases pattern <;> simp [Word.token?, Word.piece, Pattern.piece] at htoken
  exact htoken ▸ hmatches

theorem Token.IsGenuine.number {text : List Char} (h : (Token.number text).IsGenuine) :
    Pattern.number.regex.Matches text ∧
      (Pattern.digits.Matches text → text.length ≤ Fault.maxIntegerDigits) := by
  obtain ⟨hmeaning, ⟨pattern, chars⟩, hmatches, htoken⟩ := h
  cases pattern <;> simp [Word.token?, Word.piece, Pattern.piece] at htoken
  exact ⟨htoken ▸ hmatches, hmeaning⟩

theorem writable_of_lt {n places : Nat} (h : n < 10 ^ places)
    (hplaces : places ≤ Fault.maxIntegerDigits) : Integer.Writable n := by
  have hlt : ∀ limit, places ≤ limit → n < Nat.pow 10 limit := fun _ hlimit =>
    Nat.lt_of_lt_of_le h (Nat.pow_le_pow_right (Nat.succ_pos 9) hlimit)
  exact hlt _ hplaces

theorem Token.IsGenuine.writable {text : List Char} (h : (Token.number text).IsGenuine) {n : Int}
    (hn : Token.literal text = .int n) : ∃ m : Nat, n = m ∧ Integer.Writable m := by
  obtain ⟨hmatches, hdigits⟩ := h.number
  rw [matches_digits_iff hmatches] at hdigits
  unfold Token.literal at hn
  split at hn
  · split at hn <;> cases hn
  · rename_i hany
    have hwritable := writable_of_lt (Text.naturalOfDigits_lt text) (hdigits (by simpa using hany))
    exact ⟨Text.naturalOfDigits text, (Value.int.inj hn).symm, hwritable⟩

theorem Phrase.all_shape {α : Type} {literal : Value → Prop} {name : String → Prop}
    (hliteral : ∀ text, (Token.number text).IsGenuine → literal (Token.literal text))
    (hname : ∀ text, (Token.name text).IsGenuine → name (String.ofList text)) {layer : Layer}
    (phrase : Phrase α layer) (h : ∀ token ∈ tokensOf phrase.yield, token.IsGenuine) :
    phrase.shape.All literal name := by
  induction phrase with
  | number text _ => exact hliteral text (h _ List.mem_cons_self)
  | name text _ => exact hname text (h _ List.mem_cons_self)
  | parens _ _ _ ih => exact ih fun token hmem => h token (by simp [yield, hmem])
  | ofAtom _ ih | ofUnary _ ih | ofProduct _ ih => exact ih h
  | neg _ _ ih => exact ih fun token hmem => h token (by simp [yield, hmem])
  | product _ _ _ _ ihl ihr | sum _ _ _ _ ihl ihr =>
      exact ⟨ihl fun token hmem => h token (by simp [yield, hmem]),
        ihr fun token hmem => h token (by simp [yield, hmem])⟩

theorem Analysis.isGenuine {entry : Entry} {text : List Char} (analysis : Analysis entry text)
    (hreadable : analysis.IsReadable) :
    ∀ token ∈ tokensOf (yieldAll analysis.sentences), token.IsGenuine := by
  intro token hmem
  rw [← analysis.filterMap_token?, List.mem_filterMap] at hmem
  obtain ⟨word, hword, htoken⟩ := hmem
  exact ⟨hreadable word hword token htoken, word, analysis.splits.matches_of_mem word hword, htoken⟩

namespace Sentence

variable {α : Type}

def phrase? : Sentence α → Option (Phrase α .sum)
  | define _ _ _ expr _ | eval expr _ | display _ expr _ => some expr
  | load .. | listing .. | help .. => none

theorem expr?_shape (sentence : Sentence α) :
    sentence.shape.expr? = sentence.phrase?.map Phrase.shape := by
  cases sentence <;> rfl

theorem expr?_command (sentence : Sentence Extent) :
    sentence.command.expr? = sentence.phrase?.map (·.operand.tree) := by
  cases sentence <;> rfl

theorem exists_yield {sentence : Sentence α} {phrase : Phrase α .sum}
    (h : sentence.phrase? = some phrase) :
    ∃ front back, sentence.yield = front ++ (phrase.yield ++ back) := by
  cases sentence with
  | define name mark assign expr stop =>
      obtain rfl := Option.some.inj h
      exact ⟨[_, _], [_], rfl⟩
  | eval expr stop =>
      obtain rfl := Option.some.inj h
      exact ⟨[], [_], rfl⟩
  | display keyword expr stop =>
      obtain rfl := Option.some.inj h
      exact ⟨[_], [_], rfl⟩
  | load | listing | help => cases h

end Sentence

theorem Command.expr?_map {α β : Type} (f : α → β) (command : Command α) :
    (command.map f).expr? = command.expr?.map (·.map f) := by
  cases command <;> rfl

/-- The expression of a command is that of a phrase, whose tokens are a stretch of those of the
text. -/
theorem Analysis.exists_phrase {entry : Entry} {source : Source}
    (analysis : Analysis entry source.text) {command : Command Place}
    (hcommand : command ∈ analysis.commands) {e : Expr} (he : command.expr? = some e) :
    ∃ phrase : Phrase Extent .sum, phrase.shape = e.map (fun _ => ()) ∧
      tokensOf phrase.yield <:+: tokensOf (yieldAll analysis.sentences) := by
  have hshape : command.map (fun _ => ()) ∈ analysis.sentences.map Sentence.shape :=
    analysis.map_commands ▸ List.mem_map_of_mem hcommand
  obtain ⟨sentence, hsentence, hsame⟩ := List.mem_map.mp hshape
  have hunmarked : sentence.shape.expr? = some (e.map fun _ => ()) := by
    rw [hsame, Command.expr?_map, he]
    rfl
  rw [Sentence.expr?_shape, Option.map_eq_some_iff] at hunmarked
  obtain ⟨phrase, hphrase?, hphrase⟩ := hunmarked
  obtain ⟨front, back, hyield⟩ := Sentence.exists_yield hphrase?
  obtain ⟨before, after, hsentences⟩ := List.append_of_mem hsentence
  refine ⟨phrase, hphrase, List.IsInfix.map _ ⟨yieldAll before ++ front, back ++ yieldAll after, ?_⟩⟩
  simp [hsentences, hyield]

theorem Produced.all {literal : Value → Prop} {name : String → Prop}
    (hliteral : ∀ text, (Token.number text).IsGenuine → literal (Token.literal text))
    (hname : ∀ text, (Token.name text).IsGenuine → name (String.ofList text)) {e : Expr}
    (h : Produced e) : e.All literal name := by
  obtain ⟨entry, source, commands, command, expr, hparse, hcommand, hexpr, hwithin⟩ := h
  refine Term.All.within ?_ hwithin
  obtain ⟨analysis, hreadable, rfl⟩ := parse_eq_ok_iff.mp hparse
  obtain ⟨phrase, hphrase, htokens⟩ := analysis.exists_phrase hcommand hexpr
  refine (Term.all_map (fun _ => ()) expr).mp ?_
  rw [← hphrase]
  refine phrase.all_shape hliteral hname fun token hmem => ?_
  exact analysis.isGenuine hreadable token (htokens.subset hmem)

theorem Produced.isLegible {e : Expr} (h : Produced e) : e.IsLegible := by
  apply h.all
  · exact fun text htext n hn => htext.writable hn
  · intro text htext
    rw [String.toList_ofList]
    exact htext.name

/-! ### What the parser makes of printed expressions -/

theorem Lexes.splits {text : List Char} {tokens : List Token} (h : Lexes text tokens) :
    ∃ words, Splits text words ∧ words.filterMap Word.token? = tokens := by
  obtain ⟨_, words, rfl, rfl, hleads⟩ := h
  have hsplits := (hleads [] (by simp [IsBoundary])).splits .nil
  rw [List.append_nil, List.append_nil] at hsplits
  exact ⟨words, hsplits, rfl⟩

theorem splits_semicolon : Splits [';'] [⟨.semicolon, [';']⟩] :=
  .prepend (Pattern.wins_single [] rfl (by decide)) .nil

/-- Whether the text splits into words with the given tokens, all of which have a meaning, when a
semicolon follows. -/
def Closes (text : List Char) (tokens : List Token) : Prop :=
  (∀ token ∈ tokens, token.HasMeaning) ∧
    ∃ words, Splits (text ++ [';']) words ∧
      words.filterMap Word.token? = tokens ++ [.semicolon]

theorem closes_of_leads {words : List Word} (h : Leads words [';'])
    (hmeaning : ∀ token ∈ words.filterMap Word.token?, token.HasMeaning) :
    Closes (textOf words) (words.filterMap Word.token?) := by
  refine ⟨hmeaning, _, h.splits splits_semicolon, ?_⟩
  rw [List.filterMap_append]
  rfl

theorem Lexes.closes {text : List Char} {tokens : List Token} (h : Lexes text tokens) :
    Closes text tokens := by
  obtain ⟨hmeaning, words, rfl, rfl, hleads⟩ := h
  exact closes_of_leads (hleads [';'] (by simp [IsBoundary])) hmeaning

theorem Splits.shown {text : List Char} {words : List Word} (h : Splits text words)
    (hinitial : ∃ c rest, text = c :: rest ∧ IsInitial c) :
    ∃ others, Splits (Keyword.display.spelling ++ ' ' :: text) others ∧
      others.filterMap Word.token? =
        .name Keyword.display.spelling :: words.filterMap Word.token? := by
  obtain ⟨c, rest, rfl, _, hblank⟩ := hinitial
  have hspace : Pattern.blank.Wins [' '] (c :: rest) := by
    refine Pattern.wins_space fun d hd => ?_
    rwa [← Option.some.inj hd]
  have hname : Pattern.name.Wins Keyword.display.spelling (' ' :: c :: rest) := by
    refine Pattern.wins_name ?_ ?_
    · exact Regex.matches_headed.mpr ⟨'s', ['h', 'o', 'w'], rfl, rfl, List.all_eq_true.mp rfl⟩
    · intro d hd
      rw [← Option.some.inj hd]
      decide
  exact ⟨⟨.name, Keyword.display.spelling⟩ :: ⟨.blank, [' ']⟩ :: words,
    .prepend hname (.prepend hspace h), rfl⟩

theorem Phrase.exists_token {α : Type} {layer : Layer} (phrase : Phrase α layer) :
    ∀ leaf ∈ phrase.yield, ∃ token, leaf.1 = .token token := by
  induction phrase with
  | number | name => simp [yield]
  | parens _ inner _ ih =>
      intro leaf hleaf
      simp only [yield, List.cons_append, List.mem_cons, List.mem_append, List.not_mem_nil,
        or_false] at hleaf
      obtain rfl | hleaf | rfl := hleaf
      · exact ⟨_, rfl⟩
      · exact ih leaf hleaf
      · exact ⟨_, rfl⟩
  | neg _ _ ih => simpa [yield] using ih
  | ofAtom _ ih | ofUnary _ ih | ofProduct _ ih => exact ih
  | product _ _ _ _ ihl ihr | sum _ _ _ _ ihl ihr =>
      intro leaf hleaf
      simp only [yield, List.mem_append, List.mem_cons] at hleaf
      obtain hleaf | rfl | hleaf := hleaf
      · exact ihl leaf hleaf
      · exact ⟨_, rfl⟩
      · exact ihr leaf hleaf

theorem proper_eval_iff {α : Type} (expr : Phrase α .sum) (stop : α) :
    (Sentence.eval expr stop).Proper ↔
      ∀ k : Keyword, (tokensOf expr.yield).head? ≠ some (.name k.spelling) := by
  obtain ⟨leaf, rest, hyield⟩ := List.exists_cons_of_ne_nil expr.yield_ne_nil
  obtain ⟨token, htoken⟩ := expr.exists_token leaf (by simp [hyield])
  simp only [Sentence.Proper, Sentence.body, hyield, List.head?_cons, Option.some.injEq,
    forall_eq', tokensOf_cons, htoken, Terminal.IsDisguised, Terminal.token.injEq, not_exists,
    Terminal.spelled, ne_eq]

/-- Whether the first token of a text is a name that spells a keyword. -/
def BeginsWithKeyword (text : List Char) : Prop :=
  ∃ k : Keyword, (Lexemes.ofText text).list.head?.map (·.token) = some (.name k.spelling)

theorem Lexes.beginsWithKeyword_iff {text : List Char} {tokens : List Token}
    (h : Lexes text tokens) :
    BeginsWithKeyword text ↔ ∃ k : Keyword, tokens.head? = some (.name k.spelling) := by
  obtain ⟨words, hsplits, rfl⟩ := h.splits
  rw [BeginsWithKeyword, Lexemes.ofText, hsplits.ofTextAt]
  simp only [← List.head?_map, Word.map_token_lexemesFrom]

namespace Term

variable {α : Type}

theorem printed_topLevel {room : Nat} (e : Term Empty α) :
    e.printed room Renderer.topLevel = e.printed room Layer.sum.level := by
  cases room with
  | zero => cases e <;> rfl
  | succ room =>
      cases e with
      | num | var | neg => rfl
      | bin op => cases op <;> rfl
      | foreign allowed => exact allowed.elim

/-- An expression that is not too high is printed as a sum of the grammar. -/
theorem exists_phrase_of_height {e : Term Empty α} (h : e.IsWritable) (hheight : e.height ≤ 42) :
    ∃ phrase : Phrase Unit .sum, phrase.shape = e.map (fun _ => ()) ∧
      Lexes (e.printed 42 Renderer.topLevel) (tokensOf phrase.yield) := by
  rw [printed_topLevel]
  exact exists_phrase_printed h hheight (by decide)

end Term

theorem exists_parse_shown {α : Type} (entry : Entry) {text : List Char} (mark : α)
    {phrase : Phrase α .sum} (h : Closes text (tokensOf phrase.yield))
    (hinitial : ∃ c rest, text = c :: rest ∧ IsInitial c) {source : Source}
    (hsource : source.text = Keyword.display.spelling ++ ' ' :: (text ++ [';'])) :
    ∃ command, parse entry source = .ok [command] ∧
      command.map (fun _ => ()) = .display phrase.shape () := by
  obtain ⟨hmeaning, words, hwords, htokens⟩ := h
  obtain ⟨c, rest, rfl, hc⟩ := hinitial
  obtain ⟨others, hothers, hall⟩ := hwords.shown ⟨c, _, List.cons_append, hc⟩
  rw [← hsource] at hothers
  refine exists_parse entry (.display mark phrase mark) hothers ?_ ?_ ?_
  · simp [hall, htokens, Sentence.yield, Sentence.body, Terminal.spelled]
  · intro token hmem
    simp only [Sentence.yield, Sentence.body, tokensOf_append, tokensOf_cons, List.cons_append,
      List.mem_cons, List.mem_append, tokensOf_nil, List.not_mem_nil, or_false] at hmem
    obtain rfl | hmem | rfl := hmem
    · trivial
    · exact hmeaning token hmem
    · trivial
  · intro leaf hleaf
    obtain rfl := Option.some.inj hleaf
    simp [Terminal.IsDisguised]

theorem parseSingle_shown {text : List Char} {phrase : Phrase Unit .sum}
    (h : Lexes text (tokensOf phrase.yield))
    (hinitial : ∃ c rest, text = c :: rest ∧ IsInitial c) {source : Source}
    (hsource : source.text = Keyword.display.spelling ++ ' ' :: (text ++ [';'])) :
    ∃ command, parseSingle source = .ok command ∧
      command.map (fun _ => ()) = .display phrase.shape () := by
  obtain ⟨command, hparse, hshape⟩ := exists_parse_shown .single () h.closes hinitial hsource
  exact ⟨command, parseSingle_eq_ok_iff.mpr (parse_eq_ok_iff.mp hparse), hshape⟩

theorem parseSingle_eval_iff {text : List Char} {phrase : Phrase Unit .sum}
    (h : Lexes text (tokensOf phrase.yield)) {source : Source}
    (hsource : source.text = text ++ [';']) :
    (∃ command, parseSingle source = .ok command ∧
      command.map (fun _ => ()) = .eval phrase.shape ()) ↔ ¬BeginsWithKeyword text := by
  obtain ⟨hmeaning, words, hwords, htokens⟩ := h.closes
  rw [← hsource] at hwords
  rw [h.beginsWithKeyword_iff, not_exists]
  constructor
  · rintro ⟨command, hparse, hshape⟩ k
    obtain ⟨analysis, _, hcommands⟩ := parseSingle_eq_ok_iff.mp hparse
    have hmap := analysis.map_commands
    rw [hcommands, List.map_singleton, hshape] at hmap
    obtain ⟨sentence, hsentence, hsame⟩ := List.map_eq_singleton_iff.mp hmap.symm
    cases sentence with
    | eval expr stop =>
        have hproper := ((interprets_iff analysis.derives).mp analysis.interprets).2
          (.eval expr stop) (by simp [hsentence])
        have htext := analysis.filterMap_token?
        rw [analysis.splits.unique hwords, htokens, hsentence] at htext
        have hyield : tokensOf phrase.yield = tokensOf expr.yield := by
          simpa [Sentence.yield, Sentence.body, Terminal.spelled] using htext
        rw [hyield]
        exact (proper_eval_iff expr stop).mp hproper k
    | _ => cases hsame
  · intro hfirst
    refine exists_parseSingle (.eval phrase ()) hwords ?_ ?_
      ((proper_eval_iff phrase ()).mpr hfirst)
    · simp [htokens, Sentence.yield, Sentence.body, Terminal.spelled]
    · intro token hmem
      simp only [Sentence.yield, Sentence.body, tokensOf_append, tokensOf_cons, List.mem_append,
        tokensOf_nil, List.mem_singleton] at hmem
      obtain hmem | rfl := hmem
      · exact hmeaning token hmem
      · trivial

/-! ### Texts with something left out -/

theorem parseSingle_ne_ok {source : Source} (h : ∀ words, ¬Splits source.text words)
    (command : Command Place) : parseSingle source ≠ .ok command := by
  intro hparse
  obtain ⟨analysis, _⟩ := parseSingle_eq_ok_iff.mp hparse
  exact h _ analysis.splits

theorem IsInert.closed {text : List Char} (h : IsInert text) : IsInert (text ++ [';']) :=
  h.append (isInert_of_forall (by simp)) (by decide)

theorem IsInert.shown {text : List Char} (h : IsInert text)
    (hinitial : ∃ c rest, text = c :: rest ∧ IsInitial c) :
    IsInert (Keyword.display.spelling ++ ' ' :: text) := by
  obtain ⟨c, rest, rfl, _⟩ := hinitial
  have hspelling : IsInert Keyword.display.spelling :=
    isInert_of_forall (by simp [Keyword.spelling])
  exact hspelling.append (h.cons (by decide) (by decide) ⟨by simp, by simp⟩) (by decide)

theorem produced_of_parseSingle (source : Source) {command : Command Place} {e : Expr}
    (h : parseSingle source = .ok command) (hexpr : command.expr? = some e) : Produced e := by
  obtain ⟨analysis, hreadable, hcommands⟩ := parseSingle_eq_ok_iff.mp h
  exact ⟨.single, source, [command], command, e,
    parse_eq_ok_iff.mpr ⟨analysis, hreadable, hcommands⟩, List.mem_singleton_self _, hexpr, .self⟩

/-- What the parser makes of the text of an expression. The text of an expression that is not too
high is the expression again, after `show` in any case and else if it does not begin with a
keyword; and the text of one that is too high has something left out and is no command. -/
theorem printed_expression_parses_back {e : Expr} (hproduced : Produced e)
    (hintegral : e.IsIntegral) (filename : String) :
    ∃ text, e.toText = .ok text ∧
      (e.height ≤ 42 →
        (∃ command, parseSingle (.ofString ("show " ++ text ++ ";") filename) = .ok command ∧
          command.map (fun _ => ()) = .display (e.map fun _ => ()) ()) ∧
        ((∃ command, parseSingle (.ofString (text ++ ";") filename) = .ok command ∧
          command.map (fun _ => ()) = .eval (e.map fun _ => ()) ()) ↔
            ¬BeginsWithKeyword text.toList)) ∧
      (42 < e.height → Term.ellipsis <:+: text.toList ∧ ∀ command,
        parseSingle (.ofString ("show " ++ text ++ ";") filename) ≠ .ok command ∧
          parseSingle (.ofString (text ++ ";") filename) ≠ .ok command) := by
  have hwritable : e.IsWritable := hproduced.isLegible.isWritable hintegral
  have hinitial := Term.exists_initial_printed hwritable.hasInitials 42 Renderer.topLevel
  refine ⟨_, Term.toText_eq hwritable, ?_, ?_⟩
  · intro hheight
    obtain ⟨phrase, hphrase, htext⟩ := Term.exists_phrase_of_height hwritable hheight
    rw [← hphrase, String.toList_ofList]
    exact ⟨parseSingle_shown htext hinitial (by simp [Source.ofString, Keyword.spelling]),
      parseSingle_eval_iff htext (by simp [Source.ofString])⟩
  · intro hheight
    have hpart := Term.ellipsis_infix_printed hheight Renderer.topLevel
    have hpoint : '.' ∈ e.printed 42 Renderer.topLevel := hpart.subset (by decide)
    have hinert := Term.isInert_printed hwritable 42 Renderer.topLevel
    rw [String.toList_ofList]
    refine ⟨hpart, fun command => ⟨parseSingle_ne_ok ?_ command, parseSingle_ne_ok ?_ command⟩⟩
    · have hshown := not_splits_of_isInert (hinert.shown hinitial).closed (by simp [hpoint])
      simpa [Source.ofString, Keyword.spelling] using hshown
    · have halone := not_splits_of_isInert hinert.closed (by simp [hpoint])
      simpa [Source.ofString] using halone

set_option maxRecDepth 1000 in
/-- A difference whose right operand is another one keeps its parentheses, and of many minus signs
some are left out. -/
theorem printed_difference_parses_back :
    (∃ e : Expr, Produced e ∧ e.IsIntegral ∧ e.height ≤ 42 ∧ e.toText = .ok "-x - (1 - y)" ∧
      (∃ command, parseSingle (.ofString "show -x - (1 - y);") = .ok command ∧
        command.map (fun _ => ()) = .display (e.map fun _ => ()) ()) ∧
      ∃ command, parseSingle (.ofString "-x - (1 - y);") = .ok command ∧
        command.map (fun _ => ()) = .eval (e.map fun _ => ()) ()) ∧
    ∃ e : Expr, Produced e ∧ e.IsIntegral ∧ 42 < e.height ∧ ∃ text, e.toText = .ok text ∧
      ∀ command, parseSingle (.ofString (text ++ ";")) ≠ .ok command := by
  constructor
  · have hone : Term.literalText (.int (Int.ofNat 1)) = ['1'] :=
      Term.literalText_int (writable_of_lt (by decide : 1 < 10 ^ 1) (by decide))
    obtain ⟨e, hproduced, hintegral, hheight, hprinted⟩ : ∃ e : Expr, Produced e ∧
        e.IsIntegral ∧ e.height ≤ 42 ∧ e.printed 42 Renderer.topLevel = "-x - (1 - y)".toList := by
      refine ⟨_, produced_of_parseSingle (.ofString "show -x - (1 - y);") (by cbv) rfl, ?_, ?_, ?_⟩
      · simp [Term.IsIntegral, Term.All]
      · exact Nat.le_of_ble_eq_true rfl
      · unfold Term.printed Term.printed Term.printed
        rw [hone]
        rfl
    have htext : e.toText = .ok "-x - (1 - y)" := by
      rw [Term.toText_eq (hproduced.isLegible.isWritable hintegral), hprinted,
        String.ofList_toList]
    obtain ⟨text, hsame, hlow, _⟩ := printed_expression_parses_back hproduced hintegral ""
    obtain rfl := Except.ok.inj (htext.symm.trans hsame)
    obtain ⟨hshown, halone⟩ := hlow hheight
    refine ⟨e, hproduced, hintegral, hheight, htext, hshown, halone.mpr ?_⟩
    rintro ⟨k, hk⟩
    have hfirst : (Lexemes.ofText "-x - (1 - y)".toList).list.head?.map (·.token) =
        some .minus := by
      cbv
    rw [hfirst] at hk
    cases hk
  · obtain ⟨e, hproduced, hintegral, hheight⟩ :
        ∃ e : Expr, Produced e ∧ e.IsIntegral ∧ 42 < e.height := by
      refine ⟨_, produced_of_parseSingle
        (.ofString "-------------------------------------------x;") (by cbv) rfl, ?_, ?_⟩
      · simp [Term.IsIntegral, Term.All]
      · exact Nat.le_of_ble_eq_true rfl
    obtain ⟨text, htext, _, hhigh⟩ := printed_expression_parses_back hproduced hintegral ""
    exact ⟨e, hproduced, hintegral, hheight, text, htext, fun command =>
      ((hhigh hheight).2 command).2⟩

end LanguageShell.Calculator

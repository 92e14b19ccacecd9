import LanguageShell.Proofs.Calculator.Cut
import LanguageShell.Proofs.Calculator.Extents
import LanguageShell.Proofs.Calculator.Verdict

/-!
Spans of commands and expressions in a text that is parsed. The text at the span of an expression
begins and ends with a token, so that it splits into words as it does within the whole text, also if
`show` comes before it and a semicolon after it; therefore it is parsed as that expression again.
-/

namespace LanguageShell.Calculator

/-! ### Words before a semicolon -/

namespace Pattern

open Regex

/-- Of the words that end with a semicolon all but the semicolon itself are line comments. -/
theorem eq_of_semicolon {pattern : Pattern} {front : List Char}
    (h : pattern.regex.Matches (front ++ [';'])) : pattern = .lineComment ∨ front = [] := by
  cases pattern with
  | lineComment => exact .inl rfl
  | blank =>
      have hblank := (matches_several_char.mp h).2 ';' (by simp)
      exact absurd hblank (by decide)
  | blockComment | quoted =>
      obtain ⟨opening, rest, _, ⟨inner, closing, _, hclosing, rfl⟩, hword⟩ := h
      obtain rfl := matches_literal.mp hclosing
      have hlast := congrArg List.getLast? hword
      simp at hlast
  | name => exact absurd (isNamePart_of_mem_name h ';' (by simp)) (by decide)
  | number =>
      obtain hdigit | hsign := isDigit_or_of_mem_number h ';' (by simp)
      · exact absurd hdigit (by decide)
      · exact absurd hsign (by simp [IsNumberSign])
  | assign =>
      have hlast := congrArg List.getLast? (matches_literal.mp h)
      simp at hlast
  | _ =>
      have hlength := congrArg List.length (matches_literal.mp h)
      right
      simpa using hlength

/-- A word that is no line comment is taken as before if a semicolon is added to the text, and so is
a line comment before the end of its line. -/
theorem Wins.append_semicolon {pattern : Pattern} {word rest : List Char}
    (h : pattern.Wins word rest) (hrest : pattern = .lineComment → rest ≠ []) :
    pattern.Wins word (rest ++ [';']) := by
  have hne : word ++ rest ≠ [] := by simp [ne_nil_of_wins h]
  refine h.concat (fun hmatch => ?_) fun rival hrival hmatch => ?_
  · obtain rfl | hnil := eq_of_semicolon hmatch
    · -- The rest would belong to the comment even without the semicolon.
      obtain ⟨c, others, hcomment, hc, hothers⟩ := matches_headed.mp hmatch
      have hlonger : Pattern.lineComment.regex.Matches (word ++ rest) := by
        obtain ⟨d, front, hfront⟩ := List.exists_cons_of_ne_nil hne
        rw [hfront, List.cons_append] at hcomment
        obtain ⟨rfl, rfl⟩ := List.cons.inj hcomment
        exact matches_headed.mpr ⟨d, front, hfront, hc, fun e he => hothers e (by simp [he])⟩
      have hle : word.length + rest.length ≤ word.length := by
        simpa [isLazy] using h.1.2 _ List.prefix_rfl hlonger
      have hpositive := List.length_pos_of_ne_nil (hrest rfl)
      omega
    · exact hne hnil
  · obtain rfl | hnil := eq_of_semicolon hmatch
    · exact absurd hrival (Nat.not_lt_zero _)
    · exact hne hnil

end Pattern

open Pattern

theorem Leads.append_semicolon {words : List Word} {last : Word} {token : Token}
    (h : Leads (words ++ [last]) []) (htoken : last.token? = some token) :
    Leads (words ++ [last]) [';'] := by
  induction words with
  | nil =>
      refine ⟨h.1.append_semicolon ?_, trivial⟩
      intro hcomment
      simp [Word.token?, Word.piece, hcomment, piece] at htoken
  | cons word words ih =>
      obtain ⟨hword, hwords⟩ := h
      refine ⟨?_, ih hwords⟩
      have hlast : last.text ≠ [] := ne_nil_of_wins hwords.of_append.2.1
      rw [List.append_nil] at hword
      exact hword.append_semicolon fun _ => by simp [hlast]

/-- Whether words begin and end with a token. -/
structure IsTight (words : List Word) : Prop where
  first : ∃ word rest token, words = word :: rest ∧ word.token? = some token
  last : ∃ rest word token, words = rest ++ [word] ∧ word.token? = some token

theorem exists_words_of_stretch {words : List Word} {front middle back : List Lexeme}
    (h : Word.lexemes words = front ++ (middle ++ back)) {extent : Extent}
    (hcovers : extent.Covers middle) :
    ∃ before run after, words = before ++ (run ++ after) ∧ IsTight run ∧
      run.filterMap Word.token? = middle.map (·.token) ∧
      extent.start = (textOf before).length ∧
      extent.stop = (textOf before).length + (textOf run).length := by
  obtain ⟨first, rest, hfirst, hstart⟩ := hcovers.exists_first
  obtain ⟨others, last, hlast, hstop⟩ := hcovers.exists_last
  rw [hfirst, List.cons_append] at h
  obtain ⟨before, opening, suffix, rfl, hbefore, hopening, hextent⟩ :=
    exists_word_of_lexemesFrom h
  -- The tokens from the word of the first one on.
  rw [Word.lexemes, Word.lexemesFrom_append, hbefore, ← List.cons_append, ← hfirst,
    List.append_cancel_left_eq, hlast, List.append_assoc, List.singleton_append] at h
  obtain ⟨words, closing, after, hsuffix, hwords, hclosing, hextent'⟩ :=
    exists_word_of_lexemesFrom h
  refine ⟨before, words ++ [closing], after, by simp [hsuffix], ⟨?_, ?_⟩, ?_, ?_, ?_⟩
  · cases words with
    | nil => exact ⟨closing, [], _, rfl, hclosing⟩
    | cons word words =>
        obtain ⟨rfl, -⟩ := List.cons.inj hsuffix
        exact ⟨opening, words ++ [closing], _, rfl, hopening⟩
  · exact ⟨words, closing, _, rfl, hclosing⟩
  · rw [List.filterMap_append, ← Word.map_token_lexemesFrom, hwords, hlast, List.map_append]
    simp [hclosing]
  · rw [← hstart, hextent, Nat.zero_add]
  · rw [← hstop, hextent', textOf_append, List.length_append]
    simp [Nat.add_assoc]

/-- A stretch of the tokens of a text is cut out at its extent, and splits into the same words if a
semicolon follows. -/
theorem Splits.exists_stretch {text : List Char} {words : List Word} (h : Splits text words)
    {front middle back : List Lexeme} (hlexemes : Word.lexemes words = front ++ (middle ++ back))
    {extent : Extent} (hcovers : extent.Covers middle) :
    extent.start ≤ extent.stop ∧ extent.stop ≤ text.length ∧
    ∃ run, text.extract extent.start extent.stop = textOf run ∧ Leads run [';'] ∧ IsTight run ∧
      run.filterMap Word.token? = middle.map (·.token) := by
  obtain ⟨before, run, after, rfl, htight, htokens, hstart, hstop⟩ :=
    exists_words_of_stretch hlexemes hcovers
  have htext : textOf before ++ (textOf run ++ textOf after) = text := by
    rw [← h.textOf_eq, textOf_append, textOf_append]
  have hsize : extent.stop + (textOf after).length = text.length := by
    rw [← htext, List.length_append, List.length_append, hstop, Nat.add_assoc]
  refine ⟨by omega, by omega, run, ?_, ?_, htight, htokens⟩
  · rw [← htext, hstart, hstop, List.extract_eq_take_drop]
    simp
  · obtain ⟨words, closing, token, rfl, hclosing⟩ := htight.last
    have hleads : Leads (words ++ [closing]) [] :=
      h.of_append.2.of_append.1.truncate List.nil_prefix
    exact hleads.append_semicolon hclosing

theorem exists_initial_of_token {word : Word} {token : Token}
    (h : word.pattern.regex.Matches word.text) (htoken : word.token? = some token)
    (hstar : token ≠ .star) : ∃ c rest, word.text = c :: rest ∧ IsInitial c := by
  obtain ⟨pattern, text⟩ := word
  cases pattern with
  | blank | lineComment | blockComment => simp [Word.token?, Word.piece, piece] at htoken
  | star => exact absurd (Option.some.inj htoken).symm hstar
  | name => exact Term.exists_initial_name h
  | number =>
      obtain ⟨whole, places, exponent, rfl, ⟨hne, hdigits⟩, -⟩ := matches_number.mp h
      obtain ⟨c, rest, rfl⟩ := List.exists_cons_of_ne_nil hne
      have hc := hdigits c List.mem_cons_self
      refine ⟨c, _, rfl, ?_, not_isIgnorable_of_isDigit hc⟩
      rintro rfl
      exact absurd hc (by decide)
  | quoted =>
      obtain ⟨opening, rest, hopening, -, rfl⟩ := h
      obtain rfl := Regex.matches_literal.mp hopening
      exact ⟨'"', rest, rfl, by decide, by decide⟩
  | _ =>
      obtain rfl := Regex.matches_literal.mp h
      exact ⟨_, _, rfl, by decide, by decide⟩

/-! ### Nodes of a text -/

theorem Term.exists_of_within_map {α β : Type} {f : α → β} {e : Term Empty α}
    {part : Term Empty β} (h : Term.Within part (e.map f)) :
    ∃ original, Term.Within original e ∧ original.map f = part := by
  induction e with
  | foreign allowed => exact allowed.elim
  | num | var =>
      cases h
      exact ⟨_, .self, rfl⟩
  | neg operand note ih =>
      cases h with
      | self => exact ⟨_, .self, rfl⟩
      | neg h =>
          obtain ⟨original, hwithin, rfl⟩ := ih h
          exact ⟨original, .neg hwithin, rfl⟩
  | bin op left right note ihl ihr =>
      cases h with
      | self => exact ⟨_, .self, rfl⟩
      | left h =>
          obtain ⟨original, hwithin, rfl⟩ := ihl h
          exact ⟨original, .left hwithin, rfl⟩
      | right h =>
          obtain ⟨original, hwithin, rfl⟩ := ihr h
          exact ⟨original, .right hwithin, rfl⟩

theorem Sentence.exists_bare {sentence : Sentence Extent} {tree part : Tree}
    (h : sentence.command.expr? = some tree) (hwithin : Term.Within part tree) :
    ∃ (bare : Bare part) (front back : List Lexeme),
      lexemesOf sentence.yield = front ++ (bare.lexemes ++ back) := by
  rw [Sentence.expr?_command, Option.map_eq_some_iff] at h
  obtain ⟨phrase, hphrase?, rfl⟩ := h
  obtain ⟨before, after, hyield⟩ := Sentence.exists_yield hphrase?
  obtain ⟨outer, front, back, -, hphrase, -⟩ := phrase.exists_bare
  obtain ⟨bare, front', back', houter⟩ := outer.exists_part hwithin
  refine ⟨bare, lexemesOf before ++ (front ++ front'), back' ++ (back ++ lexemesOf after), ?_⟩
  simp [hyield, hphrase, houter]

namespace Analysis

variable {entry : Entry} {text : List Char}

theorem lexemesOf_yieldAll (analysis : Analysis entry text) :
    lexemesOf (yieldAll analysis.sentences) = Word.lexemes analysis.words := by
  rw [analysis.derives.2]
  exact analysis.map_lexeme

theorem inOrder (analysis : Analysis entry text) : InOrder (Word.lexemes analysis.words) := by
  refine (inOrder_lexemesFrom (fun word hword => ?_) 0).2
  intro hnil
  have hmatches := analysis.splits.matches_of_mem word hword
  rw [hnil] at hmatches
  exact word.pattern.not_matches_nil hmatches

theorem exists_stretch (analysis : Analysis entry text) {sentence : Sentence Extent}
    (h : sentence ∈ analysis.sentences) :
    ∃ front back, Word.lexemes analysis.words = front ++ (lexemesOf sentence.yield ++ back) := by
  obtain ⟨before, after, hsentences⟩ := List.append_of_mem h
  refine ⟨lexemesOf (yieldAll before), lexemesOf (yieldAll after), ?_⟩
  simp [← analysis.lexemesOf_yieldAll, hsentences]

/-- The text at the extent of a node, after `show` and before a semicolon, is parsed as the
expression that the node is. -/
theorem exists_parse_node (analysis : Analysis entry text) (hreadable : analysis.IsReadable)
    {part : Tree} (bare : Bare part) {front back : List Lexeme}
    (hlexemes : Word.lexemes analysis.words = front ++ (bare.lexemes ++ back)) (other : Entry)
    {source : Source} (hsource : source.text = Keyword.display.spelling ++
      ' ' :: (text.extract part.note.start part.note.stop ++ [';'])) :
    ∃ command, parse other source = .ok [command] ∧
      command.map (fun _ => ()) = .display (part.map fun _ => ()) () := by
  obtain ⟨-, -, run, hrun, hleads, htight, htokens⟩ :=
    analysis.splits.exists_stretch hlexemes bare.covers
  have hyield : run.filterMap Word.token? = tokensOf bare.phrase.yield :=
    htokens.trans (map_token_lexemesOf _)
  have hmeaning : ∀ token ∈ run.filterMap Word.token?, token.HasMeaning := by
    intro token hmem
    have hall : token ∈ analysis.words.filterMap Word.token? := by
      rw [← Word.map_token_lexemesFrom 0]
      change token ∈ (Word.lexemes analysis.words).map (·.token)
      rw [hlexemes, List.map_append, List.map_append, ← htokens]
      simp [hmem]
    exact analysis.isReadable_iff_tokens.mp hreadable token hall
  have hinitial : ∃ c rest, textOf run = c :: rest ∧ IsInitial c := by
    obtain ⟨word, others, token, rfl, htoken⟩ := htight.first
    have hstar : token ≠ .star := by
      rintro rfl
      refine bare.phrase.apart.head ?_
      rw [← hyield, List.filterMap_cons_some htoken, List.head?_cons]
    obtain ⟨c, rest, hword, hc⟩ := exists_initial_of_token hleads.1.1.1 htoken hstar
    exact ⟨c, rest ++ textOf others, by rw [textOf_cons, hword, List.cons_append], hc⟩
  obtain ⟨phrase, hphrase, hshape⟩ :=
    bare.phrase.exists_lift .sum (by cases bare.layer <;> decide)
  have hcloses := closes_of_leads hleads hmeaning
  rw [hyield, ← hphrase] at hcloses
  rw [hrun] at hsource
  obtain ⟨command, hparse, hcommand⟩ :=
    exists_parse_shown other part.note hcloses hinitial hsource
  refine ⟨command, hparse, ?_⟩
  rw [hcommand, hshape, ← Phrase.map_operand_tree, bare.tree_eq]

end Analysis

/-! ### Spans -/

/-- Whether the place is the span of the extent. -/
def Extent.Locates (extent : Extent) (place : Place) : Prop :=
  ∃ span, place = .known span ∧ span.start.offset = extent.start ∧ span.stop.offset = extent.stop

theorem Extent.locates_place {source : Source} {extent : Extent} (h : extent.start ≤ extent.stop)
    (hsize : extent.stop ≤ source.size) : extent.Locates (extent.place source) := by
  refine ⟨_, rfl, offset_location_of_le (h.trans hsize), ?_⟩
  have hstop : (extent.start : Int) + (extent.stop - extent.start : Nat) = (extent.stop : Nat) := by
    omega
  simp only [Source.slice, hstop]
  exact offset_location_of_le hsize

theorem Extent.Locates.unique {first second : Extent} {place : Place} (h : first.Locates place)
    (h' : second.Locates place) : first = second := by
  obtain ⟨span, rfl, hstart, hstop⟩ := h
  obtain ⟨span', hspan, hstart', hstop'⟩ := h'
  obtain rfl := Place.known.inj hspan
  cases first
  cases second
  simp_all

def Extent.excerpt (extent : Extent) (source : Source) : String :=
  String.ofList (source.text.extract extent.start extent.stop)

/-- Whether the operands of a node stand within its extent. Of two operands the left one comes
first, then some parentheses that are closed, the sign of the operator and some that are opened, and
then the right one. -/
def Term.OperandsLie (source : Source) (extent : Extent) : Expr → Prop
  | neg operand _ => ∃ inner : Extent, inner.Locates operand.note ∧ inner.Inside extent
  | bin op left right _ => ∃ first second : Extent,
      first.Locates left.note ∧ first.Inside extent ∧
      second.Locates right.note ∧ second.Inside extent ∧
      first.stop ≤ second.start ∧ ∃ closed opened,
        ((Lexemes.ofText source.text).list.filter
          (·.extent.Inside (first.gap second))).map (·.token) =
            List.replicate closed .closeParen ++ op.token :: List.replicate opened .openParen
  | _ => True

/-- Whether the tokens are those of one command, which its semicolon ends. -/
def IsCommandRun (lexemes : List Lexeme) : Prop :=
  ∃ body semicolon, lexemes = body ++ [semicolon] ∧ body ≠ [] ∧ semicolon.token = .semicolon ∧
    ∀ lexeme ∈ body, lexeme.token ≠ .semicolon

theorem Sentence.isCommandRun (sentence : Sentence Extent) :
    IsCommandRun (lexemesOf sentence.yield) := by
  refine ⟨lexemesOf sentence.body, _, by rw [yield, lexemesOf_append]; rfl, ?_, rfl, ?_⟩
  · simpa [lexemesOf] using sentence.body_ne_nil
  · intro lexeme hmem hsemicolon
    refine semicolon_not_mem_body sentence ?_
    rw [← hsemicolon, ← map_token_lexemesOf]
    exact List.mem_map_of_mem hmem

theorem Entry.read_eq_ok_iff {entry : Entry} {source : Source} {commands : List (Command Place)} :
    entry.read source = .ok commands ↔ parse entry source = .ok commands := by
  rw [Entry.read_eq]
  exact mapError_eq_ok

namespace Analysis

variable {entry : Entry} {source : Source}

theorem locates_stretch (analysis : Analysis entry source.text) {extent : Extent}
    {front middle back : List Lexeme}
    (h : Word.lexemes analysis.words = front ++ (middle ++ back)) (hcovers : extent.Covers middle) :
    extent.Locates (extent.place source) := by
  obtain ⟨hle, hsize, -⟩ := analysis.splits.exists_stretch h hcovers
  exact Extent.locates_place hle (source.size_eq ▸ hsize)

theorem locates_within (analysis : Analysis entry source.text) {tree part : Tree} (bare : Bare tree)
    {front back : List Lexeme}
    (h : Word.lexemes analysis.words = front ++ (bare.lexemes ++ back))
    (hwithin : Term.Within part tree) :
    part.note.Locates (part.map (Extent.place source)).note ∧ part.note.Inside tree.note := by
  have horder := analysis.inOrder
  rw [h] at horder
  refine ⟨?_, bare.inside_of_within horder.right.left hwithin⟩
  obtain ⟨inner, front', back', hpart⟩ := bare.exists_part hwithin
  have hstretch : Word.lexemes analysis.words =
      (front ++ front') ++ (inner.lexemes ++ (back' ++ back)) := by
    simp [h, hpart]
  rw [Term.note_map]
  exact analysis.locates_stretch hstretch inner.covers

theorem operandsLie (analysis : Analysis entry source.text) {tree : Tree} (bare : Bare tree)
    {front back : List Lexeme}
    (h : Word.lexemes analysis.words = front ++ (bare.lexemes ++ back)) :
    (tree.map (Extent.place source)).OperandsLie source tree.note := by
  have horder := analysis.inOrder
  rw [h] at horder
  cases tree with
  | num | var => trivial
  | foreign allowed => exact allowed.elim
  | neg operand note =>
      have hwithin : Term.Within operand (.neg operand note) := .neg .self
      obtain ⟨hlocates, hinside⟩ := analysis.locates_within bare h hwithin
      exact ⟨operand.note, hlocates, hinside⟩
  | bin op left right note =>
      have hleft : Term.Within left (.bin op left right note) := .left .self
      have hright : Term.Within right (.bin op left right note) := .right .self
      obtain ⟨hlocates, hinside⟩ := analysis.locates_within bare h hleft
      obtain ⟨hlocates', hinside'⟩ := analysis.locates_within bare h hright
      obtain ⟨hle, hgap⟩ := bare.filter_gap horder
      refine ⟨left.note, right.note, hlocates, hinside, hlocates', hinside', hle, ?_⟩
      rw [analysis.lexemes_eq, h]
      exact hgap

theorem exists_bare (analysis : Analysis entry source.text) {command : Command Place}
    (hcommand : command ∈ analysis.commands) {e part : Expr} (he : command.expr? = some e)
    (hwithin : Term.Within part e) :
    ∃ (node : Tree) (bare : Bare node) (front back : List Lexeme),
      part = node.map (Extent.place source) ∧
      Word.lexemes analysis.words = front ++ (bare.lexemes ++ back) := by
  obtain ⟨sentence, hsentence, rfl⟩ := List.mem_map.mp hcommand
  rw [Command.expr?_map, Option.map_eq_some_iff] at he
  obtain ⟨tree, htree, rfl⟩ := he
  obtain ⟨node, hnode, rfl⟩ := Term.exists_of_within_map hwithin
  obtain ⟨bare, front, back, hyield⟩ := sentence.exists_bare htree hnode
  obtain ⟨before, after, hlexemes⟩ := analysis.exists_stretch hsentence
  exact ⟨node, bare, before ++ front, back ++ after, rfl, by simp [hlexemes, hyield]⟩

theorem exists_extent_of_node (analysis : Analysis entry source.text)
    (hreadable : analysis.IsReadable) {command : Command Place}
    (hcommand : command ∈ analysis.commands) {e part : Expr} (he : command.expr? = some e)
    (hwithin : Term.Within part e) :
    ∃ extent : Extent, extent.Locates part.note ∧ part.OperandsLie source extent ∧
      ∀ (other : Entry) (filename : String), ∃ shown,
        other.read (.ofString ("show " ++ extent.excerpt source ++ ";") filename) = .ok [shown] ∧
        shown.map (fun _ => ()) = .display (part.map fun _ => ()) () := by
  obtain ⟨node, bare, front, back, rfl, hstretch⟩ := analysis.exists_bare hcommand he hwithin
  refine ⟨node.note, (analysis.locates_within bare hstretch .self).1,
    analysis.operandsLie bare hstretch, fun other filename => ?_⟩
  have hsource : (Source.ofString ("show " ++ node.note.excerpt source ++ ";") filename).text =
      Keyword.display.spelling ++
        ' ' :: (source.text.extract node.note.start node.note.stop ++ [';']) := by
    simp [Source.ofString, Keyword.spelling, Extent.excerpt]
  obtain ⟨shown, hparse, hshown⟩ :=
    analysis.exists_parse_node hreadable bare hstretch other hsource
  rw [Term.map_map]
  exact ⟨shown, Entry.read_eq_ok_iff.mpr hparse, hshown⟩

theorem exists_extent_of_command (analysis : Analysis entry source.text)
    {sentence : Sentence Extent} (h : sentence ∈ analysis.sentences) :
    let command := sentence.command.map (Extent.place source)
    sentence.command.note.Locates command.note ∧ ∀ e, command.expr? = some e →
      ∃ inner : Extent, inner.Locates e.note ∧ inner.Inside sentence.command.note := by
  obtain ⟨before, after, hlexemes⟩ := analysis.exists_stretch h
  intro command
  constructor
  · rw [Command.note_map]
    exact analysis.locates_stretch hlexemes sentence.covers
  · intro e he
    rw [Command.expr?_map, Option.map_eq_some_iff] at he
    obtain ⟨tree, htree, rfl⟩ := he
    obtain ⟨bare, front, back, hyield⟩ := sentence.exists_bare htree .self
    have hstretch : Word.lexemes analysis.words =
        (before ++ front) ++ (bare.lexemes ++ (back ++ after)) := by
      simp [hlexemes, hyield]
    have horder := analysis.inOrder
    rw [hlexemes] at horder
    have hcovers := sentence.covers
    rw [hyield] at hcovers horder
    exact ⟨tree.note, (analysis.locates_within bare hstretch .self).1,
      hcovers.inside_of_stretch bare.covers horder.right.left⟩

theorem flatten_runs (analysis : Analysis entry source.text) :
    (analysis.sentences.map fun sentence => lexemesOf sentence.yield).flatten =
      Word.lexemes analysis.words := by
  rw [← analysis.lexemesOf_yieldAll, lexemesOf, yieldAll, List.map_flatMap, List.flatMap_def]
  rfl

theorem pairwise_commands (analysis : Analysis entry source.text) :
    analysis.commands.Pairwise fun first second => ∃ extent next : Extent,
      extent.Locates first.note ∧ next.Locates second.note ∧ extent.stop ≤ next.start := by
  have horder := analysis.inOrder.apart
  rw [← analysis.flatten_runs, List.pairwise_flatten, List.pairwise_map] at horder
  rw [commands, List.pairwise_map]
  refine horder.2.imp_of_mem fun {first second} hfirst hsecond hapart => ?_
  exact ⟨_, _, (analysis.exists_extent_of_command hfirst).1,
    (analysis.exists_extent_of_command hsecond).1,
    first.covers.stop_le_start second.covers hapart⟩

end Analysis

/-- In a text that is parsed, from either start symbol, the span of each expression is that of its
own text: put after `show` and before a semicolon, this text is parsed as the expression. The
operands of a node have spans within that of the node, and of two operands the left one ends before
the sign of the operator and the right one begins after it. The span of a command goes from its
first token to its semicolon, and its expression stands within it; and the spans of commands follow
one another. -/
theorem spans_are_faithful {entry : Entry} {source : Source} {commands : List (Command Place)}
    (h : entry.read source = .ok commands) :
    (∀ command ∈ commands, ∀ e, command.expr? = some e → ∀ part, Term.Within part e →
      ∃ extent : Extent, extent.Locates part.note ∧ part.OperandsLie source extent ∧
        ∀ (other : Entry) (filename : String), ∃ shown,
          other.read (.ofString ("show " ++ extent.excerpt source ++ ";") filename) =
            .ok [shown] ∧
          shown.map (fun _ => ()) = .display (part.map fun _ => ()) ()) ∧
    (∃ runs : List (List Lexeme), runs.flatten = (Lexemes.ofText source.text).list ∧
      List.Forall₂ (fun command run => IsCommandRun run ∧ ∃ extent : Extent,
        extent.Locates command.note ∧ extent.Covers run ∧
        ∀ e, command.expr? = some e → ∃ inner : Extent,
          inner.Locates e.note ∧ inner.Inside extent) commands runs) ∧
    commands.Pairwise fun first second => ∃ extent next : Extent,
      extent.Locates first.note ∧ next.Locates second.note ∧ extent.stop ≤ next.start := by
  obtain ⟨analysis, hreadable, rfl⟩ := parse_eq_ok_iff.mp (Entry.read_eq_ok_iff.mp h)
  rw [analysis.lexemes_eq]
  refine ⟨?_, ⟨_, analysis.flatten_runs, ?_⟩, analysis.pairwise_commands⟩
  · intro command hcommand e he part hwithin
    exact analysis.exists_extent_of_node hreadable hcommand he hwithin
  · rw [Analysis.commands, List.forall₂_map_left_iff, List.forall₂_map_right_iff, List.forall₂_same]
    intro sentence hsentence
    obtain ⟨hlocates, hinside⟩ := analysis.exists_extent_of_command hsentence
    exact ⟨sentence.isCommandRun, _, hlocates, sentence.covers, hinside⟩

/-- A sum keeps its own span inside parentheses, while the product begins with the parenthesis. -/
theorem spans_of_sum_in_parentheses :
    let source := Source.ofString "(a + (* b *) (2)) * -c; help;"
    ∃ commands command product sum, Entry.file.read source = .ok commands ∧ command ∈ commands ∧
      command.expr? = some product ∧ Term.Within sum product ∧
      Extent.Locates ⟨0, 22⟩ product.note ∧ Extent.Locates ⟨1, 16⟩ sum.note ∧
      Extent.excerpt ⟨1, 16⟩ source = "a + (* b *) (2)" ∧
      ∃ shown, Entry.single.read (.ofString "show a + (* b *) (2);") = .ok [shown] ∧
        shown.map (fun _ => ()) =
          .display (.bin .add (.var "a" ()) (.num (.int 2) ()) ()) () := by
  intro source
  obtain ⟨commands, command, product, sum, hread, hcommand, hproduct, hsum, houter, hinner,
      hshape⟩ :
      ∃ commands command product sum, Entry.file.read source = .ok commands ∧ command ∈ commands ∧
        command.expr? = some product ∧ Term.Within sum product ∧
        Extent.Locates ⟨0, 22⟩ product.note ∧ Extent.Locates ⟨1, 16⟩ sum.note ∧
        sum.map (fun _ => ()) = .bin .add (.var "a" ()) (.num (.int 2) ()) () := by
    refine ⟨_, _, _, _, by cbv, List.mem_cons_self, rfl, .left .self, ⟨_, rfl, rfl, rfl⟩,
      ⟨_, rfl, rfl, rfl⟩, rfl⟩
  obtain ⟨hnodes, -⟩ := spans_are_faithful hread
  obtain ⟨extent, hlocates, -, hparse⟩ := hnodes command hcommand product hproduct sum hsum
  obtain rfl := hlocates.unique hinner
  have hexcerpt : Extent.excerpt ⟨1, 16⟩ source = "a + (* b *) (2)" := rfl
  obtain ⟨shown, hshown, hcommand'⟩ := hparse .single ""
  refine ⟨commands, command, product, sum, hread, hcommand, hproduct, hsum, houter, hinner,
    hexcerpt, shown, ?_, hshape ▸ hcommand'⟩
  rw [hexcerpt] at hshown
  exact hshown
end LanguageShell.Calculator

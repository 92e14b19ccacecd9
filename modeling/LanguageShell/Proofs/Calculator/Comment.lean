import LanguageShell.Proofs.Calculator.Grammar
import LanguageShell.Proofs.Calculator.Word

/-!
Comments and strings before and after a text is split into words. Looking for comments alone finds
those among the words and no others, except that a `(*` which nothing closes is an opening
parenthesis and a star as words. These two never stand next to each other in a sentence, so a text
whose tokens are those of sentences has no open comment, and it ends a command just when its last
token is a semicolon.
-/

namespace LanguageShell.Calculator

/-! ### Tokens side by side -/

namespace Token

/-- Whether the one token may stand just before the other: no product begins with its sign. -/
def MayPrecede (first second : Token) : Prop :=
  ¬(first = .openParen ∧ second = .star)

/-- Whether tokens may stand next to each other as they do, and next to any others. -/
structure Apart (tokens : List Token) : Prop where
  chain : tokens.IsChain MayPrecede
  head : tokens.head? ≠ some .star
  last : tokens.getLast? ≠ some .openParen

theorem Apart.cons (token : Token) {tokens : List Token} (h : Apart tokens)
    (hstar : token ≠ .star) (hne : tokens ≠ []) : Apart (token :: tokens) where
  chain := by
    refine List.isChain_cons.mpr ⟨?_, h.chain⟩
    rintro second hsecond ⟨_, rfl⟩
    exact h.head hsecond
  head := by simpa using hstar
  last := by
    rw [List.getLast?_cons_of_ne_nil hne]
    exact h.last

theorem Apart.append {front back : List Token} (token : Token) (hfront : Apart front)
    (hback : Apart back) (htoken : token ≠ .openParen) (hne : front ≠ []) :
    Apart (front ++ token :: back) where
  chain := by
    refine List.isChain_append.mpr ⟨hfront.chain, List.isChain_cons.mpr ⟨?_, hback.chain⟩, ?_⟩
    · rintro second _ ⟨rfl, _⟩
      exact htoken rfl
    · rintro first hfirst second _ ⟨rfl, _⟩
      exact hfront.last hfirst
  head := by
    rw [List.head?_append_of_ne_nil _ hne]
    exact hfront.head
  last := by
    rw [List.getLast?_append_cons]
    cases back with
    | nil => simpa using htoken
    | cons second back =>
        rw [List.getLast?_cons_of_ne_nil (by simp)]
        exact hback.last

theorem apart_singleton (token : Token) (hopen : token ≠ .openParen) (hstar : token ≠ .star) :
    Apart [token] :=
  ⟨List.isChain_singleton token, by simpa using hstar, by simpa using hopen⟩

theorem apart_nil : Apart [] :=
  ⟨List.isChain_nil, by simp, by simp⟩

end Token

open Token

def tokensOf (leaves : List (Leaf α)) : List Token :=
  leaves.map (·.1.spelled)

@[simp] theorem tokensOf_nil : tokensOf ([] : List (Leaf α)) = [] := rfl

@[simp] theorem tokensOf_cons (leaf : Leaf α) (leaves : List (Leaf α)) :
    tokensOf (leaf :: leaves) = leaf.1.spelled :: tokensOf leaves := rfl

@[simp] theorem tokensOf_append (front back : List (Leaf α)) :
    tokensOf (front ++ back) = tokensOf front ++ tokensOf back :=
  List.map_append

theorem tokensOf_ne_nil {leaves : List (Leaf α)} (h : leaves ≠ []) : tokensOf leaves ≠ [] := by
  simpa [tokensOf] using h

theorem Phrase.apart {layer : Layer} (phrase : Phrase α layer) : Apart (tokensOf phrase.yield) := by
  induction phrase with
  | number | name =>
      exact apart_singleton _ (by simp [Terminal.spelled]) (by simp [Terminal.spelled])
  | parens _ inner _ ih =>
      have h := ih.append .closeParen apart_nil (by simp)
        (tokensOf_ne_nil inner.yield_ne_nil)
      simpa [yield, Terminal.spelled] using
        h.cons .openParen (by simp) (by simp)
  | ofAtom _ ih | ofUnary _ ih | ofProduct _ ih => exact ih
  | neg _ operand ih =>
      exact ih.cons _ (by simp [Terminal.spelled]) (tokensOf_ne_nil operand.yield_ne_nil)
  | product left sign _ right ihl ihr | sum left sign _ right ihl ihr =>
      have hsign : sign.token ≠ .openParen := by cases sign <;> simp
      simpa [yield, Terminal.spelled] using
        ihl.append _ ihr hsign (tokensOf_ne_nil left.yield_ne_nil)

theorem Sentence.apart (sentence : Sentence α) : Apart (tokensOf sentence.yield) := by
  have hbody : Apart (tokensOf sentence.body) := by
    cases sentence with
    | define name mark assign expr _ =>
        have h := expr.apart.cons .assign (by simp) (tokensOf_ne_nil expr.yield_ne_nil)
        exact h.cons _ (by simp [Terminal.spelled]) (by simp)
    | eval expr _ => exact expr.apart
    | display _ expr _ =>
        exact expr.apart.cons _ (by simp [Terminal.spelled]) (tokensOf_ne_nil expr.yield_ne_nil)
    | load _ path _ _ =>
        exact (apart_singleton (.quoted path) (by simp) (by simp)).cons _
          (by simp [Terminal.spelled]) (by simp)
    | listing | help =>
        exact apart_singleton _ (by simp [Terminal.spelled]) (by simp [Terminal.spelled])
  have h := hbody.append .semicolon apart_nil (by simp)
    (tokensOf_ne_nil sentence.body_ne_nil)
  simpa [yield, Terminal.spelled] using h

/-- In sentences a star never follows an opening parenthesis. -/
theorem isChain_yieldAll (sentences : List (Sentence α)) :
    (tokensOf (yieldAll sentences)).IsChain MayPrecede := by
  induction sentences with
  | nil => exact List.isChain_nil
  | cons sentence sentences ih =>
      rw [yieldAll_cons, tokensOf, List.map_append]
      refine List.isChain_append.mpr ⟨sentence.apart.chain, ih, ?_⟩
      rintro first hfirst second _ ⟨rfl, _⟩
      exact sentence.apart.last hfirst

/-! ### Segments of words -/

open Pattern Regex

namespace Segment

/-- Whether the character begins neither a string nor a comment. -/
def IsPlain (c : Char) : Prop :=
  c ≠ '"' ∧ c ≠ '#' ∧ c ≠ '('

theorem first_of_isPlain {c : Char} (rest : List Char) (h : IsPlain c) :
    first c rest = (plain c, 0) := by
  obtain ⟨hquote, hhash, hopen⟩ := h
  unfold first
  split
  · exact absurd rfl hquote
  · exact absurd rfl hhash
  · exact absurd rfl hopen
  · rfl

theorem first_quote_of_some {rest : List Char} {n : Nat} (h : stringLength? rest = some n) :
    first '"' rest = (quoted ('"' :: rest.take n), n) := by
  simp [first, h]

theorem first_quote_of_none {rest : List Char} (h : stringLength? rest = none) :
    first '"' rest = (plain '"', 0) := by
  simp [first, h]

theorem first_comment_of_some {inner : List Char} {n : Nat} (h : commentLength? inner = some n) :
    first '(' ('*' :: inner) = (comment, n + 1) := by
  simp [first, h]

theorem first_openParen {rest : List Char} (h : rest.head? ≠ some '*') :
    first '(' rest = (plain '(', 0) := by
  unfold first
  split
  · simp_all
  · simp_all
  · simp_all
  · rfl

theorem split_cons (c : Char) (rest : List Char) :
    split (c :: rest) = (first c rest).1 :: split (rest.drop (first c rest).2) := by
  rw [split]

theorem split_plain {front : List Char} (rest : List Char) (h : ∀ c ∈ front, IsPlain c) :
    split (front ++ rest) = front.map plain ++ split rest := by
  induction front with
  | nil => rfl
  | cons c front ih =>
      rw [List.cons_append, split_cons, first_of_isPlain _ (h c (by simp)), List.drop_zero,
        ih fun d hd => h d (by simp [hd])]
      rfl

end Segment

namespace Word

/-- What the word is as far as strings and comments are concerned. -/
def segments (word : Word) : List Segment :=
  match word.pattern with
  | .quoted => [.quoted word.text]
  | .lineComment | .blockComment => [.comment]
  | _ => word.text.map .plain

end Word

open Segment

theorem isPlain_of_isIgnorable {c : Char} (h : isIgnorable c = true) : IsPlain c := by
  have := isIgnorable_bound h
  refine ⟨?_, ?_, ?_⟩ <;> rintro rfl <;> simp_all

theorem isPlain_of_isNamePart {c : Char} (h : isNamePart c = true) : IsPlain c := by
  refine ⟨?_, ?_, ?_⟩ <;> rintro rfl <;> exact absurd h (by decide)

theorem isPlain_of_number {c : Char} (h : Text.isDigit c = true ∨ IsNumberSign c) : IsPlain c := by
  obtain h | h := h
  · refine ⟨?_, ?_, ?_⟩ <;> rintro rfl <;> exact absurd h (by decide)
  · refine ⟨?_, ?_, ?_⟩ <;> rintro rfl <;> exact absurd h (by simp [IsNumberSign])

/-- A word of a text is a segment of its own, or one for each character, unless a comment begins
with it that nothing closes. -/
theorem split_word {word : Word} {rest : List Char} (h : word.pattern.Wins word.text rest)
    (hstar : word.pattern = .openParen → rest.head? ≠ some '*') :
    split (word.text ++ rest) = word.segments ++ split rest := by
  obtain ⟨pattern, text⟩ := word
  have hmatches : pattern.regex.Matches text := h.1.1
  have hlength : pattern.length? (text ++ rest) = some text.length := takes_iff.mp h.1
  cases pattern with
  | blank =>
      exact split_plain rest fun c hc =>
        isPlain_of_isIgnorable ((matches_several_char.mp hmatches).2 c hc)
  | name =>
      exact split_plain rest fun c hc =>
        isPlain_of_isNamePart (isNamePart_of_mem_name hmatches c hc)
  | number =>
      exact split_plain rest fun c hc =>
        isPlain_of_number (isDigit_or_of_mem_number hmatches c hc)
  | lineComment =>
      obtain ⟨c, front, rfl, hc, _⟩ := matches_headed.mp hmatches
      obtain rfl : c = '#' := by simpa using hc
      have hline : lineLength (front ++ rest) = front.length := by
        simpa [length?, headedLength?, lineLength] using hlength
      rw [List.cons_append, split_cons]
      simp [first, hline, Word.segments]
  | blockComment =>
      obtain ⟨chars, inner, hchars, _, rfl⟩ := hmatches
      obtain rfl := matches_literal.mp hchars
      have hinner : commentLength? (inner ++ rest) = some inner.length := by
        simpa [length?, openedLength?] using hlength
      rw [List.append_assoc, List.cons_append, split_cons, List.cons_append, List.nil_append,
        first_comment_of_some hinner]
      simp [Word.segments]
  | quoted =>
      obtain ⟨chars, inner, hchars, _, rfl⟩ := hmatches
      obtain rfl := matches_literal.mp hchars
      have hinner : stringLength? (inner ++ rest) = some inner.length := by
        simpa [length?, openedLength?] using hlength
      rw [List.append_assoc, List.cons_append, split_cons, List.nil_append,
        first_quote_of_some hinner]
      simp [Word.segments]
  | openParen =>
      obtain rfl := matches_literal.mp hmatches
      rw [List.cons_append, List.nil_append, split_cons, first_openParen (hstar rfl)]
      rfl
  | _ =>
      obtain rfl := matches_literal.mp hmatches
      exact split_plain rest (by simp [IsPlain])

theorem Pattern.Wins.eq_star {pattern : Pattern} {word rest : List Char}
    (h : pattern.Wins word rest) (hhead : word.head? = some '*') : pattern = .star := by
  obtain ⟨others, rfl⟩ := List.head?_eq_some_iff.mp hhead
  have hne : pattern ≠ .blockComment := by
    rintro rfl
    obtain ⟨chars, inner, hchars, _, hword⟩ := h.1.1
    rw [matches_literal.mp hchars] at hword
    simp at hword
  have hstart := ofStart?_of_length hne (takes_iff.mp h.1)
  have hstar : ofStart? '*' = some .star := by decide
  rw [hstar] at hstart
  exact (Option.some.inj hstart).symm

theorem isChain_filterMap_of_cons {word : Word} {words : List Word}
    (h : ((word :: words).filterMap Word.token?).IsChain MayPrecede) :
    (words.filterMap Word.token?).IsChain MayPrecede := by
  cases htoken : word.token? with
  | none => simpa [htoken] using h
  | some token =>
      rw [List.filterMap_cons_some htoken] at h
      exact (List.isChain_cons.mp h).2

theorem Leads.head?_ne_star {word : Word} {words : List Word} {rest : List Char}
    (h : Leads (word :: words) rest)
    (hchain : ((word :: words).filterMap Word.token?).IsChain MayPrecede)
    (hrest : rest.head? ≠ some '*') (hopen : word.pattern = .openParen) :
    (textOf words ++ rest).head? ≠ some '*' := by
  intro hstar
  have htoken : word.token? = some .openParen := by simp [Word.token?, Word.piece, hopen, piece]
  cases words with
  | nil => exact hrest hstar
  | cons second words =>
      have hhead : second.text.head? = some '*' := by
        rw [textOf_cons, List.append_assoc,
          List.head?_append_of_ne_nil _ (ne_nil_of_wins h.2.1)] at hstar
        exact hstar
      have hsecond : second.token? = some .star := by
        simp [Word.token?, Word.piece, h.2.1.eq_star hhead, piece]
      rw [List.filterMap_cons_some htoken, List.filterMap_cons_some hsecond] at hchain
      exact (List.isChain_cons_cons.mp hchain).1 ⟨rfl, rfl⟩

theorem split_textOf {words : List Word} {rest : List Char} (h : Leads words rest)
    (hchain : (words.filterMap Word.token?).IsChain MayPrecede) (hrest : rest.head? ≠ some '*') :
    split (textOf words ++ rest) = words.flatMap Word.segments ++ split rest := by
  induction words with
  | nil => rfl
  | cons word words ih =>
      rw [textOf_cons, List.append_assoc, split_word h.1 (h.head?_ne_star hchain hrest),
        ih h.2 (isChain_filterMap_of_cons hchain), List.flatMap_cons, List.append_assoc]

theorem openComment_not_mem_segments (word : Word) : .openComment ∉ word.segments := by
  unfold Word.segments
  split <;> simp

theorem split_of_splits {text : List Char} {words : List Word} (h : Splits text words)
    (hchain : (words.filterMap Word.token?).IsChain MayPrecede) :
    split text = words.flatMap Word.segments := by
  have hsplit := split_textOf h.leads hchain (by simp)
  have hnil : split [] = [] := by rw [split]
  rwa [List.append_nil, h.textOf_eq, hnil, List.append_nil] at hsplit

/-- No comment is open where the tokens could be those of sentences. -/
theorem not_hasOpenComment {text : List Char} {words : List Word} (h : Splits text words)
    (hchain : (words.filterMap Word.token?).IsChain MayPrecede) : ¬HasOpenComment text := by
  rw [HasOpenComment, split_of_splits h hchain, List.mem_flatMap]
  rintro ⟨word, _, hmem⟩
  exact openComment_not_mem_segments word hmem

theorem hasOpenComment_of_leads {words : List Word} {inner : List Char}
    (h : Leads words ('(' :: '*' :: inner))
    (hchain : (words.filterMap Word.token?).IsChain MayPrecede)
    (hinner : commentLength? inner = none) :
    HasOpenComment (textOf words ++ '(' :: '*' :: inner) := by
  rw [HasOpenComment, split_textOf h hchain (by simp), split_cons]
  simp [first, hinner]

/-! ### The ends of commands -/

/-- The text that stands for a word once comments are set aside. -/
def Word.code (word : Word) : List Char :=
  word.segments.flatMap Segment.code

theorem flatMap_code_map_plain (text : List Char) :
    (text.map Segment.plain).flatMap Segment.code = text := by
  induction text with
  | nil => rfl
  | cons c text ih => simp [Segment.code, ih]

theorem isBlank_of_isIgnorable {c : Char} (h : isIgnorable c = true) : Text.isBlank c = true := by
  simp only [isIgnorable, Bool.or_eq_true, decide_eq_true_eq] at h
  obtain (((rfl | rfl) | rfl) | rfl) | rfl := h <;> decide

/-- Whether a text that ends with the character ends a command or not, blanks set aside. -/
def IsSolid (c : Char) : Prop :=
  Text.isBlank c = false ∧ c ≠ ';'

theorem isSolid_of_isNamePart {c : Char} (h : isNamePart c = true) : IsSolid c := by
  constructor
  · have := isNamePart_bounds h
    simp only [Text.isBlank, Text.isSpace, Bool.or_eq_false_iff, Bool.and_eq_false_iff,
      decide_eq_false_iff_not, beq_eq_false_iff_ne]
    omega
  · rintro rfl
    exact absurd h (by decide)

/-- Digits of all scripts keep clear of the blanks. -/
theorem isSolid_of_isDigit {c : Char} (h : Text.isDigit c = true) : IsSolid c := by
  constructor
  · have hzeros : ∀ z ∈ Text.zeros, z = 0x30 ∨ 0x660 ≤ z ∧ z + 10 ≤ 0x1680 ∨
        0x1680 < z ∧ z + 10 ≤ 0x2000 ∨ 0x3000 < z := by decide
    simp only [Text.isDigit, Text.digit?, Option.isSome_map, List.find?_isSome, Bool.and_eq_true,
      decide_eq_true_eq] at h
    obtain ⟨z, hz, hlow, hhigh⟩ := h
    have := hzeros z hz
    simp only [Text.isBlank, Text.isSpace, Bool.or_eq_false_iff, Bool.and_eq_false_iff,
      decide_eq_false_iff_not, beq_eq_false_iff_ne]
    omega
  · rintro rfl
    exact absurd h (by decide)

theorem isSolid_of_number {c : Char} (h : Text.isDigit c = true ∨ IsNumberSign c) : IsSolid c := by
  obtain h | h := h
  · exact isSolid_of_isDigit h
  · simp only [IsNumberSign, List.mem_cons, List.not_mem_nil, or_false] at h
    obtain rfl | rfl | rfl | rfl | rfl := h <;> exact ⟨by decide, by decide⟩

theorem isBlank_of_mem_code {word : Word} (h : word.pattern.regex.Matches word.text)
    (htoken : word.token? = none) : ∀ c ∈ word.code, Text.isBlank c = true := by
  obtain ⟨pattern, text⟩ := word
  cases pattern with
  | blank =>
      intro c hc
      simp only [Word.code, Word.segments, flatMap_code_map_plain] at hc
      exact isBlank_of_isIgnorable ((matches_several_char.mp h).2 c hc)
  | lineComment | blockComment =>
      intro c hc
      obtain rfl : c = ' ' := by
        simpa [Word.code, Word.segments, code] using hc
      decide
  | _ => simp [Word.token?, Word.piece, piece] at htoken

theorem exists_last_of_token {word : Word} {token : Token}
    (h : word.pattern.regex.Matches word.text) (htoken : word.token? = some token) :
    ∃ front c, word.code = front ++ [c] ∧ Text.isBlank c = false ∧
      (c = ';' ↔ token = .semicolon) := by
  obtain ⟨pattern, text⟩ := word
  have hne : text ≠ [] := by
    rintro rfl
    exact pattern.not_matches_nil h
  -- Names and numbers may end with any of their characters.
  have hsolid : (∀ c ∈ text, IsSolid c) → token ≠ .semicolon →
      ∃ front c, text = front ++ [c] ∧ Text.isBlank c = false ∧ (c = ';' ↔ token = .semicolon) := by
    intro hall htoken
    refine ⟨text.dropLast, text.getLast hne, (List.dropLast_append_getLast hne).symm, ?_, ?_⟩
    · exact (hall _ (List.getLast_mem hne)).1
    · simp [(hall _ (List.getLast_mem hne)).2, htoken]
  cases pattern with
  | blank | lineComment | blockComment => simp [Word.token?, Word.piece, piece] at htoken
  | name =>
      obtain rfl := Option.some.inj htoken
      rw [Word.code, Word.segments, flatMap_code_map_plain]
      exact hsolid (fun c hc => isSolid_of_isNamePart (isNamePart_of_mem_name h c hc)) (by simp)
  | number =>
      obtain rfl := Option.some.inj htoken
      rw [Word.code, Word.segments, flatMap_code_map_plain]
      exact hsolid (fun c hc => isSolid_of_number (isDigit_or_of_mem_number h c hc)) (by simp)
  | quoted =>
      obtain rfl := Option.some.inj htoken
      obtain ⟨chars, _, hchars, ⟨body, closing, _, hclosing, rfl⟩, rfl⟩ := h
      obtain rfl := matches_literal.mp hclosing
      exact ⟨chars ++ body, '"', by simp [Word.code, Word.segments, code], by decide, by simp⟩
  | assign =>
      obtain rfl := Option.some.inj htoken
      obtain rfl := matches_literal.mp h
      exact ⟨[':'], '=', rfl, by decide, by simp⟩
  | _ =>
      obtain rfl := Option.some.inj htoken
      obtain rfl := matches_literal.mp h
      exact ⟨[], _, rfl, by decide, by simp⟩

theorem dropEndWhile_append {p : Char → Bool} (front : List Char) {back : List Char}
    (h : ∀ c ∈ back, p c = true) :
    Text.dropEndWhile p (front ++ back) = Text.dropEndWhile p front := by
  rw [Text.dropEndWhile, List.reverse_append, List.dropWhile_append_of_pos (by simpa using h)]
  rfl

theorem dropEndWhile_append_singleton {p : Char → Bool} (front : List Char) {c : Char}
    (h : p c = false) : Text.dropEndWhile p (front ++ [c]) = front ++ [c] := by
  simp [Text.dropEndWhile, h]

/-- A text ends a command just when its last token is a semicolon. -/
theorem endsCommand_iff {text : List Char} {words : List Word} (h : Splits text words)
    (hchain : (words.filterMap Word.token?).IsChain MayPrecede) :
    endsCommand text = true ↔ (words.filterMap Word.token?).getLast? = some .semicolon := by
  have hmatches := h.matches_of_mem
  have hcode : (split text).flatMap code = words.flatMap Word.code := by
    rw [split_of_splits h hchain, List.flatMap_assoc]
    rfl
  simp only [endsCommand, not_hasOpenComment h hchain, hcode, decide_false, Bool.not_false,
    Bool.true_and, beq_iff_eq]
  clear h hchain hcode
  induction words using List.reverseRecOn with
  | nil => simp [Text.dropEndWhile]
  | append_singleton front word ih =>
      have hword := hmatches word (by simp)
      rw [List.flatMap_append, List.flatMap_singleton, List.filterMap_append]
      cases htoken : word.token? with
      | none =>
          have hfront := ih fun other hother => hmatches other (by simp [hother])
          rw [dropEndWhile_append _ (isBlank_of_mem_code hword htoken)]
          simpa [htoken] using hfront
      | some token =>
          obtain ⟨others, c, hcode, hblank, hsemicolon⟩ := exists_last_of_token hword htoken
          rw [hcode, ← List.append_assoc, dropEndWhile_append_singleton _ hblank]
          simp [htoken, hsemicolon]

end LanguageShell.Calculator

import LanguageShell.Calculator.Token
import LanguageShell.Proofs.Calculator.Regex

/-!
The token patterns of the calculator as regular expressions, and what it means that a pattern takes
a word of a text. A pattern takes as much as it can, except that a block comment ends as soon as it
can. At a place where a block comment begins nothing else does.

Each pattern has a scanner. Together these are the scanners by which texts are cut into tokens.
-/

namespace LanguageShell.Calculator

/-- The forms that pieces of a text may have. -/
inductive Pattern where
  | blank
  | lineComment
  | blockComment
  | name
  | number
  | quoted
  | assign
  | semicolon
  | plus
  | minus
  | star
  | slash
  | openParen
  | closeParen
deriving DecidableEq, Repr

namespace Pattern

open Regex

def digits : Regex :=
  several (char Text.isDigit)

/-- A character between quotes: not a quote, and not a backslash unless it protects the next
character. -/
def quotedPart : Regex :=
  either (char fun c => c ≠ '"' && c ≠ '\\') (seq (literal ['\\']) (char (· ≠ '\n')))

def fraction : Regex :=
  seq (literal ['.']) digits

def power : Regex :=
  seq (char fun c => c = 'e' || c = 'E') (seq (optional (char fun c => c = '+' || c = '-')) digits)

def regex : Pattern → Regex
  | blank => several (char isIgnorable)
  | lineComment => seq (char (· = '#')) (many (char (· ≠ '\n')))
  | blockComment => seq (literal ['(', '*']) (seq (many (char fun _ => true)) (literal ['*', ')']))
  | name => seq (char isNameStart) (many (char isNamePart))
  | number => seq digits (seq (optional fraction) (optional power))
  | quoted => seq (literal ['"']) (seq (many quotedPart) (literal ['"']))
  | assign => literal [':', '=']
  | semicolon => literal [';']
  | plus => literal ['+']
  | minus => literal ['-']
  | star => literal ['*']
  | slash => literal ['/']
  | openParen => literal ['(']
  | closeParen => literal [')']

/-- Of two patterns that both take something the one of higher priority wins. -/
def priority : Pattern → Nat
  | blockComment => 2
  | _ => 0

def isLazy (pattern : Pattern) : Bool :=
  pattern = blockComment

/-- Whether the pattern matches the word, and of the other words at the beginning of the text that
it matches none would be taken in its place. -/
def Takes (pattern : Pattern) (word rest : List Char) : Prop :=
  pattern.regex.Matches word ∧ ∀ other, other <+: word ++ rest → pattern.regex.Matches other →
    if pattern.isLazy then word.length ≤ other.length else other.length ≤ word.length

/-- Whether the pattern takes the word and no pattern of higher priority takes anything. -/
def Wins (pattern : Pattern) (word rest : List Char) : Prop :=
  pattern.Takes word rest ∧ ∀ rival : Pattern, pattern.priority < rival.priority →
    ∀ other, other <+: word ++ rest → ¬rival.regex.Matches other

/-- A word is taken in the same way if less text follows. -/
theorem Wins.truncate {pattern : Pattern} {word rest shorter : List Char}
    (h : pattern.Wins word rest) (hstart : shorter <+: rest) : pattern.Wins word shorter := by
  obtain ⟨⟨hmatches, hbest⟩, hrivals⟩ := h
  have hlonger : word ++ shorter <+: word ++ rest := (List.prefix_append_right_inj word).mpr hstart
  exact ⟨⟨hmatches, fun other hother => hbest other (hother.trans hlonger)⟩,
    fun rival hrival other hother => hrivals rival hrival other (hother.trans hlonger)⟩

theorem Wins.concat {pattern : Pattern} {word rest : List Char} {c : Char}
    (h : pattern.Wins word rest) (hself : ¬pattern.regex.Matches (word ++ rest ++ [c]))
    (hwhole : ∀ rival : Pattern, pattern.priority < rival.priority →
      ¬rival.regex.Matches (word ++ rest ++ [c])) :
    pattern.Wins word (rest ++ [c]) := by
  obtain ⟨⟨hmatches, hbest⟩, hrivals⟩ := h
  have hcases : ∀ other, other <+: word ++ (rest ++ [c]) →
      other <+: word ++ rest ∨ other = word ++ rest ++ [c] := by
    intro other hother
    rw [← List.append_assoc, List.prefix_concat_iff] at hother
    exact hother.symm
  refine ⟨⟨hmatches, fun other hother hmatch => ?_⟩, fun rival hrival other hother hmatch => ?_⟩
  · obtain hother | rfl := hcases other hother
    · exact hbest other hother hmatch
    · exact absurd hmatch hself
  · obtain hother | rfl := hcases other hother
    · exact hrivals rival hrival other hother hmatch
    · exact hwhole rival hrival hmatch

/-! ### Scanners -/

def length? : Pattern → List Char → Option Nat
  | blank => headedLength? isIgnorable isIgnorable
  | lineComment => headedLength? (· = '#') (· ≠ '\n')
  | blockComment => openedLength? ['(', '*'] commentLength?
  | name => headedLength? isNameStart isNamePart
  | number => fun text => if digitsLength text = 0 then none else some (numberLength text)
  | quoted => openedLength? ['"'] stringLength?
  | assign => literalLength? [':', '=']
  | semicolon => literalLength? [';']
  | plus => literalLength? ['+']
  | minus => literalLength? ['-']
  | star => literalLength? ['*']
  | slash => literalLength? ['/']
  | openParen => literalLength? ['(']
  | closeParen => literalLength? [')']

/-! ### Block comments and strings -/

def closing : Regex :=
  seq (many (char fun _ => true)) (literal ['*', ')'])

theorem matches_closing {text : List Char} :
    closing.Matches text ↔ ∃ inner, text = inner ++ ['*', ')'] := by
  constructor
  · rintro ⟨inner, last, _, hlast, rfl⟩
    exact ⟨inner, by rw [matches_literal.mp hlast]⟩
  · rintro ⟨inner, rfl⟩
    exact ⟨inner, _, matches_many_char.mpr (by simp), matches_literal.mpr rfl, rfl⟩

theorem scans_closing (text : List Char) : Scans closing true text (commentLength? text) := by
  induction text using commentLength?.induct with
  | case1 tail =>
      refine ⟨by simp, matches_closing.mpr ⟨[], rfl⟩, ?_⟩
      rintro word - hmatches
      obtain ⟨inner, rfl⟩ := matches_closing.mp hmatches
      simp
  | case2 c rest hopen ih =>
      rw [commentLength?.eq_2 c rest hopen]
      refine ih.shift [c] fun word hword => ?_
      constructor
      · intro hmatches
        obtain ⟨inner, rfl⟩ := matches_closing.mp hmatches
        cases inner with
        | nil =>
            obtain ⟨rfl, tail, rfl⟩ := List.cons_prefix_cons.mp hword
            exact (hopen tail rfl rfl).elim
        | cons d inner =>
            obtain ⟨rfl, _⟩ := List.cons_prefix_cons.mp hword
            exact ⟨_, rfl, matches_closing.mpr ⟨inner, rfl⟩⟩
      · rintro ⟨back, rfl, hback⟩
        obtain ⟨inner, rfl⟩ := matches_closing.mp hback
        exact matches_closing.mpr ⟨c :: inner, rfl⟩
  | case3 =>
      rintro word hword hmatches
      obtain ⟨inner, rfl⟩ := matches_closing.mp hmatches
      simp at hword

def unquoting : Regex :=
  seq (many quotedPart) (literal ['"'])

theorem matches_unquoting {text : List Char} :
    unquoting.Matches text ↔ text = ['"'] ∨
      (∃ c rest, text = c :: rest ∧ c ≠ '"' ∧ c ≠ '\\' ∧ unquoting.Matches rest) ∨
        ∃ c rest, text = '\\' :: c :: rest ∧ c ≠ '\n' ∧ unquoting.Matches rest := by
  constructor
  · rintro ⟨_, last, ⟨parts, hparts, rfl⟩, hlast, rfl⟩
    obtain rfl := matches_literal.mp hlast
    cases parts with
    | nil => exact .inl rfl
    | cons part parts =>
        have hrest : unquoting.Matches (parts.flatten ++ ['"']) :=
          ⟨_, _, ⟨parts, fun p hp => hparts p (by simp [hp]), rfl⟩, matches_literal.mpr rfl, rfl⟩
        right
        obtain ⟨c, hc, rfl⟩ | ⟨_, _, hslash, ⟨c, hc, rfl⟩, rfl⟩ := hparts part (by simp)
        · obtain ⟨hquote, hslash⟩ : c ≠ '"' ∧ c ≠ '\\' := by simpa using hc
          exact .inl ⟨c, _, rfl, hquote, hslash, hrest⟩
        · obtain rfl := matches_literal.mp hslash
          exact .inr ⟨c, _, rfl, by simpa using hc, hrest⟩
  · rintro (rfl | ⟨c, rest, rfl, hquote, hslash, body, last, ⟨parts, hparts, rfl⟩, hlast, rfl⟩ |
      ⟨c, rest, rfl, hnewline, body, last, ⟨parts, hparts, rfl⟩, hlast, rfl⟩)
    · exact ⟨[], _, ⟨[], by simp, rfl⟩, matches_literal.mpr rfl, rfl⟩
    · refine ⟨c :: parts.flatten, last, ⟨[c] :: parts, ?_, rfl⟩, hlast, rfl⟩
      simpa [hquote, hslash, quotedPart, Matches] using hparts
    · refine ⟨'\\' :: c :: parts.flatten, last, ⟨['\\', c] :: parts, ?_, rfl⟩, hlast, rfl⟩
      simp only [List.mem_cons, forall_eq_or_imp]
      exact ⟨.inr ⟨['\\'], [c], matches_literal.mpr rfl, ⟨c, by simpa using hnewline, rfl⟩, rfl⟩,
        hparts⟩

theorem matches_unquoting_quote {rest : List Char} :
    unquoting.Matches ('"' :: rest) ↔ rest = [] := by
  rw [matches_unquoting]
  simp

theorem matches_unquoting_backslash {rest : List Char} :
    unquoting.Matches ('\\' :: rest) ↔
      ∃ c back, rest = c :: back ∧ c ≠ '\n' ∧ unquoting.Matches back := by
  rw [matches_unquoting]
  simp

theorem matches_unquoting_cons {c : Char} {rest : List Char} (hquote : c ≠ '"')
    (hslash : c ≠ '\\') : unquoting.Matches (c :: rest) ↔ unquoting.Matches rest := by
  rw [matches_unquoting]
  simp [hquote, hslash]

theorem exists_of_matches_unquoting {c : Char} {text word : List Char}
    (hword : word <+: c :: text) (h : unquoting.Matches word) :
    ∃ rest, word = c :: rest ∧ rest <+: text := by
  cases word with
  | nil =>
      rw [matches_unquoting] at h
      simp at h
  | cons d rest =>
      obtain ⟨rfl, hrest⟩ := List.cons_prefix_cons.mp hword
      exact ⟨rest, rfl, hrest⟩

theorem scans_unquoting (text : List Char) :
    Scans unquoting false text (stringLength? text) := by
  induction text using stringLength?.induct with
  | case1 tail =>
      refine ⟨by simp, matches_unquoting_quote.mpr rfl, ?_⟩
      rintro word hword hmatches
      obtain ⟨rest, rfl, -⟩ := exists_of_matches_unquoting hword hmatches
      rw [matches_unquoting_quote.mp hmatches]
      simp
  | case2 rest =>
      rw [stringLength?, if_pos rfl]
      rintro word hword hmatches
      obtain ⟨_, rfl, hrest⟩ := exists_of_matches_unquoting hword hmatches
      obtain ⟨c, back, rfl, hnewline, -⟩ := matches_unquoting_backslash.mp hmatches
      exact hnewline (List.cons_prefix_cons.mp hrest).1
  | case3 c rest hnewline ih =>
      rw [stringLength?, if_neg hnewline]
      refine ih.shift ['\\', c] fun word hword => ?_
      constructor
      · intro hmatches
        obtain ⟨_, rfl, hrest⟩ := exists_of_matches_unquoting hword hmatches
        obtain ⟨d, back, rfl, -, hback⟩ := matches_unquoting_backslash.mp hmatches
        obtain rfl := (List.cons_prefix_cons.mp hrest).1
        exact ⟨back, rfl, hback⟩
      · rintro ⟨back, rfl, hback⟩
        exact matches_unquoting_backslash.mpr ⟨c, back, rfl, hnewline, hback⟩
  | case4 rest hquote hescape =>
      have hnil : rest = [] := by
        cases rest with
        | nil => rfl
        | cons c rest => exact (hescape c rest rfl rfl).elim
      rw [hnil, stringLength?.eq_3 _ _ (by simp) (by simp), if_pos rfl]
      rintro word hword hmatches
      obtain ⟨_, rfl, hrest⟩ := exists_of_matches_unquoting hword hmatches
      obtain ⟨c, back, rfl, -⟩ := matches_unquoting_backslash.mp hmatches
      simp at hrest
  | case5 c rest hquote hescape hslash ih =>
      rw [stringLength?.eq_3 c rest hquote hescape, if_neg hslash]
      refine ih.shift [c] fun word hword => ?_
      constructor
      · intro hmatches
        obtain ⟨back, rfl, -⟩ := exists_of_matches_unquoting hword hmatches
        exact ⟨back, rfl, (matches_unquoting_cons hquote hslash).mp hmatches⟩
      · rintro ⟨back, rfl, hback⟩
        exact (matches_unquoting_cons hquote hslash).mpr hback
  | case6 =>
      rintro word hword hmatches
      obtain rfl := List.prefix_nil.mp hword
      rw [matches_unquoting] at hmatches
      simp at hmatches

/-! ### Numbers -/

theorem digitsLength_append {front : List Char} (rest : List Char)
    (h : ∀ c ∈ front, Text.isDigit c = true) :
    digitsLength (front ++ rest) = front.length + digitsLength rest := by
  rw [digitsLength, List.takeWhile_append_of_pos h, List.length_append, digitsLength]

theorem digitsLength_cons {c : Char} (rest : List Char) (h : Text.isDigit c = true) :
    digitsLength (c :: rest) = digitsLength rest + 1 := by
  simp [digitsLength, h]

theorem digitsLength_cons_of_not {c : Char} (rest : List Char) (h : Text.isDigit c = false) :
    digitsLength (c :: rest) = 0 := by
  simp [digitsLength, h]

theorem digitsLength_le (text : List Char) : digitsLength text ≤ text.length :=
  (List.takeWhile_prefix _).length_le

theorem matches_digits_take {text : List Char} (h : digitsLength text ≠ 0) :
    digits.Matches (text.take (digitsLength text)) := by
  rw [digitsLength, take_takeWhile_length]
  refine matches_several_char.mpr ⟨?_, fun c hc => List.mem_takeWhile_imp hc⟩
  rintro hnil
  exact h (by rw [digitsLength, hnil, List.length_nil])

theorem matches_fraction {text : List Char} :
    fraction.Matches text ↔
      ∃ places, text = '.' :: places ∧ places ≠ [] ∧ ∀ c ∈ places, Text.isDigit c = true := by
  simp [fraction, Matches, digits, matches_several_char, and_comm]

theorem matches_power {text : List Char} :
    power.Matches text ↔ ∃ c sign places, text = c :: (sign ++ places) ∧ (c = 'e' ∨ c = 'E') ∧
      (sign = [] ∨ sign = ['+'] ∨ sign = ['-']) ∧ places ≠ [] ∧
        ∀ c ∈ places, Text.isDigit c = true := by
  constructor
  · rintro ⟨_, _, ⟨c, hc, rfl⟩, ⟨sign, places, hsign, hplaces, rfl⟩, rfl⟩
    refine ⟨c, sign, places, rfl, by simpa using hc, ?_, matches_several_char.mp hplaces⟩
    obtain rfl | ⟨d, hd, rfl⟩ := hsign
    · exact .inl rfl
    · simpa using hd
  · rintro ⟨c, sign, places, rfl, hc, hsign, hplaces⟩
    refine ⟨[c], _, ⟨c, by simpa using hc, rfl⟩,
      ⟨sign, places, ?_, matches_several_char.mpr hplaces, rfl⟩, rfl⟩
    obtain rfl | rfl | rfl := hsign
    · exact .inl rfl
    · exact .inr ⟨'+', rfl, rfl⟩
    · exact .inr ⟨'-', rfl, rfl⟩

theorem fractionLength_append {text : List Char} (rest : List Char) (h : fraction.Matches text) :
    fractionLength (text ++ rest) = text.length + digitsLength rest := by
  obtain ⟨places, rfl, hne, hplaces⟩ := matches_fraction.mp h
  have hpositive : 0 < places.length := List.length_pos_iff.mpr hne
  rw [List.cons_append, fractionLength, digitsLength_append rest hplaces, if_neg (by omega),
    List.length_cons]
  omega

theorem fractionLength_cons_of_ne {c : Char} (rest : List Char) (h : c ≠ '.') :
    fractionLength (c :: rest) = 0 := by
  unfold fractionLength
  split
  · rename_i heq
    exact absurd (List.cons.inj heq).1 h
  · rfl

/-- The sign of a power is skipped before its digits are counted. -/
theorem powerLength_cons {c : Char} {sign rest : List Char} (hc : c = 'e' ∨ c = 'E')
    (hsign : sign = ['+'] ∨ sign = ['-'] ∨ sign = [] ∧ rest.head? ≠ some '+' ∧
      rest.head? ≠ some '-') :
    powerLength (c :: (sign ++ rest)) =
      if digitsLength rest = 0 then 0 else digitsLength rest + sign.length + 1 := by
  unfold powerLength
  simp only [if_pos hc]
  obtain rfl | rfl | ⟨rfl, hplus, hminus⟩ := hsign
  · rfl
  · rfl
  · cases rest with
    | nil => rfl
    | cons d rest =>
        simp only [List.head?_cons, ne_eq, Option.some.injEq] at hplus hminus
        rw [List.nil_append]
        split
        · rename_i heq
          exact absurd (List.cons.inj heq).1 hplus
        · rename_i heq
          exact absurd (List.cons.inj heq).1 hminus
        · rfl

theorem exists_sign (text : List Char) :
    ∃ sign rest, text = sign ++ rest ∧ (sign = ['+'] ∨ sign = ['-'] ∨
      sign = [] ∧ rest.head? ≠ some '+' ∧ rest.head? ≠ some '-') := by
  by_cases hplus : text.head? = some '+'
  · obtain ⟨rest, rfl⟩ := List.head?_eq_some_iff.mp hplus
    exact ⟨['+'], rest, rfl, .inl rfl⟩
  by_cases hminus : text.head? = some '-'
  · obtain ⟨rest, rfl⟩ := List.head?_eq_some_iff.mp hminus
    exact ⟨['-'], rest, rfl, .inr (.inl rfl)⟩
  exact ⟨[], text, rfl, .inr (.inr ⟨rfl, hplus, hminus⟩)⟩

theorem powerLength_append {text : List Char} (rest : List Char) (h : power.Matches text) :
    powerLength (text ++ rest) = text.length + digitsLength rest := by
  obtain ⟨c, sign, places, rfl, hc, hsign, hne, hplaces⟩ := matches_power.mp h
  have hpositive : 0 < places.length := List.length_pos_iff.mpr hne
  have hdigits := digitsLength_append rest hplaces
  have hnosign : (places ++ rest).head? ≠ some '+' ∧ (places ++ rest).head? ≠ some '-' := by
    obtain ⟨d, others, rfl⟩ := List.exists_cons_of_ne_nil hne
    have hd := hplaces d (by simp)
    simp only [List.cons_append, List.head?_cons, ne_eq, Option.some.injEq]
    constructor <;> rintro rfl <;> exact absurd hd (by decide)
  rw [List.cons_append, List.append_assoc, powerLength_cons hc, hdigits, if_neg (by omega)]
  · simp only [List.length_cons, List.length_append]
    omega
  · obtain rfl | rfl | rfl := hsign
    · exact .inr (.inr ⟨rfl, hnosign⟩)
    · exact .inl rfl
    · exact .inr (.inl rfl)

theorem powerLength_cons_of_ne {c : Char} (rest : List Char) (h : ¬(c = 'e' ∨ c = 'E')) :
    powerLength (c :: rest) = 0 := by
  unfold powerLength
  exact if_neg h

theorem fraction_take (text : List Char) :
    fractionLength text ≤ text.length ∧
      (optional fraction).Matches (text.take (fractionLength text)) := by
  unfold fractionLength
  split
  · rename_i rest
    split
    · exact ⟨by simp, .inl rfl⟩
    · rename_i hdigits
      have hle := digitsLength_le rest
      exact ⟨by simpa using hle, .inr ⟨['.'], _, matches_literal.mpr rfl,
        matches_digits_take hdigits, rfl⟩⟩
  · exact ⟨by simp, .inl rfl⟩

theorem power_take (text : List Char) :
    powerLength text ≤ text.length ∧ (optional power).Matches (text.take (powerLength text)) := by
  cases text with
  | nil => exact ⟨by simp [powerLength], .inl rfl⟩
  | cons c text =>
      by_cases hc : c = 'e' ∨ c = 'E'
      · obtain ⟨sign, rest, rfl, hsign⟩ := exists_sign text
        rw [powerLength_cons hc hsign]
        split
        · exact ⟨by simp, .inl rfl⟩
        · rename_i hdigits
          have hle := digitsLength_le rest
          refine ⟨by simp; omega, .inr (matches_power.mpr ⟨c, sign, rest.take (digitsLength rest),
            ?_, hc, ?_, matches_several_char.mp (matches_digits_take hdigits)⟩)⟩
          · rw [List.take_succ_cons, Nat.add_comm, List.take_length_add_append]
          · obtain rfl | rfl | ⟨rfl, -⟩ := hsign <;> simp
      · rw [powerLength_cons_of_ne text hc]
        exact ⟨by simp, .inl rfl⟩

theorem matches_number {text : List Char} :
    number.regex.Matches text ↔ ∃ whole places exponent, text = whole ++ (places ++ exponent) ∧
      (whole ≠ [] ∧ ∀ c ∈ whole, Text.isDigit c = true) ∧
        (optional fraction).Matches places ∧ (optional power).Matches exponent := by
  constructor
  · rintro ⟨whole, _, hwhole, ⟨places, exponent, hplaces, hexponent, rfl⟩, rfl⟩
    exact ⟨whole, places, exponent, rfl, matches_several_char.mp hwhole, hplaces, hexponent⟩
  · rintro ⟨whole, places, exponent, rfl, hwhole, hplaces, hexponent⟩
    exact ⟨whole, _, matches_several_char.mpr hwhole, ⟨places, exponent, hplaces, hexponent, rfl⟩,
      rfl⟩

/-- What follows the digits of a number begins with a point or a letter, so they are all the
digits that there are. -/
theorem length_le_numberLength {word : List Char} (rest : List Char)
    (h : number.regex.Matches word) : word.length ≤ numberLength (word ++ rest) := by
  obtain ⟨whole, places, exponent, rfl, ⟨_, hwhole⟩, hplaces, hexponent⟩ := matches_number.mp h
  have hpower : exponent ≠ [] → digitsLength (exponent ++ rest) = 0 ∧
      fractionLength (exponent ++ rest) = 0 ∧
        exponent.length ≤ powerLength (exponent ++ rest) := by
    intro hne
    obtain rfl | hmatches := hexponent
    · exact absurd rfl hne
    · have hlength := powerLength_append rest hmatches
      obtain ⟨c, sign, digits, rfl, hc, _⟩ := matches_power.mp hmatches
      refine ⟨digitsLength_cons_of_not _ ?_, fractionLength_cons_of_ne _ ?_, by omega⟩
      · obtain rfl | rfl := hc <;> decide
      · obtain rfl | rfl := hc <;> decide
  have hfraction : places ≠ [] → digitsLength (places ++ (exponent ++ rest)) = 0 ∧
      fractionLength (places ++ (exponent ++ rest)) =
        places.length + digitsLength (exponent ++ rest) := by
    intro hne
    obtain rfl | hmatches := hplaces
    · exact absurd rfl hne
    · have hlength := fractionLength_append (exponent ++ rest) hmatches
      obtain ⟨digits, rfl, _⟩ := matches_fraction.mp hmatches
      exact ⟨digitsLength_cons_of_not _ (by decide), hlength⟩
  simp only [numberLength, List.append_assoc, digitsLength_append _ hwhole]
  by_cases hnoplaces : places = []
  · subst hnoplaces
    by_cases hnoexponent : exponent = []
    · subst hnoexponent
      simp
      omega
    · obtain ⟨hdigits, hpoint, hle⟩ := hpower hnoexponent
      simp only [List.nil_append, hdigits, Nat.add_zero, List.drop_left, hpoint, List.length_append]
      simp
      omega
  · obtain ⟨hdigits, hpoint⟩ := hfraction hnoplaces
    simp only [hdigits, Nat.add_zero, List.drop_left, hpoint]
    by_cases hnoexponent : exponent = []
    · subst hnoexponent
      simp
      omega
    · obtain ⟨hdigits', -, hle⟩ := hpower hnoexponent
      simp only [hdigits', Nat.add_zero, List.drop_length_add_append, List.drop_left,
        List.length_append]
      omega

theorem exists_digit_of_number {text : List Char} (h : number.regex.Matches text) :
    ∃ c rest, text = c :: rest ∧ Text.isDigit c = true := by
  obtain ⟨whole, places, exponent, rfl, ⟨hne, hwhole⟩, _⟩ := matches_number.mp h
  obtain ⟨c, others, rfl⟩ := List.exists_cons_of_ne_nil hne
  exact ⟨c, _, rfl, hwhole c List.mem_cons_self⟩

theorem matches_number_of_digits {text : List Char} (h : digits.Matches text) :
    number.regex.Matches text :=
  matches_number.mpr ⟨text, [], [], by simp, matches_several_char.mp h, .inl rfl, .inl rfl⟩

theorem numberLength_append {word rest : List Char} (h : number.regex.Matches word)
    (hdigits : digitsLength rest = 0) (hfraction : fractionLength rest = 0)
    (hpower : powerLength rest = 0) : numberLength (word ++ rest) = word.length := by
  obtain ⟨whole, places, exponent, rfl, ⟨_, hwhole⟩, hplaces, hexponent⟩ := matches_number.mp h
  have hlast : digitsLength (exponent ++ rest) = 0 ∧ fractionLength (exponent ++ rest) = 0 ∧
      powerLength (exponent ++ rest) = exponent.length := by
    obtain rfl | hmatches := hexponent
    · exact ⟨hdigits, hfraction, hpower⟩
    · have hlength := powerLength_append rest hmatches
      obtain ⟨c, sign, digits, rfl, hc, _⟩ := matches_power.mp hmatches
      refine ⟨digitsLength_cons_of_not _ ?_, fractionLength_cons_of_ne _ ?_, by omega⟩
      · obtain rfl | rfl := hc <;> decide
      · obtain rfl | rfl := hc <;> decide
  have hmiddle : digitsLength (places ++ (exponent ++ rest)) = 0 ∧
      fractionLength (places ++ (exponent ++ rest)) = places.length := by
    obtain rfl | hmatches := hplaces
    · exact ⟨hlast.1, hlast.2.1⟩
    · have hlength := fractionLength_append (exponent ++ rest) hmatches
      obtain ⟨digits, rfl, _⟩ := matches_fraction.mp hmatches
      exact ⟨digitsLength_cons_of_not _ (by decide), by omega⟩
  simp only [numberLength, List.append_assoc, digitsLength_append _ hwhole, hmiddle, Nat.add_zero,
    List.drop_left, List.drop_length_add_append, hlast, List.length_append, Nat.add_assoc]

theorem numberLength_cons {c : Char} (rest : List Char) (h : Text.isDigit c = true) :
    numberLength (c :: rest) = numberLength rest + 1 := by
  simp only [numberLength, digitsLength_cons rest h, List.drop_succ_cons, Nat.add_right_comm _ 1]

theorem number_take {text : List Char} (h : digitsLength text ≠ 0) :
    numberLength text ≤ text.length ∧ number.regex.Matches (text.take (numberLength text)) := by
  have hdigits := digitsLength_le text
  obtain ⟨hfraction, hplaces⟩ := fraction_take (text.drop (digitsLength text))
  obtain ⟨hpower, hexponent⟩ := power_take (text.drop (digitsLength text +
    fractionLength (text.drop (digitsLength text))))
  rw [List.length_drop] at hfraction hpower
  refine ⟨by simp only [numberLength]; omega, matches_number.mpr ⟨_, _, _, ?_,
    matches_several_char.mp (matches_digits_take h), hplaces, hexponent⟩⟩
  simp only [numberLength, List.take_add, List.append_assoc]

theorem scans_number (text : List Char) :
    Scans number.regex false text
      (if digitsLength text = 0 then none else some (numberLength text)) := by
  split
  · rename_i hdigits
    rintro word ⟨back, rfl⟩ hmatches
    obtain ⟨whole, places, exponent, rfl, ⟨hne, hwhole⟩, _⟩ := matches_number.mp hmatches
    rw [List.append_assoc, digitsLength_append _ hwhole] at hdigits
    exact hne (List.length_eq_zero_iff.mp (by omega))
  · rename_i hdigits
    obtain ⟨hle, hmatches⟩ := number_take hdigits
    refine ⟨hle, hmatches, ?_⟩
    rintro word ⟨back, rfl⟩ hother
    exact length_le_numberLength back hother

/-! ### What wins -/

theorem not_matches_nil (pattern : Pattern) : ¬pattern.regex.Matches [] := by
  cases pattern with
  | blank | name | lineComment =>
      rintro h
      obtain ⟨c, rest, hnil, _⟩ := matches_headed.mp h
      exact absurd hnil (by simp)
  | blockComment | quoted =>
      rintro ⟨front, back, hfront, _, hnil⟩
      rw [matches_literal.mp hfront] at hnil
      simp at hnil
  | number =>
      rintro h
      obtain ⟨whole, places, exponent, hnil, ⟨hne, _⟩, _⟩ := matches_number.mp h
      simp only [List.nil_eq, List.append_eq_nil_iff] at hnil
      exact hne hnil.1
  | _ => exact fun h => absurd (matches_literal.mp h) (by simp)

/-- The scanner of a pattern computes how much it takes. -/
theorem scans (pattern : Pattern) (text : List Char) :
    Scans pattern.regex pattern.isLazy text (pattern.length? text) := by
  cases pattern with
  | blank | name | lineComment => exact scans_headed _ _ text
  | blockComment => exact scans_opened _ scans_closing text
  | quoted => exact scans_opened _ scans_unquoting text
  | number => exact scans_number text
  | _ => exact scans_literal _ text

theorem takes_iff {pattern : Pattern} {word rest : List Char} :
    pattern.Takes word rest ↔ pattern.length? (word ++ rest) = some word.length := by
  have hscans := pattern.scans (word ++ rest)
  constructor
  · rintro ⟨hmatches, hbest⟩
    cases hlength : pattern.length? (word ++ rest) with
    | none =>
        rw [hlength] at hscans
        exact absurd hmatches (hscans word (List.prefix_append word rest))
    | some n =>
        rw [hlength] at hscans
        obtain ⟨hle, hmatches', hbest'⟩ := hscans
        have hother := hbest _ (List.take_prefix n _) hmatches'
        have hword := hbest' word (List.prefix_append word rest) hmatches
        rw [List.length_take, Nat.min_eq_left hle] at hother
        rw [Option.some.injEq]
        cases hlazy : pattern.isLazy <;>
          simp only [hlazy, if_true, Bool.false_eq_true, if_false] at hother hword <;> omega
  · intro hlength
    rw [hlength] at hscans
    obtain ⟨_, hmatches, hbest⟩ := hscans
    rw [List.take_left] at hmatches
    exact ⟨hmatches, hbest⟩

theorem wins_iff {pattern : Pattern} {word rest : List Char} :
    pattern.Wins word rest ↔ pattern.length? (word ++ rest) = some word.length ∧
      (pattern ≠ blockComment → blockComment.length? (word ++ rest) = none) := by
  rw [Wins, takes_iff, and_congr_right_iff]
  intro _
  have hscans := blockComment.scans (word ++ rest)
  constructor
  · intro hrivals hne
    cases hlength : blockComment.length? (word ++ rest) with
    | none => rfl
    | some n =>
        rw [hlength] at hscans
        have hlower : pattern.priority < blockComment.priority := by
          cases pattern <;> first | exact absurd rfl hne | decide
        exact absurd hscans.2.1 (hrivals blockComment hlower _ (List.take_prefix n _))
  · intro hnone rival hrival other hother
    have hrival' : rival = blockComment ∧ pattern ≠ blockComment := by
      cases pattern <;> cases rival <;> first | exact absurd hrival (by decide) | simp
    obtain ⟨rfl, hne⟩ := hrival'
    rw [hnone hne] at hscans
    exact hscans other hother

/-- The pattern of the words that begin with a character, block comments apart. -/
def ofStart? (c : Char) : Option Pattern :=
  if isIgnorable c then some blank
  else if isNameStart c then some name
  else if Text.isDigit c then some number
  else match c with
    | '"' => some quoted
    | '#' => some lineComment
    | '(' => some openParen
    | ')' => some closeParen
    | ':' => some assign
    | ';' => some semicolon
    | '+' => some plus
    | '-' => some minus
    | '*' => some star
    | '/' => some slash
    | _ => none

/-- The pattern that wins at the beginning of a text, and how much it takes. -/
def winner? (text : List Char) : Option (Pattern × Nat) :=
  match blockComment.length? text with
  | some n => some (blockComment, n)
  | none => do
    let pattern ← ofStart? (← text.head?)
    return (pattern, ← pattern.length? text)

theorem isIgnorable_bound {c : Char} (h : isIgnorable c = true) : c.toNat ≤ 0x20 := by
  simp only [isIgnorable, Bool.or_eq_true, decide_eq_true_eq] at h
  obtain (((rfl | rfl) | rfl) | rfl) | rfl := h <;> decide

theorem isNameStart_bounds {c : Char} (h : isNameStart c = true) :
    0x5f ≤ c.toNat ∧ c.toNat ≤ 0x7a := by
  simp only [isNameStart, Char.isLower, Bool.or_eq_true, Bool.and_eq_true, decide_eq_true_eq] at h
  obtain ⟨hlow, hhigh⟩ | rfl := h
  · exact ⟨Nat.le_of_succ_le (Nat.le_of_succ_le (UInt32.le_iff_toNat_le.mp hlow)),
      UInt32.le_iff_toNat_le.mp hhigh⟩
  · decide

theorem isNamePart_bounds {c : Char} (h : isNamePart c = true) :
    0x30 ≤ c.toNat ∧ c.toNat ≤ 0x7a := by
  simp only [isNamePart, Char.isAlphanum, Char.isAlpha, Char.isUpper, Char.isLower, Char.isDigit,
    Bool.or_eq_true, Bool.and_eq_true, decide_eq_true_eq, ge_iff_le, UInt32.le_iff_toNat_le] at h
  obtain ((h | h) | h) | rfl := h
  · simp at h
    omega
  · simp at h
    omega
  · simp at h
    omega
  · decide

theorem isDigit_bounds {c : Char} (h : Text.isDigit c = true) :
    0x30 ≤ c.toNat ∧ c.toNat ≤ 0x39 ∨ 0x660 ≤ c.toNat := by
  have hzeros : ∀ z ∈ Text.zeros, z = 0x30 ∨ 0x660 ≤ z := by decide
  simp only [Text.isDigit, Text.digit?, Option.isSome_map, List.find?_isSome, Bool.and_eq_true,
    decide_eq_true_eq] at h
  obtain ⟨z, hz, hlow, hhigh⟩ := h
  have := hzeros z hz
  omega

theorem not_isIgnorable_of_isNameStart {c : Char} (h : isNameStart c = true) :
    isIgnorable c = false := by
  by_contra hblank
  have := isIgnorable_bound (by simpa using hblank)
  have := isNameStart_bounds h
  omega

theorem not_isIgnorable_of_isDigit {c : Char} (h : Text.isDigit c = true) :
    isIgnorable c = false := by
  by_contra hblank
  have := isIgnorable_bound (by simpa using hblank)
  have := isDigit_bounds h
  omega

/-! ### The characters of names and numbers -/

theorem isNamePart_of_isNameStart {c : Char} (h : isNameStart c = true) : isNamePart c = true := by
  simp only [isNameStart, isNamePart, Char.isAlphanum, Char.isAlpha, Bool.or_eq_true] at h ⊢
  obtain h | h := h
  · exact .inl (.inl (.inr h))
  · exact .inr h

theorem isNamePart_of_mem_name {word : List Char} (h : name.regex.Matches word) :
    ∀ c ∈ word, isNamePart c = true := by
  obtain ⟨c, rest, rfl, hc, hrest⟩ := matches_headed.mp h
  simpa using ⟨isNamePart_of_isNameStart hc, hrest⟩

def IsNumberSign (c : Char) : Prop :=
  c ∈ ['.', 'e', 'E', '+', '-']

theorem isDigit_or_of_mem_number {word : List Char} (h : number.regex.Matches word) :
    ∀ c ∈ word, Text.isDigit c = true ∨ IsNumberSign c := by
  obtain ⟨whole, places, exponent, rfl, ⟨_, hwhole⟩, hplaces, hexponent⟩ := matches_number.mp h
  intro c hc
  simp only [List.mem_append] at hc
  obtain hc | hc | hc := hc
  · exact .inl (hwhole c hc)
  · obtain rfl | hfraction := hplaces
    · cases hc
    · obtain ⟨digits, rfl, _, hdigits⟩ := matches_fraction.mp hfraction
      obtain rfl | hc := List.mem_cons.mp hc
      · exact .inr (by simp [IsNumberSign])
      · exact .inl (hdigits c hc)
  · obtain rfl | hpower := hexponent
    · cases hc
    · obtain ⟨letter, sign, digits, rfl, hletter, hsign, _, hdigits⟩ := matches_power.mp hpower
      obtain rfl | hc := List.mem_cons.mp hc
      · exact .inr (by obtain rfl | rfl := hletter <;> simp [IsNumberSign])
      · obtain hc | hc := List.mem_append.mp hc
        · right
          obtain rfl | rfl | rfl := hsign
          · cases hc
          · simp_all [IsNumberSign]
          · simp_all [IsNumberSign]
        · exact .inl (hdigits c hc)

/-! ### The winner -/

theorem ofStart?_of_length {pattern : Pattern} {c : Char} {rest : List Char} {n : Nat}
    (hne : pattern ≠ blockComment) (h : pattern.length? (c :: rest) = some n) :
    ofStart? c = some pattern := by
  cases pattern with
  | blank =>
      simp only [length?, headedLength?, Option.ite_none_right_eq_some] at h
      simp [ofStart?, h.1]
  | name =>
      simp only [length?, headedLength?, Option.ite_none_right_eq_some] at h
      simp [ofStart?, h.1, not_isIgnorable_of_isNameStart h.1]
  | number =>
      simp only [length?, Option.ite_none_left_eq_some] at h
      have hdigit : Text.isDigit c = true := by
        by_contra hdigit
        exact h.1 (digitsLength_cons_of_not rest (by simpa using hdigit))
      have hname : isNameStart c = false := by
        by_contra hname
        have := isNameStart_bounds (by simpa using hname)
        have := isDigit_bounds hdigit
        omega
      simp [ofStart?, not_isIgnorable_of_isDigit hdigit, hname, hdigit]
  | lineComment =>
      simp only [length?, headedLength?, Option.ite_none_right_eq_some, decide_eq_true_eq] at h
      rw [h.1]
      decide
  | blockComment => exact absurd rfl hne
  | quoted =>
      simp only [length?, openedLength?, Option.ite_none_right_eq_some, List.cons_prefix_cons] at h
      rw [← h.1.1]
      decide
  | _ =>
      simp only [length?, literalLength?, Option.ite_none_right_eq_some, List.cons_prefix_cons] at h
      rw [← h.1.1]
      decide

/-- The pattern that wins is found by the first character. -/
theorem winner?_eq_some_iff {pattern : Pattern} {text : List Char} {n : Nat} :
    winner? text = some (pattern, n) ↔ pattern.length? text = some n ∧
      (pattern ≠ blockComment → blockComment.length? text = none) := by
  unfold winner?
  cases hblock : blockComment.length? text with
  | some m =>
      simp only [Option.some.injEq, Prod.mk.injEq, reduceCtorEq, imp_false, ne_eq, not_not]
      constructor
      · rintro ⟨rfl, rfl⟩
        exact ⟨hblock, rfl⟩
      · rintro ⟨hlength, rfl⟩
        rw [hblock] at hlength
        exact ⟨rfl, Option.some.inj hlength⟩
  | none =>
      simp only [implies_true, and_true]
      constructor
      · intro h
        simp only [bind, Option.bind_eq_some_iff, pure, Option.some.injEq, Prod.mk.injEq] at h
        obtain ⟨c, _, _, _, m, hlength, rfl, rfl⟩ := h
        exact hlength
      · intro hlength
        have hne : pattern ≠ blockComment := by
          rintro rfl
          rw [hblock] at hlength
          cases hlength
        cases text with
        | nil =>
            have hscans := pattern.scans []
            rw [hlength] at hscans
            exact absurd hscans.2.1 (by simpa using pattern.not_matches_nil)
        | cons c rest => simp [ofStart?_of_length hne hlength, hlength]

def piece (pattern : Pattern) (word : List Char) : Piece :=
  match pattern with
  | blank | lineComment | blockComment => .ignored
  | name => .token (.name word)
  | number => .token (.number word)
  | quoted => .token (.quoted word)
  | assign => .token .assign
  | semicolon => .token .semicolon
  | plus => .token .plus
  | minus => .token .minus
  | star => .token .star
  | slash => .token .slash
  | openParen => .token .openParen
  | closeParen => .token .closeParen

def cut (text : List Char) (winner : Pattern × Nat) : Piece × Nat :=
  (winner.1.piece (text.take winner.2), winner.2 - 1)

theorem winner?_cons {c : Char} {rest : List Char} (h : ¬['(', '*'] <+: c :: rest) :
    winner? (c :: rest) =
      (ofStart? c).bind fun pattern => (pattern.length? (c :: rest)).map (pattern, ·) := by
  have hnone : blockComment.length? (c :: rest) = none := if_neg h
  simp only [winner?, hnone, bind, Option.map_eq_bind]
  rfl

theorem not_open_start {c : Char} (rest : List Char) (h : c ≠ '(') :
    ¬['(', '*'] <+: c :: rest := by
  simp [h.symm]

/-- Texts are cut at the words of the patterns that win. -/
theorem first?_eq (c : Char) (rest : List Char) :
    Piece.first? c rest = (winner? (c :: rest)).map (cut (c :: rest)) := by
  by_cases hblank : isIgnorable c
  · have hnot : c ≠ '(' := by rintro rfl; exact absurd hblank (by decide)
    rw [winner?_cons (not_open_start rest hnot)]
    simp [Piece.first?, hblank, ofStart?, length?, headedLength?, cut, piece]
  by_cases hname : isNameStart c
  · have hnot : c ≠ '(' := by rintro rfl; exact absurd hname (by decide)
    rw [winner?_cons (not_open_start rest hnot)]
    simp [Piece.first?, hblank, hname, ofStart?, length?, headedLength?, cut, piece]
  by_cases hdigit : Text.isDigit c
  · have hnot : c ≠ '(' := by rintro rfl; exact absurd hdigit (by decide)
    rw [winner?_cons (not_open_start rest hnot)]
    simp [Piece.first?, hblank, hname, hdigit, ofStart?, length?, cut, piece, digitsLength_cons,
      numberLength_cons]
  simp only [Piece.first?, hblank, hname, hdigit, Bool.false_eq_true, if_false]
  split
  · rw [winner?_cons (not_open_start _ (by decide))]
    simp [ofStart?, hblank, hname, hdigit, length?, openedLength?]
    cases stringLength? rest <;> simp [cut, piece]
  · rw [winner?_cons (not_open_start _ (by decide))]
    simp [ofStart?, hblank, hname, hdigit, length?, headedLength?, cut, piece, lineLength]
  · rename_i rest inner
    simp only [winner?, length?, openedLength?, List.cons_prefix_cons, List.nil_prefix, true_and,
      if_true, List.length_cons, List.length_nil, List.drop_succ_cons, List.drop_zero]
    cases commentLength? inner <;>
      simp [ofStart?, hblank, hname, hdigit, literalLength?, cut, piece]
  · rename_i hstar
    rw [winner?_cons]
    · simp [ofStart?, hblank, hname, hdigit, length?, literalLength?, cut, piece]
    · rintro ⟨inner, hinner⟩
      exact hstar inner (List.cons.inj hinner).2.symm
  case h_12 hquote hhash hopen hclose hsemicolon hplus hminus hstar hslash _ hassign =>
    rw [winner?_cons (not_open_start _ hopen)]
    by_cases hcolon : c = ':'
    · subst hcolon
      have hnot : ¬[':', '='] <+: ':' :: rest := by
        rintro ⟨tail, htail⟩
        exact hassign tail rfl (List.cons.inj htail).2.symm
      simp [ofStart?, hblank, hname, hdigit, length?, literalLength?, hnot]
    · simp [ofStart?, *]
  all_goals
    rw [winner?_cons (not_open_start _ (by decide))]
    simp [ofStart?, hblank, hname, hdigit, length?, literalLength?, cut, piece]

/-! ### Words by their patterns -/

theorem wins_of_ne_open {pattern : Pattern} {c : Char} {word rest : List Char} (hc : c ≠ '(')
    (h : pattern.length? (c :: (word ++ rest)) = some (word.length + 1)) :
    pattern.Wins (c :: word) rest :=
  wins_iff.mpr ⟨h, fun _ => if_neg (not_open_start _ hc)⟩

theorem wins_single {pattern : Pattern} {c : Char} (rest : List Char)
    (hpattern : pattern.length? = Regex.literalLength? [c]) (hc : c ≠ '(') :
    pattern.Wins [c] rest :=
  wins_of_ne_open hc (by simp [hpattern, Regex.literalLength?])

theorem wins_blank_iff {word rest : List Char} :
    blank.Wins word rest ↔ word ≠ [] ∧ (∀ c ∈ word, isIgnorable c = true) ∧
      ∀ c, rest.head? = some c → isIgnorable c = false := by
  constructor
  · rintro ⟨⟨hmatches, hbest⟩, _⟩
    obtain ⟨hne, hall⟩ := matches_several_char.mp hmatches
    refine ⟨hne, hall, fun c hc => ?_⟩
    obtain ⟨back, rfl⟩ := List.head?_eq_some_iff.mp hc
    by_contra hignorable
    have hlonger : blank.regex.Matches (word ++ [c]) := by
      refine matches_several_char.mpr ⟨by simp, ?_⟩
      simpa [or_imp, forall_and] using ⟨hall, by simpa using hignorable⟩
    have hle := hbest (word ++ [c]) ⟨back, by simp⟩ hlonger
    simp only [isLazy, List.length_append, List.length_singleton] at hle
    exact absurd hle (by simp)
  · rintro ⟨hne, hall, hrest⟩
    obtain ⟨c, others, rfl⟩ := List.exists_cons_of_ne_nil hne
    obtain ⟨hc, hothers⟩ := List.forall_mem_cons.mp hall
    have hstop : rest.takeWhile isIgnorable = [] := by
      cases rest with
      | nil => rfl
      | cons d rest => simp [hrest d rfl]
    refine wins_of_ne_open ?_ ?_
    · rintro rfl
      exact absurd hc (by decide)
    · simp [length?, headedLength?, hc, List.takeWhile_append_of_pos hothers, hstop]

end Pattern

end LanguageShell.Calculator

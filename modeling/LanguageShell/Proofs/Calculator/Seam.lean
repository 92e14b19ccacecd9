import LanguageShell.Proofs.Calculator.Extents
import LanguageShell.Proofs.Calculator.Newline

/-!
Words on both sides of a newline. A newline that stands in no word but among blanks parts a text:
what comes after it has no influence on the words before it, except that it may close a comment that
is open there. In a text that can be understood no comment is open, so that the tokens of two such
texts with a newline between them are those of the first and then those of the second.
-/

namespace LanguageShell.Calculator

theorem stringLength?_append {text : List Char} {n : Nat} (h : stringLength? text = some n)
    (more : List Char) : stringLength? (text ++ more) = some n := by
  induction text using stringLength?.induct generalizing n with
  | case1 => simpa [stringLength?] using h
  | case2 | case4 | case6 => simp [stringLength?] at h
  | case3 c rest hnewline ih =>
      rw [stringLength?, if_neg hnewline, Option.map_eq_some_iff] at h
      obtain ⟨m, hrest, rfl⟩ := h
      rw [List.cons_append, List.cons_append, stringLength?, if_neg hnewline, ih hrest]
      rfl
  | case5 c rest hquote hescape hslash ih =>
      rw [stringLength?.eq_3 c rest hquote hescape, if_neg hslash, Option.map_eq_some_iff] at h
      obtain ⟨m, hrest, rfl⟩ := h
      rw [List.cons_append, stringLength?.eq_3 c _ hquote (fun _ _ hc => absurd hc hslash),
        if_neg hslash, ih hrest]
      rfl

namespace Pattern

open Regex

theorem Takes.append {word rest : List Char} (h : quoted.Takes word rest) (more : List Char) :
    quoted.Takes word (rest ++ more) := by
  obtain ⟨quote, inner, hquote, -, rfl⟩ := h.1
  obtain rfl := matches_literal.mp hquote
  have hlength := takes_iff.mp h
  simp only [length?, openedLength?, List.cons_append, List.nil_append, List.cons_prefix_cons,
    List.nil_prefix, and_self, if_true, List.length_cons, List.length_nil, List.drop_succ_cons,
    List.drop_zero, Option.map_eq_some_iff] at hlength
  obtain ⟨n, hinner, hn⟩ := hlength
  rw [takes_iff]
  have hmore := stringLength?_append hinner more
  rw [List.append_assoc] at hmore
  simp [length?, openedLength?, hmore, hn]

/-- Only a parenthesis that a star follows could become a block comment. -/
theorem Wins.eq_openParen {pattern : Pattern} {word rest other : List Char}
    (h : pattern.Wins word rest) (hne : pattern ≠ blockComment) {more : List Char}
    (hother : other <+: word ++ more) (hcomment : blockComment.regex.Matches other) :
    pattern = openParen ∧ word = ['('] ∧ more.head? = some '*' := by
  obtain ⟨chars, inner, hchars, -, rfl⟩ := hcomment
  obtain rfl := matches_literal.mp hchars
  obtain ⟨c, others, rfl⟩ := List.exists_cons_of_ne_nil (ne_nil_of_wins h)
  obtain ⟨rfl, hrest⟩ := List.cons_prefix_cons.mp hother
  have hstart := ofStart?_of_length hne (takes_iff.mp h.1)
  have hparen : ofStart? '(' = some openParen := by decide
  obtain rfl : openParen = pattern := Option.some.inj (hparen.symm.trans hstart)
  obtain ⟨-, rfl⟩ := List.cons.inj (matches_literal.mp h.1.1)
  obtain ⟨back, rfl⟩ := hrest
  exact ⟨rfl, rfl, rfl⟩

theorem Wins.not_isIgnorable {pattern : Pattern} {word rest : List Char}
    (h : pattern.Wins word rest) (hne : pattern ≠ blank) {c : Char} (hc : word.head? = some c) :
    isIgnorable c = false := by
  obtain ⟨others, rfl⟩ := List.head?_eq_some_iff.mp hc
  by_contra hignorable
  have hblank : ofStart? c = some blank := by simp_all [ofStart?]
  by_cases hcomment : pattern = blockComment
  · subst hcomment
    obtain ⟨chars, inner, hchars, -, hword⟩ := h.1.1
    obtain rfl := matches_literal.mp hchars
    obtain ⟨rfl, -⟩ := List.cons.inj hword
    exact hignorable (by decide)
  · have hstart := ofStart?_of_length hcomment (takes_iff.mp h.1)
    exact hne (Option.some.inj (hstart.symm.trans hblank))

/-- Words that are taken before a newline are taken whatever follows it, unless a star after a
parenthesis is waiting for the end of a comment. -/
theorem Wins.extend {pattern : Pattern} {word rest : List Char}
    (h : pattern.Wins word (rest ++ ['\n'])) (hopen : pattern = openParen → rest.head? ≠ some '*')
    (back : List Char) : pattern.Wins word (rest ++ '\n' :: back) := by
  have hsplit : rest ++ '\n' :: back = (rest ++ ['\n']) ++ back := by simp
  have hcases : ∀ other, other <+: word ++ (rest ++ '\n' :: back) →
      other <+: word ++ (rest ++ ['\n']) ∨ ∃ more, other = word ++ (rest ++ ['\n']) ++ more := by
    intro other hother
    rw [hsplit, ← List.append_assoc] at hother
    obtain hle | hle := Nat.le_total other.length (word ++ (rest ++ ['\n'])).length
    · exact .inl (List.prefix_of_prefix_length_le hother (List.prefix_append _ _) hle)
    · obtain ⟨more, hmore⟩ := List.prefix_of_prefix_length_le (List.prefix_append _ _) hother hle
      exact .inr ⟨more, hmore.symm⟩
  refine ⟨?_, fun rival hrival other hother hmatches => ?_⟩
  · by_cases hquoted : pattern = quoted
    · subst hquoted
      rw [hsplit]
      exact h.1.append back
    · refine ⟨h.1.1, fun other hother hmatches => ?_⟩
      obtain hstart | ⟨more, rfl⟩ := hcases other hother
      · exact h.1.2 other hstart hmatches
      · obtain rfl | rfl | rfl := eq_of_newline_mem hmatches (by simp)
        · -- The blanks up to the newline would have been taken already.
          obtain ⟨hne, hall⟩ := matches_several_char.mp hmatches
          have hblanks : blank.regex.Matches (word ++ (rest ++ ['\n'])) :=
            matches_several_char.mpr ⟨by simp, fun c hc => hall c (List.mem_append_left _ hc)⟩
          have hle := h.1.2 _ List.prefix_rfl hblanks
          simp [isLazy] at hle
        · simp [isLazy]
        · exact absurd rfl hquoted
  · have hne : pattern ≠ blockComment := by
      rintro rfl
      cases rival <;> exact absurd hrival (by decide)
    obtain rfl : rival = blockComment := by
      cases rival <;> first | rfl | exact absurd hrival (Nat.not_lt_zero _)
    obtain ⟨rfl, -, hstar⟩ := h.eq_openParen hne hother hmatches
    refine hopen rfl ?_
    cases rest with
    | nil => exact absurd hstar (by simp)
    | cons c rest => simpa using hstar

end Pattern

open Pattern

/-- Words before blanks that end with a newline are taken whatever follows it. -/
theorem Leads.extend {words : List Word} {blanks : List Char} (h : Leads words (blanks ++ ['\n']))
    (hchain : (words.filterMap Word.token?).IsChain Token.MayPrecede)
    (hblanks : ∀ c ∈ blanks, isIgnorable c = true) (back : List Char) :
    Leads words (blanks ++ '\n' :: back) := by
  have hstar : blanks.head? ≠ some '*' := by
    intro hhead
    exact absurd (hblanks '*' (List.mem_of_head? hhead)) (by decide)
  induction words with
  | nil => trivial
  | cons word words ih =>
      have hword := h.1
      rw [← List.append_assoc] at hword
      have hshort : Leads (word :: words) blanks := h.truncate (List.prefix_append _ _)
      refine ⟨?_, ih h.2 (isChain_filterMap_of_cons hchain)⟩
      rw [← List.append_assoc]
      exact hword.extend (hshort.head?_ne_star hchain hstar) back

theorem Splits.exists_blanks {text : List Char} {words : List Word} (h : Splits text words) :
    ∃ blanks rest others, text = blanks ++ rest ∧ words = blanksOf blanks ++ others ∧
      (∀ c ∈ blanks, isIgnorable c = true) ∧
      (∀ c, rest.head? = some c → isIgnorable c = false) ∧ Splits rest others := by
  cases h with
  | nil => exact ⟨[], [], [], rfl, rfl, by simp, by simp, .nil⟩
  | @cons word rest words wins tail =>
      by_cases hblank : word.pattern = .blank
      · obtain ⟨pattern, text⟩ := word
        obtain rfl : pattern = .blank := hblank
        obtain ⟨hne, hall, hrest⟩ := wins_blank_iff.mp wins
        refine ⟨text, rest, words, rfl, ?_, hall, hrest, tail⟩
        rw [blanksOf, if_neg hne]
        rfl
      · refine ⟨[], word.text ++ rest, word :: words, rfl, rfl, by simp, ?_, .cons wins tail⟩
        intro c hc
        rw [List.head?_append_of_ne_nil _ (ne_nil_of_wins wins)] at hc
        exact wins.not_isIgnorable hblank hc

/-! ### Tokens further on -/

def Extent.shift (more : Nat) (extent : Extent) : Extent :=
  ⟨extent.start + more, extent.stop + more⟩

def Lexeme.shift (more : Nat) (lexeme : Lexeme) : Lexeme :=
  ⟨lexeme.token, lexeme.extent.shift more⟩

namespace Word

theorem lexemesFrom_add (offset more : Nat) (words : List Word) :
    lexemesFrom (offset + more) words = (lexemesFrom offset words).map (Lexeme.shift more) := by
  induction words generalizing offset with
  | nil => rfl
  | cons word words ih =>
      rw [lexemesFrom, lexemesFrom, Nat.add_right_comm, ih]
      cases word.token? <;> rfl

theorem lexemesFrom_eq_nil {words : List Word} (h : words.filterMap Word.token? = [])
    (offset : Nat) : lexemesFrom offset words = [] :=
  List.map_eq_nil_iff.mp ((map_token_lexemesFrom offset words).trans h)

end Word

theorem textOf_blanksOf (text : List Char) : textOf (blanksOf text) = text := by
  unfold blanksOf
  split
  · rename_i hnil
    rw [hnil]
    rfl
  · simp

theorem Splits.exists_line {text : List Char} {words : List Word} (h : Splits text words) :
    ∃ front ending blanks, words = front ++ ending ∧ ending.filterMap Word.token? = [] ∧
      textOf front ++ blanks = text ∧ (∀ c ∈ blanks, isIgnorable c = true) ∧
      Leads front (blanks ++ ['\n']) := by
  obtain ⟨front, ending, line, rfl, hending, hline⟩ := h.append_newline
  have htext : textOf front ++ line = text ++ ['\n'] := by simpa using hline.textOf_eq
  obtain ⟨hfront, hblank⟩ := hline.of_append
  rw [textOf_cons, textOf_nil, List.append_nil] at hfront hblank
  obtain ⟨hne, hall, -⟩ := wins_blank_iff.mp hblank.leads.1
  obtain ⟨blanks, last, rfl⟩ := (List.eq_nil_or_concat line).resolve_left hne
  rw [List.concat_eq_append] at hfront hall htext
  rw [← List.append_assoc] at htext
  obtain ⟨hwhole, hlast⟩ := List.append_inj' htext rfl
  obtain rfl : last = '\n' := List.singleton_inj.mp hlast
  exact ⟨front, ending, blanks, rfl, List.filterMap_eq_nil_iff.mpr hending, hwhole,
    fun c hc => hall c (List.mem_append_left _ hc), hfront⟩

/-- The tokens of two texts with a newline between them are those of the first and those of the
second. -/
theorem Splits.exists_joined {first second : List Char} {words others : List Word}
    (h : Splits first words) (hchain : (words.filterMap Word.token?).IsChain Token.MayPrecede)
    (h' : Splits second others) :
    ∃ joined, Splits (first ++ '\n' :: second) joined ∧
      Word.lexemes joined =
        Word.lexemes words ++ (Word.lexemes others).map (Lexeme.shift (first.length + 1)) := by
  obtain ⟨front, ending, blanks, rfl, hending, rfl, hblanks, hfront⟩ := h.exists_line
  obtain ⟨leading, rest, back, rfl, rfl, hleading, hrest, hback⟩ := h'.exists_blanks
  rw [List.filterMap_append] at hchain
  have hleads := hfront.extend (List.isChain_append.mp hchain).1 hblanks (leading ++ rest)
  -- The blanks on both sides of the newline make one word with it.
  have hseam : blank.Wins (blanks ++ '\n' :: leading) rest := by
    refine wins_blank_iff.mpr ⟨by simp, ?_, hrest⟩
    simp only [List.forall_mem_append, List.forall_mem_cons]
    exact ⟨hblanks, by decide, hleading⟩
  have hmiddle : (blanks ++ '\n' :: leading) ++ rest = blanks ++ '\n' :: (leading ++ rest) := by
    simp
  have hjoined := (hmiddle ▸ hleads).splits (.prepend hseam hback)
  rw [hmiddle, ← List.append_assoc] at hjoined
  refine ⟨_, hjoined, ?_⟩
  have hoffset : 0 + (textOf front).length + (blanks ++ '\n' :: leading).length =
      0 + leading.length + ((textOf front ++ blanks).length + 1) := by
    simp only [List.length_append, List.length_cons]
    omega
  have htoken : Word.token? ⟨.blank, blanks ++ '\n' :: leading⟩ = none := rfl
  simp only [Word.lexemes, Word.lexemesFrom_append, Word.lexemesFrom, htoken, hoffset,
    Word.lexemesFrom_eq_nil hending, Word.lexemesFrom_eq_nil (filterMap_blanksOf leading),
    textOf_blanksOf, List.append_nil, List.nil_append, Word.lexemesFrom_add]

end LanguageShell.Calculator

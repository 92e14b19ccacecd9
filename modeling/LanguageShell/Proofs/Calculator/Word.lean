import LanguageShell.Proofs.Calculator.Pattern

/-!
Words of a text. A text splits into words if at each place the pattern that wins there takes the
next word. The words that are tokens, with their extents, are then the lexemes of the text; a text
in which no token begins somewhere does not split.
-/

namespace LanguageShell.Calculator

structure Word where
  pattern : Pattern
  text : List Char
deriving DecidableEq, Repr

/-- Whether the text splits into the words. -/
inductive Splits : List Char → List Word → Prop where
  | nil : Splits [] []
  | cons {word : Word} {rest : List Char} {words : List Word}
      (wins : word.pattern.Wins word.text rest) (tail : Splits rest words) :
      Splits (word.text ++ rest) (word :: words)

theorem Splits.prepend {pattern : Pattern} {word rest : List Char} {words : List Word}
    (wins : pattern.Wins word rest) (tail : Splits rest words) :
    Splits (word ++ rest) (⟨pattern, word⟩ :: words) :=
  @Splits.cons ⟨pattern, word⟩ rest words wins tail

def textOf (words : List Word) : List Char :=
  words.flatMap Word.text

@[simp] theorem textOf_nil : textOf [] = [] := rfl

@[simp] theorem textOf_cons (word : Word) (words : List Word) :
    textOf (word :: words) = word.text ++ textOf words := by
  simp [textOf]

@[simp] theorem textOf_append (front back : List Word) :
    textOf (front ++ back) = textOf front ++ textOf back := by
  simp [textOf]

namespace Word

def piece (word : Word) : Piece :=
  word.pattern.piece word.text

/-- The token that the word is, unless it stands between tokens. -/
def token? (word : Word) : Option Token :=
  match word.piece with
  | .token token => some token
  | .ignored => none

/-- The tokens among the words with their extents, for words that begin at the offset. -/
def lexemesFrom (offset : Nat) : List Word → List Lexeme
  | [] => []
  | word :: words =>
    let stop := offset + word.text.length
    let others := lexemesFrom stop words
    match word.token? with
    | some token => ⟨token, ⟨offset, stop⟩⟩ :: others
    | none => others

def lexemes (words : List Word) : List Lexeme :=
  lexemesFrom 0 words

theorem map_token_lexemesFrom (offset : Nat) (words : List Word) :
    (lexemesFrom offset words).map (·.token) = words.filterMap Word.token? := by
  induction words generalizing offset with
  | nil => rfl
  | cons word words ih =>
      cases htoken : word.token? <;> simp [lexemesFrom, htoken, ih]

end Word

namespace Pattern

theorem ne_nil_of_wins {pattern : Pattern} {word rest : List Char} (h : pattern.Wins word rest) :
    word ≠ [] := by
  rintro rfl
  exact pattern.not_matches_nil h.1.1

theorem wins_iff_winner {pattern : Pattern} {word rest : List Char} :
    pattern.Wins word rest ↔ winner? (word ++ rest) = some (pattern, word.length) :=
  wins_iff.trans winner?_eq_some_iff.symm

instance (pattern : Pattern) (word rest : List Char) : Decidable (pattern.Wins word rest) :=
  decidable_of_iff _ wins_iff_winner.symm

end Pattern

open Pattern

theorem first?_of_wins {word : Word} {c : Char} {front rest : List Char}
    (hword : word.text = c :: front) (h : word.pattern.Wins word.text rest) :
    Piece.first? c (front ++ rest) = some (word.piece, front.length) := by
  have hwinner := wins_iff_winner.mp h
  rw [hword, List.cons_append] at hwinner
  have htake : (c :: (front ++ rest)).take (front.length + 1) = c :: front := by simp
  rw [first?_eq, hwinner, Option.map_some, cut, List.length_cons, htake, Word.piece, hword]
  rfl

theorem Splits.ofTextAt {text : List Char} {words : List Word} (h : Splits text words)
    (offset : Nat) :
    Lexemes.ofTextAt offset text = ⟨Word.lexemesFrom offset words, none⟩ := by
  induction h generalizing offset with
  | nil => rw [Lexemes.ofTextAt, Word.lexemesFrom]
  | @cons word rest words wins _ ih =>
      obtain ⟨c, front, hword⟩ := List.exists_cons_of_ne_nil (ne_nil_of_wins wins)
      have hlength : word.text.length = front.length + 1 := by rw [hword, List.length_cons]
      rw [hword, List.cons_append, Lexemes.ofTextAt, first?_of_wins hword wins]
      simp only [List.drop_left, Word.lexemesFrom, Word.token?, hlength, ← Nat.add_assoc]
      cases word.piece <;> simp [ih]

theorem exists_wins_of_first? {c : Char} {rest : List Char} {piece : Piece} {n : Nat}
    (h : Piece.first? c rest = some (piece, n)) :
    ∃ word : Word, word.pattern.Wins word.text (rest.drop n) ∧
      word.text ++ rest.drop n = c :: rest ∧ word.piece = piece := by
  rw [first?_eq, Option.map_eq_some_iff] at h
  obtain ⟨⟨pattern, m⟩, hwinner, hcut⟩ := h
  obtain ⟨rfl, rfl⟩ := Prod.mk.inj hcut
  have hscans := pattern.scans (c :: rest)
  rw [(winner?_eq_some_iff.mp hwinner).1] at hscans
  obtain ⟨hle, hmatches, _⟩ := hscans
  have hm : m ≠ 0 := by
    rintro rfl
    exact pattern.not_matches_nil hmatches
  obtain ⟨n, rfl⟩ := Nat.exists_eq_succ_of_ne_zero hm
  have happend : (c :: rest).take (n + 1) ++ rest.drop n = c :: rest := by simp
  refine ⟨⟨pattern, (c :: rest).take (n + 1)⟩, wins_iff_winner.mpr ?_, happend, rfl⟩
  rw [Nat.succ_eq_add_one, Nat.add_sub_cancel, happend, hwinner, List.length_take,
    Nat.min_eq_left hle]

theorem exists_splits_of_stuck {text : List Char} {offset : Nat}
    (h : (Lexemes.ofTextAt offset text).stuck = none) : ∃ words, Splits text words := by
  induction offset, text using Lexemes.ofTextAt.induct with
  | case1 => exact ⟨[], .nil⟩
  | case2 offset c rest hfirst =>
      rw [Lexemes.ofTextAt, hfirst] at h
      cases h
  | case3 offset c rest n _ hfirst ih | case4 offset c rest n _ _ hfirst ih =>
      rw [Lexemes.ofTextAt, hfirst] at h
      obtain ⟨words, hwords⟩ := ih h
      obtain ⟨word, hwins, htext, _⟩ := exists_wins_of_first? hfirst
      exact ⟨word :: words, htext ▸ .cons hwins hwords⟩

/-- A text splits in one way at most. -/
theorem Splits.unique {text : List Char} {first second : List Word} (h : Splits text first)
    (h' : Splits text second) : first = second := by
  induction h generalizing second with
  | nil =>
      generalize htext : ([] : List Char) = text at h'
      cases h' with
      | nil => rfl
      | cons wins _ => exact absurd (List.append_eq_nil_iff.mp htext.symm).1 (ne_nil_of_wins wins)
  | @cons word rest words wins _ ih =>
      generalize htext : word.text ++ rest = text at h'
      cases h' with
      | nil => exact absurd (List.append_eq_nil_iff.mp htext).1 (ne_nil_of_wins wins)
      | @cons other rest' words' wins' tail' =>
          have hwinner := wins_iff_winner.mp wins
          rw [htext, wins_iff_winner.mp wins'] at hwinner
          obtain ⟨hpattern, hlength⟩ := Prod.mk.inj (Option.some.inj hwinner)
          obtain ⟨hword, rfl⟩ := List.append_inj htext hlength.symm
          cases word
          cases other
          cases hpattern
          cases hword
          rw [ih tail']

theorem Splits.textOf_eq {text : List Char} {words : List Word} (h : Splits text words) :
    textOf words = text := by
  induction h with
  | nil => rfl
  | cons _ _ ih => rw [textOf_cons, ih]

theorem Splits.matches_of_mem {text : List Char} {words : List Word} (h : Splits text words) :
    ∀ word ∈ words, word.pattern.regex.Matches word.text := by
  induction h with
  | nil => simp
  | cons wins _ ih => exact List.forall_mem_cons.mpr ⟨wins.1.1, ih⟩

/-! ### Beginnings of texts -/

/-- Whether each of the words is taken where it stands before the rest of a text. -/
def Leads : List Word → List Char → Prop
  | [], _ => True
  | word :: words, rest =>
    word.pattern.Wins word.text (textOf words ++ rest) ∧ Leads words rest

instance Leads.decidable : (words : List Word) → (rest : List Char) → Decidable (Leads words rest)
  | [], _ => .isTrue trivial
  | _ :: words, rest =>
    have := Leads.decidable words rest
    inferInstanceAs (Decidable (_ ∧ _))

/-- If less text follows, words are taken as before. -/
theorem Leads.truncate {words : List Word} {rest shorter : List Char} (h : Leads words rest)
    (hstart : shorter <+: rest) : Leads words shorter := by
  induction words with
  | nil => trivial
  | cons word words ih =>
      exact ⟨h.1.truncate ((List.prefix_append_right_inj _).mpr hstart), ih h.2⟩

theorem Leads.append {front back : List Word} {rest : List Char}
    (hfront : Leads front (textOf back ++ rest)) (hback : Leads back rest) :
    Leads (front ++ back) rest := by
  induction front with
  | nil => exact hback
  | cons word front ih =>
      refine ⟨?_, ih hfront.2⟩
      rw [List.append_eq, textOf_append, List.append_assoc]
      exact hfront.1

theorem Leads.of_append {front back : List Word} {rest : List Char}
    (h : Leads (front ++ back) rest) : Leads front (textOf back ++ rest) ∧ Leads back rest := by
  induction front with
  | nil => exact ⟨trivial, h⟩
  | cons word front ih =>
      obtain ⟨hfront, hback⟩ := ih h.2
      have hword := h.1
      rw [List.append_eq, textOf_append, List.append_assoc] at hword
      exact ⟨⟨hword, hfront⟩, hback⟩

theorem Leads.splits {front back : List Word} {rest : List Char} (h : Leads front rest)
    (hback : Splits rest back) : Splits (textOf front ++ rest) (front ++ back) := by
  induction front with
  | nil => exact hback
  | cons word front ih =>
      rw [textOf_cons, List.append_assoc]
      exact .cons h.1 (ih h.2)

theorem Splits.of_append {text : List Char} {front back : List Word}
    (h : Splits text (front ++ back)) : Leads front (textOf back) ∧ Splits (textOf back) back := by
  induction front generalizing text with
  | nil => exact ⟨trivial, h.textOf_eq ▸ h⟩
  | cons word front ih =>
      cases h with
      | cons wins tail =>
          obtain ⟨hleads, hback⟩ := ih tail
          have hrest : textOf front ++ textOf back = _ :=
            (textOf_append front back).symm.trans tail.textOf_eq
          exact ⟨⟨hrest ▸ wins, hleads⟩, hback⟩

theorem Splits.leads {text : List Char} {words : List Word} (h : Splits text words) :
    Leads words [] := by
  rw [← List.append_nil words] at h
  exact h.of_append.1

/-- Whether a text splits into given words can be decided. -/
theorem splits_iff {text : List Char} {words : List Word} :
    Splits text words ↔ textOf words = text ∧ Leads words [] := by
  refine ⟨fun h => ⟨h.textOf_eq, h.leads⟩, ?_⟩
  rintro ⟨rfl, hleads⟩
  simpa using hleads.splits .nil

instance (text : List Char) (words : List Word) : Decidable (Splits text words) :=
  decidable_of_iff _ splits_iff.symm

end LanguageShell.Calculator

import Mathlib

/-!
Regular expressions over characters, and scanners for them. A scanner computes how much of a text
an expression takes at its beginning: the longest word that matches or, for a lazy expression, the
shortest one. The scanners here read a fixed text, a fixed text and something more, or characters of
one class after another.
-/

namespace LanguageShell.Calculator

inductive Regex where
  | empty
  | char (allowed : Char → Bool)
  | seq (first second : Regex)
  | either (first second : Regex)
  | many (part : Regex)

namespace Regex

def Matches : Regex → List Char → Prop
  | empty, text => text = []
  | char allowed, text => ∃ c, allowed c = true ∧ text = [c]
  | seq first second, text =>
    ∃ front back, first.Matches front ∧ second.Matches back ∧ text = front ++ back
  | either first second, text => first.Matches text ∨ second.Matches text
  | many part, text =>
    ∃ parts : List (List Char), (∀ front ∈ parts, part.Matches front) ∧ text = parts.flatten

def literal : List Char → Regex
  | [] => empty
  | c :: rest => seq (char (· = c)) (literal rest)

def several (part : Regex) : Regex :=
  seq part (many part)

def optional (part : Regex) : Regex :=
  either empty part

@[simp] theorem matches_literal {chars text : List Char} :
    (literal chars).Matches text ↔ text = chars := by
  induction chars generalizing text with
  | nil => rfl
  | cons c rest ih => simp [literal, Matches, ih]

@[simp] theorem matches_many_char {allowed : Char → Bool} {text : List Char} :
    (many (char allowed)).Matches text ↔ ∀ c ∈ text, allowed c = true := by
  constructor
  · rintro ⟨parts, hparts, rfl⟩ c hc
    obtain ⟨part, hpart, hmem⟩ := List.mem_flatten.mp hc
    obtain ⟨d, hd, rfl⟩ := hparts part hpart
    rwa [List.mem_singleton.mp hmem]
  · intro h
    refine ⟨text.map fun c => [c], ?_, (List.flatMap_singleton' text).symm⟩
    intro part hpart
    obtain ⟨c, hc, rfl⟩ := List.mem_map.mp hpart
    exact ⟨c, h c hc, rfl⟩

theorem matches_headed {start part : Char → Bool} {text : List Char} :
    (seq (char start) (many (char part))).Matches text ↔
      ∃ c rest, text = c :: rest ∧ start c = true ∧ ∀ d ∈ rest, part d = true := by
  constructor
  · rintro ⟨_, rest, ⟨c, hc, rfl⟩, hrest, rfl⟩
    exact ⟨c, rest, rfl, hc, matches_many_char.mp hrest⟩
  · rintro ⟨c, rest, rfl, hc, hrest⟩
    exact ⟨[c], rest, ⟨c, hc, rfl⟩, matches_many_char.mpr hrest, rfl⟩

theorem matches_several_char {allowed : Char → Bool} {text : List Char} :
    (several (char allowed)).Matches text ↔ text ≠ [] ∧ ∀ c ∈ text, allowed c = true := by
  rw [several, matches_headed]
  constructor
  · rintro ⟨c, rest, rfl, hc, hrest⟩
    simpa using ⟨hc, hrest⟩
  · rintro ⟨hne, hall⟩
    obtain ⟨c, rest, rfl⟩ := List.exists_cons_of_ne_nil hne
    exact ⟨c, rest, rfl, hall c (by simp), fun d hd => hall d (by simp [hd])⟩

/-! ### Scanners -/

def literalLength? (chars text : List Char) : Option Nat :=
  if chars <+: text then some chars.length else none

/-- How many characters a pattern takes that goes on after a fixed beginning. -/
def openedLength? (chars : List Char) (inner? : List Char → Option Nat) (text : List Char) :
    Option Nat :=
  if chars <+: text then (inner? (text.drop chars.length)).map (· + chars.length) else none

def headedLength? (start part : Char → Bool) : List Char → Option Nat
  | [] => none
  | c :: rest => if start c then some ((rest.takeWhile part).length + 1) else none

/-- Whether a length is that of the word which an expression takes at the beginning of a text:
the longest one that matches or, if it is lazy, the shortest. -/
def Scans (regex : Regex) (isLazy : Bool) (text : List Char) : Option Nat → Prop
  | none => ∀ word, word <+: text → ¬regex.Matches word
  | some n => n ≤ text.length ∧ regex.Matches (text.take n) ∧
    ∀ word, word <+: text → regex.Matches word →
      if isLazy then n ≤ word.length else word.length ≤ n

theorem length_le_takeWhile {p : Char → Bool} {front text : List Char} (hfront : front <+: text)
    (hall : ∀ c ∈ front, p c = true) : front.length ≤ (text.takeWhile p).length := by
  obtain ⟨back, rfl⟩ := hfront
  rw [List.takeWhile_append_of_pos hall, List.length_append]
  omega

theorem take_takeWhile_length {p : Char → Bool} (text : List Char) :
    text.take (text.takeWhile p).length = text.takeWhile p :=
  (List.prefix_iff_eq_take.mp (List.takeWhile_prefix p)).symm

theorem scans_headed (start part : Char → Bool) (text : List Char) :
    Scans (seq (char start) (many (char part))) false text (headedLength? start part text) := by
  cases text with
  | nil =>
      rintro word hword hmatches
      obtain ⟨d, front, rfl, _⟩ := matches_headed.mp hmatches
      simp at hword
  | cons c rest =>
      rw [headedLength?]
      split
      · rename_i hstart
        have hle := (List.takeWhile_prefix part (l := rest)).length_le
        refine ⟨by simpa using hle, ?_, ?_⟩
        · rw [List.take_succ_cons, take_takeWhile_length]
          exact matches_headed.mpr ⟨c, _, rfl, hstart, fun d hd => List.mem_takeWhile_imp hd⟩
        · rintro word hword hmatches
          obtain ⟨d, front, rfl, _, hfront⟩ := matches_headed.mp hmatches
          have hstart := (List.cons_prefix_cons.mp hword).2
          simpa using length_le_takeWhile hstart hfront
      · rename_i hstart
        rintro word hword hmatches
        obtain ⟨d, front, rfl, hd, _⟩ := matches_headed.mp hmatches
        rw [(List.cons_prefix_cons.mp hword).1] at hd
        exact hstart hd

theorem scans_literal (chars text : List Char) :
    Scans (literal chars) false text (literalLength? chars text) := by
  unfold literalLength?
  split
  · rename_i hstart
    refine ⟨hstart.length_le, ?_, ?_⟩
    · exact matches_literal.mpr (List.prefix_iff_eq_take.mp hstart).symm
    · rintro word - hmatches
      rw [matches_literal.mp hmatches]
      simp
  · rename_i hstart
    rintro word hword hmatches
    rw [matches_literal.mp hmatches] at hword
    exact hstart hword

/-- Where an expression matches exactly what consists of the first characters of a text and
something that another expression matches, its scanner skips these characters. -/
theorem Scans.shift {regex inner : Regex} {isLazy : Bool} (front : List Char)
    {rest : List Char} {result : Option Nat} (h : Scans inner isLazy rest result)
    (hshift : ∀ word, word <+: front ++ rest →
      (regex.Matches word ↔ ∃ back, word = front ++ back ∧ inner.Matches back)) :
    Scans regex isLazy (front ++ rest) (result.map (· + front.length)) := by
  have hsplit : ∀ word, word <+: front ++ rest → regex.Matches word →
      ∃ back, word = front ++ back ∧ back <+: rest ∧ inner.Matches back := by
    intro word hword hmatches
    obtain ⟨back, rfl, hback⟩ := (hshift word hword).mp hmatches
    exact ⟨back, rfl, (List.prefix_append_right_inj front).mp hword, hback⟩
  cases result with
  | none =>
      intro word hword hmatches
      obtain ⟨back, rfl, hstart, hback⟩ := hsplit word hword hmatches
      exact h back hstart hback
  | some n =>
      obtain ⟨hle, hmatches, hbest⟩ := h
      have htake : (front ++ rest).take (n + front.length) = front ++ rest.take n := by
        rw [Nat.add_comm, List.take_length_add_append]
      refine ⟨by simp; omega, ?_, ?_⟩
      · exact (hshift _ (List.take_prefix _ _)).mpr ⟨_, htake, hmatches⟩
      · intro word hword hmatches
        obtain ⟨back, rfl, hstart, hback⟩ := hsplit word hword hmatches
        have := hbest back hstart hback
        cases isLazy <;> simp at this ⊢ <;> omega

theorem scans_opened (chars : List Char) {regex : Regex} {isLazy : Bool}
    {inner? : List Char → Option Nat} (h : ∀ rest, Scans regex isLazy rest (inner? rest))
    (text : List Char) :
    Scans (seq (literal chars) regex) isLazy text (openedLength? chars inner? text) := by
  unfold openedLength?
  split
  · rename_i hstart
    obtain ⟨rest, rfl⟩ := hstart
    rw [List.drop_left]
    refine (h rest).shift chars fun word _ => ?_
    simp [Matches, and_comm]
  · rename_i hstart
    rintro word hword ⟨front, back, hfront, _, rfl⟩
    rw [matches_literal.mp hfront] at hword
    exact hstart ((List.prefix_append chars back).trans hword)

end Regex

end LanguageShell.Calculator

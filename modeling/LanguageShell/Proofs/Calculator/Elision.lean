import LanguageShell.Proofs.Calculator.Printing
import LanguageShell.Proofs.Calculator.Word

/-!
Expressions that are not printed completely. What stands for the parts that are left out begins no
token, and neither strings nor comments nor fractions could hide it: there are none in printed text.
So such a text is never taken for an expression.
-/

namespace LanguageShell.Calculator

/-- Neighbours in a text without comments in which no digit follows a point. -/
def MayFollow (first second : Char) : Prop :=
  (first = '(' → second ≠ '*') ∧ (first = '.' → Text.isDigit second = false)

/-- Whether a text holds no string, no comment and no fraction, and none begins where it ends. -/
structure IsInert (text : List Char) : Prop where
  quote : '"' ∉ text
  hash : '#' ∉ text
  chain : text.IsChain MayFollow
  last : text.getLast? ≠ some '('

theorem IsInert.append {front back : List Char} {c : Char} (hfront : IsInert front)
    (hback : IsInert (c :: back)) (hc : Text.isDigit c = false) : IsInert (front ++ c :: back) where
  quote := by simpa using ⟨hfront.quote, by simpa using hback.quote⟩
  hash := by simpa using ⟨hfront.hash, by simpa using hback.hash⟩
  chain := by
    refine List.isChain_append.mpr ⟨hfront.chain, hback.chain, ?_⟩
    rintro first hfirst second hsecond
    obtain rfl : c = second := by simpa using hsecond
    refine ⟨?_, fun _ => hc⟩
    rintro rfl
    exact absurd hfirst hfront.last
  last := by
    rw [List.getLast?_append_cons]
    exact hback.last

theorem IsInert.cons {c d : Char} {rest : List Char} (h : IsInert (d :: rest)) (hquote : c ≠ '"')
    (hhash : c ≠ '#') (hnext : MayFollow c d) : IsInert (c :: d :: rest) where
  quote := by simpa [hquote.symm] using h.quote
  hash := by simpa [hhash.symm] using h.hash
  chain := List.isChain_cons_cons.mpr ⟨hnext, h.chain⟩
  last := by
    rw [List.getLast?_cons_cons]
    exact h.last

theorem isInert_of_forall {text : List Char}
    (h : ∀ c ∈ text, c ≠ '"' ∧ c ≠ '#' ∧ c ≠ '(' ∧ c ≠ '.') : IsInert text where
  quote hmem := (h _ hmem).1 rfl
  hash hmem := (h _ hmem).2.1 rfl
  chain := by
    induction text with
    | nil => exact List.isChain_nil
    | cons c rest ih =>
        obtain ⟨_, _, hopen, hpoint⟩ := h c (by simp)
        refine List.isChain_cons.mpr ⟨fun second _ => ?_, ih fun d hd => h d (by simp [hd])⟩
        exact ⟨fun hc => absurd hc hopen, fun hc => absurd hc hpoint⟩
  last hlast := (h _ (List.mem_of_getLast? hlast)).2.2.1 rfl

theorem isInert_ellipsis : IsInert Term.ellipsis where
  quote := by decide
  hash := by decide
  chain := by
    have hpoint : MayFollow '.' '.' := ⟨by decide, fun _ => by decide⟩
    exact List.isChain_cons_cons.mpr ⟨hpoint, List.isChain_cons_cons.mpr
      ⟨hpoint, List.isChain_singleton '.'⟩⟩
  last := by decide

theorem isInert_of_digits {text : List Char} (h : ∀ c ∈ text, Text.isDigit c = true) :
    IsInert text := by
  refine isInert_of_forall fun c hc => ?_
  refine ⟨?_, ?_, ?_, ?_⟩ <;> rintro rfl <;> exact absurd (h _ hc) (by decide)

theorem isInert_of_name {text : List Char} (h : Pattern.name.regex.Matches text) :
    IsInert text := by
  refine isInert_of_forall fun c hc => ?_
  have hpart := Pattern.isNamePart_of_mem_name h c hc
  refine ⟨?_, ?_, ?_, ?_⟩ <;> rintro rfl <;> exact absurd hpart (by decide)

namespace Term

variable {φ α : Type}

theorem isInert_parenthesized {maxLevel level : Int} {text : List Char} (h : IsInert text)
    (hinitial : ∃ c rest, text = c :: rest ∧ IsInitial c) :
    IsInert (parenthesized maxLevel level text) := by
  unfold parenthesized
  split
  · obtain ⟨c, rest, rfl, hstar, _⟩ := hinitial
    have hclose : IsInert [')'] := isInert_of_forall (by simp)
    refine IsInert.cons (h.append hclose (by decide)) (by decide) (by decide) ⟨fun _ => hstar, ?_⟩
    simp
  · exact h

/-- Printed text holds no strings, comments and fractions. -/
theorem isInert_printed {e : Term φ α} (h : e.IsWritable) (room : Nat) (maxLevel : Int) :
    IsInert (e.printed room maxLevel) := by
  induction e generalizing room maxLevel with
  | foreign => exact h.elim
  | num value _ =>
      cases room with
      | zero => exact isInert_ellipsis
      | succ room =>
          obtain ⟨n, rfl, hn⟩ := h
          have hdigits : ∀ c ∈ literalText (.int n), Text.isDigit c = true := by
            rw [literalText_int hn]
            exact fun c hc => Text.isDigit_of_mem_toDigits hc
          exact isInert_parenthesized (isInert_of_digits hdigits) (exists_initial_literal hn)
  | var name _ =>
      cases room with
      | zero => exact isInert_ellipsis
      | succ room => exact isInert_parenthesized (isInert_of_name h) (exists_initial_name h)
  | neg operand _ ih =>
      cases room with
      | zero => exact isInert_ellipsis
      | succ room =>
          have hwritable : operand.IsWritable := h
          have hoperand := ih hwritable room negationLevel
          obtain ⟨c, rest, hprinted, hc⟩ :=
            exists_initial_printed hwritable.hasInitials room negationLevel
          rw [hprinted] at hoperand
          refine isInert_parenthesized ?_ ⟨'-', _, rfl, by decide, by decide⟩
          rw [hprinted]
          exact hoperand.cons (by decide) (by decide) ⟨by simp, by simp⟩
  | bin op left right _ ihl ihr =>
      cases room with
      | zero => exact isInert_ellipsis
      | succ room =>
          have hleft := ihl h.1 room op.level
          have hright := ihr h.2 room (op.level - 1)
          have hinitials := IsWritable.hasInitials h
          obtain ⟨c, rest, hprinted, hc⟩ := exists_initial_printed hinitials.1 room op.level
          obtain ⟨d, back, hback, hd⟩ := exists_initial_printed hinitials.2 room (op.level - 1)
          refine isInert_parenthesized ?_ ⟨c, _, by rw [hprinted, List.cons_append], hc⟩
          rw [hback] at hright ⊢
          have hspace := hright.cons (c := ' ') (by decide) (by decide) ⟨by simp, by simp⟩
          have hsymbol : op.symbol ≠ '"' ∧ op.symbol ≠ '#' ∧ op.symbol ≠ '(' ∧ op.symbol ≠ '.' := by
            cases op <;> decide
          obtain ⟨hquote, hhash, hopen, hpoint⟩ := hsymbol
          have hop := hspace.cons hquote hhash
            ⟨fun hc => absurd hc hopen, fun hc => absurd hc hpoint⟩
          exact hleft.append (hop.cons (by decide) (by decide) ⟨by simp, by simp⟩) (by decide)

end Term

theorem point_not_mem_power {text : List Char}
    (h : (Regex.optional Pattern.power).Matches text) : '.' ∉ text := by
  obtain rfl | hpower := h
  · simp
  · obtain ⟨letter, sign, digits, rfl, hletter, hsign, _, hdigits⟩ :=
      Pattern.matches_power.mp hpower
    have hpoint : '.' ∉ digits := fun hmem => absurd (hdigits '.' hmem) (by decide)
    obtain rfl | rfl := hletter <;> obtain rfl | rfl | rfl := hsign <;> simp [hpoint]

theorem point_not_mem_of_isInert {pattern : Pattern} {word : List Char}
    (h : pattern.regex.Matches word) (hquote : '"' ∉ word) (hhash : '#' ∉ word)
    (hchain : word.IsChain MayFollow) : '.' ∉ word := by
  intro hpoint
  cases pattern with
  | blank => exact absurd ((Regex.matches_several_char.mp h).2 '.' hpoint) (by decide)
  | name => exact absurd (Pattern.isNamePart_of_mem_name h '.' hpoint) (by decide)
  | lineComment =>
      obtain ⟨c, rest, rfl, hc, _⟩ := Regex.matches_headed.mp h
      obtain rfl : c = '#' := by simpa using hc
      exact hhash List.mem_cons_self
  | blockComment =>
      obtain ⟨chars, rest, hchars, _, rfl⟩ := h
      obtain rfl := Regex.matches_literal.mp hchars
      exact (List.isChain_cons_cons.mp hchain).1.1 rfl rfl
  | quoted =>
      obtain ⟨chars, rest, hchars, _, rfl⟩ := h
      obtain rfl := Regex.matches_literal.mp hchars
      exact hquote List.mem_cons_self
  | number =>
      obtain ⟨whole, places, exponent, rfl, ⟨_, hwhole⟩, hplaces, hexponent⟩ :=
        Pattern.matches_number.mp h
      obtain rfl | hfraction := hplaces
      · have hpower : '.' ∈ exponent := by
          obtain hmem | hmem := List.mem_append.mp hpoint
          · exact absurd (hwhole '.' hmem) (by decide)
          · exact hmem
        exact point_not_mem_power hexponent hpower
      · obtain ⟨digits, rfl, hne, hdigits⟩ := Pattern.matches_fraction.mp hfraction
        obtain ⟨d, rest, rfl⟩ := List.exists_cons_of_ne_nil hne
        have hnext := (List.isChain_cons_cons.mp (List.isChain_append.mp hchain).2.1).1.2 rfl
        exact absurd (hdigits d (by simp)) (by simp [hnext])
  | _ =>
      obtain rfl := Regex.matches_literal.mp h
      exact absurd hpoint (by decide)

/-- An inert text with a point in it does not split into words. -/
theorem not_splits_of_isInert {text : List Char} (h : IsInert text) (hpoint : '.' ∈ text)
    (words : List Word) : ¬Splits text words := by
  intro hsplits
  rw [← hsplits.textOf_eq, textOf, List.mem_flatMap] at hpoint
  obtain ⟨word, hword, hpoint⟩ := hpoint
  have hpart : word.text <:+: text := by
    rw [← hsplits.textOf_eq]
    exact List.infix_of_mem_flatten (List.mem_map_of_mem hword)
  have hchain : word.text.IsChain MayFollow := List.IsChain.infix h.chain hpart
  exact point_not_mem_of_isInert (hsplits.matches_of_mem word hword)
    (fun hmem => h.quote (hpart.subset hmem)) (fun hmem => h.hash (hpart.subset hmem)) hchain hpoint

end LanguageShell.Calculator

import LanguageShell.Proofs.Calculator.RoundTrip

/-!
Numerals and floating-point numbers. A numeral with a point or a power denotes a number without a
sign, which may be infinite; the text of every such number that is finite is again a numeral with a
point or a power.
-/

namespace LanguageShell

open Calculator

/-! ### Reading -/

theorem Text.ne_of_isDigit {c other : Char} (h : isDigit c = true)
    (hother : isDigit other = false) : c ≠ other := by
  rintro rfl
  rw [h] at hother
  cases hother

theorem Integer.groupedDigits?_of_isDigit {digits : List Char} (hne : digits ≠ [])
    (h : ∀ c ∈ digits, Text.isDigit c = true) : groupedDigits? digits = some digits := by
  induction digits with
  | nil => exact absurd rfl hne
  | cons c rest ih =>
      obtain ⟨hc, hrest⟩ := List.forall_mem_cons.mp h
      cases rest with
      | nil => simp [groupedDigits?, hc]
      | cons d others =>
          have hd : d ≠ '_' := Text.ne_of_isDigit (hrest d List.mem_cons_self) (by decide)
          rw [groupedDigits?, if_pos hc, ih (by simp) hrest]
          · rfl
          · simp
          · simp [hd]

namespace Binary64

def IsUnsigned (x : Binary64) : Prop :=
  x ≠ nan ∧ x.isNegative = false

theorem isUnsigned_zero : (zero false).IsUnsigned :=
  ⟨by simp [zero], rfl⟩

theorem isUnsigned_infinity : (infinity false).IsUnsigned :=
  ⟨by simp, rfl⟩

theorem isUnsigned_ofRatio (numerator denominator : Nat) :
    (ofRatio false numerator denominator).IsUnsigned := by
  unfold ofRatio
  split
  · exact isUnsigned_zero
  · dsimp only
    split <;> split <;> exact ⟨by simp, rfl⟩

theorem isUnsigned_ofDecimal (digits : Nat) (exponent : Int) :
    (ofDecimal false digits exponent).IsUnsigned := by
  have hnum : 0 ≤ (decimalRat digits exponent).num := by
    rw [Rat.num_nonneg, decimalRat]
    exact Rat.mkRat_nonneg (by positivity) _
  have hratio : ofRat false (decimalRat digits exponent) = ofRatio false
      (decimalRat digits exponent).num.natAbs (decimalRat digits exponent).den := by
    simp [ofRat, Int.not_lt.mpr hnum]
  simp only [ofDecimal, Bool.false_eq_true, if_false, hratio]
  split
  · exact isUnsigned_zero
  · split
    · exact isUnsigned_infinity
    · exact isUnsigned_ofRatio _ _

def isPowerMark (c : Char) : Bool :=
  c = 'e' || c = 'E'

theorem isPowerMark_of_isDigit {c : Char} (h : Text.isDigit c = true) : isPowerMark c = false := by
  have he : c ≠ 'e' := Text.ne_of_isDigit h (by decide)
  have hcapital : c ≠ 'E' := Text.ne_of_isDigit h (by decide)
  simp [isPowerMark, he, hcapital]

theorem isPowerMark_of_mem_mantissa {whole places : List Char}
    (hwhole : ∀ c ∈ whole, Text.isDigit c = true)
    (hplaces : places = [] ∨ Pattern.fraction.Matches places) {c : Char}
    (hc : c ∈ whole ++ places) : isPowerMark c = false := by
  obtain hc | hc := List.mem_append.mp hc
  · exact isPowerMark_of_isDigit (hwhole c hc)
  · obtain rfl | hfraction := hplaces
    · cases hc
    · obtain ⟨digits, rfl, -, hdigits⟩ := Pattern.matches_fraction.mp hfraction
      obtain rfl | hc := List.mem_cons.mp hc
      · rfl
      · exact isPowerMark_of_isDigit (hdigits c hc)

/-- The power of a numeral begins at the first letter that can begin one. -/
theorem span_power {mantissa exponent : List Char}
    (hmantissa : ∀ c ∈ mantissa, isPowerMark c = false)
    (hexponent : exponent = [] ∨ Pattern.power.Matches exponent) :
    (mantissa ++ exponent).takeWhile (!isPowerMark ·) = mantissa ∧
      (mantissa ++ exponent).dropWhile (!isPowerMark ·) = exponent := by
  have hall : ∀ c ∈ mantissa, (!isPowerMark c) = true := by simpa using hmantissa
  rw [List.takeWhile_append_of_pos hall, List.dropWhile_append_of_pos hall]
  obtain rfl | hpower := hexponent
  · simp
  · obtain ⟨c, sign, digits, rfl, hc, -⟩ := Pattern.matches_power.mp hpower
    have hmark : isPowerMark c = true := by simpa [isPowerMark] using hc
    simp [hmark]

theorem exists_readPower {sign digits : List Char}
    (hsign : sign = [] ∨ sign = ['+'] ∨ sign = ['-']) (hne : digits ≠ [])
    (h : ∀ c ∈ digits, Text.isDigit c = true) :
    ∃ power, readPower (sign ++ digits) = some power := by
  have hgrouped := Integer.groupedDigits?_of_isDigit hne h
  obtain rfl | rfl | rfl := hsign
  · obtain ⟨c, others, rfl⟩ := List.exists_cons_of_ne_nil hne
    have hc := h c List.mem_cons_self
    have hplus : c ≠ '+' := Text.ne_of_isDigit hc (by decide)
    have hminus : c ≠ '-' := Text.ne_of_isDigit hc (by decide)
    refine ⟨Text.naturalOfDigits (c :: others), ?_⟩
    rw [List.nil_append, readPower, hgrouped]
    · rfl
    · simp [hminus]
    · simp [hplus]
  · exact ⟨Text.naturalOfDigits digits, by simp [readPower, hgrouped]⟩
  · exact ⟨-Text.naturalOfDigits digits, by simp [readPower, hgrouped]⟩

theorem readPower_of_matches {exponent : List Char} (h : Pattern.power.Matches exponent) :
    ∃ c rest power, exponent = c :: rest ∧ readPower rest = some power := by
  obtain ⟨c, sign, digits, rfl, -, hsign, hne, hdigits⟩ := Pattern.matches_power.mp h
  obtain ⟨power, hpower⟩ := exists_readPower hsign hne hdigits
  exact ⟨c, sign ++ digits, power, rfl, hpower⟩

theorem exists_readParts {text : List Char} (h : Pattern.number.regex.Matches text) :
    ∃ parts, readParts? text = some parts := by
  obtain ⟨whole, places, exponent, rfl, ⟨hne, hwhole⟩, hplaces, hexponent⟩ :=
    Pattern.matches_number.mp h
  obtain ⟨htake, hdrop⟩ :=
    span_power (fun c => isPowerMark_of_mem_mantissa hwhole hplaces) hexponent
  have hpoint : ∀ c ∈ whole, decide (c ≠ '.') = true := fun c hc =>
    decide_eq_true (Text.ne_of_isDigit (hwhole c hc) (by decide))
  have hsome : whole.isEmpty = false := by simpa using hne
  have hgrouped := Integer.groupedDigits?_of_isDigit hne hwhole
  rw [← List.append_assoc]
  unfold isPowerMark at htake hdrop
  unfold readParts?
  dsimp only
  rw [htake, hdrop, List.takeWhile_append_of_pos hpoint, List.dropWhile_append_of_pos hpoint]
  obtain rfl | hfraction := hplaces
  · obtain rfl | hmarked := hexponent
    · simp [hgrouped]
    · obtain ⟨c, rest, power, rfl, hpower⟩ := readPower_of_matches hmarked
      simp [hgrouped, hpower]
  · obtain ⟨digits, rfl, hmore, hdigits⟩ := Pattern.matches_fraction.mp hfraction
    have hfound := Integer.groupedDigits?_of_isDigit hmore hdigits
    obtain rfl | hmarked := hexponent
    · simp [hgrouped, hsome, hmore, hfound]
    · obtain ⟨c, rest, power, rfl, hpower⟩ := readPower_of_matches hmarked
      simp [hgrouped, hsome, hmore, hfound, hpower]

/-! ### Writing -/

theorem isDigit_of_mem_zeros {n : Nat} {c : Char} (h : c ∈ List.replicate n '0') :
    Text.isDigit c = true := by
  rw [List.eq_of_mem_replicate h]
  decide

theorem matches_zeros (n : Nat) : Pattern.digits.Matches (List.replicate (n + 1) '0') :=
  Regex.matches_several_char.mpr ⟨by simp, fun _ => isDigit_of_mem_zeros⟩

theorem matches_powerText (exponent : Int) : Pattern.power.Matches (powerText exponent) := by
  let digits := Nat.toDigits 10 exponent.natAbs
  let zeros := List.replicate (2 - digits.length) '0'
  let sign := [if exponent < 0 then '-' else '+']
  refine Pattern.matches_power.mpr ⟨'e', sign, zeros ++ digits, ?_, .inl rfl, ?_, ?_, ?_⟩
  · simp [powerText, sign, zeros, digits]
  · by_cases hnegative : exponent < 0 <;> simp [sign, hnegative]
  · simp [digits]
  · intro c hc
    obtain hc | hc := List.mem_append.mp hc
    · exact isDigit_of_mem_zeros hc
    · exact Text.isDigit_of_mem_toDigits hc

theorem not_matches_digits {text : List Char} {c : Char} (h : c ∈ text)
    (hc : Text.isDigit c = false) : ¬Pattern.digits.Matches text := fun hdigits =>
  Text.ne_of_isDigit ((Regex.matches_several_char.mp hdigits).2 c h) hc rfl

theorem matches_point {whole places : List Char} (hwhole : Pattern.digits.Matches whole)
    (hplaces : Pattern.digits.Matches places) :
    Pattern.number.regex.Matches (whole ++ '.' :: places) ∧
      ¬Pattern.digits.Matches (whole ++ '.' :: places) := by
  have hfraction : Pattern.fraction.Matches ('.' :: places) :=
    Pattern.matches_fraction.mpr ⟨places, rfl, Regex.matches_several_char.mp hplaces⟩
  constructor
  · exact Pattern.matches_number.mpr ⟨whole, '.' :: places, [], by simp,
      Regex.matches_several_char.mp hwhole, .inr hfraction, .inl rfl⟩
  · exact not_matches_digits (c := '.') (by simp) (by decide)

/-- Digits that are laid out make a numeral with a point or a power. -/
theorem matches_layOut {digits : List Char} (h : Pattern.digits.Matches digits) (exponent : Int) :
    Pattern.number.regex.Matches (layOut digits exponent) ∧
      ¬Pattern.digits.Matches (layOut digits exponent) := by
  obtain ⟨hne, hdigits⟩ := Regex.matches_several_char.mp h
  have htake : ∀ n, ∀ c ∈ digits.take n, Text.isDigit c = true :=
    fun n c hc => hdigits c (List.mem_of_mem_take hc)
  have hdrop : ∀ n, digits.drop n ≠ [] → Pattern.digits.Matches (digits.drop n) :=
    fun n hsome => Regex.matches_several_char.mpr
      ⟨hsome, fun c hc => hdigits c (List.mem_of_mem_drop hc)⟩
  unfold layOut
  split
  · split
    · refine @matches_point ['0'] _ (matches_zeros 0) (Regex.matches_several_char.mpr ⟨?_, ?_⟩)
      · simp [hne]
      · exact List.forall_mem_append.mpr ⟨fun c => isDigit_of_mem_zeros, hdigits⟩
    · refine matches_point (Regex.matches_several_char.mpr ⟨by simp [hne], ?_⟩) ?_
      · exact List.forall_mem_append.mpr ⟨htake _, fun c => isDigit_of_mem_zeros⟩
      · split
        · exact matches_zeros 0
        · rename_i hsome
          exact hdrop _ (by simpa using hsome)
  · constructor
    · refine Pattern.matches_number.mpr ⟨digits.take 1, _, powerText exponent,
        List.append_assoc .., ⟨by simp [hne], htake 1⟩, ?_, .inr (matches_powerText exponent)⟩
      split
      · exact .inl rfl
      · rename_i hsome
        refine .inr (Pattern.matches_fraction.mpr ⟨digits.drop 1, rfl, ?_⟩)
        exact Regex.matches_several_char.mp (hdrop 1 (by simpa using hsome))
    · exact not_matches_digits (c := 'e') (by simp [powerText]) (by decide)

theorem matches_toText {x : Binary64} (h : x.IsUnsigned) (hfinite : x ≠ infinity false) :
    Pattern.number.regex.Matches x.toText.toList ∧ ¬Pattern.digits.Matches x.toText.toList := by
  obtain ⟨hnan, hsign⟩ := h
  cases x with
  | nan => exact absurd rfl hnan
  | infinity negative =>
      obtain rfl : negative = false := hsign
      exact absurd rfl hfinite
  | finite negative significand exponent canonical =>
      obtain rfl : negative = false := hsign
      simp only [toText, String.toList_ofList, toRat?, Bool.false_eq_true, if_false]
      split
      · -- Zero is written as if it were laid out.
        exact matches_layOut (matches_zeros 0) 0
      · exact matches_layOut (matches_digits_toDigits _) _

end Binary64

theorem Calculator.Token.literal_cases {text : List Char} (h : Pattern.number.regex.Matches text) :
    Pattern.digits.Matches text ∧ literal text = .int (Text.naturalOfDigits text) ∨
      ¬Pattern.digits.Matches text ∧ ∃ x, literal text = .float x ∧ x.IsUnsigned := by
  rw [matches_digits_iff h, literal]
  cases text.any fun c => c = '.' || c = 'e' || c = 'E' with
  | false => exact .inl ⟨rfl, rfl⟩
  | true =>
      obtain ⟨parts, hparts⟩ := Binary64.exists_readParts h
      rw [hparts]
      exact .inr ⟨by simp, _, rfl, Binary64.isUnsigned_ofDecimal _ _⟩

end LanguageShell

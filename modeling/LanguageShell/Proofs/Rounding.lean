import LanguageShell.Numeral.Binary64
import Mathlib

/-!
The floating-point number nearest to a rational one. A rational number has none if it lies halfway
from the largest finite number to the next power of two, or beyond; and it is rounded to zero if it
lies halfway from zero to the least positive number, or closer.
-/

namespace LanguageShell.Binary64

/-! ### Rounding to an integer -/

/-- The rounded quotient is within half a unit of the quotient, and even if it is that far off. -/
theorem roundQuotient_near (a : Nat) {b : Nat} (hb : 0 < b) :
    2 * b * roundQuotient a b ≤ 2 * a + b ∧ 2 * a ≤ 2 * b * roundQuotient a b + b ∧
      (2 * b * roundQuotient a b = 2 * a + b ∨ 2 * a = 2 * b * roundQuotient a b + b →
        Even (roundQuotient a b)) := by
  have hdiv : b * (a / b) + a % b = a := Nat.div_add_mod a b
  have hmod : a % b < b := Nat.mod_lt a hb
  unfold roundQuotient
  simp only
  generalize a / b = quotient at *
  generalize a % b = rest at *
  split
  · refine ⟨by linarith, by linarith, ?_⟩
    rintro (h | h) <;> exfalso <;> linarith
  · split
    · refine ⟨by linarith, by linarith, ?_⟩
      rintro (h | h) <;> exfalso <;> linarith
    · -- Halfway, the parity of the quotient decides.
      obtain hparity | hparity := Nat.mod_two_eq_zero_or_one quotient
      · rw [hparity]
        refine ⟨by linarith, by linarith, fun _ => ?_⟩
        exact Nat.even_iff.mpr hparity
      · rw [hparity]
        refine ⟨by linarith, by linarith, fun _ => ?_⟩
        rw [Nat.even_add_one, Nat.not_even_iff]
        exact hparity

/-- An even number is reached from half a unit below. -/
theorem le_roundQuotient_iff (a : Nat) {b m : Nat} (hb : 0 < b) (hm : Even m) :
    m ≤ roundQuotient a b ↔ 2 * b * m ≤ 2 * a + b := by
  obtain ⟨hlow, hhigh, heven⟩ := roundQuotient_near a hb
  constructor
  · intro h
    exact (Nat.mul_le_mul_left _ h).trans hlow
  · intro h
    by_contra hless
    have hnext : 2 * b * (roundQuotient a b + 1) ≤ 2 * b * m :=
      Nat.mul_le_mul_left _ (Nat.lt_of_not_le hless)
    rw [Nat.mul_add] at hnext
    have hhalf : 2 * a = 2 * b * roundQuotient a b + b := by linarith
    -- Both the rounded quotient and the next integer would be even.
    have hsame : m = roundQuotient a b + 1 := by
      apply Nat.eq_of_mul_eq_mul_left (show 0 < 2 * b by omega)
      linarith
    rw [hsame, Nat.even_add_one] at hm
    exact hm (heven (.inr hhalf))

theorem roundQuotient_eq_zero_iff (a : Nat) {b : Nat} (hb : 0 < b) :
    roundQuotient a b = 0 ↔ 2 * a ≤ b := by
  obtain ⟨hlow, hhigh, heven⟩ := roundQuotient_near a hb
  constructor
  · intro h
    rw [h] at hhigh
    linarith
  · intro h
    by_contra hne
    have hfirst : 2 * b * 1 ≤ 2 * b * roundQuotient a b :=
      Nat.mul_le_mul_left _ (Nat.one_le_iff_ne_zero.mpr hne)
    have hone : roundQuotient a b = 1 := by
      apply Nat.eq_of_mul_eq_mul_left (show 0 < 2 * b by omega)
      linarith
    have hodd := heven (.inl (by rw [hone]; linarith))
    rw [hone] at hodd
    exact absurd hodd (by decide)

/-! ### Scaling by a power of two -/

variable {numerator denominator : Nat}

theorem shiftLeft_div_shiftLeft (numerator denominator : Nat) (exponent : Int) :
    ((numerator <<< (-exponent).toNat : Nat) : Rat) /
        ((denominator <<< exponent.toNat : Nat) : Rat) =
      numerator / denominator / 2 ^ exponent := by
  rw [Nat.shiftLeft_eq, Nat.shiftLeft_eq]
  push_cast
  obtain ⟨k, rfl | rfl⟩ := exponent.eq_nat_or_neg
  · simp [div_div]
  · simp
    ring

theorem shiftLeft_pos {n : Nat} (h : 0 < n) (k : Nat) : 0 < n <<< k := by
  rw [Nat.shiftLeft_eq]
  positivity

theorem le_roundScaled_iff (numerator : Nat) (hd : 0 < denominator) {m : Nat} (hm : Even m)
    (exponent : Int) :
    m ≤ roundScaled numerator denominator exponent ↔
      ((m : Rat) - 1 / 2) * 2 ^ exponent ≤ (numerator : Rat) / denominator := by
  have hb := shiftLeft_pos hd exponent.toNat
  have hb' : (0 : Rat) < ((denominator <<< exponent.toNat : Nat) : Rat) := by exact_mod_cast hb
  rw [roundScaled, le_roundQuotient_iff _ hb hm, ← le_div_iff₀ (by positivity),
    ← shiftLeft_div_shiftLeft, le_div_iff₀ hb', ← Nat.cast_le (α := Rat)]
  push_cast
  constructor <;> intro h <;> linarith

theorem roundScaled_le (numerator : Nat) (hd : 0 < denominator) (exponent : Int) :
    ((roundScaled numerator denominator exponent : Rat) - 1 / 2) * 2 ^ exponent ≤
      (numerator : Rat) / denominator := by
  have hb := shiftLeft_pos hd exponent.toNat
  have hb' : (0 : Rat) < ((denominator <<< exponent.toNat : Nat) : Rat) := by exact_mod_cast hb
  have hnear := (roundQuotient_near (numerator <<< (-exponent).toNat) hb).1
  rw [← le_div_iff₀ (by positivity), ← shiftLeft_div_shiftLeft, le_div_iff₀ hb', roundScaled]
  rw [← Nat.cast_le (α := Rat)] at hnear
  push_cast at hnear
  linarith

theorem roundScaled_eq_zero_iff (hd : 0 < denominator) (exponent : Int) :
    roundScaled numerator denominator exponent = 0 ↔
      (numerator : Rat) / denominator ≤ 2 ^ (exponent - 1) := by
  have hb := shiftLeft_pos hd exponent.toNat
  have hb' : (0 : Rat) < ((denominator <<< exponent.toNat : Nat) : Rat) := by exact_mod_cast hb
  have hhalf : (2 : Rat) ^ (exponent - 1) = 1 / 2 * 2 ^ exponent := by
    rw [zpow_sub_one₀ (by norm_num)]
    ring
  rw [roundScaled, roundQuotient_eq_zero_iff _ hb, hhalf, ← div_le_iff₀ (by positivity),
    ← shiftLeft_div_shiftLeft, div_le_iff₀ hb', ← Nat.cast_le (α := Rat)]
  push_cast
  constructor <;> intro h <;> linarith

/-- The lengths of two numbers in bits give the exponent of their ratio, or one more. -/
theorem log2_sub_log2_bounds (hn : 0 < numerator) (hd : 0 < denominator) :
    (2 : Rat) ^ ((numerator.log2 : Int) - denominator.log2 - 1) ≤
        (numerator : Rat) / denominator ∧
      (numerator : Rat) / denominator < 2 ^ ((numerator.log2 : Int) - denominator.log2 + 1) := by
  have hd' : (0 : Rat) < denominator := by exact_mod_cast hd
  have hnlow : ((2 ^ numerator.log2 : Nat) : Rat) ≤ numerator := by
    exact_mod_cast Nat.log2_self_le (by omega)
  have hnhigh : (numerator : Rat) < ((2 ^ (numerator.log2 + 1) : Nat) : Rat) := by
    exact_mod_cast Nat.lt_log2_self
  have hdlow : ((2 ^ denominator.log2 : Nat) : Rat) ≤ denominator := by
    exact_mod_cast Nat.log2_self_le (by omega)
  have hdhigh : (denominator : Rat) < ((2 ^ (denominator.log2 + 1) : Nat) : Rat) := by
    exact_mod_cast Nat.lt_log2_self
  push_cast at hnlow hnhigh hdlow hdhigh
  rw [pow_succ] at hnhigh hdhigh
  have hquotient : (2 : Rat) ^ ((numerator.log2 : Int) - denominator.log2) =
      2 ^ numerator.log2 / 2 ^ denominator.log2 := by
    rw [zpow_sub₀ (by norm_num), zpow_natCast, zpow_natCast]
  constructor
  · rw [zpow_sub_one₀ (by norm_num), hquotient, le_div_iff₀ hd']
    calc (2 : Rat) ^ numerator.log2 / 2 ^ denominator.log2 * 2⁻¹ * denominator
        ≤ 2 ^ numerator.log2 / 2 ^ denominator.log2 * 2⁻¹ * (2 ^ denominator.log2 * 2) := by
          gcongr
      _ = 2 ^ numerator.log2 := by field_simp
      _ ≤ numerator := hnlow
  · rw [zpow_add_one₀ (by norm_num), hquotient, div_lt_iff₀ hd']
    calc (numerator : Rat) < 2 ^ numerator.log2 * 2 := hnhigh
      _ = 2 ^ numerator.log2 / 2 ^ denominator.log2 * 2 * 2 ^ denominator.log2 := by field_simp
      _ ≤ 2 ^ numerator.log2 / 2 ^ denominator.log2 * 2 * denominator := by gcongr

theorem shiftLeft_le_shiftLeft_iff (numerator : Nat) (hd : 0 < denominator) (exponent : Int) :
    denominator <<< exponent.toNat ≤ numerator <<< (-exponent).toNat ↔
      (2 : Rat) ^ exponent ≤ (numerator : Rat) / denominator := by
  have hb : (0 : Rat) < ((denominator <<< exponent.toNat : Nat) : Rat) := by
    exact_mod_cast shiftLeft_pos hd exponent.toNat
  rw [← one_le_div₀ (b := (2 : Rat) ^ exponent) (by positivity), ← shiftLeft_div_shiftLeft,
    one_le_div₀ hb, Nat.cast_le]

/-- The exponent of a ratio: it lies between that power of two and the next one. -/
theorem floorLog_bounds (hn : 0 < numerator) (hd : 0 < denominator) :
    (2 : Rat) ^ floorLog numerator denominator ≤ (numerator : Rat) / denominator ∧
      (numerator : Rat) / denominator < 2 ^ (floorLog numerator denominator + 1) := by
  obtain ⟨hlow, hhigh⟩ := log2_sub_log2_bounds hn hd
  -- The comparison decides between the two exponents that are left.
  unfold floorLog
  dsimp only
  split
  · rename_i h
    exact ⟨(shiftLeft_le_shiftLeft_iff numerator hd _).mp h, hhigh⟩
  · rename_i h
    rw [shiftLeft_le_shiftLeft_iff numerator hd, not_le] at h
    rw [sub_add_cancel]
    exact ⟨hlow, h⟩

/-! ### The nearest number -/

def roundingExponent (numerator denominator : Nat) : Int :=
  max (floorLog numerator denominator - 52) (-1074)

theorem roundScaled_roundingExponent_le (hn : 0 < numerator) (hd : 0 < denominator) :
    roundScaled numerator denominator (roundingExponent numerator denominator) ≤ 2 ^ 53 := by
  set e := roundingExponent numerator denominator with he
  have hbound : (numerator : Rat) / denominator < 2 ^ 53 * 2 ^ e := by
    calc (numerator : Rat) / denominator < 2 ^ (floorLog numerator denominator + 1) :=
          (floorLog_bounds hn hd).2
      _ ≤ 2 ^ (53 + e) := by
          apply zpow_le_zpow_right₀ (by norm_num)
          rw [he, roundingExponent]
          omega
      _ = 2 ^ 53 * 2 ^ e := by
          rw [zpow_add₀ (by norm_num)]
          norm_num
  have hrounded := (roundScaled_le numerator hd e).trans_lt hbound
  have hless := lt_of_mul_lt_mul_right hrounded (by positivity)
  have hcast : (roundScaled numerator denominator e : Rat) < ((2 ^ 53 + 1 : Nat) : Rat) := by
    push_cast
    linarith
  exact Nat.le_of_lt_succ (Nat.cast_lt.mp hcast)

/-- All bits are used, unless the exponent is the least. -/
theorem le_roundScaled_roundingExponent (hn : 0 < numerator) (hd : 0 < denominator)
    (h : roundingExponent numerator denominator ≠ -1074) :
    2 ^ 52 ≤ roundScaled numerator denominator (roundingExponent numerator denominator) := by
  have hexponent : roundingExponent numerator denominator =
      floorLog numerator denominator - 52 := by
    unfold roundingExponent at h ⊢
    omega
  rw [le_roundScaled_iff numerator hd (by decide), hexponent]
  refine le_trans ?_ (floorLog_bounds hn hd).1
  rw [zpow_sub₀ (by norm_num)]
  have hpositive : (0 : Rat) < 2 ^ floorLog numerator denominator := by positivity
  push_cast
  norm_num
  linarith

theorem ofRatio_eq (negative : Bool) (hn : 0 < numerator) :
    let exponent := roundingExponent numerator denominator
    let rounded := roundScaled numerator denominator exponent
    ofRatio negative numerator denominator =
      if rounded = 2 ^ 53 then
        if h : Canonical (2 ^ 52) (exponent + 1) then .finite negative (2 ^ 52) (exponent + 1) h
        else .infinity negative
      else
        if h : Canonical rounded exponent then .finite negative rounded exponent h
        else .infinity negative := by
  intro exponent rounded
  rw [ofRatio, if_neg (by omega)]
  simp only [Nat.shiftLeft_eq, one_mul]
  split <;> split <;> simp_all [exponent, rounded, roundingExponent]

/-- Halfway from the largest finite number to the next power of two. -/
def overflowThreshold : Rat :=
  (2 ^ 53 - 1 / 2) * 2 ^ (971 : Int)

theorem overflowThreshold_bounds :
    (2 : Rat) ^ (1023 : Int) ≤ overflowThreshold ∧ overflowThreshold ≤ 2 ^ (1024 : Int) := by
  have hpow : (0 : Rat) < 2 ^ (971 : Int) := by positivity
  rw [overflowThreshold, show (1023 : Int) = 52 + 971 by rfl, show (1024 : Int) = 53 + 971 by rfl,
    zpow_add₀ (by norm_num), zpow_add₀ (by norm_num)]
  constructor
  · exact mul_le_mul_of_nonneg_right (by norm_num) hpow.le
  · exact mul_le_mul_of_nonneg_right (by norm_num) hpow.le

/-- A ratio reaches the threshold if its exponent is too large, or gets so by the carry. -/
theorem overflowThreshold_le_iff (hn : 0 < numerator) (hd : 0 < denominator) :
    overflowThreshold ≤ (numerator : Rat) / denominator ↔
      971 < roundingExponent numerator denominator ∨
        roundingExponent numerator denominator = 971 ∧
          roundScaled numerator denominator (roundingExponent numerator denominator) = 2 ^ 53 := by
  obtain ⟨hlow, hhigh⟩ := floorLog_bounds hn hd
  have hexponent : roundingExponent numerator denominator =
      max (floorLog numerator denominator - 52) (-1074) := rfl
  obtain hless | heq | hgreater := lt_trichotomy (roundingExponent numerator denominator) 971
  · have hbelow : (numerator : Rat) / denominator < overflowThreshold := by
      calc (numerator : Rat) / denominator < 2 ^ (floorLog numerator denominator + 1) := hhigh
        _ ≤ 2 ^ (1023 : Int) := zpow_le_zpow_right₀ (by norm_num) (by omega)
        _ ≤ overflowThreshold := overflowThreshold_bounds.1
    constructor
    · intro h
      exact absurd h hbelow.not_ge
    · omega
  · -- The threshold is where rounding reaches the next power of two.
    have hle := roundScaled_roundingExponent_le hn hd
    have hreaches := le_roundScaled_iff numerator hd (m := 2 ^ 53) (by decide) 971
    rw [heq] at hle ⊢
    rw [Nat.cast_pow, Nat.cast_ofNat] at hreaches
    rw [overflowThreshold, ← hreaches]
    constructor
    · intro h
      exact .inr ⟨rfl, le_antisymm hle h⟩
    · rintro (h | ⟨-, h⟩)
      · omega
      · exact h.ge
  · have habove : overflowThreshold ≤ (numerator : Rat) / denominator := by
      calc overflowThreshold ≤ 2 ^ (1024 : Int) := overflowThreshold_bounds.2
        _ ≤ 2 ^ floorLog numerator denominator :=
          zpow_le_zpow_right₀ (by norm_num) (by omega)
        _ ≤ (numerator : Rat) / denominator := hlow
    exact ⟨fun _ => .inl hgreater, fun _ => habove⟩

theorem ofRatio_eq_infinity_iff (negative : Bool) (hd : 0 < denominator) :
    ofRatio negative numerator denominator = .infinity negative ↔
      overflowThreshold ≤ (numerator : Rat) / denominator := by
  obtain rfl | hn := Nat.eq_zero_or_pos numerator
  · have hpositive : 0 < overflowThreshold :=
      lt_of_lt_of_le (by positivity) overflowThreshold_bounds.1
    simp [ofRatio, zero, hpositive]
  have hle := roundScaled_roundingExponent_le hn hd
  have hbits := le_roundScaled_roundingExponent hn hd
  have hleast : -1074 ≤ roundingExponent numerator denominator := le_max_right _ _
  rw [ofRatio_eq negative hn, overflowThreshold_le_iff hn hd]
  generalize roundScaled numerator denominator (roundingExponent numerator denominator) = rounded
    at *
  generalize roundingExponent numerator denominator = exponent at *
  -- The significand is right, before and after the carry; the exponent decides.
  have hcarried : Canonical (2 ^ 52) (exponent + 1) ↔ exponent + 1 ≤ 971 := by
    simp only [Canonical, Nat.shiftLeft_eq]
    omega
  have hcanonical (h : rounded ≠ 2 ^ 53) : Canonical rounded exponent ↔ exponent ≤ 971 := by
    simp only [Canonical, Nat.shiftLeft_eq]
    omega
  split
  · split <;> rename_i h <;> rw [hcarried] at h <;>
      simp only [reduceCtorEq, false_iff, true_iff] <;> omega
  · rename_i hrounded
    split <;> rename_i h <;> rw [hcanonical hrounded] at h <;>
      simp only [reduceCtorEq, false_iff, true_iff] <;> omega

/-- Zero is given from halfway to the least positive number downwards. -/
theorem isZero_ofRatio_iff (negative : Bool) (hd : 0 < denominator) :
    (ofRatio negative numerator denominator).isZero = true ↔
      (numerator : Rat) / denominator ≤ 2 ^ (-1075 : Int) := by
  obtain rfl | hn := Nat.eq_zero_or_pos numerator
  · simp [ofRatio, zero, isZero]
  have hleast : roundScaled numerator denominator (roundingExponent numerator denominator) = 0 ↔
      (numerator : Rat) / denominator ≤ 2 ^ (-1075 : Int) := by
    by_cases he : roundingExponent numerator denominator = -1074
    · rw [roundScaled_eq_zero_iff hd, he]
      norm_num
    · -- All bits of the significand are used, and the ratio is not so small.
      have hbits := le_roundScaled_roundingExponent hn hd he
      have hlarge : (2 : Rat) ^ (-1075 : Int) < (numerator : Rat) / denominator := by
        refine lt_of_lt_of_le ?_ (floorLog_bounds hn hd).1
        apply zpow_lt_zpow_right₀ (by norm_num)
        unfold roundingExponent at he
        omega
      constructor
      · omega
      · intro h
        exact absurd h hlarge.not_ge
  have hbits := le_roundScaled_roundingExponent hn hd
  rw [ofRatio_eq negative hn, ← hleast]
  generalize roundScaled numerator denominator (roundingExponent numerator denominator) = rounded
    at *
  generalize roundingExponent numerator denominator = exponent at *
  split
  · split <;> simp [isZero, *]
  · split
    · cases rounded <;> simp [isZero]
    · rename_i h
      simp only [isZero, Bool.false_eq_true, false_iff]
      rintro rfl
      -- Zero has its form with the least exponent.
      apply h
      obtain rfl : exponent = -1074 := by
        by_contra hne
        exact absurd (hbits hne) (by norm_num)
      decide

/-! ### Rational numbers -/

theorem natAbs_num_div_den (q : Rat) : (q.num.natAbs : Rat) / q.den = |q| := by
  have habs : |q| = |(q.num : Rat)| / q.den := by
    nth_rewrite 1 [← Rat.num_div_den q]
    rw [abs_div, Nat.abs_cast]
  rw [habs, Nat.cast_natAbs, Int.cast_abs]

theorem negative_of_ofRatio_eq_infinity {negative other : Bool} {numerator denominator : Nat}
    (h : ofRatio negative numerator denominator = .infinity other) : other = negative := by
  obtain rfl | hn := Nat.eq_zero_or_pos numerator
  · cases h
  rw [ofRatio_eq negative hn] at h
  split at h <;> split at h <;> cases h <;> rfl

theorem ofRat?_eq_some_iff (q : Rat) (x : Binary64) :
    ofRat? q = some x ↔ |q| < overflowThreshold ∧ ofRat (q.num < 0) q = x := by
  have hsign : ∀ {other}, ofRat (q.num < 0) q = .infinity other → overflowThreshold ≤ |q| := by
    intro other h
    obtain rfl := negative_of_ofRatio_eq_infinity h
    rw [← natAbs_num_div_den]
    exact (ofRatio_eq_infinity_iff _ q.den_pos).mp h
  have hlarge (h : overflowThreshold ≤ |q|) : ∃ other, ofRat (q.num < 0) q = .infinity other := by
    rw [← natAbs_num_div_den] at h
    exact ⟨_, (ofRatio_eq_infinity_iff _ q.den_pos).mpr h⟩
  unfold ofRat?
  constructor
  · intro h
    split at h
    · cases h
    · rename_i hfinite
      refine ⟨?_, Option.some.inj h⟩
      by_contra hthreshold
      obtain ⟨other, hinfinite⟩ := hlarge (not_lt.mp hthreshold)
      exact hfinite other hinfinite
  · rintro ⟨hless, rfl⟩
    split
    · rename_i hinfinite
      exact absurd (hsign hinfinite) hless.not_ge
    · rfl

/-- A rational number has no nearest finite number exactly from the threshold on. -/
theorem ofRat?_eq_none_iff (q : Rat) : ofRat? q = none ↔ overflowThreshold ≤ |q| := by
  rw [← not_iff_not, ← ne_eq, Option.ne_none_iff_exists', not_le]
  simp [ofRat?_eq_some_iff]

theorem isZero_of_ofRat? {q : Rat} {x : Binary64} (h : ofRat? q = some x) :
    x.isZero = true ↔ |q| ≤ 2 ^ (-1075 : Int) := by
  obtain ⟨-, rfl⟩ := (ofRat?_eq_some_iff q x).mp h
  rw [← natAbs_num_div_den]
  exact isZero_ofRatio_iff _ q.den_pos

theorem isZero_of_ofRat?_int {n : Int} {x : Binary64} (h : ofRat? n = some x) :
    x.isZero = true ↔ n = 0 := by
  rw [isZero_of_ofRat? h]
  constructor
  · intro hsmall
    have hone : (2 : Rat) ^ (-1075 : Int) < 1 := zpow_lt_one_of_neg₀ (by norm_num) (by norm_num)
    have habs : |(n : Rat)| < 1 := hsmall.trans_lt hone
    exact Int.abs_lt_one_iff.mp (by exact_mod_cast habs)
  · rintro rfl
    simp

end LanguageShell.Binary64

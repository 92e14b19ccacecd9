import LanguageShell.Proofs.Calculator.Arithmetic
import LanguageShell.Proofs.Calculator.Noninterference

/-!
Exact numbers that are written and read again. The sign of a negative number comes back as an
operator, and so does the slash of a fraction, before it the numerator with its sign. The value of
this expression is the number, as an integer if it is one.
-/

namespace LanguageShell.Calculator

open Pattern

/-! ### Texts of numbers -/

def integerText : Int → List Char
  | .ofNat n => Nat.toDigits 10 n
  | .negSucc n => '-' :: Nat.toDigits 10 (n + 1)

/-- A rational number as it is written: without a denominator if it is an integer. -/
def rationalText (q : Rat) : List Char :=
  if q.den = 1 then integerText q.num else integerText q.num ++ '/' :: Nat.toDigits 10 q.den

theorem toString_int (n : Int) : toString n = String.ofList (integerText n) := by
  cases n with
  | ofNat n => rfl
  | negSucc n =>
      have htext : (Nat.repr (n + 1)).toList = Nat.toDigits 10 (n + 1) := String.toList_ofList
      have hparts : toString (Int.negSucc n) = "-" ++ Nat.repr (n + 1) := rfl
      refine String.toList_inj.mp ?_
      rw [hparts, String.toList_append, htext, String.toList_ofList, String.toList_ofList]
      rfl

theorem decimal_eq_ofList {n : Int} (h : Integer.Writable n.natAbs) :
    Integer.decimal n = .ok (String.ofList (integerText n)) :=
  (decimal_of_writable h).trans (congrArg Except.ok (toString_int n))

namespace Value

theorem isWritable_iff_of_rational {v : Value} {q : Rat} (h : v.rational? = some q) :
    v.IsWritable ↔ Integer.Writable q.num.natAbs ∧ Integer.Writable q.den := by
  cases v with
  | int n =>
      cases h
      have hone : Integer.Writable 1 := writable_of_lt (by decide : 1 < 10 ^ 1) (by decide)
      simp [IsWritable, hone]
  | fraction p =>
      cases h
      rfl
  | float x => cases h

/-- An exact number is written in one way, whatever kind it is of and to however many decimals
others are rounded. -/
theorem toText_of_rational {v : Value} {q : Rat} (h : v.rational? = some q) (hv : v.IsWritable)
    (precision : Option Int) : v.toText precision = .ok (String.ofList (rationalText q)) := by
  cases v with
  | int n =>
      cases h
      exact decimal_eq_ofList hv
  | fraction p =>
      cases h
      have hden : Integer.Writable (q.den : Int).natAbs := hv.2
      rw [toText, decimal_eq_ofList hv.1, decimal_eq_ofList hden, rationalText]
      by_cases hintegral : q.den = 1
      · rw [if_pos hintegral]
        exact if_pos hintegral
      · have htext : String.ofList (integerText q.num) ++ "/" ++
            String.ofList (Nat.toDigits 10 q.den) =
              String.ofList (integerText q.num ++ '/' :: Nat.toDigits 10 q.den) :=
          String.toList_inj.mp (by simp)
        rw [if_neg hintegral, ← htext]
        exact if_neg hintegral
  | float x => cases h

theorem same_of_rational {v w : Value} {q : Rat} (hv : v.rational? = some q)
    (hw : w.rational? = some q) : v.Same w := by
  cases v <;> cases w <;> simp_all [Same, rational?]

end Value

theorem mem_integerText {n : Int} {c : Char} (h : c ∈ integerText n) :
    Text.isDigit c = true ∨ c = '-' := by
  cases n with
  | ofNat n => exact .inl (Text.isDigit_of_mem_toDigits h)
  | negSucc n =>
      obtain rfl | h := List.mem_cons.mp h
      · exact .inr rfl
      · exact .inl (Text.isDigit_of_mem_toDigits h)

theorem mem_rationalText {q : Rat} {c : Char} (h : c ∈ rationalText q) :
    Text.isDigit c = true ∨ c = '-' ∨ c = '/' := by
  unfold rationalText at h
  split at h
  · exact (mem_integerText h).imp_right .inl
  · rw [List.mem_append, List.mem_cons] at h
    obtain h | rfl | h := h
    · exact (mem_integerText h).imp_right .inl
    · exact .inr (.inr rfl)
    · exact .inl (Text.isDigit_of_mem_toDigits h)

/-! ### Phrases of numbers -/

def numeral (n : Nat) : Phrase Unit .unary :=
  .ofAtom (.number (Nat.toDigits 10 n) ())

def integerPhrase : Int → Phrase Unit .unary
  | .ofNat n => numeral n
  | .negSucc n => .neg () (numeral (n + 1))

def rationalPhrase (q : Rat) : Phrase Unit .product :=
  if q.den = 1 then .ofUnary (integerPhrase q.num)
  else .product (.ofUnary (integerPhrase q.num)) .slash () (numeral q.den)

def EndsNumber (rest : List Char) : Prop :=
  ∀ c, rest.head? = some c → Text.isDigit c = false ∧ c ≠ '.' ∧ ¬(c = 'e' ∨ c = 'E')

/-- Whether the text splits into words with the tokens of the phrase, all of which have a meaning,
wherever a number may end. -/
def Reads {layer : Layer} (text : List Char) (phrase : Phrase Unit layer) : Prop :=
  (∀ token ∈ tokensOf phrase.yield, token.HasMeaning) ∧
    ∃ words, textOf words = text ∧ words.filterMap Word.token? = tokensOf phrase.yield ∧
      ∀ rest, EndsNumber rest → Leads words rest

theorem Reads.lexes {layer : Layer} {text : List Char} {phrase : Phrase Unit layer}
    (h : Reads text phrase) : Lexes text (tokensOf phrase.yield) := by
  obtain ⟨hmeaning, words, htext, htokens, hleads⟩ := h
  exact ⟨hmeaning, words, htext, htokens, fun rest hrest => hleads rest hrest.ends.2⟩

theorem reads_numeral {n : Nat} (h : Integer.Writable n) :
    Reads (Nat.toDigits 10 n) (numeral n) := by
  refine ⟨?_, [⟨.number, Nat.toDigits 10 n⟩], by simp, rfl, fun rest hrest => ⟨?_, trivial⟩⟩
  · intro token htoken
    obtain rfl := List.mem_singleton.mp htoken
    exact fun _ => length_toDigits_le h
  · exact wins_number (matches_toDigits n) hrest

theorem reads_integer {n : Int} (h : Integer.Writable n.natAbs) :
    Reads (integerText n) (integerPhrase n) := by
  cases n with
  | ofNat n => exact reads_numeral h
  | negSucc n =>
      obtain ⟨hmeaning, words, htext, htokens, hleads⟩ := reads_numeral h
      refine ⟨List.forall_mem_cons.mpr ⟨trivial, hmeaning⟩, ⟨.minus, ['-']⟩ :: words, ?_, ?_,
        fun rest hrest => ⟨wins_single _ rfl (by decide), hleads rest hrest⟩⟩
      · rw [textOf_cons, htext]
        rfl
      · exact congrArg (Token.minus :: ·) htokens

theorem reads_rational {q : Rat} (hnum : Integer.Writable q.num.natAbs)
    (hden : Integer.Writable q.den) : Reads (rationalText q) (rationalPhrase q) := by
  have hleft := reads_integer hnum
  unfold rationalText rationalPhrase
  split
  · exact hleft
  · obtain ⟨hmeaning, front, hfront, hfronts, hleads⟩ := hleft
    obtain ⟨hmeaning', back, hback, hbacks, hleads'⟩ := reads_numeral hden
    have hyield : tokensOf (Phrase.product (.ofUnary (integerPhrase q.num)) .slash ()
        (numeral q.den)).yield =
          tokensOf (integerPhrase q.num).yield ++ .slash :: tokensOf (numeral q.den).yield :=
      tokensOf_append _ _
    refine ⟨?_, front ++ ⟨.slash, ['/']⟩ :: back, ?_, ?_, fun rest hrest => ?_⟩
    · rw [hyield]
      exact List.forall_mem_append.mpr ⟨hmeaning, List.forall_mem_cons.mpr ⟨trivial, hmeaning'⟩⟩
    · rw [textOf_append, textOf_cons, hfront, hback]
      rfl
    · rw [hyield, List.filterMap_append, hfronts, ← hbacks]
      rfl
    · refine Leads.append (hleads _ ?_) ⟨wins_single _ rfl (by decide), hleads' rest hrest⟩
      intro c hc
      obtain rfl : '/' = c := Option.some.inj hc
      decide

theorem exists_initial_rational (q : Rat) : ∃ c rest, rationalText q = c :: rest ∧ IsInitial c := by
  have hinteger : ∃ c rest, integerText q.num = c :: rest ∧ IsInitial c := by
    cases q.num with
    | ofNat n => exact Term.exists_initial_digits n
    | negSucc n => exact ⟨'-', _, rfl, by decide, by decide⟩
  unfold rationalText
  split
  · exact hinteger
  · obtain ⟨c, rest, htext, hc⟩ := hinteger
    exact ⟨c, _, by rw [htext, List.cons_append], hc⟩

/-! ### Values of numbers that are read -/

/-- Whether all expressions of the shape have the value, whatever is bound. -/
def Term.Means (shape : Term Empty Unit) (value : Value) : Prop :=
  ∀ (e : Expr) (env : Env), e.map (fun _ => ()) = shape →
    e.check env = .ok () ∧ e.evaluate env = .ok value

namespace Term

theorem means_num (value : Value) : Means (.num value ()) value := by
  intro e env he
  cases e with
  | num other place =>
      obtain ⟨rfl, -⟩ := Term.num.inj he
      exact ⟨rfl, rfl⟩
  | foreign allowed => exact allowed.elim
  | var | neg | bin => cases he

theorem Means.neg {operand : Term Empty Unit} {value : Value} (h : operand.Means value) :
    Means (.neg operand ()) value.neg := by
  intro e env he
  cases e with
  | neg inner place =>
      obtain ⟨hcheck, hvalue⟩ := h inner env (Term.neg.inj he).1
      exact ⟨hcheck, evaluate_neg_of_ok hvalue place⟩
  | foreign allowed => exact allowed.elim
  | num | var | bin => cases he

theorem Means.bin {op : Operator} {left right : Term Empty Unit} {x y value : Value}
    (hleft : left.Means x) (hright : right.Means y) (h : Value.apply op x y = .ok value) :
    Means (.bin op left right ()) value := by
  intro e env he
  cases e with
  | bin other first second place =>
      obtain ⟨rfl, hfirst, hsecond, -⟩ := Term.bin.inj he
      obtain ⟨hcheck, hx⟩ := hleft first env hfirst
      obtain ⟨hcheck', hy⟩ := hright second env hsecond
      constructor
      · rw [check, hcheck, hcheck']
        rfl
      · rw [evaluate_bin_of_operands hx hy, h]
        rfl
  | foreign allowed => exact allowed.elim
  | num | var | neg => cases he

end Term

open Term

theorem shape_numeral (n : Nat) : (numeral n).shape = .num (.int n) () := by
  rw [numeral, Phrase.shape, Phrase.shape, literal_toDigits]

theorem means_integer (n : Int) : (integerPhrase n).shape.Means (.int n) := by
  cases n with
  | ofNat n =>
      rw [integerPhrase, shape_numeral]
      exact means_num (.int n)
  | negSucc n =>
      rw [integerPhrase, Phrase.shape, shape_numeral]
      exact (means_num (.int (n + 1 : Nat))).neg

theorem means_rational (q : Rat) : (rationalPhrase q).shape.Means (Value.collapse q) := by
  have hnum := means_integer q.num
  unfold rationalPhrase
  split
  · rename_i hintegral
    rw [Value.collapse, if_pos hintegral]
    exact hnum
  · have hden : ((q.den : Int) : Rat) ≠ 0 := by simp
    have hguard : ¬(Operator.div = .div ∧ (Value.int q.den).IsZero) := by simp [Value.IsZero]
    have hvalue : Value.applyExact .div (q.num : Rat) ((q.den : Int) : Rat) = q := by
      rw [Value.applyExact, Int.cast_natCast, Rat.num_div_den]
    have happly : Value.apply .div (.int q.num) (.int q.den) = .ok (Value.collapse q) := by
      rw [Value.apply, if_neg hguard, hvalue]
    rw [Phrase.shape, shape_numeral]
    exact hnum.bin (means_num _) happly

theorem isWritable_integer {n : Int} (h : Integer.Writable n.natAbs) :
    (integerPhrase n).shape.IsWritable := by
  cases n with
  | ofNat n =>
      rw [integerPhrase, shape_numeral]
      exact ⟨n, rfl, h⟩
  | negSucc n =>
      rw [integerPhrase, Phrase.shape, shape_numeral]
      exact ⟨n + 1, rfl, h⟩

theorem isWritable_rational {q : Rat} (hnum : Integer.Writable q.num.natAbs)
    (hden : Integer.Writable q.den) : (rationalPhrase q).shape.IsWritable := by
  have hleft := isWritable_integer hnum
  unfold rationalPhrase
  split
  · exact hleft
  · rw [Phrase.shape, shape_numeral]
    exact ⟨hleft, q.den, rfl, hden⟩

theorem computed_rational {q : Rat} (hnum : Integer.Writable q.num.natAbs)
    (hden : Integer.Writable q.den) {e : Expr}
    (he : e.map (fun _ => ()) = (rationalPhrase q).shape) (env : Env) :
    e.computed env = .ok (Value.collapse q) ∧ (Value.collapse q).IsWritable := by
  have hwritable : e.IsWritable :=
    (all_map (fun _ => ()) e).mp (he ▸ isWritable_rational hnum hden)
  obtain ⟨hcheck, hvalue⟩ := means_rational q e env he
  constructor
  · rw [computed, hcheck, toText_eq hwritable, hvalue]
    rfl
  · exact (Value.isWritable_iff_of_rational (Value.rational?_collapse q)).mpr ⟨hnum, hden⟩

end LanguageShell.Calculator

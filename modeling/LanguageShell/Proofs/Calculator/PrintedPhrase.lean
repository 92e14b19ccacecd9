import LanguageShell.Proofs.Calculator.Acceptance
import LanguageShell.Proofs.Calculator.Printing

/-!
Printed expressions as phrases. If an expression is printed completely, its text splits into the
tokens of a phrase that stands for it. The phrase is of the layer at which the expression was
printed; parentheses are written just where a phrase would be of a higher layer.
-/

namespace LanguageShell.Calculator

/-! ### Words that are written -/

/-- Whether what follows ends every name and every number. -/
def IsBoundary (rest : List Char) : Prop :=
  ∀ c, rest.head? = some c → c = ' ' ∨ c = ')' ∨ c = ';'

/-- Whether the text splits into words with the given tokens, all of which have a meaning, wherever
it is not continued. -/
def Lexes (text : List Char) (tokens : List Token) : Prop :=
  (∀ token ∈ tokens, token.HasMeaning) ∧
    ∃ words, textOf words = text ∧ words.filterMap Word.token? = tokens ∧
      ∀ rest, IsBoundary rest → Leads words rest

namespace Pattern

theorem wins_openParen {rest : List Char} (h : rest.head? ≠ some '*') :
    openParen.Wins ['('] rest := by
  refine wins_iff.mpr ⟨by simp [length?, Regex.literalLength?], fun _ => if_neg ?_⟩
  rintro ⟨inner, hinner⟩
  obtain rfl : '*' :: inner = rest := (List.cons.inj hinner).2
  exact h rfl

theorem wins_name {word rest : List Char} (hword : name.regex.Matches word)
    (hrest : ∀ c, rest.head? = some c → isNamePart c = false) : name.Wins word rest := by
  obtain ⟨c, others, rfl, hc, hothers⟩ := Regex.matches_headed.mp hword
  have hstop : rest.takeWhile isNamePart = [] := by
    cases rest with
    | nil => rfl
    | cons c rest => simp [hrest c rfl]
  refine wins_of_ne_open ?_ ?_
  · rintro rfl
    exact absurd hc (by decide)
  · simp [length?, Regex.headedLength?, hc, List.takeWhile_append_of_pos hothers, hstop]

theorem wins_number {word rest : List Char} (hword : number.regex.Matches word)
    (hrest : ∀ c, rest.head? = some c →
      Text.isDigit c = false ∧ c ≠ '.' ∧ ¬(c = 'e' ∨ c = 'E')) : number.Wins word rest := by
  have hstop : digitsLength rest = 0 ∧ fractionLength rest = 0 ∧ powerLength rest = 0 := by
    cases rest with
    | nil => exact ⟨rfl, rfl, rfl⟩
    | cons c rest =>
        obtain ⟨hdigit, hpoint, hpower⟩ := hrest c rfl
        exact ⟨digitsLength_cons_of_not rest hdigit, fractionLength_cons_of_ne rest hpoint,
          powerLength_cons_of_ne rest hpower⟩
  have hlength := numberLength_append hword hstop.1 hstop.2.1 hstop.2.2
  obtain ⟨c, others, rfl, hc⟩ := exists_digit_of_number hword
  refine wins_of_ne_open ?_ ?_
  · rintro rfl
    exact absurd hc (by decide)
  · have hsome : digitsLength (c :: (others ++ rest)) ≠ 0 := by simp [digitsLength_cons _ hc]
    exact (if_neg hsome).trans (congrArg some hlength)

theorem wins_space {rest : List Char}
    (h : ∀ c, rest.head? = some c → isIgnorable c = false) : blank.Wins [' '] rest :=
  wins_blank_iff.mpr ⟨by simp, by simp [isIgnorable], h⟩

end Pattern

theorem IsBoundary.ends {rest : List Char} (h : IsBoundary rest) :
    (∀ c, rest.head? = some c → isNamePart c = false) ∧
      ∀ c, rest.head? = some c → Text.isDigit c = false ∧ c ≠ '.' ∧ ¬(c = 'e' ∨ c = 'E') := by
  constructor
  · intro c hc
    obtain rfl | rfl | rfl := h c hc <;> decide
  · intro c hc
    obtain rfl | rfl | rfl := h c hc <;> decide

theorem lexes_number {text : List Char} (h : Pattern.number.regex.Matches text)
    (hmeaning : (Token.number text).HasMeaning) : Lexes text [.number text] := by
  refine ⟨by simpa using hmeaning, [⟨.number, text⟩], by simp, rfl, ?_⟩
  intro rest hrest
  exact ⟨Pattern.wins_number h hrest.ends.2, trivial⟩

theorem lexes_name {text : List Char} (h : Pattern.name.regex.Matches text) :
    Lexes text [.name text] := by
  refine ⟨by simp [Token.HasMeaning], [⟨.name, text⟩], by simp, rfl, ?_⟩
  intro rest hrest
  exact ⟨Pattern.wins_name h hrest.ends.1, trivial⟩

theorem Lexes.neg {text : List Char} {tokens : List Token} (h : Lexes text tokens) :
    Lexes ('-' :: text) (.minus :: tokens) := by
  obtain ⟨hmeaning, words, rfl, rfl, hleads⟩ := h
  refine ⟨by simpa [Token.HasMeaning] using hmeaning, ⟨.minus, ['-']⟩ :: words, by simp, rfl, ?_⟩
  intro rest hrest
  exact ⟨Pattern.wins_single _ rfl (by decide), hleads rest hrest⟩

theorem Lexes.parens {text : List Char} {tokens : List Token} (h : Lexes text tokens)
    (hinitial : ∃ c rest, text = c :: rest ∧ IsInitial c) :
    Lexes ('(' :: text ++ [')']) (.openParen :: tokens ++ [.closeParen]) := by
  obtain ⟨hmeaning, words, rfl, rfl, hleads⟩ := h
  obtain ⟨c, others, htext, hstar, _⟩ := hinitial
  let opening : Word := ⟨.openParen, ['(']⟩
  let closing : Word := ⟨.closeParen, [')']⟩
  have hopening : opening.token? = some .openParen := rfl
  have hclosing : closing.token? = some .closeParen := rfl
  refine ⟨?_, opening :: (words ++ [closing]), by simp [opening, closing],
    by simp [hopening, hclosing], fun rest hrest => ⟨?_, ?_⟩⟩
  · simp only [List.cons_append, List.forall_mem_cons, List.forall_mem_append]
    exact ⟨trivial, hmeaning, trivial, by simp⟩
  · refine Pattern.wins_openParen ?_
    simpa [htext] using hstar
  · refine Leads.append (hleads _ ?_) ⟨?_, trivial⟩
    · simp [IsBoundary, closing]
    · exact Pattern.wins_single rest rfl (by decide)

def Operator.token : Operator → Token
  | add => .plus
  | sub => .minus
  | mul => .star
  | div => .slash

def Operator.pattern : Operator → Pattern
  | add => .plus
  | sub => .minus
  | mul => .star
  | div => .slash

theorem Operator.wins (op : Operator) (rest : List Char) : op.pattern.Wins [op.symbol] rest := by
  cases op <;> exact Pattern.wins_single rest rfl (by decide)

theorem Lexes.bin {left right : List Char} {front back : List Token} (op : Operator)
    (hleft : Lexes left front) (hright : Lexes right back)
    (hinitial : ∃ c rest, right = c :: rest ∧ IsInitial c) :
    Lexes (left ++ ' ' :: op.symbol :: ' ' :: right) (front ++ op.token :: back) := by
  obtain ⟨hleft, lefts, rfl, rfl, hlefts⟩ := hleft
  obtain ⟨hright, rights, rfl, rfl, hrights⟩ := hright
  obtain ⟨c, others, htext, _, hblank⟩ := hinitial
  let space : Word := ⟨.blank, [' ']⟩
  let sign : Word := ⟨op.pattern, [op.symbol]⟩
  have hspace : space.token? = none := rfl
  have hsign : sign.token? = some op.token := by cases op <;> rfl
  have hsolid : isIgnorable op.symbol = false := by cases op <;> decide
  refine ⟨?_, lefts ++ space :: sign :: space :: rights, by simp [space, sign],
    by simp [hspace, hsign], fun rest hrest => ?_⟩
  · simp only [List.forall_mem_append, List.forall_mem_cons]
    exact ⟨hleft, by cases op <;> trivial, hright⟩
  · refine Leads.append (hlefts _ ?_) ⟨?_, op.wins _, ?_, hrights rest hrest⟩
    · simp [IsBoundary, space]
    · exact Pattern.wins_space (by simp [sign, hsolid])
    · exact Pattern.wins_space (by simp [htext, hblank])

/-! ### Phrases for expressions -/

/-- The highest level at which phrases of the layer are printed without parentheses. -/
def Layer.level : Layer → Int
  | atom => 0
  | unary => 1
  | product => 2
  | sum => 3

theorem Phrase.exists_lift {α : Type} {lower : Layer} (upper : Layer) (phrase : Phrase α lower)
    (h : lower.level ≤ upper.level) :
    ∃ other : Phrase α upper, other.yield = phrase.yield ∧ other.shape = phrase.shape := by
  cases lower <;> cases upper <;> first
    | exact absurd h (by decide)
    | exact ⟨phrase, rfl, rfl⟩
    | exact ⟨.ofAtom phrase, rfl, rfl⟩
    | exact ⟨.ofUnary phrase, rfl, rfl⟩
    | exact ⟨.ofProduct phrase, rfl, rfl⟩
    | exact ⟨.ofUnary (.ofAtom phrase), rfl, rfl⟩
    | exact ⟨.ofProduct (.ofUnary phrase), rfl, rfl⟩
    | exact ⟨.ofProduct (.ofUnary (.ofAtom phrase)), rfl, rfl⟩

/-- The text of a phrase, in parentheses if its layer is too high, is that of a phrase of the
layer that is wanted. -/
theorem exists_fitting {layer natural : Layer} (hlayer : layer ≠ .atom)
    (phrase : Phrase Unit natural) {text : List Char} (htext : Lexes text (tokensOf phrase.yield))
    (hinitial : ∃ c rest, text = c :: rest ∧ IsInitial c) :
    ∃ other : Phrase Unit layer, other.shape = phrase.shape ∧
      Lexes (Term.parenthesized layer.level natural.level text) (tokensOf other.yield) := by
  unfold Term.parenthesized
  split
  · obtain ⟨inner, hinner, hshape⟩ := phrase.exists_lift .sum (by cases natural <;> decide)
    obtain ⟨other, hyield, hother⟩ := (Phrase.parens () inner ()).exists_lift layer
      (by cases layer <;> decide)
    refine ⟨other, hother.trans hshape, ?_⟩
    rw [hyield, Phrase.yield, hinner]
    simpa [Terminal.spelled] using htext.parens hinitial
  · rename_i hlevel
    obtain ⟨other, hyield, hshape⟩ := phrase.exists_lift layer (Int.not_lt.mp hlevel)
    exact ⟨other, hshape, by rwa [hyield]⟩

def Operator.layer : Operator → Layer
  | add | sub => .sum
  | mul | div => .product

def Operator.below : Operator → Layer
  | add | sub => .product
  | mul | div => .unary

namespace Operator

theorem level_layer (op : Operator) : op.layer.level = op.level := by
  cases op <;> rfl

theorem level_below (op : Operator) : op.below.level = op.level - 1 := by
  cases op <;> rfl

theorem layer_ne_atom (op : Operator) : op.layer ≠ .atom := by
  cases op <;> simp [layer]

theorem below_ne_atom (op : Operator) : op.below ≠ .atom := by
  cases op <;> simp [below]

def phrase : (op : Operator) → Phrase Unit op.layer → Phrase Unit op.below → Phrase Unit op.layer
  | add, left, right => .sum left .plus () right
  | sub, left, right => .sum left .minus () right
  | mul, left, right => .product left .star () right
  | div, left, right => .product left .slash () right

theorem shape_phrase (op : Operator) (left : Phrase Unit op.layer) (right : Phrase Unit op.below) :
    (op.phrase left right).shape = .bin op left.shape right.shape () := by
  cases op <;> rfl

theorem tokensOf_phrase (op : Operator) (left : Phrase Unit op.layer)
    (right : Phrase Unit op.below) :
    tokensOf (op.phrase left right).yield =
      tokensOf left.yield ++ op.token :: tokensOf right.yield := by
  cases op <;> exact tokensOf_append _ _

end Operator

theorem literal_toDigits (n : Nat) : Token.literal (Nat.toDigits 10 n) = .int n := by
  have hnone : ((Nat.toDigits 10 n).any fun c => c = '.' || c = 'e' || c = 'E') = false := by
    simp only [List.any_eq_false, Bool.or_eq_true, decide_eq_true_eq]
    intro c hc
    have hdigit := Text.isDigit_of_mem_toDigits hc
    rintro ((rfl | rfl) | rfl) <;> exact absurd hdigit (by decide)
  rw [Token.literal, hnone, Text.naturalOfDigits_toDigits]
  rfl

theorem matches_digits_toDigits (n : Nat) : Pattern.digits.Matches (Nat.toDigits 10 n) :=
  Regex.matches_several_char.mpr
    ⟨Nat.toDigits_ne_nil, fun _ hc => Text.isDigit_of_mem_toDigits hc⟩

theorem matches_toDigits (n : Nat) : Pattern.number.regex.Matches (Nat.toDigits 10 n) :=
  Pattern.matches_number_of_digits (matches_digits_toDigits n)

theorem length_toDigits_le {n : Nat} (h : Integer.Writable n) :
    (Nat.toDigits 10 n).length ≤ Fault.maxIntegerDigits := by
  have hiff : ∀ places, 0 < places → n < Nat.pow 10 places →
      (Nat.toDigits 10 n).length ≤ places :=
    fun _ hpositive hlt => (Nat.length_toDigits_le_iff (by decide) hpositive).mpr hlt
  exact hiff _ (by decide) h

/-- An expression for which there is room is printed at each level as a phrase of that layer. -/
theorem exists_phrase_printed {α : Type} {e : Term Empty α} (h : e.IsWritable) {room : Nat}
    (hroom : e.height ≤ room) {layer : Layer} (hlayer : layer ≠ .atom) :
    ∃ phrase : Phrase Unit layer, phrase.shape = e.map (fun _ => ()) ∧
      Lexes (e.printed room layer.level) (tokensOf phrase.yield) := by
  induction e generalizing room layer with
  | foreign => exact h.elim
  | num value _ =>
      cases room with
      | zero => simp [Term.height] at hroom
      | succ room =>
          obtain ⟨n, rfl, hn⟩ := h
          have htext := lexes_number (matches_toDigits n) fun _ => length_toDigits_le hn
          rw [← Term.literalText_int hn] at htext
          obtain ⟨phrase, hshape, hlexes⟩ := exists_fitting hlayer
            (.number (Nat.toDigits 10 n) ()) (Term.literalText_int hn ▸ htext)
            (Term.exists_initial_literal hn)
          exact ⟨phrase, hshape.trans (by rw [Phrase.shape, literal_toDigits]; rfl), hlexes⟩
  | var name _ =>
      cases room with
      | zero => simp [Term.height] at hroom
      | succ room =>
          obtain ⟨phrase, hshape, hlexes⟩ := exists_fitting hlayer (.name name.toList ())
            (lexes_name h) (Term.exists_initial_name h)
          exact ⟨phrase, hshape.trans (by rw [Phrase.shape, String.ofList_toList]; rfl), hlexes⟩
  | neg operand _ ih =>
      cases room with
      | zero => simp [Term.height] at hroom
      | succ room =>
          have hlower : operand.height ≤ room := by simpa [Term.height] using hroom
          obtain ⟨inner, hinner, htext⟩ := ih h hlower (by decide : Layer.unary ≠ .atom)
          obtain ⟨phrase, hshape, hlexes⟩ := exists_fitting hlayer (.neg () inner) htext.neg
            ⟨'-', _, rfl, by decide, by decide⟩
          exact ⟨phrase, hshape.trans (by rw [Phrase.shape, hinner]; rfl), hlexes⟩
  | bin op left right _ ihl ihr =>
      cases room with
      | zero => simp [Term.height] at hroom
      | succ room =>
          simp only [Term.height, Nat.add_le_add_iff_right, Nat.max_le] at hroom
          obtain ⟨l, hl, hleft⟩ := ihl h.1 hroom.1 op.layer_ne_atom
          obtain ⟨r, hr, hright⟩ := ihr h.2 hroom.2 op.below_ne_atom
          rw [op.level_layer] at hleft
          rw [op.level_below] at hright
          have hinitials := Term.IsWritable.hasInitials h
          have htext := hleft.bin op hright
            (Term.exists_initial_printed hinitials.2 room (op.level - 1))
          rw [← op.tokensOf_phrase] at htext
          obtain ⟨c, rest, hfirst, hc⟩ := Term.exists_initial_printed hinitials.1 room op.level
          obtain ⟨phrase, hshape, hlexes⟩ := exists_fitting hlayer _ htext
            ⟨c, _, by rw [hfirst, List.cons_append], hc⟩
          rw [op.level_layer] at hlexes
          exact ⟨phrase, by rw [hshape, op.shape_phrase, hl, hr]; rfl, hlexes⟩

end LanguageShell.Calculator

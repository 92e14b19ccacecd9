import LanguageShell.Proofs.Calculator.Faults
import LanguageShell.Proofs.Calculator.Numeral

/-!
The names and the numerals in printed expressions. Each name and each literal of an expression that
is printed completely is one token of the text, in the same order: a name is that name again, and a
literal is a numeral of the same kind, an integer or a floating-point number. But a numeral may
denote a number that is too large to be finite, and that is printed as a name.
-/

namespace LanguageShell.Calculator

/-! ### Names and literals -/

/-- A name or a literal that an expression mentions. -/
inductive Mention where
  | literal (value : Value)
  | name (x : String)
deriving DecidableEq

namespace Mention

/-- The literal of which no numeral is printed. -/
def infinity : Mention :=
  literal (.float (.infinity false))

def infinityText : List Char :=
  ['i', 'n', 'f']

def name? : Mention → Option (List Char)
  | literal _ => none
  | name x => some x.toList

def literal? : Mention → Option Value
  | literal value => some value
  | name _ => none

def token : Mention → Token
  | literal value =>
    if literal value = infinity then .name infinityText else .number (Term.literalText value)
  | name x => .name x.toList

theorem token_infinity : infinity.token = .name infinityText := by
  rw [infinity, token, infinity, if_pos rfl]

theorem token_literal {value : Value} (h : literal value ≠ infinity) :
    (literal value).token = .number (Term.literalText value) :=
  if_neg h

end Mention

def Term.mentions {φ α : Type} : Term φ α → List Mention
  | num value _ => [.literal value]
  | var x _ => [.name x]
  | neg operand _ => operand.mentions
  | bin _ left right _ => left.mentions ++ right.mentions
  | foreign .. => []

namespace Token

def name? : Token → Option (List Char)
  | name text => some text
  | _ => none

def numeral? : Token → Option (List Char)
  | number text => some text
  | _ => none

def isOperand : Token → Bool
  | name _ | number _ => true
  | _ => false

end Token

@[simp] theorem Mention.isOperand_token (mention : Mention) : mention.token.isOperand = true := by
  cases mention with
  | name x => rfl
  | literal value =>
      rw [token]
      split <;> rfl

def operandsIn (text : List Char) : List Token :=
  ((Lexemes.ofText text).list.map (·.token)).filter Token.isOperand

/-- Whether the names in the text are those that are mentioned, and the numerals in it are one for
each of the literals, of the same kind; both in their order. -/
def KeepsMentions (mentions : List Mention) (text : List Char) : Prop :=
  (operandsIn text).filterMap Token.name? = mentions.filterMap Mention.name? ∧
    List.Forall₂ (fun value numeral => (Token.literal numeral).IsFloat ↔ value.IsFloat)
      (mentions.filterMap Mention.literal?) ((operandsIn text).filterMap Token.numeral?)

/-! ### Literals -/

/-- Whether there is a numeral that denotes the number. -/
def Value.IsDenoted (value : Value) : Prop :=
  ∃ text, (Token.number text).IsGenuine ∧ Token.literal text = value

/-- A number that a numeral denotes is written as a numeral of the same kind, unless it is
infinite. -/
theorem Value.IsDenoted.numeral {value : Value} (h : value.IsDenoted)
    (hfinite : Mention.literal value ≠ .infinity) :
    Pattern.number.regex.Matches (Term.literalText value) ∧
      (Token.number (Term.literalText value)).HasMeaning ∧
      ((Token.literal (Term.literalText value)).IsFloat ↔ value.IsFloat) := by
  obtain ⟨text, hgenuine, rfl⟩ := h
  obtain ⟨-, hint⟩ | ⟨-, x, hfloat, hunsigned⟩ := Token.literal_cases hgenuine.number.1
  · obtain ⟨m, hm, hwritable⟩ := hgenuine.writable hint
    rw [hint, hm, Term.literalText_int hwritable, literal_toDigits]
    exact ⟨matches_toDigits m, fun _ => length_toDigits_le hwritable, Iff.rfl⟩
  · rw [hfloat] at hfinite ⊢
    have htext : Term.literalText (.float x) = x.toText.toList := rfl
    obtain ⟨hmatches, hdigits⟩ :=
      Binary64.matches_toText hunsigned fun hx => hfinite (hx ▸ rfl)
    rw [htext]
    refine ⟨hmatches, fun hall => absurd hall hdigits, ?_⟩
    obtain ⟨hall, -⟩ | ⟨-, y, hy, -⟩ := Token.literal_cases hmatches
    · exact absurd hall hdigits
    · rw [hy]
      exact iff_of_true ⟨y, rfl⟩ ⟨x, rfl⟩

theorem lexes_literal {value : Value} (h : value.IsDenoted) :
    Lexes (Term.literalText value) [(Mention.literal value).token] := by
  by_cases hinfinite : Mention.literal value = .infinity
  · rw [hinfinite, Mention.token_infinity]
    obtain rfl := Mention.literal.inj hinfinite
    exact lexes_name
      (Regex.matches_headed.mpr ⟨'i', ['n', 'f'], rfl, rfl, List.all_eq_true.mp rfl⟩)
  · obtain ⟨hmatches, hmeaning, -⟩ := h.numeral hinfinite
    rw [Mention.token_literal hinfinite]
    exact lexes_number hmatches hmeaning

theorem exists_initial_denoted {value : Value} (h : value.IsDenoted) :
    ∃ c rest, Term.literalText value = c :: rest ∧ IsInitial c := by
  by_cases hinfinite : Mention.literal value = .infinity
  · obtain rfl := Mention.literal.inj hinfinite
    exact ⟨'i', ['n', 'f'], rfl, by decide, by decide⟩
  · obtain ⟨hmatches, -⟩ := h.numeral hinfinite
    obtain ⟨c, rest, htext, hc⟩ := Pattern.exists_digit_of_number hmatches
    exact ⟨c, rest, htext, Text.ne_of_isDigit hc (by decide),
      Pattern.not_isIgnorable_of_isDigit hc⟩

/-! ### Tokens of printed expressions -/

theorem Lexes.operandsIn_eq {text : List Char} {tokens : List Token} (h : Lexes text tokens) :
    (Lexemes.ofText text).stuck = none ∧ operandsIn text = tokens.filter Token.isOperand := by
  obtain ⟨words, hsplits, rfl⟩ := h.splits
  rw [operandsIn, Lexemes.ofText, hsplits.ofTextAt, Word.map_token_lexemesFrom]
  exact ⟨rfl, rfl⟩

theorem Lexes.parenthesized {text : List Char} {tokens : List Token} (h : Lexes text tokens)
    (hinitial : ∃ c rest, text = c :: rest ∧ IsInitial c) (maxLevel level : Int) :
    ∃ others, Lexes (Term.parenthesized maxLevel level text) others ∧
      others.filter Token.isOperand = tokens.filter Token.isOperand := by
  unfold Term.parenthesized
  split
  · exact ⟨_, h.parens hinitial, by simp [Token.isOperand]⟩
  · exact ⟨tokens, h, rfl⟩

namespace Term

variable {α : Type}

/-- Whether the literals and the names of an expression are such as the parser gives. -/
def IsParsed (e : Term Empty α) : Prop :=
  e.All Value.IsDenoted fun x => Pattern.name.regex.Matches x.toList

theorem IsParsed.hasInitials {e : Term Empty α} (h : e.IsParsed) : e.HasInitials :=
  h.imp (fun _ => exists_initial_denoted) fun _ => exists_initial_name

theorem exists_lexes_printed {e : Term Empty α} (h : e.IsParsed) {room : Nat}
    (hroom : e.height ≤ room) (maxLevel : Int) :
    ∃ tokens, Lexes (e.printed room maxLevel) tokens ∧
      tokens.filter Token.isOperand = e.mentions.map Mention.token := by
  induction e generalizing room maxLevel with
  | foreign allowed => exact allowed.elim
  | num value _ =>
      cases room with
      | zero => simp [height] at hroom
      | succ room =>
          obtain ⟨tokens, hlexes, htokens⟩ :=
            (lexes_literal h).parenthesized (exists_initial_denoted h) maxLevel 0
          exact ⟨tokens, hlexes, htokens.trans (List.filter_eq_self.mpr (by simp))⟩
  | var x _ =>
      cases room with
      | zero => simp [height] at hroom
      | succ room =>
          exact (lexes_name h).parenthesized (exists_initial_name h) maxLevel 0
  | neg operand _ ih =>
      cases room with
      | zero => simp [height] at hroom
      | succ room =>
          have hlower : operand.height ≤ room := by simpa [height] using hroom
          obtain ⟨inner, hinner, hmentions⟩ := ih h hlower negationLevel
          obtain ⟨tokens, hlexes, htokens⟩ := hinner.neg.parenthesized
            ⟨'-', _, rfl, by decide, by decide⟩ maxLevel negationLevel
          exact ⟨tokens, hlexes, htokens.trans hmentions⟩
  | bin op left right _ ihl ihr =>
      cases room with
      | zero => simp [height] at hroom
      | succ room =>
          simp only [height, Nat.add_le_add_iff_right, Nat.max_le] at hroom
          have hinitials := IsParsed.hasInitials h
          obtain ⟨front, hfront, hlefts⟩ := ihl h.1 hroom.1 op.level
          obtain ⟨back, hback, hrights⟩ := ihr h.2 hroom.2 (op.level - 1)
          obtain ⟨c, rest, hfirst, hc⟩ := exists_initial_printed hinitials.1 room op.level
          have hboth := hfront.bin op hback
            (exists_initial_printed hinitials.2 room (op.level - 1))
          obtain ⟨tokens, hlexes, htokens⟩ := hboth.parenthesized
            ⟨c, _, by rw [hfirst, List.cons_append], hc⟩ maxLevel op.level
          refine ⟨tokens, hlexes, ?_⟩
          have hop : op.token.isOperand = false := by cases op <;> rfl
          rw [htokens, List.filter_append, List.filter_cons_of_neg (by simp [hop]), hlefts, hrights,
            mentions, List.map_append]

end Term

theorem Produced.isParsed {e : Expr} (h : Produced e) : e.IsParsed := by
  apply h.all
  · exact fun text hgenuine => ⟨text, hgenuine, rfl⟩
  · intro text hgenuine
    rw [String.toList_ofList]
    exact hgenuine.name

/-! ### What is kept -/

namespace Mention

theorem name?_token {mention : Mention} (h : mention ≠ infinity) :
    mention.token.name? = mention.name? := by
  cases mention with
  | name x => rfl
  | literal value =>
      rw [token_literal h]
      rfl

theorem numeral?_token {mention : Mention} (h : mention ≠ infinity) :
    mention.token.numeral? = mention.literal?.map Term.literalText := by
  cases mention with
  | name x => rfl
  | literal value =>
      rw [token_literal h]
      rfl

/-- Each infinite literal is one more name. -/
theorem length_names (mentions : List Mention) :
    ((mentions.map token).filterMap Token.name?).length =
      (mentions.filterMap name?).length + mentions.count infinity := by
  induction mentions with
  | nil => rfl
  | cons mention rest ih =>
      by_cases hinfinite : mention = infinity
      · subst hinfinite
        have hname : Token.name? (.name infinityText) = some infinityText := rfl
        rw [List.map_cons, token_infinity, List.filterMap_cons_some hname, List.length_cons, ih,
          List.filterMap_cons_none rfl, List.count_cons_self, Nat.add_assoc]
      · rw [List.map_cons, List.filterMap_cons, name?_token hinfinite, List.filterMap_cons,
          List.count_cons_of_ne hinfinite]
        cases mention.name? with
        | none => exact ih
        | some x => rw [List.length_cons, List.length_cons, ih, Nat.add_right_comm]

end Mention

/-- If each mention is one token of the text, names and numerals are kept exactly if no literal is
infinite. -/
theorem keepsMentions_iff {mentions : List Mention} {text : List Char}
    (h : operandsIn text = mentions.map Mention.token)
    (hdenoted : ∀ value, Mention.literal value ∈ mentions → value.IsDenoted) :
    KeepsMentions mentions text ↔ Mention.infinity ∉ mentions := by
  rw [KeepsMentions, h]
  constructor
  · rintro ⟨hnames, -⟩
    have hlength := Mention.length_names mentions
    rw [hnames] at hlength
    exact List.count_eq_zero.mp (by omega)
  · intro hfinite
    have hne : ∀ mention ∈ mentions, mention ≠ Mention.infinity :=
      fun mention hmem heq => hfinite (heq ▸ hmem)
    rw [List.filterMap_map, List.filterMap_map]
    constructor
    · exact List.filterMap_congr fun mention hmem => Mention.name?_token (hne mention hmem)
    · have hnumerals : mentions.filterMap (Token.numeral? ∘ Mention.token) =
          (mentions.filterMap Mention.literal?).map Term.literalText := by
        rw [List.map_filterMap]
        exact List.filterMap_congr fun mention hmem => Mention.numeral?_token (hne mention hmem)
      rw [hnumerals, List.forall₂_map_right_iff, List.forall₂_same]
      intro value hvalue
      obtain ⟨mention, hmem, hliteral⟩ := List.mem_filterMap.mp hvalue
      cases mention with
      | name x => cases hliteral
      | literal other =>
          obtain rfl := Option.some.inj hliteral
          exact ((hdenoted other hmem).numeral (hne _ hmem)).2.2

theorem Term.IsParsed.isDenoted {α : Type} {e : Term Empty α} (h : e.IsParsed) {value : Value}
    (hmem : .literal value ∈ e.mentions) : value.IsDenoted := by
  induction e with
  | foreign allowed => exact allowed.elim
  | num other _ =>
      obtain rfl : value = other := by simpa [mentions] using hmem
      exact h
  | var x _ => simp [mentions] at hmem
  | neg operand _ ih => exact ih h hmem
  | bin op left right _ ihl ihr =>
      obtain hmem | hmem := List.mem_append.mp hmem
      · exact ihl h.1 hmem
      · exact ihr h.2 hmem

theorem exists_produced_of_any (source : Source) {p : Expr → Prop} [DecidablePred p]
    (h : ((parseSingle source).toOption.bind Command.expr?).any (p ·) = true) :
    ∃ e, Produced e ∧ p e := by
  obtain ⟨e, hexpr, hp⟩ := (Option.any_eq_true ..).mp h
  refine ⟨e, ?_, of_decide_eq_true hp⟩
  cases hparse : parseSingle source with
  | error failure =>
      rw [hparse] at hexpr
      cases hexpr
  | ok command =>
      rw [hparse] at hexpr
      exact produced_of_parseSingle source hparse hexpr

/-- A parsed expression that is printed completely is a text of tokens, and among them each of its
names is the same name and each of its literals is one token, in the same order. This token is a
numeral of the same kind, and the text has no names but those of the expression, exactly if no
literal is infinite. -/
theorem printed_names_and_numerals_are_kept {e : Expr} (h : Produced e)
    (hheight : e.height ≤ 42) :
    ∃ text, e.toText = .ok text ∧ (Lexemes.ofText text.toList).stuck = none ∧
      operandsIn text.toList = e.mentions.map Mention.token ∧
      (KeepsMentions e.mentions text.toList ↔ Mention.infinity ∉ e.mentions) := by
  obtain ⟨tokens, hlexes, htokens⟩ :=
    Term.exists_lexes_printed h.isParsed hheight Renderer.topLevel
  obtain ⟨hstuck, hoperands⟩ := hlexes.operandsIn_eq
  refine ⟨_, Term.toText_eq_printed h.isPrintable, ?_⟩
  rw [String.toList_ofList]
  exact ⟨hstuck, hoperands.trans htokens,
    keepsMentions_iff (hoperands.trans htokens) fun _ => h.isParsed.isDenoted⟩

/-- A numeral with a power is printed with a point. -/
theorem names_and_numerals_of_difference_are_kept :
    ∃ e : Expr, Produced e ∧ e.height ≤ 42 ∧ e.toText = .ok "x - 1.5" ∧
      KeepsMentions e.mentions "x - 1.5".toList := by
  obtain ⟨e, hproduced, hheight, htext, hfinite⟩ :=
    exists_produced_of_any (.ofString "x-15e-1;")
      (p := fun e => e.height ≤ 42 ∧ e.toText = .ok "x - 1.5" ∧ Mention.infinity ∉ e.mentions)
      (by decide +kernel)
  obtain ⟨text, hsame, -, -, hkept⟩ := printed_names_and_numerals_are_kept hproduced hheight
  obtain rfl := Except.ok.inj (htext.symm.trans hsame)
  exact ⟨e, hproduced, hheight, htext, hkept.mpr hfinite⟩

/-- The text of a number that is too large is a name, which the expression does not have. -/
theorem infinite_literal_is_printed_as_name :
    ¬∀ e : Expr, Produced e → e.height ≤ 42 → ∃ text, e.toText = .ok text ∧
      KeepsMentions e.mentions text.toList := by
  intro hclaim
  obtain ⟨e, hproduced, hheight, htext, hmentions⟩ :=
    exists_produced_of_any (.ofString "1e999;")
      (p := fun e => e.height ≤ 42 ∧ e.toText = .ok "inf" ∧ e.mentions = [.infinity])
      (by decide +kernel)
  obtain ⟨text, hsame, hnames, -⟩ := hclaim e hproduced hheight
  obtain rfl := Except.ok.inj (htext.symm.trans hsame)
  have hname : operandsIn "inf".toList = [.name ['i', 'n', 'f']] := by decide +kernel
  rw [hmentions, hname] at hnames
  cases hnames

end LanguageShell.Calculator

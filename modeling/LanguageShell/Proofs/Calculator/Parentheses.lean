import LanguageShell.Proofs.Calculator.WrittenNumber

/-!
How many parentheses are needed. An expression is printed with parentheses only where its operator
binds more loosely than is allowed there, and a phrase at that place can be one for the expression
only if it has parentheses, too. So no text of the expression has fewer of them.
-/

namespace LanguageShell

/-! ### Numbers have no parentheses -/

theorem Text.openParen_not_mem_toDigits (n : Nat) : '(' ∉ Nat.toDigits 10 n := by
  intro hmem
  exact absurd (isDigit_of_mem_toDigits hmem) (by decide)

namespace Binary64

theorem openParen_not_mem_powerText (exponent : Int) : '(' ∉ powerText exponent := by
  have hsign : '(' ≠ if exponent < 0 then '-' else '+' := by split <;> decide
  simp [powerText, hsign, Text.openParen_not_mem_toDigits]

theorem openParen_not_mem_layOut {digits : List Char} (h : '(' ∉ digits) (exponent : Int) :
    '(' ∉ layOut digits exponent := by
  have htake : ∀ n, '(' ∉ digits.take n := fun n hmem => h (List.mem_of_mem_take hmem)
  have hdrop : ∀ n, '(' ∉ digits.drop n := fun n hmem => h (List.mem_of_mem_drop hmem)
  unfold layOut
  split
  · split
    · simp [h]
    · simp only [List.mem_append, List.mem_cons]
      split <;> simp [htake, hdrop]
  · simp only [List.mem_append]
    split <;> simp [htake, hdrop, openParen_not_mem_powerText, -List.drop_one]

theorem openParen_not_mem_toText (x : Binary64) : '(' ∉ x.toText.toList := by
  cases x with
  | nan => decide
  | infinity negative => cases negative <;> decide
  | finite negative significand exponent h =>
      simp only [toText, String.toList_ofList]
      -- The sign apart, the text is laid out unless the number is zero.
      split <;> split <;> try split
      all_goals simp [openParen_not_mem_layOut, Text.openParen_not_mem_toDigits]

end Binary64

namespace Calculator

theorem openParen_not_mem_literalText (value : Value) : '(' ∉ Term.literalText value := by
  unfold Term.literalText
  split
  · rename_i text htext
    obtain ⟨x, rfl⟩ | ⟨q, hq⟩ := value.isFloat_or_isExact
    · obtain rfl := Except.ok.inj htext
      exact x.openParen_not_mem_toText
    · have hwritable : value.IsWritable := by
        by_contra hnot
        cases (Value.toText_of_not_isWritable hnot).symm.trans htext
      rw [Value.toText_of_rational hq hwritable] at htext
      obtain rfl := Except.ok.inj htext
      rw [String.toList_ofList]
      intro hmem
      exact absurd (mem_rationalText hmem) (by decide)
  · exact List.not_mem_nil

namespace Term

variable {φ α : Type}

/-- How many parentheses are written around what is on a level, where another one is allowed. -/
def pairs (maxLevel level : Int) : Nat :=
  if maxLevel < level then 1 else 0

/-- How many parentheses are written for an expression of which nothing is left out. -/
def parentheses (maxLevel : Int) : Term φ α → Nat
  | num .. | var .. => pairs maxLevel 0
  | neg operand _ => operand.parentheses negationLevel + pairs maxLevel negationLevel
  | bin op left right _ =>
    left.parentheses op.level + right.parentheses (op.level - 1) + pairs maxLevel op.level
  | foreign .. => 0

theorem pairs_anti {maxLevel higher : Int} (h : maxLevel ≤ higher) (level : Int) :
    pairs higher level ≤ pairs maxLevel level := by
  unfold pairs
  split <;> split <;> omega

theorem pairs_le_one (maxLevel level : Int) : pairs maxLevel level ≤ 1 := by
  unfold pairs
  split <;> omega

@[simp] theorem pairs_self (level : Int) : pairs level level = 0 :=
  if_neg (Int.lt_irrefl level)

theorem parentheses_anti {maxLevel higher : Int} (h : maxLevel ≤ higher) (e : Term φ α) :
    e.parentheses higher ≤ e.parentheses maxLevel := by
  cases e with
  | num | var => exact pairs_anti h 0
  | neg operand _ => exact Nat.add_le_add_left (pairs_anti h _) _
  | bin op left right _ => exact Nat.add_le_add_left (pairs_anti h _) _
  | foreign => exact Nat.le_refl 0

/-- Whatever is allowed, one more pair of parentheses is enough. -/
theorem parentheses_le (maxLevel other : Int) (e : Term φ α) :
    e.parentheses maxLevel ≤ e.parentheses other + 1 := by
  have hone := pairs_le_one maxLevel
  cases e with
  | num | var =>
      have hpairs := hone 0
      simp only [parentheses]
      omega
  | neg operand _ =>
      have hpairs := hone negationLevel
      simp only [parentheses]
      omega
  | bin op left right _ =>
      have hpairs := hone op.level
      simp only [parentheses]
      omega
  | foreign => exact Nat.zero_le _

theorem count_parenthesized (maxLevel level : Int) (text : List Char) :
    (parenthesized maxLevel level text).count '(' = text.count '(' + pairs maxLevel level := by
  unfold parenthesized pairs
  split <;> simp

theorem count_printed_le {e : Term φ α} (h : e.All (fun _ => True) fun x => '(' ∉ x.toList)
    (room : Nat) (maxLevel : Int) :
    (e.printed room maxLevel).count '(' ≤ e.parentheses maxLevel := by
  induction e generalizing room maxLevel with
  | foreign => exact h.elim
  | num value _ =>
      cases room with
      | zero => exact Nat.zero_le _
      | succ room =>
          have hnone := List.count_eq_zero.mpr (openParen_not_mem_literalText value)
          rw [printed, count_parenthesized, hnone, Nat.zero_add]
          exact Nat.le_refl _
  | var name _ =>
      cases room with
      | zero => exact Nat.zero_le _
      | succ room =>
          rw [printed, count_parenthesized, List.count_eq_zero.mpr h, Nat.zero_add]
          exact Nat.le_refl _
  | neg operand _ ih =>
      cases room with
      | zero => exact Nat.zero_le _
      | succ room =>
          have hoperand := ih h room negationLevel
          rw [printed, count_parenthesized, List.count_cons_of_ne (by decide)]
          exact Nat.add_le_add_right hoperand _
  | bin op left right _ ihl ihr =>
      cases room with
      | zero => exact Nat.zero_le _
      | succ room =>
          have hleft := ihl h.1 room op.level
          have hright := ihr h.2 room (op.level - 1)
          have hsymbol : op.symbol ≠ '(' := by cases op <;> decide
          rw [printed, count_parenthesized, List.count_append, List.count_cons_of_ne (by decide),
            List.count_cons_of_ne hsymbol, List.count_cons_of_ne (by decide)]
          exact Nat.add_le_add_right (Nat.add_le_add hleft hright) _

theorem parentheses_map {β : Type} (f : α → β) (e : Term φ α) (maxLevel : Int) :
    (e.map f).parentheses maxLevel = e.parentheses maxLevel := by
  induction e generalizing maxLevel with
  | num | var | foreign => rfl
  | neg _ _ ih => simp only [map, parentheses, ih]
  | bin _ _ _ _ ihl ihr => simp only [map, parentheses, ihl, ihr]

end Term

namespace Sign

variable {layer : Layer}

theorem level_operator (sign : Sign layer) : sign.operator.level = layer.level := by
  cases sign <;> rfl

theorem token_ne_openParen (sign : Sign layer) : sign.token ≠ .openParen := by
  cases sign <;> simp

end Sign

/-- A phrase has as many parentheses as are needed for its expression at least. -/
theorem Phrase.parentheses_le_count {α : Type} {layer : Layer} (phrase : Phrase α layer) :
    phrase.shape.parentheses layer.level ≤ (tokensOf phrase.yield).count .openParen := by
  induction phrase with
  | number | name => exact Nat.zero_le _
  | parens opening inner closing ih =>
      have hinner := inner.shape.parentheses_le Layer.atom.level Layer.sum.level
      have hcount : (tokensOf (yield (.parens opening inner closing))).count .openParen =
          (tokensOf inner.yield).count .openParen + 1 := by
        simp [yield, Terminal.spelled]
      rw [hcount]
      exact hinner.trans (Nat.add_le_add_right ih 1)
  | ofAtom atom ih => exact (atom.shape.parentheses_anti (by decide)).trans ih
  | ofUnary unary ih => exact (unary.shape.parentheses_anti (by decide)).trans ih
  | ofProduct product ih => exact (product.shape.parentheses_anti (by decide)).trans ih
  | neg sign operand ih =>
      have hminus : Token.minus ≠ .openParen := by decide
      rw [yield, tokensOf_cons, Terminal.spelled, List.count_cons_of_ne hminus]
      exact ih
  | product left sign _ right ihl ihr | sum left sign _ right ihl ihr =>
      -- The operands are allowed just what their layers are.
      rw [yield, tokensOf_append, tokensOf_cons, Terminal.spelled, List.count_append,
        List.count_cons_of_ne sign.token_ne_openParen, shape, Term.parentheses,
        sign.level_operator, Term.pairs_self, Nat.add_zero]
      exact Nat.add_le_add ihl ihr

theorem Produced.openParen_not_mem {e : Expr} (h : Produced e) :
    e.All (fun _ => True) fun x => '(' ∉ x.toList := by
  refine h.isLegible.imp (fun _ _ => trivial) fun x hx hmem => ?_
  exact absurd (Pattern.isNamePart_of_mem_name hx _ hmem) (by decide)

/-- The parentheses among the tokens of a text. Those in comments and strings do not count. -/
def parenthesesIn (text : List Char) : Nat :=
  ((Lexemes.ofText text).list.map (·.token)).count .openParen

/-- The number of parentheses in a printed expression is minimal. The expression of a command that
is parsed is printed with no more parentheses than the command has, and so is any expression that
is the same but for the places. -/
theorem printed_parentheses_are_minimal {source : Source} {command : Command Place} {e other : Expr}
    (hparse : parseSingle source = .ok command) (he : command.expr? = some e)
    (hsame : (other.map fun _ => ()) = e.map fun _ => ()) :
    ∃ text, other.toText = .ok text ∧ text.toList.count '(' ≤ parenthesesIn source.text := by
  have hproduced := produced_of_parseSingle source hparse he
  have htext : other.toText = e.toText := by
    rw [← other.toText_map fun _ => (), hsame, e.toText_map]
  refine ⟨_, htext.trans (Term.toText_eq_printed hproduced.isPrintable), ?_⟩
  obtain ⟨analysis, -, hcommands⟩ := parseSingle_eq_ok_iff.mp hparse
  obtain ⟨phrase, hphrase, htokens⟩ := analysis.exists_phrase (by simp [hcommands]) he
  have hall : parenthesesIn source.text =
      (tokensOf (yieldAll analysis.sentences)).count .openParen := by
    rw [parenthesesIn, analysis.lexemes_eq, ← analysis.filterMap_token?, Word.lexemes,
      Word.map_token_lexemesFrom]
  rw [hall, String.toList_ofList]
  calc (e.printed 42 Renderer.topLevel).count '('
      ≤ e.parentheses Renderer.topLevel :=
        Term.count_printed_le hproduced.openParen_not_mem 42 Renderer.topLevel
    _ ≤ e.parentheses Layer.sum.level := e.parentheses_anti (by decide)
    _ = phrase.shape.parentheses Layer.sum.level := by rw [hphrase, Term.parentheses_map]
    _ ≤ (tokensOf phrase.yield).count .openParen := phrase.parentheses_le_count
    _ ≤ (tokensOf (yieldAll analysis.sentences)).count .openParen :=
        htokens.sublist.count_le _

/-- Parentheses that are not needed, those that are, and one in a comment. -/
theorem printed_parentheses_of_sum :
    let source := Source.ofString "show ((x) * 2) + (* ( *) -(y - (1));"
    parenthesesIn source.text = 4 ∧ ∃ command e text, parseSingle source = .ok command ∧
      command.expr? = some e ∧ e.toText = .ok text ∧ text.toList.count '(' ≤ 4 := by
  intro source
  have hfour : parenthesesIn source.text = 4 := by
    show parenthesesIn (Source.ofString "show ((x) * 2) + (* ( *) -(y - (1));").text = 4
    cbv
  obtain ⟨command, e, hparse, he⟩ :
      ∃ command e, parseSingle source = .ok command ∧ Command.expr? command = some e :=
    ⟨_, _, by unfold source; cbv, rfl⟩
  obtain ⟨text, htext, hcount⟩ := printed_parentheses_are_minimal hparse he rfl
  exact ⟨hfour, command, e, text, hparse, he, htext, hfour ▸ hcount⟩

end Calculator

end LanguageShell

import LanguageShell.Proofs.Calculator.RoundTrip
import LanguageShell.Proofs.Calculator.Start

/-!
Where phrases and sentences stand. The tokens of a text stand one after another, and the extent of a
phrase reaches from the first of its tokens to the last one. Parentheses leave no node, so that a
node has the extent of a phrase without parentheses around it; the tokens of this phrase are a
stretch of those of the text, and the operands of an operator have stretches of that one on both
sides of its sign. What is to be said about the extents of nodes follows from the order of the
tokens.
-/

namespace LanguageShell.Calculator

/-! ### Tokens in order -/

/-- Whether tokens stand one after another, and none of them is empty. -/
structure InOrder (lexemes : List Lexeme) : Prop where
  solid : ∀ lexeme ∈ lexemes, lexeme.extent.start < lexeme.extent.stop
  apart : lexemes.Pairwise fun first second => first.extent.stop ≤ second.extent.start

namespace InOrder

variable {front back : List Lexeme}

theorem left (h : InOrder (front ++ back)) : InOrder front where
  solid lexeme hmem := h.solid lexeme (List.mem_append_left _ hmem)
  apart := (List.pairwise_append.mp h.apart).1

theorem right (h : InOrder (front ++ back)) : InOrder back where
  solid lexeme hmem := h.solid lexeme (List.mem_append_right _ hmem)
  apart := (List.pairwise_append.mp h.apart).2.1

theorem across (h : InOrder (front ++ back)) {first second : Lexeme} (hfirst : first ∈ front)
    (hsecond : second ∈ back) : first.extent.stop ≤ second.extent.start :=
  (List.pairwise_append.mp h.apart).2.2 first hfirst second hsecond

end InOrder

theorem Word.lexemesFrom_append (offset : Nat) (front back : List Word) :
    lexemesFrom offset (front ++ back) =
      lexemesFrom offset front ++ lexemesFrom (offset + (textOf front).length) back := by
  induction front generalizing offset with
  | nil => simp [lexemesFrom]
  | cons word front ih =>
      simp only [List.cons_append, lexemesFrom, ih, textOf_cons, List.length_append, Nat.add_assoc]
      cases word.token? <;> rfl

theorem inOrder_lexemesFrom {words : List Word} (h : ∀ word ∈ words, word.text ≠ [])
    (offset : Nat) :
    (∀ lexeme ∈ Word.lexemesFrom offset words, offset ≤ lexeme.extent.start) ∧
      InOrder (Word.lexemesFrom offset words) := by
  induction words generalizing offset with
  | nil => exact ⟨by simp [Word.lexemesFrom], by simp [Word.lexemesFrom], List.Pairwise.nil⟩
  | cons word words ih =>
      obtain ⟨hword, hwords⟩ := List.forall_mem_cons.mp h
      have hlength := List.length_pos_of_ne_nil hword
      obtain ⟨hafter, hsolid, hapart⟩ := ih hwords (offset + word.text.length)
      rw [Word.lexemesFrom]
      cases word.token? with
      | none => exact ⟨fun lexeme hmem => by have := hafter lexeme hmem; omega, hsolid, hapart⟩
      | some token =>
          refine ⟨?_, ?_, List.pairwise_cons.mpr ⟨hafter, hapart⟩⟩
          · intro lexeme hmem
            obtain rfl | hmem := List.mem_cons.mp hmem
            · exact le_rfl
            · have := hafter lexeme hmem
              omega
          · refine List.forall_mem_cons.mpr ⟨?_, hsolid⟩
            show offset < offset + word.text.length
            omega

/-! ### Stretches of tokens -/

namespace Extent

/-- Whether the extent reaches from the first of the tokens to the last one. -/
structure Covers (extent : Extent) (lexemes : List Lexeme) : Prop where
  start : lexemes.head?.map (·.extent.start) = some extent.start
  stop : lexemes.getLast?.map (·.extent.stop) = some extent.stop

def Inside (inner outer : Extent) : Prop :=
  outer.start ≤ inner.start ∧ inner.stop ≤ outer.stop

instance (inner outer : Extent) : Decidable (inner.Inside outer) :=
  inferInstanceAs (Decidable (_ ∧ _))

/-- What lies between two extents. -/
def gap (first second : Extent) : Extent :=
  ⟨first.stop, second.start⟩

namespace Covers

variable {extent first second : Extent} {front middle back lexemes : List Lexeme}

theorem singleton (leaf : Leaf Extent) : leaf.2.Covers [leaf.lexeme] :=
  ⟨rfl, rfl⟩

theorem exists_first (h : extent.Covers lexemes) :
    ∃ lexeme rest, lexemes = lexeme :: rest ∧ lexeme.extent.start = extent.start := by
  obtain ⟨lexeme, hhead, hstart⟩ := Option.map_eq_some_iff.mp h.start
  obtain ⟨rest, rfl⟩ := List.head?_eq_some_iff.mp hhead
  exact ⟨lexeme, rest, rfl, hstart⟩

theorem exists_last (h : extent.Covers lexemes) :
    ∃ rest lexeme, lexemes = rest ++ [lexeme] ∧ lexeme.extent.stop = extent.stop := by
  obtain ⟨lexeme, hlast, hstop⟩ := Option.map_eq_some_iff.mp h.stop
  obtain ⟨rest, rfl⟩ := List.getLast?_eq_some_iff.mp hlast
  exact ⟨rest, lexeme, rfl, hstop⟩

theorem ne_nil (h : extent.Covers lexemes) : lexemes ≠ [] := by
  obtain ⟨lexeme, rest, rfl, -⟩ := h.exists_first
  exact List.cons_ne_nil lexeme rest

theorem through (hfront : first.Covers front) (middle : List Lexeme) (hback : second.Covers back) :
    (first.through second).Covers (front ++ (middle ++ back)) where
  start := by
    rw [List.head?_append_of_ne_nil _ hfront.ne_nil]
    exact hfront.start
  stop := by
    rw [← List.append_assoc, List.getLast?_append_of_ne_nil _ hback.ne_nil]
    exact hback.stop

theorem stop_le_of_mem (h : extent.Covers lexemes) (horder : InOrder (front ++ lexemes))
    {lexeme : Lexeme} (hmem : lexeme ∈ front ++ lexemes) : lexeme.extent.stop ≤ extent.stop := by
  obtain ⟨rest, last, rfl, hstop⟩ := h.exists_last
  rw [← List.append_assoc] at horder hmem
  rw [← hstop]
  obtain hrest | hlast := List.mem_append.mp hmem
  · have hsolid := horder.solid last (by simp)
    have hapart := horder.across hrest (List.mem_singleton_self last)
    omega
  · rw [List.mem_singleton.mp hlast]

theorem start_le_of_mem (h : extent.Covers lexemes) (horder : InOrder (lexemes ++ back))
    {lexeme : Lexeme} (hmem : lexeme ∈ lexemes ++ back) : extent.start ≤ lexeme.extent.start := by
  obtain ⟨first, rest, rfl, hstart⟩ := h.exists_first
  rw [List.cons_append] at horder hmem
  rw [← hstart]
  obtain rfl | hrest := List.mem_cons.mp hmem
  · exact le_rfl
  · have hsolid := horder.solid first List.mem_cons_self
    have hapart := List.rel_of_pairwise_cons horder.apart hrest
    omega

theorem inside (h : extent.Covers lexemes) (horder : InOrder lexemes) {lexeme : Lexeme}
    (hmem : lexeme ∈ lexemes) : lexeme.extent.Inside extent := by
  have hback : InOrder (lexemes ++ []) := by rwa [List.append_nil]
  have hfront : InOrder ([] ++ lexemes) := horder
  exact ⟨h.start_le_of_mem hback (List.mem_append_left _ hmem), h.stop_le_of_mem hfront hmem⟩

theorem inside_of_stretch (h : extent.Covers (front ++ (middle ++ back)))
    (hmiddle : first.Covers middle) (horder : InOrder (front ++ (middle ++ back))) :
    first.Inside extent := by
  constructor
  · obtain ⟨lexeme, rest, rfl, hstart⟩ := hmiddle.exists_first
    rw [← hstart]
    exact (h.inside horder (by simp)).1
  · obtain ⟨rest, lexeme, rfl, hstop⟩ := hmiddle.exists_last
    rw [← hstop]
    exact (h.inside horder (by simp)).2

theorem stop_le_start (hfront : first.Covers front) (hback : second.Covers back)
    (h : ∀ a ∈ front, ∀ b ∈ back, a.extent.stop ≤ b.extent.start) : first.stop ≤ second.start := by
  obtain ⟨_, last, rfl, hstop⟩ := hfront.exists_last
  obtain ⟨next, _, rfl, hstart⟩ := hback.exists_first
  rw [← hstop, ← hstart]
  exact h last (by simp) next (by simp)

/-- Between the extents of two stretches stand just the tokens between them. -/
theorem filter_gap (hfront : first.Covers front) (hback : second.Covers back)
    {before after : List Lexeme}
    (horder : InOrder ((before ++ front) ++ (middle ++ (back ++ after)))) :
    ((before ++ front) ++ (middle ++ (back ++ after))).filter
      (·.extent.Inside (first.gap second)) = middle := by
  have hrest := horder.right
  -- Since no token is empty, one that ends with the first stretch or before begins before that.
  have hbefore : (before ++ front).filter (·.extent.Inside (first.gap second)) = [] := by
    refine List.filter_eq_nil_iff.mpr fun lexeme hmem => ?_
    have hsolid := horder.left.solid lexeme hmem
    have hstop := hfront.stop_le_of_mem horder.left hmem
    rw [decide_eq_true_eq]
    simp only [Inside, gap]
    omega
  have hmiddle : middle.filter (·.extent.Inside (first.gap second)) = middle := by
    refine List.filter_eq_self.mpr fun lexeme hmem => decide_eq_true ⟨?_, ?_⟩
    · obtain ⟨_, last, rfl, hstop⟩ := hfront.exists_last
      rw [gap, ← hstop]
      exact horder.across (by simp) (List.mem_append_left _ hmem)
    · obtain ⟨next, _, rfl, hstart⟩ := hback.exists_first
      rw [gap, ← hstart]
      exact hrest.across hmem (by simp)
  have hafter : (back ++ after).filter (·.extent.Inside (first.gap second)) = [] := by
    refine List.filter_eq_nil_iff.mpr fun lexeme hmem => ?_
    have hsolid := hrest.right.solid lexeme hmem
    have hstart := hback.start_le_of_mem hrest.right hmem
    rw [decide_eq_true_eq]
    simp only [Inside, gap]
    omega
  rw [List.filter_append (before ++ front), List.filter_append middle, hbefore, hmiddle, hafter,
    List.nil_append, List.append_nil]

end Covers

end Extent

/-! ### Extents of phrases and sentences -/

def lexemesOf (leaves : List (Leaf Extent)) : List Lexeme :=
  leaves.map Leaf.lexeme

@[simp] theorem lexemesOf_nil : lexemesOf [] = [] := rfl

@[simp] theorem lexemesOf_cons (leaf : Leaf Extent) (leaves : List (Leaf Extent)) :
    lexemesOf (leaf :: leaves) = leaf.lexeme :: lexemesOf leaves := rfl

@[simp] theorem lexemesOf_append (front back : List (Leaf Extent)) :
    lexemesOf (front ++ back) = lexemesOf front ++ lexemesOf back :=
  List.map_append

theorem map_token_lexemesOf (leaves : List (Leaf Extent)) :
    (lexemesOf leaves).map (·.token) = tokensOf leaves := by
  rw [lexemesOf, List.map_map]
  rfl

def Term.note {α : Type} : Term Empty α → α
  | num _ note | var _ note | neg _ note | bin _ _ _ note => note
  | foreign allowed _ => allowed.elim

def Command.note {α : Type} : Command α → α
  | define _ _ note | eval _ note | display _ note | load _ note | listing note | help note => note

theorem Term.note_map {α β : Type} (f : α → β) (e : Term Empty α) : (e.map f).note = f e.note := by
  cases e with
  | foreign allowed => exact allowed.elim
  | _ => rfl

theorem Command.note_map {α β : Type} (f : α → β) (command : Command α) :
    (command.map f).note = f command.note := by
  cases command <;> rfl

open Extent

theorem Phrase.covers {layer : Layer} (phrase : Phrase Extent layer) :
    phrase.operand.extent.Covers (lexemesOf phrase.yield) := by
  induction phrase with
  | number text mark => exact Covers.singleton (.token (.number text), mark)
  | name text mark => exact Covers.singleton (.token (.name text), mark)
  | parens opening inner closing =>
      rw [yield, List.cons_append, lexemesOf_cons, lexemesOf_append]
      exact (Covers.singleton (.token .openParen, opening)).through (lexemesOf inner.yield)
        (Covers.singleton (.token .closeParen, closing))
  | ofAtom _ ih | ofUnary _ ih | ofProduct _ ih => exact ih
  | neg sign _ ih => exact (Covers.singleton (.token .minus, sign)).through [] ih
  | product _ sign mark _ ihl ihr | sum _ sign mark _ ihl ihr =>
      rw [yield, lexemesOf_append, lexemesOf_cons]
      exact ihl.through [Leaf.lexeme (.token sign.token, mark)] ihr

theorem Sentence.covers (sentence : Sentence Extent) :
    sentence.command.note.Covers (lexemesOf sentence.yield) := by
  have hstop := Covers.singleton (.token .semicolon, sentence.semicolon)
  rw [yield, lexemesOf_append]
  cases sentence with
  | eval expr stop => exact expr.covers.through [] hstop
  | define name mark assign expr stop =>
      exact (Covers.singleton (.token (.name name), mark)).through
        (lexemesOf ((.token .assign, assign) :: expr.yield)) hstop
  | display keyword expr stop =>
      exact (Covers.singleton (.keyword .display, keyword)).through (lexemesOf expr.yield) hstop
  | load keyword path mark stop =>
      exact (Covers.singleton (.keyword .load, keyword)).through
        (lexemesOf [(.token (.quoted path), mark)]) hstop
  | listing keyword stop =>
      exact (Covers.singleton (.keyword .listing, keyword)).through [] hstop
  | help keyword stop =>
      exact (Covers.singleton (.keyword .help, keyword)).through [] hstop

/-! ### Extents of nodes -/

/-- Whether the phrase has no parentheses around it. -/
def Phrase.IsBare {α : Type} {layer : Layer} : Phrase α layer → Prop
  | .parens .. => False
  | .ofAtom only => only.IsBare
  | .ofUnary only => only.IsBare
  | .ofProduct only => only.IsBare
  | _ => True

theorem Phrase.IsBare.extent_operand {layer : Layer} {phrase : Phrase Extent layer}
    (h : phrase.IsBare) : phrase.operand.extent = phrase.operand.tree.note := by
  induction phrase with
  | parens => exact h.elim
  | ofAtom _ ih | ofUnary _ ih | ofProduct _ ih => exact ih h
  | _ => rfl

/-- A phrase that stands for the tree, without parentheses around it. -/
structure Bare (tree : Tree) where
  layer : Layer
  phrase : Phrase Extent layer
  isBare : phrase.IsBare
  tree_eq : phrase.operand.tree = tree

def Bare.lexemes {tree : Tree} (bare : Bare tree) : List Lexeme :=
  lexemesOf bare.phrase.yield

def Phrase.IsBare.bare {layer : Layer} {phrase : Phrase Extent layer} (h : phrase.IsBare) :
    Bare phrase.operand.tree :=
  ⟨layer, phrase, h, rfl⟩

/-- Around the tokens of its node a phrase has nothing but parentheses. -/
theorem Phrase.exists_bare {layer : Layer} (phrase : Phrase Extent layer) :
    ∃ (bare : Bare phrase.operand.tree) (front back : List Lexeme) (depth : Nat),
      lexemesOf phrase.yield = front ++ (bare.lexemes ++ back) ∧
      front.map (·.token) = List.replicate depth .openParen ∧
      back.map (·.token) = List.replicate depth .closeParen := by
  induction phrase with
  | parens opening inner closing ih =>
      obtain ⟨bare, front, back, depth, hyield, hfront, hback⟩ := ih
      refine ⟨bare, Leaf.lexeme (.token .openParen, opening) :: front,
        back ++ [Leaf.lexeme (.token .closeParen, closing)], depth + 1, ?_, ?_, ?_⟩
      · simp only [yield, List.cons_append, lexemesOf_cons, lexemesOf_append, hyield,
          List.append_assoc]
        rfl
      · rw [List.map_cons, hfront, List.replicate_succ]
        rfl
      · rw [List.map_append, hback, List.replicate_succ']
        rfl
  | ofAtom _ ih | ofUnary _ ih | ofProduct _ ih => exact ih
  | _ => exact ⟨IsBare.bare trivial, [], [], 0, (List.append_nil _).symm, rfl, rfl⟩

namespace Bare

variable {tree part operand left right : Tree} {note : Extent} {op : Operator}

theorem covers (bare : Bare tree) : tree.note.Covers bare.lexemes := by
  obtain ⟨layer, phrase, hbare, rfl⟩ := bare
  rw [← hbare.extent_operand]
  exact phrase.covers

theorem exists_operand (bare : Bare (.neg operand note)) :
    ∃ (inner : Bare operand) (front back : List Lexeme),
      bare.lexemes = front ++ (inner.lexemes ++ back) := by
  obtain ⟨layer, phrase, hbare, htree⟩ := bare
  show ∃ (inner : Bare operand) (front back : List Lexeme),
    lexemesOf phrase.yield = front ++ (inner.lexemes ++ back)
  induction phrase with
  | number | name | product | sum => cases htree
  | parens => exact hbare.elim
  | ofAtom _ ih | ofUnary _ ih | ofProduct _ ih => exact ih hbare htree
  | neg sign inner =>
      cases htree
      obtain ⟨bare, front, back, -, hyield, -⟩ := inner.exists_bare
      exact ⟨bare, Leaf.lexeme (.token .minus, sign) :: front, back, by simp [Phrase.yield, hyield]⟩

/-- The tokens of two operands are stretches of those of their parent. Between them stands the sign
of the operator, and otherwise only the parentheses around the operands. -/
theorem exists_operands (bare : Bare (.bin op left right note)) :
    ∃ (first : Bare left) (second : Bare right) (front middle back : List Lexeme)
      (closed opened : Nat),
      bare.lexemes = (front ++ first.lexemes) ++ (middle ++ (second.lexemes ++ back)) ∧
      middle.map (·.token) =
        List.replicate closed .closeParen ++ op.token :: List.replicate opened .openParen := by
  obtain ⟨layer, phrase, hbare, htree⟩ := bare
  show ∃ (first : Bare left) (second : Bare right) (front middle back : List Lexeme)
    (closed opened : Nat),
    lexemesOf phrase.yield = (front ++ first.lexemes) ++ (middle ++ (second.lexemes ++ back)) ∧
    middle.map (·.token) =
      List.replicate closed .closeParen ++ op.token :: List.replicate opened .openParen
  induction phrase with
  | number | name | neg => cases htree
  | parens => exact hbare.elim
  | ofAtom _ ih | ofUnary _ ih | ofProduct _ ih => exact ih hbare htree
  | product l sign mark r | sum l sign mark r =>
      cases htree
      obtain ⟨first, front, closing, closed, hleft, -, hclosing⟩ := l.exists_bare
      obtain ⟨second, opening, back, opened, hright, hopening, -⟩ := r.exists_bare
      refine ⟨first, second, front, closing ++ Leaf.lexeme (.token sign.token, mark) :: opening,
        back, closed, opened, by simp [Phrase.yield, hleft, hright], ?_⟩
      have hsign : (Leaf.lexeme (.token sign.token, mark)).token = sign.operator.token := by
        cases sign <;> rfl
      rw [List.map_append, List.map_cons, hclosing, hopening, hsign]

theorem exists_part (bare : Bare tree) (h : Term.Within part tree) :
    ∃ (inner : Bare part) (front back : List Lexeme),
      bare.lexemes = front ++ (inner.lexemes ++ back) := by
  induction h with
  | self => exact ⟨bare, [], [], (List.append_nil _).symm⟩
  | neg _ ih =>
      obtain ⟨middle, front, back, hmiddle⟩ := bare.exists_operand
      obtain ⟨inner, front', back', hinner⟩ := ih middle
      exact ⟨inner, front ++ front', back' ++ back, by simp [hmiddle, hinner]⟩
  | left _ ih =>
      obtain ⟨first, second, front, middle, back, -, -, hmiddle, -⟩ := bare.exists_operands
      obtain ⟨inner, front', back', hinner⟩ := ih first
      exact ⟨inner, front ++ front', back' ++ (middle ++ (second.lexemes ++ back)),
        by simp [hmiddle, hinner]⟩
  | right _ ih =>
      obtain ⟨first, second, front, middle, back, -, -, hmiddle, -⟩ := bare.exists_operands
      obtain ⟨inner, front', back', hinner⟩ := ih second
      exact ⟨inner, front ++ (first.lexemes ++ (middle ++ front')), back' ++ back,
        by simp [hmiddle, hinner]⟩

theorem inside_of_within (bare : Bare tree) (horder : InOrder bare.lexemes)
    (h : Term.Within part tree) : part.note.Inside tree.note := by
  obtain ⟨inner, front, back, hlexemes⟩ := bare.exists_part h
  have hcovers := bare.covers
  rw [hlexemes] at hcovers horder
  exact hcovers.inside_of_stretch inner.covers horder

/-- Between two operands stand the sign of the operator and parentheses, and nothing else. -/
theorem filter_gap (bare : Bare (.bin op left right note)) {before after : List Lexeme}
    (horder : InOrder (before ++ (bare.lexemes ++ after))) :
    left.note.stop ≤ right.note.start ∧ ∃ closed opened,
      ((before ++ (bare.lexemes ++ after)).filter
        (·.extent.Inside (left.note.gap right.note))).map (·.token) =
          List.replicate closed .closeParen ++ op.token :: List.replicate opened .openParen := by
  obtain ⟨first, second, front, middle, back, closed, opened, hlexemes, hmiddle⟩ :=
    bare.exists_operands
  have happend : before ++ (bare.lexemes ++ after) =
      ((before ++ front) ++ first.lexemes) ++ (middle ++ (second.lexemes ++ (back ++ after))) := by
    simp [hlexemes]
  rw [happend] at horder ⊢
  constructor
  · refine first.covers.stop_le_start second.covers fun a ha b hb => ?_
    exact horder.across (by simp [ha]) (by simp [hb])
  · rw [first.covers.filter_gap second.covers horder]
    exact ⟨closed, opened, hmiddle⟩

end Bare

end LanguageShell.Calculator

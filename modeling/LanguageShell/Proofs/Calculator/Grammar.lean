import LanguageShell.Calculator.Parse

/-!
The grammar of the calculator, apart from how it is read. A sentence is a command together with all
of its tokens, and a phrase is a part of an expression; each constructor is one alternative of a
rule. Sums hold products, products hold terms with minus signs, and these hold numbers, names and
parentheses around a sum.

The tokens carry marks, for instance their places in a text. Phrases say nothing about marks except
that they keep them.
-/

namespace LanguageShell.Calculator

theorem Term.map_map {φ α β γ : Type} (f : α → β) (g : β → γ) (e : Term φ α) :
    (e.map f).map g = e.map (g ∘ f) := by
  induction e with
  | num | var | foreign => rfl
  | neg _ _ ih => simp [map, ih]
  | bin _ _ _ _ ihl ihr => simp [map, ihl, ihr]

theorem Command.map_map {α β γ : Type} (f : α → β) (g : β → γ) (command : Command α) :
    (command.map f).map g = command.map (g ∘ f) := by
  cases command <;> simp [map, Term.map_map]

/-- The words that have a meaning of their own where a command begins. -/
inductive Keyword where
  | display
  | load
  | listing
  | help
deriving DecidableEq, Repr

def Keyword.spelling : Keyword → List Char
  | display => ['s', 'h', 'o', 'w']
  | load => ['l', 'o', 'a', 'd']
  | listing => ['e', 'n', 'v']
  | help => ['h', 'e', 'l', 'p']

theorem Keyword.spelling_injective {k l : Keyword} (h : k.spelling = l.spelling) : k = l := by
  cases k <;> cases l <;> first | rfl | simp [spelling] at h

/-- A token in the part that it plays: a word may be a keyword or an ordinary name. -/
inductive Terminal where
  | token (token : Token)
  | keyword (keyword : Keyword)
deriving DecidableEq, Repr

def Terminal.spelled : Terminal → Token
  | token t => t
  | keyword k => .name k.spelling

/-- A terminal with its mark. -/
abbrev Leaf (α : Type) := Terminal × α

/-- The kinds of phrases, from the ones that bind most tightly on. -/
inductive Layer where
  | atom
  | unary
  | product
  | sum
deriving DecidableEq, Repr

inductive Sign : Layer → Type where
  | plus : Sign .sum
  | minus : Sign .sum
  | star : Sign .product
  | slash : Sign .product
deriving DecidableEq, Repr

namespace Sign

def token : Sign layer → Token
  | plus => .plus
  | minus => .minus
  | star => .star
  | slash => .slash

@[simp] theorem token_plus : plus.token = .plus := rfl

@[simp] theorem token_minus : minus.token = .minus := rfl

@[simp] theorem token_star : star.token = .star := rfl

@[simp] theorem token_slash : slash.token = .slash := rfl

def operator : Sign layer → Operator
  | plus => .add
  | minus => .sub
  | star => .mul
  | slash => .div

end Sign

/-- A part of an expression, with all of its tokens. -/
inductive Phrase (α : Type) : Layer → Type where
  | number (text : List Char) (mark : α) : Phrase α .atom
  | name (text : List Char) (mark : α) : Phrase α .atom
  | parens (opening : α) (inner : Phrase α .sum) (closing : α) : Phrase α .atom
  | ofAtom (atom : Phrase α .atom) : Phrase α .unary
  | neg (sign : α) (operand : Phrase α .unary) : Phrase α .unary
  | ofUnary (unary : Phrase α .unary) : Phrase α .product
  | product (left : Phrase α .product) (sign : Sign .product) (mark : α)
      (right : Phrase α .unary) : Phrase α .product
  | ofProduct (product : Phrase α .product) : Phrase α .sum
  | sum (left : Phrase α .sum) (sign : Sign .sum) (mark : α) (right : Phrase α .product) :
      Phrase α .sum

namespace Phrase

variable {α : Type} {layer : Layer}

def yield : {layer : Layer} → Phrase α layer → List (Leaf α)
  | _, .number text mark => [(.token (.number text), mark)]
  | _, .name text mark => [(.token (.name text), mark)]
  | _, .parens opening inner closing =>
    (.token .openParen, opening) :: inner.yield ++ [(.token .closeParen, closing)]
  | _, .ofAtom only => only.yield
  | _, .neg sign operand => (.token .minus, sign) :: operand.yield
  | _, .ofUnary only => only.yield
  | _, .product left sign mark right => left.yield ++ (.token sign.token, mark) :: right.yield
  | _, .ofProduct only => only.yield
  | _, .sum left sign mark right => left.yield ++ (.token sign.token, mark) :: right.yield

/-- The expression that a phrase stands for. Parentheses leave no node. -/
def shape : {layer : Layer} → Phrase α layer → Term Empty Unit
  | _, .number text _ => .num (Token.literal text) ()
  | _, .name text _ => .var (String.ofList text) ()
  | _, .parens _ inner _ => inner.shape
  | _, .ofAtom only => only.shape
  | _, .neg _ operand => .neg operand.shape ()
  | _, .ofUnary only => only.shape
  | _, .product left sign _ right => .bin sign.operator left.shape right.shape ()
  | _, .ofProduct only => only.shape
  | _, .sum left sign _ right => .bin sign.operator left.shape right.shape ()

/-- The expression that a phrase stands for, each node with its extent. A node goes from its first
token to its last one, and so do parentheses as a part of a larger node. -/
def operand : {layer : Layer} → Phrase Extent layer → Operand
  | _, .number text mark => ⟨.num (Token.literal text) mark, mark⟩
  | _, .name text mark => ⟨.var (String.ofList text) mark, mark⟩
  | _, .parens opening inner closing => ⟨inner.operand.tree, opening.through closing⟩
  | _, .ofAtom only => only.operand
  | _, .neg sign right => right.operand.negate sign
  | _, .ofUnary only => only.operand
  | _, .product left sign _ right => left.operand.combine sign.operator right.operand
  | _, .ofProduct only => only.operand
  | _, .sum left sign _ right => left.operand.combine sign.operator right.operand

theorem yield_ne_nil (phrase : Phrase α layer) : phrase.yield ≠ [] := by
  induction phrase with
  | ofAtom _ ih | ofUnary _ ih | ofProduct _ ih => exact ih
  | _ => simp [yield]

theorem map_operand_tree (phrase : Phrase Extent layer) :
    phrase.operand.tree.map (fun _ => ()) = phrase.shape := by
  induction phrase with
  | number | name => rfl
  | parens _ _ _ ih | ofAtom _ ih | ofUnary _ ih | ofProduct _ ih => exact ih
  | neg _ _ ih => simp [operand, Operand.negate, Term.map, shape, ih]
  | product _ _ _ _ ihl ihr | sum _ _ _ _ ihl ihr =>
      simp [operand, Operand.combine, Term.map, shape, ihl, ihr]

theorem start_operand (phrase : Phrase Extent layer) {leaf : Leaf Extent}
    (h : phrase.yield.head? = some leaf) : phrase.operand.extent.start = leaf.2.start := by
  induction phrase with
  | number | name | parens | neg =>
      simp only [yield, List.head?_cons, List.cons_append, Option.some.injEq] at h
      subst h
      rfl
  | ofAtom _ ih | ofUnary _ ih | ofProduct _ ih => exact ih h
  | product left _ _ _ ih _ | sum left _ _ _ ih _ =>
      obtain ⟨first, rest, hleft⟩ := List.exists_cons_of_ne_nil left.yield_ne_nil
      rw [yield, hleft] at h
      exact ih (by simpa [hleft] using h)

theorem exists_relabelled {β : Type} (phrase : Phrase α layer) {leaves : List (Leaf β)}
    (h : leaves.map (·.1) = phrase.yield.map (·.1)) :
    ∃ other : Phrase β layer, other.yield = leaves ∧ other.shape = phrase.shape := by
  induction phrase generalizing leaves with
  | number text _ =>
      obtain ⟨⟨_, mark⟩, rfl, rfl⟩ := List.map_eq_singleton_iff.mp h
      exact ⟨.number text mark, rfl, rfl⟩
  | name text _ =>
      obtain ⟨⟨_, mark⟩, rfl, rfl⟩ := List.map_eq_singleton_iff.mp h
      exact ⟨.name text mark, rfl, rfl⟩
  | parens opening inner closing ih =>
      simp only [yield, List.map_cons, List.cons_append, List.map_append, List.map_nil] at h
      obtain ⟨⟨_, first⟩, rest, rfl, rfl, hrest⟩ := List.map_eq_cons_iff.mp h
      obtain ⟨middle, last, rfl, hmiddle, hlast⟩ := List.map_eq_append_iff.mp hrest
      obtain ⟨⟨_, last⟩, rfl, rfl⟩ := List.map_eq_singleton_iff.mp hlast
      obtain ⟨other, rfl, hshape⟩ := ih hmiddle
      exact ⟨.parens first other last, rfl, hshape⟩
  | ofAtom _ ih =>
      obtain ⟨other, hyield, hshape⟩ := ih h
      exact ⟨.ofAtom other, hyield, hshape⟩
  | neg sign operand ih =>
      simp only [yield, List.map_cons] at h
      obtain ⟨⟨_, first⟩, rest, rfl, rfl, hrest⟩ := List.map_eq_cons_iff.mp h
      obtain ⟨other, rfl, hshape⟩ := ih hrest
      exact ⟨.neg first other, rfl, by simp [shape, hshape]⟩
  | ofUnary _ ih =>
      obtain ⟨other, hyield, hshape⟩ := ih h
      exact ⟨.ofUnary other, hyield, hshape⟩
  | product left sign mark right ihl ihr =>
      simp only [yield, List.map_append, List.map_cons] at h
      obtain ⟨front, back, rfl, hfront, hback⟩ := List.map_eq_append_iff.mp h
      obtain ⟨⟨_, middle⟩, rest, rfl, rfl, hrest⟩ := List.map_eq_cons_iff.mp hback
      obtain ⟨l, rfl, hl⟩ := ihl hfront
      obtain ⟨r, rfl, hr⟩ := ihr hrest
      exact ⟨.product l sign middle r, rfl, by simp [shape, hl, hr]⟩
  | ofProduct _ ih =>
      obtain ⟨other, hyield, hshape⟩ := ih h
      exact ⟨.ofProduct other, hyield, hshape⟩
  | sum left sign mark right ihl ihr =>
      simp only [yield, List.map_append, List.map_cons] at h
      obtain ⟨front, back, rfl, hfront, hback⟩ := List.map_eq_append_iff.mp h
      obtain ⟨⟨_, middle⟩, rest, rfl, rfl, hrest⟩ := List.map_eq_cons_iff.mp hback
      obtain ⟨l, rfl, hl⟩ := ihl hfront
      obtain ⟨r, rfl, hr⟩ := ihr hrest
      exact ⟨.sum l sign middle r, rfl, by simp [shape, hl, hr]⟩

end Phrase

/-- A command, with all of its tokens. -/
inductive Sentence (α : Type) where
  | define (name : List Char) (mark assign : α) (expr : Phrase α .sum) (semicolon : α)
  | eval (expr : Phrase α .sum) (semicolon : α)
  | display (keyword : α) (expr : Phrase α .sum) (semicolon : α)
  | load (keyword : α) (path : List Char) (mark semicolon : α)
  | listing (keyword semicolon : α)
  | help (keyword semicolon : α)

namespace Sentence

variable {α : Type}

def body : Sentence α → List (Leaf α)
  | define name mark assign expr _ =>
    (.token (.name name), mark) :: (.token .assign, assign) :: expr.yield
  | eval expr _ => expr.yield
  | display keyword expr _ => (.keyword .display, keyword) :: expr.yield
  | load keyword path mark _ => [(.keyword .load, keyword), (.token (.quoted path), mark)]
  | listing keyword _ => [(.keyword .listing, keyword)]
  | help keyword _ => [(.keyword .help, keyword)]

def semicolon : Sentence α → α
  | define _ _ _ _ mark | eval _ mark | display _ _ mark | load _ _ _ mark | listing _ mark
  | help _ mark => mark

def yield (sentence : Sentence α) : List (Leaf α) :=
  sentence.body ++ [(.token .semicolon, sentence.semicolon)]

def terminals (sentence : Sentence α) : List Terminal :=
  sentence.yield.map (·.1)

/-- The file name that a string token stands for. -/
def pathOf (text : List Char) : CodeText :=
  (Text.unquote? text).getD ""

def shape : Sentence α → Command Unit
  | define name _ _ expr _ => .define (String.ofList name) expr.shape ()
  | eval expr _ => .eval expr.shape ()
  | display _ expr _ => .display expr.shape ()
  | load _ path _ _ => .load (pathOf path) ()
  | listing _ _ => .listing ()
  | help _ _ => .help ()

/-- The command that a sentence stands for, with the extents of its nodes. It goes from its first
token to its semicolon. -/
def command : Sentence Extent → Command Extent
  | define name mark _ expr stop =>
    .define (String.ofList name) expr.operand.tree (mark.through stop)
  | eval expr stop => .eval expr.operand.tree (expr.operand.extent.through stop)
  | display keyword expr stop => .display expr.operand.tree (keyword.through stop)
  | load keyword path _ stop => .load (pathOf path) (keyword.through stop)
  | listing keyword stop => .listing (keyword.through stop)
  | help keyword stop => .help (keyword.through stop)

theorem body_ne_nil (sentence : Sentence α) : sentence.body ≠ [] := by
  cases sentence with
  | eval expr _ => exact expr.yield_ne_nil
  | _ => simp [body]

theorem map_command (sentence : Sentence Extent) :
    sentence.command.map (fun _ => ()) = sentence.shape := by
  cases sentence <;> simp [command, Command.map, shape, Phrase.map_operand_tree]

theorem exists_relabelled {β : Type} (sentence : Sentence α) {leaves : List (Leaf β)}
    (h : leaves.map (·.1) = sentence.yield.map (·.1)) :
    ∃ other : Sentence β, other.yield = leaves ∧ other.shape = sentence.shape := by
  simp only [yield, List.map_append, List.map_cons, List.map_nil] at h
  obtain ⟨front, back, rfl, hfront, hback⟩ := List.map_eq_append_iff.mp h
  obtain ⟨⟨_, stop⟩, rfl, rfl⟩ := List.map_eq_singleton_iff.mp hback
  cases sentence with
  | define name mark assign expr _ =>
      simp only [body, List.map_cons] at hfront
      obtain ⟨⟨_, first⟩, back, rfl, rfl, hback⟩ := List.map_eq_cons_iff.mp hfront
      obtain ⟨⟨_, second⟩, rest, rfl, rfl, hrest⟩ := List.map_eq_cons_iff.mp hback
      obtain ⟨other, rfl, hshape⟩ := expr.exists_relabelled hrest
      exact ⟨.define name first second other stop, rfl, by simp [shape, hshape]⟩
  | eval expr _ =>
      obtain ⟨other, rfl, hshape⟩ := expr.exists_relabelled hfront
      exact ⟨.eval other stop, rfl, by simp [shape, hshape]⟩
  | display keyword expr _ =>
      simp only [body, List.map_cons] at hfront
      obtain ⟨⟨_, first⟩, rest, rfl, rfl, hrest⟩ := List.map_eq_cons_iff.mp hfront
      obtain ⟨other, rfl, hshape⟩ := expr.exists_relabelled hrest
      exact ⟨.display first other stop, rfl, by simp [shape, hshape]⟩
  | load keyword path mark _ =>
      simp only [body, List.map_cons, List.map_nil] at hfront
      obtain ⟨⟨_, first⟩, rest, rfl, rfl, hrest⟩ := List.map_eq_cons_iff.mp hfront
      obtain ⟨⟨_, second⟩, rfl, rfl⟩ := List.map_eq_singleton_iff.mp hrest
      exact ⟨.load first path second stop, rfl, rfl⟩
  | listing keyword _ =>
      obtain ⟨⟨_, first⟩, rfl, rfl⟩ := List.map_eq_singleton_iff.mp hfront
      exact ⟨.listing first stop, rfl, rfl⟩
  | help keyword _ =>
      obtain ⟨⟨_, first⟩, rfl, rfl⟩ := List.map_eq_singleton_iff.mp hfront
      exact ⟨.help first stop, rfl, rfl⟩

end Sentence

def yieldAll (sentences : List (Sentence α)) : List (Leaf α) :=
  sentences.flatMap Sentence.yield

@[simp] theorem yieldAll_nil : yieldAll ([] : List (Sentence α)) = [] := rfl

@[simp] theorem yieldAll_cons (sentence : Sentence α) (sentences : List (Sentence α)) :
    yieldAll (sentence :: sentences) = sentence.yield ++ yieldAll sentences := by
  simp [yieldAll]

@[simp] theorem yieldAll_append (front back : List (Sentence α)) :
    yieldAll (front ++ back) = yieldAll front ++ yieldAll back := by
  simp [yieldAll]

theorem exists_relabelled_all {α β : Type} (sentences : List (Sentence α)) {leaves : List (Leaf β)}
    (h : leaves.map (·.1) = (yieldAll sentences).map (·.1)) :
    ∃ others : List (Sentence β), yieldAll others = leaves ∧
      others.map Sentence.shape = sentences.map Sentence.shape ∧
      others.map Sentence.terminals = sentences.map Sentence.terminals := by
  induction sentences generalizing leaves with
  | nil => exact ⟨[], (List.map_eq_nil_iff.mp h).symm, rfl, rfl⟩
  | cons sentence sentences ih =>
      rw [yieldAll_cons, List.map_append] at h
      obtain ⟨front, back, rfl, hfront, hback⟩ := List.map_eq_append_iff.mp h
      obtain ⟨other, rfl, hshape⟩ := sentence.exists_relabelled hfront
      obtain ⟨others, rfl, hshapes, hterminals⟩ := ih hback
      have hterminal : other.terminals = sentence.terminals := hfront
      exact ⟨other :: others, by simp, by simp [hshape, hshapes], by simp [hterminal, hterminals]⟩

/-- Whether so many sentences may make up a text: a file holds any number of them. -/
def Entry.Admits (entry : Entry) (sentences : List (Sentence α)) : Prop :=
  entry = .file ∨ sentences.length = 1

/-- Whether the leaves are those of a text that consists of the sentences. -/
def Derives (entry : Entry) (sentences : List (Sentence α)) (leaves : List (Leaf α)) : Prop :=
  entry.Admits sentences ∧ yieldAll sentences = leaves

end LanguageShell.Calculator

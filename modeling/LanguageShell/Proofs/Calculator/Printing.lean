import LanguageShell.Calculator.Print
import LanguageShell.Proofs.Calculator.Pattern
import LanguageShell.Proofs.Rendering

/-!
Expressions as text. What is written depends on the room that is left: an expression for which there
is none is replaced by an ellipsis. The room for a whole expression is its height, so that one that
is not too high is written completely, and any other contains the ellipsis.
-/

namespace LanguageShell

namespace Text

/-! ### Digits -/

theorem digit?_of_isDigit {c : Char} (h : c.isDigit = true) :
    digit? c = some (c.toNat - '0'.toNat) := by
  simp only [Char.isDigit, Bool.and_eq_true, decide_eq_true_eq, ge_iff_le,
    UInt32.le_iff_toNat_le] at h
  have hfirst : zeros.find? (fun z => z ≤ c.toNat && c.toNat < z + 10) = some 0x30 := by
    have hzero : (decide (0x30 ≤ c.toNat) && decide (c.toNat < 0x30 + 10)) = true := by
      simp at h ⊢
      omega
    exact List.find?_cons_of_pos (p := fun z => z ≤ c.toNat && c.toNat < z + 10) hzero
  rw [digit?, hfirst]
  rfl

theorem isDigit_of_mem_toDigits {n : Nat} {c : Char} (h : c ∈ Nat.toDigits 10 n) :
    isDigit c = true := by
  have hdigit := Nat.isDigit_of_mem_toDigits (by decide) (by decide) h
  rw [isDigit, digit?_of_isDigit hdigit]
  rfl

theorem naturalOfDigits_toDigits (n : Nat) : naturalOfDigits (Nat.toDigits 10 n) = n := by
  have hfold : ∀ (digits : List Char) (start : Nat), (∀ c ∈ digits, c.isDigit = true) →
      digits.foldl (fun n c => 10 * n + (digit? c).getD 0) start =
        Nat.ofDigitChars 10 digits start := by
    intro digits
    induction digits with
    | nil => simp
    | cons c digits ih =>
        intro start hdigits
        rw [List.foldl_cons, Nat.ofDigitChars_cons, digit?_of_isDigit (hdigits c (by simp))]
        exact ih _ fun d hd => hdigits d (by simp [hd])
  have hdigits : ∀ c ∈ Nat.toDigits 10 n, c.isDigit = true :=
    fun c hc => Nat.isDigit_of_mem_toDigits (by decide) (by decide) hc
  rw [naturalOfDigits, hfold _ 0 hdigits, Nat.ofDigitChars_ten_toDigits]

/-- So many digits denote no larger number, whatever their scripts. -/
theorem naturalOfDigits_lt (digits : List Char) : naturalOfDigits digits < 10 ^ digits.length := by
  have hvalue : ∀ c, (digit? c).getD 0 < 10 := by
    intro c
    unfold digit?
    cases hfind : zeros.find? fun z => z ≤ c.toNat && c.toNat < z + 10 with
    | none => simp
    | some z =>
        have hz := List.find?_some hfind
        simp only [Bool.and_eq_true, decide_eq_true_eq] at hz
        simp
        omega
  have hfold : ∀ (digits : List Char) (start : Nat),
      digits.foldl (fun n c => 10 * n + (digit? c).getD 0) start <
        10 ^ digits.length * (start + 1) := by
    intro digits
    induction digits with
    | nil => simp
    | cons c digits ih =>
        intro start
        have hc := hvalue c
        calc _ < 10 ^ digits.length * (10 * start + (digit? c).getD 0 + 1) := ih _
          _ ≤ 10 ^ digits.length * (10 * (start + 1)) := Nat.mul_le_mul_left _ (by omega)
          _ = 10 ^ (c :: digits).length * (start + 1) := by
            rw [List.length_cons, Nat.pow_succ, Nat.mul_assoc]
  simpa [naturalOfDigits] using hfold digits 0

end Text

namespace Calculator

/-- Whether an expression may begin with the character. -/
def IsInitial (c : Char) : Prop :=
  c ≠ '*' ∧ isIgnorable c = false

namespace Term

variable {φ α : Type}

/-- The number of nodes on the longest path from the root. -/
def height : Term φ α → Nat
  | num .. | var .. | foreign .. => 1
  | neg operand _ => operand.height + 1
  | bin _ left right _ => max left.height right.height + 1

/-- Whether all literals and all names of an expression have the properties. -/
def All (literal : Value → Prop) (name : String → Prop) : Term φ α → Prop
  | num value _ => literal value
  | var x _ => name x
  | neg operand _ => operand.All literal name
  | bin _ left right _ => left.All literal name ∧ right.All literal name
  | foreign .. => False

def IsWritable (e : Term φ α) : Prop :=
  e.All (fun value => ∃ n : Nat, value = .int n ∧ Integer.Writable n)
    (fun name => Pattern.name.regex.Matches name.toList)

def IsPrintable (e : Term φ α) : Prop :=
  e.All (fun value => ∃ text, value.toText none = .ok text) fun _ => True

theorem All.imp {literal other : Value → Prop} {name another : String → Prop} {e : Term φ α}
    (h : e.All literal name) (hliteral : ∀ value, literal value → other value)
    (hname : ∀ x, name x → another x) : e.All other another := by
  induction e with
  | foreign => exact h.elim
  | num value _ => exact hliteral value h
  | var x _ => exact hname x h
  | neg _ _ ih => exact ih h
  | bin _ _ _ _ ihl ihr => exact ⟨ihl h.1, ihr h.2⟩

def parenthesized (maxLevel level : Int) (text : List Char) : List Char :=
  if maxLevel < level then '(' :: text ++ [')'] else text

def ellipsis : List Char :=
  ['.', '.', '.']

def literalText (value : Value) : List Char :=
  match value.toText none with
  | .ok text => text.toList
  | .error _ => []

/-- The text of an expression where only so many levels of the tree are written. -/
def printed (room : Nat) (maxLevel : Int) (e : Term φ α) : List Char :=
  match room, e with
  | 0, _ => ellipsis
  | _ + 1, num value _ => parenthesized maxLevel 0 (literalText value)
  | _ + 1, var name _ => parenthesized maxLevel 0 name.toList
  | room + 1, neg operand _ =>
    parenthesized maxLevel negationLevel ('-' :: operand.printed room negationLevel)
  | room + 1, bin op left right _ =>
    parenthesized maxLevel op.level
      (left.printed room op.level ++ ' ' :: op.symbol :: ' ' :: right.printed room (op.level - 1))
  | _ + 1, foreign _ shown => shown.toList

theorem toText_int {n : Nat} (h : Integer.Writable n) :
    Value.toText none (.int n) = .ok (String.ofList (Nat.toDigits 10 n)) := by
  simp only [Value.toText, Integer.decimal, Int.natAbs_natCast, if_pos h]
  rfl

theorem literalText_int {n : Nat} (h : Integer.Writable n) :
    literalText (.int n) = Nat.toDigits 10 n := by
  simp [literalText, toText_int h]

theorem literalText_of_toText {value : Value} {text : String} (h : value.toText none = .ok text) :
    literalText value = text.toList := by
  simp [literalText, h]

theorem IsWritable.isPrintable {e : Term φ α} (h : e.IsWritable) : e.IsPrintable := by
  refine h.imp ?_ fun _ _ => trivial
  rintro value ⟨n, rfl, hn⟩
  exact ⟨_, toText_int hn⟩

theorem enclosed_eq (maxLevel level : Int) (text : List Char) :
    enclosed maxLevel level (String.ofList text) =
      String.ofList (parenthesized maxLevel level text) := by
  unfold enclosed parenthesized
  split
  · apply String.toList_inj.mp
    simp
  · rfl

theorem yields_nest {maxLevel level : Int} {render : RenderM String} {room depth : Nat}
    {text : List Char} (hroom : depth + (room + 1) = 42)
    (h : render.Yields (depth + 1) (.ok (String.ofList text))) :
    (Renderer.nest {} maxLevel level render).Yields depth
      (.ok (String.ofList (parenthesized maxLevel level text))) := by
  have hdepth : (depth : Int) < 42 := by omega
  rw [← enclosed_eq]
  exact Renderer.yields_nest_of_room hdepth h maxLevel level

theorem yields_ellipsis {maxLevel level : Int} {render : RenderM String} {depth : Nat}
    (hroom : depth + 0 = 42) :
    (Renderer.nest {} maxLevel level render).Yields depth (.ok (String.ofList ellipsis)) := by
  have hdepth : (42 : Int) ≤ depth := by omega
  exact Renderer.yields_nest_of_no_room hdepth maxLevel level render

/-- With the room that is left at its depth an expression is rendered as it is printed. -/
theorem yields_render {e : Term φ α} (h : e.IsPrintable) {room depth : Nat}
    (hroom : depth + room = 42) (maxLevel : Int) :
    (e.render {} maxLevel).Yields depth (.ok (String.ofList (e.printed room maxLevel))) := by
  induction e generalizing room depth maxLevel with
  | foreign => exact h.elim
  | num value _ =>
      obtain ⟨text, htext⟩ := h
      cases room with
      | zero => exact yields_ellipsis hroom
      | succ room =>
          refine yields_nest hroom ?_
          rw [literalText_of_toText htext, String.ofList_toList, htext]
          rfl
  | var name _ =>
      cases room with
      | zero => exact yields_ellipsis hroom
      | succ room =>
          refine yields_nest hroom ?_
          rw [String.ofList_toList]
          exact RenderM.yields_pure name (depth + 1)
  | neg operand _ ih =>
      cases room with
      | zero => exact yields_ellipsis hroom
      | succ room =>
          refine yields_nest hroom ?_
          have htext : ∀ text, "-" ++ String.ofList text = String.ofList ('-' :: text) :=
            fun text => String.toList_inj.mp (by simp)
          have hdepth : depth + 1 + room = 42 := by omega
          rw [← htext]
          exact (ih h hdepth negationLevel).map ("-" ++ ·)
  | bin op left right _ ihl ihr =>
      cases room with
      | zero => exact yields_ellipsis hroom
      | succ room =>
          refine yields_nest hroom ?_
          have hdepth : depth + 1 + room = 42 := by omega
          have hleft := ihl h.1 hdepth op.level
          have hright := ihr h.2 hdepth (op.level - 1)
          have hboth := hleft.bind fun leftText => hright.bind fun rightText =>
            RenderM.yields_pure s!"{leftText} {op.symbol} {rightText}" (depth + 1)
          have htext : ∀ leftText rightText : List Char,
              s!"{String.ofList leftText} {op.symbol} {String.ofList rightText}" =
                String.ofList (leftText ++ ' ' :: op.symbol :: ' ' :: rightText) :=
            fun _ _ => String.toList_inj.mp (by simp [toString])
          rw [← htext]
          exact hboth

theorem toText_eq_printed {e : Term φ α} (h : e.IsPrintable) :
    e.toText = .ok (String.ofList (e.printed 42 Renderer.topLevel)) := by
  have hdepth : 0 + 42 = 42 := rfl
  exact (yields_render h hdepth Renderer.topLevel).result_eq

theorem toText_eq {e : Term φ α} (h : e.IsWritable) :
    e.toText = .ok (String.ofList (e.printed 42 Renderer.topLevel)) :=
  toText_eq_printed h.isPrintable

/-! ### How expressions begin -/

theorem exists_initial_parenthesized {maxLevel level : Int} {text : List Char}
    (h : ∃ c rest, text = c :: rest ∧ IsInitial c) :
    ∃ c rest, parenthesized maxLevel level text = c :: rest ∧ IsInitial c := by
  unfold parenthesized
  split
  · exact ⟨'(', _, rfl, by decide, by decide⟩
  · exact h

theorem exists_initial_digits (n : Nat) :
    ∃ c rest, Nat.toDigits 10 n = c :: rest ∧ IsInitial c := by
  obtain ⟨c, rest, hdigits⟩ := List.exists_cons_of_ne_nil (Nat.toDigits_ne_nil (n := n) (b := 10))
  have hc := Text.isDigit_of_mem_toDigits (hdigits ▸ List.mem_cons_self)
  refine ⟨c, rest, hdigits, ?_, Pattern.not_isIgnorable_of_isDigit hc⟩
  rintro rfl
  exact absurd hc (by decide)

theorem exists_initial_literal {n : Nat} (h : Integer.Writable n) :
    ∃ c rest, literalText (.int n) = c :: rest ∧ IsInitial c := by
  rw [literalText_int h]
  exact exists_initial_digits n

theorem exists_initial_name {text : List Char} (h : Pattern.name.regex.Matches text) :
    ∃ c rest, text = c :: rest ∧ IsInitial c := by
  obtain ⟨c, rest, rfl, hc, _⟩ := Regex.matches_headed.mp h
  refine ⟨c, rest, rfl, ?_, Pattern.not_isIgnorable_of_isNameStart hc⟩
  rintro rfl
  exact absurd hc (by decide)

def HasInitials (e : Term φ α) : Prop :=
  e.All (fun value => ∃ c rest, literalText value = c :: rest ∧ IsInitial c)
    fun x => ∃ c rest, x.toList = c :: rest ∧ IsInitial c

theorem IsWritable.hasInitials {e : Term φ α} (h : e.IsWritable) : e.HasInitials := by
  refine h.imp ?_ fun _ => exists_initial_name
  rintro value ⟨n, rfl, hn⟩
  exact exists_initial_literal hn

/-- Nothing that is printed begins with a star or a blank. -/
theorem exists_initial_printed {e : Term φ α} (h : e.HasInitials) (room : Nat) (maxLevel : Int) :
    ∃ c rest, e.printed room maxLevel = c :: rest ∧ IsInitial c := by
  induction e generalizing room maxLevel with
  | foreign => exact h.elim
  | num value _ =>
      cases room with
      | zero => exact ⟨'.', _, rfl, by decide, by decide⟩
      | succ room => exact exists_initial_parenthesized h
  | var name _ =>
      cases room with
      | zero => exact ⟨'.', _, rfl, by decide, by decide⟩
      | succ room => exact exists_initial_parenthesized h
  | neg operand _ ih =>
      cases room with
      | zero => exact ⟨'.', _, rfl, by decide, by decide⟩
      | succ room => exact exists_initial_parenthesized ⟨'-', _, rfl, by decide, by decide⟩
  | bin op left right _ ihl _ =>
      cases room with
      | zero => exact ⟨'.', _, rfl, by decide, by decide⟩
      | succ room =>
          refine exists_initial_parenthesized ?_
          obtain ⟨c, rest, hleft, hc⟩ := ihl h.1 room op.level
          exact ⟨c, _, by rw [hleft, List.cons_append], hc⟩

/-! ### What is left out -/

theorem infix_parenthesized {maxLevel level : Int} {inner text : List Char} (h : inner <:+: text) :
    inner <:+: parenthesized maxLevel level text := by
  unfold parenthesized
  split
  · exact (List.infix_append_of_infix_left h).trans (List.suffix_cons '(' _).isInfix
  · exact h

theorem ellipsis_infix_printed {e : Term φ α} {room : Nat} (h : room < e.height) (maxLevel : Int) :
    ellipsis <:+: e.printed room maxLevel := by
  induction e generalizing room maxLevel with
  | num | var | foreign =>
      simp only [height, Nat.lt_one_iff] at h
      subst h
      exact List.infix_rfl
  | neg operand _ ih =>
      cases room with
      | zero => exact List.infix_rfl
      | succ room =>
          have hoperand := ih (by simpa [height] using h) negationLevel
          exact infix_parenthesized (List.infix_cons hoperand)
  | bin op left right _ ihl ihr =>
      cases room with
      | zero => exact List.infix_rfl
      | succ room =>
          refine infix_parenthesized ?_
          obtain hleft | hright : room < left.height ∨ room < right.height := by
            simp only [height] at h
            omega
          · exact List.infix_append_of_infix_left (ihl hleft op.level)
          · have hpart := ihr hright (op.level - 1)
            exact List.infix_append_of_infix_right
              (List.infix_cons (List.infix_cons (List.infix_cons hpart)))

end Term

end Calculator

end LanguageShell

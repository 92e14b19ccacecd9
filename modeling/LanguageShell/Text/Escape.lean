import LanguageShell.Text.CharacterName
import LanguageShell.Text.CodePoint

/-!
Strings with escapes. A backslash before certain characters stands, together with them, for a code
point, which may be a surrogate; before any other it stands for itself. A text that could not be
written between quotes on one line has no meaning.
-/

namespace LanguageShell.Text

def hexDigit? (c : Char) : Option Nat :=
  if '0' ≤ c ∧ c ≤ '9' then some (c.toNat - '0'.toNat)
  else if 'a' ≤ c ∧ c ≤ 'f' then some (c.toNat - 'a'.toNat + 10)
  else if 'A' ≤ c ∧ c ≤ 'F' then some (c.toNat - 'A'.toNat + 10)
  else none

def octalDigit? (c : Char) : Option Nat :=
  if '0' ≤ c ∧ c ≤ '7' then some (c.toNat - '0'.toNat) else none

def hexEscape? (count : Nat) (text : List Char) : Option CodePoint := do
  let digits := text.take count
  if digits.length < count then none
  else
    let values ← digits.mapM hexDigit?
    CodePoint.ofNat? (values.foldl (fun n d => 16 * n + d) 0)

def simpleEscape? : Char → Option Char
  | '\\' => some '\\'
  | '\'' => some '\''
  | '"' => some '"'
  | 'a' => some '\x07'
  | 'b' => some '\x08'
  | 'f' => some '\x0c'
  | 'n' => some '\n'
  | 'r' => some '\r'
  | 't' => some '\t'
  | 'v' => some '\x0b'
  | _ => none

/-- What an escape stands for, and how many characters it takes up after the one that follows the
backslash. -/
def escape? (c : Char) (rest : List Char) : Option (List CodePoint × Nat) :=
  match c, rest with
  | '\r', '\n' :: _ => some ([], 1)
  | '\r', _ => some ([], 0)
  | '\n', _ => some ([], 0)
  | 'x', rest => (hexEscape? 2 rest).map fun d => ([d], 2)
  | 'u', rest => (hexEscape? 4 rest).map fun d => ([d], 4)
  | 'U', rest => (hexEscape? 8 rest).map fun d => ([d], 8)
  | 'N', '\x7b' :: named =>
    let name := named.takeWhile (· ≠ '\x7d')
    if name.length < named.length then
      (characterOfName? (String.ofList name)).map fun d => ([.char d], name.length + 2)
    else none
  | 'N', _ => none
  | c, rest =>
    match simpleEscape? c, octalDigit? c with
    | some d, _ => some ([.char d], 0)
    | none, some first =>
      let others := (rest.take 2).takeWhile fun d => (octalDigit? d).isSome
      let code := others.foldl (fun n d => 8 * n + (octalDigit? d).getD 0) first
      some ([.char (Char.ofNat code)], others.length)
    | none, none => some ([.char '\\', .char c], 0)

def unescape? : List Char → Option (List CodePoint)
  | [] => some []
  | [c] => if c = '\\' ∨ c = '\n' ∨ c = '\r' ∨ c = '\x00' then none else some [.char c]
  | '\\' :: c :: rest =>
    if c = '\x00' then none
    else
      match escape? c rest with
      | some (text, n) => (unescape? (rest.drop n)).map (text ++ ·)
      | none => none
  | c :: rest =>
    if c = '\n' ∨ c = '\r' ∨ c = '\x00' then none else (unescape? rest).map (.char c :: ·)
termination_by text => text.length
decreasing_by all_goals simp only [List.length_drop, List.length_cons]; omega

def unquote? : List Char → Option CodeText
  | '"' :: rest => (unescape? rest.dropLast).map .mk
  | _ => none

end LanguageShell.Text

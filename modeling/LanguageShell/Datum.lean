import LanguageShell.Numeral.Decimal

/-!
Data of no particular kind: arguments of messages, values of options, and whatever is handed in
where an expression or a command belongs.
-/

namespace LanguageShell

/-- A piece of data. The fields of a record have an order. -/
inductive Datum where
  | absent
  | truth (b : Bool)
  | integer (n : Int)
  | real (x : Binary64)
  | text (text : String)
  | list (items : List Datum)
  | record (fields : List (String × Datum))

namespace Datum

def kind : Datum → String
  | absent => "NoneType"
  | truth _ => "bool"
  | integer _ => "int"
  | real _ => "float"
  | text _ => "str"
  | list _ => "list"
  | record _ => "dict"

/-- The integer that the datum is; a truth value counts as 0 or 1. -/
def toInt? : Datum → Option Int
  | integer n => some n
  | truth b => some (if b then 1 else 0)
  | _ => none

def toBinary64 (datum : Datum) : Except Fault (Option Binary64) :=
  match datum, datum.toInt? with
  | real x, _ => .ok (some x)
  | _, none => .ok none
  | _, some n =>
    match Binary64.ofRat? n with
    | some x => .ok (some x)
    | none => .error .integerTooLarge

/-- The integer that is left of a number without its fraction. -/
def truncated (datum : Datum) : Except Fault (Option Int) :=
  match datum with
  | real .nan => .error .nanToInteger
  | real (.infinity _) => .error .infinityToInteger
  | real x => .ok (x.toRat?.map fun q => Int.tdiv q.num q.den)
  | _ => .ok datum.toInt?

mutual

/-- The datum as a message shows it, with quotes around texts. -/
def quoted : Datum → Except Fault String
  | absent => .ok "None"
  | truth b => .ok (if b then "True" else "False")
  | integer n => Integer.decimal n
  | real x => .ok x.toText
  | text s => .ok (Text.quoted s)
  | list items => do
    return "[" ++ ", ".intercalate (← quotedAll items) ++ "]"
  | record fields => do
    return "\x7b" ++ ", ".intercalate (← quotedFields fields) ++ "\x7d"

def quotedAll : List Datum → Except Fault (List String)
  | [] => .ok []
  | datum :: rest => do
    return (← datum.quoted) :: (← quotedAll rest)

def quotedFields : List (String × Datum) → Except Fault (List String)
  | [] => .ok []
  | (name, datum) :: rest => do
    return (Text.quoted name ++ ": " ++ (← datum.quoted)) :: (← quotedFields rest)

end

/-- The datum as part of a text: a text is itself. -/
def plain : Datum → Except Fault String
  | text s => .ok s
  | datum => datum.quoted

end Datum

end LanguageShell

import LanguageShell.CommandLine.Option

/-!
Values of options. What is written on the command line, and the settings that options have without
it, are brought into the types of the options. A value that is absent stays so.
-/

namespace LanguageShell

/-- Why a value is refused. Values are given as they are shown. -/
inductive ValueError where
  | notInteger (shown : String)
  /-- The value of a counter is no integer. -/
  | notCount (shown : String)
  | notReal (shown : String)
  | notTruth (shown : String)
  /-- The value of a counter is negative. -/
  | negativeCount (n : Int)
  /-- There is one value where a list of them is expected. -/
  | notList
  | wrongCount (wanted given : Nat)
  /-- A tuple has another length. -/
  | wrongLength (wanted given : Nat)
deriving DecidableEq, Repr

namespace ValueError

def truthWords : List (String × Bool) := [
  ("", false), ("0", false), ("1", true), ("f", false), ("false", false), ("n", false),
  ("no", false), ("off", false), ("on", true), ("t", true), ("true", true), ("y", true),
  ("yes", true) ]

/-- The form of `be` that goes with a number. -/
def wasWord (n : Nat) : String :=
  if n = 1 then "was" else "were"

def message : ValueError → String
  | notInteger shown => s!"{shown} is not a valid integer."
  | notCount shown => s!"{shown} is not a valid integer range."
  | notReal shown => s!"{shown} is not a valid float."
  | notTruth shown =>
    let words := ", ".intercalate (truthWords.map (·.1))
    s!"{shown} is not a valid boolean. Recognized values: {words}"
  | negativeCount n => s!"{n} is not in the range x>=0."
  | notList => "Value must be an iterable."
  | wrongCount wanted given => s!"Takes {wanted} values but {given} {wasWord given} given."
  | wrongLength wanted given =>
    s!"{wanted} values are required, but {given} {wasWord given} given."

end ValueError

inductive ConversionError where
  | refused (error : ValueError)
  /-- The value is of a kind that nobody expects. -/
  | fault (fault : Fault)
deriving DecidableEq, Repr

abbrev ConvertM := Except ConversionError

namespace ConvertM

def refuse (error : ValueError) : ConvertM α :=
  .error (.refused error)

def ofFaulty (result : Except Fault α) : ConvertM α :=
  result.mapError .fault

end ConvertM

namespace ScalarType

/-- The integer that a value stands for; `refusal` is made of the value as it is shown. -/
def convertInteger (refusal : String → ValueError) (value : Datum) : ConvertM Int := do
  let refuse : ConvertM Int := do
    .refuse (refusal (← .ofFaulty value.quoted))
  match value with
  | .text s =>
    match Integer.read? s with
    | some n => return n
    | none => refuse
  | .real .nan => refuse
  | value =>
    match ← .ofFaulty value.truncated with
    | some n => return n
    | none => throw (.fault (.noInteger value.kind))

def convertReal (value : Datum) : ConvertM Binary64 := do
  match value with
  | .text s =>
    match Binary64.read? s with
    | some x => return x
    | none => .refuse (.notReal (Text.quoted s))
  | value =>
    match ← .ofFaulty value.toBinary64 with
    | some x => return x
    | none => throw (.fault (.noReal value.kind))

def convertTruth (value : Datum) : ConvertM Bool :=
  match value with
  | .truth b => .ok b
  | .text s =>
    match ValueError.truthWords.lookup (Text.lowerCase (Text.trim s)) with
    | some b => .ok b
    | none => .refuse (.notTruth (Text.quoted s))
  | value => .error (.fault (.noText value.kind))

def convert (type : ScalarType) (value : Datum) : ConvertM Datum := do
  match type, value with
  | _, .absent => return .absent
  | text, value => return .text (← .ofFaulty value.plain)
  | integer, value => return .integer (← convertInteger .notInteger value)
  | real, value => return .real (← convertReal value)
  | truth, value => return .truth (← convertTruth value)
  | count, value =>
    let n ← convertInteger .notCount value
    if n < 0 then .refuse (.negativeCount n) else return .integer n

end ScalarType

/-- The items of a list; those of a record are the names of its fields. -/
def Datum.items? : Datum → Option (List Datum)
  | .list items => some items
  | .record fields => some (fields.map fun field => .text field.1)
  | _ => none

namespace ValueType

def convert (type : ValueType) (valueCount : Nat) (value : Datum) : ConvertM Datum := do
  match type with
  | uniform type =>
    if valueCount = 1 then type.convert value
    else
      match value.items? with
      | none => .refuse .notList
      | some items =>
        if items.length ≠ valueCount then .refuse (.wrongCount valueCount items.length)
        else return .list (← items.mapM type.convert)
  | tuple types =>
    match value, value.items? with
    | .absent, _ => return .absent
    | value, none => throw (.fault (.noLength value.kind))
    | _, some items =>
      if items.length ≠ types.length then .refuse (.wrongLength types.length items.length)
      else return .list (← (types.zip items).mapM fun (type, item) => type.convert item)

end ValueType

/-- A setting of an option in its type. One that is absent stays so, but for an option of which all
occurrences count it is the empty list. -/
def CommandOption.convert (option : CommandOption) (value : Datum) : ConvertM Datum := do
  let convert := option.type.convert option.valueCount
  match value, option.isRepeated with
  | .absent, false => return .absent
  | .absent, true => return .list []
  | value, false => convert value
  | value, true =>
    match value.items? with
    | none => .refuse .notList
    | some items => return .list (← items.mapM convert)

end LanguageShell

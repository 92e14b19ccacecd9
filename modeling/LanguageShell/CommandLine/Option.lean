import LanguageShell.Datum
import LanguageShell.Text.Identifier
import LanguageShell.Text.LowerCase

/-!
Options of a command line, as a language declares them. An option has a name for its setting and
the forms in which it is written; a flag may have forms that turn it off.
-/

namespace LanguageShell

inductive ScalarType where
  | text
  | integer
  | real
  | truth
  /-- An integer that is not negative. -/
  | count
deriving DecidableEq, Repr

/-- The type of what an option is set to by one occurrence. -/
inductive ValueType where
  /-- All values have one type. -/
  | uniform (type : ScalarType)
  /-- Each value has a type of its own. -/
  | tuple (types : List ScalarType)
deriving DecidableEq, Repr

namespace ScalarType

/-- What a value of the type is called in the help. -/
def title : ScalarType → String
  | text => "TEXT"
  | integer => "INTEGER"
  | real => "FLOAT"
  | truth => "BOOLEAN"
  | count => "INTEGER RANGE"

def ofDatum : Datum → ScalarType
  | .integer _ => integer
  | .real _ => real
  | .truth _ => truth
  | _ => text

end ScalarType

namespace ValueType

def title : ValueType → String
  | uniform type => type.title
  | tuple types => "<" ++ " ".intercalate (types.map (·.title)) ++ ">"

/-- The number of values of an occurrence, where nothing else is said. -/
def arity : ValueType → Nat
  | uniform _ => 1
  | tuple types => types.length

/-- The type of which the given datum is a value, or a list of values. -/
def ofDatum : Datum → ValueType
  | .list (.list items :: _) => tuple (items.map ScalarType.ofDatum)
  | .list (item :: _) => uniform (.ofDatum item)
  | .list [] => uniform .text
  | datum => uniform (.ofDatum datum)

end ValueType

inductive OptionKind where
  | flag
  /-- Its setting is how often it occurs. -/
  | counter
  /-- It takes a fixed number of values. -/
  | values
deriving DecidableEq, Repr

structure CommandOption where
  /-- The name of the setting. -/
  name : String
  forms : List String
  /-- The forms that turn a flag off. -/
  offForms : List String := []
  kind : OptionKind := .flag
  type : ValueType := .uniform .truth
  /-- The number of values of an occurrence. -/
  valueCount : Nat := 1
  /-- Whether the values may be left out. -/
  isOmittable : Bool := false
  /-- Whether all occurrences count, and not only the last one. -/
  isRepeated : Bool := false
  /-- The setting without any occurrence, if there is one. -/
  default : Option Datum := none
  /-- What the values are called in the help. -/
  placeholder : Option String := none
  help : String := ""

namespace CommandOption

def takesValue (option : CommandOption) : Bool :=
  option.kind = .values

end CommandOption

/-- The declaration of an option: its forms, in any order with its name, and what is known of its
values. -/
structure OptionDeclaration where
  declarations : List String
  isFlag : Option Bool := none
  isCounter : Bool := false
  isRepeated : Bool := false
  valueCount : Option Int := none
  default : Option Datum := none
  type : Option ValueType := none
  placeholder : Option String := none
  help : String := ""

inductive DeclarationError where
  | twoNames (name : String)
  /-- A form turns a flag both on and off. -/
  | sameForms (declaration : String)
  | noName (declarations : List String)
  | noForms (name : String)
  | unboundedValues
  /-- A form turns off what is not on or off. -/
  | offFormOfValue
  | repeatedCounter
  | countedFlag
deriving DecidableEq, Repr

namespace DeclarationError

def message : DeclarationError → String
  | twoNames name => s!"Name '{name}' defined twice"
  | sameForms declaration =>
    s!"Boolean option {Text.quoted declaration} cannot use the same flag for true/false."
  | noName declarations =>
    let shown := "[" ++ ", ".intercalate (declarations.map Text.quoted) ++ "]"
    s!"Could not determine name for option with declarations {shown}"
  | noForms name => s!"No options defined but a name was passed ({name}). Did you mean to " ++
      s!"declare an argument instead? Did you mean to pass '--{name}'?"
  | unboundedValues => "nargs=-1 is not supported for options."
  | offFormOfValue => "Secondary flag is not valid for non-boolean flag."
  | repeatedCounter => "'count' is not valid with 'multiple'."
  | countedFlag => "'count' is not valid with 'is_flag'."

end DeclarationError

namespace OptionDeclaration

/-- The number of marks before the word of a form: two equal characters or one, or none before a
letter or numeral. -/
def markLength (form : String) : Nat :=
  match form.toList with
  | [] => 0
  | c :: rest => if Text.isAlphanumeric c then 0 else if rest.head? = some c then 2 else 1

def marks (form : String) : String :=
  (form.take (markLength form)).copy

/-- Whether a form is one mark and one letter, which may stand in a cluster. -/
def isShort (form : String) : Bool :=
  form.length = 2 && markLength form = 1

structure Forms where
  on : List String
  off : List String
  /-- Whether the two of a pair are the same. -/
  clash : Bool

/-- A form and the form that turns it off, which may follow it after a slash. After a form that
starts with a slash it follows a semicolon. -/
def splitForms (declaration : String) : Forms :=
  let chars := declaration.toList
  let mark := if chars.head? = some '/' then ';' else '/'
  if mark ∈ chars then
    let first := Text.dropEndWhile Text.isBlank (chars.takeWhile (· ≠ mark))
    let second := ((chars.dropWhile (· ≠ mark)).drop 1).dropWhile Text.isBlank
    let form (text : List Char) : List String :=
      if text.isEmpty then [] else [String.ofList text]
    ⟨form first, form second, first = second⟩
  else ⟨[declaration], [], false⟩

def forms (declaration : OptionDeclaration) : List Forms :=
  (declaration.declarations.filter (!Text.isIdentifier ·)).map splitForms

def nameOfForm (form : String) : String :=
  let word := form.toList.drop (markLength form)
  Text.lowerCase (String.ofList (word.map fun c => if c = '-' then '_' else c))

/-- The name of the setting: the one declared, or that of the first form with the most marks. -/
def name? (declaration : OptionDeclaration) : Option String :=
  match declaration.declarations.find? Text.isIdentifier with
  | some name => some name
  | none =>
    let forms := declaration.forms.flatMap (·.on)
    let most := (forms.map markLength).foldl max 0
    ((forms.find? fun form => markLength form = most).map nameOfForm).filter Text.isIdentifier

/-- Whether the option is a flag. A form that turns it off makes it one. -/
def declaresFlag (declaration : OptionDeclaration) : Bool :=
  declaration.isFlag.getD (declaration.forms.any (!·.off.isEmpty))

/-- The type that is declared, or else that of the default value. -/
def declaredType (declaration : OptionDeclaration) : ValueType :=
  match declaration.type, declaration.default with
  | some type, _ => type
  | none, some value => .ofDatum value
  | none, none => .uniform .text

/-- The type of the values. Where none is declared, flags and counters have types of their own. -/
def valueType (declaration : OptionDeclaration) : ValueType :=
  if declaration.type.isSome then declaration.declaredType
  else if declaration.isCounter then .uniform .count
  else if declaration.declaresFlag then .uniform .truth
  else declaration.declaredType

def toOption (declaration : OptionDeclaration) : CommandOption :=
  let isFlag := declaration.declaresFlag
  let kind : OptionKind :=
    if declaration.isCounter then .counter else if isFlag then .flag else .values
  let type := declaration.valueType
  let unset : Option Datum :=
    if declaration.isCounter then some (.integer 0)
    else if isFlag ∧ !declaration.isRepeated ∧ type = .uniform .truth then some (.truth false)
    else none
  { name := declaration.name?.getD ""
    forms := declaration.forms.flatMap (·.on)
    offForms := declaration.forms.flatMap (·.off)
    kind, type
    valueCount := (declaration.valueCount.map Int.toNat).getD declaration.declaredType.arity
    isOmittable := declaration.isFlag = some false && declaration.default.isNone
    isRepeated := declaration.isRepeated
    default := declaration.default.orElse fun _ => unset
    placeholder := declaration.placeholder
    help := declaration.help }

/-- Why the names and forms cannot stand together. They are looked at one by one. -/
def checkForms (declaration : OptionDeclaration) : Except DeclarationError Unit := do
  let addName (known : Option String) (text : String) : Except DeclarationError (Option String) :=
    if Text.isIdentifier text then
      match known with
      | some name => .error (.twoNames name)
      | none => .ok (some text)
    else if (splitForms text).clash then .error (.sameForms text) else .ok known
  let _ ← declaration.declarations.foldlM addName none
  match declaration.name? with
  | none => throw (.noName declaration.declarations)
  | some name =>
    if declaration.forms.all fun forms => forms.on.isEmpty && forms.off.isEmpty then
      throw (.noForms name)

def check (declaration : OptionDeclaration) : Except DeclarationError Unit := do
  declaration.checkForms
  let isFlag := declaration.declaresFlag
  let isSwitch := isFlag && declaration.type.getD (.uniform .truth) = .uniform .truth
  if declaration.valueCount = some (-1) then throw .unboundedValues
  if declaration.forms.any (!·.off.isEmpty) ∧ !isSwitch then throw .offFormOfValue
  if declaration.isCounter ∧ declaration.isRepeated then throw .repeatedCounter
  if declaration.isCounter ∧ isFlag then throw .countedFlag

def build (declaration : OptionDeclaration) : Except DeclarationError CommandOption := do
  declaration.check
  return declaration.toOption

end OptionDeclaration

end LanguageShell

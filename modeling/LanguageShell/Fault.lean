import LanguageShell.Text.CodePoint

/-!
Failures that no command, file or option accounts for. Nothing reports them: they end the whole
run.
-/

namespace LanguageShell

inductive TemplateError where
  /-- The template asks for more arguments than there are. -/
  | missingArgument
  /-- The template leaves arguments over. -/
  | unusedArgument
  /-- The template asks for an argument by its name. -/
  | namedArgument
  /-- A numeric conversion meets an argument of another kind. -/
  | notNumeric (conversion : Char) (kind : String)
  /-- A conversion to a fraction or a power meets an argument that is no number. -/
  | notReal (kind : String)
  /-- A conversion to a character meets an argument that stands for none. -/
  | notCharacter
  /-- No character has the code point. -/
  | noSuchCharacter
  /-- A width or precision is to be an argument that is no integer. -/
  | starNotInteger
  /-- A width that is an argument is out of range. -/
  | starWidthOutOfRange
  /-- A precision that is an argument is out of range. -/
  | starPrecisionOutOfRange
  | widthOutOfRange
  | precisionOutOfRange
  /-- An integer is to have more digits than can be asked for. -/
  | tooManyDigits
  /-- The template ends inside a conversion. -/
  | incomplete
  /-- No conversion has this letter; the index is that of the letter. -/
  | unknownConversion (conversion : Char) (index : Nat)
deriving DecidableEq, Repr

namespace TemplateError

def message : TemplateError → String
  | missingArgument => "not enough arguments for format string"
  | unusedArgument => "not all arguments converted during string formatting"
  | namedArgument => "format requires a mapping"
  | notNumeric conversion kind =>
    let wanted := if conversion ∈ ['o', 'x', 'X'] then "an integer" else "a real number"
    s!"%{conversion} format: {wanted} is required, not {kind}"
  | notReal kind => s!"must be real number, not {kind}"
  | notCharacter => "%c requires int or char"
  | noSuchCharacter => "%c arg not in range(0x110000)"
  | starNotInteger => "* wants int"
  | starWidthOutOfRange => "Python int too large to convert to C ssize_t"
  | starPrecisionOutOfRange => "Python int too large to convert to C int"
  | widthOutOfRange => "width too big"
  | precisionOutOfRange => "precision too big"
  | tooManyDigits => "precision too large"
  | incomplete => "incomplete format"
  | unknownConversion conversion index =>
    let shown := if 31 ≤ conversion.toNat ∧ conversion.toNat < 127 then conversion else '?'
    let code := String.ofList (Nat.toDigits 16 conversion.toNat)
    s!"unsupported format character '{shown}' (0x{code}) at index {index}"

end TemplateError

inductive Fault where
  /-- A span would end before it begins. -/
  | reversedSpan (stop start : Int)
  /-- No kind of diagnostic has the label that is shown. -/
  | unknownKind (shown : String)
  /-- An integer has too many digits to be written out. -/
  | integerTooLong
  /-- A path holds the character NUL. -/
  | nulInPath
  /-- A path holds surrogates that stand for no bytes, the first of them at a position. -/
  | unencodable (position : Nat) (surrogates : List Text.CodePoint)
  /-- A term or command refuses to go on, with a message of its own. -/
  | refused (message : String)
  /-- A name without a binding is looked up. -/
  | unboundName (name : String)
  /-- Something else stands where an expression is expected. -/
  | notExpression (shown : String)
  /-- Something else stands where a command is expected. -/
  | notCommand (shown : String)
  /-- A floating-point number is divided by zero. -/
  | floatDivisionByZero
  /-- A rounded number lies beyond the largest finite one. -/
  | roundingOverflow
  /-- An integer lies beyond the largest floating-point number. -/
  | integerTooLarge
  /-- An infinite number is to become an integer. -/
  | infinityToInteger
  /-- What is not a number is to become an integer. -/
  | nanToInteger
  /-- A text is too wide to be kept. -/
  | outOfMemory
  /-- A value of this kind cannot become an integer. -/
  | noInteger (kind : String)
  /-- A value of this kind cannot become a floating-point number. -/
  | noReal (kind : String)
  /-- A value of this kind stands where a text is expected. -/
  | noText (kind : String)
  /-- A value of this kind stands where a list is expected. -/
  | noLength (kind : String)
  /-- A form of an option does not begin with a mark. -/
  | unmarkedForm (form : String)
  /-- A language is run that has no name; its title is given. -/
  | noName (title : String)
  /-- A message template cannot be filled. -/
  | template (error : TemplateError)
  /-- The nesting is too deep to be followed. -/
  | tooDeep
deriving DecidableEq, Repr

namespace Fault

/-- The greatest number of decimal digits with which an integer is read or written. -/
def maxIntegerDigits : Nat := 4300

def message : Fault → String
  | reversedSpan stop start => s!"Span ends at offset {stop} before it begins at {start}."
  | unknownKind shown => s!"{shown} is not a valid ErrorKind"
  | integerTooLong => s!"Exceeds the limit ({maxIntegerDigits} digits) for integer string " ++
      "conversion; use sys.set_int_max_str_digits() to increase the limit"
  | nulInPath => "embedded null byte"
  | unencodable position surrogates =>
    let which := match surrogates with
      | [only] => s!"character '{String.ofList only.shown}' in position {position}"
      | _ => s!"characters in position {position}-{position + surrogates.length - 1}"
    s!"'utf-8' codec can't encode {which}: surrogates not allowed"
  | refused message => message
  | unboundName name => Text.quoted name
  | notExpression shown => s!"Not an expression: {shown}"
  | notCommand shown => s!"Not a toplevel command: {shown}"
  | floatDivisionByZero => "float division by zero"
  | roundingOverflow => "rounded value too large to represent"
  | integerTooLarge => "int too large to convert to float"
  | infinityToInteger => "cannot convert float infinity to integer"
  | nanToInteger => "cannot convert float NaN to integer"
  | outOfMemory => ""
  | noInteger kind => "int() argument must be a string, a bytes-like object or a real number, " ++
      s!"not '{kind}'"
  | noReal kind => s!"float() argument must be a string or a real number, not '{kind}'"
  | noText kind => s!"'{kind}' object has no attribute 'strip'"
  | noLength kind => s!"object of type '{kind}' has no len()"
  | unmarkedForm form => s!"Invalid start character for option ({form})"
  | noName title => s!"'{title}' object has no attribute 'name'"
  | template error => error.message
  | tooDeep => "maximum recursion depth exceeded"

end Fault

end LanguageShell

import LanguageShell.Source.Location

/-!
A text that is handed to a parser, with its name and the table of its lines. Offsets outside the
text count as the nearest end.
-/

namespace LanguageShell

namespace Source

/-- The offsets just after each newline, where `offset` is the offset of the first character. -/
def lineStartsAfter (offset : Nat) : List Char → List Nat
  | [] => []
  | c :: rest =>
    if c = '\n' then (offset + 1) :: lineStartsAfter (offset + 1) rest
    else lineStartsAfter (offset + 1) rest

end Source

/-- A text with its name, its length and the offsets at which its lines begin. -/
structure Source where
  text : List Char
  filename : String
  size : Nat := text.length
  lineStarts : List Nat := 0 :: Source.lineStartsAfter 0 text
  size_eq : size = text.length := by rfl
  lineStarts_eq : lineStarts = 0 :: Source.lineStartsAfter 0 text := by rfl

namespace Source

def ofString (text : String) (filename : String := "") : Source where
  text := text.toList
  filename := filename

/-- The offset, moved to the nearest end if it lies outside the text. -/
def clamp (source : Source) (offset : Int) : Nat :=
  min offset.toNat source.size

/-- The point at an offset: its line is the last one that begins at or before it. -/
def location (source : Source) (offset : Int) : Location :=
  let point := source.clamp offset
  let begun := source.lineStarts.filter (· ≤ point)
  ⟨point, begun.length, begun.getLast?.getD 0⟩

@[simp] theorem offset_location (source : Source) (offset : Int) :
    (source.location offset).offset = source.clamp offset := rfl

/-- The span between two offsets, or a fault if they are in the wrong order within the text. -/
def span (source : Source) (start stop : Int) : Except Fault Span :=
  Span.between (source.location start) (source.location stop) source.filename

def slice (source : Source) (start : Int) (length : Nat) : Span where
  start := source.location start
  stop := source.location (start + length)
  filename := source.filename
  start_le_stop := by simp only [offset_location, clamp]; omega

def endOfInput (source : Source) : Span :=
  source.slice source.size 0

/-- The span of a node that a parser has located, which may know neither its start nor its end. -/
def nodeSpan (source : Source) (start stop : Option Int) : Except Fault Span :=
  match start with
  | none => .ok source.endOfInput
  | some start => source.span start (stop.getD start)

end Source

end LanguageShell

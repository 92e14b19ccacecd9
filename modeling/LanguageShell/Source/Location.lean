import LanguageShell.Fault

/-!
Points and spans of a text, and how a message speaks of them.
-/

namespace LanguageShell

/-- A point in a text: its offset, its line counted from one, and the offset of that line. -/
structure Location where
  offset : Int
  line : Int
  lineStart : Int
deriving DecidableEq, Repr

/-- A stretch of a text, which may have a name. It never ends before it begins. -/
structure Span where
  start : Location
  stop : Location
  filename : String
  start_le_stop : start.offset ≤ stop.offset
deriving DecidableEq, Repr

/-- The span between two points, or a fault if they are in the wrong order. -/
def Span.between (start stop : Location) (filename : String) : Except Fault Span :=
  if h : start.offset ≤ stop.offset then .ok ⟨start, stop, filename, h⟩
  else .error (.reversedSpan stop.offset start.offset)

/-- Where something stands: at a span, or nowhere in particular, as generated terms do. -/
inductive Place where
  | unknown
  | known (span : Span)
deriving DecidableEq, Repr

namespace Place

/-- The wording for a place. Both columns count from the start of the first line. -/
def describe : Place → String
  | unknown => "unknown position"
  | known span =>
    let file := if span.filename = "" then "" else s!"file \"{span.filename}\", "
    let first := span.start.offset - span.start.lineStart
    let last := span.stop.offset - span.start.lineStart
    s!"{file}line {span.start.line}, characters {first}-{last}"

end Place

end LanguageShell

import LanguageShell.Text.Quoted

/-!
Texts of code points. An escape can spell a surrogate, which is no character, and so can a path: in
the names of files some surrogates stand for bytes that are not UTF-8.
-/

namespace LanguageShell.Text

inductive CodePoint where
  | char (c : Char)
  /-- The surrogate with an index among the surrogates. -/
  | surrogate (index : Fin 0x800)
deriving DecidableEq, Repr

namespace CodePoint

def firstSurrogate : Nat := 0xd800

def ofNat? (code : Nat) : Option CodePoint :=
  if h : code.isValidChar then some (char (Char.ofNatAux code h))
  else if hbound : code < 0x110000 then
    some (surrogate ⟨code - firstSurrogate, by
      simp only [Nat.isValidChar, not_or, not_and, firstSurrogate] at h ⊢
      omega⟩)
  else none

/-- What an error stream shows. -/
def shown : CodePoint → List Char
  | char c => [c]
  | surrogate index => codeEscape (firstSurrogate + index)

def IsSurrogate : CodePoint → Prop
  | char _ => False
  | surrogate _ => True

/-- Whether the code point can be part of a path. A surrogate can if it stands for a byte. -/
def IsEncodable : CodePoint → Prop
  | char _ => True
  | surrogate index => 0x480 ≤ index.val ∧ index.val < 0x500

instance : DecidablePred IsSurrogate := fun
  | char _ => inferInstanceAs (Decidable False)
  | surrogate _ => inferInstanceAs (Decidable True)

instance : DecidablePred IsEncodable := fun
  | char _ => inferInstanceAs (Decidable True)
  | surrogate _ => inferInstanceAs (Decidable (_ ∧ _))

def byteSize : CodePoint → Nat
  | char c => c.utf8Size
  | surrogate _ => 1

end CodePoint

end Text

/-- A text that may hold surrogates. -/
structure CodeText where
  points : List Text.CodePoint
deriving DecidableEq, Repr

namespace CodeText

open Text

def ofString (text : String) : CodeText :=
  ⟨text.toList.map .char⟩

instance : Coe String CodeText := ⟨ofString⟩

/-- The text as an error stream shows it, with escapes in place of surrogates. -/
def shown (text : CodeText) : String :=
  String.ofList (text.points.flatMap CodePoint.shown)

instance : ToString CodeText := ⟨shown⟩

@[simp] theorem shown_ofString (text : String) : (ofString text).shown = text := by
  simp [shown, ofString, List.flatMap_map, CodePoint.shown]

@[simp] theorem ofString_inj {text other : String} : ofString text = ofString other ↔ text = other :=
  ⟨fun h => by rw [← shown_ofString text, h, shown_ofString], congrArg ofString⟩

def byteSize (text : CodeText) : Nat :=
  text.points.foldl (fun size point => size + point.byteSize) 0

/-- The first surrogates that cannot be part of a path, and how many code points precede them. They
go on as long as there are surrogates. -/
def unencodable? (text : CodeText) : Option (Nat × List CodePoint) :=
  match text.points.dropWhile (·.IsEncodable) with
  | [] => none
  | first :: rest =>
    some (text.points.length - (rest.length + 1), first :: rest.takeWhile (·.IsSurrogate))

end CodeText

end LanguageShell

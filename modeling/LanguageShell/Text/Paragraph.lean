import LanguageShell.Text.Blank
import LanguageShell.Text.ControlSequence
import LanguageShell.Text.Letter
import LanguageShell.Text.Lines

/-!
Paragraphs filled into lines of a width. A line is broken between words, after the hyphens of
compound words and at dashes of two hyphens or more; what is too long for any line is cut.
-/

namespace LanguageShell.Text

def tabWidth : Nat := 8

/-- The text that stands from a column on, with blanks in place of tabs. -/
def expandTabs (column : Nat) : List Char → List Char
  | [] => []
  | c :: rest =>
    if c = '\t' then
      let n := tabWidth - column % tabWidth
      List.replicate n ' ' ++ expandTabs (column + n) rest
    else c :: expandTabs (if c = '\n' ∨ c = '\r' then 0 else column + 1) rest

/-! ### Chunks -/

def isGap (c : Char) : Bool :=
  (0x09 ≤ c.toNat && c.toNat ≤ 0x0d) || c = ' '

/-- Whether the character belongs to a word and is no digit. -/
def isWordLetter (c : Char) : Bool :=
  isWordCharacter c && !isDigit c

def leadsDash (c : Char) : Bool :=
  isWordCharacter c || "!\"'&.,?".contains c

/-- Whether a line may be broken after a hyphen, by what stands before it, the nearest character
first, and what stands after it. -/
def breaksAfterHyphen (before after : List Char) : Bool :=
  let follows := match after with
    | a :: '-' :: b :: _ => isWordLetter a && isWordLetter b
    | a :: b :: _ => isWordLetter a && isWordLetter b
    | _ => false
  let leads := match before with
    | a :: '-' :: b :: _ => isWordLetter a && isWordLetter b
    | a :: b :: _ => isWordLetter a && isWordLetter b
    | _ => false
  leads && follows

/-- The length of the dash that a text begins with, between what stands before it, the nearest
character first, and a word; zero if there is none. -/
def dashLength (before text : List Char) : Nat :=
  let hyphens := text.takeWhile (· = '-')
  let isLed := match before with
    | c :: _ => leadsDash c
    | [] => false
  let isFollowed := match text.drop hyphens.length with
    | c :: _ => isWordCharacter c
    | [] => false
  if isLed && isFollowed && 2 ≤ hyphens.length then hyphens.length else 0

/-- The length of the word at the start of a text up to where a line may be broken. -/
def wordLength (before : List Char) : List Char → Nat
  | [] => 0
  | c :: rest =>
    if c = '-' ∧ breaksAfterHyphen before rest then 1
    else
      match rest with
      | [] => 1
      | d :: _ =>
        if isGap d ∨ 0 < dashLength (c :: before) rest then 1
        else 1 + wordLength (c :: before) rest

/-- The length of the chunk at the start of a text: a gap, a dash, or a word or a part of one. A
word has at least one character, whatever that is. -/
def chunkLength (before text : List Char) : Nat :=
  match text with
  | [] => 0
  | c :: _ =>
    if isGap c then (text.takeWhile isGap).length
    else
      let dash := dashLength before text
      if 0 < dash then dash else wordLength before text

/-- The chunks of a text, between which a line may be broken. Of what stands before the text the
nearest character comes first. -/
def chunks (before text : List Char) : List (List Char) :=
  match text with
  | [] => []
  | c :: rest =>
    let n := chunkLength before (c :: rest)
    let chunk := c :: rest.take (n - 1)
    chunk :: chunks (chunk.reverse ++ before) (rest.drop (n - 1))
termination_by text.length
decreasing_by all_goals simp only [List.length_drop, List.length_cons]; omega

/-! ### Lines -/

/-- The number of places that chunks take up, each by itself: a control sequence that is broken
between two of them takes up places. -/
def placesOf : List (List Char) → Nat
  | [] => 0
  | chunk :: rest => visibleLength chunk + placesOf rest

def takeFitting (width : Nat) : List (List Char) → List (List Char) × List (List Char)
  | [] => ([], [])
  | chunk :: rest =>
    let length := visibleLength chunk
    if length ≤ width then
      let (line, others) := takeFitting (width - length) rest
      (chunk :: line, others)
    else ([], chunk :: rest)

/-- The chunks of the next line, and the others. What is too long for a line of its own is cut. -/
def nextLine (width : Nat) (chunks : List (List Char)) : List (List Char) × List (List Char) :=
  let (line, others) := takeFitting width chunks
  match others with
  | [] => (line, [])
  | chunk :: rest =>
    if width < visibleLength chunk then
      let (start, left) := splitVisible (max (width - placesOf line) 1) chunk
      (line ++ [start], left :: rest)
    else (line, others)

def isBlankChunk (chunk : List Char) : Bool :=
  chunk.all isBlank

/-- Fills chunks into at most `count` lines, each after its indentation. Blank chunks at the ends of
a line are dropped, except at the start of the text. -/
def fillChunks (indent nextIndent : List Char) (width : Nat) (isFirst : Bool) :
    Nat → List (List Char) → List (List Char)
  | _, [] => []
  | 0, _ => []
  | count + 1, chunk :: rest =>
    let pending := if !isFirst && isBlankChunk chunk then rest else chunk :: rest
    let (line, others) := nextLine (width - visibleLength indent) pending
    let line := match line.getLast? with
      | some last => if isBlankChunk last then line.dropLast else line
      | none => line
    if line.isEmpty then fillChunks indent nextIndent width isFirst count others
    else (indent ++ line.flatten) :: fillChunks nextIndent nextIndent width false count others

/-- The lines of a paragraph, the first one after `indent` and the others after `nextIndent`. Every
line takes up at least one character, so there are no more lines than characters. -/
def fill (indent nextIndent : List Char) (width : Nat) (text : List Char) : List (List Char) :=
  let text := expandTabs 0 text
  fillChunks indent nextIndent width true (text.length + 1) (chunks [] text)

/-! ### Blocks -/

def bareLines (text : List Char) : List (List Char) :=
  (lines text).map (·.takeWhile (!isLineEnd ·))

def joinLines (lines : List (List Char)) : List Char :=
  ['\n'].intercalate lines

/-- Neighbouring lines of a text, the first one without its indentation. -/
structure Block where
  indent : Nat
  lines : List (List Char)

namespace Block

def ofLine (line : List Char) (rest : List (List Char)) : Block :=
  let bare := line.dropWhile isBlank
  ⟨line.length - bare.length, bare :: rest⟩

/-- Whether the lines of the block are to be left as they are: a backspace alone says so. -/
def isKept (block : Block) : Bool :=
  (block.lines.head?.map (dropEndsWhile isBlank)) = some ['\x08']

def layOut (block : Block) (indent : List Char) (width : Nat) : List (List Char) :=
  let indent := indent ++ List.replicate block.indent ' '
  if block.isKept then (block.lines.drop 1).map (indent ++ ·)
  else fill indent indent width ([' '].intercalate block.lines)

end Block

def blocks (lines : List (List Char)) : List Block :=
  match lines with
  | [] => []
  | [] :: rest => blocks rest
  | line :: rest =>
    let others := rest.takeWhile (!·.isEmpty)
    Block.ofLine line others :: blocks (rest.drop others.length)
termination_by lines.length
decreasing_by all_goals simp only [List.length_drop, List.length_cons]; omega

/-- A text of several blocks in lines of a width, with an empty line after each block. -/
def wrap (indent : List Char) (width : Nat) (text : List Char) : List Char :=
  ['\n', '\n'].intercalate <|
    (blocks (bareLines (expandTabs 0 text))).map fun block => joinLines (block.layOut indent width)

/-! ### Indentation -/

def dropEmptyEnds (lines : List (List Char)) : List (List Char) :=
  ((lines.dropWhile List.isEmpty).reverse.dropWhile List.isEmpty).reverse

/-- The least indentation of lines that are not blank. -/
def margin? (lines : List (List Char)) : Option Nat :=
  (lines.filterMap fun line =>
    let indent := (line.takeWhile isBlank).length
    if indent < line.length then some indent else none).min?

/-- The text without the indentation that all its lines but the first have in common, and without
empty lines at its ends. -/
def dedent (text : List Char) : List Char :=
  match (expandTabs 0 text).splitOn '\n' with
  | [] => []
  | first :: rest =>
    let margin := (margin? rest).getD 0
    joinLines (dropEmptyEnds (first.dropWhile isBlank :: rest.map (·.drop margin)))

end LanguageShell.Text

import LanguageShell.Text.CharacterName.Alias
import LanguageShell.Text.CharacterName.Forms
import LanguageShell.Text.CharacterName.FurtherScripts
import LanguageShell.Text.CharacterName.HistoricScripts
import LanguageShell.Text.CharacterName.Pictographs
import LanguageShell.Text.CharacterName.Scripts
import LanguageShell.Text.CharacterName.Signs
import LanguageShell.Text.CharacterName.Symbols
import LanguageShell.Text.CharacterName.Writing

/-!
Characters by name. Most names are listed. Those of ideographs are made from their code points, and
those of Hangul syllables from the names of their parts; only in these two does the case of the
letters matter.
-/

namespace LanguageShell.Text.CharacterName

/-- Names of consecutive characters: the code point of the first, what all the names begin with,
and how each goes on, with semicolons between. -/
def listed : List (Nat × String × List String) :=
  scripts ++ symbols ++ furtherScripts ++ forms ++ historicScripts ++ writing ++ signs ++
    pictographs

/-- The code points, first to last, of characters whose names end with the code point, and what
the names begin with. -/
def coded : List (Nat × Nat × String) := [
  (0xf900, 0xfa6d, "CJK COMPATIBILITY IDEOGRAPH-"),
  (0xfa70, 0xfad9, "CJK COMPATIBILITY IDEOGRAPH-"),
  (0x2f800, 0x2fa1d, "CJK COMPATIBILITY IDEOGRAPH-"),
  (0x18b00, 0x18cd5, "KHITAN SMALL SCRIPT CHARACTER-"),
  (0x1b170, 0x1b2fb, "NUSHU CHARACTER-") ]

def unifiedIdeographs : List (Nat × Nat) := [
  (0x3400, 0x4dbf), (0x4e00, 0x9fff), (0x20000, 0x2a6df), (0x2a700, 0x2b738), (0x2b740, 0x2b81d),
  (0x2b820, 0x2cea1), (0x2ceb0, 0x2ebe0), (0x30000, 0x3134a) ]

def initialConsonants : List String := [
  "G", "GG", "N", "D", "DD", "R", "M", "B", "BB", "S", "SS", "", "J", "JJ", "C", "K", "T", "P",
  "H" ]

def vowels : List String := [
  "A", "AE", "YA", "YAE", "EO", "E", "YEO", "YE", "O", "WA", "WAE", "OE", "YO", "U", "WEO", "WE",
  "WI", "YU", "EU", "YI", "I" ]

def finalConsonants : List String := [
  "", "G", "GG", "GS", "N", "NJ", "NH", "D", "L", "LG", "LM", "LB", "LS", "LT", "LP", "LH", "M",
  "B", "BS", "S", "SS", "NG", "J", "C", "K", "T", "P", "H" ]

def codeOfHex? (digits : List Char) : Option Nat :=
  digits.foldlM (fun n c =>
    if '0' ≤ c ∧ c ≤ '9' then some (16 * n + (c.toNat - '0'.toNat))
    else if 'A' ≤ c ∧ c ≤ 'F' then some (16 * n + (c.toNat - 'A'.toNat + 10))
    else none) 0

def after? (start : String) (text : List Char) : Option (List Char) :=
  let chars := start.toList
  if chars.isPrefixOf text then some (text.drop chars.length) else none

def syllable? (parts : List Char) : Option Nat :=
  initialConsonants.zipIdx.findSome? fun (initial, i) => do
    let parts ← after? initial parts
    vowels.zipIdx.findSome? fun (vowel, v) => do
      let final ← after? vowel parts
      let f ← finalConsonants.findIdx? (·.toList = final)
      return 0xac00 + (i * vowels.length + v) * finalConsonants.length + f

/-- The code point of the unified ideograph with the given code, which has four or five digits. -/
def ideograph? (digits : List Char) : Option Nat := do
  let code ← codeOfHex? digits
  if (digits.length = 4 ∨ digits.length = 5) ∧
      unifiedIdeographs.any (fun (first, last) => first ≤ code && code ≤ last) then
    return code
  else none

def hexOfCode (code : Nat) : List Char :=
  (Nat.toDigits 16 code).map Char.toUpper

/-- The code point of a character whose name ends with it. -/
def findCoded? (name : List Char) : Option Nat :=
  coded.findSome? fun (first, last, start) => do
    let digits ← after? start name
    let code ← codeOfHex? digits
    if first ≤ code ∧ code ≤ last ∧ digits = hexOfCode code then return code else none

def split (lines : List String) : List String :=
  lines.flatMap (·.splitOn ";")

def findListed? (name : List Char) : Option Nat :=
  listed.findSome? fun (first, start, ends) => do
    let rest ← after? start name
    return first + (← (split ends).idxOf? (String.ofList rest))

def findAlias? (name : String) : Option Nat :=
  aliases.findSome? fun (code, names) =>
    if (split names).contains name then some code else none

/-- The code point of a variation selector by its abbreviation. -/
def selector? (name : List Char) : Option Nat := do
  let digits ← after? "VS" name
  let number ← (String.ofList digits).toNat?
  if digits ≠ (toString number).toList then none
  else if 1 ≤ number ∧ number ≤ 16 then return 0xfe00 + (number - 1)
  else if 17 ≤ number ∧ number ≤ 256 then return 0xe0100 + (number - 17)
  else none

def codeOf? (name : String) : Option Nat :=
  match after? "HANGUL SYLLABLE " name.toList, after? "CJK UNIFIED IDEOGRAPH-" name.toList with
  | some parts, _ => syllable? parts
  | none, some digits => ideograph? digits
  | none, none =>
    let upper := name.toUpper
    (findListed? upper.toList).orElse fun _ =>
      (findAlias? upper).orElse fun _ =>
        (selector? upper.toList).orElse fun _ => findCoded? upper.toList

def isNameCharacter (c : Char) : Bool :=
  c.isAlphanum || c = ' ' || c = '-'

end CharacterName

def characterOfName? (name : String) : Option Char :=
  if name.toList.all CharacterName.isNameCharacter then
    (CharacterName.codeOf? name).map Char.ofNat
  else none

end LanguageShell.Text

/-!
Lines of a text that may come from anywhere. Eleven characters and one pair end a line, and a
line keeps its end, so the lines put together are the text.
-/

namespace LanguageShell.Text

def isLineEnd (c : Char) : Bool :=
  let n := c.toNat
  (0x0a ≤ n && n ≤ 0x0d) || (0x1c ≤ n && n ≤ 0x1e) || n == 0x85 || n == 0x2028 || n == 0x2029

/-- The lines of the text with their ends; a carriage return and a newline together are one end. -/
def lines : List Char → List (List Char)
  | [] => []
  | '\r' :: '\n' :: rest => ['\r', '\n'] :: lines rest
  | c :: rest =>
    if isLineEnd c then [c] :: lines rest
    else match lines rest with
      | [] => [[c]]
      | line :: others => (c :: line) :: others

def indent (text : List Char) : List Char :=
  (lines text).flatMap ([' ', ' '] ++ ·)

end LanguageShell.Text

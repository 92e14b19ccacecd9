import LanguageShell.Shell
import Mathlib

/-!
The lines of a text. A text is cut at its newlines and nowhere else; what follows the last newline
is a line if it is not empty. The lines, each with a newline, are the text again, except that the
last one may get a newline that it did not have.
-/

namespace LanguageShell

open String

/-- The text that consists of the lines, each with a newline. -/
def textOfLines (lines : List String) : List Char :=
  lines.flatMap fun line => line.toList ++ ['\n']

/-- The text with a newline at its end, if it is not empty. -/
def terminated (text : List Char) : List Char :=
  if text = [] ∨ text.getLast? = some '\n' then text else text ++ ['\n']

theorem splitOnAux_newline (front piece rest : List Char) (pieces : List String) :
    splitOnAux (ofList (front ++ piece ++ rest)) "\n" ⟨utf8Len front⟩
        ⟨utf8Len (front ++ piece)⟩ 0 pieces =
      pieces.reverse ++
        (List.splitOnPPrepend (· == '\n') rest piece.reverse).map ofList := by
  induction rest generalizing front piece pieces with
  | nil =>
      have hend := (atEnd_of_valid (front ++ piece) []).mpr rfl
      have hpiece := extract_of_valid front piece []
      rw [← utf8Len_append] at hpiece
      rw [splitOnAux, if_pos hend, hpiece]
      simp
  | cons c rest ih =>
      have hend := mt (atEnd_of_valid (front ++ piece) (c :: rest)).mp (by simp)
      have hget := get_of_valid (front ++ piece) (c :: rest)
      have hnext := next_of_valid (front ++ piece) c rest
      obtain ⟨hnewline, hone, hdone⟩ : (0 : Pos.Raw).get "\n" = '\n' ∧
          (0 : Pos.Raw).next "\n" = ⟨1⟩ ∧ (⟨1⟩ : Pos.Raw).atEnd "\n" = true := by decide
      rw [splitOnAux, if_neg hend, hget, hnewline, hnext, hone, if_pos hdone, List.headD_cons]
      by_cases hc : c = '\n'
      · subst hc
        have hsize : '\n'.utf8Size = 1 := by decide
        have hback : (⟨utf8Len (front ++ piece) + 1⟩ : Pos.Raw).unoffsetBy ⟨1⟩ =
            ⟨utf8Len front + utf8Len piece⟩ := by
          simp [Pos.Raw.unoffsetBy, utf8Len_append]
        have hpiece := extract_of_valid front piece ('\n' :: rest)
        have hrest := ih (front ++ piece ++ ['\n']) [] (ofList piece :: pieces)
        rw [if_pos (by simp), hsize, hback, hpiece, List.splitOnPPrepend_cons_pos (by simp)]
        simpa [Nat.add_assoc, hsize] using hrest
      · have hpos : (⟨utf8Len (front ++ piece)⟩ : Pos.Raw).unoffsetBy 0 =
            ⟨utf8Len (front ++ piece)⟩ := rfl
        have hrest := ih front (piece ++ [c]) pieces
        rw [if_neg (by simpa using hc), hpos, hnext,
          List.splitOnPPrepend_cons_neg (by simpa using hc)]
        simpa [Nat.add_assoc] using hrest

theorem splitOn_newline (text : List Char) :
    (ofList text).splitOn "\n" = (text.splitOn '\n').map ofList := by
  have h := splitOnAux_newline [] [] text []
  rw [splitOn, if_neg (by decide)]
  simpa [List.splitOn_eq_splitOnP] using h

theorem exists_pieces (text : List Char) :
    ∃ front last, text.splitOn '\n' = front ++ [last] ∧
      (∀ piece ∈ front ++ [last], '\n' ∉ piece) ∧
      text = (front.flatMap fun piece => piece ++ ['\n']) ++ last := by
  induction text with
  | nil => exact ⟨[], [], by simp, by simp, rfl⟩
  | cons c rest ih =>
      obtain ⟨front, last, hsplit, hpieces, hrest⟩ := ih
      rw [List.splitOn_cons_eq_if_modifyHead, hsplit]
      by_cases hc : c = '\n'
      · refine ⟨[] :: front, last, by simp [hc], ?_, ?_⟩
        · rintro piece (_ | ⟨_, hpiece⟩)
          · simp
          · exact hpieces piece hpiece
        · simp [hc, ← hrest]
      · rw [if_neg (by simpa using hc)]
        cases front with
        | nil =>
            refine ⟨[], c :: last, rfl, ?_, by simp [hrest]⟩
            have hlast := hpieces last (by simp)
            simp [hlast, Ne.symm hc]
        | cons piece front =>
            refine ⟨(c :: piece) :: front, last, rfl, ?_, by simp [hrest]⟩
            rw [List.cons_append, List.forall_mem_cons] at hpieces ⊢
            exact ⟨by simp [hpieces.1, Ne.symm hc], hpieces.2⟩

namespace Shell

/-- The lines of a text hold no newlines, and with newlines they are the text again. -/
theorem exists_lines (text : List Char) :
    ∃ lines : List String, linesOfText (ofList text) = lines.map Input.line ∧
      (∀ line ∈ lines, '\n' ∉ line.toList) ∧ textOfLines lines = terminated text := by
  obtain ⟨front, last, hsplit, hpieces, htext⟩ := exists_pieces text
  have hlast : ((front ++ [last]).map ofList).getLast? = some "" ↔ last = [] := by
    simp [← String.toList_inj]
  have hmap : ∀ pieces : List (List Char),
      textOfLines (pieces.map ofList) = pieces.flatMap fun piece => piece ++ ['\n'] := by
    intro pieces
    simp [textOfLines, List.flatMap_map]
  have hfree : ∀ line ∈ (front ++ [last]).map ofList, '\n' ∉ line.toList := by
    intro line hline
    obtain ⟨piece, hpiece, rfl⟩ := List.mem_map.mp hline
    rw [toList_ofList]
    exact hpieces piece hpiece
  simp only [linesOfText, splitOn_newline, hsplit, hlast]
  by_cases hempty : last = []
  · refine ⟨front.map ofList, by simp [hempty], fun line hline => ?_, ?_⟩
    · exact hfree line (by simpa using Or.inl (by simpa using hline))
    · rw [hmap, terminated, htext, hempty, List.append_nil, if_pos]
      obtain rfl | ⟨others, piece, rfl⟩ := List.eq_nil_or_concat front
      · exact .inl rfl
      · simp
  · refine ⟨(front ++ [last]).map ofList, by simp [hempty], hfree, ?_⟩
    have hne : ¬(text = [] ∨ text.getLast? = some '\n') := by
      rw [htext, List.getLast?_append_of_ne_nil _ hempty]
      rintro (hnil | hnewline)
      · exact hempty (List.append_eq_nil_iff.mp hnil).2
      · exact hpieces last (by simp) (List.mem_of_getLast? hnewline)
    rw [hmap, terminated, if_neg hne, htext]
    simp

end Shell

end LanguageShell

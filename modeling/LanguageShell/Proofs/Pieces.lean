import Mathlib.Data.List.Basic

/-!
Texts cut into pieces at each place at which a separator stands. Pieces that lack the first
character of the separator are found again in the text in which they are joined by it.
-/

namespace LanguageShell.Text

/-- The pieces of a text between the separators in it, which are looked for from the left on; a
separator is not empty. -/
def pieces (separator : List Char) : List Char → List (List Char)
  | [] => [[]]
  | c :: rest =>
    if separator <+: c :: rest then [] :: pieces separator (rest.drop (separator.length - 1))
    else (pieces separator rest).modifyHead (c :: ·)
termination_by text => text.length
decreasing_by
  · simp only [List.length_drop, List.length_cons]
    omega
  · simp

/-- The text with another one in the place of each separator. -/
def replace (separator other text : List Char) : List Char :=
  other.intercalate (pieces separator text)

section

variable {c : Char} {more : List Char}

theorem pieces_cons_of_ne {d : Char} (h : d ≠ c) (rest : List Char) :
    pieces (c :: more) (d :: rest) = (pieces (c :: more) rest).modifyHead (d :: ·) := by
  rw [pieces, if_neg]
  exact fun hprefix => h (List.cons_prefix_cons.mp hprefix).1.symm

theorem pieces_of_not_mem {text : List Char} (h : c ∉ text) : pieces (c :: more) text = [text] := by
  induction text with
  | nil => rw [pieces]
  | cons d text ih =>
      rw [List.mem_cons, not_or] at h
      rw [pieces_cons_of_ne (Ne.symm h.1), ih h.2]
      rfl

theorem pieces_append {text : List Char} (h : c ∉ text) (rest : List Char) :
    pieces (c :: more) (text ++ (c :: more) ++ rest) = text :: pieces (c :: more) rest := by
  induction text with
  | nil =>
      have hdrop : (more ++ rest).drop ((c :: more).length - 1) = rest := by simp
      have hprefix : c :: more <+: c :: (more ++ rest) := List.prefix_append (c :: more) rest
      rw [List.nil_append, List.cons_append, pieces, if_pos hprefix, hdrop]
  | cons d text ih =>
      rw [List.mem_cons, not_or] at h
      rw [List.cons_append, List.cons_append, pieces_cons_of_ne (Ne.symm h.1), ih h.2]
      rfl

theorem pieces_intercalate {texts : List (List Char)} (hne : texts ≠ [])
    (h : ∀ text ∈ texts, c ∉ text) :
    pieces (c :: more) ((c :: more).intercalate texts) = texts := by
  induction texts with
  | nil => exact absurd rfl hne
  | cons text texts ih =>
      obtain ⟨htext, htexts⟩ := List.forall_mem_cons.mp h
      cases texts with
      | nil => simpa using pieces_of_not_mem htext
      | cons next texts =>
          rw [List.intercalate_cons_cons, pieces_append htext, ih (List.cons_ne_nil _ _) htexts]

theorem replace_between {front back : List Char} (hfront : c ∉ front) (hback : c ∉ back)
    (other : List Char) :
    replace (c :: more) other (front ++ (c :: more) ++ back) = front ++ other ++ back := by
  rw [replace, pieces_append hfront, pieces_of_not_mem hback]
  simp [List.intercalate]

end

end LanguageShell.Text

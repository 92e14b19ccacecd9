import LanguageShell.Text.Escape
import Mathlib

/-!
What escapes take up. The characters that an escape takes up after the one that the backslash stands
before are hexadecimal digits, octal digits, or the name of a character in braces. None of them is a
quote, a backslash or a newline.
-/

namespace LanguageShell.Text

/-- Whether the character has no meaning of its own between quotes and may stand there. -/
def IsOrdinary (c : Char) : Prop :=
  c ≠ '"' ∧ c ≠ '\\' ∧ c ≠ '\n'

theorem isOrdinary_of_hexDigit {c : Char} (h : (hexDigit? c).isSome) : IsOrdinary c := by
  refine ⟨?_, ?_, ?_⟩ <;> rintro rfl <;> exact absurd h (by decide)

theorem isOrdinary_of_octalDigit {c : Char} (h : (octalDigit? c).isSome) : IsOrdinary c := by
  refine ⟨?_, ?_, ?_⟩ <;> rintro rfl <;> exact absurd h (by decide)

theorem isOrdinary_of_name {c : Char} (h : CharacterName.isNameCharacter c = true) :
    IsOrdinary c := by
  refine ⟨?_, ?_, ?_⟩ <;> rintro rfl <;> exact absurd h (by decide)

theorem isSome_of_mapM {α β : Type} {f : α → Option β} {list : List α} {values : List β}
    (h : list.mapM f = some values) : ∀ a ∈ list, (f a).isSome := by
  induction list generalizing values with
  | nil => simp
  | cons a list ih =>
      simp only [List.mapM_cons, bind, Option.bind_eq_some_iff] at h
      obtain ⟨b, ha, others, hothers, -⟩ := h
      exact List.forall_mem_cons.mpr ⟨by simp [ha], ih hothers⟩

theorem isOrdinary_of_hexEscape {count : Nat} {rest : List Char} {point : CodePoint}
    (h : hexEscape? count rest = some point) : ∀ d ∈ rest.take count, IsOrdinary d := by
  unfold hexEscape? at h
  simp only at h
  split at h
  · cases h
  · simp only [bind, Option.bind_eq_some_iff] at h
    obtain ⟨values, hvalues, -⟩ := h
    exact fun d hd => isOrdinary_of_hexDigit (isSome_of_mapM hvalues d hd)

theorem isOrdinary_of_braces {named : List Char}
    (hname : ∀ c ∈ named.takeWhile (· ≠ '\x7d'), IsOrdinary c)
    (hclosed : (named.takeWhile (· ≠ '\x7d')).length < named.length) :
    ∀ c ∈ ('\x7b' :: named).take ((named.takeWhile (· ≠ '\x7d')).length + 2), IsOrdinary c := by
  have hparts := List.takeWhile_append_dropWhile (p := (· ≠ '\x7d')) (l := named)
  cases hrest : named.dropWhile (· ≠ '\x7d') with
  | nil =>
      rw [hrest, List.append_nil] at hparts
      rw [hparts] at hclosed
      exact absurd hclosed (Nat.lt_irrefl _)
  | cons d rest =>
      have hstop := List.head?_dropWhile_not (· ≠ '\x7d') named
      rw [hrest] at hstop hparts
      obtain rfl : d = '\x7d' := by simpa using hstop
      generalize named.takeWhile (· ≠ '\x7d') = name at *
      rw [← hparts, List.take_succ_cons, List.take_length_add_append]
      intro c hc
      simp only [List.mem_cons, List.mem_append] at hc
      obtain rfl | hc | hc := hc
      · exact ⟨by decide, by decide, by decide⟩
      · exact hname c hc
      · obtain rfl : c = '\x7d' := by simpa using hc
        exact ⟨by decide, by decide, by decide⟩

/-- What an escape takes up after its first character is ordinary, unless it is a line end. -/
theorem isOrdinary_of_escape {c : Char} {rest : List Char} {text : List CodePoint} {n : Nat}
    (h : escape? c rest = some (text, n)) (hreturn : c ≠ '\r') :
    ∀ d ∈ rest.take n, IsOrdinary d := by
  have hhex : ∀ count, (hexEscape? count rest).map (fun d => ([d], count)) = some (text, n) →
      ∀ d ∈ rest.take n, IsOrdinary d := by
    intro count hcount
    obtain ⟨d, hd, hpair⟩ := Option.map_eq_some_iff.mp hcount
    obtain ⟨-, rfl⟩ := Prod.mk.inj hpair
    exact isOrdinary_of_hexEscape hd
  unfold escape? at h
  split at h
  · exact absurd rfl hreturn
  · exact absurd rfl hreturn
  · obtain ⟨-, rfl⟩ := Prod.mk.inj (Option.some.inj h)
    simp
  · exact hhex 2 h
  · exact hhex 4 h
  · exact hhex 8 h
  · rename_i named
    simp only at h
    split at h
    · rename_i hclosed
      obtain ⟨d, hd, hpair⟩ := Option.map_eq_some_iff.mp h
      obtain ⟨-, rfl⟩ := Prod.mk.inj hpair
      refine isOrdinary_of_braces (fun c hc => ?_) hclosed
      unfold characterOfName? at hd
      split at hd
      · rename_i hall
        rw [String.toList_ofList, List.all_eq_true] at hall
        exact isOrdinary_of_name (hall c hc)
      · cases hd
    · cases h
  · cases h
  · split at h
    · obtain ⟨-, rfl⟩ := Prod.mk.inj (Option.some.inj h)
      simp
    · obtain ⟨-, rfl⟩ := Prod.mk.inj (Option.some.inj h)
      have hdigits : (rest.take 2).takeWhile (fun d => (octalDigit? d).isSome) <+: rest :=
        (List.takeWhile_prefix _).trans (List.take_prefix 2 rest)
      rw [← List.prefix_iff_eq_take.mp hdigits]
      intro d hd
      have hdigit := List.mem_takeWhile_imp hd
      exact isOrdinary_of_octalDigit hdigit
    · obtain ⟨-, rfl⟩ := Prod.mk.inj (Option.some.inj h)
      simp

end LanguageShell.Text

import LanguageShell.FileTree
import Mathlib.Data.List.TakeWhile

/-!
Which paths can be resolved. The system is asked about every place on the way, so a path can be
resolved exactly if no name in it has a NUL or a surrogate that stands for no byte, and then the
system can be asked about the path as it is written too.
-/

namespace LanguageShell

open Text

def Text.CodePoint.FitsPath (point : CodePoint) : Prop :=
  point.IsEncodable ∧ point ≠ .char '\x00'

/-- Whether the text can be the path of a file, or a part of one. -/
def CodeText.IsPath (text : CodeText) : Prop :=
  ∀ point ∈ text.points, point.FitsPath

theorem Text.CodePoint.fitsPath_slash : CodePoint.FitsPath (.char '/') :=
  ⟨trivial, by decide⟩

theorem CodeText.isPath_dot : IsPath "." := by
  unfold IsPath CodePoint.FitsPath
  decide

theorem CodeText.isPath_dots : IsPath ".." := by
  unfold IsPath CodePoint.FitsPath
  decide

namespace FileTree

theorem refusal?_eq_none_iff {path : CodeText} : refusal? path = none ↔ path.IsPath := by
  unfold refusal? CodeText.unencodable?
  cases hrest : path.points.dropWhile (·.IsEncodable) with
  | cons first rest =>
      have hnot : ¬∀ point ∈ path.points, point.IsEncodable := by
        intro hall
        have hnil := List.dropWhile_eq_nil_iff.mpr fun point hmem => decide_eq_true (hall point hmem)
        rw [hrest] at hnil
        cases hnil
      simp only [reduceCtorEq, false_iff]
      exact fun hpath => hnot fun point hmem => (hpath point hmem).1
  | nil =>
      have hall := List.dropWhile_eq_nil_iff.mp hrest
      simp only [ite_eq_right_iff, reduceCtorEq, imp_false]
      constructor
      · intro hnul point hmem
        exact ⟨of_decide_eq_true (hall point hmem), fun heq => hnul (heq ▸ hmem)⟩
      · exact fun hpath hmem => (hpath _ hmem).2 rfl

theorem forall_mem_intercalate_iff {α : Type} {p : α → Prop} {separator : α} (h : p separator)
    {lists : List (List α)} :
    (∀ a ∈ [separator].intercalate lists, p a) ↔ ∀ list ∈ lists, ∀ a ∈ list, p a := by
  match lists with
  | [] => simp [List.intercalate]
  | [list] => simp [List.intercalate]
  | list :: next :: lists =>
      have ih : _ ↔ ∀ list ∈ next :: lists, ∀ a ∈ list, p a := forall_mem_intercalate_iff h
      rw [List.intercalate_cons_cons, List.forall_mem_append, List.forall_mem_append, ih,
        List.forall_mem_cons (l := next :: lists), List.forall_mem_singleton, and_iff_left h]

theorem isPath_spell {absolute : Bool} {names : List CodeText} :
    (spell absolute names).IsPath ↔ ∀ name ∈ names, name.IsPath := by
  unfold CodeText.IsPath spell
  rw [List.forall_mem_append, forall_mem_intercalate_iff CodePoint.fitsPath_slash,
    List.forall_mem_map]
  cases absolute with
  | false => simp
  | true => simp [CodePoint.fitsPath_slash]

theorem isPath_components {path : CodeText} :
    (∀ name ∈ components path, name.IsPath) ↔ path.IsPath := by
  have hjoined : _ ↔ ∀ piece ∈ path.points.splitOn (.char '/'), ∀ point ∈ piece, point.FitsPath :=
    forall_mem_intercalate_iff CodePoint.fitsPath_slash
  rw [List.intercalate_splitOn] at hjoined
  unfold components CodeText.IsPath
  rw [hjoined, List.forall_mem_map]
  simp only [List.mem_filter, decide_eq_true_eq]
  constructor
  · intro h piece hpiece point hmem
    exact h piece ⟨hpiece, List.ne_nil_of_mem hmem⟩ point hmem
  · exact fun h piece hpiece => h piece hpiece.1

theorem isPath_parent {absolute : Bool} {names : List CodeText}
    (h : ∀ name ∈ names, name.IsPath) : ∀ name ∈ parent absolute names, name.IsPath := by
  unfold parent
  split
  · exact List.forall_mem_append.mpr ⟨h, List.forall_mem_singleton.mpr CodeText.isPath_dots⟩
  · exact fun name hmem => h name (List.dropLast_subset names hmem)

theorem refusalAfter?_eq_none_iff {absolute : Bool} {before names : List CodeText}
    (h : ∀ name ∈ before, name.IsPath) :
    refusalAfter? absolute before names = none ↔ ∀ name ∈ names, name.IsPath := by
  induction names generalizing before with
  | nil => simp [refusalAfter?]
  | cons name names ih =>
      rw [List.forall_mem_cons, refusalAfter?]
      split
      · subst name
        rw [ih h, and_iff_right CodeText.isPath_dot]
      split
      · subst name
        rw [ih (isPath_parent h), and_iff_right CodeText.isPath_dots]
      · rw [Option.or_eq_none_iff, refusal?_eq_none_iff, isPath_spell]
        simp only [List.forall_mem_append, List.forall_mem_singleton]
        constructor
        · rintro ⟨⟨-, hname⟩, hrest⟩
          exact ⟨hname, (ih (List.forall_mem_append.mpr
            ⟨h, List.forall_mem_singleton.mpr hname⟩)).mp hrest⟩
        · rintro ⟨hname, hrest⟩
          exact ⟨⟨h, hname⟩, (ih (List.forall_mem_append.mpr
            ⟨h, List.forall_mem_singleton.mpr hname⟩)).mpr hrest⟩

/-- A path can be resolved exactly if it has no NUL and no surrogates but those that stand for
bytes. -/
theorem unresolvable?_eq_none_iff {path : CodeText} : unresolvable? path = none ↔ path.IsPath :=
  (refusalAfter?_eq_none_iff (List.forall_mem_nil _)).trans isPath_components

theorem not_isPath_of_unresolvable {path : CodeText} {fault : Fault}
    (h : unresolvable? path = some fault) : ¬path.IsPath := by
  rw [← unresolvable?_eq_none_iff, h]
  exact Option.some_ne_none fault

/-- A path that the system can be asked about is read, or there is a diagnostic. -/
theorem read_ne_fault (tree : FileTree) {path : CodeText} (h : path.IsPath) (fault : Fault) :
    tree.read path ≠ .error (.fault fault) := by
  intro hread
  unfold read at hread
  rw [refusal?_eq_none_iff.mpr h] at hread
  simp only at hread
  split at hread
  · cases hread
  · split at hread <;> cases hread

theorem isPath_of_read {tree : FileTree} {path : CodeText} {text : List Char}
    (h : tree.read path = .ok text) : path.IsPath := by
  rw [← refusal?_eq_none_iff]
  unfold read at h
  cases hrefusal : refusal? path with
  | none => rfl
  | some fault => simp [hrefusal] at h

end FileTree

end LanguageShell

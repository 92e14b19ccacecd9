import LanguageShell.Source.Text
import Mathlib.Data.List.Basic

/-!
Places in texts that are joined by a newline. Those of the first text are what they were, and those
of the second one come later: their offsets, and the offsets of their lines, by the length of the
first text and of the newline, and their lines by the lines before them.
-/

namespace LanguageShell

/-- The point so many characters and lines later. -/
def Location.shift (offset lines : Nat) (point : Location) : Location :=
  ⟨point.offset + offset, point.line + lines, point.lineStart + offset⟩

def Span.shift (offset lines : Nat) (span : Span) : Span where
  start := span.start.shift offset lines
  stop := span.stop.shift offset lines
  filename := span.filename
  start_le_stop := Int.add_le_add_right span.start_le_stop offset

def Place.shift (offset lines : Nat) : Place → Place
  | unknown => unknown
  | known span => known (span.shift offset lines)

theorem Span.eq_of_ends {first second : Span} (hstart : first.start = second.start)
    (hstop : first.stop = second.stop) (hname : first.filename = second.filename) :
    first = second := by
  cases first
  cases second
  simp_all

namespace Source

/-! ### The beginnings of lines -/

theorem lineStartsAfter_append (offset : Nat) (front back : List Char) :
    lineStartsAfter offset (front ++ back) =
      lineStartsAfter offset front ++ lineStartsAfter (offset + front.length) back := by
  induction front generalizing offset with
  | nil => rfl
  | cons c front ih =>
      rw [List.cons_append, lineStartsAfter, lineStartsAfter, ih, List.length_cons,
        Nat.add_right_comm, Nat.add_assoc offset]
      split <;> rfl

theorem lineStartsAfter_add (offset more : Nat) (text : List Char) :
    lineStartsAfter (offset + more) text = (lineStartsAfter offset text).map (· + more) := by
  induction text generalizing offset with
  | nil => rfl
  | cons c text ih =>
      have hnext := ih (offset + 1)
      rw [Nat.add_right_comm] at hnext
      rw [lineStartsAfter, lineStartsAfter, hnext]
      split
      · rw [List.map_cons, Nat.add_right_comm]
      · rfl

theorem length_lineStartsAfter (offset : Nat) (text : List Char) :
    (lineStartsAfter offset text).length = text.count '\n' := by
  induction text generalizing offset with
  | nil => rfl
  | cons c text ih =>
      rw [lineStartsAfter, List.count_cons]
      split <;> simp_all

theorem bounds_of_mem_lineStartsAfter {offset start : Nat} {text : List Char}
    (h : start ∈ lineStartsAfter offset text) : offset < start ∧ start ≤ offset + text.length := by
  induction text generalizing offset with
  | nil => cases h
  | cons c text ih =>
      have hcases : start = offset + 1 ∨ start ∈ lineStartsAfter (offset + 1) text := by
        rw [lineStartsAfter] at h
        split at h
        · exact List.mem_cons.mp h
        · exact .inr h
      rw [List.length_cons]
      obtain rfl | hmem := hcases
      · omega
      · have hbounds := ih hmem
        omega

/-! ### Points of joined texts -/

/-- Whether the source holds the texts of two others, one after the other on lines of its own. -/
structure Joins (whole first second : Source) : Prop where
  text : whole.text = first.text ++ '\n' :: second.text
  firstName : whole.filename = first.filename
  secondName : whole.filename = second.filename

namespace Joins

variable {whole first second : Source} (h : whole.Joins first second)
include h

theorem size : whole.size = first.size + 1 + second.size := by
  simp only [whole.size_eq, first.size_eq, second.size_eq, h.text, List.length_append,
    List.length_cons]
  omega

theorem lineStarts :
    whole.lineStarts = first.lineStarts ++ second.lineStarts.map (· + (first.size + 1)) := by
  have hsecond : lineStartsAfter (first.text.length + 1) second.text =
      (lineStartsAfter 0 second.text).map (· + (first.text.length + 1)) := by
    rw [← lineStartsAfter_add, Nat.zero_add]
  rw [whole.lineStarts_eq, first.lineStarts_eq, second.lineStarts_eq, h.text, first.size_eq,
    lineStartsAfter_append, Nat.zero_add, lineStartsAfter, if_pos rfl, hsecond]
  simp

theorem location_first {offset : Nat} (hoffset : offset ≤ first.size) :
    whole.location offset = first.location offset := by
  have hwhole : whole.clamp offset = offset := by
    simp only [clamp, h.size]
    omega
  have hfirst : first.clamp offset = offset := by
    simp only [clamp]
    omega
  have hlater : (second.lineStarts.map (· + (first.size + 1))).filter (· ≤ offset) = [] := by
    simp only [List.filter_eq_nil_iff, List.mem_map, decide_eq_true_eq]
    rintro _ ⟨start, -, rfl⟩
    omega
  simp only [location, hwhole, hfirst, h.lineStarts, List.filter_append, hlater, List.append_nil]

theorem location_second (offset : Nat) :
    whole.location (offset + (first.size + 1) : Nat) =
      (second.location offset).shift (first.size + 1) (first.text.count '\n' + 1) := by
  have hclamp : whole.clamp (offset + (first.size + 1) : Nat) =
      second.clamp offset + (first.size + 1) := by
    simp only [clamp, h.size]
    omega
  have hfirst : first.lineStarts.filter (· ≤ second.clamp offset + (first.size + 1)) =
      first.lineStarts := by
    refine List.filter_eq_self.mpr fun start hstart => decide_eq_true ?_
    rw [first.lineStarts_eq] at hstart
    obtain rfl | hmem := List.mem_cons.mp hstart
    · exact Nat.zero_le _
    · have hbounds := bounds_of_mem_lineStartsAfter hmem
      rw [Nat.zero_add, ← first.size_eq] at hbounds
      omega
  have hsecond : (second.lineStarts.map (· + (first.size + 1))).filter
      (· ≤ second.clamp offset + (first.size + 1)) =
        (second.lineStarts.filter (· ≤ second.clamp offset)).map (· + (first.size + 1)) := by
    rw [List.filter_map]
    congr 1
    exact List.filter_congr fun start _ => by simp
  -- Some line of the second text has begun at each of its points, the first one.
  obtain ⟨start, others, hbegun⟩ :
      ∃ start others, second.lineStarts.filter (· ≤ second.clamp offset) = start :: others := by
    rw [second.lineStarts_eq]
    exact ⟨0, _, List.filter_cons_of_pos (by simp)⟩
  have hlines : first.lineStarts.length = first.text.count '\n' + 1 := by
    rw [first.lineStarts_eq, List.length_cons, length_lineStartsAfter]
  simp only [location, hclamp, h.lineStarts, List.filter_append, hfirst, hsecond, hbegun,
    Location.shift, List.length_append, List.length_map, hlines, List.getLast?_append,
    List.getLast?_map]
  cases hlast : (start :: others).getLast? with
  | none => simp at hlast
  | some last =>
      simp only [Option.map_some, Option.some_or, Option.getD_some, Location.mk.injEq]
      omega

theorem slice_first {start length : Nat} (hlength : start + length ≤ first.size) :
    whole.slice start length = first.slice start length := by
  refine Span.eq_of_ends (h.location_first (by omega)) ?_ h.firstName
  exact_mod_cast h.location_first hlength

theorem slice_second (start length : Nat) :
    whole.slice (start + (first.size + 1) : Nat) length =
      (second.slice start length).shift (first.size + 1) (first.text.count '\n' + 1) := by
  refine Span.eq_of_ends (h.location_second start) ?_ h.secondName
  have hstop := h.location_second (start + length)
  rw [Nat.add_right_comm] at hstop
  exact_mod_cast hstop

end Joins

end Source

end LanguageShell

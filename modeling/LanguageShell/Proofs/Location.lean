import LanguageShell.Proofs.Joining
import Mathlib

/-!
Points of a text. The table of a source has the beginnings of all lines in order, so at every offset
it is divided into those that have begun and those that have not. What is looked up there is what a
scan of the text up to the offset finds: one line more than there are newlines, and the place after
the last one. So points come in the order of their offsets, and the columns of a span are as far
apart as it is long.
-/

namespace LanguageShell

namespace Source

/-- Whether the line on which the offset lies begins at the start: no newline comes in between. -/
structure IsLineStart (text : List Char) (offset start : Nat) : Prop where
  le : start ≤ offset
  begins : start = 0 ∨ text[start - 1]? = some '\n'
  newline_not_mem : '\n' ∉ (text.take offset).drop start

/-- Whether a point is what a scan of the text up to the offset finds. -/
structure IsFound (text : List Char) (offset : Nat) (point : Location) : Prop where
  offset_eq : point.offset = offset
  line_eq : point.line = 1 + (text.take offset).count '\n'
  lineStart : ∃ start : Nat, point.lineStart = start ∧ IsLineStart text offset start

/-! ### The beginnings of lines -/

namespace IsLineStart

variable {text : List Char} {first second firstStart secondStart : Nat}

theorem le_of_le (h : IsLineStart text first firstStart) (h' : IsLineStart text second secondStart)
    (hle : first ≤ second) : firstStart ≤ secondStart := by
  by_contra hlt
  have hfirst := h.le
  obtain hzero | hnewline := h.begins
  · omega
  · -- The newline before the first line would stand within the second one.
    apply h'.newline_not_mem
    apply List.mem_of_getElem? (i := firstStart - 1 - secondStart)
    have hindex : secondStart + (firstStart - 1 - secondStart) = firstStart - 1 := by omega
    rw [List.getElem?_drop, hindex, List.getElem?_take_of_lt (by omega), hnewline]

end IsLineStart

theorem count_take_le {first second : Nat} (h : first ≤ second) (text : List Char) :
    (text.take first).count '\n' ≤ (text.take second).count '\n' :=
  (List.take_prefix_take_left h).sublist.count_le _

theorem exists_lastLineStart (text : List Char) :
    ∃ start, (0 :: lineStartsAfter 0 text).getLast? = some start ∧
      IsLineStart text text.length start := by
  induction text using List.reverseRecOn with
  | nil => exact ⟨0, rfl, le_rfl, .inl rfl, by simp⟩
  | append_singleton front c ih =>
      obtain ⟨start, hlast, hle, hbegins, hfree⟩ := ih
      have htable : 0 :: lineStartsAfter 0 (front ++ [c]) =
          (0 :: lineStartsAfter 0 front) ++ lineStartsAfter front.length [c] := by
        rw [lineStartsAfter_append, Nat.zero_add]
        rfl
      rw [htable, List.length_append, List.length_singleton]
      by_cases hc : c = '\n'
      · refine ⟨front.length + 1, ?_, le_rfl, .inr ?_, ?_⟩
        · rw [lineStartsAfter, if_pos hc, lineStartsAfter, List.getLast?_concat]
        · simp [hc]
        · rw [List.drop_eq_nil_of_le (by simp)]
          exact List.not_mem_nil
      · refine ⟨start, ?_, by omega, ?_, ?_⟩
        · rw [lineStartsAfter, if_neg hc, lineStartsAfter, List.append_nil, hlast]
        · refine hbegins.imp_right fun hnewline => ?_
          rw [List.getElem?_append_left, hnewline]
          exact (List.getElem?_eq_some_iff.mp hnewline).1
        · rw [List.take_length] at hfree
          rw [List.take_of_length_le (by simp), List.drop_append_of_le_length hle]
          simp [hfree, Ne.symm hc]

variable {source : Source} {offset : Nat}

/-- The beginnings of lines at or before an offset are those in the text before it, and in the table
they come before all others. -/
theorem lineStarts_eq_append (h : offset ≤ source.size) :
    ∃ later, source.lineStarts = 0 :: lineStartsAfter 0 (source.text.take offset) ++ later ∧
      (∀ start ∈ 0 :: lineStartsAfter 0 (source.text.take offset), start ≤ offset) ∧
      ∀ start ∈ later, offset < start := by
  have hlength : (source.text.take offset).length = offset := by
    rw [List.length_take, ← source.size_eq, Nat.min_eq_left h]
  refine ⟨lineStartsAfter offset (source.text.drop offset), ?_, ?_, ?_⟩
  · have hsplit := lineStartsAfter_append 0 (source.text.take offset) (source.text.drop offset)
    rw [List.take_append_drop, Nat.zero_add, hlength] at hsplit
    rw [source.lineStarts_eq, hsplit, List.cons_append]
  · rintro start (_ | ⟨_, hstart⟩)
    · exact Nat.zero_le _
    · have hbounds := bounds_of_mem_lineStartsAfter hstart
      omega
  · intro start hstart
    exact (bounds_of_mem_lineStartsAfter hstart).1

theorem filter_lineStarts (h : offset ≤ source.size) :
    source.lineStarts.filter (· ≤ offset) =
      0 :: lineStartsAfter 0 (source.text.take offset) := by
  obtain ⟨later, htable, hbegun, hlater⟩ := lineStarts_eq_append h
  have hnone : later.filter (· ≤ offset) = [] :=
    List.filter_eq_nil_iff.mpr fun start hstart => by simpa using hlater start hstart
  rw [htable, List.filter_append, hnone, List.append_nil]
  exact List.filter_eq_self.mpr fun start hstart => decide_eq_true (hbegun start hstart)

/-! ### Points -/

theorem clamp_le_size (source : Source) (offset : Int) : source.clamp offset ≤ source.size :=
  Nat.min_le_right _ _

theorem clamp_mono (source : Source) {first second : Int} (h : first ≤ second) :
    source.clamp first ≤ source.clamp second := by
  unfold clamp
  omega

theorem clamp_eq (source : Source) (offset : Int) :
    (source.clamp offset : Int) = max 0 (min offset source.text.length) := by
  rw [clamp, source.size_eq]
  omega

theorem isFound_location (source : Source) (offset : Int) :
    IsFound source.text (source.clamp offset) (source.location offset) := by
  have hsize := source.clamp_le_size offset
  have hlength : (source.text.take (source.clamp offset)).length = source.clamp offset := by
    rw [List.length_take, ← source.size_eq, Nat.min_eq_left hsize]
  obtain ⟨start, hlast, hstart⟩ := exists_lastLineStart (source.text.take (source.clamp offset))
  rw [hlength] at hstart
  have hle := hstart.le
  refine ⟨offset_location source offset, ?_, start, ?_, hle, ?_, ?_⟩
  · simp only [location, filter_lineStarts hsize, List.length_cons, length_lineStartsAfter]
    omega
  · simp only [location, filter_lineStarts hsize, hlast, Option.getD_some]
  · obtain hzero | hnewline := hstart.begins
    · exact .inl hzero
    · by_cases hzero : start = 0
      · exact .inl hzero
      · rw [List.getElem?_take_of_lt (by omega)] at hnewline
        exact .inr hnewline
  · simpa [List.take_take] using hstart.newline_not_mem

theorem IsFound.le_of_le {text : List Char} {first second : Nat} {point other : Location}
    (h : IsFound text first point) (h' : IsFound text second other) (hle : first ≤ second) :
    point.offset ≤ other.offset ∧ point.line ≤ other.line ∧ point.lineStart ≤ other.lineStart := by
  obtain ⟨start, hstart, hline⟩ := h.lineStart
  obtain ⟨otherStart, hotherStart, hotherLine⟩ := h'.lineStart
  have hcount := count_take_le hle text
  have hstarts := hline.le_of_le hotherLine hle
  rw [h.offset_eq, h'.offset_eq, h.line_eq, h'.line_eq, hstart, hotherStart]
  omega

/-! ### Spans -/

theorem span_eq_ok_iff {start stop : Int} {span : Span} :
    source.span start stop = .ok span ↔
      span.start = source.location start ∧ span.stop = source.location stop ∧
        span.filename = source.filename := by
  unfold Source.span Span.between
  constructor
  · intro hspan
    split at hspan
    · obtain rfl := Except.ok.inj hspan
      exact ⟨rfl, rfl, rfl⟩
    · cases hspan
  · rintro ⟨hstart, hstop, hname⟩
    have hordered := span.start_le_stop
    rw [hstart, hstop] at hordered
    rw [dif_pos hordered]
    exact congrArg Except.ok (Span.eq_of_ends hstart.symm hstop.symm hname.symm)

theorem span_eq_error_iff {start stop : Int} {fault : Fault} :
    source.span start stop = .error fault ↔ source.clamp stop < source.clamp start ∧
      fault = .reversedSpan (source.clamp stop) (source.clamp start) := by
  have hordered : (source.location start).offset ≤ (source.location stop).offset ↔
      source.clamp start ≤ source.clamp stop := Int.ofNat_le
  unfold Source.span Span.between
  constructor
  · intro hspan
    split at hspan
    · cases hspan
    · rename_i hreversed
      exact ⟨not_le.mp (mt hordered.mpr hreversed), (Except.error.inj hspan).symm⟩
  · rintro ⟨hreversed, rfl⟩
    rw [dif_neg (mt hordered.mp (not_le.mpr hreversed))]
    rfl

/-- The columns that are told for a span are as far apart as the span is long. -/
theorem describe_span {start stop : Int} {span : Span} (h : source.span start stop = .ok span) :
    ∃ first last : Int, (Place.known span).describe =
        (if source.filename = "" then "" else s!"file \"{source.filename}\", ") ++
          s!"line {span.start.line}, characters {first}-{last}" ∧
      first = span.start.offset - span.start.lineStart ∧ 0 ≤ first ∧ first ≤ last ∧
      last - first =
        ((source.text.take (source.clamp stop)).drop (source.clamp start)).length := by
  obtain ⟨hstart, hstop, hname⟩ := span_eq_ok_iff.mp h
  have hordered := span.start_le_stop
  obtain ⟨lineStart, hlineStart, hline⟩ := (source.isFound_location start).lineStart
  have hle := hline.le
  have hsize := source.clamp_le_size stop
  refine ⟨span.start.offset - span.start.lineStart, span.stop.offset - span.start.lineStart, ?_,
    rfl, ?_, ?_, ?_⟩
  · rw [← hname, Place.describe]
    simp only [String.append_assoc]
    rfl
  · rw [hstart, hlineStart, offset_location]
    omega
  · omega
  · rw [hstart, hstop, offset_location, offset_location, List.length_drop, List.length_take,
      ← source.size_eq, Nat.min_eq_left hsize]
    rw [hstart, hstop, offset_location, offset_location] at hordered
    omega

end Source

open Source

/-- The point at any offset is what a scan of the text up to there finds, where an offset outside of
the text counts as its nearest end, and points come in the order of their offsets. Two offsets give
a span unless the second one lies before the first one in the text, and its columns are those
between which its characters stand, counted from the start of its first line. -/
theorem locations_are_found_by_scanning (source : Source) :
    (∀ offset : Int,
      (source.clamp offset : Int) = max 0 (min offset source.text.length) ∧
      IsFound source.text (source.clamp offset) (source.location offset)) ∧
    (∀ first second : Int, first ≤ second →
      (source.location first).offset ≤ (source.location second).offset ∧
      (source.location first).line ≤ (source.location second).line ∧
      (source.location first).lineStart ≤ (source.location second).lineStart) ∧
    (∀ (start stop : Int) (fault : Fault), source.span start stop = .error fault ↔
      source.clamp stop < source.clamp start ∧
        fault = .reversedSpan (source.clamp stop) (source.clamp start)) ∧
    ∀ start stop : Int, source.clamp start ≤ source.clamp stop →
      ∃ (span : Span) (first last : Int), source.span start stop = .ok span ∧
        span.start = source.location start ∧ span.stop = source.location stop ∧
        (Place.known span).describe =
          (if source.filename = "" then "" else s!"file \"{source.filename}\", ") ++
            s!"line {span.start.line}, characters {first}-{last}" ∧
        first = span.start.offset - span.start.lineStart ∧ 0 ≤ first ∧ first ≤ last ∧
        last - first =
          ((source.text.take (source.clamp stop)).drop (source.clamp start)).length := by
  refine ⟨fun offset => ⟨source.clamp_eq offset, source.isFound_location offset⟩, ?_,
    fun _ _ _ => span_eq_error_iff, ?_⟩
  · intro first second hle
    exact (source.isFound_location first).le_of_le (source.isFound_location second)
      (source.clamp_mono hle)
  · intro start stop hle
    have hordered : (source.location start).offset ≤ (source.location stop).offset :=
      Int.ofNat_le.mpr hle
    let span : Span := ⟨source.location start, source.location stop, source.filename, hordered⟩
    have hspan : source.span start stop = .ok span := span_eq_ok_iff.mpr ⟨rfl, rfl, rfl⟩
    obtain ⟨first, last, hdescribe⟩ := describe_span hspan
    exact ⟨span, first, last, hspan, rfl, rfl, hdescribe⟩

/-- A span that begins on an empty line and ends beyond the text. -/
theorem locations_around_empty_line :
    let source : Source := .ofString "a\n\nbc\n" "f"
    source.location (-5) = ⟨0, 1, 0⟩ ∧ source.location 3 = ⟨3, 3, 3⟩ ∧
      source.location 100 = ⟨6, 4, 6⟩ ∧
      (source.location 2).lineStart ≤ (source.location 100).lineStart ∧
      source.clamp 2 ≤ source.clamp 100 ∧
      ∃ span, source.span 2 100 = .ok span ∧
        (Place.known span).describe = "file \"f\", line 2, characters 0-4" := by
  intro source
  obtain ⟨-, hordered, -, hspan⟩ := locations_are_found_by_scanning source
  have hle : source.clamp 2 ≤ source.clamp 100 := by decide
  obtain ⟨span, first, last, hok, hstart, hstop, hdescribe, hfirst, -, -, hlength⟩ :=
    hspan 2 100 hle
  refine ⟨by decide, by decide, by decide, (hordered 2 100 (by decide)).2.2, hle, span, hok, ?_⟩
  have hpoint : span.start = ⟨2, 2, 2⟩ := hstart.trans (by decide)
  have hspanned : ((source.text.take (source.clamp 100)).drop (source.clamp 2)).length = 4 := by
    decide
  obtain rfl : first = 0 := by
    rw [hfirst, hpoint]
    rfl
  obtain rfl : last = 4 := by
    rw [hspanned] at hlength
    omega
  rw [hdescribe, hpoint]
  decide

end LanguageShell

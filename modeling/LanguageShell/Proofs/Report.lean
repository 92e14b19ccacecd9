import LanguageShell.Proofs.Trace

/-!
Reports. Where a template asks for a text it is put in as it is, so that a report fails for no text.
A diagnostic is reported as it is worded, under the heading of its kind.
-/

namespace LanguageShell

namespace Template

theorem pieces_cons {c : Char} (h : c ≠ '%') (index : Nat) (text : List Char) :
    pieces index (c :: text) = .literal c :: pieces (index + 1) text := by
  rw [pieces]
  all_goals simp [h]

theorem pieces_of_plain {text : List Char} (h : '%' ∉ text) (index : Nat) :
    pieces index text = text.map .literal := by
  induction text generalizing index with
  | nil => rw [pieces, List.map_nil]
  | cons c text ih =>
      simp only [List.mem_cons, not_or] at h
      rw [pieces_cons (Ne.symm h.1), ih h.2, List.map_cons]

theorem pieces_of_text {before after : List Char} (hbefore : '%' ∉ before) (hafter : '%' ∉ after)
    (index : Nat) :
    ∃ place, pieces index (before ++ '%' :: 's' :: after) =
      before.map .literal ++
        .conversion ⟨[], .unset, .unset, some 's', place⟩ :: after.map .literal := by
  induction before generalizing index with
  | nil =>
      have hread : Conversion.read (index + 1) ('s' :: after) =
          (⟨[], .unset, .unset, some 's', index + 1⟩, 1) := rfl
      refine ⟨index + 1, ?_⟩
      rw [List.nil_append, pieces, hread]
      · simp [pieces_of_plain hafter]
      all_goals simp
  | cons c before ih =>
      simp only [List.mem_cons, not_or] at hbefore
      obtain ⟨place, hpieces⟩ := ih hbefore.2 (index + 1)
      exact ⟨place, by rw [List.cons_append, pieces_cons (Ne.symm hbefore.1), hpieces]; rfl⟩

theorem run_literals (text : List Char) (arguments : List Datum) :
    ((text.map Piece.literal).mapM Piece.fill).run arguments =
      .ok (text.map String.singleton, arguments) := by
  induction text with
  | nil => rfl
  | cons c text ih =>
      rw [List.map_cons, List.mapM_cons, StateT.run_bind]
      show ((text.map Piece.literal).mapM Piece.fill >>= fun rest =>
        pure (String.singleton c :: rest)).run arguments = _
      rw [StateT.run_bind, ih]
      rfl

theorem fill_conversion (text : String) (place : Nat) :
    (Conversion.fill ⟨[], .unset, .unset, some 's', place⟩).run [.text text] = .ok (text, []) := by
  have hpadding : "".pushn ' ' 0 = "" := rfl
  have hplace : Field.place {} (.text text) = text := by
    simp [Field.place, Field.place.pad, hpadding]
  show (if maxTextWidth < 0 then throw .outOfMemory
    else pure (Field.place {} (.text text)) : FillM String).run [] = _
  rw [if_neg (Nat.not_lt_zero _), hplace]
  rfl

theorem join_singletons (text : List Char) :
    String.join (text.map String.singleton) = String.ofList text := by
  induction text with
  | nil => rfl
  | cons c text ih =>
      rw [List.map_cons, String.join_cons, ih]
      apply String.toList_inj.mp
      simp

/-- A text is put as it is where a template asks for it. -/
theorem fill_within {before after : List Char} (hbefore : '%' ∉ before) (hafter : '%' ∉ after)
    (text : String) : fill (String.ofList (before ++ '%' :: 's' :: after)) [.text text] =
      .ok (String.ofList before ++ text ++ String.ofList after) := by
  obtain ⟨place, hpieces⟩ := pieces_of_text hbefore hafter 0
  have hfill : ((before.map Piece.literal ++
      .conversion ⟨[], .unset, .unset, some 's', place⟩ :: after.map Piece.literal).mapM
        Piece.fill).run [.text text] =
      .ok (before.map String.singleton ++ text :: after.map String.singleton, []) := by
    rw [List.mapM_append, StateT.run_bind, run_literals]
    show (_ >>= fun rest => pure (before.map String.singleton ++ rest) : FillM _).run _ = _
    rw [StateT.run_bind, List.mapM_cons, StateT.run_bind, Piece.fill, fill_conversion]
    show ((after.map Piece.literal).mapM Piece.fill >>= fun rest => pure (text :: rest)).run _ >>=
      _ = _
    rw [StateT.run_bind, run_literals]
    rfl
  rw [fill, if_neg (by simp), String.toList_ofList, hpieces, hfill]
  simp [String.join_append, String.join_cons, join_singletons, String.append_assoc]

theorem fill_text (text : String) : fill "%s" [.text text] = .ok text := by
  simpa using fill_within List.not_mem_nil List.not_mem_nil text

end Template

namespace Reporter

theorem report_of_fill {template : String} {arguments : List Datum} {body : String}
    (h : Template.fill template arguments = .ok body) (reporter : Reporter) (label : String)
    (severity : Int) (place : Option Place) :
    reporter.report label severity template arguments place =
      if reporter.Shows severity then
        Trace.emit (.reported severity (Report.render label place body))
      else pure () := by
  rw [report, message, h]
  split <;> rfl

theorem errorsOf_report {reporter : Reporter} {severity : Int} (h : reporter.Shows severity)
    {template : String} {arguments : List Datum} {body : String}
    (hfill : Template.fill template arguments = .ok body) (label : String) (place : Option Place) :
    errorsOf (reporter.report label severity template arguments place).events =
      Report.render label place body := by
  rw [report_of_fill hfill, if_pos h]
  simp [Trace.emit, errorsOf, Event.errors, String.join]

theorem report_within {before after : List Char} (hbefore : '%' ∉ before) (hafter : '%' ∉ after)
    (reporter : Reporter) (label : String) (severity : Int) (text : String)
    (place : Option Place) :
    reporter.report label severity (String.ofList (before ++ '%' :: 's' :: after)) [.text text]
        place =
      if reporter.Shows severity then
        Trace.emit (.reported severity
          (Report.render label place (String.ofList before ++ text ++ String.ofList after)))
      else pure () :=
  report_of_fill (Template.fill_within hbefore hafter text) reporter label severity place

theorem outcome_report_within {before after : List Char} (hbefore : '%' ∉ before)
    (hafter : '%' ∉ after) (reporter : Reporter) (label : String) (severity : Int) (text : String)
    (place : Option Place) :
    (reporter.report label severity (String.ofList (before ++ '%' :: 's' :: after)) [.text text]
      place).outcome = .ok () := by
  rw [report_within hbefore hafter]
  split <;> rfl

theorem diagnostic_eq (reporter : Reporter) (diagnostic : Diagnostic) :
    reporter.diagnostic diagnostic =
      if reporter.Shows 1 then
        Trace.emit (.reported 1
          (Report.render diagnostic.kind.label (some diagnostic.place) diagnostic.message))
      else pure () :=
  report_of_fill (Template.fill_text diagnostic.message) reporter _ 1 _

/-- A diagnostic is written to the error stream if errors are. -/
theorem errorsOf_diagnostic_ne {reporter : Reporter} (h : reporter.Shows 1)
    (diagnostic : Diagnostic) : errorsOf (reporter.diagnostic diagnostic).events ≠ "" := by
  rw [Reporter.diagnostic, errorsOf_report h (Template.fill_text diagnostic.message)]
  intro hempty
  have hlength := congrArg String.length hempty
  simp [Report.render] at hlength

/-- What is written about a failure: a diagnostic is reported, and an interruption is noted. -/
def told (reporter : Reporter) : Failure → List Event
  | .diagnostic diagnostic =>
    if reporter.Shows 1 then
      [.reported 1
        (Report.render diagnostic.kind.label (some diagnostic.place) diagnostic.message)]
    else []
  | .interrupted => [.interrupted]
  | .fault _ => []

theorem diagnostic_eq_told (reporter : Reporter) (diagnostic : Diagnostic) :
    reporter.diagnostic diagnostic = ⟨reporter.told (.diagnostic diagnostic), .ok ()⟩ := by
  rw [diagnostic_eq, told]
  split <;> rfl

end Reporter

end LanguageShell

import LanguageShell.Proofs.Report

/-!
The indentation of reports. Two spaces before each line of a text neither join lines nor divide
them, whatever ends the lines, so the text comes back when they are taken away. A report therefore
tells its body exactly, and two bodies are never reported alike.
-/

namespace LanguageShell

namespace Text

/-- What stands at the end of a line: a character that ends it, or a carriage return and a newline
together. -/
inductive IsEnding : List Char → Prop
  | single {c : Char} (isEnd : isLineEnd c = true) : IsEnding [c]
  | pair : IsEnding ['\r', '\n']

/-- Whether a text consists of the lines. The last one need not be ended, but then it is not empty;
a carriage return ends a line only if no newline follows. -/
inductive Lined : List Char → List (List Char) → Prop
  | nil : Lined [] []
  | last {content : List Char} (nonempty : content ≠ [])
      (free : ∀ c ∈ content, isLineEnd c = false) : Lined content [content]
  | line {content ending rest : List Char} {others : List (List Char)}
      (free : ∀ c ∈ content, isLineEnd c = false) (isEnding : IsEnding ending)
      (whole : ending = ['\r'] → rest.head? ≠ some '\n') (lined : Lined rest others) :
      Lined (content ++ (ending ++ rest)) ((content ++ ending) :: others)

/-! ### The lines of a text -/

theorem lines_cons_of_ending {ending rest : List Char} (h : IsEnding ending)
    (hwhole : ending = ['\r'] → rest.head? ≠ some '\n') :
    lines (ending ++ rest) = ending :: lines rest := by
  cases h with
  | pair => rw [List.cons_append, List.cons_append, List.nil_append, lines]
  | single isEnd =>
      rw [List.cons_append, List.nil_append, lines.eq_3 _ _ ?_, if_pos isEnd]
      rintro others rfl rfl
      exact hwhole rfl rfl

theorem lines_cons_of_free {c : Char} (h : isLineEnd c = false) (rest : List Char) :
    lines (c :: rest) = match lines rest with
      | [] => [[c]]
      | line :: others => (c :: line) :: others := by
  have hend : ¬isLineEnd c = true := by simp [h]
  have hpair : ∀ others, c = '\r' → rest = '\n' :: others → False := by
    rintro _ rfl -
    exact hend (by decide)
  exact (lines.eq_3 c rest hpair).trans (if_neg hend)

theorem lined_lines (text : List Char) : Lined text (lines text) := by
  induction text using lines.induct with
  | case1 => exact .nil
  | case2 rest ih =>
      rw [lines]
      have hnone : ∀ d ∈ ([] : List Char), isLineEnd d = false := nofun
      exact .line hnone .pair (by simp) ih
  | case3 c rest hpair hend ih =>
      rw [lines.eq_3 c rest hpair, if_pos hend]
      have hnone : ∀ d ∈ ([] : List Char), isLineEnd d = false := nofun
      refine .line hnone (.single hend) ?_ ih
      intro hreturn hnewline
      obtain ⟨others, rfl⟩ := List.head?_eq_some_iff.mp hnewline
      exact hpair others (List.singleton_inj.mp hreturn) rfl
  | case4 c rest _ hend hnone ih =>
      have hfree : isLineEnd c = false := by simpa using hend
      rw [lines_cons_of_free hfree, hnone]
      rw [hnone] at ih
      cases ih
      exact .last (by simp) (by simpa using hfree)
  | case5 c rest _ hend first others hlines ih =>
      have hfree : isLineEnd c = false := by simpa using hend
      rw [lines_cons_of_free hfree, hlines]
      rw [hlines] at ih
      cases ih with
      | last nonempty free => exact .last (by simp) (List.forall_mem_cons.mpr ⟨hfree, free⟩)
      | line free isEnding whole lined =>
          exact .line (List.forall_mem_cons.mpr ⟨hfree, free⟩) isEnding whole lined

theorem Lined.lines_eq {text : List Char} {others : List (List Char)} (h : Lined text others) :
    lines text = others := by
  induction h with
  | nil => rfl
  | @last content nonempty free =>
      induction content with
      | nil => exact absurd rfl nonempty
      | cons c content ih =>
          obtain ⟨hc, hcontent⟩ := List.forall_mem_cons.mp free
          rw [lines_cons_of_free hc]
          by_cases hempty : content = []
          · subst hempty
            rfl
          · rw [ih hempty hcontent]
  | @line content ending rest others free isEnding whole _ ih =>
      induction content with
      | nil => rw [List.nil_append, lines_cons_of_ending isEnding whole, ih, List.nil_append]
      | cons c content ihcontent =>
          obtain ⟨hc, hcontent⟩ := List.forall_mem_cons.mp free
          rw [List.cons_append, lines_cons_of_free hc, ihcontent hcontent]
          rfl

theorem Lined.flatten_eq {text : List Char} {others : List (List Char)} (h : Lined text others) :
    others.flatten = text := by
  induction h with
  | nil => rfl
  | last => simp
  | line _ _ _ _ ih => rw [List.flatten_cons, ih, List.append_assoc]

/-! ### Indentation -/

def indentLine (line : List Char) : List Char :=
  [' ', ' '] ++ line

def unindent (text : List Char) : List Char :=
  (lines text).flatMap (·.drop 2)

/-- Spaces before the lines leave their ends as they are: where a carriage return ends a line, a
space follows it and not a newline. -/
theorem Lined.indented {text : List Char} {others : List (List Char)} (h : Lined text others) :
    Lined (others.flatMap indentLine) (others.map indentLine) := by
  have hspaces : ∀ content : List Char, (∀ c ∈ content, isLineEnd c = false) →
      ∀ c ∈ indentLine content, isLineEnd c = false := by
    intro content free c hc
    obtain rfl | rfl | hmem : c = ' ' ∨ c = ' ' ∨ c ∈ content := by
      simpa [indentLine, or_assoc] using hc
    · decide
    · decide
    · exact free c hmem
  induction h with
  | nil => exact .nil
  | @last content nonempty free =>
      have hlined : Lined (indentLine content) [indentLine content] :=
        .last (by simp [indentLine]) (hspaces content free)
      simpa using hlined
  | @line content ending rest others free isEnding _ _ ih =>
      have hhead : (others.flatMap indentLine).head? ≠ some '\n' := by
        cases others <;> simp [indentLine]
      have hlined := Lined.line (hspaces content free) isEnding (fun _ => hhead) ih
      simpa [indentLine] using hlined

theorem lines_indent (text : List Char) :
    lines (indent text) = (lines text).map indentLine :=
  (lined_lines text).indented.lines_eq

theorem unindent_indent (text : List Char) : unindent (indent text) = text := by
  have hdrop : ∀ line : List Char, (indentLine line).drop 2 = line := fun _ => rfl
  rw [unindent, lines_indent, List.flatMap_map]
  simp only [hdrop, List.flatMap_id', (lined_lines text).flatten_eq]

end Text

open Text

/-! ### Reports -/

namespace Report

def heading (label : String) (place : Option Place) : String :=
  (match place with
    | none => label
    | some place => s!"{label} at {place.describe}") ++ ":"

def block (body : String) : List Char :=
  indent body.toList ++ ['\n']

/-- The body for which a block stands: the newline at the end is left out, and so are two characters
of each line. -/
def bodyOf (block : List Char) : String :=
  String.ofList (unindent block.dropLast)

theorem render_eq (label : String) (place : Option Place) (body : String) :
    render label place body = heading label place ++ "\n" ++ String.ofList (block body) := by
  apply String.toList_inj.mp
  cases place <;> simp [render, heading, block]

theorem bodyOf_block (body : String) : bodyOf (block body) = body := by
  rw [bodyOf, block, List.dropLast_concat, unindent_indent, String.ofList_toList]

theorem takeWhile_append_newline {line : List Char} (h : '\n' ∉ line) (rest : List Char) :
    (line ++ '\n' :: rest).takeWhile (· ≠ '\n') = line := by
  have hne : ∀ c ∈ line, decide (c ≠ '\n') = true :=
    fun c hc => decide_eq_true fun heq => h (heq ▸ hc)
  rw [List.takeWhile_append_of_pos hne]
  simp

/-- Below the same heading, or if the headings are of one line, reports that look alike have the
same body. -/
theorem body_eq_of_render_eq {label other : String} {place otherPlace : Option Place}
    {first second : String}
    (hheading : heading label place = heading other otherPlace ∨
      '\n' ∉ (heading label place).toList ∧ '\n' ∉ (heading other otherPlace).toList)
    (h : render label place first = render other otherPlace second) :
    heading label place = heading other otherPlace ∧ first = second := by
  have hchars : (heading label place).toList ++ '\n' :: block first =
      (heading other otherPlace).toList ++ '\n' :: block second := by
    have htext := congrArg String.toList h
    simpa [render_eq] using htext
  have hsame : heading label place = heading other otherPlace := by
    obtain hsame | ⟨hfree, hfree'⟩ := hheading
    · exact hsame
    · have hline := congrArg (List.takeWhile (· ≠ '\n')) hchars
      rw [takeWhile_append_newline hfree, takeWhile_append_newline hfree'] at hline
      exact String.toList_inj.mp hline
  refine ⟨hsame, ?_⟩
  rw [hsame] at hchars
  have hblock : block first = block second :=
    (List.cons.inj (List.append_cancel_left hchars)).2
  rw [← bodyOf_block first, hblock, bodyOf_block]

end Report

/-- A report is its heading and, below it, a block from which the body is recovered: it ends with a
newline, and before that every line of it is a line of the body after two spaces. So two bodies are
not reported alike. If there is no body since the template cannot be filled, nothing is written. -/
theorem reported_body_is_recovered {reporter : Reporter} {severity : Int}
    (h : reporter.Shows severity) (label : String) (place : Option Place) (template : String)
    (arguments : List Datum) :
    let report := reporter.report label severity template arguments place
    (∀ body, Template.fill template arguments = .ok body → ∃ block : List Char,
      report = ⟨[.reported severity
        (Report.heading label place ++ "\n" ++ String.ofList block)], .ok ()⟩ ∧
      block.getLast? = some '\n' ∧ Report.bodyOf block = body ∧
      Text.lines block.dropLast = (Text.lines body.toList).map indentLine ∧
      ∀ (otherLabel : String) (otherPlace : Option Place) (otherTemplate : String)
        (others : List Datum) (other : String), Template.fill otherTemplate others = .ok other →
        Report.heading label place = Report.heading otherLabel otherPlace ∨
          '\n' ∉ (Report.heading label place).toList ∧
          '\n' ∉ (Report.heading otherLabel otherPlace).toList →
        errorsOf report.events =
          errorsOf (reporter.report otherLabel severity otherTemplate others otherPlace).events →
        body = other) ∧
    ∀ fault, Template.fill template arguments = .error fault →
      report = ⟨[], .error (.fault fault)⟩ := by
  intro report
  refine ⟨fun body hfill => ⟨Report.block body, ?_, ?_, Report.bodyOf_block body, ?_, ?_⟩, ?_⟩
  · rw [← Report.render_eq]
    exact (Reporter.report_of_fill hfill reporter label severity place).trans (if_pos h)
  · rw [Report.block, List.getLast?_concat]
  · rw [Report.block, List.dropLast_concat, lines_indent]
  · intro otherLabel otherPlace otherTemplate others other hother hheading hsame
    rw [Reporter.errorsOf_report h hfill, Reporter.errorsOf_report h hother] at hsame
    exact (Report.body_eq_of_render_eq hheading hsame).2
  · intro fault hfill
    show reporter.report label severity template arguments place = _
    rw [Reporter.report, Reporter.message, if_pos h, hfill]
    rfl

/-- A body of three lines with three kinds of ends, of which the second one is empty. -/
theorem body_of_three_lines_is_recovered :
    let reporter : Reporter := {}
    let body := "one\r\n\x0btwo\r"
    reporter.Shows 2 ∧ Template.fill "%s" [.text body] = .ok body ∧
      ∃ block : List Char, reporter.report "Warning" 2 "%s" [.text body] none =
          ⟨[.reported 2 ("Warning:\n" ++ String.ofList block)], .ok ()⟩ ∧
        block = "  one\r\n  \x0b  two\r\n".toList ∧ Report.bodyOf block = body := by
  intro reporter body
  have hshows : reporter.Shows 2 := by decide
  have hfill := Template.fill_text body
  obtain ⟨hbody, -⟩ := reported_body_is_recovered hshows "Warning" none "%s" [.text body]
  obtain ⟨block, hreport, hlast, hrecovered, hlines, -⟩ := hbody body hfill
  refine ⟨hshows, hfill, block, hreport, ?_, hrecovered⟩
  have hfront : block.dropLast = ((Text.lines body.toList).map indentLine).flatten := by
    rw [← hlines, (lined_lines _).flatten_eq]
  rw [← List.dropLast_append_getLast? _ hlast, hfront]
  decide

end LanguageShell

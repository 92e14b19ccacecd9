import LanguageShell.Proofs.Calculator.Noninterference
import LanguageShell.Proofs.Calculator.Spans
import LanguageShell.Proofs.Conversation

/-!
Names without a binding. The check that comes before an evaluation fails at the leftmost of them,
and in a text this is the one that begins first. Where the check passes, every name that is looked
up is bound; where it fails there is no value, whatever else is wrong with the expression, and a
command that needs the value is refused before it does anything.
-/

namespace LanguageShell.Calculator

namespace Term

variable {φ α β : Type}

/-- The names in an expression, each time that they occur, from left to right. -/
def occurrences : Term φ α → List (String × α)
  | num .. | foreign .. => []
  | var name note => [(name, note)]
  | neg operand _ => operand.occurrences
  | bin _ left right _ => left.occurrences ++ right.occurrences

theorem occurrences_map (f : α → β) (e : Term φ α) :
    (e.map f).occurrences = e.occurrences.map (Prod.map id f) := by
  induction e with
  | num | var | foreign => rfl
  | neg _ _ ih => exact ih
  | bin _ _ _ _ ihl ihr => simp only [map, occurrences, ihl, ihr, List.map_append]

def firstUnbound (env : Env) (e : Term φ α) : Option (String × α) :=
  e.occurrences.find? fun occurrence => (env.find? occurrence.1).isNone

theorem firstUnbound_bin (env : Env) (op : Operator) (left right : Term φ α) (note : α) :
    (bin op left right note).firstUnbound env =
      (left.firstUnbound env).or (right.firstUnbound env) :=
  List.find?_append

def unboundFailure (occurrence : String × Place) : Failure :=
  .diagnostic ⟨.typing, s!"unknown variable {occurrence.1}", occurrence.2⟩

/-- The check of an expression fails at its leftmost unbound name. -/
theorem check_eq (env : Env) (e : Term φ Place) :
    e.check env =
      match e.firstUnbound env with
      | none => .ok ()
      | some occurrence => .error (unboundFailure occurrence) := by
  induction e with
  | num | foreign => rfl
  | var name place =>
      rw [check, firstUnbound, occurrences, List.find?_singleton]
      cases env.find? name <;> rfl
  | neg _ _ ih => exact ih
  | bin op left right _ ihl ihr =>
      rw [check, firstUnbound_bin, ihl]
      cases left.firstUnbound env with
      | some occurrence => rfl
      | none => exact ihr

theorem check_eq_error_iff {env : Env} {e : Term φ Place} {failure : Failure} :
    e.check env = .error failure ↔
      ∃ occurrence, e.firstUnbound env = some occurrence ∧ failure = unboundFailure occurrence := by
  rw [check_eq]
  cases e.firstUnbound env <;> simp [eq_comm]

theorem exists_firstUnbound_iff {env : Env} {e : Term φ α} :
    (∃ occurrence, e.firstUnbound env = some occurrence) ↔
      ∃ occurrence ∈ e.occurrences, env.find? occurrence.1 = none := by
  rw [← Option.isSome_iff_exists, firstUnbound, List.find?_isSome]
  simp only [Option.isNone_iff_eq_none]

theorem check_of_evaluate {env : Env} {e : Term φ Place} {value : Value}
    (h : e.evaluate env = .ok value) : e.check env = .ok () := by
  induction e generalizing value with
  | num | foreign => rfl
  | var name _ =>
      rw [evaluate] at h
      rw [check]
      cases hfind : env.find? name with
      | none =>
          rw [hfind] at h
          cases h
      | some bound => rfl
  | neg _ _ ih =>
      obtain ⟨v, hv, -⟩ := bind_eq_ok.mp h
      exact ih hv
  | bin _ left right _ ihl ihr =>
      obtain ⟨x, hx, hrest⟩ := bind_eq_ok.mp h
      obtain ⟨y, hy, -⟩ := bind_eq_ok.mp hrest
      rw [check, ihl hx]
      exact ihr hy

end Term

open Term

/-! ### Commands -/

theorem execute_of_firstUnbound {env : Env} {e : Expr} {occurrence : String × Place}
    (h : e.firstUnbound env = some occurrence) {command : Command Place}
    (hcommand : command.isComputation = true) (he : command.expr? = some e) (setup : Setup)
    (use : Env → FileEntry → Trace Env) (interactive : Bool) :
    execute setup use interactive env command = .fail (unboundFailure occurrence) := by
  have hcheck : e.check env = .error (unboundFailure occurrence) :=
    check_eq_error_iff.mpr ⟨occurrence, h, rfl⟩
  have hcompute : compute setup env e = .fail (unboundFailure occurrence) := by
    rw [compute, hcheck]
    rfl
  cases command with
  | define name other place =>
      obtain rfl := Option.some.inj he
      rw [execute, hcompute]
      rfl
  | eval other place =>
      obtain rfl := Option.some.inj he
      rw [execute, hcompute]
      rfl
  | display | load | listing | help => cases hcommand

/-! ### Names of a text -/

def Lexeme.name? (lexeme : Lexeme) : Option (String × Extent) :=
  match lexeme.token with
  | .name text => some (String.ofList text, lexeme.extent)
  | _ => none

theorem Phrase.occurrences_operand {layer : Layer} (phrase : Phrase Extent layer) :
    phrase.operand.tree.occurrences = (lexemesOf phrase.yield).filterMap Lexeme.name? := by
  induction phrase with
  | number | name => rfl
  | parens opening inner closing ih =>
      rw [yield, List.cons_append, lexemesOf_cons, lexemesOf_append, List.filterMap_cons,
        List.filterMap_append, ← ih]
      exact (List.append_nil _).symm
  | ofAtom _ ih | ofUnary _ ih | ofProduct _ ih => exact ih
  | neg _ _ ih => exact ih
  | product left sign mark right ihl ihr | sum left sign mark right ihl ihr =>
      rw [yield, lexemesOf_append, lexemesOf_cons, List.filterMap_append, List.filterMap_cons,
        ← ihl, ← ihr]
      cases sign <;> rfl

theorem Bare.occurrences_eq {tree : Tree} (bare : Bare tree) :
    tree.occurrences = bare.lexemes.filterMap Lexeme.name? := by
  obtain ⟨layer, phrase, hbare, rfl⟩ := bare
  exact phrase.occurrences_operand

theorem Word.text_of_name {word : Word} {text : List Char} (h : word.token? = some (.name text)) :
    word.text = text := by
  obtain ⟨pattern, chars⟩ := word
  cases pattern <;> simp [token?, piece, Pattern.piece] at h
  exact h

theorem Splits.extract_name {text : List Char} {words : List Word} (h : Splits text words)
    {lexeme : Lexeme} (hmem : lexeme ∈ Word.lexemes words) {name : String} {extent : Extent}
    (hname : lexeme.name? = some (name, extent)) :
    extent = lexeme.extent ∧ text.extract extent.start extent.stop = name.toList := by
  obtain ⟨front, back, hlexemes⟩ := List.append_of_mem hmem
  obtain ⟨before, word, after, rfl, -, htoken, hextent⟩ := exists_word_of_lexemesFrom hlexemes
  have htext : textOf before ++ (word.text ++ textOf after) = text := by
    rw [← h.textOf_eq, textOf_append, textOf_cons]
  unfold Lexeme.name? at hname
  split at hname
  · rename_i chars hchars
    cases hname
    rw [hchars] at htoken
    refine ⟨rfl, ?_⟩
    rw [hextent, ← htext, Word.text_of_name htoken, List.extract_eq_take_drop]
    simp
  · cases hname

namespace Analysis

variable {entry : Entry} {source : Source}

theorem locates_name (analysis : Analysis entry source.text) {lexeme : Lexeme}
    (hmem : lexeme ∈ Word.lexemes analysis.words) {name : String} {extent : Extent}
    (hname : lexeme.name? = some (name, extent)) :
    extent.Locates (extent.place source) ∧ extent.excerpt source = name := by
  obtain ⟨rfl, hextract⟩ := analysis.splits.extract_name hmem hname
  obtain ⟨front, back, hlexemes⟩ := List.append_of_mem hmem
  have hstretch : Word.lexemes analysis.words = front ++ ([lexeme] ++ back) := hlexemes
  constructor
  · exact analysis.locates_stretch hstretch ⟨rfl, rfl⟩
  · rw [Extent.excerpt, hextract, String.ofList_toList]

/-- The names of an expression stand in the text where they are said to be, and in that order. -/
theorem occurrences_stand (analysis : Analysis entry source.text) {command : Command Place}
    (hcommand : command ∈ analysis.commands) {e part : Expr} (he : command.expr? = some e)
    (hwithin : Term.Within part e) :
    (∀ occurrence ∈ part.occurrences, ∃ extent : Extent,
      extent.Locates occurrence.2 ∧ extent.excerpt source = occurrence.1) ∧
    part.occurrences.Pairwise fun first second => ∀ extent next : Extent,
      extent.Locates first.2 → next.Locates second.2 → extent.start < next.start := by
  obtain ⟨node, bare, front, back, rfl, hstretch⟩ := analysis.exists_bare hcommand he hwithin
  have hsubset : ∀ lexeme ∈ bare.lexemes, lexeme ∈ Word.lexemes analysis.words := by
    intro lexeme hmem
    simp [hstretch, hmem]
  have horder : InOrder bare.lexemes := by
    have hall := analysis.inOrder
    rw [hstretch] at hall
    exact hall.right.left
  rw [occurrences_map, bare.occurrences_eq]
  constructor
  · intro occurrence hmem
    obtain ⟨⟨name, extent⟩, hname, rfl⟩ := List.mem_map.mp hmem
    obtain ⟨lexeme, hlexeme, hname⟩ := List.mem_filterMap.mp hname
    exact ⟨extent, analysis.locates_name (hsubset lexeme hlexeme) hname⟩
  · rw [List.pairwise_map, List.pairwise_filterMap]
    refine horder.apart.imp_of_mem fun {a b} ha hb hapart => ?_
    rintro ⟨name, extent⟩ hname ⟨other, next⟩ hother first second hfirst hsecond
    obtain ⟨hlocates, -⟩ := analysis.locates_name (hsubset a ha) hname
    obtain ⟨hlocates', -⟩ := analysis.locates_name (hsubset b hb) hother
    obtain rfl := hfirst.unique hlocates
    obtain rfl := hsecond.unique hlocates'
    obtain ⟨rfl, -⟩ := analysis.splits.extract_name (hsubset a ha) hname
    obtain ⟨rfl, -⟩ := analysis.splits.extract_name (hsubset b hb) hother
    exact (horder.solid a ha).trans_le hapart

end Analysis

def Term.StandsIn (source : Source) (e : Expr) : Prop :=
  ∃ (entry : Entry) (commands : List (Command Place)) (command : Command Place) (whole : Expr),
    entry.read source = .ok commands ∧ command ∈ commands ∧ command.expr? = some whole ∧
    Within e whole

/-- In a text the leftmost unbound name is the one that begins first. -/
theorem exists_extent_of_firstUnbound {source : Source} {env : Env} {e : Expr}
    (h : e.StandsIn source) {name : String} {place : Place}
    (hfirst : e.firstUnbound env = some (name, place)) :
    ∃ extent : Extent, extent.Locates place ∧ extent.excerpt source = name ∧
      ∀ other ∈ e.occurrences, env.find? other.1 = none → other ≠ (name, place) →
        ∃ next : Extent, next.Locates other.2 ∧ extent.start < next.start := by
  obtain ⟨entry, commands, command, whole, hread, hcommand, hwhole, hwithin⟩ := h
  obtain ⟨analysis, -, rfl⟩ := parse_eq_ok_iff.mp (Entry.read_eq_ok_iff.mp hread)
  obtain ⟨hstand, horder⟩ := analysis.occurrences_stand hcommand hwhole hwithin
  obtain ⟨-, front, back, hsplit, hbound⟩ := List.find?_eq_some_iff_append.mp hfirst
  rw [hsplit] at hstand horder ⊢
  obtain ⟨extent, hlocates, hexcerpt⟩ := hstand (name, place) (by simp)
  refine ⟨extent, hlocates, hexcerpt, fun other hother hunbound hne => ?_⟩
  obtain ⟨next, hnext, -⟩ := hstand other hother
  refine ⟨next, hnext, ?_⟩
  obtain hbefore | hsame | hafter : other ∈ front ∨ other = (name, place) ∨ other ∈ back := by
    simpa using hother
  · -- What comes before it is bound.
    have hfound := hbound other hbefore
    rw [hunbound] at hfound
    cases hfound
  · exact absurd hsame hne
  · have hback := (List.pairwise_append.mp horder).2.1
    exact List.rel_of_pairwise_cons hback hafter extent next hlocates hnext

/-- The check of an expression fails exactly if it has a name without a binding, with a typing error
for the leftmost one, which in a text is the one that begins first and stands where the error says.
If the check passes, no name without a binding is looked up, and without that there is no value. So
a command that needs the value of an expression with an unbound name does nothing, and what is
reported about it is this error, whatever else fails in the expression. -/
theorem check_finds_leftmost_unbound_name (env : Env) (e : Expr) :
    (∀ failure, e.check env = .error failure ↔ ∃ name place,
      e.firstUnbound env = some (name, place) ∧
        failure = .diagnostic ⟨.typing, s!"unknown variable {name}", place⟩) ∧
    ((∃ failure, e.check env = .error failure) ↔
      ∃ occurrence ∈ e.occurrences, env.find? occurrence.1 = none) ∧
    (∀ source, e.StandsIn source → ∀ name place, e.firstUnbound env = some (name, place) →
      ∃ extent : Extent, extent.Locates place ∧ extent.excerpt source = name ∧
        ∀ other ∈ e.occurrences, env.find? other.1 = none → other ≠ (name, place) →
          ∃ next : Extent, next.Locates other.2 ∧ extent.start < next.start) ∧
    (e.check env = .ok () → ∀ name, e.evaluate env ≠ .error (.fault (.unboundName name))) ∧
    (∀ value, e.evaluate env = .ok value → e.check env = .ok ()) ∧
    ∀ name place, e.firstUnbound env = some (name, place) →
      ∀ command : Command Place, command.isComputation = true → command.expr? = some e →
        ∀ setup use interactive,
          let failure := .diagnostic ⟨.typing, s!"unknown variable {name}", place⟩
          let executed := execute setup use interactive env command
          executed = .fail failure ∧
            Shell.recover setup.reporter env executed = ⟨setup.reporter.told failure, .ok env⟩ := by
  refine ⟨fun failure => ?_, ?_, fun source hstands name place => ?_, fun hcheck name => ?_,
    fun value => check_of_evaluate, ?_⟩
  · rw [check_eq_error_iff, Prod.exists]
    rfl
  · simp only [check_eq_error_iff, ← exists_firstUnbound_iff]
    rw [exists_comm]
    simp
  · exact exists_extent_of_firstUnbound hstands
  · intro hlookup
    obtain ⟨hfault, -⟩ := (evaluate_eq_fault_iff hcheck).mp hlookup
    cases hfault
  · intro name place hfirst command hcommand he setup use interactive failure executed
    have hfail : executed = .fail failure :=
      execute_of_firstUnbound hfirst hcommand he setup use interactive
    have houtcome : executed.outcome = .error failure := congrArg Trace.outcome hfail
    refine ⟨hfail, ?_⟩
    rw [Shell.recover_of_error houtcome (by simp [failure]), hfail]
    rfl

/-- A division by zero before the unbound name, and another unbound name after it. -/
theorem check_of_quotient_by_zero :
    let source := Source.ofString "1 / 0 - (* x *) x * y;"
    let env : Env := [("z", .int 1)]
    ∃ (e : Expr) (place : Place),
      e.StandsIn source ∧ e.firstUnbound env = some ("x", place) ∧
      e.check env = .error (.diagnostic ⟨.typing, "unknown variable x", place⟩) ∧
      Extent.Locates ⟨16, 17⟩ place ∧ Extent.excerpt ⟨16, 17⟩ source = "x" ∧
      execute {} (fun env _ => pure env) true env (.define "z" e .unknown) =
        .fail (.diagnostic ⟨.typing, "unknown variable x", place⟩) ∧
      let bound : Expr := .neg (.var "z" .unknown) .unknown
      bound.evaluate env = .ok (.int (-1)) ∧ bound.check env = .ok () ∧
        bound.evaluate env ≠ .error (.fault (.unboundName "z")) := by
  intro source env
  obtain ⟨e, place, hstands, hfirst, hlocates⟩ : ∃ (e : Expr) (place : Place),
      e.StandsIn source ∧ e.firstUnbound env = some ("x", place) ∧
      Extent.Locates ⟨16, 17⟩ place := by
    refine ⟨_, _, ⟨.single, _, _, _, by unfold source; cbv, List.mem_cons_self, rfl, .self⟩, rfl,
      ⟨_, rfl, rfl, rfl⟩⟩
  obtain ⟨herror, -, hstand, -, -, hexecute⟩ := check_finds_leftmost_unbound_name env e
  obtain ⟨extent, hextent, hexcerpt, -⟩ := hstand source hstands "x" place hfirst
  obtain rfl := hextent.unique hlocates
  refine ⟨e, place, hstands, hfirst, (herror _).mpr ⟨"x", place, hfirst, rfl⟩, hlocates, hexcerpt,
    ?_, ?_⟩
  · exact (hexecute "x" place hfirst (.define "z" e .unknown) rfl rfl {} _ true).1
  · intro bound
    obtain ⟨-, -, -, hlookup, hcheck, -⟩ := check_finds_leftmost_unbound_name env bound
    have hvalue : bound.evaluate env = .ok (.int (-1)) := rfl
    exact ⟨hvalue, hcheck _ hvalue, hlookup (hcheck _ hvalue) "z"⟩

end LanguageShell.Calculator

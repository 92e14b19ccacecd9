import LanguageShell.Proofs.Calculator.Draft

/-!
The reader of commands against the grammar. It does what the reader does that keeps its phrases, and
forgets the phrases; a name at the start of a command counts as the keyword that it spells. So it
accepts the tokens of a text exactly if sentences have these tokens, none of which begins with a
keyword used as a name, and the commands that it gives are those of the sentences.
-/

namespace LanguageShell.Calculator

namespace Keyword

def ofName? (text : List Char) : Option Keyword :=
  [display, load, listing, help].find? (·.spelling = text)

theorem ofName?_eq_some_iff {text : List Char} {k : Keyword} :
    ofName? text = some k ↔ k.spelling = text := by
  constructor
  · intro h
    simpa using List.find?_some h
  · rintro rfl
    cases k <;> rfl

theorem ofName?_eq_none_iff {text : List Char} :
    ofName? text = none ↔ ∀ k : Keyword, k.spelling ≠ text := by
  rw [Option.eq_none_iff_forall_ne_some]
  simp only [ne_eq, ofName?_eq_some_iff]

end Keyword

/-- Whether a terminal is a name that spells a keyword. -/
def Terminal.IsDisguised (terminal : Terminal) : Prop :=
  ∃ k : Keyword, terminal = .token (.name k.spelling)

/-- Whether a sentence does not begin with a keyword that is used as a name. -/
def Sentence.Proper (sentence : Sentence α) : Prop :=
  ∀ leaf, sentence.body.head? = some leaf → ¬leaf.1.IsDisguised

def Leaf.lexeme (leaf : Leaf Extent) : Lexeme :=
  ⟨leaf.1.spelled, leaf.2⟩

namespace Draft

/-! ### Forgetting the phrases -/

def Pending.forget {layer : Layer} (pending : Pending Extent layer) : Waiting :=
  pending.map fun (left, sign, _) => (left.operand, sign.operator)

def Level.forget (level : Level Extent) : Calculator.Level :=
  ⟨level.sum.forget, level.product.forget, level.signs⟩

def Enclosure.forget (enclosure : Enclosure Extent) : Calculator.Enclosure :=
  ⟨enclosure.paren, enclosure.level.forget⟩

def Progress.forget : Progress Extent → Calculator.Progress
  | wanting level outer => .wanting level.forget (outer.map Enclosure.forget)
  | having sum product outer => .having sum.forget product.operand (outer.map Enclosure.forget)

def Purpose.forget : Purpose Extent → Calculator.Purpose
  | define name _ _ => .define (String.ofList name)
  | eval _ => .eval
  | display _ => .display

def Purpose.start : Purpose Extent → Extent
  | define _ mark _ | eval mark | display mark => mark

def Stage.forget : Stage Extent → Calculator.Stage
  | idle => .idle
  | named name mark => .named name mark
  | expression purpose progress => .expression purpose.forget purpose.start progress.forget
  | loading keyword => .loading keyword
  | loaded keyword path _ => .complete keyword (.load (Sentence.pathOf path))
  | listing keyword => .complete keyword .listing
  | help keyword => .complete keyword .help

def forget (draft : Draft Extent) : Reading :=
  ⟨draft.done.map Sentence.command, draft.stage.forget⟩

@[simp] theorem Pending.operand_completeProduct (pending : Pending Extent .product)
    (right : Phrase Extent .unary) :
    (pending.completeProduct right).operand = pending.forget.complete right.operand := by
  rcases pending with _ | ⟨left, sign, mark⟩ <;> rfl

@[simp] theorem Pending.operand_completeSum (pending : Pending Extent .sum)
    (right : Phrase Extent .product) :
    (pending.completeSum right).operand = pending.forget.complete right.operand := by
  rcases pending with _ | ⟨left, sign, mark⟩ <;> rfl

namespace Progress

@[simp] theorem forget_wanting (level : Level Extent) (outer : List (Enclosure Extent)) :
    (wanting level outer).forget = .wanting level.forget (outer.map Enclosure.forget) := rfl

@[simp] theorem forget_having (sum : Pending Extent .sum) (product : Phrase Extent .product)
    (outer : List (Enclosure Extent)) :
    (having sum product outer).forget =
      .having sum.forget product.operand (outer.map Enclosure.forget) := rfl

theorem operand_signed (signs : List Extent) (operand : Phrase Extent .unary) :
    (signed signs operand).operand =
      signs.foldl (fun operand sign => operand.negate sign) operand.operand := by
  induction signs generalizing operand with
  | nil => rfl
  | cons sign signs ih => exact ih (.neg sign operand)

theorem forget_supply (level : Level Extent) (outer : List (Enclosure Extent))
    (operand : Phrase Extent .unary) :
    (supply level outer operand).forget =
      .supply level.forget (outer.map Enclosure.forget) operand.operand := by
  simp [supply, Calculator.Progress.supply, operand_signed, Level.forget]

/-- The two readers of expressions agree. -/
theorem forget_step (progress : Progress Extent) (token : Token) (extent : Extent) :
    progress.forget.step? ⟨token, extent⟩ =
      (progress.step? (.token token, extent)).map forget := by
  cases progress with
  | wanting level outer =>
      cases token <;>
        simp [step?, Calculator.Progress.step?, Token.atom?, forget_supply, Phrase.operand,
          Level.forget, Enclosure.forget, Pending.forget]
  | having sum product outer =>
      cases token with
      | closeParen =>
          cases outer <;>
            simp [step?, Calculator.Progress.step?, Token.additive?, Token.multiplicative?,
              forget_supply, Phrase.operand, Enclosure.forget]
      | _ =>
          simp [step?, Calculator.Progress.step?, Token.additive?, Token.multiplicative?,
            Level.forget, Pending.forget, Sign.operator]

theorem forget_finish (progress : Progress Extent) :
    progress.forget.finish? = progress.finish?.map Phrase.operand := by
  cases progress with
  | wanting => rfl
  | having sum product outer =>
      cases outer <;> simp [finish?, Calculator.Progress.finish?]

end Progress

namespace Stage

def terminal {α : Type} : Stage α → Token → Terminal
  | idle, .name text =>
    match Keyword.ofName? text with
    | some k => .keyword k
    | none => .token (.name text)
  | _, token => .token token

/-- Whether the extent noted for a command is that of its first token. -/
def Anchored : Stage Extent → Prop
  | expression (.eval first) progress =>
    ∃ terminal, progress.yield.head? = some (terminal, first)
  | _ => True

def Next.Anchored : Next Extent → Prop
  | more stage => stage.Anchored
  | done _ => True

def Next.forget : Next Extent → Calculator.Stage.Next
  | more stage => .more stage.forget
  | done sentence => .done sentence.command

@[simp] theorem spelled_terminal {α : Type} (stage : Stage α) (token : Token) :
    (stage.terminal token).spelled = token := by
  unfold terminal
  split
  · split
    case h_1 k hk => simp [Terminal.spelled, Keyword.ofName?_eq_some_iff.mp hk]
    case h_2 => rfl
  · rfl

theorem terminal_of_ne_idle {α : Type} {stage : Stage α} (h : stage ≠ .idle) (token : Token) :
    stage.terminal token = .token token := by
  unfold terminal
  split
  · exact absurd rfl h
  · rfl

theorem command_sentence {purpose : Purpose Extent} {progress : Progress Extent}
    {expr : Phrase Extent .sum} (h : progress.finish? = some expr)
    (hanchored : (expression purpose progress).Anchored) (stop : Extent) :
    (purpose.sentence expr stop).command =
      purpose.forget.command expr.operand.tree (purpose.start.through stop) := by
  cases purpose with
  | define | display => rfl
  | eval first =>
      obtain ⟨terminal, hhead⟩ := hanchored
      rw [← Progress.yield_finish h] at hhead
      have hstart := expr.start_operand hhead
      simp [Purpose.sentence, Sentence.command, Purpose.forget, Calculator.Purpose.command,
        Purpose.start, Extent.through, hstart]

theorem forget_stepExpression {purpose : Purpose Extent} {progress : Progress Extent}
    (hanchored : (expression purpose progress).Anchored) (token : Token) (extent : Extent) :
    Calculator.Stage.stepExpression? purpose.forget purpose.start progress.forget ⟨token, extent⟩ =
      (stepExpression? purpose progress (.token token, extent)).map Next.forget := by
  by_cases htoken : token = .semicolon
  · subst htoken
    cases hfinish : progress.finish? with
    | none => simp [Calculator.Stage.stepExpression?, stepExpression?, Progress.forget_finish,
        hfinish]
    | some expr =>
        simp [Calculator.Stage.stepExpression?, stepExpression?, Progress.forget_finish, hfinish,
          Next.forget, command_sentence hfinish hanchored]
  · have hleft : Calculator.Stage.stepExpression? purpose.forget purpose.start progress.forget
        ⟨token, extent⟩ = (progress.forget.step? ⟨token, extent⟩).map fun next =>
          .more (.expression purpose.forget purpose.start next) := by
      cases token <;> first | rfl | exact absurd rfl htoken
    simp [hleft, stepExpression?, htoken, Progress.forget_step, Next.forget, forget,
      Function.comp_def]

theorem forget_step_idle (token : Token) (extent : Extent) :
    (idle : Stage Extent).forget.step? ⟨token, extent⟩ =
      (idle.step? ((idle : Stage Extent).terminal token, extent)).map Next.forget := by
  cases token with
  | name text =>
      cases htext : Keyword.ofName? text with
      | some k =>
          obtain rfl := Keyword.ofName?_eq_some_iff.mp htext
          cases k <;> rfl
      | none =>
          have hne := Keyword.ofName?_eq_none_iff.mp htext
          have hdisplay : text ≠ ['s', 'h', 'o', 'w'] := (hne .display).symm
          have hload : text ≠ ['l', 'o', 'a', 'd'] := (hne .load).symm
          have hlisting : text ≠ ['e', 'n', 'v'] := (hne .listing).symm
          have hhelp : text ≠ ['h', 'e', 'l', 'p'] := (hne .help).symm
          simp [forget, Calculator.Stage.step?, Calculator.Stage.begin?, terminal, htext, step?,
            Next.forget, hdisplay, hload, hlisting, hhelp]
  | _ => rfl

theorem forget_step {stage : Stage Extent} (hanchored : stage.Anchored) (token : Token)
    (extent : Extent) :
    stage.forget.step? ⟨token, extent⟩ =
      (stage.step? (stage.terminal token, extent)).map Next.forget := by
  cases stage with
  | idle => exact forget_step_idle token extent
  | named name mark =>
      have hnamed : (expression (.eval mark) (afterName name mark)).Anchored := ⟨_, rfl⟩
      have hexpression := forget_stepExpression hnamed token extent
      cases token with
      | assign => rfl
      | _ => exact hexpression
  | expression purpose progress => exact forget_stepExpression hanchored token extent
  | loading | loaded | listing | help => cases token <;> rfl

theorem anchored_stepExpression {purpose : Purpose Extent} {progress : Progress Extent}
    {leaf : Leaf Extent} {next : Next Extent}
    (hanchored : ∀ first, purpose = .eval first →
      ∃ terminal, (progress.yield ++ [leaf]).head? = some (terminal, first))
    (h : stepExpression? purpose progress leaf = some next) : next.Anchored := by
  unfold stepExpression? at h
  split at h
  · obtain ⟨expr, -, rfl⟩ := Option.map_eq_some_iff.mp h
    trivial
  · obtain ⟨progress', hstep, rfl⟩ := Option.map_eq_some_iff.mp h
    cases purpose with
    | define | display => trivial
    | eval first =>
        obtain ⟨terminal, hhead⟩ := hanchored first rfl
        exact ⟨terminal, by rw [Progress.yield_step hstep, hhead]⟩

theorem anchored_step {stage : Stage Extent} {leaf : Leaf Extent} {next : Next Extent}
    (hanchored : stage.Anchored) (h : stage.step? leaf = some next) : next.Anchored := by
  unfold step? at h
  split at h
  case h_6 =>
    refine anchored_stepExpression (fun first hfirst => ?_) h
    cases hfirst
    exact ⟨_, rfl⟩
  case h_8 =>
    refine anchored_stepExpression (fun first hfirst => ?_) h
    cases hfirst
    exact ⟨_, rfl⟩
  case h_9 =>
    refine anchored_stepExpression (fun first hfirst => ?_) h
    subst hfirst
    obtain ⟨terminal, hhead⟩ := hanchored
    exact ⟨terminal, by simp [List.head?_append, hhead]⟩
  case h_14 => cases h
  all_goals
    cases h
    trivial

end Stage

theorem admits_forget (entry : Entry) (draft : Draft Extent) :
    draft.forget.admits entry = decide (draft.Admits entry) := by
  obtain ⟨done, stage⟩ := draft
  cases stage <;> cases done <;> simp [forget, Stage.forget, Reading.admits, Admits]

def terminal {α : Type} (draft : Draft α) (token : Token) : Terminal :=
  draft.stage.terminal token

/-- The two readers agree. -/
theorem forget_step {draft : Draft Extent} (hanchored : draft.stage.Anchored) (entry : Entry)
    (lexeme : Lexeme) :
    draft.forget.step? entry lexeme =
      (draft.step? entry (draft.terminal lexeme.token, lexeme.extent)).map forget := by
  have hstage := Stage.forget_step hanchored lexeme.token lexeme.extent
  simp only [Reading.step?, admits_forget, decide_eq_true_eq, step?]
  split
  · rw [show draft.forget.stage = draft.stage.forget from rfl, hstage, Option.map_map,
      Option.map_map]
    congr 1
    funext next
    cases next <;> rfl
  · rfl

theorem anchored_step {entry : Entry} {draft next : Draft Extent} {leaf : Leaf Extent}
    (hanchored : draft.stage.Anchored) (h : draft.step? entry leaf = some next) :
    next.stage.Anchored := by
  unfold step? at h
  split at h
  case isTrue =>
    obtain ⟨result, hstep, rfl⟩ := Option.map_eq_some_iff.mp h
    have hresult := Stage.anchored_step hanchored hstep
    cases result with
    | more => exact hresult
    | done => trivial
  case isFalse => cases h

/-! ### Keywords in disguise -/

theorem Stage.eq_idle_of_yield {stage : Stage Extent} (hanchored : stage.Anchored)
    (h : stage.yield = []) : stage = .idle := by
  cases stage with
  | idle => rfl
  | expression purpose progress =>
      cases purpose with
      | eval first =>
          obtain ⟨terminal, hhead⟩ := hanchored
          have hnil : progress.yield = [] := h
          simp [hnil] at hhead
      | define | display => simp [yield, Purpose.yield] at h
  | named | loading | loaded | listing | help => simp [yield] at h

theorem Stage.not_isDisguised_terminal {α : Type} (token : Token) :
    ¬((idle : Stage α).terminal token).IsDisguised := by
  rintro ⟨k, hk⟩
  unfold terminal at hk
  split at hk
  · split at hk
    · cases hk
    · rename_i hnone
      simp only [Terminal.token.injEq, Token.name.injEq] at hk
      exact Keyword.ofName?_eq_none_iff.mp hnone k hk.symm
  · rename_i hname
    simp only [Terminal.token.injEq] at hk
    exact hname k.spelling rfl hk

/-- Whether no command that has been read, nor what was read of the next one, begins with a keyword
that is used as a name. -/
def Proper {α : Type} (draft : Draft α) : Prop :=
  (∀ sentence ∈ draft.done, sentence.Proper) ∧
    ∀ leaf, draft.stage.yield.head? = some leaf → ¬leaf.1.IsDisguised

theorem anchored_empty : ({} : Draft Extent).stage.Anchored :=
  trivial

theorem proper_empty {α : Type} : ({} : Draft α).Proper := by
  simp [Proper]

/-- Only the first token of a command matters. -/
theorem proper_step {α : Type} {entry : Entry} {draft next : Draft α} {leaf : Leaf α}
    (h : draft.step? entry leaf = some next) :
    next.Proper ↔ draft.Proper ∧ (draft.stage.yield = [] → ¬leaf.1.IsDisguised) := by
  unfold step? at h
  split at h
  case isFalse => cases h
  case isTrue =>
    obtain ⟨result, hstep, rfl⟩ := Option.map_eq_some_iff.mp h
    have hyield := Stage.yield_step hstep
    cases result with
    | more stage =>
        have hstage : stage.yield = draft.stage.yield ++ [leaf] := hyield
        cases hread : draft.stage.yield with
        | nil => simp [Proper, hstage, hread]
        | cons first rest => simp [Proper, hstage, hread]
    | done sentence =>
        have hbody : sentence.body = draft.stage.yield := by
          have hsplit : sentence.body ++ [_] = draft.stage.yield ++ [leaf] := hyield
          exact (List.append_inj' hsplit rfl).1
        have hne : draft.stage.yield ≠ [] := hbody ▸ sentence.body_ne_nil
        simp only [Proper, List.mem_cons, forall_eq_or_imp, Sentence.Proper, hbody,
          Stage.yield_idle, List.head?_nil, hne, false_implies, and_true, reduceCtorEq,
          implies_true]
        exact and_comm

theorem proper_of_run {α : Type} {entry : Entry} {draft next : Draft α} {leaves : List (Leaf α)}
    (h : draft.run entry leaves = some next) (hproper : next.Proper) : draft.Proper := by
  induction leaves generalizing draft with
  | nil =>
      cases h
      exact hproper
  | cons leaf leaves ih =>
      rw [run_cons] at h
      obtain ⟨middle, hstep, hrest⟩ := Option.bind_eq_some_iff.mp h
      exact ((proper_step hstep).mp (ih hrest)).1

/-- A keyword is accepted only where a command begins. -/
theorem eq_idle_of_step_keyword {α : Type} {entry : Entry} {draft next : Draft α} {k : Keyword}
    {mark : α} (h : draft.step? entry (.keyword k, mark) = some next) : draft.stage = .idle := by
  unfold step? at h
  split at h
  case isFalse => cases h
  case isTrue =>
    obtain ⟨result, hstep, -⟩ := Option.map_eq_some_iff.mp h
    cases hstage : draft.stage with
    | idle => rfl
    | named | expression =>
        simp [hstage, Stage.step?, Stage.stepExpression?, Progress.step?] at hstep
    | loading | loaded | listing | help => simp [hstage, Stage.step?] at hstep

theorem terminal_spelled {entry : Entry} {draft next : Draft Extent} {leaf : Leaf Extent}
    (h : draft.step? entry leaf = some next)
    (hleaf : draft.stage = .idle → ¬leaf.1.IsDisguised) :
    draft.terminal leaf.1.spelled = leaf.1 := by
  obtain ⟨terminal, extent⟩ := leaf
  cases terminal with
  | keyword k =>
      have hidle := eq_idle_of_step_keyword h
      simp [Draft.terminal, hidle, Stage.terminal, Terminal.spelled,
        Keyword.ofName?_eq_some_iff.mpr rfl]
  | token token =>
      by_cases hidle : draft.stage = .idle
      · cases token with
        | name text =>
            have hnone : Keyword.ofName? text = none := by
              rw [Keyword.ofName?_eq_none_iff]
              rintro k rfl
              exact hleaf hidle ⟨k, rfl⟩
            simp [Draft.terminal, hidle, Stage.terminal, Terminal.spelled, hnone]
        | _ => simp [Draft.terminal, hidle, Stage.terminal, Terminal.spelled]
      · exact Stage.terminal_of_ne_idle hidle token

/-! ### Runs -/

theorem exists_run_of_run {entry : Entry} {draft : Draft Extent} {lexemes : List Lexeme}
    {reading : Reading} (hanchored : draft.stage.Anchored) (hproper : draft.Proper)
    (h : draft.forget.run entry lexemes = .ok reading) :
    ∃ next leaves, next.forget = reading ∧ next.Proper ∧ draft.run entry leaves = some next ∧
      leaves.map Leaf.lexeme = lexemes := by
  induction lexemes generalizing draft with
  | nil =>
      cases h
      exact ⟨draft, [], rfl, hproper, rfl, rfl⟩
  | cons lexeme lexemes ih =>
      rw [Reading.run, forget_step hanchored] at h
      let leaf : Leaf Extent := (draft.terminal lexeme.token, lexeme.extent)
      cases hstep : draft.step? entry leaf with
      | none => simp [leaf, hstep] at h
      | some middle =>
          simp only [leaf, hstep, Option.map_some] at h
          have hleaf (hyield : draft.stage.yield = []) : ¬leaf.1.IsDisguised := by
            simp only [leaf, terminal, Stage.eq_idle_of_yield hanchored hyield]
            exact Stage.not_isDisguised_terminal lexeme.token
          obtain ⟨next, leaves, hforget, hnext, hrun, hlexemes⟩ := ih
            (anchored_step hanchored hstep) ((proper_step hstep).mpr ⟨hproper, hleaf⟩) h
          refine ⟨next, leaf :: leaves, hforget, hnext, by simp [hstep, hrun], ?_⟩
          simp [hlexemes, Leaf.lexeme, leaf, terminal]

/-- Unless keywords are disguised, the reader accepts what the reader that keeps the phrases
accepts. -/
theorem run_lexemes {entry : Entry} {draft next : Draft Extent} {leaves : List (Leaf Extent)}
    (hanchored : draft.stage.Anchored) (hproper : next.Proper)
    (h : draft.run entry leaves = some next) :
    draft.forget.run entry (leaves.map Leaf.lexeme) = .ok next.forget := by
  induction leaves generalizing draft with
  | nil =>
      cases h
      rfl
  | cons leaf leaves ih =>
      rw [run_cons] at h
      obtain ⟨middle, hstep, hrest⟩ := Option.bind_eq_some_iff.mp h
      have hmiddle := (proper_step hstep).mp (proper_of_run hrest hproper)
      have hterminal := terminal_spelled hstep fun hidle =>
        hmiddle.2 (by simp [hidle])
      have hleaf : (draft.terminal leaf.lexeme.token, leaf.lexeme.extent) = leaf := by
        simp [Leaf.lexeme, hterminal]
      rw [List.map_cons, Reading.run, forget_step hanchored, hleaf, hstep]
      exact ih (anchored_step hanchored hstep) hrest

end Draft

/-- The reader accepts tokens exactly if sentences have them that do not begin with keywords in
disguise, and it gives the commands for which the sentences stand. -/
theorem Reading.run_finish_iff {entry : Entry} {lexemes : List Lexeme}
    {commands : List (Command Extent)} :
    (∃ reading, Reading.run entry {} lexemes = .ok reading ∧
        reading.finish? entry = some commands) ↔
      ∃ sentences leaves, Derives entry sentences leaves ∧ leaves.map Leaf.lexeme = lexemes ∧
        (∀ sentence ∈ sentences, sentence.Proper) ∧ sentences.map Sentence.command = commands := by
  constructor
  · rintro ⟨reading, hrun, hfinish⟩
    obtain ⟨⟨done, stage⟩, leaves, rfl, hproper, hdraft, hlexemes⟩ :=
      Draft.exists_run_of_run Draft.anchored_empty Draft.proper_empty hrun
    have hyield := Draft.yield_run hdraft
    cases stage with
    | idle =>
        simp only [finish?, Draft.forget, Draft.Stage.forget, List.length_map] at hfinish
        split at hfinish
        case isTrue hadmits =>
          refine ⟨done.reverse, leaves, ⟨by simpa [Entry.Admits] using hadmits, ?_⟩, hlexemes,
            fun sentence hmem => hproper.1 sentence (List.mem_reverse.mp hmem), ?_⟩
          · simpa [Draft.yield] using hyield
          · simpa [List.map_reverse] using hfinish
        case isFalse => cases hfinish
    | _ => simp [finish?, Draft.forget, Draft.Stage.forget] at hfinish
  · rintro ⟨sentences, leaves, hderives, rfl, hproper, rfl⟩
    have hnext : (⟨sentences.reverse, .idle⟩ : Draft Extent).Proper :=
      ⟨fun sentence hmem => hproper sentence (List.mem_reverse.mp hmem), by simp⟩
    refine ⟨_, Draft.run_lexemes Draft.anchored_empty hnext (Draft.run_of_derives hderives), ?_⟩
    have hadmits := hderives.1
    simp only [Entry.Admits] at hadmits
    simp [finish?, Draft.forget, Draft.Stage.forget, hadmits]

end LanguageShell.Calculator

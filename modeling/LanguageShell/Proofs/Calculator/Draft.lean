import LanguageShell.Proofs.Calculator.Grammar

/-!
A reader that keeps the phrases it has read. Its states are those of the reader of commands, with
phrases in place of the operands that they stand for, so what it has read can be told from its
state. Reading the tokens of a sentence gives that sentence back; hence a text has one derivation
at most.
-/

namespace LanguageShell.Calculator.Draft

variable {α : Type}

/-- A phrase whose sign waits for a right operand, if there is one. -/
abbrev Pending (α : Type) (layer : Layer) := Option (Phrase α layer × Sign layer × α)

def Pending.completeProduct (pending : Pending α .product) (right : Phrase α .unary) :
    Phrase α .product :=
  match pending with
  | some (left, sign, mark) => .product left sign mark right
  | none => .ofUnary right

def Pending.completeSum (pending : Pending α .sum) (right : Phrase α .product) : Phrase α .sum :=
  match pending with
  | some (left, sign, mark) => .sum left sign mark right
  | none => .ofProduct right

/-- What precedes an operand inside one pair of parentheses. -/
structure Level (α : Type) where
  sum : Pending α .sum := none
  product : Pending α .product := none
  signs : List α := []

structure Enclosure (α : Type) where
  paren : α
  level : Level α

inductive Progress (α : Type) where
  /-- An operand must come next. -/
  | wanting (level : Level α) (outer : List (Enclosure α))
  /-- A product has been read that may go on; the sum waits for it. -/
  | having (sum : Pending α .sum) (product : Phrase α .product) (outer : List (Enclosure α))

/-! ### The tokens read so far -/

def Pending.yield {layer : Layer} : Pending α layer → List (Leaf α)
  | some (left, sign, mark) => left.yield ++ [(.token sign.token, mark)]
  | none => []

@[simp] theorem Pending.yield_none {layer : Layer} : Pending.yield (none : Pending α layer) = [] :=
  rfl

@[simp] theorem Pending.yield_some {layer : Layer} (left : Phrase α layer) (sign : Sign layer)
    (mark : α) :
    Pending.yield (some (left, sign, mark)) = left.yield ++ [(.token sign.token, mark)] :=
  rfl

def Level.yield (level : Level α) : List (Leaf α) :=
  level.sum.yield ++ level.product.yield ++
    level.signs.reverse.map fun sign => (.token .minus, sign)

/-- The tokens before the innermost open parenthesis is left, the outermost enclosure last. -/
def outerYield : List (Enclosure α) → List (Leaf α)
  | [] => []
  | enclosure :: outer =>
    outerYield outer ++ enclosure.level.yield ++ [(.token .openParen, enclosure.paren)]

def Progress.yield : Progress α → List (Leaf α)
  | wanting level outer => outerYield outer ++ level.yield
  | having sum product outer => outerYield outer ++ sum.yield ++ product.yield

@[simp] theorem Pending.yield_completeProduct (pending : Pending α .product)
    (right : Phrase α .unary) :
    (pending.completeProduct right).yield = pending.yield ++ right.yield := by
  rcases pending with _ | ⟨left, sign, mark⟩ <;> simp [completeProduct, Phrase.yield]

@[simp] theorem Pending.yield_completeSum (pending : Pending α .sum) (right : Phrase α .product) :
    (pending.completeSum right).yield = pending.yield ++ right.yield := by
  rcases pending with _ | ⟨left, sign, mark⟩ <;> simp [completeSum, Phrase.yield]

namespace Progress

def start : Progress α :=
  .wanting {} []

/-- The operand with the minus signs that precede it, the nearest first. -/
def signed (signs : List α) (operand : Phrase α .unary) : Phrase α .unary :=
  signs.foldl (fun operand sign => .neg sign operand) operand

def supply (level : Level α) (outer : List (Enclosure α)) (operand : Phrase α .unary) :
    Progress α :=
  .having level.sum (level.product.completeProduct (signed level.signs operand)) outer

def step? : Progress α → Leaf α → Option (Progress α)
  | wanting level outer, (.token .minus, mark) =>
    some (wanting { level with signs := mark :: level.signs } outer)
  | wanting level outer, (.token .openParen, mark) => some (wanting {} (⟨mark, level⟩ :: outer))
  | wanting level outer, (.token (.number text), mark) =>
    some (supply level outer (.ofAtom (.number text mark)))
  | wanting level outer, (.token (.name text), mark) =>
    some (supply level outer (.ofAtom (.name text mark)))
  | having sum product outer, (.token .plus, mark) =>
    some (wanting { sum := some (sum.completeSum product, .plus, mark) } outer)
  | having sum product outer, (.token .minus, mark) =>
    some (wanting { sum := some (sum.completeSum product, .minus, mark) } outer)
  | having sum product outer, (.token .star, mark) =>
    some (wanting { sum, product := some (product, .star, mark) } outer)
  | having sum product outer, (.token .slash, mark) =>
    some (wanting { sum, product := some (product, .slash, mark) } outer)
  | having sum product (enclosure :: outer), (.token .closeParen, mark) =>
    some (supply enclosure.level outer
      (.ofAtom (.parens enclosure.paren (sum.completeSum product) mark)))
  | _, _ => none

def finish? : Progress α → Option (Phrase α .sum)
  | having sum product [] => some (sum.completeSum product)
  | _ => none

@[simp] theorem yield_wanting (level : Level α) (outer : List (Enclosure α)) :
    (wanting level outer).yield = outerYield outer ++ level.yield := rfl

@[simp] theorem yield_having (sum : Pending α .sum) (product : Phrase α .product)
    (outer : List (Enclosure α)) :
    (having sum product outer).yield = outerYield outer ++ sum.yield ++ product.yield := rfl

@[simp] theorem yield_start : (start : Progress α).yield = [] := rfl

theorem yield_signed (signs : List α) (operand : Phrase α .unary) :
    (signed signs operand).yield =
      (signs.reverse.map fun sign => (.token .minus, sign)) ++ operand.yield := by
  induction signs generalizing operand with
  | nil => rfl
  | cons sign signs ih =>
      change (signed signs (.neg sign operand)).yield = _
      simp [ih, Phrase.yield]

theorem yield_supply (level : Level α) (outer : List (Enclosure α)) (operand : Phrase α .unary) :
    (supply level outer operand).yield = outerYield outer ++ level.yield ++ operand.yield := by
  simp [supply, Level.yield, yield_signed]

/-- Each step reads its token and forgets none. -/
theorem yield_step {progress next : Progress α} {leaf : Leaf α}
    (h : progress.step? leaf = some next) : next.yield = progress.yield ++ [leaf] := by
  unfold step? at h
  split at h
  case h_10 => cases h
  all_goals
    cases h
    simp [yield_supply, Level.yield, outerYield, Phrase.yield]

theorem yield_finish {progress : Progress α} {expr : Phrase α .sum}
    (h : progress.finish? = some expr) : expr.yield = progress.yield := by
  unfold finish? at h
  split at h
  · cases h
    simp [outerYield]
  · cases h

def run (progress : Progress α) (leaves : List (Leaf α)) : Option (Progress α) :=
  leaves.foldlM step? progress

@[simp] theorem run_nil (progress : Progress α) : progress.run [] = some progress := rfl

@[simp] theorem run_cons (progress : Progress α) (leaf : Leaf α) (leaves : List (Leaf α)) :
    progress.run (leaf :: leaves) = (progress.step? leaf).bind (·.run leaves) := by
  simp [run]

@[simp] theorem run_append (progress : Progress α) (front back : List (Leaf α)) :
    progress.run (front ++ back) = (progress.run front).bind (·.run back) := by
  simp [run]

/-- What reading a phrase comes to, wherever one of its kind may stand. -/
def Reads : (layer : Layer) → Phrase α layer → Prop
  | .atom, phrase => ∀ level outer,
    (wanting level outer).run phrase.yield = some (supply level outer (.ofAtom phrase))
  | .unary, phrase => ∀ level outer,
    (wanting level outer).run phrase.yield = some (supply level outer phrase)
  | .product, phrase => ∀ sum outer,
    (wanting { sum } outer).run phrase.yield = some (having sum phrase outer)
  | .sum, phrase => ∀ outer, ∃ sum product, Pending.completeSum sum product = phrase ∧
    (wanting {} outer).run phrase.yield = some (having sum product outer)

/-- Reading the tokens of a phrase gives the phrase. -/
theorem reads {layer : Layer} (phrase : Phrase α layer) : Reads layer phrase := by
  induction phrase with
  | number | name => intro level outer; rfl
  | parens opening inner closing ih =>
      intro level outer
      obtain ⟨sum, product, hinner, hrun⟩ := ih (⟨opening, level⟩ :: outer)
      simp [Phrase.yield, step?, hrun, hinner]
  | ofAtom _ ih => exact ih
  | neg sign operand ih =>
      intro level outer
      simp only [Phrase.yield, run_cons, step?, Option.bind_some]
      exact ih _ outer
  | ofUnary unary ih =>
      intro sum outer
      exact ih { sum } outer
  | product left sign mark right ihl ihr =>
      intro sum outer
      cases sign <;> simp [Phrase.yield, ihl sum outer, step?, ihr _ outer, supply,
        signed, Pending.completeProduct]
  | ofProduct product ih =>
      intro outer
      exact ⟨none, product, rfl, ih none outer⟩
  | sum left sign mark right ihl ihr =>
      intro outer
      obtain ⟨sum, product, hleft, hrun⟩ := ihl outer
      refine ⟨some (left, sign, mark), right, rfl, ?_⟩
      cases sign <;> simp [Phrase.yield, hrun, step?, hleft, ihr _ outer]

theorem run_yield (expr : Phrase α .sum) :
    ∃ progress, start.run expr.yield = some progress ∧ progress.finish? = some expr := by
  obtain ⟨sum, product, hexpr, hrun⟩ := reads expr []
  exact ⟨having sum product [], hrun, by simp [finish?, hexpr]⟩

end Progress

/-! ### Commands -/

/-- What is done with an expression, and the tokens before it. -/
inductive Purpose (α : Type) where
  | define (name : List Char) (mark assign : α)
  /-- The expression is evaluated; its first token bears the mark. -/
  | eval (first : α)
  | display (keyword : α)

namespace Purpose

def yield : Purpose α → List (Leaf α)
  | define name mark assign => [(.token (.name name), mark), (.token .assign, assign)]
  | eval _ => []
  | display keyword => [(.keyword .display, keyword)]

def sentence (purpose : Purpose α) (expr : Phrase α .sum) (semicolon : α) : Sentence α :=
  match purpose with
  | define name mark assign => .define name mark assign expr semicolon
  | eval _ => .eval expr semicolon
  | display keyword => .display keyword expr semicolon

theorem yield_sentence (purpose : Purpose α) (expr : Phrase α .sum) (semicolon : α) :
    (purpose.sentence expr semicolon).yield =
      purpose.yield ++ expr.yield ++ [(.token .semicolon, semicolon)] := by
  cases purpose <;> simp [sentence, yield, Sentence.yield, Sentence.body, Sentence.semicolon]

end Purpose

inductive Stage (α : Type) where
  | idle
  | named (name : List Char) (mark : α)
  | expression (purpose : Purpose α) (progress : Progress α)
  | loading (keyword : α)
  | loaded (keyword : α) (path : List Char) (mark : α)
  | listing (keyword : α)
  | help (keyword : α)

inductive Stage.Next (α : Type) where
  | more (stage : Stage α)
  | done (sentence : Sentence α)

namespace Stage

def yield : Stage α → List (Leaf α)
  | idle => []
  | named name mark => [(.token (.name name), mark)]
  | expression purpose progress => purpose.yield ++ progress.yield
  | loading keyword => [(.keyword .load, keyword)]
  | loaded keyword path mark => [(.keyword .load, keyword), (.token (.quoted path), mark)]
  | listing keyword => [(.keyword .listing, keyword)]
  | help keyword => [(.keyword .help, keyword)]

@[simp] theorem yield_idle : (idle : Stage α).yield = [] := rfl

def Next.yield : Next α → List (Leaf α)
  | more stage => stage.yield
  | done sentence => sentence.yield

def stepExpression? (purpose : Purpose α) (progress : Progress α) (leaf : Leaf α) :
    Option (Next α) :=
  if leaf.1 = .token .semicolon then
    progress.finish?.map fun expr => .done (purpose.sentence expr leaf.2)
  else (progress.step? leaf).map fun next => .more (expression purpose next)

def afterName (name : List Char) (mark : α) : Progress α :=
  .having none (.ofUnary (.ofAtom (.name name mark))) []

def step? : Stage α → Leaf α → Option (Next α)
  | idle, (.keyword .display, mark) => some (.more (expression (.display mark) .start))
  | idle, (.keyword .load, mark) => some (.more (loading mark))
  | idle, (.keyword .listing, mark) => some (.more (listing mark))
  | idle, (.keyword .help, mark) => some (.more (help mark))
  | idle, (.token (.name text), mark) => some (.more (named text mark))
  | idle, leaf => stepExpression? (.eval leaf.2) .start leaf
  | named name mark, (.token .assign, assign) =>
    some (.more (expression (.define name mark assign) .start))
  | named name mark, leaf => stepExpression? (.eval mark) (afterName name mark) leaf
  | expression purpose progress, leaf => stepExpression? purpose progress leaf
  | loading keyword, (.token (.quoted path), mark) => some (.more (loaded keyword path mark))
  | loaded keyword path mark, (.token .semicolon, stop) =>
    some (.done (.load keyword path mark stop))
  | listing keyword, (.token .semicolon, stop) => some (.done (.listing keyword stop))
  | help keyword, (.token .semicolon, stop) => some (.done (.help keyword stop))
  | _, _ => none

theorem yield_stepExpression {purpose : Purpose α} {progress : Progress α} {leaf : Leaf α}
    {next : Next α} (h : stepExpression? purpose progress leaf = some next) :
    next.yield = purpose.yield ++ progress.yield ++ [leaf] := by
  unfold stepExpression? at h
  split at h
  case isTrue hleaf =>
    obtain ⟨expr, hexpr, rfl⟩ := Option.map_eq_some_iff.mp h
    simp [Next.yield, Purpose.yield_sentence, Progress.yield_finish hexpr, ← hleaf]
  case isFalse =>
    obtain ⟨progress', hstep, rfl⟩ := Option.map_eq_some_iff.mp h
    simp [Next.yield, yield, Progress.yield_step hstep]

theorem yield_step {stage : Stage α} {next : Next α} {leaf : Leaf α}
    (h : stage.step? leaf = some next) : next.yield = stage.yield ++ [leaf] := by
  unfold step? at h
  split at h
  case h_6 => simpa [Purpose.yield, yield] using yield_stepExpression h
  case h_8 => simpa [Purpose.yield, yield, afterName, outerYield, Phrase.yield] using
    yield_stepExpression h
  case h_9 => exact yield_stepExpression h
  case h_14 => cases h
  all_goals
    cases h
    rfl

end Stage

end LanguageShell.Calculator.Draft

namespace LanguageShell.Calculator

/-- The sentences that have been read, the last one first, and what was read of the next one. -/
structure Draft (α : Type) where
  done : List (Sentence α) := []
  stage : Draft.Stage α := .idle

namespace Draft

variable {α : Type}

def yield (draft : Draft α) : List (Leaf α) :=
  yieldAll draft.done.reverse ++ draft.stage.yield

def Admits (entry : Entry) (draft : Draft α) : Prop :=
  draft.stage = .idle → entry = .file ∨ draft.done = []

instance (entry : Entry) (draft : Draft α) : Decidable (draft.Admits entry) :=
  match h : draft.stage with
  | .idle => decidable_of_iff (entry = .file ∨ draft.done.isEmpty) (by simp [Admits, h])
  | .named .. | .expression .. | .loading .. | .loaded .. | .listing .. | .help .. =>
    isTrue (by simp [Admits, h])

def step? (entry : Entry) (draft : Draft α) (leaf : Leaf α) : Option (Draft α) :=
  if draft.Admits entry then
    (draft.stage.step? leaf).map fun
      | .more stage => { draft with stage }
      | .done sentence => ⟨sentence :: draft.done, .idle⟩
  else none

def run (entry : Entry) (draft : Draft α) (leaves : List (Leaf α)) : Option (Draft α) :=
  leaves.foldlM (step? entry) draft

variable {entry : Entry}

@[simp] theorem run_nil (draft : Draft α) : draft.run entry [] = some draft := rfl

@[simp] theorem run_cons (draft : Draft α) (leaf : Leaf α) (leaves : List (Leaf α)) :
    draft.run entry (leaf :: leaves) = (draft.step? entry leaf).bind (·.run entry leaves) := by
  simp [run]

@[simp] theorem run_append (draft : Draft α) (front back : List (Leaf α)) :
    draft.run entry (front ++ back) = (draft.run entry front).bind (·.run entry back) := by
  simp [run]

theorem yield_step {draft next : Draft α} {leaf : Leaf α}
    (h : draft.step? entry leaf = some next) : next.yield = draft.yield ++ [leaf] := by
  unfold step? at h
  split at h
  case isTrue =>
    obtain ⟨result, hstep, rfl⟩ := Option.map_eq_some_iff.mp h
    have hyield := Stage.yield_step hstep
    cases result with
    | more stage => simpa [yield, Stage.Next.yield] using hyield
    | done sentence => simpa [yield, Stage.Next.yield, Stage.yield] using hyield
  case isFalse => cases h

/-- What has been read can be told from the state. -/
theorem yield_run {draft next : Draft α} {leaves : List (Leaf α)}
    (h : draft.run entry leaves = some next) : next.yield = draft.yield ++ leaves := by
  induction leaves generalizing draft with
  | nil =>
      cases h
      simp
  | cons leaf leaves ih =>
      rw [run_cons] at h
      obtain ⟨middle, hstep, hrest⟩ := Option.bind_eq_some_iff.mp h
      simp [ih hrest, yield_step hstep]

/-! ### Sentences read back -/

theorem step_expression (done : List (Sentence α)) (purpose : Purpose α) (progress : Progress α)
    (leaf : Leaf α) (hleaf : leaf.1 ≠ .token .semicolon) :
    (⟨done, .expression purpose progress⟩ : Draft α).step? entry leaf =
      (progress.step? leaf).map fun next => ⟨done, .expression purpose next⟩ := by
  simp [step?, Admits, Stage.step?, Stage.stepExpression?, hleaf, Function.comp_def]

theorem Progress.ne_semicolon_of_step {progress next : Progress α} {leaf : Leaf α}
    (h : progress.step? leaf = some next) :
    leaf.1 ≠ .token .semicolon ∧ leaf.1 ≠ .token .assign ∧ ∀ k, leaf.1 ≠ .keyword k := by
  unfold Progress.step? at h
  split at h <;> simp at h ⊢

theorem run_expression {done : List (Sentence α)} {purpose : Purpose α}
    {progress next : Progress α} {leaves : List (Leaf α)} (h : progress.run leaves = some next) :
    (⟨done, .expression purpose progress⟩ : Draft α).run entry leaves =
      some ⟨done, .expression purpose next⟩ := by
  induction leaves generalizing progress with
  | nil =>
      cases h
      rfl
  | cons leaf leaves ih =>
      rw [Progress.run_cons] at h
      obtain ⟨middle, hstep, hrest⟩ := Option.bind_eq_some_iff.mp h
      rw [run_cons, step_expression done purpose progress leaf
        (Progress.ne_semicolon_of_step hstep).1, hstep]
      exact ih hrest

theorem step_semicolon {done : List (Sentence α)} {purpose : Purpose α} {progress : Progress α}
    {expr : Phrase α .sum} (h : progress.finish? = some expr) (stop : α) :
    (⟨done, .expression purpose progress⟩ : Draft α).step? entry (.token .semicolon, stop) =
      some ⟨purpose.sentence expr stop :: done, .idle⟩ := by
  simp [step?, Admits, Stage.step?, Stage.stepExpression?, h]

theorem run_expression_semicolon (entry : Entry) (done : List (Sentence α)) (purpose : Purpose α)
    (expr : Phrase α .sum) (stop : α) :
    (⟨done, .expression purpose .start⟩ : Draft α).run entry
        (expr.yield ++ [(.token .semicolon, stop)]) =
      some ⟨purpose.sentence expr stop :: done, .idle⟩ := by
  obtain ⟨progress, hrun, hfinish⟩ := Progress.run_yield expr
  simp [run_expression hrun, step_semicolon hfinish]

theorem step_named (done : List (Sentence α)) (name : List Char) (mark : α) (leaf : Leaf α)
    (hleaf : leaf.1 ≠ .token .assign) :
    (⟨done, .named name mark⟩ : Draft α).step? entry leaf =
      (⟨done, .expression (.eval mark) (Stage.afterName name mark)⟩ : Draft α).step?
        entry leaf := by
  obtain ⟨terminal, other⟩ := leaf
  rcases terminal with token | keyword
  · cases token <;> first | rfl | exact absurd rfl hleaf
  · rfl

theorem run_eval {done : List (Sentence α)} (hadmits : entry = .file ∨ done = [])
    (expr : Phrase α .sum) (stop : α) :
    (⟨done, .idle⟩ : Draft α).run entry (expr.yield ++ [(.token .semicolon, stop)]) =
      some ⟨.eval expr stop :: done, .idle⟩ := by
  have hrun (mark : α) := run_expression_semicolon entry done (.eval mark) expr stop
  obtain ⟨leaf, rest, hyield⟩ := List.exists_cons_of_ne_nil expr.yield_ne_nil
  obtain ⟨progress, hexpr, -⟩ := Progress.run_yield expr
  rw [hyield, Progress.run_cons] at hexpr
  obtain ⟨middle, hstep, hrest⟩ := Option.bind_eq_some_iff.mp hexpr
  have hkind := Progress.ne_semicolon_of_step hstep
  obtain ⟨terminal, mark⟩ := leaf
  specialize hrun mark
  simp only [hyield, List.cons_append, run_cons,
    step_expression done (.eval mark) .start _ hkind.1] at hrun ⊢
  rw [← show (Purpose.eval mark).sentence expr stop = .eval expr stop from rfl, ← hrun]
  -- Only a name is kept apart, since it may turn out to be bound.
  rcases terminal with token | keyword
  · cases token with
    | name text =>
        simp only [step?, Admits, hadmits, implies_true, if_true, Stage.step?, Option.map_some,
          Option.bind_some, Progress.start, Progress.step?]
        cases rest with
        | nil => simp [step_named, Progress.supply, Progress.signed, Stage.afterName,
            Pending.completeProduct]
        | cons second rest =>
            rw [Progress.run_cons] at hrest
            obtain ⟨_, hsecond, -⟩ := Option.bind_eq_some_iff.mp hrest
            rw [List.cons_append, run_cons,
              step_named done text mark second (Progress.ne_semicolon_of_step hsecond).2.1]
            simp [Progress.supply, Progress.signed, Stage.afterName, Pending.completeProduct]
    | semicolon => exact absurd rfl hkind.1
    | _ => simp [step?, Admits, hadmits, Stage.step?, Stage.stepExpression?, Function.comp_def]
  · exact absurd rfl (hkind.2.2 keyword)

theorem run_sentence {done : List (Sentence α)} (hadmits : entry = .file ∨ done = [])
    (sentence : Sentence α) :
    (⟨done, .idle⟩ : Draft α).run entry sentence.yield = some ⟨sentence :: done, .idle⟩ := by
  cases sentence with
  | eval expr stop => exact run_eval hadmits expr stop
  | define name mark assign expr stop =>
      have h := run_expression_semicolon entry done (.define name mark assign) expr stop
      simpa [Sentence.yield, Sentence.body, Sentence.semicolon, step?, Admits, hadmits,
        Stage.step?, Purpose.sentence] using h
  | display keyword expr stop =>
      have h := run_expression_semicolon entry done (.display keyword) expr stop
      simpa [Sentence.yield, Sentence.body, Sentence.semicolon, step?, Admits, hadmits,
        Stage.step?, Purpose.sentence] using h
  | load | listing | help =>
      simp [Sentence.yield, Sentence.body, Sentence.semicolon, step?, Admits, hadmits, Stage.step?]

theorem run_yieldAll (done sentences : List (Sentence α)) :
    (⟨done, .idle⟩ : Draft α).run .file (yieldAll sentences) =
      some ⟨sentences.reverse ++ done, .idle⟩ := by
  induction sentences generalizing done with
  | nil => rfl
  | cons sentence sentences ih =>
      rw [yieldAll_cons, run_append, run_sentence (.inl rfl), Option.bind_some, ih]
      simp

theorem run_of_derives {sentences : List (Sentence α)} {leaves : List (Leaf α)}
    (h : Derives entry sentences leaves) :
    ({} : Draft α).run entry leaves = some ⟨sentences.reverse, .idle⟩ := by
  obtain ⟨hadmits, rfl⟩ := h
  rcases hadmits with rfl | hlength
  · simpa using run_yieldAll [] sentences
  · obtain ⟨sentence, rfl⟩ := List.length_eq_one_iff.mp hlength
    have hadmits : entry = .file ∨ ([] : List (Sentence α)) = [] := .inr rfl
    simpa using run_sentence hadmits sentence

end Draft

/-- A text has one derivation at most. -/
theorem Derives.unique {entry : Entry} {first second : List (Sentence α)} {leaves : List (Leaf α)}
    (h : Derives entry first leaves) (h' : Derives entry second leaves) : first = second := by
  have hfirst := Draft.run_of_derives h
  rw [Draft.run_of_derives h'] at hfirst
  simpa using hfirst.symm

end LanguageShell.Calculator

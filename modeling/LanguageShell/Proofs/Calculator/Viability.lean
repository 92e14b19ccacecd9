import LanguageShell.Proofs.Calculator.Context

/-!
Tokens that can be continued to a whole text. The reader that keeps its phrases accepts exactly
these: what it has read of a command is completed by an operand, if one is wanted, the parentheses
that are open, and a semicolon. So the first token that is refused is one after which no text can go
on.
-/

namespace LanguageShell.Calculator

variable {α : Type} {entry : Entry}

namespace Draft

/-! ### Completing a command -/

def closings (mark : α) (outer : List (Enclosure α)) : List (Leaf α) :=
  outer.map fun _ => (.token .closeParen, mark)

def Progress.completion (mark : α) : Progress α → List (Leaf α)
  | wanting _ outer => (.token (.number ['0']), mark) :: closings mark outer
  | having _ _ outer => closings mark outer

def Stage.completion (mark : α) : Stage α → List (Leaf α)
  | idle => []
  | expression _ progress => progress.completion mark ++ [(.token .semicolon, mark)]
  | loading _ => [(.token (.quoted ['"', '"']), mark), (.token .semicolon, mark)]
  | named .. | loaded .. | listing _ | help _ => [(.token .semicolon, mark)]

theorem Progress.exists_closed (mark : α) (sum : Pending α .sum) (product : Phrase α .product)
    (outer : List (Enclosure α)) :
    ∃ next expr, (having sum product outer).run (closings mark outer) = some next ∧
      next.finish? = some expr := by
  induction outer generalizing sum product with
  | nil => exact ⟨_, _, rfl, rfl⟩
  | cons enclosure outer ih =>
      obtain ⟨next, expr, hrun, hfinish⟩ := ih enclosure.level.sum
        (enclosure.level.product.completeProduct (signed enclosure.level.signs
          (.ofAtom (.parens enclosure.paren (sum.completeSum product) mark))))
      exact ⟨next, expr, hrun, hfinish⟩

theorem Progress.exists_completed (mark : α) (progress : Progress α) :
    ∃ next expr, progress.run (progress.completion mark) = some next ∧
      next.finish? = some expr := by
  cases progress with
  | wanting level outer =>
      exact Progress.exists_closed mark level.sum (level.product.completeProduct
        (signed level.signs (.ofAtom (.number ['0'] mark)))) outer
  | having sum product outer => exact Progress.exists_closed mark sum product outer

/-- A command that has begun can be completed. -/
theorem exists_completed (mark : α) (done : List (Sentence α)) {stage : Stage α}
    (hstage : stage ≠ .idle) :
    ∃ sentence, (⟨done, stage⟩ : Draft α).run entry (stage.completion mark) =
      some ⟨sentence :: done, .idle⟩ := by
  cases stage with
  | idle => exact absurd rfl hstage
  | expression purpose progress =>
      obtain ⟨next, expr, hrun, hfinish⟩ := progress.exists_completed mark
      refine ⟨purpose.sentence expr mark, ?_⟩
      rw [Stage.completion, run_append, run_expression hrun, Option.bind_some, run_cons,
        step_semicolon hfinish]
      rfl
  | named | loading | loaded | listing | help =>
      exact ⟨_, by simp [Stage.completion, step?, Admits, Stage.step?, Stage.stepExpression?,
        Stage.afterName, Progress.finish?]; rfl⟩

/-! ### Viable tokens -/

/-- Whether there are not too many commands: a single one is not followed by another. -/
def Fits (entry : Entry) (draft : Draft α) : Prop :=
  entry = .file ∨ draft.done = [] ∨ draft.stage = .idle ∧ draft.done.length = 1

theorem fits_step {draft next : Draft α} {leaf : Leaf α} (hfits : draft.Fits entry)
    (h : draft.step? entry leaf = some next) : next.Fits entry := by
  unfold step? at h
  split at h
  case isFalse => cases h
  case isTrue hadmits =>
    obtain ⟨result, _, rfl⟩ := Option.map_eq_some_iff.mp h
    -- A token is read after a whole text only where another command may begin.
    have hdone : entry = .file ∨ draft.done = [] := by
      obtain hfile | hdone | ⟨hidle, _⟩ := hfits
      · exact .inl hfile
      · exact .inr hdone
      · exact hadmits hidle
    obtain hfile | hdone := hdone
    · exact .inl hfile
    · cases result with
      | more => exact .inr (.inl hdone)
      | done => exact .inr (.inr ⟨rfl, by simp [hdone]⟩)

theorem fits_run {draft next : Draft α} {leaves : List (Leaf α)} (hfits : draft.Fits entry)
    (h : draft.run entry leaves = some next) : next.Fits entry := by
  induction leaves generalizing draft with
  | nil =>
      cases h
      exact hfits
  | cons leaf leaves ih =>
      rw [run_cons] at h
      obtain ⟨middle, hstep, hrest⟩ := Option.bind_eq_some_iff.mp h
      exact ih (fits_step hfits hstep) hrest

theorem derives_of_run {leaves : List (Leaf α)} {done : List (Sentence α)}
    (h : ({} : Draft α).run entry leaves = some ⟨done, .idle⟩) (hadmits : entry.Admits done) :
    Derives entry done.reverse leaves := by
  refine ⟨by simpa [Entry.Admits] using hadmits, ?_⟩
  simpa [yield] using yield_run h

end Draft

/-- Tokens can be continued to a whole text exactly if the reader accepts them. -/
theorem viable_iff (mark : α) {leaves : List (Leaf α)} :
    Viable entry leaves ↔ ∃ draft, ({} : Draft α).run entry leaves = some draft := by
  constructor
  · rintro ⟨sentences, rest, hderives⟩
    have hrun := Draft.run_of_derives hderives
    rw [Draft.run_append] at hrun
    obtain ⟨draft, hdraft, -⟩ := Option.bind_eq_some_iff.mp hrun
    exact ⟨draft, hdraft⟩
  · rintro ⟨⟨done, stage⟩, hrun⟩
    have hfits : (⟨done, stage⟩ : Draft α).Fits entry :=
      Draft.fits_run (.inr (.inl rfl)) hrun
    by_cases hidle : stage = .idle
    · subst hidle
      obtain hfile | hdone | ⟨-, hlength⟩ := hfits
      · exact ⟨done.reverse, [], by simpa using Draft.derives_of_run hrun (.inl hfile)⟩
      · obtain rfl : done = [] := hdone
        -- Nothing has been read of a single command, so any one will do.
        have hsample : (⟨[], .idle⟩ : Draft α).run entry (Keyword.help.sample mark).yield =
            some ⟨[Keyword.help.sample mark], .idle⟩ :=
          Draft.run_sentence (.inr rfl) _
        exact ⟨[Keyword.help.sample mark], _, Draft.derives_of_run
          (by rw [Draft.run_append, hrun, Option.bind_some, hsample]) (.inr rfl)⟩
      · exact ⟨done.reverse, [], by simpa using Draft.derives_of_run hrun (.inr hlength)⟩
    · obtain ⟨sentence, hcompleted⟩ := Draft.exists_completed mark done hidle
      have hadmits : entry.Admits (sentence :: done) := by
        obtain hfile | hdone | ⟨hstage, _⟩ := hfits
        · exact .inl hfile
        · exact .inr (by simpa using hdone)
        · exact absurd hstage hidle
      exact ⟨_, _, Draft.derives_of_run
        (by rw [Draft.run_append, hrun, Option.bind_some, hcompleted]) hadmits⟩

/-- A token cannot come next exactly if it is refused after the tokens before it. -/
theorem not_viable_iff {before : List (Leaf α)} {draft : Draft α} {leaf : Leaf α}
    (hdraft : ({} : Draft α).run entry before = some draft) :
    ¬Viable entry (before ++ [leaf]) ↔ draft.step? entry leaf = none := by
  rw [viable_iff leaf.2, Draft.run_append, hdraft, Option.bind_some, Draft.run_cons]
  cases draft.step? entry leaf <;> simp

end LanguageShell.Calculator

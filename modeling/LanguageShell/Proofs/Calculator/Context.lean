import LanguageShell.Proofs.Calculator.Reading

/-!
Words in context. A word that spells a keyword is the keyword wherever the grammar lets the keyword
come next, and otherwise an ordinary name. Keywords can come next exactly where a command begins,
so tokens read in this way are those of sentences that do not begin with a keyword in disguise.
-/

namespace LanguageShell.Calculator

variable {α : Type} {entry : Entry}

/-- Whether the leaves can be continued to those of a whole text. -/
def Viable (entry : Entry) (leaves : List (Leaf α)) : Prop :=
  ∃ sentences rest, Derives entry sentences (leaves ++ rest)

/-- Which part a token plays after others: a name that spells a keyword is the keyword exactly if
that may come next. -/
def PlaysPart (entry : Entry) (before : List (Leaf α)) (token : Token) (leaf : Leaf α) : Prop :=
  leaf.1.spelled = token ∧ ∀ k : Keyword, token = .name k.spelling →
    (leaf.1 = .keyword k ↔ Viable entry (before ++ [(.keyword k, leaf.2)]))

/-- Whether the leaves are the tokens in the parts that they play, one after another. -/
inductive Interprets (entry : Entry) : List (Leaf Extent) → List Lexeme → List (Leaf Extent) → Prop
  | nil (before : List (Leaf Extent)) : Interprets entry before [] []
  | cons {before leaves : List (Leaf Extent)} {lexeme : Lexeme} {lexemes : List Lexeme}
      {terminal : Terminal} (part : PlaysPart entry before lexeme.token (terminal, lexeme.extent))
      (rest : Interprets entry (before ++ [(terminal, lexeme.extent)]) lexemes leaves) :
      Interprets entry before (lexeme :: lexemes) ((terminal, lexeme.extent) :: leaves)

/-- The shortest command of its kind, all of its tokens marked alike. -/
def Keyword.sample (mark : α) : Keyword → Sentence α
  | display => .display mark (.ofProduct (.ofUnary (.ofAtom (.number ['0'] mark)))) mark
  | load => .load mark ['"', '"'] mark mark
  | listing => .listing mark mark
  | help => .help mark mark

theorem Keyword.exists_yield_sample (k : Keyword) (mark : α) :
    ∃ rest, (k.sample mark).yield = (.keyword k, mark) :: rest := by
  cases k <;> exact ⟨_, rfl⟩

/-- A keyword may come next exactly where another command may begin. -/
theorem viable_keyword_iff {before : List (Leaf α)} {draft : Draft α}
    (hdraft : ({} : Draft α).run entry before = some draft) (k : Keyword) (mark : α) :
    Viable entry (before ++ [(.keyword k, mark)]) ↔
      draft.stage = .idle ∧ draft.Admits entry := by
  constructor
  · rintro ⟨sentences, rest, hderives⟩
    have hrun := Draft.run_of_derives hderives
    simp only [List.append_assoc, List.singleton_append, Draft.run_append, hdraft,
      Option.bind_some, Draft.run_cons] at hrun
    obtain ⟨next, hstep, -⟩ := Option.bind_eq_some_iff.mp hrun
    refine ⟨Draft.eq_idle_of_step_keyword hstep, ?_⟩
    unfold Draft.step? at hstep
    split at hstep
    · assumption
    · cases hstep
  · rintro ⟨hidle, hadmits⟩
    obtain ⟨rest, hsample⟩ := k.exists_yield_sample mark
    have hyield := Draft.yield_run hdraft
    simp only [Draft.yield, hidle, Draft.Stage.yield_idle, List.append_nil, List.reverse_nil,
      yieldAll_nil, List.nil_append] at hyield
    refine ⟨draft.done.reverse ++ [k.sample mark], rest, ?_, ?_⟩
    · rcases hadmits hidle with hfile | hdone
      · exact .inl hfile
      · exact .inr (by simp [hdone])
    · simp [hyield, hsample]

theorem Interprets.lexemes_eq {before leaves : List (Leaf Extent)} {lexemes : List Lexeme}
    (h : Interprets entry before lexemes leaves) : leaves.map Leaf.lexeme = lexemes := by
  induction h with
  | nil => rfl
  | cons part _ ih => simp [ih, Leaf.lexeme, part.1]

/-- A terminal that is accepted plays the part of its token unless it is a keyword in disguise. -/
theorem playsPart_iff {before : List (Leaf α)} {draft next : Draft α} {leaf : Leaf α}
    (hdraft : ({} : Draft α).run entry before = some draft)
    (hstep : draft.step? entry leaf = some next) :
    PlaysPart entry before leaf.1.spelled leaf ↔ (draft.stage = .idle → ¬leaf.1.IsDisguised) := by
  have hadmits : draft.Admits entry := by
    unfold Draft.step? at hstep
    split at hstep
    · assumption
    · cases hstep
  obtain ⟨terminal, mark⟩ := leaf
  simp only [PlaysPart, viable_keyword_iff hdraft, hadmits, and_true, true_and]
  constructor
  · rintro hpart hidle ⟨k, rfl⟩
    cases (hpart k rfl).mpr hidle
  · intro hleaf k hk
    constructor
    · rintro rfl
      exact Draft.eq_idle_of_step_keyword hstep
    · intro hidle
      cases terminal with
      | keyword l =>
          have hspelling : l.spelling = k.spelling := by simpa [Terminal.spelled] using hk
          rw [Keyword.spelling_injective hspelling]
      | token token => exact absurd ⟨k, congrArg Terminal.token hk⟩ (hleaf hidle)

theorem interprets_iff_proper {before leaves : List (Leaf Extent)} {draft next : Draft Extent}
    (hdraft : ({} : Draft Extent).run entry before = some draft)
    (hanchored : draft.stage.Anchored) (hproper : draft.Proper)
    (hrun : draft.run entry leaves = some next) :
    Interprets entry before (leaves.map Leaf.lexeme) leaves ↔ next.Proper := by
  induction leaves generalizing before draft with
  | nil =>
      cases hrun
      simp [hproper, Interprets.nil]
  | cons leaf leaves ih =>
      rw [Draft.run_cons] at hrun
      obtain ⟨middle, hstep, hrest⟩ := Option.bind_eq_some_iff.mp hrun
      have hpart := playsPart_iff hdraft hstep
      have hmiddle : ({} : Draft Extent).run entry (before ++ [leaf]) = some middle := by
        simp [hdraft, hstep]
      obtain ⟨terminal, extent⟩ := leaf
      rw [List.map_cons, Leaf.lexeme]
      constructor
      · rintro (_ | ⟨part, rest⟩)
        have hleaf := hpart.mp part
        refine (ih hmiddle (Draft.anchored_step hanchored hstep)
          ((Draft.proper_step hstep).mpr ⟨hproper, fun hyield => ?_⟩) hrest).mp rest
        exact hleaf (Draft.Stage.eq_idle_of_yield hanchored hyield)
      · intro hnext
        have hproper' := Draft.proper_of_run hrest hnext
        have hleaf := ((Draft.proper_step hstep).mp hproper').2
        exact .cons (hpart.mpr fun hidle => hleaf (by simp [hidle]))
          ((ih hmiddle (Draft.anchored_step hanchored hstep) hproper' hrest).mpr hnext)

/-- The tokens of a text are read as its sentences have them exactly if no sentence begins with a
keyword in disguise. -/
theorem interprets_iff {sentences : List (Sentence Extent)} {leaves : List (Leaf Extent)}
    {lexemes : List Lexeme} (hderives : Derives entry sentences leaves) :
    Interprets entry [] lexemes leaves ↔
      leaves.map Leaf.lexeme = lexemes ∧ ∀ sentence ∈ sentences, sentence.Proper := by
  have hempty : ({} : Draft Extent).run entry [] = some {} := rfl
  have hiff := interprets_iff_proper hempty Draft.anchored_empty Draft.proper_empty
    (Draft.run_of_derives hderives)
  simp only [Draft.Proper, List.mem_reverse, Draft.Stage.yield_idle, List.head?_nil, reduceCtorEq,
    false_implies, implies_true, and_true] at hiff
  constructor
  · intro h
    obtain rfl := h.lexemes_eq
    exact ⟨rfl, hiff.mp h⟩
  · rintro ⟨rfl, hproper⟩
    exact hiff.mpr hproper

theorem PlaysPart.unique {before : List (Leaf α)} {token : Token} {first second : Terminal}
    {mark : α} (h : PlaysPart entry before token (first, mark))
    (h' : PlaysPart entry before token (second, mark)) : first = second := by
  obtain ⟨hspelled, hfirst⟩ := h
  obtain ⟨hspelled', hsecond⟩ := h'
  cases first with
  | keyword k =>
      exact ((hsecond k hspelled.symm).mpr ((hfirst k hspelled.symm).mp rfl)).symm
  | token t =>
      cases second with
      | keyword k => exact (hfirst k hspelled'.symm).mpr ((hsecond k hspelled'.symm).mp rfl)
      | token t' => exact congrArg Terminal.token (hspelled.trans hspelled'.symm)

theorem Interprets.unique {before first second : List (Leaf Extent)} {lexemes : List Lexeme}
    (h : Interprets entry before lexemes first) (h' : Interprets entry before lexemes second) :
    first = second := by
  induction h generalizing second with
  | nil =>
      cases h'
      rfl
  | cons part _ ih =>
      obtain _ | ⟨part', rest'⟩ := h'
      obtain rfl := part.unique part'
      rw [ih rest']

end LanguageShell.Calculator

import LanguageShell.Proofs.Calculator.Acceptance
import LanguageShell.Proofs.Calculator.Viability

/-!
Starts of texts. A text consists of words up to its end or up to a place at which there is no word,
and its tokens are read up to the first one that cannot come next. What was read up to a place is a
start: the words before it, and their tokens in the parts that they play, which some text continues.
-/

namespace LanguageShell.Calculator

/-! ### Words up to a place -/

theorem Leads.ofTextAt {words : List Word} {rest : List Char} (h : Leads words rest)
    (offset : Nat) :
    Lexemes.ofTextAt offset (textOf words ++ rest) =
      ⟨Word.lexemesFrom offset words ++
          (Lexemes.ofTextAt (offset + (textOf words).length) rest).list,
        (Lexemes.ofTextAt (offset + (textOf words).length) rest).stuck⟩ := by
  induction words generalizing offset with
  | nil => simp [Word.lexemesFrom]
  | cons word words ih =>
      obtain ⟨hwins, hrest⟩ := h
      obtain ⟨c, front, hword⟩ := List.exists_cons_of_ne_nil (Pattern.ne_nil_of_wins hwins)
      have hlength : word.text.length = front.length + 1 := by rw [hword, List.length_cons]
      have hfirst := first?_of_wins hword hwins
      rw [textOf_cons, List.append_assoc, hword, List.cons_append, Lexemes.ofTextAt, hfirst]
      simp only [List.drop_left, ih hrest, Word.lexemesFrom, Word.token?, hlength, List.length_cons,
        List.length_append, ← Nat.add_assoc, Nat.add_right_comm _ 1]
      cases word.piece <;> simp

/-- Whether the text goes on, but with no word at all. -/
def Sticks (rest : List Char) : Prop :=
  rest ≠ [] ∧ ∀ (pattern : Pattern) (word : List Char), word <+: rest →
    ¬pattern.regex.Matches word

theorem sticks_iff {c : Char} {rest : List Char} :
    Sticks (c :: rest) ↔ Piece.first? c rest = none := by
  constructor
  · rintro ⟨-, hnone⟩
    by_contra hsome
    obtain ⟨⟨piece, n⟩, hfirst⟩ := Option.ne_none_iff_exists'.mp hsome
    obtain ⟨word, hwins, htext, -⟩ := exists_wins_of_first? hfirst
    exact hnone word.pattern word.text ⟨_, htext⟩ hwins.1.1
  · intro hfirst
    rw [Pattern.first?_eq, Option.map_eq_none_iff] at hfirst
    refine ⟨List.cons_ne_nil c rest, fun pattern word hword hmatches => ?_⟩
    have hscans := pattern.scans (c :: rest)
    cases hlength : pattern.length? (c :: rest) with
    | none =>
        rw [hlength] at hscans
        exact hscans word hword hmatches
    | some n =>
        -- Some pattern wins then, if not this one, the one for block comments.
        cases hblock : Pattern.blockComment.length? (c :: rest) with
        | none =>
            have hwinner := Pattern.winner?_eq_some_iff.mpr ⟨hlength, fun _ => hblock⟩
            cases hwinner.symm.trans hfirst
        | some m =>
            have hwinner := Pattern.winner?_eq_some_iff.mpr ⟨hblock, fun hne => absurd rfl hne⟩
            cases hwinner.symm.trans hfirst

theorem Sticks.ofTextAt {rest : List Char} (h : Sticks rest) (offset : Nat) :
    Lexemes.ofTextAt offset rest = ⟨[], some offset⟩ := by
  obtain ⟨c, others, rfl⟩ := List.exists_cons_of_ne_nil h.1
  rw [Lexemes.ofTextAt, sticks_iff.mp h]

/-- Each text consists of words up to its end, or up to a place at which there is none. -/
theorem exists_leads (text : List Char) :
    ∃ words rest, textOf words ++ rest = text ∧ Leads words rest ∧ (rest = [] ∨ Sticks rest) := by
  -- By induction on the length of the text: each word takes at least one character.
  induction hlength : text.length using Nat.strongRecOn generalizing text with
  | ind length ih =>
      cases text with
      | nil => exact ⟨[], [], rfl, trivial, .inl rfl⟩
      | cons c others =>
          cases hfirst : Piece.first? c others with
          | none => exact ⟨[], c :: others, rfl, trivial, .inr (sticks_iff.mpr hfirst)⟩
          | some found =>
              obtain ⟨word, hwins, htext, -⟩ := exists_wins_of_first? hfirst
              have hless : (others.drop found.2).length < length := by
                rw [← hlength, List.length_cons, List.length_drop]
                omega
              obtain ⟨words, rest, hwords, hleads, hrest⟩ := ih _ hless _ rfl
              refine ⟨word :: words, rest, ?_, ⟨hwords ▸ hwins, hleads⟩, hrest⟩
              rw [textOf_cons, List.append_assoc, hwords, htext]

/-- A lexeme is one of the words, and the lexemes before it are those of the words before it. -/
theorem exists_word_of_lexemesFrom {offset : Nat} {words : List Word} {front back : List Lexeme}
    {lexeme : Lexeme} (h : Word.lexemesFrom offset words = front ++ lexeme :: back) :
    ∃ before word after, words = before ++ word :: after ∧
      Word.lexemesFrom offset before = front ∧ word.token? = some lexeme.token ∧
      lexeme.extent = ⟨offset + (textOf before).length,
        offset + (textOf before).length + word.text.length⟩ := by
  induction words generalizing offset front with
  | nil => simp [Word.lexemesFrom] at h
  | cons first words ih =>
      rw [Word.lexemesFrom] at h
      cases htoken : first.token? with
      | none =>
          rw [htoken] at h
          obtain ⟨before, word, after, rfl, rfl, hword, hextent⟩ := ih h
          refine ⟨first :: before, word, after, rfl, by simp [Word.lexemesFrom, htoken], hword, ?_⟩
          simpa [Nat.add_assoc] using hextent
      | some token =>
          rw [htoken] at h
          cases front with
          | nil =>
              obtain ⟨rfl, -⟩ := List.cons.inj h
              exact ⟨[], first, words, rfl, rfl, htoken, by simp⟩
          | cons lexeme front =>
              obtain ⟨rfl, hrest⟩ := List.cons.inj h
              obtain ⟨before, word, after, rfl, rfl, hword, hextent⟩ := ih hrest
              refine ⟨first :: before, word, after, rfl, by simp [Word.lexemesFrom, htoken], hword,
                ?_⟩
              simpa [Nat.add_assoc] using hextent

theorem bounds_of_mem_lexemesFrom {offset : Nat} {words : List Word} {lexeme : Lexeme}
    (h : lexeme ∈ Word.lexemesFrom offset words) :
    lexeme.extent.start ≤ offset + (textOf words).length := by
  obtain ⟨front, back, hsplit⟩ := List.append_of_mem h
  obtain ⟨before, word, after, rfl, -, -, hextent⟩ := exists_word_of_lexemesFrom hsplit
  simp only [hextent, textOf_append, textOf_cons, List.length_append]
  omega

/-! ### What has been read at a place -/

namespace Draft

theorem anchored_run {entry : Entry} {draft next : Draft Extent} {leaves : List (Leaf Extent)}
    (hanchored : draft.stage.Anchored) (h : draft.run entry leaves = some next) :
    next.stage.Anchored := by
  induction leaves generalizing draft with
  | nil =>
      cases h
      exact hanchored
  | cons leaf leaves ih =>
      rw [run_cons] at h
      obtain ⟨middle, hstep, hrest⟩ := Option.bind_eq_some_iff.mp h
      exact ih (anchored_step hanchored hstep) hrest

/-- The reader refuses a token exactly if it cannot come next in any part. -/
theorem step_forget_eq_none_iff {entry : Entry} {before : List (Leaf Extent)}
    {draft : Draft Extent} (hdraft : ({} : Draft Extent).run entry before = some draft)
    (token : Token) (extent : Extent) :
    draft.forget.step? entry ⟨token, extent⟩ = none ↔
      ∀ terminal : Terminal, terminal.spelled = token →
        ¬Viable entry (before ++ [(terminal, extent)]) := by
  have hanchored := anchored_run anchored_empty hdraft
  rw [forget_step hanchored, Option.map_eq_none_iff, ← not_viable_iff hdraft]
  constructor
  · rintro hrefused terminal rfl hviable
    obtain ⟨next, hstep⟩ : ∃ next, draft.step? entry (terminal, extent) = some next :=
      Option.ne_none_iff_exists'.mp fun hnone => (not_viable_iff hdraft).mpr hnone hviable
    by_cases hdisguised : draft.stage = .idle ∧ terminal.IsDisguised
    · -- Where a name in disguise can come next, so can the keyword that it spells.
      obtain ⟨hidle, k, rfl⟩ := hdisguised
      have hadmits : draft.Admits entry := by
        unfold step? at hstep
        split at hstep
        · assumption
        · cases hstep
      have hkeyword : draft.terminal (.name k.spelling) = .keyword k := by
        simp [terminal, hidle, Stage.terminal, Keyword.ofName?_eq_some_iff.mpr rfl]
      refine hrefused ?_
      change Viable entry (before ++ [(draft.terminal (.name k.spelling), extent)])
      rw [hkeyword]
      exact (viable_keyword_iff hdraft k extent).mpr ⟨hidle, hadmits⟩
    · have hpart := terminal_spelled hstep fun hidle hname => hdisguised ⟨hidle, hname⟩
      change ¬Viable entry (before ++ [(draft.terminal terminal.spelled, extent)]) at hrefused
      rw [show draft.terminal terminal.spelled = terminal from hpart] at hrefused
      exact hrefused hviable
  · intro hrefused
    exact hrefused _ (Stage.spelled_terminal draft.stage token)

end Draft

namespace Reading

variable {entry : Entry}

theorem run_append {reading middle : Reading} {front : List Lexeme}
    (h : reading.run entry front = .ok middle) (back : List Lexeme) :
    reading.run entry (front ++ back) = middle.run entry back := by
  induction front generalizing reading with
  | nil =>
      cases h
      rfl
  | cons lexeme front ih =>
      rw [run] at h
      rw [List.cons_append, run]
      cases hstep : reading.step? entry lexeme with
      | none => simp [hstep] at h
      | some next =>
          rw [hstep] at h
          exact ih h

theorem exists_of_run_eq_error {reading : Reading} {lexemes : List Lexeme} {lexeme : Lexeme}
    (h : reading.run entry lexemes = .error lexeme) :
    ∃ front back middle, lexemes = front ++ lexeme :: back ∧
      reading.run entry front = .ok middle ∧ middle.step? entry lexeme = none := by
  induction lexemes generalizing reading with
  | nil => cases h
  | cons first lexemes ih =>
      rw [run] at h
      cases hstep : reading.step? entry first with
      | none =>
          rw [hstep] at h
          obtain rfl := Except.error.inj h
          exact ⟨[], lexemes, reading, rfl, rfl, hstep⟩
      | some next =>
          rw [hstep] at h
          obtain ⟨front, back, middle, rfl, hrun, hrefused⟩ := ih h
          exact ⟨first :: front, back, middle, rfl, by rw [run, hstep]; exact hrun, hrefused⟩

end Reading

/-- The words of a text up to a place, their tokens in the parts that they play, and the rest of
the text. The tokens can be continued to a whole text. -/
structure Start (entry : Entry) (text : List Char) where
  words : List Word
  leaves : List (Leaf Extent)
  rest : List Char
  append_eq : textOf words ++ rest = text
  leads : Leads words rest
  interprets : Interprets entry [] (Word.lexemes words) leaves
  viable : Viable entry leaves

namespace Start

variable {entry : Entry} {text : List Char}

def offset (start : Start entry text) : Nat :=
  (textOf start.words).length

def lastOffset (start : Start entry text) : Nat :=
  ((Word.lexemes start.words).getLast?.map (·.extent.start)).getD 0

/-- Whether a word follows that is a token after which no text can go on, whatever part it
plays. -/
def Refuses (start : Start entry text) (word : Word) (after : List Char) : Prop :=
  start.rest = word.text ++ after ∧ word.pattern.Wins word.text after ∧
    ∃ token, word.token? = some token ∧ ∀ terminal : Terminal, terminal.spelled = token →
      ¬Viable entry (start.leaves ++
        [(terminal, ⟨start.offset, start.offset + word.text.length⟩)])

theorem offset_add_length (start : Start entry text) :
    start.offset + start.rest.length = text.length := by
  rw [offset, ← List.length_append, start.append_eq]

theorem lastOffset_le (start : Start entry text) : start.lastOffset ≤ start.offset := by
  rw [lastOffset]
  cases hlast : (Word.lexemes start.words).getLast? with
  | none => exact Nat.zero_le _
  | some lexeme =>
      simpa [offset] using bounds_of_mem_lexemesFrom (List.mem_of_getLast? hlast)

theorem exists_draft (start : Start entry text) :
    ∃ draft, ({} : Draft Extent).run entry start.leaves = some draft ∧
      Reading.run entry {} (Word.lexemes start.words) = .ok draft.forget := by
  obtain ⟨draft, hdraft⟩ := (viable_iff ⟨0, 0⟩).mp start.viable
  have hlexemes := start.interprets.lexemes_eq
  have hproper : draft.Proper := by
    have hinterprets : Interprets entry [] (start.leaves.map Leaf.lexeme) start.leaves ↔
        draft.Proper :=
      interprets_iff_proper rfl Draft.anchored_empty Draft.proper_empty hdraft
    rw [← hinterprets, hlexemes]
    exact start.interprets
  exact ⟨draft, hdraft, hlexemes ▸ Draft.run_lexemes Draft.anchored_empty hproper hdraft⟩

theorem exists_of_run {words : List Word} {rest : List Char} {reading : Reading}
    (happend : textOf words ++ rest = text) (hleads : Leads words rest)
    (hrun : Reading.run entry {} (Word.lexemes words) = .ok reading) :
    ∃ start : Start entry text, start.words = words ∧ start.rest = rest := by
  obtain ⟨draft, leaves, -, hproper, hdraft, hlexemes⟩ :=
    Draft.exists_run_of_run Draft.anchored_empty Draft.proper_empty hrun
  refine ⟨⟨words, leaves, rest, happend, hleads, ?_, (viable_iff ⟨0, 0⟩).mpr ⟨draft, hdraft⟩⟩,
    rfl, rfl⟩
  rw [← hlexemes]
  exact (interprets_iff_proper rfl Draft.anchored_empty Draft.proper_empty hdraft).mpr hproper

theorem ofText_eq (start : Start entry text) :
    Lexemes.ofText text = ⟨Word.lexemes start.words ++
      (Lexemes.ofTextAt start.offset start.rest).list,
      (Lexemes.ofTextAt start.offset start.rest).stuck⟩ := by
  have h := start.leads.ofTextAt 0
  rwa [start.append_eq, Nat.zero_add] at h

end Start

end LanguageShell.Calculator

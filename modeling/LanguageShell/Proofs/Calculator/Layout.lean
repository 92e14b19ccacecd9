import LanguageShell.Proofs.Calculator.Seam

/-!
Layout. Blanks and comments may be put before and after any token, and other ones in the place of
any comment; the tokens of the text stay the same, and so do its commands. A token cannot grow into
what is put after it, since no token that could grow holds a character with which a gap begins, and
where a star follows a parenthesis there is no gap.
-/

namespace LanguageShell.Calculator

open Pattern

/-! ### Texts without tokens -/

/-- Texts of blanks, of block comments that are closed, and of line comments with the newlines that
end them. -/
inductive Ignorable : List Char → Prop where
  | nil : Ignorable []
  | blank {c : Char} {rest : List Char} (blank : isIgnorable c = true) (h : Ignorable rest) :
      Ignorable (c :: rest)
  | blockComment {inner rest : List Char} (closed : ¬['*', ')'] <:+: inner ++ ['*'])
      (h : Ignorable rest) : Ignorable ('(' :: '*' :: (inner ++ '*' :: ')' :: rest))
  | lineComment {comment rest : List Char} (line : '\n' ∉ comment) (h : Ignorable rest) :
      Ignorable ('#' :: (comment ++ '\n' :: rest))

/-- The characters with which texts without tokens begin. -/
def BeginsGap (c : Char) : Prop :=
  isIgnorable c = true ∨ c = '#' ∨ c = '('

instance (c : Char) : Decidable (BeginsGap c) :=
  inferInstanceAs (Decidable (_ ∨ _ ∨ _))

theorem Ignorable.beginsGap {gap : List Char} (h : Ignorable gap) :
    ∀ c, gap.head? = some c → BeginsGap c := by
  cases h with
  | nil => simp
  | blank hblank _ => simpa [BeginsGap] using .inl hblank
  | blockComment | lineComment => simp [BeginsGap]

theorem commentLength?_of_closed {inner : List Char} (h : ¬['*', ')'] <:+: inner ++ ['*'])
    (rest : List Char) :
    commentLength? (inner ++ '*' :: ')' :: rest) = some (inner.length + 2) := by
  induction inner with
  | nil => rfl
  | cons c inner ih =>
      have hinner : ¬['*', ')'] <:+: inner ++ ['*'] := fun hinfix => h (List.infix_cons hinfix)
      rw [List.cons_append, commentLength?.eq_2, ih hinner]
      · rfl
      · -- A star and a parenthesis at the beginning would close the comment.
        rintro tail rfl htail
        cases inner with
        | nil => simp at htail
        | cons d inner =>
            obtain rfl := (List.cons.inj htail).1
            exact h (List.IsPrefix.isInfix (by simp))

theorem wins_blockComment {inner : List Char} (h : ¬['*', ')'] <:+: inner ++ ['*'])
    (rest : List Char) :
    blockComment.Wins ('(' :: '*' :: (inner ++ ['*', ')'])) rest := by
  refine wins_iff.mpr ⟨?_, fun hne => absurd rfl hne⟩
  have hlength := commentLength?_of_closed h rest
  simp [length?, Regex.openedLength?, hlength]

theorem wins_lineComment {comment rest : List Char} (h : '\n' ∉ comment)
    (hrest : ∀ c, rest.head? = some c → c = '\n') : lineComment.Wins ('#' :: comment) rest := by
  have hall : ∀ c ∈ comment, decide (c ≠ '\n') = true := by
    intro c hc
    rw [decide_eq_true_eq]
    rintro rfl
    exact h hc
  have hstop : rest.takeWhile (· ≠ '\n') = [] := by
    cases rest with
    | nil => rfl
    | cons c rest => simp [hrest c rfl]
  refine wins_of_ne_open (by decide) ?_
  simp only [length?, Regex.headedLength?, decide_true, if_true,
    List.takeWhile_append_of_pos hall, hstop, List.append_nil]

theorem ignorable_of_blockComment {word rest : List Char} (h : blockComment.Wins word rest) :
    Ignorable word := by
  obtain ⟨hmatches, hbest⟩ := h.1
  obtain ⟨opening, _, hopening, hclosing, rfl⟩ := hmatches
  obtain rfl := Regex.matches_literal.mp hopening
  obtain ⟨inner, rfl⟩ := matches_closing.mp hclosing
  refine .blockComment ?_ .nil
  rintro ⟨front, back, hparts⟩
  -- What is closed earlier would be a shorter comment.
  have hother : blockComment.regex.Matches (['(', '*'] ++ (front ++ ['*', ')'])) :=
    ⟨_, _, Regex.matches_literal.mpr rfl, matches_closing.mpr ⟨front, rfl⟩, rfl⟩
  have hstart : ['(', '*'] ++ (front ++ ['*', ')']) <+: ['(', '*'] ++ (inner ++ ['*', ')']) ++ rest := by
    refine ⟨back ++ [')'] ++ rest, ?_⟩
    have hinner : inner ++ ['*', ')'] = front ++ ['*', ')'] ++ back ++ [')'] := by
      rw [hparts, List.append_assoc]
      rfl
    simp [hinner]
  have hle := hbest _ hstart hother
  have hlength := congrArg List.length hparts
  simp only [isLazy, decide_true, if_true, List.length_append, List.length_cons,
    List.length_nil] at hle hlength
  omega

theorem ignorable_of_forall {blanks : List Char} (h : ∀ c ∈ blanks, isIgnorable c = true) :
    Ignorable blanks := by
  induction blanks with
  | nil => exact .nil
  | cons c blanks ih =>
      obtain ⟨hc, hblanks⟩ := List.forall_mem_cons.mp h
      exact .blank hc (ih hblanks)

theorem Splits.exists_blank {text : List Char} {words : List Word} (h : Splits text words) {c : Char}
    (hc : isIgnorable c = true) :
    ∃ others, Splits (c :: text) others ∧
      others.filterMap Word.token? = words.filterMap Word.token? := by
  obtain ⟨blanks, rest, back, rfl, rfl, hblanks, hrest, hback⟩ := h.exists_blanks
  have hall : ∀ d ∈ c :: blanks, isIgnorable d = true := List.forall_mem_cons.mpr ⟨hc, hblanks⟩
  exact ⟨_, hback.blanks hall hrest, by simp [filterMap_blanksOf]⟩

theorem Ignorable.exists_splits {gap text : List Char} {words : List Word} (h : Ignorable gap)
    (htext : Splits text words) :
    ∃ others, Splits (gap ++ text) others ∧
      others.filterMap Word.token? = words.filterMap Word.token? := by
  induction h with
  | nil => exact ⟨words, htext, rfl⟩
  | blank hblank _ ih =>
      obtain ⟨others, hothers, htokens⟩ := ih
      obtain ⟨more, hmore, hsame⟩ := hothers.exists_blank hblank
      exact ⟨more, hmore, hsame.trans htokens⟩
  | blockComment hclosed _ ih =>
      obtain ⟨others, hothers, htokens⟩ := ih
      have hsplits := Splits.prepend (wins_blockComment hclosed _) hothers
      simp only [List.cons_append, List.append_assoc, List.nil_append] at hsplits ⊢
      exact ⟨_, hsplits, htokens⟩
  | lineComment hline _ ih =>
      obtain ⟨others, hothers, htokens⟩ := ih
      obtain ⟨more, hmore, hsame⟩ := hothers.exists_blank (c := '\n') (by decide)
      have hsplits := Splits.prepend (wins_lineComment hline (by simp)) hmore
      simp only [List.cons_append, List.append_assoc] at hsplits ⊢
      exact ⟨_, hsplits, hsame.trans htokens⟩

/-! ### Texts that are laid out anew -/

/-- Whether the text consists of the words, but for text without tokens before and after tokens and
in the place of comments. -/
inductive Relaid : List Word → List Char → Prop where
  | nil : Relaid [] []
  | token {word : Word} {words : List Word} {before after text : List Char}
      (token : word.token? ≠ none) (hbefore : Ignorable before) (hafter : Ignorable after)
      (rest : Relaid words text) :
      Relaid (word :: words) (before ++ (word.text ++ (after ++ text)))
  | comment {word : Word} {words : List Word} {gap text : List Char}
      (comment : word.pattern = .lineComment ∨ word.pattern = .blockComment)
      (hgap : Ignorable gap) (hne : gap ≠ []) (rest : Relaid words text) :
      Relaid (word :: words) (gap ++ text)
  | between {word : Word} {words : List Word} {text : List Char} (between : word.token? = none)
      (rest : Relaid words text) : Relaid (word :: words) (word.text ++ text)

/-- Whether the second text is like the first one up to its end, or up to where a gap begins in
it. -/
def Departs (text other : List Char) : Prop :=
  ∃ common rest gap, text = common ++ rest ∧ other = common ++ gap ∧
    ∀ c, gap.head? = some c → BeginsGap c

namespace Departs

variable {text other : List Char}

theorem prepend (h : Departs text other) (front : List Char) :
    Departs (front ++ text) (front ++ other) := by
  obtain ⟨common, rest, gap, rfl, rfl, hgap⟩ := h
  exact ⟨front ++ common, rest, gap, by simp, by simp, hgap⟩

theorem of_gap (text : List Char) {gap : List Char} (hgap : Ignorable gap) (hne : gap ≠ [])
    (more : List Char) : Departs text (gap ++ more) := by
  refine ⟨[], text, gap ++ more, rfl, rfl, ?_⟩
  rw [List.head?_append_of_ne_nil _ hne]
  exact hgap.beginsGap

theorem insert (h : Departs text other) {gap : List Char} (hgap : Ignorable gap) :
    Departs text (gap ++ other) := by
  by_cases hne : gap = []
  · rwa [hne]
  · exact of_gap text hgap hne other

end Departs

theorem Departs.head?_ne_star {text other : List Char} (h : Departs text other)
    (hstar : text.head? ≠ some '*') : other.head? ≠ some '*' := by
  obtain ⟨common, rest, gap, rfl, rfl, hgap⟩ := h
  cases common with
  | nil =>
      intro hhead
      exact absurd (hgap '*' hhead) (by decide)
  | cons c common => exact hstar

theorem Relaid.departs {words : List Word} {text : List Char} (h : Relaid words text) :
    Departs (textOf words) text := by
  induction h with
  | nil => exact ⟨[], [], [], rfl, rfl, by simp⟩
  | token _ hbefore hafter _ ih =>
      rw [textOf_cons]
      exact ((ih.insert hafter).prepend _).insert hbefore
  | comment _ hgap hne _ _ => exact .of_gap _ hgap hne _
  | between _ _ ih =>
      rw [textOf_cons]
      exact ih.prepend _

/-! ### Tokens -/

theorem not_beginsGap {c : Char} (hplain : Segment.IsPlain c) (hsolid : IsSolid c) :
    ¬BeginsGap c := by
  rintro (hblank | rfl | rfl)
  · exact absurd (isBlank_of_isIgnorable hblank) (by simp [hsolid.1])
  · exact hplain.2.1 rfl
  · exact hplain.2.2 rfl

/-- Only names and numbers can be taken in several lengths, strings apart, and no gap begins with
one of their characters. -/
theorem Pattern.eq_or_not_beginsGap {pattern : Pattern} {word other : List Char}
    (htoken : (Word.mk pattern word).token? ≠ none) (hquoted : pattern ≠ quoted)
    (h : pattern.regex.Matches word) (h' : pattern.regex.Matches other) :
    other = word ∨ ∀ c ∈ other, ¬BeginsGap c := by
  cases pattern with
  | blank | lineComment | blockComment => exact absurd rfl htoken
  | quoted => exact absurd rfl hquoted
  | name =>
      right
      intro c hc
      have hpart := isNamePart_of_mem_name h' c hc
      exact not_beginsGap (isPlain_of_isNamePart hpart) (isSolid_of_isNamePart hpart)
  | number =>
      right
      intro c hc
      have hpart := isDigit_or_of_mem_number h' c hc
      exact not_beginsGap (isPlain_of_number hpart) (isSolid_of_number hpart)
  | _ => exact .inl ((Regex.matches_literal.mp h').trans (Regex.matches_literal.mp h).symm)

theorem prefix_of_not_beginsGap {part front gap : List Char} (h : part <+: front ++ gap)
    (hpart : ∀ c ∈ part, ¬BeginsGap c) (hgap : ∀ c, gap.head? = some c → BeginsGap c) :
    part <+: front := by
  rcases List.prefix_or_prefix_of_prefix h (List.prefix_append front gap) with hshort | ⟨more, rfl⟩
  · exact hshort
  · cases more with
    | nil => simp
    | cons c more =>
        obtain ⟨back, hback⟩ := (List.prefix_append_right_inj front).mp h
        refine absurd (hgap c ?_) (hpart c (by simp))
        rw [← hback]
        rfl

theorem Pattern.Wins.departs {pattern : Pattern} {word rest other : List Char}
    (h : pattern.Wins word rest) (htoken : (Word.mk pattern word).token? ≠ none)
    (hother : Departs rest other) (hstar : pattern = .openParen → rest.head? ≠ some '*') :
    pattern.Wins word other := by
  refine ⟨?_, fun rival hrival part hpart hmatches => ?_⟩
  · by_cases hquoted : pattern = quoted
    · subst hquoted
      exact (h.truncate List.nil_prefix).1.append other
    · refine ⟨h.1.1, fun part hpart hmatches => ?_⟩
      rcases eq_or_not_beginsGap htoken hquoted h.1.1 hmatches with rfl | hgap
      · split <;> exact Nat.le_refl _
      · obtain ⟨common, back, gap, rfl, rfl, hbegins⟩ := hother
        -- The part ends before the gap, so it was a part of the text before.
        rw [← List.append_assoc] at hpart
        have hstart := prefix_of_not_beginsGap hpart hgap hbegins
        refine h.1.2 part (hstart.trans ?_) hmatches
        rw [← List.append_assoc]
        exact List.prefix_append _ _
  · have hne : pattern ≠ blockComment := by
      rintro rfl
      exact htoken rfl
    obtain rfl : rival = blockComment := by
      cases rival <;> first | rfl | exact absurd hrival (Nat.not_lt_zero _)
    obtain ⟨rfl, -, hhead⟩ := h.eq_openParen hne hpart hmatches
    exact hother.head?_ne_star (hstar rfl) hhead

theorem Relaid.head?_newline {words : List Word} {text other : List Char} (h : Relaid words other)
    (hsplits : Splits text words) (htext : ∀ c, text.head? = some c → c = '\n') :
    ∀ c, other.head? = some c → c = '\n' := by
  cases hsplits with
  | nil =>
      cases h
      simp
  | @cons word rest words wins tail =>
      obtain ⟨c, inner, hword⟩ := List.exists_cons_of_ne_nil (ne_nil_of_wins wins)
      obtain rfl : c = '\n' := htext c (by rw [hword]; rfl)
      have hblank : word.pattern = .blank := by
        by_contra hne
        exact absurd (wins.not_isIgnorable hne (by rw [hword]; rfl)) (by decide)
      cases h with
      | token htoken => exact absurd (by simp [Word.token?, Word.piece, hblank, piece]) htoken
      | comment hcomment => simp [hblank] at hcomment
      | between => simp [hword]

/-- What stands between tokens holds none, but that a line comment is not ended by itself. -/
theorem Pattern.Wins.ignorable_or_lineComment {word : Word} {rest : List Char}
    (h : word.pattern.Wins word.text rest) (hbetween : word.token? = none) :
    Ignorable word.text ∨ word.pattern = .lineComment := by
  obtain ⟨pattern, text⟩ := word
  cases pattern with
  | blank => exact .inl (ignorable_of_forall (wins_blank_iff.mp h).2.1)
  | blockComment => exact .inl (ignorable_of_blockComment h)
  | lineComment => exact .inr rfl
  | _ => cases hbetween

theorem wins_lineComment_of_head? {word rest other : List Char} (h : lineComment.Wins word rest)
    (hother : (∀ c, rest.head? = some c → c = '\n') → ∀ c, other.head? = some c → c = '\n') :
    lineComment.Wins word other := by
  obtain ⟨c, comment, rfl, hc, hcomment⟩ := Regex.matches_headed.mp h.1.1
  obtain rfl : c = '#' := by simpa using hc
  refine wins_lineComment (fun hmem => absurd (hcomment _ hmem) (by decide)) (hother ?_)
  rintro d hd
  obtain ⟨back, rfl⟩ := List.head?_eq_some_iff.mp hd
  by_contra hne
  -- Otherwise the comment would go on.
  have hlonger : lineComment.regex.Matches ('#' :: (comment ++ [d])) := by
    refine Regex.matches_headed.mpr ⟨'#', _, rfl, by simp, ?_⟩
    simpa [or_imp, forall_and, hne] using hcomment
  have hle := h.1.2 _ ⟨back, by simp⟩ hlonger
  simp [isLazy] at hle

theorem Relaid.exists_splits {words : List Word} {text other : List Char} (h : Relaid words other)
    (hsplits : Splits text words)
    (hchain : (words.filterMap Word.token?).IsChain Token.MayPrecede) :
    ∃ others, Splits other others ∧
      others.filterMap Word.token? = words.filterMap Word.token? := by
  induction h generalizing text with
  | nil => exact ⟨[], .nil, rfl⟩
  | @token word words before after back htoken hbefore hafter hback ih =>
      have hhead := hsplits.leads.head?_ne_star hchain (by simp)
      cases hsplits with
      | @cons _ rest _ wins tail =>
          obtain ⟨others, hothers, hsame⟩ := ih tail (isChain_filterMap_of_cons hchain)
          obtain ⟨more, hmore, hafter'⟩ := hafter.exists_splits hothers
          have hdeparts := hback.departs.insert hafter
          rw [List.append_nil, tail.textOf_eq] at hhead
          rw [tail.textOf_eq] at hdeparts
          have hword := wins.departs htoken hdeparts hhead
          obtain ⟨all, hall, hbefore'⟩ := hbefore.exists_splits (.prepend hword hmore)
          refine ⟨all, hall, ?_⟩
          rw [hbefore']
          simp [List.filterMap_cons, hafter', hsame]
  | @comment word _ gap _ hcomment hgap _ _ ih =>
      cases hsplits with
      | cons wins tail =>
          obtain ⟨others, hothers, hsame⟩ := ih tail (isChain_filterMap_of_cons hchain)
          obtain ⟨all, hall, htokens⟩ := hgap.exists_splits hothers
          have hnone : word.token? = none := by
            rcases hcomment with hline | hblock
            · simp [Word.token?, Word.piece, hline, piece]
            · simp [Word.token?, Word.piece, hblock, piece]
          exact ⟨all, hall, by rw [htokens, hsame, List.filterMap_cons_none hnone]⟩
  | @between word _ back hbetween hback ih =>
      cases hsplits with
      | cons wins tail =>
          obtain ⟨others, hothers, hsame⟩ := ih tail (isChain_filterMap_of_cons hchain)
          rw [List.filterMap_cons_none hbetween, ← hsame]
          rcases wins.ignorable_or_lineComment hbetween with hignorable | hline
          · exact hignorable.exists_splits hothers
          · obtain ⟨pattern, text⟩ := word
            obtain rfl : pattern = .lineComment := hline
            have hword := wins_lineComment_of_head? wins (hback.head?_newline tail)
            exact ⟨_, .prepend hword hothers, List.filterMap_cons_none hbetween⟩

/-! ### Commands -/

theorem exists_parse_of_tokens {entry : Entry} {source other : Source}
    {commands : List (Command Place)} (hparse : parse entry source = .ok commands)
    {words others : List Word} (hsplits : Splits source.text words)
    (hother : Splits other.text others)
    (htokens : others.filterMap Word.token? = words.filterMap Word.token?) :
    ∃ same, parse entry other = .ok same ∧
      same.map (·.map fun _ => ()) = commands.map (·.map fun _ => ()) := by
  obtain ⟨analysis, hreadable, rfl⟩ := parse_eq_ok_iff.mp hparse
  obtain rfl := analysis.splits.unique hsplits
  obtain ⟨-, hproper⟩ := (interprets_iff analysis.derives).mp analysis.interprets
  rw [analysis.filterMap_token?] at htokens
  obtain ⟨another, rfl, hshapes⟩ :=
    exists_analysis_of_tokens hother analysis.derives.1 htokens hproper
  refine ⟨another.commands, parse_eq_ok_iff.mpr ⟨another, ?_, rfl⟩, ?_⟩
  · rw [another.isReadable_iff_tokens, htokens, ← analysis.filterMap_token?]
    exact analysis.isReadable_iff_tokens.mp hreadable
  · rw [another.map_commands, hshapes, analysis.map_commands]

/-- Layout does not matter. A text that is parsed, as a file or as a single command, is parsed as
the same commands, places apart, if its comments are replaced by other texts without tokens that are
not empty and such texts are put before and after its tokens. -/
theorem layout_does_not_matter {source other : Source} {words : List Word}
    (hsplits : Splits source.text words) (hother : Relaid words other.text) :
    (∀ commands, parseFile source = .ok commands → ∃ same, parseFile other = .ok same ∧
      same.map (·.map fun _ => ()) = commands.map (·.map fun _ => ())) ∧
    ∀ command, parseSingle source = .ok command → ∃ same, parseSingle other = .ok same ∧
      same.map (fun _ => ()) = command.map fun _ => () := by
  have hall : ∀ entry commands, parse entry source = .ok commands →
      ∃ same, parse entry other = .ok same ∧
        same.map (·.map fun _ => ()) = commands.map (·.map fun _ => ()) := by
    intro entry commands hparse
    obtain ⟨analysis, -, -⟩ := parse_eq_ok_iff.mp hparse
    have hchain := analysis.isChain
    rw [analysis.splits.unique hsplits] at hchain
    obtain ⟨others, hothers, htokens⟩ := hother.exists_splits hsplits hchain
    exact exists_parse_of_tokens hparse hsplits hothers htokens
  refine ⟨hall .file, fun command hparse => ?_⟩
  obtain ⟨same, hsame, hshape⟩ :=
    hall .single [command] (parse_eq_ok_iff.mpr (parseSingle_eq_ok_iff.mp hparse))
  obtain ⟨another, rfl, hanother⟩ := List.map_eq_singleton_iff.mp hshape
  exact ⟨another, parseSingle_eq_ok_iff.mpr (parse_eq_ok_iff.mp hsame), hanother⟩

/-- A blank in the place of a comment, and a comment after a sign. -/
theorem layout_of_product_does_not_matter :
    ∃ command same, parseSingle (.ofString "show 2(*a*)*x;#") = .ok command ∧
      parseSingle (.ofString "show 2 *(*;*)x;#") = .ok same ∧
      same.map (fun _ => ()) = command.map fun _ => () := by
  let source := Source.ofString "show 2(*a*)*x;#"
  let other := Source.ofString "show 2 *(*;*)x;#"
  obtain ⟨command, hparse⟩ : ∃ command, parseSingle source = .ok command :=
    ⟨_, by unfold source; cbv⟩
  let words : List Word := [⟨.name, ['s', 'h', 'o', 'w']⟩, ⟨.blank, [' ']⟩, ⟨.number, ['2']⟩,
    ⟨.blockComment, ['(', '*', 'a', '*', ')']⟩, ⟨.star, ['*']⟩, ⟨.name, ['x']⟩,
    ⟨.semicolon, [';']⟩, ⟨.lineComment, ['#']⟩]
  have hsplits : Splits source.text words := by decide
  have hclosed : ¬['*', ')'] <:+: [';'] ++ ['*'] := by decide
  have hcomment : Ignorable ['(', '*', ';', '*', ')'] := .blockComment hclosed .nil
  obtain ⟨text, hrelaid, htext⟩ : ∃ text, Relaid words text ∧ other.text = text :=
    ⟨_, .token (by decide) .nil .nil <| .between rfl <| .token (by decide) .nil .nil <|
      .comment (.inr rfl) (.blank (c := ' ') rfl .nil) (by decide) <|
      .token (by decide) .nil hcomment <| .token (by decide) .nil .nil <|
      .token (by decide) .nil .nil <| .between rfl .nil, by unfold other; rfl⟩
  obtain ⟨-, hsingle⟩ := layout_does_not_matter hsplits (htext ▸ hrelaid)
  obtain ⟨same, hsame, hshape⟩ := hsingle command hparse
  exact ⟨command, same, hparse, hsame, hshape⟩

end LanguageShell.Calculator

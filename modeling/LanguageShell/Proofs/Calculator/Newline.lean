import LanguageShell.Calculator.Language
import LanguageShell.Proofs.Calculator.Acceptance
import LanguageShell.Proofs.Escape
import LanguageShell.Proofs.Shell

/-!
Newlines in texts that split into words. A newline stands among blanks, in a block comment, or in a
string. A text that is cut before a newline among blanks splits into the words before it; one that
is cut in a block comment has an open comment; and whether one that is cut in a string ends a
command shows in the beginning of the string alone.
-/

namespace LanguageShell.Calculator

namespace Pattern

open Regex

theorem eq_of_newline_mem {pattern : Pattern} {word : List Char} (h : pattern.regex.Matches word)
    (hnewline : '\n' ∈ word) : pattern = .blank ∨ pattern = .blockComment ∨ pattern = .quoted := by
  cases pattern with
  | blank | blockComment | quoted => simp
  | lineComment =>
      obtain ⟨c, rest, rfl, hc, hrest⟩ := matches_headed.mp h
      obtain rfl | hmem := List.mem_cons.mp hnewline
      · exact absurd hc (by decide)
      · exact absurd (hrest _ hmem) (by decide)
  | name => exact absurd (isNamePart_of_mem_name h _ hnewline) (by decide)
  | number =>
      obtain hdigit | hsign := isDigit_or_of_mem_number h _ hnewline
      · exact absurd hdigit (by decide)
      · exact absurd hsign (by simp [IsNumberSign])
  | _ =>
      obtain rfl := matches_literal.mp h
      exact absurd hnewline (by decide)

theorem eq_blank_of_newline {pattern : Pattern} {front : List Char}
    (h : pattern.regex.Matches (front ++ ['\n'])) : pattern = .blank := by
  obtain rfl | rfl | rfl := eq_of_newline_mem h (by simp)
  · rfl
  · obtain ⟨opening, rest, _, ⟨inner, closing, _, hclosing, rfl⟩, hword⟩ := h
    obtain rfl := matches_literal.mp hclosing
    have hlast := congrArg List.getLast? hword
    simp at hlast
  · obtain ⟨opening, rest, _, ⟨inner, closing, _, hclosing, rfl⟩, hword⟩ := h
    obtain rfl := matches_literal.mp hclosing
    have hlast := congrArg List.getLast? hword
    simp at hlast

/-- A word that is not the last one, or not of blanks, is taken as before if a newline is added to
the text. -/
theorem Wins.append_newline {pattern : Pattern} {word rest : List Char} (h : pattern.Wins word rest)
    (hrest : pattern = .blank → rest ≠ []) : pattern.Wins word (rest ++ ['\n']) := by
  refine h.concat (fun hmatch => ?_) fun rival hrival hmatch => ?_
  · obtain rfl := eq_blank_of_newline hmatch
    obtain ⟨hne, hall⟩ := matches_several_char.mp hmatch
    have hblanks : blank.regex.Matches (word ++ rest) := by
      refine matches_several_char.mpr ⟨by simp [hrest rfl], fun c hc => hall c ?_⟩
      exact List.mem_append_left _ hc
    have hle : word.length + rest.length ≤ word.length := by
      simpa [isLazy] using h.1.2 _ List.prefix_rfl hblanks
    have hpositive := List.length_pos_of_ne_nil (hrest rfl)
    omega
  · rw [eq_blank_of_newline hmatch] at hrival
    exact absurd hrival (Nat.not_lt_zero _)

end Pattern

open Pattern

def blanksOf (text : List Char) : List Word :=
  if text = [] then [] else [⟨.blank, text⟩]

theorem filterMap_blanksOf (text : List Char) : (blanksOf text).filterMap Word.token? = [] := by
  unfold blanksOf
  split <;> rfl

theorem Splits.blanks {blanks rest : List Char} {words : List Word} (h : Splits rest words)
    (hblanks : ∀ c ∈ blanks, isIgnorable c = true)
    (hrest : ∀ c, rest.head? = some c → isIgnorable c = false) :
    Splits (blanks ++ rest) (blanksOf blanks ++ words) := by
  unfold blanksOf
  split
  · rename_i hnil
    rwa [hnil]
  · rename_i hne
    exact .prepend (wins_blank_iff.mpr ⟨hne, hblanks, hrest⟩) h

theorem splits_line_end {blanks : List Char} (h : ∀ c ∈ blanks, isIgnorable c = true) :
    Splits (blanks ++ ['\n']) [⟨.blank, blanks ++ ['\n']⟩] := by
  have hnewline : isIgnorable '\n' = true := by decide
  have hwins : blank.Wins (blanks ++ ['\n']) [] :=
    wins_blank_iff.mpr ⟨by simp, by simpa [or_imp, forall_and] using ⟨h, hnewline⟩, by simp⟩
  simpa using Splits.prepend hwins .nil

/-- A newline at the end of a text changes nothing but the blanks at its end. -/
theorem Splits.append_newline {text : List Char} {words : List Word} (h : Splits text words) :
    ∃ front ending blanks, words = front ++ ending ∧ (∀ word ∈ ending, word.token? = none) ∧
      Splits (text ++ ['\n']) (front ++ [⟨.blank, blanks⟩]) := by
  induction h with
  | nil =>
      exact ⟨[], [], ['\n'], rfl, by simp, splits_line_end (by simp)⟩
  | @cons word rest words wins tail ih =>
      by_cases hlast : word.pattern = .blank ∧ rest = []
      · obtain ⟨hblank, rfl⟩ := hlast
        obtain rfl : words = [] := tail.unique .nil
        obtain ⟨pattern, blanks⟩ := word
        obtain rfl : pattern = .blank := hblank
        obtain ⟨-, hall, -⟩ := wins_blank_iff.mp wins
        refine ⟨[], [_], blanks ++ ['\n'], rfl, by simp [Word.token?, Word.piece, piece], ?_⟩
        rw [List.append_nil]
        exact splits_line_end hall
      · obtain ⟨front, ending, blanks, rfl, hending, hsplits⟩ := ih
        refine ⟨word :: front, ending, blanks, rfl, hending, ?_⟩
        rw [List.append_assoc]
        exact .cons (wins.append_newline fun hblank hnil => hlast ⟨hblank, hnil⟩) hsplits

/-! ### Texts that are cut before a newline -/

theorem exists_word_of_textOf {words : List Word} {ending front back : List Char} {c : Char}
    (h : textOf words ++ ending = front ++ c :: back) (hc : c ∉ ending) :
    ∃ before word after first last, words = before ++ word :: after ∧
      word.text = first ++ c :: last ∧ front = textOf before ++ first := by
  induction words generalizing front with
  | nil =>
      rw [textOf_nil, List.nil_append] at h
      exact absurd (by simp [h]) hc
  | cons word words ih =>
      rw [textOf_cons, List.append_assoc] at h
      obtain ⟨middle, rfl, hrest⟩ | ⟨last, hword⟩ :
          (∃ middle, front = word.text ++ middle ∧ textOf words ++ ending = middle ++ c :: back) ∨
            ∃ last, word.text = front ++ c :: last := by
        obtain ⟨middle, hfront, hrest⟩ | ⟨_ | ⟨d, last⟩, hword, hrest⟩ :=
          List.append_eq_append_iff.mp h
        · exact .inl ⟨middle, hfront, hrest⟩
        · exact .inl ⟨[], by simpa using hword.symm, hrest.symm⟩
        · exact .inr ⟨last, by rw [hword, (List.cons.inj hrest).1]⟩
      · obtain ⟨before, other, after, first, last, rfl, hother, rfl⟩ := ih hrest
        exact ⟨word :: before, other, after, first, last, rfl, hother, by simp⟩
      · exact ⟨[], word, words, front, last, rfl, hword, rfl⟩

theorem endsCommand_blanks {words : List Word} {blanks : List Char} (h : Leads words blanks)
    (hblanks : ∀ c ∈ blanks, isIgnorable c = true)
    (hchain : (words.filterMap Word.token?).IsChain Token.MayPrecede) :
    endsCommand (textOf words ++ blanks) = true ↔
      (words.filterMap Word.token?).getLast? = some .semicolon := by
  have hending : Splits blanks (blanksOf blanks) := by
    simpa using Splits.blanks .nil hblanks (by simp)
  have hsplits := h.splits hending
  have htokens : (words ++ blanksOf blanks).filterMap Word.token? =
      words.filterMap Word.token? := by
    simp [filterMap_blanksOf]
  rw [endsCommand_iff hsplits (htokens ▸ hchain), htokens]

theorem not_endsCommand_comment {words : List Word} {word rest front back : List Char}
    (h : Leads words (word ++ rest)) (hword : Pattern.blockComment.Wins word rest)
    (hchain : (words.filterMap Word.token?).IsChain Token.MayPrecede)
    (hnewline : word = front ++ '\n' :: back) : endsCommand (textOf words ++ front) = false := by
  obtain ⟨hmatches, hbest⟩ := hword.1
  obtain ⟨inner, rfl⟩ : ∃ inner, front = '(' :: '*' :: inner := by
    obtain ⟨opening, _, hopening, _, hparts⟩ := hmatches
    obtain rfl := Regex.matches_literal.mp hopening
    match front, hnewline.symm.trans hparts with
    | [], h => simp at h
    | [_], h => simp at h
    | c :: d :: inner, h => simp_all
  have hopen : commentLength? inner = none := by
    cases hlength : commentLength? inner with
    | none => rfl
    | some n =>
        have hscans := scans_closing inner
        rw [hlength] at hscans
        obtain ⟨hn, hclosing, -⟩ := hscans
        have hother : Pattern.blockComment.regex.Matches ('(' :: '*' :: inner.take n) :=
          ⟨['(', '*'], _, Regex.matches_literal.mpr rfl, hclosing, rfl⟩
        have hstart : '(' :: '*' :: inner.take n <+: word ++ rest := by
          rw [hnewline]
          simp [(List.take_prefix n inner).trans (List.prefix_append _ _)]
        have hle : word.length ≤ min n inner.length + 2 := by
          simpa [isLazy] using hbest _ hstart hother
        have hlength := congrArg List.length hnewline
        simp only [List.length_append, List.length_cons] at hlength
        omega
  have hleads : Leads words ('(' :: '*' :: inner) := h.truncate (by simp [hnewline])
  have hcomment := hasOpenComment_of_leads hleads hchain hopen
  simp [endsCommand, hcomment]

theorem getLast?_dropEndWhile_append {p : Char → Bool} (front : List Char) {back : List Char}
    (h : ∃ c ∈ back, p c = false) :
    (Text.dropEndWhile p (front ++ back)).getLast? = (Text.dropEndWhile p back).getLast? := by
  have hne : back.reverse.dropWhile p ≠ [] := by
    obtain ⟨c, hc, hfalse⟩ := h
    rw [Ne, List.dropWhile_eq_nil_iff]
    exact fun hall => absurd (hall c (by simpa using hc)) (by simp [hfalse])
  rw [Text.dropEndWhile, List.reverse_append, List.dropWhile_append, if_neg (by simpa using hne),
    Text.dropEndWhile, List.getLast?_reverse, List.head?_append_of_ne_nil _ hne,
    List.getLast?_reverse]

/-- Inside a string commands end just where they would in the string alone. -/
theorem endsCommand_string {words : List Word} {front : List Char}
    (h : Leads words ('"' :: front))
    (hchain : (words.filterMap Word.token?).IsChain Token.MayPrecede) :
    endsCommand (textOf words ++ '"' :: front) = endsCommand ('"' :: front) := by
  have hsplit := split_textOf h hchain (by simp)
  have hcomment :
      HasOpenComment (textOf words ++ '"' :: front) ↔ HasOpenComment ('"' :: front) := by
    rw [HasOpenComment, hsplit]
    simp [HasOpenComment, openComment_not_mem_segments]
  have hquote : '"' ∈ (Segment.split ('"' :: front)).flatMap Segment.code := by
    rw [Segment.split_cons, List.flatMap_cons]
    refine List.mem_append_left _ ?_
    simp only [Segment.first]
    split <;> simp [Segment.code]
  simp only [endsCommand, hcomment]
  rw [hsplit, List.flatMap_append, getLast?_dropEndWhile_append _ ⟨_, hquote, by decide⟩]

/-! ### Strings with a meaning -/

theorem unquoting_of_ordinary {front back : List Char} (hfront : ∀ c ∈ front, Text.IsOrdinary c)
    (h : unquoting.Matches (front ++ back)) : unquoting.Matches back := by
  induction front with
  | nil => exact h
  | cons c front ih =>
      obtain ⟨hc, hrest⟩ := List.forall_mem_cons.mp hfront
      exact ih hrest ((matches_unquoting_cons hc.1 hc.2.1).mp h)

/-- Between quotes a newline has a meaning only after a backslash and a carriage return. -/
theorem newline_not_mem_of_unescape {body : List Char} {value : List Text.CodePoint}
    (hmatches : unquoting.Matches (body ++ ['"'])) (h : Text.unescape? body = some value)
    (hreturn : '\r' ∉ body) : '\n' ∉ body := by
  induction body using Text.unescape?.induct generalizing value with
  | case1 => simp
  | case2 c hc =>
      rw [Text.unescape?, if_pos hc] at h
      cases h
  | case3 c hc =>
      simp only [not_or] at hc
      simpa using Ne.symm hc.2.1
  | case4 rest =>
      rw [Text.unescape?, if_pos rfl] at h
      cases h
  | case5 c rest hzero text n hescape ih =>
      simp only [List.mem_cons, not_or] at hreturn
      obtain ⟨-, hc, hrest⟩ := hreturn
      rw [Text.unescape?, if_neg hzero, hescape] at h
      obtain ⟨_, htail, -⟩ := Option.map_eq_some_iff.mp h
      have hordinary := Text.isOrdinary_of_escape hescape (Ne.symm hc)
      have hparts := List.take_append_drop n rest
      obtain ⟨d, others, heq, hnewline, hmatch⟩ := matches_unquoting_backslash.mp hmatches
      obtain ⟨rfl, rfl⟩ : c = d ∧ rest ++ ['"'] = others := by simpa using heq
      rw [← hparts, List.append_assoc] at hmatch
      have hback := ih (unquoting_of_ordinary hordinary hmatch) htail
        fun hmem => hrest (List.mem_of_mem_drop hmem)
      simp only [List.mem_cons, not_or]
      refine ⟨by decide, Ne.symm hnewline, fun hmem => ?_⟩
      rw [← hparts] at hmem
      obtain hmem | hmem := List.mem_append.mp hmem
      · exact (hordinary _ hmem).2.2 rfl
      · exact hback hmem
  | case6 c rest hzero hescape =>
      rw [Text.unescape?, if_neg hzero, hescape] at h
      cases h
  | case7 c rest hne hslash hc =>
      rw [Text.unescape?.eq_4 c rest hne hslash, if_pos hc] at h
      cases h
  | case8 c rest hne hslash hc ih =>
      rw [Text.unescape?.eq_4 c rest hne hslash, if_neg hc] at h
      obtain ⟨_, htail, -⟩ := Option.map_eq_some_iff.mp h
      simp only [not_or] at hc
      have hquote : c ≠ '"' := by
        rintro rfl
        simpa using matches_unquoting_quote.mp hmatches
      have hbackslash : c ≠ '\\' := by
        rintro rfl
        obtain ⟨second, tail, rfl⟩ := List.exists_cons_of_ne_nil hne
        exact hslash second tail rfl rfl
      have hmatch := (matches_unquoting_cons hquote hbackslash).mp hmatches
      have hback := ih hmatch htail fun hmem => hreturn (List.mem_cons_of_mem _ hmem)
      simp only [List.mem_cons, not_or]
      exact ⟨Ne.symm hc.1, hback⟩

/-- In texts without carriage returns strings end where they begin, on one line. -/
theorem newline_not_mem_of_hasMeaning {text : List Char} (h : quoted.regex.Matches text)
    (hmeaning : (Token.quoted text).HasMeaning) (hreturn : '\r' ∉ text) : '\n' ∉ text := by
  obtain ⟨quote, inner, hquote, hinner, rfl⟩ := h
  obtain rfl := Regex.matches_literal.mp hquote
  obtain ⟨value, hvalue⟩ := hmeaning
  obtain ⟨body, closing, hbody, hclosing, rfl⟩ := id hinner
  obtain rfl := Regex.matches_literal.mp hclosing
  obtain ⟨points, hunescape, -⟩ : ∃ points, Text.unescape? body = some points ∧ .mk points = value :=
    by simpa [Text.unquote?] using hvalue
  have hfree := newline_not_mem_of_unescape hinner hunescape
    fun hmem => hreturn (by simp [hmem])
  simp [hfree]

end LanguageShell.Calculator

import LanguageShell.Proofs.Calculator.CommandEnd
import LanguageShell.Proofs.Calculator.Recovery

/-!
The line that ends every command. A line that begins with a star and a closing parenthesis closes
the comment that is open before it, and without a quote it closes no string, so what follows there
stands outside of strings and comments whatever has been typed before. With one semicolon there the
shell reads no more and tries the command; with two of them there is none, and the shell comes back
to its prompt with the bindings that it had.
-/

namespace LanguageShell.Calculator

open Shell Pattern

/-! ### What is open before the line -/

theorem getElem?_of_stringLength? {text : List Char} {n : Nat} (h : stringLength? text = some n) :
    ∃ m, n = m + 1 ∧ text[m]? = some '"' := by
  induction text using stringLength?.induct generalizing n with
  | case1 =>
      rw [stringLength?, Option.some.injEq] at h
      exact ⟨0, h.symm, rfl⟩
  | case2 | case4 | case6 => simp [stringLength?] at h
  | case3 c rest hnewline ih =>
      rw [stringLength?, if_neg hnewline, Option.map_eq_some_iff] at h
      obtain ⟨k, hrest, rfl⟩ := h
      obtain ⟨m, rfl, hquote⟩ := ih hrest
      exact ⟨m + 2, rfl, by simpa using hquote⟩
  | case5 c rest hquote hescape hslash ih =>
      rw [stringLength?.eq_3 c rest hquote hescape, if_neg hslash, Option.map_eq_some_iff] at h
      obtain ⟨k, hrest, rfl⟩ := h
      obtain ⟨m, rfl, hend⟩ := ih hrest
      exact ⟨m + 1, rfl, by simpa using hend⟩

theorem stringLength?_le {text tail : List Char} {n : Nat} (htail : '"' ∉ tail)
    (h : stringLength? (text ++ tail) = some n) : n ≤ text.length := by
  obtain ⟨m, rfl, hquote⟩ := getElem?_of_stringLength? h
  by_contra hlong
  rw [List.getElem?_append_right (by omega)] at hquote
  exact htail (List.mem_of_getElem? hquote)

theorem lineLength_le (text rest : List Char) :
    lineLength (text ++ '\n' :: rest) ≤ text.length := by
  induction text with
  | nil => simp [lineLength]
  | cons c text ih =>
      unfold lineLength at ih ⊢
      rw [List.cons_append, List.takeWhile_cons]
      split
      · simpa using ih
      · simp

/-- A comment that is open before a newline, a star and a parenthesis ends there or before. -/
theorem exists_commentLength (text rest : List Char) :
    ∃ n, commentLength? (text ++ '\n' :: '*' :: ')' :: rest) = some n ∧
      (n ≤ text.length ∨ n = text.length + 3) := by
  induction text with
  | nil => exact ⟨3, rfl, .inr rfl⟩
  | cons c text ih =>
      obtain ⟨n, hlength, hn⟩ := ih
      by_cases hcloses : c = '*' ∧ text.head? = some ')'
      · obtain ⟨rfl, hparen⟩ := hcloses
        obtain ⟨others, rfl⟩ := List.head?_eq_some_iff.mp hparen
        exact ⟨2, rfl, .inl (by simp)⟩
      · refine ⟨n + 1, ?_, ?_⟩
        · rw [List.cons_append, commentLength?.eq_2, hlength]
          · rfl
          · rintro tail rfl htail
            cases text with
            | nil => simp at htail
            | cons d text =>
                obtain rfl := (List.cons.inj htail).1
                exact hcloses ⟨rfl, rfl⟩
        · rw [List.length_cons]
          omega

namespace Segment

/-- What begins before a newline, a star and a parenthesis ends before the newline, unless it is a
comment that ends with the parenthesis. -/
theorem first_before_closing (c : Char) (text : List Char) {rest : List Char} (hrest : '"' ∉ rest) :
    ∃ segment skipped, first c (text ++ '\n' :: '*' :: ')' :: rest) = (segment, skipped) ∧
      segment ≠ openComment ∧ (skipped ≤ text.length ∨ skipped = text.length + 3) := by
  by_cases hplain : IsPlain c
  · exact ⟨_, _, first_of_isPlain _ hplain, by simp, .inl (Nat.zero_le _)⟩
  obtain rfl | rfl | rfl : c = '"' ∨ c = '#' ∨ c = '(' := by
    simpa only [IsPlain, not_and_or, not_not] using hplain
  · -- A string ends before its first quote that is not in the line.
    cases hstring : stringLength? (text ++ '\n' :: '*' :: ')' :: rest) with
    | none => exact ⟨_, _, first_quote_of_none hstring, by simp, .inl (Nat.zero_le _)⟩
    | some n =>
        have hle := stringLength?_le (by simp [hrest]) hstring
        exact ⟨_, _, first_quote_of_some hstring, by simp, .inl hle⟩
  · exact ⟨_, _, rfl, by simp, .inl (lineLength_le text _)⟩
  · by_cases hstar : text.head? = some '*'
    · obtain ⟨inner, rfl⟩ := List.head?_eq_some_iff.mp hstar
      obtain ⟨n, hcomment, hn⟩ := exists_commentLength inner rest
      refine ⟨_, _, first_comment_of_some hcomment, by simp, ?_⟩
      rw [List.length_cons]
      omega
    · have hhead : (text ++ '\n' :: '*' :: ')' :: rest).head? ≠ some '*' := by
        cases text with
        | nil => simp
        | cons => exact hstar
      exact ⟨_, _, first_openParen hhead, by simp, .inl (Nat.zero_le _)⟩

/-- After a newline, a star and a parenthesis nothing is open. -/
theorem exists_split_closing (text rest : List Char) (hrest : '"' ∉ rest) :
    ∃ segments, split (text ++ '\n' :: '*' :: ')' :: rest) = segments ++ split rest ∧
      openComment ∉ segments := by
  induction hlength : text.length using Nat.strong_induction_on generalizing text with
  | _ n ih =>
      cases text with
      | nil =>
          have hplain : ∀ c ∈ ['\n', '*', ')'], IsPlain c := by simp [IsPlain]
          exact ⟨_, split_plain rest hplain, by simp⟩
      | cons c text =>
          obtain ⟨segment, skipped, hfirst, hclosed, hend⟩ := first_before_closing c text hrest
          rw [List.cons_append, split_cons, hfirst]
          obtain hbefore | rfl := hend
          · have hshort : (text.drop skipped).length < n := by
              rw [List.length_drop, ← hlength, List.length_cons]
              omega
            obtain ⟨segments, hsplit, hopen⟩ := ih _ hshort _ rfl
            refine ⟨segment :: segments, ?_, ?_⟩
            · rw [List.drop_append_of_le_length hbefore, hsplit]
              rfl
            · rw [List.mem_cons, not_or]
              exact ⟨Ne.symm hclosed, hopen⟩
          · refine ⟨[segment], ?_, ?_⟩
            · have hskip : (text ++ '\n' :: '*' :: ')' :: rest).drop (text.length + 3) = rest := by
                rw [List.drop_append]
                simp
              rw [hskip]
              rfl
            · rw [List.mem_singleton]
              exact Ne.symm hclosed

end Segment

open Segment

theorem endsCommand_of_split {text : List Char} {segments : List Segment}
    (h : split text = segments ++ [.plain ';']) (hopen : .openComment ∉ segments) :
    endsCommand text = true := by
  have hclosed : ¬HasOpenComment text := by
    rw [HasOpenComment, h]
    simp [hopen]
  have hcode : (split text).flatMap code = segments.flatMap code ++ [';'] := by
    rw [h, List.flatMap_append]
    rfl
  have hsolid : Text.isBlank ';' = false := by decide
  rw [endsCommand, hcode, dropEndWhile_append_singleton _ hsolid, List.getLast?_concat]
  simp [hclosed]

theorem endsCommand_closing (text : List Char) : endsCommand (text ++ "\n*);".toList) = true := by
  obtain ⟨segments, hsplit, hopen⟩ := exists_split_closing text [';'] (by decide)
  have hlast : split [';'] = [.plain ';'] := by cbv
  rw [hlast] at hsplit
  exact endsCommand_of_split hsplit hopen

/-! ### Semicolons of a command -/

theorem count_map_plain {text : List Char} (h : ';' ∉ text) :
    (text.map Segment.plain).count (.plain ';') = 0 := by
  rw [List.count_eq_zero, List.mem_map]
  rintro ⟨c, hc, hplain⟩
  exact h (Segment.plain.inj hplain ▸ hc)

/-- Outside of strings and comments semicolons are tokens. -/
theorem count_segments {word : Word} (h : word.pattern.regex.Matches word.text) :
    word.segments.count (.plain ';') = if word.token? = some .semicolon then 1 else 0 := by
  obtain ⟨pattern, text⟩ := word
  cases pattern with
  | blank =>
      refine count_map_plain fun hmem => ?_
      exact absurd ((Regex.matches_several_char.mp h).2 _ hmem) (by decide)
  | name =>
      refine count_map_plain fun hmem => ?_
      exact (isSolid_of_isNamePart (isNamePart_of_mem_name h _ hmem)).2 rfl
  | number =>
      refine count_map_plain fun hmem => ?_
      exact (isSolid_of_number (isDigit_or_of_mem_number h _ hmem)).2 rfl
  | lineComment | blockComment | quoted => rfl
  | _ =>
      obtain rfl := Regex.matches_literal.mp h
      rfl

theorem count_flatMap_segments {words : List Word}
    (h : ∀ word ∈ words, word.pattern.regex.Matches word.text) :
    (words.flatMap Word.segments).count (.plain ';') =
      (words.filterMap Word.token?).count .semicolon := by
  induction words with
  | nil => rfl
  | cons word words ih =>
      obtain ⟨hword, hwords⟩ := List.forall_mem_cons.mp h
      rw [List.flatMap_cons, List.count_append, ih hwords, count_segments hword]
      cases htoken : word.token? with
      | none => simp [htoken]
      | some token =>
          rw [List.filterMap_cons_some htoken, List.count_cons]
          simp [Nat.add_comm]

theorem count_semicolon_of_parse {source : Source} {command : Command Place}
    (h : parseSingle source = .ok command) : (split source.text).count (.plain ';') = 1 := by
  obtain ⟨analysis, -, -⟩ := parseSingle_eq_ok_iff.mp h
  obtain ⟨sentence, htokens⟩ := exists_sentence h analysis.splits
  have hbody := List.count_eq_zero.mpr (semicolon_not_mem_body sentence)
  rw [split_of_splits analysis.splits analysis.isChain,
    count_flatMap_segments analysis.splits.matches_of_mem, htokens, Sentence.yield, tokensOf_append,
    List.count_append, hbody]
  rfl

/-! ### The line in the shell -/

/-- Whatever has been collected, nothing is open behind a star and a parenthesis on a new line. -/
theorem exists_split_textWith (state : State Env) (line : String) (rest more : List Char)
    (hline : line.toList = '*' :: ')' :: rest) (hmore : '"' ∉ rest ++ more) :
    ∃ segments, split ((state.textWith line).toList ++ more) = segments ++ split (rest ++ more) ∧
      .openComment ∉ segments := by
  cases hcollected : state.collected with
  | none =>
      have hplain : ∀ c ∈ ['*', ')'], IsPlain c := by simp [IsPlain]
      have htext : (state.textWith line).toList ++ more = ['*', ')'] ++ (rest ++ more) := by
        simp [State.textWith, hcollected, hline]
      rw [htext]
      exact ⟨_, split_plain (rest ++ more) hplain, by simp⟩
  | some before =>
      have htext : (state.textWith line).toList ++ more =
          before.toList ++ '\n' :: '*' :: ')' :: (rest ++ more) := by
        simp [State.textWith, hcollected, hline]
      rw [htext]
      exact exists_split_closing before.toList _ hmore

theorem completes_of_split {line : String} (rest : List Char) (others : List Segment)
    (hline : line.toList = '*' :: ')' :: rest) (hquote : '"' ∉ rest)
    (hsplit : split rest = others ++ [.plain ';']) (hopen : .openComment ∉ others)
    (state : State Env) : Completes language state line := by
  obtain ⟨segments, htext, hsegments⟩ :=
    exists_split_textWith state line rest [] hline (by simpa using hquote)
  rw [List.append_nil, List.append_nil, hsplit, ← List.append_assoc] at htext
  have hends : endsCommand (state.textWith line).toList = true :=
    endsCommand_of_split htext (by simp [hsegments, hopen])
  show (!endsCommand (state.textWith line).toList) = false
  rw [hends]
  rfl

theorem exists_diagnostic_of_doubled (state : State Env) :
    ∃ diagnostic : Diagnostic, diagnostic.kind = .form ∧
      Parser.located parseSingle (commandSource (state.textWith "*);;")) =
        .error (.diagnostic diagnostic) := by
  obtain ⟨command, hcommand⟩ | hrejected :=
    located_cases (commandSource (state.textWith "*);;"))
  · exfalso
    obtain ⟨segments, hsplit, -⟩ :=
      exists_split_textWith state "*);;" [';', ';'] ['\n'] rfl (by decide)
    have htext : (commandSource (state.textWith "*);;")).text =
        (state.textWith "*);;").toList ++ ['\n'] := String.toList_append
    have hlast : split ([';', ';'] ++ ['\n']) = [.plain ';', .plain ';', .plain '\n'] := by cbv
    have hcount := count_semicolon_of_parse (mapError_eq_ok.mp hcommand)
    rw [htext, hsplit, hlast, List.count_append] at hcount
    have htwo : [Segment.plain ';', .plain ';', .plain '\n'].count (.plain ';') = 2 := by decide
    omega
  · exact hrejected

theorem attempt_of_rejected {execute : Env → Command Place → Trace Env} {state : State Env}
    {line : String} {diagnostic : Diagnostic}
    (h : Parser.located parseSingle (commandSource (state.textWith line)) =
      .error (.diagnostic diagnostic)) :
    attempt language execute state line = .fail (.diagnostic diagnostic) := by
  show Trace.ofExcept (Parser.located parseSingle _) >>= _ = _
  rw [h]
  rfl

theorem exists_prompt_of_completes {reporter : Reporter} {execute : Env → Command Place → Trace Env}
    {state last : State Env} {inputs : List Input} {line : String}
    (harrives : Arrives language reporter execute state inputs last)
    (hcompletes : Completes language last line) (events : List Event) (back : List Input) :
    (∃ happened env, (Shell.converse language reporter execute events state
        (inputs ++ .line line :: back)).turns[inputs.length + 1]? =
          some ⟨happened, env, language.prompt⟩) ∨
      ∃ fault, (attempt language execute last line).outcome = .error (.fault fault) := by
  have hrespond : respond language reporter execute last (.line line) = _ :=
    respond_of_completes hcompletes
  have hturn : ∀ env, (respond language reporter execute last (.line line)).outcome =
      .ok (.more { env }) → ∃ happened env, (Shell.converse language reporter execute events state
        (inputs ++ .line line :: back)).turns[inputs.length + 1]? =
          some ⟨happened, env, language.prompt⟩ :=
    fun env hnext => ⟨_, env, turn_of_arrives harrives hnext events back⟩
  split at hrespond
  · exact .inl (hturn _ (congrArg Trace.outcome hrespond))
  · exact .inl (hturn _ (congrArg Trace.outcome hrespond))
  · exact .inl (hturn _ (congrArg Trace.outcome hrespond))
  · rename_i fault houtcome
    exact .inr ⟨fault, houtcome⟩

/-- Whatever has been typed, the line with a star, a parenthesis and a semicolon ends the command:
it is parsed and executed, or else it is refused for its form. The shell then asks for a new
command, unless the one that it has executed ends with a fault. With a second semicolon there is
nothing to execute: what has been typed is refused, and the shell asks for a new command with the
bindings that it had. -/
theorem shell_comes_back_to_prompt (setup : Setup) (tree : FileTree) (platform : Platform) :
    let execute := language.execute setup (language.useFile setup tree) true
    let visited := visit language platform setup.reporter execute language.initial
    (∀ text : String, endsCommand (text ++ "\n" ++ "*);").toList = true) ∧
    (∀ state : State Env, language.readsMore (state.textWith "*);") = false ∧
      ((∃ command, Parser.located parseSingle (commandSource (state.textWith "*);")) = .ok command ∧
          attempt language execute state "*);" = execute state.env command) ∨
        ∃ diagnostic : Diagnostic, diagnostic.kind = .form ∧
          Parser.located parseSingle (commandSource (state.textWith "*);")) =
            .error (.diagnostic diagnostic) ∧
          attempt language execute state "*);" = .fail (.diagnostic diagnostic))) ∧
    ∀ (inputs back : List Input) (state : State Env),
      Arrives language setup.reporter execute { env := language.initial } inputs state →
      ((∃ events env, (visited (inputs ++ .line "*);" :: back)).turns[inputs.length + 1]? =
          some ⟨events, env, language.prompt⟩) ∨
        ∃ fault, (attempt language execute state "*);").outcome = .error (.fault fault)) ∧
      ∃ diagnostic : Diagnostic, diagnostic.kind = .form ∧
        (visited (inputs ++ .line "*);;" :: back)).turns[inputs.length + 1]? =
          some ⟨setup.reporter.told (.diagnostic diagnostic), state.env, language.prompt⟩ := by
  intro execute visited
  have hcloses : ∀ state : State Env, Completes language state "*);" :=
    completes_of_split [';'] [] rfl (by decide) (by cbv) (by simp)
  have hdoubled : ∀ state : State Env, Completes language state "*);;" :=
    completes_of_split [';', ';'] [.plain ';'] rfl (by decide) (by cbv) (by simp)
  have hvisited : ∀ inputs, visited inputs = Shell.converse language setup.reporter execute
      (greet language platform).events { env := language.initial } inputs :=
    fun inputs => visit_eq platform language.initial inputs rfl
  refine ⟨?_, fun state => ⟨hcloses state, ?_⟩, fun inputs back state harrives => ⟨?_, ?_⟩⟩
  · intro text
    have hclosing := endsCommand_closing text.toList
    simpa [String.append_assoc] using hclosing
  · obtain ⟨command, hcommand⟩ | ⟨diagnostic, hkind, hrejected⟩ :=
      located_cases (commandSource (state.textWith "*);"))
    · exact .inl ⟨command, hcommand, runCommand_of_ok language execute hcommand state.env⟩
    · exact .inr ⟨diagnostic, hkind, hrejected, attempt_of_rejected hrejected⟩
  · rw [hvisited]
    exact exists_prompt_of_completes harrives (hcloses state) _ back
  · obtain ⟨diagnostic, hkind, hrejected⟩ := exists_diagnostic_of_doubled state
    have hattempt : attempt language execute state "*);;" = .fail (.diagnostic diagnostic) :=
      attempt_of_rejected hrejected
    have hrespond : respond language setup.reporter execute state (.line "*);;") = _ :=
      respond_of_diagnostic (hdoubled state) (congrArg Trace.outcome hattempt)
    refine ⟨diagnostic, hkind, ?_⟩
    rw [hvisited, turn_of_arrives harrives (congrArg Trace.outcome hrespond), hrespond, hattempt]
    rfl

/-- A comment is open, in which a quote stands. -/
theorem shell_comes_back_from_open_comment :
    let execute := language.execute {} (language.useFile {} {}) true
    let visited := visit language .unix {} execute language.initial
    let state : State Env := { env := language.initial, collected := some "help (* \"" }
    Arrives language {} execute { env := language.initial } [.line "help (* \""] state ∧
      (attempt language execute state "*);").outcome = .ok [] ∧
      (∃ events env, (visited [.line "help (* \"", .line "*);"]).turns[2]? =
        some ⟨events, env, "calc> "⟩) ∧
      ∃ events, (visited [.line "help (* \"", .line "*);;"]).turns[2]? =
        some ⟨events, [], "calc> "⟩ := by
  intro execute visited state
  have hopen : ¬Completes language { env := language.initial } "help (* \"" := by
    have hends : endsCommand "help (* \"".toList = false := by cbv
    show ¬(!endsCommand "help (* \"".toList) = false
    rw [hends]
    decide
  have hcollects :
      respond language {} execute { env := language.initial } (.line "help (* \"") = _ :=
    respond_of_more hopen
  have harrives :
      Arrives language {} execute { env := language.initial } [.line "help (* \""] state :=
    .cons (congrArg Trace.outcome hcollects) .nil
  obtain ⟨place, hparse⟩ : ∃ place, parseSingle (commandSource (state.textWith "*);")) =
      .ok (.help place) := ⟨_, by cbv⟩
  have hattempt : attempt language execute state "*);" = execute [] (.help place) :=
    runCommand_of_ok language execute (mapError_eq_ok.mpr hparse) []
  have hok : (attempt language execute state "*);").outcome = .ok [] := by
    rw [hattempt]
    rfl
  obtain ⟨-, -, hprompts⟩ := shell_comes_back_to_prompt {} {} .unix
  obtain ⟨hprompt | ⟨fault, hfault⟩, diagnostic, -, hrefused⟩ := hprompts _ [] state harrives
  · exact ⟨harrives, hok, hprompt, _, hrefused⟩
  · cases hok.symm.trans hfault

end LanguageShell.Calculator

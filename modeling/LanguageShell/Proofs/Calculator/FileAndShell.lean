import LanguageShell.Proofs.Calculator.Cut
import LanguageShell.Proofs.Calculator.Execution
import LanguageShell.Proofs.Report

/-!
Files and the shell. The shell that is given the lines of a file reads the commands of the file, in
their order, if a line ends after each of its semicolons. So if the file can be loaded, the shell
ends with the same bindings and writes the same, its greeting and the last line apart.
-/

namespace LanguageShell

theorem terminated_ends (text : List Char) :
    terminated text = [] ∨ (terminated text).getLast? = some '\n' := by
  unfold terminated
  split
  · assumption
  · simp

theorem return_not_mem_unifyLineEnds (text : List Char) :
    '\r' ∉ FileTree.unifyLineEnds text := by
  induction text using FileTree.unifyLineEnds.induct with
  | case1 => simp [FileTree.unifyLineEnds]
  | case2 rest ih => simpa [FileTree.unifyLineEnds] using ih
  | case3 c rest hpair ih =>
      rw [FileTree.unifyLineEnds.eq_3 c rest hpair]
      split <;> simp_all [eq_comm]

theorem return_not_mem_of_read {tree : FileTree} {path : CodeText} {text : List Char}
    (h : tree.read path = .ok text) : '\r' ∉ text := by
  unfold FileTree.read at h
  split at h
  · cases h
  split at h
  · cases h
  split at h
  · cases h
  · rw [← Except.ok.inj h]
    exact return_not_mem_unifyLineEnds _

namespace Calculator

open Shell

theorem exists_splits_terminated {text : List Char} {words : List Word} (h : Splits text words)
    (hseparate : SeparateLines words) (hstrings : StringsStayOpen words) :
    ∃ others, Splits (terminated text) others ∧
      others.filterMap Word.token? = words.filterMap Word.token? ∧
      SeparateLines others ∧ StringsStayOpen others := by
  unfold terminated
  split
  · exact ⟨words, h, rfl, hseparate, hstrings⟩
  · obtain ⟨front, ending, blanks, rfl, hending, hsplits⟩ := h.append_newline
    have hblank : Word.token? ⟨.blank, blanks⟩ = none := rfl
    refine ⟨_, hsplits, ?_, hseparate.of_append_left.concat hblank, ?_⟩
    · simpa [hblank] using hending
    · intro word hword hquoted
      obtain hword | hword := List.mem_append.mp hword
      · exact hstrings word (List.mem_append_left _ hword) hquoted
      · obtain rfl := List.mem_singleton.mp hword
        cases hquoted

/-- From the lines of a file the shell reads its commands. -/
theorem exists_reads {source : Source} {commands : List (Command Place)} {words : List Word}
    (hparse : parseFile source = .ok commands) (hsplits : Splits source.text words)
    (hseparate : SeparateLines words) (hstrings : StringsStayOpen words) :
    ∃ (lines : List String) (read : List (Command Place)),
      linesOfText (String.ofList source.text) = lines.map .line ∧
      read.map (·.map fun _ => ()) = commands.map (·.map fun _ => ()) ∧
      (texts language none lines).map
        (fun text => Parser.located language.parseCommand (commandSource text)) =
          read.map .ok := by
  obtain ⟨analysis, hreadable, rfl⟩ := parseFile_eq_ok_iff.mp hparse
  obtain ⟨hlexemes, hproper⟩ := (interprets_iff analysis.derives).mp analysis.interprets
  have htokens := analysis.filterMap_token?
  obtain rfl := analysis.splits.unique hsplits
  obtain ⟨others, hothers, hsame, hseparate, hstrings⟩ :=
    exists_splits_terminated hsplits hseparate hstrings
  have hmeaning : ∀ token ∈ tokensOf (yieldAll analysis.sentences), token.HasMeaning := by
    rwa [← htokens, ← analysis.isReadable_iff_tokens]
  have hremains : Remains (terminated source.text) others analysis.sentences :=
    ⟨hothers, hsame.trans htokens, hseparate, hstrings, terminated_ends _⟩
  obtain ⟨pieces, read, hcuts, hparses, hshapes⟩ := exists_cuts hremains hmeaning hproper
  obtain ⟨lines, hlines, hfree, htext⟩ := exists_lines source.text
  refine ⟨lines, read, hlines, hshapes.trans analysis.map_commands.symm, ?_⟩
  rw [texts_of_cuts hcuts hfree htext, List.map_map]
  exact hparses

/-- Without carriage returns no line ends within a string. -/
theorem Analysis.stringsStayOpen {entry : Entry} {text : List Char} (analysis : Analysis entry text)
    (hreadable : analysis.IsReadable) (hreturn : '\r' ∉ text) :
    StringsStayOpen analysis.words := by
  intro word hword hquoted front back hparts
  have hmatches := analysis.splits.matches_of_mem word hword
  have htoken : word.token? = some (.quoted word.text) := by
    simp [Word.token?, Word.piece, hquoted, Pattern.piece]
  have hsubset : word.text ⊆ text := by
    rw [← analysis.splits.textOf_eq, textOf]
    exact fun c hc => List.mem_flatMap.mpr ⟨word, hword, hc⟩
  have hfree : '\n' ∉ word.text := newline_not_mem_of_hasMeaning (hquoted ▸ hmatches)
    (hreadable word hword _ htoken) fun hmem => hreturn (hsubset hmem)
  exact absurd (by simp [hparts]) hfree

theorem written_visit_lines {source : Source} {commands : List (Command Place)}
    {words : List Word} (hparse : parseFile source = .ok commands)
    (hsplits : Splits source.text words) (hseparate : SeparateLines words)
    (hstrings : StringsStayOpen words) :
    ∃ read : List (Command Place),
      read.map (·.map fun _ => ()) = commands.map (·.map fun _ => ()) ∧
      ∀ platform reporter (execute : Env → Command Place → Trace Env) env,
        (visit language platform reporter execute env
          (linesOfText (String.ofList source.text))).trace.written =
            (greet language platform >>= fun _ =>
              runAll reporter execute env read >>= farewell).written := by
  obtain ⟨lines, read, hlines, hshapes, htexts⟩ := exists_reads hparse hsplits hseparate hstrings
  refine ⟨read, hshapes, fun platform reporter execute env => ?_⟩
  rw [hlines, written_visit language reporter execute platform env lines rfl]
  simp only [runAll_texts language reporter execute htexts]

/-- A file that is loaded successfully has commands, and loading it writes what they write, wherever
they are written and when no file is in progress. -/
theorem exists_contents_of_load {setup : Setup} {tree : FileTree} {entry : FileEntry}
    {env after : Env} (h : (language.useFile setup tree env entry).outcome = .ok after) :
    ∃ commands, contents tree entry.path = .ok commands ∧
      ∀ read : List (Command Place),
        read.map (·.map fun _ => ()) = commands.map (·.map fun _ => ()) →
          let run := read.foldlM
            (execute setup (language.useFile setup tree) entry.interactive) env
          run.outcome = .ok after ∧
            (language.useFile setup tree env entry).written = run.written := by
  have hload : (language.useFile setup tree env entry).written = _ :=
    written_load_of_not_mem List.not_mem_nil env
  rw [← Trace.outcome_written, hload] at h
  cases hcontents : contents tree entry.path with
  | error failure =>
      rw [hcontents] at h
      cases h
  | ok commands =>
      simp only [hcontents, Trace.outcome_written] at h hload
      refine ⟨commands, rfl, fun read hsame => ?_⟩
      have hagrees := agrees_load setup tree (List.nil_subset [tree.realPath entry.path])
      have hrun := foldlM_execute_of_ok hagrees hsame.symm h
      rw [← hrun] at h hload
      exact ⟨h, hload⟩

theorem parseFile_of_contents {tree : FileTree} {path : CodeText} {text : List Char}
    {commands : List (Command Place)} (hread : tree.read path = .ok text)
    (hcontents : contents tree path = .ok commands) :
    parseFile { text, filename := path.shown } = .ok commands := by
  rw [contents_of_read hread] at hcontents
  exact mapError_eq_ok.mp hcontents

/-- The greeting and the last line are written before and after what is done in the shell. -/
theorem agree_greet_farewell (platform : Platform) {run : Trace Env} {after : Env}
    (h : run.outcome = .ok after) :
    let all := greet language platform >>= fun _ => run >>= farewell
    all.outcome = .ok after ∧
      outputOf all.events =
        outputOf (greet language platform).events ++ outputOf run.events ++ "\n" ∧
      errorsOf all.events = errorsOf run.events := by
  have hgreet : (greet language platform).outcome = .ok () := rfl
  have herrors : errorsOf (greet language platform).events = "" := rfl
  have hfarewell : outputOf (farewell after).events = "\n" ∧
      errorsOf (farewell after).events = "" :=
    ⟨rfl, rfl⟩
  rw [Trace.bind_of_ok hgreet, Trace.bind_of_ok h]
  refine ⟨rfl, ?_, ?_⟩
  · rw [outputOf_append, outputOf_append, hfarewell.1, String.append_assoc]
  · rw [errorsOf_append, errorsOf_append, herrors, hfarewell.2, String.empty_append,
      String.append_empty]

/-- The shell that is given the lines of a file. If a line ends after each semicolon of the file, it
reads the commands of the file, in their order, whatever they do when they are executed. And if the
file can be loaded, the shell ends with the same bindings; both write the same, but for the greeting
and the last line. -/
theorem shell_agrees_with_file {source : Source} {commands : List (Command Place)}
    {words : List Word} (hparse : parseFile source = .ok commands)
    (hsplits : Splits source.text words) (hseparate : SeparateLines words) :
    (StringsStayOpen words → ∃ read : List (Command Place),
      read.map (·.map fun _ => ()) = commands.map (·.map fun _ => ()) ∧
      ∀ platform reporter (execute : Env → Command Place → Trace Env) env,
        (visit language platform reporter execute env
          (linesOfText (String.ofList source.text))).trace.written =
            (greet language platform >>= fun _ =>
              runAll reporter execute env read >>= farewell).written) ∧
    ('\r' ∉ source.text → StringsStayOpen words) ∧
    ∀ (setup : Setup) (tree : FileTree) (path : CodeText) (platform : Platform) (env after : Env),
      tree.read path = .ok source.text →
      (language.useFile setup tree env ⟨path, true⟩).outcome = .ok after →
      let loaded := language.useFile setup tree env ⟨path, true⟩
      let visited := (visit language platform setup.reporter
        (language.execute setup (language.useFile setup tree) true) env
        (linesOfText (String.ofList source.text))).trace
      visited.outcome = .ok after ∧
      outputOf visited.events =
        outputOf (greet language platform).events ++ outputOf loaded.events ++ "\n" ∧
      errorsOf visited.events = errorsOf loaded.events := by
  have hopen : '\r' ∉ source.text → StringsStayOpen words := by
    obtain ⟨analysis, hreadable, -⟩ := parseFile_eq_ok_iff.mp hparse
    rw [← analysis.splits.unique hsplits]
    exact analysis.stringsStayOpen hreadable
  refine ⟨written_visit_lines hparse hsplits hseparate, hopen, ?_⟩
  intro setup tree path platform env after hread hafter loaded visited
  obtain ⟨commands, hcontents, hrun⟩ := exists_contents_of_load hafter
  have hparse := parseFile_of_contents hread hcontents
  have hstrings := hopen (return_not_mem_of_read hread)
  obtain ⟨read, hshapes, hvisit⟩ := written_visit_lines hparse hsplits hseparate hstrings
  obtain ⟨hdone, hloaded⟩ := hrun read hshapes
  obtain ⟨houtcome, houtput, herrors⟩ := agree_greet_farewell platform hdone
  have hvisited := hvisit platform setup.reporter
    (execute setup (language.useFile setup tree) true) env
  rw [runAll_of_ok setup.reporter hdone] at hvisited
  obtain ⟨hsameOutcome, hsameOutput, hsameErrors⟩ := Trace.agree_of_written hvisited
  obtain ⟨-, hloadedOutput, hloadedErrors⟩ := Trace.agree_of_written hloaded
  refine ⟨hsameOutcome.trans houtcome, ?_, ?_⟩
  · exact hsameOutput.trans (by rw [houtput, ← hloadedOutput])
  · exact hsameErrors.trans (by rw [herrors, ← hloadedErrors])

/-- A path with a NUL ends the shell before it reads the next command. And a string that goes on
after a backslash, a carriage return and a newline may look to the shell as if a comment followed
the end of a command. -/
theorem shell_differs_from_file :
    (∃ (commands : List (Command Place)) (words : List Word),
      parseFile (.ofString "load \"\\x00\";\n1;\n") = .ok commands ∧ commands.length = 2 ∧
      Splits "load \"\\x00\";\n1;\n".toList words ∧ SeparateLines words ∧
      (visit language .unix {} (language.execute {} (language.useFile {} {}) true) []
        (linesOfText "load \"\\x00\";\n1;\n")).turns.length = 1) ∧
    ∃ (commands : List (Command Place)) (words : List Word),
      parseFile (.ofString "load \"x;# \\\r\ny\";\n") = .ok commands ∧
      commands.map (·.map fun _ => ()) = [.load "x;# y" ()] ∧
      Splits "load \"x;# \\\r\ny\";\n".toList words ∧ SeparateLines words ∧
      errorsOf (visit language .unix {} (language.execute {}
        (language.useFile {} { files := [(["", "x;# y"], [])] }) true) []
          (linesOfText "load \"x;# \\\r\ny\";\n")).trace.events ≠ "" := by
  constructor
  · refine ⟨_, [⟨.name, "load".toList⟩, ⟨.blank, [' ']⟩, ⟨.quoted, "\"\\x00\"".toList⟩,
      ⟨.semicolon, [';']⟩, ⟨.blank, ['\n']⟩, ⟨.number, ['1']⟩, ⟨.semicolon, [';']⟩,
      ⟨.blank, ['\n']⟩], by cbv, rfl, by decide, by decide, ?_⟩
    have hlines : linesOfText "load \"\\x00\";\n1;\n" =
        [.line "load \"\\x00\";", .line "1;"] := by
      rw [← String.ofList_toList (s := "load \"\\x00\";\n1;\n"), linesOfText, splitOn_newline]
      rfl
    have hmore : language.readsMore "load \"\\x00\";" = false := by
      rw [← String.ofList_toList (s := "load \"\\x00\";"), readsMore_eq_false]
      cbv
    obtain ⟨place, hparse⟩ : ∃ place,
        parseSingle (commandSource "load \"\\x00\";") = .ok (.load "\x00" place) :=
      ⟨_, by cbv⟩
    have hload : language.useFile {} {} [] ⟨"\x00", false⟩ = .fail (.fault .nulInPath) := by
      have hpath : FileTree.unresolvable? "\x00" = some .nulInPath := by cbv
      rw [Language.useFile, load_of_not_mem List.not_mem_nil, contents_of_unresolvable hpath]
    have hlocated : Parser.located language.parseCommand (commandSource "load \"\\x00\";") =
        .ok (.load "\x00" place) :=
      mapError_eq_ok.mpr hparse
    have hrun : runCommand language (language.execute {} (language.useFile {} {}) true) []
        "load \"\\x00\";" = .fail (.fault .nulInPath) := by
      rw [runCommand, hlocated]
      exact hload
    rw [hlines]
    exact length_turns_visit_of_fault language {} _ _ .unix rfl hmore (congrArg Trace.outcome hrun)
  · refine ⟨_, [⟨.name, "load".toList⟩, ⟨.blank, [' ']⟩, ⟨.quoted, "\"x;# \\\r\ny\"".toList⟩,
      ⟨.semicolon, [';']⟩, ⟨.blank, ['\n']⟩], by cbv, rfl, by decide, by decide, ?_⟩
    have hlines : linesOfText "load \"x;# \\\r\ny\";\n" =
        ["load \"x;# \\\r", "y\";"].map .line := by
      rw [← String.ofList_toList (s := "load \"x;# \\\r\ny\";\n"), linesOfText, splitOn_newline]
      rfl
    have hmore : language.readsMore "load \"x;# \\\r" = false := by
      rw [← String.ofList_toList (s := "load \"x;# \\\r"), readsMore_eq_false]
      cbv
    have hparse : parseSingle (commandSource "load \"x;# \\\r") =
        .error (.unexpectedCharacter (some 5)) := by
      cbv
    have hlocated : ∃ diagnostic,
        Parser.located language.parseCommand (commandSource "load \"x;# \\\r") =
          .error (.diagnostic diagnostic) :=
      ⟨_, congrArg (Except.mapError _) hparse⟩
    obtain ⟨diagnostic, hlocated⟩ := hlocated
    rw [hlines]
    exact errorsOf_visit_ne language {} _ _ rfl (by decide) hmore hlocated .unix []

/-- The lines of a short file, with a comment that holds the end of a command. -/
theorem shell_agrees_with_short_file :
    let text := "show x; # one\n(* help;\n*) help;\n"
    let tree : FileTree := { files := [(["", "a"], text.toUTF8.toList)] }
    let loaded := language.useFile {} tree [] ⟨"a", true⟩
    let visited := (visit language .unix {} (language.execute {} (language.useFile {} tree) true) []
      (linesOfText (String.ofList text.toList))).trace
    ∃ (commands : List (Command Place)) (words : List Word),
      parseFile (.ofString text) = .ok commands ∧ commands.length = 2 ∧
      Splits text.toList words ∧ SeparateLines words ∧ StringsStayOpen words ∧
      tree.read "a" = .ok text.toList ∧ loaded.outcome = .ok [] ∧
      (∃ read : List (Command Place),
        read.map (·.map fun _ => ()) = commands.map (·.map fun _ => ())) ∧
      visited.outcome = .ok [] ∧
      outputOf visited.events =
        outputOf (greet language .unix).events ++ outputOf loaded.events ++ "\n" := by
  intro text tree loaded visited
  let words : List Word := [⟨.name, "show".toList⟩, ⟨.blank, [' ']⟩, ⟨.name, ['x']⟩,
    ⟨.semicolon, [';']⟩, ⟨.blank, [' ']⟩, ⟨.lineComment, "# one".toList⟩, ⟨.blank, ['\n']⟩,
    ⟨.blockComment, "(* help;\n*)".toList⟩, ⟨.blank, [' ']⟩, ⟨.name, "help".toList⟩,
    ⟨.semicolon, [';']⟩, ⟨.blank, ['\n']⟩]
  obtain ⟨commands, hparse, hlength⟩ :
      ∃ commands, parseFile (.ofString text) = .ok commands ∧ commands.length = 2 :=
    ⟨_, by cbv, rfl⟩
  have hsplits : Splits text.toList words := by decide
  have hseparate : SeparateLines words := by decide
  have hstrings : StringsStayOpen words := by
    have hnone : ∀ word ∈ words, word.pattern ≠ .quoted := by decide
    exact fun word hword hquoted => absurd hquoted (hnone word hword)
  have hread : tree.read "a" = .ok text.toList := by cbv
  have hloaded : loaded.outcome = .ok [] := by
    obtain ⟨name, first, second, hcontents⟩ : ∃ name first second,
        contents tree "a" = .ok [.display (.var "x" name) first, .help second] :=
      ⟨_, _, _, by cbv⟩
    have hload : loaded = _ := load_of_not_mem List.not_mem_nil []
    rw [hcontents] at hload
    exact (congrArg Trace.outcome hload).trans rfl
  obtain ⟨hreads, -, hfile⟩ := shell_agrees_with_file hparse hsplits hseparate
  obtain ⟨read, hshapes, -⟩ := hreads hstrings
  obtain ⟨houtcome, houtput, -⟩ := hfile {} tree "a" .unix [] [] hread hloaded
  exact ⟨commands, words, hparse, hlength, hsplits, hseparate, hstrings, hread, hloaded,
    ⟨read, hshapes⟩, houtcome, houtput⟩

end Calculator

end LanguageShell

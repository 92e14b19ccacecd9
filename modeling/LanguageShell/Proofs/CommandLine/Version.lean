import LanguageShell.Program
import LanguageShell.Proofs.CommandLine.Queue

/-!
The call for the version. The first look at the arguments goes from left to right, and what belongs
to an option depends on its word alone; so an option that is seen is seen whatever follows, and a
call for the version is answered before anything else is said about the arguments. Where none is
seen, the reader finds none either.
-/

namespace LanguageShell.CommandLine

/-! ### What is seen stays seen -/

def Item.source? : Item → Option CommandOption
  | file _ => none
  | option source _ => some source

variable {options : List CommandOption}

/-- The options of a cluster and the number of words that belong to them do not depend on the words
that follow. -/
theorem scanCluster_congr (rest others : List String) (letters : List Char) :
    (scanCluster options rest letters).1.map Item.source? =
        (scanCluster options others letters).1.map Item.source? ∧
      (scanCluster options rest letters).2 = (scanCluster options others letters).2 := by
  induction letters with
  | nil => exact ⟨rfl, rfl⟩
  | cons c letters ih =>
      obtain ⟨hitems, hcount⟩ := ih
      rw [scanCluster, scanCluster]
      cases findForm? options (String.ofList ['-', c]) with
      | none => exact ⟨hitems, hcount⟩
      | some option =>
          cases htakes : option.takesValue with
          | true => simp [htakes, Item.source?]
          | false => simp [htakes, Item.source?, hitems, hcount]

theorem isPrefix_map_source?_drop {front others : List String} (n : Nat)
    (ih : (scan options (front.drop n)).map Item.source? <+:
      (scan options (front.drop n ++ others)).map Item.source?) :
    (scan options (front.drop n)).map Item.source? <+:
      (scan options ((front ++ others).drop n)).map Item.source? := by
  by_cases hle : n ≤ front.length
  · rwa [List.drop_append_of_le_length hle]
  · -- Words are missing, so that nothing else is seen.
    rw [List.drop_eq_nil_of_le (by omega), scan]
    exact List.nil_prefix

/-- Words that follow add to what is seen. -/
theorem isPrefix_map_source? (words others : List String) :
    (scan options words).map Item.source? <+: (scan options (words ++ others)).map Item.source? := by
  induction words using scan.induct options with
  | case1 =>
      rw [scan]
      exact List.nil_prefix
  | case2 rest =>
      rw [List.cons_append, scan, scan, if_pos rfl, if_pos rfl, List.map_append, List.map_append]
      exact List.prefix_append _ _
  | case3 word rest hstop hlong form attached hsplit hfind ih =>
      rw [List.cons_append, scan, scan, if_neg hstop, if_neg hstop, if_pos hlong, if_pos hlong]
      simp only [hsplit, hfind]
      exact ih
  | case4 word rest hstop hlong form attached hsplit option hfind ih =>
      rw [List.cons_append, scan, scan, if_neg hstop, if_neg hstop, if_pos hlong, if_pos hlong]
      simp only [hsplit, hfind, List.map_cons, Item.source?]
      exact List.cons_prefix_cons.mpr ⟨rfl, isPrefix_map_source?_drop _ ih⟩
  | case5 word rest hstop hlong hshort items n hcluster ih =>
      obtain ⟨hitems, hcount⟩ :=
        @scanCluster_congr options rest (rest ++ others) (word.toList.drop 1)
      rw [hcluster] at hitems hcount
      rw [List.cons_append, scan, scan, if_neg hstop, if_neg hstop, if_neg hlong, if_neg hlong,
        if_pos hshort, if_pos hshort]
      simp only [hcluster, ← hcount, List.map_append, ← hitems]
      exact (List.prefix_append_right_inj _).mpr (isPrefix_map_source?_drop n ih)
  | case6 word rest hstop hlong hshort ih =>
      rw [List.cons_append, scan, scan, if_neg hstop, if_neg hstop, if_neg hlong, if_neg hlong,
        if_neg hshort, if_neg hshort]
      exact List.cons_prefix_cons.mpr ⟨rfl, ih⟩

variable {command : CommandLine}

theorem callsVersion_append {words : List String} (h : command.callsVersion words = true)
    (others : List String) : command.callsVersion (words ++ others) = true := by
  obtain ⟨option, value, hitem, hname⟩ := callsVersion_iff.mp h
  have hsource : some option ∈ (scan command.options words).map Item.source? :=
    List.mem_map_of_mem (f := Item.source?) hitem
  have hmore := (isPrefix_map_source? words others).subset hsource
  obtain ⟨found, hfound, hsome⟩ := List.mem_map.mp hmore
  cases found with
  | file path => cases hsome
  | option other more =>
      obtain rfl := Option.some.inj hsome
      exact callsVersion_iff.mpr ⟨_, more, hfound, hname⟩

theorem Sound.read_ne_version (h : command.Sound) {words : List String}
    (hcalls : command.callsVersion words = false) : command.read words ≠ .ok .version := by
  intro hread
  obtain ⟨parts, hreads⟩ := exists_reads_of_read h.regular.dashed hread
  rw [read_of_readWords (find?_marks h.regular.dashed) hreads.readWords_eq] at hread
  split at hread
  · rename_i hfound
    cases hread
    have hversion := exists_of_version_mem_calls (hfound ▸ List.mem_cons_self)
    rw [(h.callsVersion_iff hreads).mpr hversion] at hcalls
    cases hcalls
  · obtain ⟨settings, -, hrun⟩ := exists_of_map_eq_ok hread
    cases hrun

/-! ### What is done -/

/-- As soon as the first look at the arguments comes to a call for the version, the version line is
all that is printed, whatever else is in these arguments or follows, and the program ends without an
error; no file is read, nothing is run and nothing is complained about. Where it comes to none, what
the reader accepts is no call for the version: the help text is printed, or the program runs. -/
theorem version_wins_as_soon_as_reached {Env Cmd : Type} {language : Language Env Cmd}
    {command : CommandLine} (hcommand : ofLanguage language = .ok command) :
    (∀ words, command.callsVersion words = true → ∀ others surroundings,
      Program.main language surroundings (words ++ others) =
        { events := [.printed (command.versionLine surroundings.platform)], attempts := []
          ending := .finished none }) ∧
    ((∀ option ∈ language.options, option.IsRegular) →
      ∀ words, command.callsVersion words = false →
        ∀ request, command.read words = .ok request → ∀ surroundings,
          (request = .help ∧ Program.main language surroundings words =
            { events := [.printed (command.help command.name)], ending := .finished none }) ∨
          ∃ settings files, request = .run settings files ∧
            Program.main language surroundings words =
              Program.run language
                (.ofSettings command (fileQueue command.options words) settings files)
                surroundings) := by
  constructor
  · intro words hcalls others surroundings
    have hmore := callsVersion_append hcalls others
    simp only [Program.main, hcommand, decision, hmore, if_true]
  · intro hregular words hcalls request hread surroundings
    have hsound := sound_of_ofLanguage hcommand hregular
    simp only [Program.main, hcommand, decision, hcalls, Bool.false_eq_true, if_false, hread]
    cases request with
    | help => exact .inl ⟨rfl, rfl⟩
    | version => exact absurd hread (hsound.read_ne_version hcalls)
    | run settings files => exact .inr ⟨settings, files, rfl, rfl⟩

set_option maxRecDepth 10000 in
/-- The call in a cluster behind an option that there is not, and before one that lacks its value;
and one that is the value of another option. -/
theorem version_of_calculator :
    ofLanguage Calculator.language = .ok calculator ∧
      calculator.callsVersion ["--other", "-nv"] = true ∧
      (∀ surroundings, Program.main Calculator.language surroundings ["--other", "-nv", "-l"] =
        { events := [.printed (calculator.versionLine surroundings.platform)], attempts := []
          ending := .finished none }) ∧
      ∃ settings, calculator.callsVersion ["-l", "-v", "a"] = false ∧
        calculator.read ["-l", "-v", "a"] = .ok (.run settings ["a"]) ∧
        ∀ surroundings, ∃ configuration,
          Program.main Calculator.language surroundings ["-l", "-v", "a"] =
            Program.run Calculator.language configuration surroundings := by
  obtain ⟨hwins, hnone⟩ := version_wins_as_soon_as_reached ofLanguage_calculator
  have hcalls : calculator.callsVersion ["--other", "-nv"] = true := by cbv
  have hvalue : calculator.callsVersion ["-l", "-v", "a"] = false := by cbv
  have hfile : Shows (calculator.options ++ [helpOption]) ["a"] [] ["a"] :=
    (Shows.nil _).file (by decide) (by decide)
  have hload : Shows (calculator.options ++ [helpOption]) ["-l", "-v", "a"]
      [("load", .values ["-v"])] ["a"] :=
    hfile.option [("load", .values ["-v"])] (by decide) (by decide) (by decide)
  obtain ⟨settings, hread⟩ :=
    hload.exists_run sound_calculator.regular.dashed (by decide) (by decide)
  refine ⟨ofLanguage_calculator, hcalls, hwins _ hcalls ["-l"], settings, hvalue, hread, ?_⟩
  intro surroundings
  obtain ⟨hhelp, -⟩ | ⟨_, _, -, hrun⟩ := hnone isRegular_calculator _ hvalue _ hread surroundings
  · cases hhelp
  · exact ⟨_, hrun⟩

set_option maxRecDepth 10000 in
/-- An option that is declared to take no values at all is taken for one with a value, and hides the
call. -/
theorem version_hidden_by_option_without_values :
    ∃ (language : Language Unit Unit) (command : CommandLine),
      ofLanguage language = .ok command ∧
      (∀ option ∈ language.options,
        (∃ declaration : OptionDeclaration, declaration.build = .ok option) ∧
        (∀ form ∈ option.forms ++ option.offForms, OptionDeclaration.isDashed form = true) ∧
        option.isOmittable = false) ∧
      command.callsVersion ["-z", "-v"] = false ∧
      command.read ["-z", "-v"] = .ok .version ∧
      ∀ surroundings, Program.main language surroundings ["-z", "-v"] =
        { events := [.printed (command.versionLine surroundings.platform)]
          ending := .finished none } := by
  let option : CommandOption :=
    { name := "z", forms := ["-z"], kind := .values, type := .uniform .text, valueCount := 0 }
  let language : Language Unit Unit :=
    { title := "Echo", name := some "o", options := [option], initial := (),
      parseCommand := fun _ => .ok (), execute := fun _ _ _ env _ => pure env }
  let command : CommandLine := ⟨"o", commonTable, [option], false⟩
  have hcommand : ofLanguage language = .ok command := by
    have hname : language.name = some "o" := rfl
    have hcheck : checkDuplicates (commonTable ++ language.options) = .ok () := rfl
    simp only [ofLanguage, hname, commonOptions_eq, hcheck]
    rfl
  have hbuild : ({ declarations := ["-z"], valueCount := some 0 } : OptionDeclaration).build =
      .ok option := rfl
  have hcalls : command.callsVersion ["-z", "-v"] = false := by
    unfold command option
    cbv
  let options := command.options ++ [helpOption]
  have hflag : readOption options "-v" [] = .ok ⟨[⟨versionSwitch, .on⟩], []⟩ := rfl
  have hzero : readOption options "-z" ["-v"] = .ok ⟨[⟨option, .values []⟩], ["-v"]⟩ := rfl
  have hversion : Reads options ["-v"] _ := .option (by decide) (by decide) hflag .nil
  have hreads : Reads options ["-z", "-v"] _ := .option (by decide) (by decide) hzero hversion
  have hread : command.read ["-z", "-v"] = .ok .version := by
    rw [read_of_readWords (by decide) hreads.readWords_eq]
    rfl
  refine ⟨language, command, hcommand, ?_, hcalls, hread, fun surroundings => ?_⟩
  · intro other hother
    obtain rfl : other = option := List.mem_singleton.mp hother
    exact ⟨⟨_, hbuild⟩, by decide, rfl⟩
  · simp only [Program.main, hcommand, decision, hcalls, Bool.false_eq_true, if_false, hread]
    rfl

end LanguageShell.CommandLine

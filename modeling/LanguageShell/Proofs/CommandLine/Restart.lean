import LanguageShell.Program
import LanguageShell.Proofs.CommandLine.Insertion
import LanguageShell.Proofs.CommandLine.Queue

/-!
Starting the program again under a line editor. The flag that turns editors off is put in front of
the first `--` among the arguments. Unless that is the value of an option, the program that is
started then does the same, without an editor; otherwise the flag becomes the value, and an editor
is wanted once more.
-/

namespace LanguageShell

namespace CommandLine

open OptionDeclaration

/-! ### The flag -/

theorem isSwitch_editor : editorSwitch.IsSwitch :=
  ⟨rfl, rfl, rfl, rfl, rfl, rfl⟩

theorem isSwitch_shell : shellSwitch.IsSwitch :=
  ⟨rfl, rfl, rfl, rfl, rfl, rfl⟩

theorem given_flag_of_ne {first second : List Part} {option : CommandOption}
    (hother : option.name ≠ editorSwitch.name) :
    (Arguments.ofParts (first ++ .option ⟨editorSwitch, .on⟩ :: second)).given option =
      (Arguments.ofParts (first ++ second)).given option := by
  rw [Arguments.given_append, Arguments.given_append, Arguments.given_cons,
    if_neg fun hsame => hother hsame.symm]

theorem editors_eq_none_iff {command : CommandLine} {queue : List FileEntry}
    {settings : List (String × Datum)} {files : List String} :
    (Configuration.ofSettings command queue settings files).editors = none ↔
      settings.lookup "no_wrapper" = some (.truth true) := by
  unfold Configuration.ofSettings
  dsimp only
  split_ifs with hset
  · refine iff_of_true rfl ?_
    split at hset
    · rename_i b hlookup
      rw [hlookup, hset]
    · cases hset
  · refine iff_of_false ?_ fun hlookup => ?_
    · split
      · split <;> exact Option.some_ne_none _
      · exact Option.some_ne_none _
    · rw [hlookup] at hset
      exact hset rfl

section

variable {options : List CommandOption}

theorem reads_offFlag (hregular : Regular options) (hnodup : (allForms options).Nodup)
    (hmem : editorSwitch ∈ options) {rest : List String} {parts : List Part}
    (h : Reads options rest parts) :
    Reads options (LineEditor.offFlag :: rest) (.option ⟨editorSwitch, .on⟩ :: parts) := by
  have hsplit : splitAtEquals LineEditor.offFlag = (LineEditor.offFlag, none) := by decide
  have hlook : lookUp? options false LineEditor.offFlag = some (editorSwitch, false) :=
    lookUp?_of_mem hnodup hmem (List.mem_singleton_self _)
  have hread : readOption options LineEditor.offFlag rest = .ok ⟨[⟨editorSwitch, .on⟩], rest⟩ := by
    unfold readOption
    simp only [hsplit, hlook, isSwitch_editor.takesValue_eq]
    rfl
  have hlooks : looksLikeOption (knownMarks options) LineEditor.offFlag = true :=
    (looksLikeOption_iff hregular).mpr ⟨'-', "no-wrapper".toList, by decide⟩
  exact .option (by decide) hlooks hread h

/-- Where the first `--` is not the value of an option, the arguments with the flag are read as
before, with the flag besides. -/
theorem Reads.withoutEditor (hregular : Regular options) (hnodup : (allForms options).Nodup)
    (hmem : editorSwitch ∈ options) {words : List String} {first : List Part}
    (h : Reads options (words.takeWhile (· ≠ "--")) first) :
    ∃ second, Reads options words (first ++ second) ∧
      Reads options (LineEditor.withoutEditor words)
        (first ++ .option ⟨editorSwitch, .on⟩ :: second) := by
  have hstop := not_mem_takeWhile words
  obtain ⟨files, hfiles⟩ := reads_dropWhile options words
  refine ⟨files.map .file, ?_, ?_⟩
  · have hwhole := h.append hregular hstop hfiles
    rwa [List.takeWhile_append_dropWhile] at hwhole
  · exact h.append hregular hstop (reads_offFlag hregular hnodup hmem hfiles)

end

theorem configuration_of_decision {command : CommandLine} {platform : Platform}
    {program : String} {words : List String} {configuration : Configuration}
    (h : command.decision platform program words = .ok (.run configuration)) :
    ∃ settings files, command.read words = .ok (.run settings files) ∧
      configuration = .ofSettings command (fileQueue command.options words) settings files := by
  unfold decision at h
  split at h
  · cases h
  · cases hread : command.read words with
    | error refusal =>
        rw [hread] at h
        cases h
    | ok request =>
        rw [hread] at h
        cases request with
        | help | version => cases h
        | run settings files =>
            cases h
            exact ⟨settings, files, rfl, rfl⟩

namespace Sound

variable {command : CommandLine} (h : command.Sound)

include h

theorem given_eq_on {switch : CommandOption} (hmem : switch ∈ command.options)
    (hhelp : switch.name ≠ helpOption.name) (hswitch : switch.IsSwitch) {words : List String}
    {parts : List Part} (hreads : Reads (command.options ++ [helpOption]) words parts) :
    ∀ given ∈ (Arguments.ofParts parts).given switch, given = .on := by
  intro given hgiven
  obtain ⟨occurrence, hoccurrence, rfl⟩ := List.mem_map.mp hgiven
  rw [List.mem_filter, decide_eq_true_iff, mem_occurrences] at hoccurrence
  obtain ⟨hpart, hsame⟩ := hoccurrence
  have heq := h.option_eq hreads hpart hmem hsame hhelp
  have hproper := (hreads.isProper h.regular.append_help hpart).2
  rw [Occurrence.IsProper, heq, if_neg (by simp [hswitch.takesValue_eq])] at hproper
  obtain hon | ⟨-, hoff⟩ := hproper
  · exact hon
  · exact absurd hswitch.offForms hoff

theorem lookup_switch {switch : CommandOption} (hmem : switch ∈ command.options)
    (hhelp : switch.name ≠ helpOption.name) (hswitch : switch.IsSwitch) {words : List String}
    {parts : List Part} (hreads : Reads (command.options ++ [helpOption]) words parts)
    {settings : List (String × Datum)} {files : List String}
    (hread : command.read words = .ok (.run settings files)) :
    settings.lookup switch.name =
      some (.truth (!((Arguments.ofParts parts).given switch).isEmpty)) := by
  obtain ⟨datum, hdatum, hlookup⟩ := h.lookup_eq hreads hread hmem
  rw [hswitch.setting_eq (h.given_eq_on hmem hhelp hswitch hreads)] at hdatum
  rw [hlookup, ← Except.ok.inj hdatum]

theorem mem_editorSwitch : editorSwitch ∈ command.options :=
  h.common (by simp [commonTable])

theorem editors_eq_none_iff_given {words : List String} {parts : List Part}
    (hreads : Reads (command.options ++ [helpOption]) words parts)
    {settings : List (String × Datum)} {files : List String}
    (hread : command.read words = .ok (.run settings files)) (queue : List FileEntry) :
    (Configuration.ofSettings command queue settings files).editors = none ↔
      (Arguments.ofParts parts).given editorSwitch ≠ [] := by
  have hlookup := h.lookup_switch h.mem_editorSwitch (by decide) isSwitch_editor hreads hread
  rw [editors_eq_none_iff, show "no_wrapper" = editorSwitch.name from rfl, hlookup]
  simp

theorem exists_run_of_flag {words more : List String} {first second : List Part}
    {settings : List (String × Datum)} {files : List String}
    (hwhole : Reads (command.options ++ [helpOption]) words (first ++ second))
    (hread : command.read words = .ok (.run settings files))
    (hreads : Reads (command.options ++ [helpOption]) more
      (first ++ .option ⟨editorSwitch, .on⟩ :: second)) :
    ∃ others, command.read more = .ok (.run others files) := by
  obtain ⟨parts, hparts, hcalls, -, hfiles⟩ := (read_eq_run_iff h.regular.dashed).mp hread
  obtain rfl := hparts.unique hwhole
  have hsetting : ∀ option ∈ command.options,
      (option.setting ((Arguments.ofParts (first ++ .option ⟨editorSwitch, .on⟩ :: second)).given
        option)).isOk = true := by
    intro option hoption
    by_cases hsame : option.name = editorSwitch.name
    · obtain rfl := h.distinct.eq_of_name_eq hoption h.mem_editorSwitch hsame
      rw [isSwitch_editor.setting_eq
        (h.given_eq_on h.mem_editorSwitch (by decide) isSwitch_editor hreads)]
      rfl
    · obtain ⟨datum, hdatum, -⟩ := h.lookup_eq hwhole hread hoption
      rw [given_flag_of_ne hsame, hdatum]
      rfl
  have hnoCalls : ∀ occurrence, .option occurrence ∈
      first ++ .option ⟨editorSwitch, .on⟩ :: second → ¬occurrence.IsCall := by
    intro occurrence hoccurrence
    rw [List.mem_append, List.mem_cons, or_left_comm, ← List.mem_append] at hoccurrence
    obtain hflag | hother := hoccurrence
    · obtain rfl := Part.option.inj hflag
      rw [Occurrence.IsCall]
      decide
    · exact hcalls occurrence hother
  obtain ⟨others, hothers⟩ := exists_run_of_reads h.regular.dashed hreads hnoCalls hsetting
  have hsameFiles :
      (first ++ .option ⟨editorSwitch, .on⟩ :: second).filterMap Part.file? = files := by
    rw [← hfiles, List.filterMap_append, List.filterMap_append]
    rfl
  exact ⟨others, hsameFiles ▸ hothers⟩

/-- Where the first `--` is not the value of an option, the flag changes no setting but its own, and
neither the files nor their queue. -/
theorem read_withoutEditor {words : List String} {settings : List (String × Datum)}
    {files : List String} (hread : command.read words = .ok (.run settings files))
    (hstop : EndsAtStop (command.options ++ [helpOption]) words) :
    ∃ others, command.read (LineEditor.withoutEditor words) = .ok (.run others files) ∧
      fileQueue command.options (LineEditor.withoutEditor words) =
        fileQueue command.options words ∧
      (∀ queue, (Configuration.ofSettings command queue others files).editors = none) ∧
      ∀ option ∈ command.options, option.name ≠ editorSwitch.name →
        others.lookup option.name = settings.lookup option.name := by
  obtain ⟨first, hfirst⟩ := endsAtStop_iff.mp hstop
  -- The arguments consist of the same parts as before, and the flag among them.
  obtain ⟨second, hwhole, hreads⟩ := hfirst.withoutEditor h.regular.append_help
    h.distinct.nodup_append_help (List.mem_append_left _ h.mem_editorSwitch)
  obtain ⟨others, hothers⟩ := h.exists_run_of_flag hwhole hread hreads
  refine ⟨others, hothers, ?_, fun queue => ?_, fun option hoption hother => ?_⟩
  · rw [h.fileQueue_eq hreads, h.fileQueue_eq hwhole, List.filterMap_append,
      List.filterMap_append]
    rfl
  · rw [h.editors_eq_none_iff_given hreads hothers, Arguments.given_append, Arguments.given_cons,
      if_pos rfl]
    simp
  · obtain ⟨datum, hdatum, hlookup⟩ := h.lookup_eq hreads hothers hoption
    obtain ⟨former, hformer, hlookupFormer⟩ := h.lookup_eq hwhole hread hoption
    rw [given_flag_of_ne hother, hformer] at hdatum
    rw [hlookup, hlookupFormer, Except.ok.inj hdatum]

/-- Where the first `--` is the value of an option that takes one value, the flag takes its place,
and an editor is wanted again. -/
theorem editors_of_swallowed_flag
    (hsingle : ∀ option ∈ command.options, option.takesValue = true → option.valueCount = 1)
    {words : List String} {settings others : List (String × Datum)} {files otherFiles : List String}
    {queue otherQueue : List FileEntry} (hread : command.read words = .ok (.run settings files))
    (heditors : (Configuration.ofSettings command queue settings files).editors ≠ none)
    (hother : command.read (LineEditor.withoutEditor words) = .ok (.run others otherFiles))
    (hstop : ¬EndsAtStop (command.options ++ [helpOption]) words) :
    (Configuration.ofSettings command otherQueue others otherFiles).editors ≠ none := by
  have hall : ∀ option ∈ command.options ++ [helpOption], option.takesValue = true →
      option.valueCount = 1 := by
    intro option hoption htakes
    obtain hoption | hoption := List.mem_append.mp hoption
    · exact hsingle option hoption htakes
    · obtain rfl := List.mem_singleton.mp hoption
      rfl
  obtain ⟨parts, hparts, -⟩ := (read_eq_run_iff h.regular.dashed).mp hread
  have hwords := List.takeWhile_append_dropWhile (p := (· ≠ "--")) (l := words)
  obtain hrest | ⟨after, hrest⟩ := dropWhile_eq_nil_or_cons words
  · -- Without any `--` all arguments are in front of it.
    rw [hrest, List.append_nil] at hwords
    exact absurd (endsAtStop_iff.mpr ⟨parts, by rwa [hwords]⟩) hstop
  · rw [hrest] at hwords
    obtain hbefore | ⟨first, option, second, hoption, htakes, rfl, hcut⟩ :=
      hparts.cut h.regular.append_help hall hwords.symm (not_mem_takeWhile words)
    · exact absurd (endsAtStop_iff.mpr hbefore) hstop
    have hreads := hcut LineEditor.offFlag ("--" :: after) _ (.stop after)
    rw [← hrest] at hreads
    rw [ne_eq, h.editors_eq_none_iff_given hparts hread, not_not, Arguments.given_append,
      List.append_eq_nil_iff] at heditors
    -- The option that takes the flag is another one than the flag.
    have hname : option.name ≠ editorSwitch.name := by
      intro hsame
      have hpart : Part.option ⟨option, .values ["--"]⟩ ∈
          first ++ .option ⟨option, .values ["--"]⟩ :: second :=
        List.mem_append_right _ List.mem_cons_self
      have heq := h.option_eq hparts hpart h.mem_editorSwitch hsame (by decide)
      rw [show option = editorSwitch from heq, isSwitch_editor.takesValue_eq] at htakes
      cases htakes
    rw [ne_eq, h.editors_eq_none_iff_given hreads hother, not_not, Arguments.given_append,
      heditors.1, List.nil_append, Arguments.given_cons, if_neg hname, Arguments.given_files]

end Sound

theorem ofSettings_eq_of_lookup {command : CommandLine} {queue : List FileEntry}
    {settings others : List (String × Datum)} {files : List String}
    (hshell : others.lookup "no_shell" = settings.lookup "no_shell")
    (hverbosity : others.lookup "verbosity" = settings.lookup "verbosity")
    (hown : others.filter (fun setting => command.own.any (·.name = setting.1)) =
      settings.filter fun setting => command.own.any (·.name = setting.1))
    (hnone : (Configuration.ofSettings command queue others files).editors = none) :
    Configuration.ofSettings command queue others files =
      { Configuration.ofSettings command queue settings files with editors := none } := by
  rw [← hnone]
  simp only [Configuration.ofSettings, hshell, hverbosity, hown]

end CommandLine

/-! ### Attempts -/

namespace LineEditor

theorem withoutEditor_append {start : List String} (h : "--" ∉ start) (words : List String) :
    withoutEditor (start ++ words) = start ++ withoutEditor words := by
  have hall : ∀ word ∈ start, decide (word ≠ "--") = true := by
    intro word hword
    rw [decide_eq_true_iff]
    rintro rfl
    exact h hword
  rw [withoutEditor, withoutEditor, List.takeWhile_append_of_pos hall,
    List.dropWhile_append_of_pos hall, List.append_assoc]

theorem exists_of_mem_attempts {starts : String → Bool} {words editors attempt : List String}
    (h : attempt ∈ (launch starts words editors).attempts) :
    ∃ editor ∈ editors, attempt = editor :: withoutEditor words := by
  induction editors with
  | nil => cases h
  | cons editor others ih =>
      rw [launch] at h
      dsimp only at h
      split at h
      · exact ⟨editor, List.mem_cons_self, List.mem_singleton.mp h⟩
      · obtain hfirst | hlater := List.mem_cons.mp h
        · exact ⟨editor, List.mem_cons_self, hfirst⟩
        · obtain ⟨other, hother, hattempt⟩ := ih hlater
          exact ⟨other, List.mem_cons_of_mem _ hother, hattempt⟩

end LineEditor

namespace Program

variable {Env Cmd : Type} {language : Language Env Cmd} {configuration : Configuration}
  {surroundings : Surroundings}

/-- A run only tries the editors that are wanted, each with the words that started the program. -/
theorem exists_of_mem_attempts {attempt : List String}
    (h : attempt ∈ (run language configuration surroundings).attempts) :
    ∃ editor ∈ configuration.editors.getD [],
      attempt = editor :: LineEditor.withoutEditor surroundings.invocation.words := by
  unfold run at h
  dsimp only at h
  -- Whatever becomes of the attempts, they are kept.
  have hattempts : attempt ∈ (LineEditor.launch surroundings.starts surroundings.invocation.words
      (if configuration.interactiveShell && surroundings.isTerminal then
        configuration.editors.getD [] else [])).attempts := by
    generalize LineEditor.launch surroundings.starts surroundings.invocation.words
      (if configuration.interactiveShell && surroundings.isTerminal then
        configuration.editors.getD [] else []) = launched at h ⊢
    split at h <;> exact h
  obtain ⟨editor, heditor, hattempt⟩ := LineEditor.exists_of_mem_attempts hattempts
  split at heditor
  · exact ⟨editor, heditor, hattempt⟩
  · cases heditor

end Program

/-! ### The calculator -/

namespace CommandLine

theorem single_calculator :
    ∀ option ∈ calculator.options, option.takesValue = true → option.valueCount = 1 := by
  decide

theorem own_settings_calculator {words : List String} {settings : List (String × Datum)}
    {files : List String} (hread : calculator.read words = .ok (.run settings files)) :
    ∃ datum, settings.lookup precisionEntry.name = some datum ∧
      settings.filter (fun setting => calculator.own.any (·.name = setting.1)) =
        [(precisionEntry.name, datum)] := by
  have hnames := sound_calculator.distinct.nodup_names
  obtain ⟨parts, hreads, -, hsettle, -⟩ :=
    (read_eq_run_iff sound_calculator.regular.dashed).mp hread
  have hmem : precisionEntry ∈ calculator.options := List.mem_append_right _ List.mem_cons_self
  obtain ⟨datum, -, hlookup⟩ := sound_calculator.lookup_eq hreads hread hmem
  have hnodup : (settings.map (·.1)).Nodup := by
    rw [keys_of_settle hsettle]
    exact ((order_perm _ _).map _).nodup_iff.mpr hnames
  refine ⟨datum, hlookup, ?_⟩
  rw [← filter_of_lookup hnodup hlookup]
  refine List.filter_congr fun setting _ => ?_
  simp [calculator]

theorem Shows.exists_configuration {words : List String} {found : List (String × Given)}
    (h : Shows (calculator.options ++ [helpOption]) words found [])
    (hfound : ∀ one ∈ found, one.1 ∉ ["help", "version", "no_shell", "no_wrapper"])
    (hsettings : ∀ option ∈ calculator.options,
      (option.setting ((found.filter (·.1 = option.name)).map (·.2))).isOk = true) :
    ∃ configuration, (∀ platform program,
        calculator.decision platform program words = .ok (.run configuration)) ∧
      configuration.interactiveShell = true ∧ configuration.editors ≠ none := by
  have hsound := sound_calculator
  have hcalls : ∀ one ∈ found, one.1 ≠ helpOption.name ∧ one.1 ≠ "version" := by
    intro one hone
    have hnone := hfound one hone
    simp only [List.mem_cons, not_or] at hnone
    exact ⟨hnone.1, hnone.2.1⟩
  obtain ⟨settings, hread⟩ := h.exists_run hsound.regular.dashed hcalls hsettings
  obtain ⟨parts, hreads, hseen, -⟩ := h
  have hgiven : ∀ option : CommandOption, option.name ∈ ["no_shell", "no_wrapper"] →
      (Arguments.ofParts parts).given option = [] := by
    intro option hoption
    rw [given_eq_of_seen, hseen, List.map_eq_nil_iff, List.filter_eq_nil_iff]
    intro one hone hsame
    rw [decide_eq_true_iff] at hsame
    refine hfound one hone ?_
    rw [hsame]
    exact List.mem_cons_of_mem _ (List.mem_cons_of_mem _ hoption)
  refine ⟨_, hsound.decision_eq hread, ?_, ?_⟩
  · have hmem : shellSwitch ∈ calculator.options := hsound.common (by simp [commonTable])
    have hlookup := hsound.lookup_switch hmem (by decide) isSwitch_shell hreads hread
    rw [hgiven shellSwitch (by decide), show shellSwitch.name = "no_shell" from rfl] at hlookup
    simp [Configuration.ofSettings, hlookup]
  · rw [ne_eq, hsound.editors_eq_none_iff_given hreads hread, not_not]
    exact hgiven editorSwitch (by decide)

/-- The program that is started again under an editor does the same without one, if the first `--`
is not the value of an option; if it is, an editor is wanted again. The arguments are those that are
handed to each of the editors, behind the words that start the program. Without an editor that is
wanted, none is tried. -/
theorem restart_keeps_configuration {command : CommandLine}
    (hcommand : ofLanguage Calculator.language = .ok command) {platform : Platform}
    {program : String} {words : List String} {configuration : Configuration}
    (hdecision : command.decision platform program words = .ok (.run configuration))
    (heditors : configuration.editors ≠ none) :
    let again := LineEditor.withoutEditor words
    (EndsAtStop (command.options ++ [helpOption]) words →
      command.decision platform program again = .ok (.run { configuration with editors := none })) ∧
    (¬EndsAtStop (command.options ++ [helpOption]) words → ∀ other,
      command.decision platform program again = .ok (.run other) → other.editors ≠ none) ∧
    (∀ (surroundings : Surroundings) (start : List String),
      surroundings.invocation.words = start ++ words → "--" ∉ start →
      ∀ attempt ∈ (Program.run Calculator.language configuration surroundings).attempts,
        ∃ editor ∈ configuration.editors.getD [], attempt = editor :: (start ++ again)) ∧
    ∀ surroundings, (Program.run Calculator.language { configuration with editors := none }
      surroundings).attempts = [] := by
  intro again
  obtain rfl := Except.ok.inj (ofLanguage_calculator.symm.trans hcommand)
  obtain ⟨settings, files, hread, rfl⟩ := configuration_of_decision hdecision
  refine ⟨fun hstop => ?_, fun hstop other hother => ?_, ?_, fun surroundings => ?_⟩
  · obtain ⟨others, hothers, hqueue, hnone, hlookup⟩ :=
      sound_calculator.read_withoutEditor hread hstop
    rw [sound_calculator.decision_eq hothers, hqueue]
    have hsame : ∀ name ∈ calculator.options.map (·.name), name ≠ editorSwitch.name →
        others.lookup name = settings.lookup name := by
      intro name hname hother
      obtain ⟨option, hoption, rfl⟩ := List.mem_map.mp hname
      exact hlookup option hoption hother
    have hprecision := hsame precisionEntry.name (by decide) (by decide)
    obtain ⟨datum, hdatum, hown⟩ := own_settings_calculator hread
    obtain ⟨other, hother, hotherOwn⟩ := own_settings_calculator hothers
    rw [ofSettings_eq_of_lookup (hsame "no_shell" (by decide) (by decide))
      (hsame "verbosity" (by decide) (by decide)) ?_ (hnone _)]
    rw [hown, hotherOwn]
    rw [hdatum, hother] at hprecision
    rw [Option.some.inj hprecision]
  · obtain ⟨others, otherFiles, hothers, rfl⟩ := configuration_of_decision hother
    exact sound_calculator.editors_of_swallowed_flag single_calculator hread heditors hothers hstop
  · intro surroundings start hwords hstart attempt hattempt
    obtain ⟨editor, heditor, rfl⟩ := Program.exists_of_mem_attempts hattempt
    rw [hwords, LineEditor.withoutEditor_append hstart]
    exact ⟨editor, heditor, rfl⟩
  · rw [List.eq_nil_iff_forall_not_mem]
    intro attempt hattempt
    obtain ⟨editor, heditor, -⟩ := Program.exists_of_mem_attempts hattempt
    cases heditor

set_option maxRecDepth 10000 in
/-- The `--` behind the file that is loaded ends the options. -/
theorem restart_of_loading_file :
    ∃ command configuration, ofLanguage Calculator.language = .ok command ∧
      command.decision .unix "calc" ["-l", "a", "--"] = .ok (.run configuration) ∧
      configuration.interactiveShell = true ∧ configuration.editors ≠ none ∧
      command.decision .unix "calc" ["-l", "a", "--no-wrapper", "--"] =
        .ok (.run { configuration with editors := none }) := by
  let options := calculator.options ++ [helpOption]
  have hwhole : Shows options ["-l", "a", "--"] [("load", .values ["a"])] [] :=
    (Shows.stop _ []).option [("load", .values ["a"])] (by decide) (by decide) (by decide)
  have hbefore : Shows options ["-l", "a"] [("load", .values ["a"])] [] :=
    (Shows.nil _).option [("load", .values ["a"])] (by decide) (by decide) (by decide)
  obtain ⟨configuration, hdecision, hshell, heditors⟩ :=
    hwhole.exists_configuration (by decide) (by decide)
  have hstop : EndsAtStop options ["-l", "a", "--"] := by
    obtain ⟨parts, hreads, -⟩ := hbefore
    exact endsAtStop_iff.mpr ⟨parts, hreads⟩
  exact ⟨calculator, configuration, ofLanguage_calculator, hdecision .unix "calc", hshell, heditors,
    (restart_keeps_configuration ofLanguage_calculator (hdecision .unix "calc") heditors).1 hstop⟩

set_option maxRecDepth 10000 in
/-- The `--` is the file that is loaded; the flag becomes the file in its place. -/
theorem restart_wants_editor_again :
    ∃ command configuration other, ofLanguage Calculator.language = .ok command ∧
      command.decision .unix "calc" ["-l", "--"] = .ok (.run configuration) ∧
      configuration.interactiveShell = true ∧ configuration.editors ≠ none ∧
      command.decision .unix "calc" (LineEditor.withoutEditor ["-l", "--"]) =
        .ok (.run other) ∧
      other.editors ≠ none := by
  let options := calculator.options ++ [helpOption]
  have hfirst : Shows options ["-l", "--"] [("load", .values ["--"])] [] :=
    (Shows.nil _).option [("load", .values ["--"])] (by decide) (by decide) (by decide)
  have hagain : Shows options (LineEditor.withoutEditor ["-l", "--"])
      [("load", .values ["--no-wrapper"])] [] :=
    (Shows.stop _ []).option [("load", .values ["--no-wrapper"])] (by decide) (by decide)
      (by decide)
  obtain ⟨configuration, hdecision, hshell, heditors⟩ :=
    hfirst.exists_configuration (by decide) (by decide)
  obtain ⟨other, hother, -, hotherEditors⟩ := hagain.exists_configuration (by decide) (by decide)
  exact ⟨calculator, configuration, other, ofLanguage_calculator, hdecision .unix "calc", hshell,
    heditors, hother .unix "calc", hotherEditors⟩

end CommandLine

end LanguageShell

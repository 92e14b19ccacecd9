import LanguageShell.Calculator.Language
import LanguageShell.CommandLine.Configuration
import LanguageShell.Proofs.CommandLine.Scanning
import LanguageShell.Proofs.CommandLine.Settings

/-!
The queue of files. It comes from the first look at the arguments, while the settings come from the
reader; where the options are regular both see the same files, and the queue has them in the order
of the arguments.
-/

namespace LanguageShell.CommandLine

/-! ### The command line of a language -/

section

variable {Env Cmd : Type} {language : Language Env Cmd} {command : CommandLine}

theorem options_of_ofLanguage (h : ofLanguage language = .ok command) :
    command.options = commonOptions ++ language.options ∧ command.own = language.options ∧
      Distinct command.options := by
  unfold ofLanguage at h
  split at h
  · cases h
  · cases h
  · cases hcheck : checkDuplicates (commonOptions ++ language.options) with
    | error failure =>
        rw [hcheck] at h
        cases h
    | ok =>
        rw [hcheck] at h
        obtain rfl := Except.ok.inj h
        exact ⟨rfl, rfl, distinct_of_checkDuplicates hcheck⟩

end

/-- Whether the options are regular and distinct, and those that every language has are among
them. -/
structure Sound (command : CommandLine) : Prop where
  regular : Regular command.options
  distinct : Distinct command.options
  common : commonTable ⊆ command.options

theorem sound_of_ofLanguage {Env Cmd : Type} {language : Language Env Cmd} {command : CommandLine}
    (h : ofLanguage language = .ok command)
    (hregular : ∀ option ∈ language.options, option.IsRegular) : command.Sound := by
  obtain ⟨hoptions, -, hdistinct⟩ := options_of_ofLanguage h
  refine ⟨?_, hdistinct, ?_⟩
  · rw [hoptions]
    apply Regular.of_isRegular
    intro option hoption
    obtain hoption | hoption := List.mem_append.mp hoption
    · exact isRegular_common option hoption
    · exact hregular option hoption
  · rw [hoptions, commonOptions_eq]
    exact List.subset_append_left _ _

theorem callsVersion_iff {command : CommandLine} {words : List String} :
    command.callsVersion words = true ↔
      ∃ option value, .option option value ∈ scan command.options words ∧
        option.name = "version" := by
  rw [callsVersion, List.any_eq_true]
  constructor
  · rintro ⟨item, hitem, hversion⟩
    cases item with
    | file path => cases hversion
    | option option value => exact ⟨option, value, hitem, by simpa using hversion⟩
  · rintro ⟨option, value, hitem, hname⟩
    exact ⟨_, hitem, by simpa using hname⟩

theorem Occurrence.option_of_item? {occurrence : Occurrence} {option : CommandOption}
    {value : Option String} (h : occurrence.item? = some (.option option value)) :
    occurrence.option = option := by
  unfold Occurrence.item? at h
  split at h
  · split at h
    · cases h
    · cases h
      rfl
  · cases h
    rfl
  · cases h
  · cases h

def versionSwitch : CommandOption where
  name := "version"
  forms := ["-v"]
  default := some (.truth false)
  help := "Print language information and exit."

namespace Sound

variable {command : CommandLine} (h : command.Sound) {words : List String} {parts : List Part}
  (hreads : Reads (command.options ++ [helpOption]) words parts)

include h hreads

/-- An option that occurs is the one that has its name, unless it is the call for help. -/
theorem option_eq {occurrence : Occurrence} (hmem : .option occurrence ∈ parts)
    {option : CommandOption} (hoption : option ∈ command.options)
    (hname : occurrence.option.name = option.name) (hhelp : option.name ≠ helpOption.name) :
    occurrence.option = option := by
  refine h.distinct.eq_of_name_eq ?_ hoption hname
  obtain hown | hother := List.mem_append.mp (hreads.isProper h.regular.append_help hmem).1
  · exact hown
  · rw [List.mem_singleton.mp hother] at hname
    exact absurd hname.symm hhelp

theorem fileQueue_eq : fileQueue command.options words = parts.filterMap Part.queued? :=
  hreads.fileQueue_eq h.regular h.distinct

theorem lookup_eq {settings : List (String × Datum)} {files : List String}
    (hread : command.read words = .ok (.run settings files)) {option : CommandOption}
    (hoption : option ∈ command.options) :
    ∃ datum, option.setting ((Arguments.ofParts parts).given option) = .ok datum ∧
      settings.lookup option.name = some datum :=
  lookup_of_read h.regular.dashed h.distinct.nodup_names hreads hread hoption

theorem callsVersion_iff : command.callsVersion words = true ↔
    ∃ occurrence, .option occurrence ∈ parts ∧ occurrence.option.name = "version" := by
  rw [CommandLine.callsVersion_iff, hreads.scan_eq h.regular h.distinct]
  constructor
  · rintro ⟨option, value, hitem, hname⟩
    obtain ⟨part, hpart, hsome⟩ := List.mem_filterMap.mp hitem
    cases part with
    | file path => cases hsome
    | option occurrence =>
        obtain rfl := occurrence.option_of_item? hsome
        exact ⟨occurrence, hpart, hname⟩
  · rintro ⟨⟨option, given⟩, hpart, hname⟩
    have hversion : versionSwitch ∈ command.options := h.common (by simp [commonTable, versionSwitch])
    obtain rfl : option = versionSwitch :=
      h.option_eq hreads hpart hversion hname (by decide)
    -- A flag that cannot be turned off is turned on where it occurs.
    obtain rfl | ⟨-, hoff⟩ := (hreads.isProper h.regular.append_help hpart).2
    · exact ⟨versionSwitch, none, List.mem_filterMap.mpr ⟨_, hpart, rfl⟩, rfl⟩
    · exact absurd rfl hoff

theorem callsVersion_eq_false
    (hcalls : ∀ occurrence, .option occurrence ∈ parts → ¬occurrence.IsCall) :
    command.callsVersion words = false := by
  rw [← Bool.not_eq_true, h.callsVersion_iff hreads]
  rintro ⟨occurrence, hpart, hname⟩
  exact hcalls occurrence hpart (.inr hname)

omit hreads in
/-- Where the reader finds a run, its settings and files make the configuration. -/
theorem decision_eq {settings : List (String × Datum)} {files : List String}
    (hread : command.read words = .ok (.run settings files)) (platform : Platform)
    (program : String) : command.decision platform program words =
      .ok (.run (.ofSettings command (fileQueue command.options words) settings files)) := by
  obtain ⟨parts, hreads, hcalls, -⟩ := (read_eq_run_iff h.regular.dashed).mp hread
  rw [decision, h.callsVersion_eq_false hreads hcalls, if_neg Bool.false_ne_true, hread]
  rfl

end Sound

/-! ### Files -/

theorem files_of_entries (parts : List Part) :
    ((parts.filterMap Part.queued?).filter (·.interactive)).map (·.path) =
      (parts.filterMap Part.file?).map .ofString := by
  induction parts with
  | nil => rfl
  | cons part parts ih =>
      cases part with
      | file path => simpa [Part.queued?, Part.file?] using ih
      | option occurrence =>
          have hfile : (Part.option occurrence).file? = none := rfl
          rw [List.filterMap_cons_none hfile]
          cases hentry : (Part.option occurrence).queued? with
          | none => rwa [List.filterMap_cons_none hentry]
          | some entry =>
              have hload : entry.interactive = false := by
                unfold Part.queued? at hentry
                dsimp only at hentry
                split at hentry
                · split at hentry
                  · cases hentry
                    rfl
                  · cases hentry
                · cases hentry
              rw [List.filterMap_cons_some hentry, List.filter_cons_of_neg (by simp [hload]), ih]

theorem exists_loads {parts : List Part}
    (h : ∀ occurrence, .option occurrence ∈ parts → occurrence.option.name = "load" →
      ∃ path, occurrence.given = .values [path]) :
    ∃ loads : List String,
      ((parts.filterMap Part.queued?).filter (!·.interactive)).map (·.path) =
        loads.map .ofString ∧
      (Arguments.ofParts parts).given loadEntry = loads.map (.values [·]) := by
  induction parts with
  | nil => exact ⟨[], rfl, rfl⟩
  | cons part parts ih =>
      obtain ⟨loads, hpaths, hgiven⟩ :=
        ih fun occurrence hmem => h occurrence (List.mem_cons_of_mem _ hmem)
      cases part with
      | file path =>
          have hskip : (Arguments.ofParts (.file path :: parts)).given loadEntry =
              (Arguments.ofParts parts).given loadEntry := rfl
          exact ⟨loads, by simpa [Part.queued?] using hpaths, hskip.trans hgiven⟩
      | option occurrence =>
          rw [Arguments.given_cons]
          by_cases hload : occurrence.option.name = "load"
          · obtain ⟨path, hpath⟩ := h occurrence List.mem_cons_self hload
            have hentry : (Part.option occurrence).queued? = some ⟨path, false⟩ := by
              simp only [Part.queued?, hpath, if_pos hload]
            refine ⟨path :: loads, ?_, ?_⟩
            · rw [List.filterMap_cons_some hentry, List.map_cons, ← hpaths]
              rfl
            · rw [if_pos (by exact hload), hpath, hgiven]
              rfl
          · have hentry : (Part.option occurrence).queued? = none := by
              simp only [Part.queued?, if_neg hload]
              split <;> rfl
            rw [List.filterMap_cons_none hentry, if_neg (by exact hload)]
            exact ⟨loads, hpaths, hgiven⟩

theorem setting_of_paths (paths : List String) :
    loadEntry.setting (paths.map (.values [·])) = .ok (.list (paths.map .text)) := by
  have hconvert : ∀ paths : List String,
      (paths.map Datum.text).mapM (loadEntry.type.convert loadEntry.valueCount) =
        .ok (paths.map Datum.text) := by
    intro paths
    rw [mapM_eq_ok_iff]
    induction paths with
    | nil => exact .nil
    | cons path paths ih => exact .cons rfl ih
  unfold CommandOption.setting
  split
  · rename_i hnone
    obtain rfl : paths = [] := by simpa using hnone
    rfl
  · have hdatum : (paths.map (Given.values [·])).map loadEntry.datum = paths.map .text := by
      rw [List.map_map]
      exact List.map_congr_left fun path _ => rfl
    have hrepeated : loadEntry.isRepeated = true := rfl
    rw [if_neg (by decide), if_pos hrepeated, hdatum]
    simp only [CommandOption.convert, hrepeated, Datum.items?, hconvert paths]
    rfl

/-! ### Agreement -/

theorem Sound.exists_path {command : CommandLine} (h : command.Sound) {words : List String}
    {parts : List Part} (hreads : Reads (command.options ++ [helpOption]) words parts)
    {occurrence : Occurrence} (hmem : .option occurrence ∈ parts)
    (hname : occurrence.option.name = "load") : ∃ path, occurrence.given = .values [path] := by
  have hoption : loadEntry ∈ command.options := h.common (by simp [commonTable])
  have hsame := h.option_eq hreads hmem hoption hname (by decide)
  have hproper := (hreads.isProper h.regular.append_help hmem).2
  have htakes : loadEntry.takesValue = true := rfl
  rw [Occurrence.IsProper, hsame, if_pos htakes] at hproper
  obtain ⟨values, hgiven, hlength⟩ := hproper
  obtain ⟨path, rfl⟩ := List.length_eq_one_iff.mp hlength
  exact ⟨path, hgiven⟩

/-- Where the arguments lead to a run, the queue has the files that the reader finds: those that
stand alone are the file arguments, the others are the setting of the option that loads files, and
they come in the order in which they stand in the arguments. -/
theorem file_queue_has_files_of_reader {Env Cmd : Type} {language : Language Env Cmd}
    {command : CommandLine} (hcommand : ofLanguage language = .ok command)
    (hregular : ∀ option ∈ language.options, option.IsRegular) {words : List String}
    {settings : List (String × Datum)} {files : List String}
    (hread : command.read words = .ok (.run settings files)) :
    let queue := fileQueue command.options words
    (queue.filter (·.interactive)).map (·.path) = files.map .ofString ∧
    (∃ loads : List String, settings.lookup "load" = some (.list (loads.map .text)) ∧
      (queue.filter (!·.interactive)).map (·.path) = loads.map .ofString) ∧
    (∃ parts, Reads (command.options ++ [helpOption]) words parts ∧
      readWords (command.options ++ [helpOption]) words = .ok (.ofParts parts) ∧
      queue = parts.filterMap Part.queued?) ∧
    ∀ platform program, command.decision platform program words =
      .ok (.run (.ofSettings command queue settings files)) := by
  intro queue
  have hsound := sound_of_ofLanguage hcommand hregular
  obtain ⟨parts, hreads, -, -, hfiles⟩ := (read_eq_run_iff hsound.regular.dashed).mp hread
  have hqueue : queue = parts.filterMap Part.queued? := hsound.fileQueue_eq hreads
  refine ⟨?_, ?_, ⟨parts, hreads, hreads.readWords_eq, hqueue⟩, hsound.decision_eq hread⟩
  · rw [hqueue, files_of_entries, hfiles]
  · have hoption : loadEntry ∈ command.options := hsound.common (by simp [commonTable])
    obtain ⟨datum, hdatum, hlookup⟩ := hsound.lookup_eq hreads hread hoption
    obtain ⟨loads, hpaths, hgiven⟩ := exists_loads fun occurrence => hsound.exists_path hreads
    rw [hgiven] at hdatum
    have hsame := Except.ok.inj (hdatum.symm.trans (setting_of_paths loads))
    exact ⟨loads, hlookup.trans (congrArg some hsame), hqueue ▸ hpaths⟩

/-! ### The calculator -/

set_option maxRecDepth 10000 in
theorem isRegular_calculator : ∀ option ∈ Calculator.language.options, option.IsRegular := by
  intro option hoption
  obtain rfl : option = Calculator.precisionOption := List.mem_singleton.mp hoption
  exact .of_check (by decide) (by decide) (by decide)

def precisionEntry : CommandOption where
  name := "precision"
  forms := ["--precision"]
  kind := .values
  type := .uniform .integer
  placeholder := some "<digits>"
  help := "Round floating-point results to <digits> decimals when printing."

set_option maxRecDepth 10000 in
theorem precisionOption_eq : Calculator.precisionOption = precisionEntry :=
  (rfl)

def calculator : CommandLine :=
  ⟨"calc", commonTable, [precisionEntry], true⟩

theorem ofLanguage_calculator : ofLanguage Calculator.language = .ok calculator := by
  have hoptions : Calculator.language.options = [precisionEntry] := by
    rw [← precisionOption_eq]
    rfl
  have hname : Calculator.language.name = some "calc" := rfl
  have hcheck : checkDuplicates (commonTable ++ [precisionEntry]) = .ok () := rfl
  simp only [ofLanguage, hname, hoptions, commonOptions_eq, hcheck]
  rfl

theorem sound_calculator : calculator.Sound :=
  sound_of_ofLanguage ofLanguage_calculator isRegular_calculator

set_option maxRecDepth 10000 in
/-- A cluster of which the last letter takes `--` for its value, and further on a `--` that is
none. -/
theorem file_queue_of_mixed_arguments :
    ∃ command settings, ofLanguage Calculator.language = .ok command ∧
      (∀ option ∈ Calculator.language.options, option.IsRegular) ∧
      command.read ["-nl", "--", "a", "--precision=2", "--", "-l"] =
        .ok (.run settings ["a", "-l"]) ∧
      ((fileQueue command.options ["-nl", "--", "a", "--precision=2", "--", "-l"]).filter
        (·.interactive)).map (·.path) = [.ofString "a", .ofString "-l"] := by
  let options := calculator.options ++ [helpOption]
  have hstop : Shows options ["--", "-l"] [] ["-l"] := .stop _ _
  have hprecision : Shows options ["--precision=2", "--", "-l"] [("precision", .values ["2"])]
      ["-l"] :=
    hstop.option [("precision", .values ["2"])] (by decide) (by decide) (by decide)
  have hfile : Shows options ["a", "--precision=2", "--", "-l"] [("precision", .values ["2"])]
      ["a", "-l"] :=
    hprecision.file (by decide) (by decide)
  have hcluster : Shows options ["-nl", "--", "a", "--precision=2", "--", "-l"]
      [("no_shell", .on), ("load", .values ["--"]), ("precision", .values ["2"])] ["a", "-l"] :=
    hfile.option [("no_shell", .on), ("load", .values ["--"])] (by decide) (by decide) (by decide)
  obtain ⟨settings, hread⟩ :=
    hcluster.exists_run sound_calculator.regular.dashed (by decide) (by decide)
  exact ⟨calculator, settings, ofLanguage_calculator, isRegular_calculator, hread,
    (file_queue_has_files_of_reader ofLanguage_calculator isRegular_calculator hread).1⟩

set_option maxRecDepth 10000 in
/-- An option that is declared to take no values at all keeps the scan from a file: there it is
taken for an option with one value. -/
theorem file_queue_misses_file :
    ∃ (language : Language Unit Unit) (command : CommandLine) (settings : List (String × Datum)),
      ofLanguage language = .ok command ∧
      (∀ option ∈ language.options,
        (∃ declaration : OptionDeclaration, declaration.build = .ok option) ∧
        (∀ form ∈ option.forms ++ option.offForms, OptionDeclaration.isDashed form = true) ∧
        option.isOmittable = false) ∧
      command.read ["-z", "a"] = .ok (.run settings ["a"]) ∧
      fileQueue command.options ["-z", "a"] = [] := by
  let option : CommandOption :=
    { name := "z", forms := ["-z"], kind := .values, type := .uniform .text, valueCount := 0 }
  let language : Language Unit Unit :=
    { title := "Echo", name := some "o", options := [option], initial := (),
      parseCommand := fun _ => .ok (), execute := fun _ _ _ env _ => pure env }
  let command : CommandLine := ⟨"o", commonTable, [option], false⟩
  have hcommand : ofLanguage language = .ok command := by
    have hname : language.name = some "o" := rfl
    have hcheck : checkDuplicates (commonTable ++ language.options) = .ok () := rfl
    simp only [ofLanguage, hname, commonOptions_eq, hcheck]
    rfl
  have hbuild : ({ declarations := ["-z"], valueCount := some 0 } : OptionDeclaration).build =
      .ok option := rfl
  have hfile : Shows (command.options ++ [helpOption]) ["a"] [] ["a"] :=
    (Shows.nil _).file (by decide) (by decide)
  have hoption : Shows (command.options ++ [helpOption]) ["-z", "a"] [("z", .values [])] ["a"] :=
    hfile.option [("z", .values [])] (by decide) (by decide) (by decide)
  obtain ⟨settings, hread⟩ := hoption.exists_run (by decide) (by decide) (by decide)
  refine ⟨language, command, settings, hcommand, ?_, hread, ?_⟩
  · intro other hother
    obtain rfl : other = option := List.mem_singleton.mp hother
    exact ⟨⟨_, hbuild⟩, by decide, rfl⟩
  · have hcount : (scanCluster command.options ["a"] ['z']).2 = 1 := by decide
    have hitems :
        (scanCluster command.options ["a"] ['z']).1.filterMap Item.queued? = [] := by
      decide
    have hlong : ¬"-z".startsWith "--" = true := by
      rw [String.startsWith_string_iff]
      decide
    have hshort : ("-z".startsWith "-" && decide ("-z" ≠ "-")) = true := by
      rw [Bool.and_eq_true, String.startsWith_string_iff]
      decide
    rw [fileQueue_eq_filterMap, scan, if_neg (by decide), if_neg hlong, if_pos hshort]
    change ((scanCluster command.options ["a"] ['z']).1 ++ scan command.options
      (["a"].drop (scanCluster command.options ["a"] ['z']).2)).filterMap Item.queued? = []
    rw [List.filterMap_append, hcount, hitems, List.drop_one, List.tail_cons, scan]
    rfl

end LanguageShell.CommandLine

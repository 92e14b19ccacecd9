import LanguageShell.Proofs.CommandLine.Parts

/-!
What becomes of arguments that have been read. If no option calls for help or for the version, each
option has a setting, made of all that it is given; the arguments are accepted exactly if there is a
setting for every option. The settings stand in the order of the arguments, but each is found by its
name.
-/

namespace LanguageShell

namespace CommandOption

/-- A flag that has a truth value for its setting and is off unless it occurs. -/
structure IsSwitch (option : CommandOption) : Prop where
  kind : option.kind = .flag
  type : option.type = .uniform .truth
  valueCount : option.valueCount = 1
  isRepeated : option.isRepeated = false
  default : option.default = some (.truth false)
  offForms : option.offForms = []

theorem IsSwitch.takesValue_eq {option : CommandOption} (h : option.IsSwitch) :
    option.takesValue = false := by
  simp [takesValue, h.kind]

/-- The setting of a switch says whether it is given anything. -/
theorem IsSwitch.setting_eq {option : CommandOption} (h : option.IsSwitch)
    {given : List CommandLine.Given} (hon : ∀ one ∈ given, one = .on) :
    option.setting given = .ok (.truth (!given.isEmpty)) := by
  have hconvert : ∀ b, option.convert (.truth b) = .ok (.truth b) := by
    intro b
    simp only [convert, h.isRepeated, h.type, h.valueCount]
    rfl
  cases hlast : given.getLast? with
  | none =>
      obtain rfl := List.getLast?_eq_none_iff.mp hlast
      simp only [setting, List.getLast?_nil, h.default]
      exact hconvert false
  | some last =>
      have hmem := List.mem_of_getLast? hlast
      obtain rfl := hon last hmem
      have hne : given.isEmpty = false := by
        simpa using List.ne_nil_of_mem hmem
      simp only [setting, hlast, h.kind, h.isRepeated, hne]
      exact hconvert true

end CommandOption

namespace CommandLine

open OptionDeclaration

def Occurrence.IsCall (occurrence : Occurrence) : Prop :=
  (occurrence.option.name = helpOption.name ∧ occurrence.option.forms = [helpForm]) ∨
    occurrence.option.name = "version"

theorem mapM_eq_ok_iff {ε α β : Type} {f : α → Except ε β} {xs : List α} {ys : List β} :
    xs.mapM f = .ok ys ↔ List.Forall₂ (fun x y => f x = .ok y) xs ys := by
  induction xs generalizing ys with
  | nil => simp [pure, Except.pure, eq_comm]
  | cons x xs ih =>
      rw [List.mapM_cons, List.forall₂_cons_left_iff]
      constructor
      · intro h
        cases hx : f x with
        | error error =>
            rw [hx] at h
            cases h
        | ok y =>
            rw [hx] at h
            cases hxs : xs.mapM f with
            | error error =>
                rw [hxs] at h
                cases h
            | ok others =>
                rw [hxs] at h
                exact ⟨y, others, rfl, ih.mp hxs, (Except.ok.inj h).symm⟩
      · rintro ⟨y, others, hy, hothers, rfl⟩
        rw [hy, ih.mpr hothers]
        rfl

theorem settle_eq_ok_iff {arguments : Arguments} {option : CommandOption}
    {setting : String × Datum} :
    settle arguments option = .ok setting ↔
      ∃ datum, option.setting (arguments.given option) = .ok datum ∧
        setting = (option.name, datum) := by
  unfold settle
  split
  · rename_i datum hdatum
    simp [hdatum, eq_comm]
  · rename_i fault hfault
    simp [hfault]
  · rename_i error herror
    simp [herror]

theorem lookup_of_settle {arguments : Arguments} {options : List CommandOption}
    {settings : List (String × Datum)} (hnames : (options.map (·.name)).Nodup)
    (h : options.mapM (settle arguments) = .ok settings) {option : CommandOption}
    (hoption : option ∈ options) :
    ∃ datum, option.setting (arguments.given option) = .ok datum ∧
      settings.lookup option.name = some datum := by
  rw [mapM_eq_ok_iff] at h
  induction h with
  | nil => cases hoption
  | cons hfirst _ ih =>
      obtain ⟨datum, hdatum, rfl⟩ := settle_eq_ok_iff.mp hfirst
      rw [List.map_cons, List.nodup_cons] at hnames
      obtain ⟨hnew, hothers⟩ := hnames
      obtain rfl | hoption := List.mem_cons.mp hoption
      · exact ⟨datum, hdatum, List.lookup_cons_self⟩
      · obtain ⟨other, hother, hlookup⟩ := ih hothers hoption
        refine ⟨other, hother, ?_⟩
        rw [List.lookup_cons]
        split
        · -- The first setting has another name.
          rename_i hsame
          have hmem := List.mem_map_of_mem (f := (·.name)) hoption
          rw [eq_of_beq hsame] at hmem
          exact absurd hmem hnew
        · exact hlookup

theorem keys_of_settle {arguments : Arguments} {options : List CommandOption}
    {settings : List (String × Datum)} (h : options.mapM (settle arguments) = .ok settings) :
    settings.map (·.1) = options.map (·.name) := by
  rw [mapM_eq_ok_iff] at h
  induction h with
  | nil => rfl
  | cons hfirst _ ih =>
      obtain ⟨datum, -, rfl⟩ := settle_eq_ok_iff.mp hfirst
      rw [List.map_cons, List.map_cons, ih]

theorem filter_of_lookup {settings : List (String × Datum)} (hnodup : (settings.map (·.1)).Nodup)
    {name : String} {datum : Datum} (hlookup : settings.lookup name = some datum) :
    settings.filter (name = ·.1) = [(name, datum)] := by
  induction settings with
  | nil => cases hlookup
  | cons setting settings ih =>
      obtain ⟨key, value⟩ := setting
      rw [List.map_cons, List.nodup_cons] at hnodup
      obtain ⟨hnew, hothers⟩ := hnodup
      rw [List.lookup_cons] at hlookup
      by_cases hname : name = key
      · subst hname
        simp only [beq_self_eq_true, Option.some.injEq] at hlookup
        subst hlookup
        rw [List.filter_cons_of_pos (by simp), List.cons.injEq, List.filter_eq_nil_iff]
        refine ⟨rfl, fun other hother hkey => hnew ?_⟩
        rw [decide_eq_true_iff] at hkey
        rw [hkey]
        exact List.mem_map_of_mem (f := (·.1)) hother
      · have hbeq : (name == key) = false := by simpa using hname
        rw [hbeq] at hlookup
        rw [List.filter_cons_of_neg (by simpa using hname), ih hothers hlookup]

theorem exists_of_settle {arguments : Arguments} {options : List CommandOption}
    (h : ∀ option ∈ options, (option.setting (arguments.given option)).isOk = true) :
    ∃ settings, options.mapM (settle arguments) = .ok settings := by
  induction options with
  | nil => exact ⟨[], rfl⟩
  | cons option options ih =>
      obtain ⟨hfirst, hothers⟩ := List.forall_mem_cons.mp h
      obtain ⟨settings, hsettings⟩ := ih hothers
      cases hsetting : option.setting (arguments.given option) with
      | error error =>
          rw [hsetting] at hfirst
          cases hfirst
      | ok datum =>
          refine ⟨(option.name, datum) :: settings, mapM_eq_ok_iff.mpr (.cons ?_ ?_)⟩
          · exact settle_eq_ok_iff.mpr ⟨datum, hsetting, rfl⟩
          · exact mapM_eq_ok_iff.mp hsettings

theorem order_perm (arguments : Arguments) (options : List CommandOption) :
    (arguments.order options).Perm options :=
  List.mergeSort_perm _ _

@[simp] theorem Arguments.given_append (first second : List Part) (option : CommandOption) :
    (Arguments.ofParts (first ++ second)).given option =
      (Arguments.ofParts first).given option ++ (Arguments.ofParts second).given option := by
  simp [Arguments.ofParts, Arguments.given]

@[simp] theorem Arguments.given_files (files : List String) (option : CommandOption) :
    (Arguments.ofParts (files.map .file)).given option = [] := by
  simp [Arguments.ofParts, Arguments.given, Part.occurrence?, Function.comp_def]

theorem Arguments.given_cons (occurrence : Occurrence) (parts : List Part)
    (option : CommandOption) :
    (Arguments.ofParts (.option occurrence :: parts)).given option =
      if occurrence.option.name = option.name then
        occurrence.given :: (Arguments.ofParts parts).given option
      else (Arguments.ofParts parts).given option := by
  by_cases hname : occurrence.option.name = option.name <;>
    simp [Arguments.ofParts, Arguments.given, Part.occurrence?, hname]

/-! ### The decision -/

theorem mem_occurrences {parts : List Part} {occurrence : Occurrence} :
    occurrence ∈ (Arguments.ofParts parts).occurrences ↔ .option occurrence ∈ parts := by
  simp only [Arguments.ofParts, List.mem_filterMap]
  constructor
  · rintro ⟨part, hpart, hoccurrence⟩
    cases part with
    | file path => cases hoccurrence
    | option other =>
        obtain rfl := Option.some.inj hoccurrence
        exact hpart
  · intro h
    exact ⟨_, h, rfl⟩

def Arguments.calls (arguments : Arguments) : List Request :=
  arguments.occurrences.filterMap fun occurrence =>
    if occurrence.option.name = helpOption.name && occurrence.option.forms = [helpForm] then
      some Request.help
    else if occurrence.option.name = "version" then some Request.version
    else none

theorem calls_eq_nil_iff {parts : List Part} :
    (Arguments.ofParts parts).calls = [] ↔
      ∀ occurrence, .option occurrence ∈ parts → ¬occurrence.IsCall := by
  rw [Arguments.calls, List.filterMap_eq_nil_iff]
  refine forall_congr' fun occurrence => ?_
  rw [mem_occurrences]
  refine imp_congr_right fun _ => ?_
  by_cases hhelp : occurrence.option.name = helpOption.name ∧ occurrence.option.forms = [helpForm]
  · simp [Occurrence.IsCall, hhelp]
  · simp only [Bool.and_eq_true, decide_eq_true_eq, Occurrence.IsCall, hhelp, false_or]
    by_cases hversion : occurrence.option.name = "version" <;> simp [hversion]

theorem exists_of_version_mem_calls {parts : List Part}
    (h : .version ∈ (Arguments.ofParts parts).calls) :
    ∃ occurrence, .option occurrence ∈ parts ∧ occurrence.option.name = "version" := by
  obtain ⟨occurrence, hmem, hcall⟩ := List.mem_filterMap.mp h
  refine ⟨occurrence, mem_occurrences.mp hmem, ?_⟩
  split at hcall
  · cases hcall
  · split at hcall
    · assumption
    · cases hcall

theorem run_not_mem_calls {arguments : Arguments} {settings : List (String × Datum)}
    {files : List String} : .run settings files ∉ arguments.calls := by
  rw [Arguments.calls, List.mem_filterMap]
  rintro ⟨occurrence, -, hcall⟩
  split at hcall
  · cases hcall
  split at hcall <;> cases hcall

variable {command : CommandLine} {words : List String} {arguments : Arguments}

/-- What the arguments lead to is decided by the calls first, and then by the settings. -/
theorem read_of_readWords
    (hmarks : (allForms (command.options ++ [helpOption])).find? (markLength · = 0) = none)
    (hread : readWords (command.options ++ [helpOption]) words = .ok arguments) :
    command.read words = match arguments.calls with
      | call :: _ => .ok call
      | [] => ((arguments.order command.options).mapM (settle arguments)).map
          (.run · arguments.files) := by
  unfold read
  simp only [hmarks, hread]
  change (match arguments.calls with
    | call :: _ => Except.ok call
    | [] => (arguments.order command.options).mapM (settle arguments) >>= fun settings =>
        .ok (.run settings arguments.files)) = _
  cases arguments.calls with
  | cons call calls => rfl
  | nil =>
      dsimp only
      cases (arguments.order command.options).mapM (settle arguments) <;> rfl

theorem find?_marks (hdashed : ∀ form ∈ allForms command.options, isDashed form = true) :
    (allForms (command.options ++ [helpOption])).find? (markLength · = 0) = none := by
  rw [List.find?_eq_none]
  intro form hform
  simpa using markLength_ne_zero (isDashed_append_help hdashed form hform)

theorem exists_reads_of_read (hdashed : ∀ form ∈ allForms command.options, isDashed form = true)
    {request : Request} (h : command.read words = .ok request) :
    ∃ parts, Reads (command.options ++ [helpOption]) words parts := by
  cases hread : readWords (command.options ++ [helpOption]) words with
  | error error =>
      unfold read at h
      simp only [find?_marks hdashed, hread] at h
      cases h
  | ok arguments => exact exists_reads hread

/-- The arguments lead to a run exactly if they can be read, if none of the options calls for
something else, and if there are settings for all options. -/
theorem read_eq_run_iff (hdashed : ∀ form ∈ allForms command.options, isDashed form = true)
    {settings : List (String × Datum)} {files : List String} :
    command.read words = .ok (.run settings files) ↔
      ∃ parts, Reads (command.options ++ [helpOption]) words parts ∧
        (∀ occurrence, .option occurrence ∈ parts → ¬occurrence.IsCall) ∧
        ((Arguments.ofParts parts).order command.options).mapM (settle (.ofParts parts)) =
          .ok settings ∧
        parts.filterMap Part.file? = files := by
  have hmarks := find?_marks hdashed
  constructor
  · intro h
    obtain ⟨parts, hparts⟩ := exists_reads_of_read hdashed h
    rw [read_of_readWords hmarks hparts.readWords_eq] at h
    split at h
    · rename_i hcalls
      cases h
      exact absurd (hcalls ▸ List.mem_cons_self) run_not_mem_calls
    · rename_i hcalls
      obtain ⟨found, hsettings, hrun⟩ := exists_of_map_eq_ok h
      cases hrun
      exact ⟨parts, hparts, calls_eq_nil_iff.mp hcalls, hsettings, rfl⟩
  · rintro ⟨parts, hparts, hcalls, hsettings, rfl⟩
    rw [read_of_readWords hmarks hparts.readWords_eq, calls_eq_nil_iff.mpr hcalls]
    dsimp only
    rw [hsettings]
    rfl

theorem exists_run_of_reads (hdashed : ∀ form ∈ allForms command.options, isDashed form = true)
    {parts : List Part}
    (hreads : Reads (command.options ++ [helpOption]) words parts)
    (hcalls : ∀ occurrence, .option occurrence ∈ parts → ¬occurrence.IsCall)
    (hsettings : ∀ option ∈ command.options,
      (option.setting ((Arguments.ofParts parts).given option)).isOk = true) :
    ∃ settings, command.read words = .ok (.run settings (parts.filterMap Part.file?)) := by
  have hordered : ∀ option ∈ (Arguments.ofParts parts).order command.options,
      (option.setting ((Arguments.ofParts parts).given option)).isOk = true := fun option hoption =>
    hsettings option ((order_perm _ _).mem_iff.mp hoption)
  obtain ⟨settings, hsettle⟩ := exists_of_settle hordered
  exact ⟨settings, (read_eq_run_iff hdashed).mpr ⟨parts, hreads, hcalls, hsettle, rfl⟩⟩

theorem lookup_of_read (hdashed : ∀ form ∈ allForms command.options, isDashed form = true)
    (hnames : (command.options.map (·.name)).Nodup) {parts : List Part}
    (hreads : Reads (command.options ++ [helpOption]) words parts)
    {settings : List (String × Datum)} {files : List String}
    (hread : command.read words = .ok (.run settings files)) {option : CommandOption}
    (hoption : option ∈ command.options) :
    ∃ datum, option.setting ((Arguments.ofParts parts).given option) = .ok datum ∧
      settings.lookup option.name = some datum := by
  obtain ⟨others, hothers, -, hsettle, -⟩ := (read_eq_run_iff hdashed).mp hread
  obtain rfl := hreads.unique hothers
  have hperm := order_perm (Arguments.ofParts parts) command.options
  refine lookup_of_settle ?_ hsettle (hperm.mem_iff.mpr hoption)
  exact (hperm.map _).nodup_iff.mpr hnames

/-! ### What is seen of the options -/

/-- The names of the options that occur, and what they are given. -/
def seen (occurrences : List Occurrence) : List (String × Given) :=
  occurrences.map fun occurrence => (occurrence.option.name, occurrence.given)

theorem given_eq_of_seen (arguments : Arguments) (option : CommandOption) :
    arguments.given option =
      ((seen arguments.occurrences).filter (·.1 = option.name)).map (·.2) := by
  rw [seen, List.filter_map, List.map_map]
  rfl

/-- Whether words are read as the files, and as options of which this is seen. -/
def Shows (options : List CommandOption) (words : List String) (found : List (String × Given))
    (files : List String) : Prop :=
  ∃ parts, Reads options words parts ∧ seen (Arguments.ofParts parts).occurrences = found ∧
    parts.filterMap Part.file? = files

namespace Shows

variable {options : List CommandOption} {word : String} {rest : List String}
  {found : List (String × Given)} {files : List String}

theorem nil (options : List CommandOption) : Shows options [] [] [] :=
  ⟨[], .nil, rfl, rfl⟩

theorem stop (options : List CommandOption) (rest : List String) :
    Shows options ("--" :: rest) [] rest := by
  refine ⟨_, .stop rest, ?_, ?_⟩
  · simp [seen, Arguments.ofParts, Part.occurrence?, Function.comp_def]
  · simp [Part.file?, Function.comp_def]

theorem file (notStop : word ≠ "--") (plain : looksLikeOption (knownMarks options) word = false)
    (h : Shows options rest found files) : Shows options (word :: rest) found (word :: files) := by
  obtain ⟨parts, hreads, hfound, hfiles⟩ := h
  exact ⟨_, .file notStop plain hreads, hfound, congrArg (word :: ·) hfiles⟩

theorem option {left : List String} (first : List (String × Given)) (notStop : word ≠ "--")
    (looks : looksLikeOption (knownMarks options) word = true)
    (reads : (readOption options word rest).map (fun step => (seen step.occurrences, step.rest)) =
      .ok (first, left))
    (h : Shows options left found files) : Shows options (word :: rest) (first ++ found) files := by
  obtain ⟨step, hstep, hseen⟩ := exists_of_map_eq_ok reads
  obtain ⟨rfl, rfl⟩ := Prod.mk.inj hseen
  obtain ⟨parts, hreads, rfl, rfl⟩ := h
  refine ⟨_, .option notStop looks hstep hreads, ?_, ?_⟩
  · simp [seen, Arguments.ofParts, Part.occurrence?, Function.comp_def]
  · simp [Part.file?, Function.comp_def]

/-- So whether arguments lead to a run depends on the names of the options that occur. -/
theorem exists_run (hdashed : ∀ form ∈ allForms command.options, isDashed form = true)
    (h : Shows (command.options ++ [helpOption]) words found files)
    (hcalls : ∀ entry ∈ found, entry.1 ≠ helpOption.name ∧ entry.1 ≠ "version")
    (hsettings : ∀ option ∈ command.options,
      (option.setting ((found.filter (·.1 = option.name)).map (·.2))).isOk = true) :
    ∃ settings, command.read words = .ok (.run settings files) := by
  obtain ⟨parts, hreads, rfl, rfl⟩ := h
  apply exists_run_of_reads hdashed hreads
  · intro occurrence hoccurrence hcall
    have hmem := List.mem_map_of_mem (f := fun occurrence : Occurrence =>
      (occurrence.option.name, occurrence.given)) (mem_occurrences.mpr hoccurrence)
    obtain ⟨hhelp, hversion⟩ := hcalls _ hmem
    obtain hcall | hcall := hcall
    · exact hhelp hcall.1
    · exact hversion hcall
  · intro option hoption
    rw [given_eq_of_seen]
    exact hsettings option hoption

end Shows

end CommandLine

end LanguageShell

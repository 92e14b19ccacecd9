import LanguageShell.Proofs.CommandLine.Queue

/-!
Arguments that differ in the values of one option only. They are taken apart alike, up to these
values, and where they are refused they are refused for the same reason. So with two values for the
verbosity they lead to the same, apart from the verbosity.
-/

namespace LanguageShell.CommandLine

open OptionDeclaration

/-- Whether words are the same but for what an option is given. They are gone through step by step,
as the reader takes them; a word that it refuses is passed over like in the first look. -/
inductive SameBut (command : CommandLine) (entry : CommandOption) :
    List String → List String → Prop
  | same (words : List String) : SameBut command entry words words
  | file {word : String} {words others : List String} (notStop : word ≠ "--")
      (plain : looksLikeOption (knownMarks (command.options ++ [helpOption])) word = false)
      (tail : SameBut command entry words others) :
      SameBut command entry (word :: words) (word :: others)
  | option {word : String} {taken words others : List String} {occurrences : List Occurrence}
      (notStop : word ≠ "--")
      (looks : looksLikeOption (knownMarks (command.options ++ [helpOption])) word = true)
      (reads : readOption (command.options ++ [helpOption]) word taken = .ok ⟨occurrences, []⟩)
      (tail : SameBut command entry words others) :
      SameBut command entry (word :: (taken ++ words)) (word :: (taken ++ others))
  | given {word other : String} {taken left words others values otherValues : List String}
      (notStop : word ≠ "--" ∧ other ≠ "--")
      (looks : looksLikeOption (knownMarks (command.options ++ [helpOption])) word = true ∧
        looksLikeOption (knownMarks (command.options ++ [helpOption])) other = true)
      (reads : readOption (command.options ++ [helpOption]) word taken =
        .ok ⟨[⟨entry, .values values⟩], []⟩)
      (readsOther : readOption (command.options ++ [helpOption]) other left =
        .ok ⟨[⟨entry, .values otherValues⟩], []⟩)
      (tail : SameBut command entry words others) :
      SameBut command entry (word :: (taken ++ words)) (other :: (left ++ others))
  | refused {word : String} {taken words others : List String} {items : List Item}
      {error : UsageError} (notStop : word ≠ "--")
      (looks : looksLikeOption (knownMarks (command.options ++ [helpOption])) word = true)
      (reads : ∀ rest, readOption (command.options ++ [helpOption]) word (taken ++ rest) =
        .error error)
      (scans : ∀ rest, scan command.options (word :: (taken ++ rest)) =
        items ++ scan command.options rest)
      (tail : SameBut command entry words others) :
      SameBut command entry (word :: (taken ++ words)) (word :: (taken ++ others))

/-! ### What is read -/

/-- Whether arguments have the same files and the same options, given the same but for one of
them. -/
structure Arguments.Alike (entry : CommandOption) (arguments others : Arguments) : Prop where
  files : arguments.files = others.files
  options : arguments.occurrences.map (·.option) = others.occurrences.map (·.option)
  given : ∀ option : CommandOption, option.name ≠ entry.name →
    arguments.given option = others.given option

namespace Arguments.Alike

variable {entry : CommandOption} {arguments others : Arguments}

theorem refl (entry : CommandOption) (arguments : Arguments) : arguments.Alike entry arguments :=
  ⟨rfl, rfl, fun _ _ => rfl⟩

theorem addFile (h : arguments.Alike entry others) (path : String) :
    (arguments.addFile path).Alike entry (others.addFile path) :=
  ⟨congrArg (path :: ·) h.files, h.options, h.given⟩

theorem addAll (h : arguments.Alike entry others) (occurrences : List Occurrence) :
    (arguments.addAll occurrences).Alike entry (others.addAll occurrences) where
  files := h.files
  options := by simp [Arguments.addAll, h.options]
  given option hname := by
    have hgiven := h.given option hname
    simp only [Arguments.given, Arguments.addAll, List.filter_append, List.map_append] at hgiven ⊢
    rw [hgiven]

theorem addGiven (h : arguments.Alike entry others) (first second : Given) :
    (arguments.addAll [⟨entry, first⟩]).Alike entry (others.addAll [⟨entry, second⟩]) where
  files := h.files
  options := by simp [Arguments.addAll, h.options]
  given option hname := by
    have hgiven := h.given option hname
    simp only [Arguments.given] at hgiven
    simp [Arguments.given, Arguments.addAll, hname.symm, hgiven]

theorem calls_eq (h : arguments.Alike entry others) : arguments.calls = others.calls := by
  have hcalls : ∀ arguments : Arguments, arguments.calls =
      (arguments.occurrences.map (·.option)).filterMap fun option =>
        if option.name = helpOption.name && option.forms = [helpForm] then some Request.help
        else if option.name = "version" then some Request.version
        else none := by
    intro arguments
    rw [List.filterMap_map]
    rfl
  rw [hcalls, hcalls, h.options]

theorem order_eq (h : arguments.Alike entry others) (options : List CommandOption) :
    arguments.order options = others.order options := by
  have hposition : ∀ (arguments : Arguments) (option : CommandOption),
      arguments.occurrences.findIdx (·.option.name = option.name) =
        (arguments.occurrences.map (·.option)).findIdx (·.name = option.name) := by
    intro arguments option
    rw [List.findIdx_map]
    rfl
  simp only [order, hposition, h.options]

theorem settle_eq (h : arguments.Alike entry others) {option : CommandOption}
    (hname : option.name ≠ entry.name) : settle arguments option = settle others option := by
  rw [settle, settle, h.given option hname]

end Arguments.Alike

theorem readWords_of_readOption {options : List CommandOption} {word : String}
    {rest : List String} {step : Step} (notStop : word ≠ "--")
    (looks : looksLikeOption (knownMarks options) word = true)
    (reads : readOption options word rest = .ok step) :
    readWords options (word :: rest) =
      (readWords options step.rest).map (·.addAll step.occurrences) := by
  rw [readWords, if_neg notStop, if_pos looks]
  split
  · rename_i hstep
    cases reads.symm.trans hstep
  · rename_i hstep
    rw [Except.ok.inj (reads.symm.trans hstep)]

theorem readWords_of_refused {options : List CommandOption} {word : String} {rest : List String}
    {error : UsageError} (notStop : word ≠ "--")
    (looks : looksLikeOption (knownMarks options) word = true)
    (reads : readOption options word rest = .error error) :
    readWords options (word :: rest) = .error error := by
  rw [readWords, if_neg notStop, if_pos looks]
  split
  · rename_i hstep
    rw [Except.error.inj (reads.symm.trans hstep)]
  · rename_i hstep
    cases reads.symm.trans hstep

theorem readWords_of_plain {options : List CommandOption} {word : String} (notStop : word ≠ "--")
    (plain : looksLikeOption (knownMarks options) word = false) (rest : List String) :
    readWords options (word :: rest) = (readWords options rest).map (·.addFile word) := by
  rw [readWords, if_neg notStop, if_neg (by simp [plain])]

/-- Whether both readings are refused for the same reason, or have like arguments. -/
inductive ReadAlike (entry : CommandOption) :
    Except UsageError Arguments → Except UsageError Arguments → Prop
  | refused (error : UsageError) : ReadAlike entry (.error error) (.error error)
  | read {arguments others : Arguments} (alike : arguments.Alike entry others) :
      ReadAlike entry (.ok arguments) (.ok others)

theorem ReadAlike.map {entry : CommandOption} {first second : Except UsageError Arguments}
    (h : ReadAlike entry first second) {f g : Arguments → Arguments}
    (himp : ∀ {arguments others : Arguments}, arguments.Alike entry others →
      (f arguments).Alike entry (g others)) :
    ReadAlike entry (first.map f) (second.map g) := by
  cases h with
  | refused error => exact .refused error
  | read alike => exact .read (himp alike)

theorem SameBut.readAlike {command : CommandLine} (h : Regular command.options)
    {entry : CommandOption} {words others : List String}
    (hsame : SameBut command entry words others) :
    ReadAlike entry (readWords (command.options ++ [helpOption]) words)
      (readWords (command.options ++ [helpOption]) others) := by
  induction hsame with
  | same words =>
      cases readWords (command.options ++ [helpOption]) words with
      | error error => exact .refused error
      | ok arguments => exact .read (.refl entry arguments)
  | file notStop plain _ ih =>
      rw [readWords_of_plain notStop plain, readWords_of_plain notStop plain]
      exact ih.map fun halike => halike.addFile _
  | option notStop looks reads _ ih =>
      have happend := (isLocal_readOption h.append_help looks reads).reads_append
      rw [readWords_of_readOption notStop looks (happend _),
        readWords_of_readOption notStop looks (happend _)]
      exact ih.map fun halike => halike.addAll _
  | given notStop looks reads readsOther _ ih =>
      have happend := (isLocal_readOption h.append_help looks.1 reads).reads_append
      have hother := (isLocal_readOption h.append_help looks.2 readsOther).reads_append
      rw [readWords_of_readOption notStop.1 looks.1 (happend _),
        readWords_of_readOption notStop.2 looks.2 (hother _)]
      exact ih.map fun halike => halike.addGiven _ _
  | refused notStop looks reads =>
      rw [readWords_of_refused notStop looks (reads _),
        readWords_of_refused notStop looks (reads _)]
      exact .refused _

theorem SameBut.filterMap_scan {command : CommandLine} (h : command.Sound) {entry : CommandOption}
    {words others : List String} (hsame : SameBut command entry words others) {β : Type}
    {f : Item → Option β} (hentry : ∀ value, f (.option entry value) = none) :
    (scan command.options words).filterMap f = (scan command.options others).filterMap f := by
  induction hsame with
  | same => rfl
  | file notStop plain _ ih =>
      rw [scan_of_plain h.regular notStop plain, scan_of_plain h.regular notStop plain,
        List.filterMap_cons, List.filterMap_cons, ih]
  | option notStop looks reads _ ih =>
      have happend := (isLocal_readOption h.regular.append_help looks reads).reads_append
      rw [scan_of_readOption h.regular h.distinct notStop looks (happend _),
        scan_of_readOption h.regular h.distinct notStop looks (happend _),
        List.filterMap_append, List.filterMap_append, List.nil_append, List.nil_append, ih]
  | given notStop looks reads readsOther _ ih =>
      have happend := (isLocal_readOption h.regular.append_help looks.1 reads).reads_append
      have hother := (isLocal_readOption h.regular.append_help looks.2 readsOther).reads_append
      rw [scan_of_readOption h.regular h.distinct notStop.1 looks.1 (happend _),
        scan_of_readOption h.regular h.distinct notStop.2 looks.2 (hother _)]
      simp [Occurrence.item?, hentry, ih]
  | refused _ _ _ scans _ ih =>
      rw [scans, scans, List.filterMap_append, List.filterMap_append, ih]

/-! ### Settings -/

def change (name : String) (datum : Datum) (settings : List (String × Datum)) :
    List (String × Datum) :=
  settings.map fun setting => if setting.1 = name then (name, datum) else setting

theorem change_cons_self (name : String) (datum former : Datum)
    (settings : List (String × Datum)) :
    change name datum ((name, former) :: settings) =
      (name, datum) :: change name datum settings := by
  rw [change, List.map_cons, if_pos rfl]
  rfl

theorem change_cons_of_ne {name key : String} (h : key ≠ name) (datum value : Datum)
    (settings : List (String × Datum)) :
    change name datum ((key, value) :: settings) = (key, value) :: change name datum settings := by
  rw [change, List.map_cons, if_neg h]
  rfl

theorem lookup_change_self {name : String} {settings : List (String × Datum)}
    (h : name ∈ settings.map (·.1)) (datum : Datum) :
    (change name datum settings).lookup name = some datum := by
  induction settings with
  | nil => cases h
  | cons setting settings ih =>
      obtain ⟨key, value⟩ := setting
      by_cases hkey : key = name
      · subst hkey
        rw [change_cons_self, List.lookup_cons_self]
      · have hne : (name == key) = false := by simpa using Ne.symm hkey
        rw [change_cons_of_ne hkey, List.lookup_cons, hne]
        obtain heq | hmem := List.mem_cons.mp h
        · exact absurd heq.symm hkey
        · exact ih hmem

theorem lookup_change_of_ne {name other : String} (h : other ≠ name) (datum : Datum)
    (settings : List (String × Datum)) :
    (change name datum settings).lookup other = settings.lookup other := by
  induction settings with
  | nil => rfl
  | cons setting settings ih =>
      obtain ⟨key, value⟩ := setting
      by_cases hkey : key = name
      · subst hkey
        have hne : (other == key) = false := by simpa using h
        rw [change_cons_self, List.lookup_cons, List.lookup_cons, hne, ih]
      · rw [change_cons_of_ne hkey, List.lookup_cons, List.lookup_cons, ih]

theorem filter_change {name : String} (keep : String → Bool) (h : keep name = false)
    (datum : Datum) (settings : List (String × Datum)) :
    (change name datum settings).filter (keep ·.1) = settings.filter (keep ·.1) := by
  induction settings with
  | nil => rfl
  | cons setting settings ih =>
      obtain ⟨key, value⟩ := setting
      by_cases hkey : key = name
      · subst hkey
        rw [change_cons_self, List.filter_cons_of_neg (by simp [h]),
          List.filter_cons_of_neg (by simp [h]), ih]
      · rw [change_cons_of_ne hkey, List.filter_cons, List.filter_cons, ih]

/-! ### What the arguments lead to -/

def Request.change (name : String) (datum : Datum) : Request → Request
  | .run settings files => .run (CommandLine.change name datum settings) files
  | request => request

/-- Whether an option is set to a value, if the words can be read. -/
def Sets (command : CommandLine) (words : List String) (option : CommandOption) (datum : Datum) :
    Prop :=
  ∀ arguments, readWords (command.options ++ [helpOption]) words = .ok arguments →
    option.setting (arguments.given option) = .ok datum

theorem mapM_map {ε α β : Type} {f g : α → Except ε β} {change : β → β} {items : List α}
    (h : ∀ item ∈ items, g item = (f item).map change) :
    items.mapM g = (items.mapM f).map (List.map change) := by
  induction items with
  | nil => rfl
  | cons item items ih =>
      obtain ⟨hfirst, hothers⟩ := List.forall_mem_cons.mp h
      rw [List.mapM_cons, List.mapM_cons, hfirst, ih hothers]
      cases f item with
      | error error => rfl
      | ok b => cases items.mapM f <;> rfl

variable {command : CommandLine} {words others : List String} {entry : CommandOption}
  {first second : Datum}

theorem Arguments.Alike.mapM_settle {arguments others : Arguments}
    (h : arguments.Alike entry others)
    (hfirst : entry.setting (arguments.given entry) = .ok first)
    (hsecond : entry.setting (others.given entry) = .ok second) {options : List CommandOption}
    (hunique : ∀ option ∈ options, option.name = entry.name → option = entry) :
    options.mapM (settle others) =
      (options.mapM (settle arguments)).map (change entry.name second) := by
  apply mapM_map
  intro option hoption
  by_cases hname : option.name = entry.name
  · obtain rfl := hunique option hoption hname
    have hold := settle_eq_ok_iff.mpr ⟨first, hfirst, rfl⟩
    have hnew := settle_eq_ok_iff.mpr ⟨second, hsecond, rfl⟩
    rw [hold, hnew, Except.map, if_pos rfl]
  · rw [← h.settle_eq hname]
    cases hsettle : settle arguments option with
    | error refusal => rfl
    | ok setting =>
        obtain ⟨datum, -, rfl⟩ := settle_eq_ok_iff.mp hsettle
        rw [Except.map, if_neg hname]

theorem read_of_refused (hdashed : ∀ form ∈ allForms command.options, isDashed form = true)
    {error : UsageError}
    (hread : readWords (command.options ++ [helpOption]) words = .error error) :
    command.read words = .error (.misuse error) := by
  unfold read
  simp only [find?_marks hdashed, hread]
  rfl

/-- Another value for an option changes its setting only. -/
theorem Sound.read_sameBut (h : command.Sound) (hentry : entry ∈ command.options)
    (hsame : SameBut command entry words others) (hwords : command.Sets words entry first)
    (hothers : command.Sets others entry second) :
    command.read others = (command.read words).map (·.change entry.name second) := by
  have hmarks := find?_marks h.regular.dashed
  have halike := hsame.readAlike h.regular
  generalize hread : readWords (command.options ++ [helpOption]) words = result at halike
  generalize hreadOthers : readWords (command.options ++ [helpOption]) others = further at halike
  cases halike with
  | refused error =>
      rw [read_of_refused h.regular.dashed hread, read_of_refused h.regular.dashed hreadOthers]
      rfl
  | @read arguments further halike =>
      have hunique : ∀ option ∈ arguments.order command.options, option.name = entry.name →
          option = entry := fun option hoption =>
        h.distinct.eq_of_name_eq ((order_perm _ _).mem_iff.mp hoption) hentry
      rw [read_of_readWords hmarks hread, read_of_readWords hmarks hreadOthers, ← halike.calls_eq]
      cases hcalls : arguments.calls with
      | cons call calls =>
          have hrun : ∀ settings files, call ≠ .run settings files := by
            rintro settings files rfl
            exact run_not_mem_calls (hcalls ▸ List.mem_cons_self)
          cases call with
          | help | version => rfl
          | run settings files => exact absurd rfl (hrun settings files)
      | nil =>
          dsimp only
          rw [← halike.order_eq, ← halike.files, halike.mapM_settle (hwords _ hread)
            (hothers _ hreadOthers) hunique]
          cases (arguments.order command.options).mapM (settle arguments) <;> rfl

/-! ### The verbosity -/

def verbosityEntry : CommandOption where
  name := "verbosity"
  forms := ["--verbosity"]
  kind := .values
  type := .uniform .integer
  default := some (.integer defaultVerbosity)
  placeholder := some "<n>"
  help := "Print diagnostics up to this severity (1 errors, 2 warnings, 3 debug).  " ++
    s!"[default: {defaultVerbosity}]"

theorem Sound.mem_verbosityEntry (h : command.Sound) : verbosityEntry ∈ command.options :=
  h.common (by simp [commonTable, verbosityEntry])

/-- The ways to give the option a value: apart, or attached to the form. -/
inductive GivesVerbosity (text : String) : List String → Prop
  | apart : GivesVerbosity text ["--verbosity", text]
  | attached : GivesVerbosity text ["--verbosity=" ++ text]

theorem splitAtEquals_verbosity (text : String) :
    splitAtEquals ("--verbosity=" ++ text) = ("--verbosity", some text) := by
  have hword : ("--verbosity=" ++ text).toList = "--verbosity".toList ++ '=' :: text.toList := by
    simp
  have hplain : ∀ c ∈ "--verbosity".toList, decide (c ≠ '=') = true := by simp
  have hmem : '=' ∈ "--verbosity".toList ++ '=' :: text.toList := by simp
  unfold splitAtEquals
  dsimp only
  rw [hword, if_pos hmem, List.takeWhile_append_of_pos hplain, List.dropWhile_append_of_pos hplain]
  simp

theorem GivesVerbosity.exists_reads (h : command.Sound) {text : String} {given : List String}
    (hgiven : GivesVerbosity text given) :
    ∃ word taken, given = word :: taken ∧ word ≠ "--" ∧
      looksLikeOption (knownMarks (command.options ++ [helpOption])) word = true ∧
      readOption (command.options ++ [helpOption]) word taken =
        .ok ⟨[⟨verbosityEntry, .values [text]⟩], []⟩ := by
  have hregular := h.regular.append_help
  have hlook : lookUp? (command.options ++ [helpOption]) false "--verbosity" =
      some (verbosityEntry, false) := by
    have hword : "--verbosity".toList = '-' :: '-' :: "verbosity".toList := rfl
    have hform : isShort "--verbosity" = false := isShort_of_long hword
    rw [← hform]
    exact lookUp?_of_mem h.distinct.nodup_append_help
      (List.mem_append_left _ h.mem_verbosityEntry) (List.mem_singleton_self _)
  cases hgiven with
  | apart =>
      have hword : "--verbosity".toList = '-' :: '-' :: "verbosity".toList := rfl
      have hsplit : splitAtEquals "--verbosity" = ("--verbosity", none) := by decide
      refine ⟨_, _, rfl, by decide, (looksLikeOption_iff hregular).mpr ⟨_, _, hword⟩, ?_⟩
      rw [readOption_long_eq_ok_iff hregular hword, hsplit]
      have hcount : verbosityEntry.valueCount ≤ ((none : Option String).toList ++ [text]).length :=
        le_refl 1
      exact ⟨verbosityEntry, false, hlook, .inl ⟨rfl, takeValues_of_le rfl hcount⟩⟩
  | attached =>
      have hword : ("--verbosity=" ++ text).toList =
          '-' :: '-' :: ("verbosity=".toList ++ text.toList) := by simp
      have hstop : "--verbosity=" ++ text ≠ "--" := by
        rw [ne_eq, ← String.toList_inj, hword]
        simp
      refine ⟨_, _, rfl, hstop, (looksLikeOption_iff hregular).mpr ⟨_, _, hword⟩, ?_⟩
      rw [readOption_long_eq_ok_iff hregular hword, splitAtEquals_verbosity]
      have hcount : verbosityEntry.valueCount ≤ ((some text).toList ++ []).length := le_refl 1
      exact ⟨verbosityEntry, false, hlook, .inl ⟨rfl, takeValues_of_le rfl hcount⟩⟩

theorem SameBut.gives (h : command.Sound) {text otherText : String} {given otherGiven : List String}
    (hgiven : GivesVerbosity text given) (hother : GivesVerbosity otherText otherGiven)
    (tail : SameBut command verbosityEntry words others) :
    SameBut command verbosityEntry (given ++ words) (otherGiven ++ others) := by
  obtain ⟨word, taken, rfl, hstop, hlooks, hreads⟩ := hgiven.exists_reads h
  obtain ⟨other, left, rfl, hotherStop, hotherLooks, hotherReads⟩ := hother.exists_reads h
  exact .given ⟨hstop, hotherStop⟩ ⟨hlooks, hotherLooks⟩ hreads hotherReads tail

theorem Shows.sets {found : List (String × Given)} {files : List String}
    (h : Shows (command.options ++ [helpOption]) words found files) {option : CommandOption}
    {datum : Datum}
    (hsetting : option.setting ((found.filter (·.1 = option.name)).map (·.2)) = .ok datum) :
    command.Sets words option datum := by
  obtain ⟨parts, hreads, rfl, -⟩ := h
  intro arguments harguments
  obtain rfl := Except.ok.inj (hreads.readWords_eq.symm.trans harguments)
  rw [given_eq_of_seen]
  exact hsetting

def Decision.withVerbosity (verbosity : Int) : Decision → Decision
  | .print text => .print text
  | .run configuration => .run { configuration with verbosity }

theorem ofSettings_change {settings : List (String × Datum)} (queue : List FileEntry)
    (files : List String) (verbosity : Int)
    (hown : ∀ option ∈ command.own, option.name ≠ verbosityEntry.name)
    (hmem : verbosityEntry.name ∈ settings.map (·.1)) :
    Configuration.ofSettings command queue
        (change verbosityEntry.name (.integer verbosity) settings) files =
      { Configuration.ofSettings command queue settings files with verbosity } := by
  have hskip : (command.own.any (·.name = verbosityEntry.name)) = false := by simpa using hown
  have hfilter := filter_change (fun name => command.own.any (·.name = name)) hskip
    (.integer verbosity) settings
  have hverbosity := lookup_change_self hmem (.integer verbosity)
  have hothers : ∀ name ≠ verbosityEntry.name,
      (change verbosityEntry.name (.integer verbosity) settings).lookup name =
        settings.lookup name := fun name hname => lookup_change_of_ne hname _ _
  rw [show verbosityEntry.name = "verbosity" from rfl] at *
  simp only [Configuration.ofSettings, hfilter, hverbosity, hothers "no_shell" (by decide),
    hothers "no_wrapper" (by decide), hothers "wrapper" (by decide)]

def Item.asksVersion : Item → Bool
  | .option source _ => source.name = "version"
  | .file _ => false

theorem SameBut.callsVersion_eq (h : command.Sound)
    (hsame : SameBut command entry words others) (hname : entry.name ≠ "version") :
    command.callsVersion words = command.callsVersion others := by
  let asks := Item.asksVersion
  have hentry : ∀ value, asks (.option entry value) = false := fun _ => decide_eq_false hname
  have hfilter : (scan command.options words).filter asks =
      (scan command.options others).filter asks := by
    rw [← List.filterMap_eq_filter]
    refine hsame.filterMap_scan h fun value => ?_
    simp [Option.guard, hentry]
  have hany : ∀ items : List Item, items.any asks = (items.filter asks).any asks := by
    intro items
    simp only [List.any_filter, Bool.and_self]
  change (scan command.options words).any asks = (scan command.options others).any asks
  rw [hany, hfilter, ← hany]

/-- Two values for the verbosity lead to the same, with the one verbosity or the other. -/
theorem Sound.decision_sameBut (h : command.Sound)
    (hown : ∀ option ∈ command.own, option.name ≠ verbosityEntry.name)
    (hsame : SameBut command verbosityEntry words others) {former verbosity : Int}
    (hwords : command.Sets words verbosityEntry (.integer former))
    (hothers : command.Sets others verbosityEntry (.integer verbosity)) (platform : Platform)
    (program : String) :
    command.decision platform program others =
      (command.decision platform program words).map (·.withVerbosity verbosity) := by
  have hqueue : fileQueue command.options words = fileQueue command.options others := by
    rw [fileQueue_eq_filterMap, fileQueue_eq_filterMap]
    refine hsame.filterMap_scan h fun value => ?_
    rw [Item.queued?, if_neg (by decide)]
  rw [decision, decision, ← hsame.callsVersion_eq h (by decide),
    h.read_sameBut h.mem_verbosityEntry hsame hwords hothers, ← hqueue]
  split
  · rfl
  · cases hread : command.read words with
    | error refusal => rfl
    | ok request =>
        cases request with
        | help | version => rfl
        | run settings files =>
            obtain ⟨parts, -, -, hsettle, -⟩ := (read_eq_run_iff h.regular.dashed).mp hread
            have hmem : verbosityEntry.name ∈ settings.map (·.1) := by
              rw [keys_of_settle hsettle]
              exact List.mem_map_of_mem ((order_perm _ _).mem_iff.mpr h.mem_verbosityEntry)
            have hchange := ofSettings_change (fileQueue command.options words) files verbosity
              hown hmem
            exact congrArg (Except.ok ∘ Decision.run) hchange

end LanguageShell.CommandLine

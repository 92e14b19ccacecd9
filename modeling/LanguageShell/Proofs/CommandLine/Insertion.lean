import LanguageShell.Proofs.CommandLine.Parts

/-!
A word that is inserted in front of the first `--`. If the words before it can be read by
themselves, the `--` ends the options, and the word is read where it is inserted. Otherwise the `--`
is the value of an option; where options take one value at most, the word becomes the value in its
place.
-/

namespace LanguageShell.CommandLine

/-- Whether a step takes no more than one of the words that follow: it leaves them alone, whatever
they are, or it ends with an option that takes the next one for its value, whatever that is. -/
inductive Step.TakesOne (options : List CommandOption)
    (read : List String → Except UsageError Step) : List String → Step → Prop
  | none {rest : List String} {occurrences : List Occurrence}
      (reads : ∀ others, read others = .ok ⟨occurrences, others⟩) :
      Step.TakesOne options read rest ⟨occurrences, rest⟩
  | next {rest : List String} {first : List Occurrence} {option : CommandOption} {value : String}
      (mem : option ∈ options) (takesValue : option.takesValue = true)
      (reads : ∀ other others,
        read (other :: others) = .ok ⟨first ++ [⟨option, .values [other]⟩], others⟩) :
      Step.TakesOne options read (value :: rest) ⟨first ++ [⟨option, .values [value]⟩], rest⟩

theorem Step.TakesOne.imp {options : List CommandOption}
    {read next : List String → Except UsageError Step} {rest : List String} {step : Step}
    (h : Step.TakesOne options read rest step) (front : List Occurrence)
    (himp : ∀ others other, read others = .ok other →
      next others = .ok ⟨front ++ other.occurrences, other.rest⟩) :
    Step.TakesOne options next rest ⟨front ++ step.occurrences, step.rest⟩ := by
  cases h with
  | none reads => exact .none fun others => himp _ _ (reads others)
  | next mem takesValue reads =>
      dsimp only
      rw [← List.append_assoc]
      refine .next mem takesValue fun other others => ?_
      rw [himp _ _ (reads other others), List.append_assoc]

variable {options : List CommandOption}

theorem takesOne_takeValues {marks : List String} {option : CommandOption} {form : String}
    {attached : Option String} {rest : List String} {step : Step} (hoption : option ∈ options)
    (htakes : option.takesValue = true) (hcount : option.valueCount = 1)
    (hfixed : option.isOmittable = false)
    (h : takeValues marks option form attached rest = .ok step) :
    step.TakesOne options (takeValues marks option form attached) rest := by
  have hle := valueCount_le_of_takeValues hfixed h
  obtain rfl := Except.ok.inj ((takeValues_of_le hfixed hle).symm.trans h)
  cases attached with
  | some value =>
      simp only [hcount, Option.toList_some, List.cons_append, List.nil_append, List.take_one,
        List.drop_one, List.tail_cons, List.head?_cons]
      refine .none fun others => ?_
      rw [takeValues_of_le hfixed (by simp [hcount])]
      simp [hcount]
  | none =>
      cases rest with
      | nil => simp [hcount] at hle
      | cons next others =>
          simp only [hcount, Option.toList_none, List.nil_append, List.take_one, List.drop_one,
            List.tail_cons, List.head?_cons]
          have hreads : ∀ other others, takeValues marks option form none (other :: others) =
              .ok ⟨[] ++ [⟨option, .values [other]⟩], others⟩ := by
            intro other others
            rw [takeValues_of_le hfixed (by simp [hcount])]
            simp [hcount]
          exact .next hoption htakes hreads

/-- Whether one of the parts is an option with the value `--`, behind what the words are read as;
after these words it takes any other word for its value instead. -/
def TakesStop (options : List CommandOption) (before : List String) (parts : List Part) : Prop :=
  ∃ first option second, option ∈ options ∧ option.takesValue = true ∧
    parts = first ++ .option ⟨option, .values ["--"]⟩ :: second ∧
    ∀ value others further, Reads options others further →
      Reads options (before ++ value :: others)
        (first ++ .option ⟨option, .values [value]⟩ :: further)

theorem TakesStop.extend {before longer : List String} {parts : List Part}
    (h : TakesStop options before parts) (front : List Part)
    (hfront : ∀ others further, Reads options (before ++ others) further →
      Reads options (longer ++ others) (front ++ further)) :
    TakesStop options longer (front ++ parts) := by
  obtain ⟨first, option, second, hoption, htakes, rfl, hothers⟩ := h
  refine ⟨front ++ first, option, second, hoption, htakes, by rw [List.append_assoc], ?_⟩
  intro value others further hfurther
  rw [List.append_assoc]
  exact hfront _ _ (hothers value others further hfurther)

section

variable (hregular : Regular options)
  (hsingle : ∀ option ∈ options, option.takesValue = true → option.valueCount = 1)

include hregular hsingle

theorem takesOne_readCluster {mark : Char} {rest : List String} {letters : List Char} {step : Step}
    (hread : readCluster options mark rest letters = .ok step) :
    step.TakesOne options (fun rest => readCluster options mark rest letters) rest := by
  induction letters generalizing step with
  | nil =>
      cases hread
      exact .none fun _ => rfl
  | cons c letters ih =>
      obtain ⟨option, isOff, hlook, ⟨htakes, htake⟩ | ⟨htakes, inner, hinner, rfl⟩⟩ :=
        readCluster_cons_eq_ok_iff.mp hread
      · obtain ⟨hoption, -⟩ := mem_of_lookUp? hlook
        obtain ⟨-, hfixed, -⟩ := hregular.counted option hoption htakes
        have hone := takesOne_takeValues hoption htakes (hsingle option hoption htakes) hfixed htake
        refine hone.imp [] fun others other hother => ?_
        exact readCluster_cons_eq_ok_iff.mpr ⟨option, isOff, hlook, .inl ⟨htakes, hother⟩⟩
      · refine (ih hinner).imp [_] fun others other hother => ?_
        exact readCluster_cons_eq_ok_iff.mpr
          ⟨option, isOff, hlook, .inr ⟨htakes, other, hother, rfl⟩⟩

/-- A word that is read as options takes the next word for a value, or leaves it. -/
theorem takesOne_readOption {word : String} {rest : List String} {step : Step}
    (hlooks : looksLikeOption (knownMarks options) word = true)
    (hread : readOption options word rest = .ok step) :
    step.TakesOne options (readOption options word) rest := by
  obtain ⟨c, letters, hword⟩ := (looksLikeOption_iff hregular).mp hlooks
  by_cases hc : c = '-'
  · subst hc
    obtain ⟨option, isOff, hlook, ⟨htakes, htake⟩ | ⟨htakes, hattached, rfl⟩⟩ :=
      (readOption_long_eq_ok_iff hregular hword).mp hread
    · obtain ⟨hoption, -⟩ := mem_of_lookUp? hlook
      obtain ⟨-, hfixed, -⟩ := hregular.counted option hoption htakes
      have hone := takesOne_takeValues hoption htakes (hsingle option hoption htakes) hfixed htake
      refine hone.imp [] fun others other hother => ?_
      exact (readOption_long_eq_ok_iff hregular hword).mpr
        ⟨option, isOff, hlook, .inl ⟨htakes, hother⟩⟩
    · refine .none fun others => ?_
      exact (readOption_long_eq_ok_iff hregular hword).mpr
        ⟨option, isOff, hlook, .inr ⟨htakes, hattached, rfl⟩⟩
  · rw [readOption_of_short hregular hc hword] at hread
    refine (takesOne_readCluster hregular hsingle hread).imp [] fun others other hother => ?_
    rwa [readOption_of_short hregular hc hword]

/-- Where `--` follows, a word leaves it alone together with some words in front of it, or else it
takes it. -/
theorem readOption_append_stop {word : String} {before after : List String} {step : Step}
    (hlooks : looksLikeOption (knownMarks options) word = true)
    (hread : readOption options word (before ++ "--" :: after) = .ok step) :
    (∃ left, left <:+ before ∧ step.rest = left ++ "--" :: after ∧
      ∀ others, readOption options word (before ++ others) =
        .ok ⟨step.occurrences, left ++ others⟩) ∨
    before = [] ∧ ∃ first option, option ∈ options ∧ option.takesValue = true ∧
      step = ⟨first ++ [⟨option, .values ["--"]⟩], after⟩ ∧
      ∀ other others, readOption options word (other :: others) =
        .ok ⟨first ++ [⟨option, .values [other]⟩], others⟩ := by
  have hone := takesOne_readOption hregular hsingle hlooks hread
  generalize hrest : before ++ "--" :: after = rest at hone
  cases hone with
  | none reads =>
      subst hrest
      exact .inl ⟨before, List.suffix_refl _, rfl, fun others => reads _⟩
  | next mem takesValue reads =>
      cases before with
      | nil =>
          obtain ⟨rfl, rfl⟩ := List.cons.inj hrest
          exact .inr ⟨rfl, _, _, mem, takesValue, rfl, reads⟩
      | cons value left =>
          obtain ⟨rfl, rfl⟩ := List.cons.inj hrest
          exact .inl ⟨left, List.suffix_cons _ _, rfl, fun others => reads value _⟩

/-- The first `--` ends the options, or else it is the value of one; then any other word in front of
it is the value instead. -/
theorem Reads.cut {words : List String} {parts : List Part} (h : Reads options words parts)
    {before after : List String} (hwords : words = before ++ "--" :: after)
    (hstop : "--" ∉ before) :
    (∃ first, Reads options before first) ∨ TakesStop options before parts := by
  induction h generalizing before with
  | nil => simp at hwords
  | stop rest =>
      cases before with
      | nil => exact .inl ⟨[], .nil⟩
      | cons word before =>
          obtain ⟨rfl, -⟩ := List.cons.inj hwords
          exact absurd List.mem_cons_self hstop
  | @file word rest parts notStop plain _ ih =>
      cases before with
      | nil => exact absurd (List.cons.inj hwords).1 notStop
      | cons other before =>
          obtain ⟨rfl, hrest⟩ := List.cons.inj hwords
          rw [List.mem_cons, not_or] at hstop
          obtain ⟨first, hfirst⟩ | htakes := ih hrest hstop.2
          · exact .inl ⟨_, .file notStop plain hfirst⟩
          · refine .inr (htakes.extend [.file word] fun others further hfurther => ?_)
            exact .file notStop plain hfurther
  | @option word rest step parts notStop looks reads tail ih =>
      cases before with
      | nil => exact absurd (List.cons.inj hwords).1 notStop
      | cons other before =>
          obtain ⟨rfl, rfl⟩ := List.cons.inj hwords
          rw [List.mem_cons, not_or] at hstop
          obtain ⟨left, hsuffix, hleft, hread⟩ | ⟨rfl, occurrences, option, hoption, htakes, rfl,
            hread⟩ := readOption_append_stop hregular hsingle looks reads
          -- Either the `--` is still ahead, and some word in front of it, or it has been taken.
          · have hbefore : "--" ∉ left := fun hmem => hstop.2 (hsuffix.subset hmem)
            obtain ⟨first, hfirst⟩ | htakes := ih hleft hbefore
            · have hwhole := hread []
              rw [List.append_nil, List.append_nil] at hwhole
              exact .inl ⟨_, .option notStop looks hwhole hfirst⟩
            · refine .inr (htakes.extend _ fun others further hfurther => ?_)
              have hwhole := Reads.option notStop looks (hread others) hfurther
              exact hwhole
          · refine .inr ⟨occurrences.map .option, option, parts, hoption, htakes, ?_, ?_⟩
            · rw [List.map_append, List.append_assoc]
              rfl
            · intro value others further hfurther
              have hwhole := Reads.option notStop looks (hread value others) hfurther
              rwa [List.map_append, List.append_assoc] at hwhole

end

theorem dropWhile_eq_nil_or_cons (words : List String) :
    words.dropWhile (· ≠ "--") = [] ∨
      ∃ after, words.dropWhile (· ≠ "--") = "--" :: after := by
  induction words with
  | nil => exact .inl rfl
  | cons word rest ih =>
      by_cases hword : word = "--"
      · subst hword
        exact .inr ⟨rest, rfl⟩
      · rwa [List.dropWhile_cons_of_pos (by simpa using hword)]

theorem reads_dropWhile (options : List CommandOption) (words : List String) :
    ∃ files : List String, Reads options (words.dropWhile (· ≠ "--")) (files.map .file) := by
  obtain hrest | ⟨after, hrest⟩ := dropWhile_eq_nil_or_cons words
  · rw [hrest]
    exact ⟨[], .nil⟩
  · rw [hrest]
    exact ⟨after, .stop after⟩

/-- Whether the first `--` is not the value of an option: the words in front of it can be read by
themselves. -/
def EndsAtStop (options : List CommandOption) (words : List String) : Prop :=
  ∃ arguments, readWords options (words.takeWhile (· ≠ "--")) = .ok arguments

theorem endsAtStop_iff {options : List CommandOption} {words : List String} :
    EndsAtStop options words ↔ ∃ first, Reads options (words.takeWhile (· ≠ "--")) first := by
  constructor
  · rintro ⟨arguments, harguments⟩
    exact exists_reads harguments
  · rintro ⟨first, hfirst⟩
    exact ⟨_, hfirst.readWords_eq⟩

theorem not_mem_takeWhile (words : List String) : "--" ∉ words.takeWhile (· ≠ "--") := by
  intro hmem
  have hne := List.mem_takeWhile_imp hmem
  simp at hne

end LanguageShell.CommandLine

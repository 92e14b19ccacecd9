import LanguageShell.Proofs.CommandLine.Parts

/-!
The first look at the arguments finds in them what the reader finds. Both go through the words step
by step: they know the same forms, apart from the call for help and the forms that turn something
off, and they take the same words for values. So all that the reader accepts is scanned as its
parts, in their order.
-/

namespace LanguageShell.CommandLine

open OptionDeclaration

/-- What is seen of an option where it occurs. The scan does not know the call for help, nor the
forms that turn something off. -/
def Occurrence.item? (occurrence : Occurrence) : Option Item :=
  match occurrence.given with
  | .on =>
    if occurrence.option.forms = [helpForm] then none else some (.option occurrence.option none)
  | .values values => some (.option occurrence.option values.head?)
  | .off | .nothing => none

def Item.queued? : Item → Option FileEntry
  | file path => some ⟨path, true⟩
  | option source value => if source.name = "load" then value.map (⟨·, false⟩) else none

theorem fileQueue_eq_filterMap (options : List CommandOption) (words : List String) :
    fileQueue options words = (scan options words).filterMap Item.queued? := by
  unfold fileQueue
  congr

namespace Part

def item? : Part → Option Item
  | file path => some (.file path)
  | option occurrence => occurrence.item?

def queued? : Part → Option FileEntry
  | file path => some ⟨path, true⟩
  | option occurrence =>
    match occurrence.given with
    | .values (path :: _) => if occurrence.option.name = "load" then some ⟨path, false⟩ else none
    | _ => none

end Part

variable {options : List CommandOption}

/-! ### Forms -/

theorem Distinct.forms_ne (h : Distinct options) {option : CommandOption}
    (hoption : option ∈ options) : option.forms ≠ [helpForm] := by
  intro hforms
  have hmem : helpForm ∈ allForms options := by
    refine mem_allForms.mpr ⟨option, hoption, List.mem_append_left _ ?_⟩
    rw [hforms]
    exact List.mem_singleton_self _
  exact (List.nodup_cons.mp h.forms).1 hmem

/-- The scan finds the option that the reader does, unless that asks for help or is turned off. -/
theorem findForm?_of_lookUp?_append_help (h : Distinct options) {isShort : Bool} {form : String}
    {option : CommandOption} {isOff : Bool}
    (hlook : lookUp? (options ++ [helpOption]) isShort form = some (option, isOff)) :
    findForm? options form =
      if isOff = true ∨ option.forms = [helpForm] then none else some option := by
  by_cases hmem : form ∈ allForms options
  · have hfirst : lookUp? options isShort form = some (option, isOff) := by
      unfold lookUp? at hlook ⊢
      split at hlook
      · cases hlook
      · rename_i hshort
        rw [if_neg hshort]
        rw [List.findSome?_append] at hlook
        cases hfound : options.findSome? fun option =>
            if option.forms.contains form then some (option, false)
            else if option.offForms.contains form then some (option, true) else none with
        | some found =>
            rw [hfound] at hlook
            exact hlook
        | none =>
            have hnone : lookUp? options isShort form = none := by
              unfold lookUp?
              rw [if_neg hshort, hfound]
            obtain hother | hother := lookUp?_eq_none_iff.mp hnone
            · exact absurd hother hshort
            · exact absurd hmem hother
    rw [findForm?_of_lookUp? h.nodup_forms hfirst]
    have hforms := h.forms_ne (mem_of_lookUp? hfirst).1
    cases isOff <;> simp [hforms]
  · rw [findForm?_eq_none_of_not_mem hmem]
    obtain ⟨hoption, hform⟩ := mem_of_lookUp? hlook
    obtain hoption | hoption := List.mem_append.mp hoption
    · have hany : form ∈ option.forms ++ option.offForms := by
        cases isOff with
        | true => exact List.mem_append_right _ hform
        | false => exact List.mem_append_left _ hform
      exact absurd (mem_allForms.mpr ⟨option, hoption, hany⟩) hmem
    · obtain rfl := List.mem_singleton.mp hoption
      rw [if_pos (.inr rfl)]

/-! ### Steps -/

theorem item?_of_takeValues {marks : List String} {option : CommandOption} {form : String}
    {attached : Option String} {rest : List String} {step : Step}
    (htakes : option.takesValue = true) (hpos : 0 < option.valueCount)
    (hfixed : option.isOmittable = false)
    (h : takeValues marks option form attached rest = .ok step) :
    step.occurrences.filterMap Occurrence.item? =
        [.option option (option.firstValue attached rest)] ∧
      step.rest = rest.drop (option.consumed attached) := by
  have hle := valueCount_le_of_takeValues hfixed h
  obtain rfl := Except.ok.inj ((takeValues_of_le hfixed hle).symm.trans h)
  refine ⟨?_, drop_consumed htakes hpos attached rest⟩
  simp only [List.filterMap_cons, List.filterMap_nil, Occurrence.item?,
    head?_take_values htakes hpos]

theorem item?_switch {option : CommandOption} {isOff : Bool} {form : String}
    (h : findForm? options form =
      if isOff = true ∨ option.forms = [helpForm] then none else some option) :
    (⟨option, if isOff then .off else .on⟩ : Occurrence).item? =
      (findForm? options form).map (.option · none) := by
  rw [h]
  by_cases hhelp : option.forms = [helpForm] <;> cases isOff <;> simp [Occurrence.item?, hhelp]

theorem scan_of_plain (hregular : Regular options) {word : String} (hstop : word ≠ "--")
    (hplain : looksLikeOption (knownMarks (options ++ [helpOption])) word = false)
    (rest : List String) : scan options (word :: rest) = .file word :: scan options rest := by
  have hword : ∀ c letters, word.toList ≠ '-' :: c :: letters := by
    intro c letters hword
    have hlooks := (looksLikeOption_iff hregular.append_help).mpr ⟨c, letters, hword⟩
    cases hlooks.symm.trans hplain
  have hlong : ¬word.startsWith "--" = true := by
    rw [String.startsWith_string_iff]
    rintro ⟨letters, hletters⟩
    exact hword '-' letters hletters.symm
  have hshort : ¬(word.startsWith "-" && decide (word ≠ "-")) = true := by
    rw [Bool.and_eq_true, String.startsWith_string_iff, decide_eq_true_iff, ne_eq,
      ← String.toList_inj]
    rintro ⟨⟨letters, hletters⟩, hne⟩
    cases letters with
    | nil => exact hne hletters.symm
    | cons c letters => exact hword c letters hletters.symm
  rw [scan, if_neg hstop, if_neg hlong, if_neg hshort]

section

variable (hregular : Regular options) (hdistinct : Distinct options)

include hregular hdistinct

theorem findForm?_of_takesValue {isShort : Bool} {form : String} {option : CommandOption}
    {isOff : Bool}
    (hlook : lookUp? (options ++ [helpOption]) isShort form = some (option, isOff))
    (htakes : option.takesValue = true) :
    findForm? options form = some option ∧ 0 < option.valueCount ∧ option.isOmittable = false := by
  obtain ⟨hmem, hform⟩ := mem_of_lookUp? hlook
  obtain ⟨hpos, hfixed, hoff⟩ := hregular.append_help.counted option hmem htakes
  refine ⟨?_, hpos, hfixed⟩
  rw [findForm?_of_lookUp?_append_help hdistinct hlook, if_neg]
  rintro (rfl | hhelp)
  · rw [if_pos rfl, hoff] at hform
    cases hform
  · obtain hoption | hoption := List.mem_append.mp hmem
    · exact hdistinct.forms_ne hoption hhelp
    · rw [List.mem_singleton.mp hoption] at htakes
      cases htakes

theorem scanCluster_of_readCluster {rest : List String} {letters : List Char} {step : Step}
    (h : readCluster (options ++ [helpOption]) '-' rest letters = .ok step) :
    ∃ n, scanCluster options rest letters = (step.occurrences.filterMap Occurrence.item?, n) ∧
      step.rest = rest.drop n := by
  induction letters generalizing step with
  | nil =>
      cases h
      exact ⟨0, rfl, rfl⟩
  | cons c letters ih =>
      obtain ⟨option, isOff, hlook, ⟨htakes, htake⟩ | ⟨htakes, inner, hinner, rfl⟩⟩ :=
        readCluster_cons_eq_ok_iff.mp h
      · obtain ⟨hfind, hpos, hfixed⟩ := findForm?_of_takesValue hregular hdistinct hlook htakes
        obtain ⟨hitems, hrest⟩ := item?_of_takeValues htakes hpos hfixed htake
        refine ⟨_, ?_, hrest⟩
        rw [scanCluster, hfind, hitems]
        simp only [htakes, if_true]
      · obtain ⟨n, hscan, hrest⟩ := ih hinner
        have hfind := findForm?_of_lookUp?_append_help hdistinct hlook
        refine ⟨n, ?_, hrest⟩
        rw [scanCluster, List.filterMap_cons, item?_switch hfind, hscan]
        -- The scan skips the letter, or finds the switch.
        by_cases hskip : isOff = true ∨ option.forms = [helpForm]
        · rw [if_pos hskip] at hfind
          rw [hfind]
          rfl
        · rw [if_neg hskip] at hfind
          rw [hfind]
          simp only [htakes, Bool.false_eq_true, if_false, Option.map_some]

/-- A word that is read as an option, with the words that belong to it, is scanned as what it is
read as. -/
theorem scan_of_readOption {word : String} {rest : List String} {step : Step}
    (hstop : word ≠ "--")
    (hlooks : looksLikeOption (knownMarks (options ++ [helpOption])) word = true)
    (h : readOption (options ++ [helpOption]) word rest = .ok step) :
    scan options (word :: rest) =
      step.occurrences.filterMap Occurrence.item? ++ scan options step.rest := by
  obtain ⟨c, letters, hword⟩ := (looksLikeOption_iff hregular.append_help).mp hlooks
  rw [scan, if_neg hstop]
  by_cases hc : c = '-'
  · subst hc
    have hlong : word.startsWith "--" = true := by
      rw [String.startsWith_string_iff, hword]
      exact ⟨letters, rfl⟩
    rw [if_pos hlong]
    dsimp only
    obtain ⟨option, isOff, hlook, ⟨htakes, htake⟩ | ⟨htakes, hattached, rfl⟩⟩ :=
      (readOption_long_eq_ok_iff hregular.append_help hword).mp h
    · obtain ⟨hfind, hpos, hfixed⟩ := findForm?_of_takesValue hregular hdistinct hlook htakes
      obtain ⟨hitems, hrest⟩ := item?_of_takeValues htakes hpos hfixed htake
      rw [hfind, hitems, hrest]
      rfl
    · have hfind := findForm?_of_lookUp?_append_help hdistinct hlook
      rw [List.filterMap_cons, item?_switch hfind]
      by_cases hskip : isOff = true ∨ option.forms = [helpForm]
      · rw [if_pos hskip] at hfind
        rw [hfind]
        rfl
      · rw [if_neg hskip] at hfind
        rw [hfind]
        simp only [Option.map_some, CommandOption.firstValue, CommandOption.consumed, htakes,
          Bool.false_eq_true, if_false, List.drop_zero]
        rfl
  · have hlong : ¬word.startsWith "--" = true := by
      rw [String.startsWith_string_iff, hword]
      rintro ⟨others, hothers⟩
      exact hc (List.cons.inj (List.cons.inj hothers).2).1.symm
    have hshort : (word.startsWith "-" && decide (word ≠ "-")) = true := by
      rw [Bool.and_eq_true, String.startsWith_string_iff, hword, decide_eq_true_iff, ne_eq,
        ← String.toList_inj, hword]
      exact ⟨⟨c :: letters, rfl⟩, by simp⟩
    rw [readOption_of_short hregular.append_help hc hword] at h
    obtain ⟨n, hscan, hrest⟩ := scanCluster_of_readCluster hregular hdistinct h
    rw [if_neg hlong, if_pos hshort, hword, List.drop_one, List.tail_cons, hscan, hrest]

/-- What is read is scanned as its parts. -/
theorem Reads.scan_eq {words : List String} {parts : List Part}
    (h : Reads (options ++ [helpOption]) words parts) :
    scan options words = parts.filterMap Part.item? := by
  induction h with
  | nil => rw [scan]; rfl
  | stop rest =>
      rw [scan, if_pos rfl]
      simp [Part.item?, Function.comp_def]
  | option notStop looks reads _ ih =>
      rw [scan_of_readOption hregular hdistinct notStop looks reads, ih, List.filterMap_append,
        List.filterMap_map]
      rfl
  | file notStop plain _ ih =>
      rw [scan_of_plain hregular notStop plain, ih]
      rfl

theorem Reads.fileQueue_eq {words : List String} {parts : List Part}
    (h : Reads (options ++ [helpOption]) words parts) :
    fileQueue options words = parts.filterMap Part.queued? := by
  rw [fileQueue_eq_filterMap, h.scan_eq hregular hdistinct, List.filterMap_filterMap]
  refine List.filterMap_congr fun part _ => ?_
  cases part with
  | file path => rfl
  | option occurrence =>
      obtain ⟨option, given⟩ := occurrence
      cases given with
      | on =>
          simp only [Part.item?, Part.queued?, Occurrence.item?]
          split <;> simp [Item.queued?]
      | off | nothing => rfl
      | values values =>
          cases values with
          | nil => simp [Part.item?, Part.queued?, Occurrence.item?, Item.queued?]
          | cons path others => rfl

end

end LanguageShell.CommandLine

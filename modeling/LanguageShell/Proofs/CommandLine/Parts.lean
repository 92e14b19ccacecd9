import LanguageShell.Proofs.CommandLine.Forms

/-!
The arguments as they are read, in their order. They consist of files and of options with what these
are given; what the reader returns are the files and the options, taken apart. Reading goes from one
part to the next, so arguments that are read to their end are read in the same way where others
follow.
-/

namespace LanguageShell.CommandLine

open OptionDeclaration

inductive Part where
  | file (path : String)
  | option (occurrence : Occurrence)

namespace Part

def file? : Part → Option String
  | file path => some path
  | option _ => none

def occurrence? : Part → Option Occurrence
  | file _ => none
  | option occurrence => some occurrence

end Part

def Arguments.ofParts (parts : List Part) : Arguments where
  occurrences := parts.filterMap Part.occurrence?
  files := parts.filterMap Part.file?

/-- Whether words are read as the parts, one after another. -/
inductive Reads (options : List CommandOption) : List String → List Part → Prop
  | nil : Reads options [] []
  | stop (rest : List String) : Reads options ("--" :: rest) (rest.map .file)
  | option {word : String} {rest : List String} {step : Step} {parts : List Part}
      (notStop : word ≠ "--") (looks : looksLikeOption (knownMarks options) word = true)
      (reads : readOption options word rest = .ok step) (tail : Reads options step.rest parts) :
      Reads options (word :: rest) (step.occurrences.map .option ++ parts)
  | file {word : String} {rest : List String} {parts : List Part}
      (notStop : word ≠ "--") (plain : looksLikeOption (knownMarks options) word = false)
      (tail : Reads options rest parts) : Reads options (word :: rest) (.file word :: parts)

namespace Reads

variable {options : List CommandOption} {words : List String} {parts : List Part}

theorem unique (h : Reads options words parts) {others : List Part}
    (h' : Reads options words others) : parts = others := by
  induction h generalizing others with
  | nil =>
      cases h'
      rfl
  | stop rest =>
      cases h' with
      | stop => rfl
      | option notStop | file notStop => exact absurd rfl notStop
  | option notStop looks reads _ ih =>
      cases h' with
      | stop => exact absurd rfl notStop
      | option _ _ reads' tail' =>
          obtain rfl := Except.ok.inj (reads.symm.trans reads')
          rw [ih tail']
      | file _ plain => cases looks.symm.trans plain
  | file notStop plain _ ih =>
      cases h' with
      | stop => exact absurd rfl notStop
      | option _ looks => cases looks.symm.trans plain
      | file _ _ tail' => rw [ih tail']

theorem readWords_eq (h : Reads options words parts) :
    readWords options words = .ok (.ofParts parts) := by
  induction h with
  | nil => rw [readWords]; rfl
  | stop rest =>
      rw [readWords, if_pos rfl]
      simp [Arguments.ofParts, Part.file?, Part.occurrence?, Function.comp_def]
  | option notStop looks reads _ ih =>
      rw [readWords, if_neg notStop, if_pos looks]
      split
      · rename_i hstep
        cases reads.symm.trans hstep
      · rename_i hstep
        obtain rfl := Except.ok.inj (reads.symm.trans hstep)
        rw [ih]
        simp [Arguments.ofParts, Arguments.addAll, Part.file?, Part.occurrence?, Except.map,
          Function.comp_def]
  | file notStop plain _ ih =>
      rw [readWords, if_neg notStop, if_neg (by simp [plain]), ih]
      rfl

end Reads

theorem exists_of_map_eq_ok {ε α β : Type} {result : Except ε α} {f : α → β} {b : β}
    (h : result.map f = .ok b) : ∃ a, result = .ok a ∧ f a = b := by
  cases result with
  | error error => cases h
  | ok a => exact ⟨a, rfl, Except.ok.inj h⟩

theorem exists_reads {options : List CommandOption} {words : List String} {arguments : Arguments}
    (h : readWords options words = .ok arguments) : ∃ parts, Reads options words parts := by
  induction words using readWords.induct options generalizing arguments with
  | case1 => exact ⟨[], .nil⟩
  | case2 rest => exact ⟨_, .stop rest⟩
  | case3 word rest hstop hlooks error hstep =>
      rw [readWords, if_neg hstop, if_pos hlooks] at h
      split at h
      · cases h
      · rename_i hok
        cases hstep.symm.trans hok
  | case4 word rest hstop hlooks step hstep ih =>
      rw [readWords, if_neg hstop, if_pos hlooks] at h
      split at h
      · cases h
      · rename_i hok
        obtain rfl := Except.ok.inj (hstep.symm.trans hok)
        obtain ⟨inner, hinner, -⟩ := exists_of_map_eq_ok h
        obtain ⟨parts, hparts⟩ := ih hinner
        exact ⟨_, .option hstop hlooks hstep hparts⟩
  | case5 word rest hstop hplain ih =>
      rw [readWords, if_neg hstop, if_neg hplain] at h
      obtain ⟨inner, hinner, -⟩ := exists_of_map_eq_ok h
      obtain ⟨parts, hparts⟩ := ih hinner
      exact ⟨_, .file hstop (by simpa using hplain) hparts⟩

/-! ### Regular options -/

/-- Whether all forms have dashes, and each option that takes values takes a certain number of them,
one at least, and cannot be turned off. -/
structure Regular (options : List CommandOption) : Prop where
  dashed : ∀ form ∈ allForms options, isDashed form = true
  counted : ∀ option ∈ options, option.takesValue = true →
    0 < option.valueCount ∧ option.isOmittable = false ∧ option.offForms = []

theorem Regular.of_isRegular {options : List CommandOption}
    (h : ∀ option ∈ options, option.IsRegular) : Regular options where
  dashed form hform := by
    obtain ⟨option, hoption, hmem⟩ := mem_allForms.mp hform
    exact (h option hoption).dashed form hmem
  counted option hoption htakes := by
    obtain ⟨hpos, hfixed⟩ := (h option hoption).counted htakes
    exact ⟨hpos, hfixed, (h option hoption).offForms_eq_nil htakes⟩

theorem isDashed_append_help {options : List CommandOption}
    (h : ∀ form ∈ allForms options, isDashed form = true) :
    ∀ form ∈ allForms (options ++ [helpOption]), isDashed form = true := by
  intro form hform
  rw [allForms, List.flatMap_append, List.mem_append] at hform
  obtain hform | hform := hform
  · exact h form hform
  · obtain rfl : form = helpForm := by simpa [helpOption] using hform
    decide

theorem Regular.append_help {options : List CommandOption} (h : Regular options) :
    Regular (options ++ [helpOption]) where
  dashed := isDashed_append_help h.dashed
  counted option hoption htakes := by
    obtain hoption | hoption := List.mem_append.mp hoption
    · exact h.counted option hoption htakes
    · obtain rfl := List.mem_singleton.mp hoption
      cases htakes

section

variable {options : List CommandOption}

theorem looksLikeOption_iff (h : Regular options) {word : String} :
    looksLikeOption (knownMarks options) word = true ↔
      ∃ c letters, word.toList = '-' :: c :: letters := by
  rw [looksLikeOption, Bool.and_eq_true, List.contains_iff_mem, mem_knownMarks h.dashed,
    decide_eq_true_iff, ← String.toList_inj, ← String.toList_inj, String.toList_copy_take,
    ← String.length_toList]
  constructor
  · rintro ⟨hmark, hlength⟩
    match hword : word.toList with
    | [] => simp [hword] at hlength
    | [c] => simp [hword] at hlength
    | c :: d :: letters =>
        rw [hword] at hmark
        obtain hmark | hmark := hmark
        · obtain ⟨rfl, -⟩ := List.cons.inj hmark
          exact ⟨d, letters, rfl⟩
        · cases hmark
  · rintro ⟨c, letters, hword⟩
    rw [hword]
    exact ⟨.inl rfl, by simp⟩

/-! ### One word -/

theorem toList_splitAtEquals (word : String) :
    (splitAtEquals word).1.toList = word.toList.takeWhile (· ≠ '=') := by
  unfold splitAtEquals
  dsimp only
  split <;> simp

theorem readOption_of_short (h : Regular options) {word : String} {c : Char} {letters : List Char}
    (hc : c ≠ '-') (hword : word.toList = '-' :: c :: letters) (rest : List String) :
    readOption options word rest = readCluster options '-' rest (c :: letters) := by
  have hform : (splitAtEquals word).1.toList = '-' :: (c :: letters).takeWhile (· ≠ '=') := by
    rw [toList_splitAtEquals, hword]
    rfl
  -- What stands before an equals sign begins with one dash, so it is no long form.
  have hnone : lookUp? options false (splitAtEquals word).1 = none := by
    rw [lookUp?_eq_none_iff]
    by_contra hfound
    simp only [ne_eq, Bool.not_eq_false, not_or, Bool.not_eq_true, not_not] at hfound
    obtain ⟨hlong, hmem⟩ := hfound
    obtain ⟨name, hname⟩ | ⟨d, hd, hshort⟩ := isDashed_cases (h.dashed _ hmem)
    · rw [hform, List.cons.injEq, List.takeWhile_cons] at hname
      obtain ⟨-, hname⟩ := hname
      split at hname
      · exact hc (List.cons.inj hname).1
      · cases hname
    · cases hlong.symm.trans (isShort_of_short hd hshort)
  have hmark : (knownMarks options).contains (word.take 2).copy = false := by
    rw [← Bool.not_eq_true, List.contains_iff_mem, mem_knownMarks h.dashed, ← String.toList_inj,
      ← String.toList_inj, String.toList_copy_take, hword]
    simp [hc]
  unfold readOption
  simp only [hnone, hword, hmark, Bool.false_eq_true, if_false]

/-- What a word with two dashes is read as. It is an option by its whole form, and takes values or
has none attached. -/
theorem readOption_long_eq_ok_iff (h : Regular options) {word : String} {letters : List Char}
    (hword : word.toList = '-' :: '-' :: letters) {rest : List String} {step : Step} :
    readOption options word rest = .ok step ↔
      ∃ option isOff, lookUp? options false (splitAtEquals word).1 = some (option, isOff) ∧
        (option.takesValue = true ∧
            takeValues (knownMarks options) option (splitAtEquals word).1 (splitAtEquals word).2
              rest = .ok step ∨
          option.takesValue = false ∧ (splitAtEquals word).2 = none ∧
            step = ⟨[⟨option, if isOff then .off else .on⟩], rest⟩) := by
  unfold readOption
  cases hlook : lookUp? options false (splitAtEquals word).1 with
  | none =>
      have hmark : (knownMarks options).contains (word.take 2).copy = true := by
        rw [List.contains_iff_mem, mem_knownMarks h.dashed]
        right
        rw [← String.toList_inj, String.toList_copy_take, hword]
        rfl
      simp only [hlook, hword, hmark, if_true, reduceCtorEq, false_and, exists_false]
  | some found =>
      obtain ⟨option, isOff⟩ := found
      simp only [hlook]
      constructor
      · intro hread
        refine ⟨option, isOff, rfl, ?_⟩
        cases htakes : option.takesValue with
        | true =>
            rw [htakes, if_pos rfl] at hread
            exact .inl ⟨rfl, hread⟩
        | false =>
            rw [htakes, if_neg Bool.false_ne_true] at hread
            split at hread
            · cases hread
            · rename_i hattached
              exact .inr ⟨rfl, by simpa using hattached, (Except.ok.inj hread).symm⟩
      · rintro ⟨_, _, hsame, ⟨htakes, htake⟩ | ⟨htakes, hattached, rfl⟩⟩
        · cases hsame
          rwa [htakes, if_pos rfl]
        · cases hsame
          rw [htakes, if_neg Bool.false_ne_true, hattached, if_neg (by simp)]

/-- What a cluster is read as. Its first letter takes values, or is followed by those that the other
letters make. -/
theorem readCluster_cons_eq_ok_iff {mark c : Char} {letters : List Char} {rest : List String}
    {step : Step} :
    readCluster options mark rest (c :: letters) = .ok step ↔
      ∃ option isOff, lookUp? options true (String.ofList [mark, c]) = some (option, isOff) ∧
        (option.takesValue = true ∧
            takeValues (knownMarks options) option (String.ofList [mark, c])
              (if letters.isEmpty then none else some (String.ofList letters)) rest = .ok step ∨
          option.takesValue = false ∧ ∃ inner, readCluster options mark rest letters = .ok inner ∧
            step = ⟨⟨option, if isOff then .off else .on⟩ :: inner.occurrences, inner.rest⟩) := by
  rw [readCluster]
  dsimp only
  cases hlook : lookUp? options true (String.ofList [mark, c]) with
  | none => simp only [reduceCtorEq, false_and, exists_false]
  | some found =>
      obtain ⟨option, isOff⟩ := found
      dsimp only
      constructor
      · intro hread
        refine ⟨option, isOff, rfl, ?_⟩
        cases htakes : option.takesValue with
        | true =>
            rw [htakes, if_pos rfl] at hread
            exact .inl ⟨rfl, hread⟩
        | false =>
            rw [htakes, if_neg Bool.false_ne_true] at hread
            split at hread
            · cases hread
            · rename_i inner hinner
              exact .inr ⟨rfl, inner, hinner, (Except.ok.inj hread).symm⟩
      · rintro ⟨_, _, hsame, ⟨htakes, htake⟩ | ⟨htakes, inner, hinner, rfl⟩⟩
        · cases hsame
          rwa [htakes, if_pos rfl]
        · cases hsame
          rw [htakes, if_neg Bool.false_ne_true, hinner]

/-! ### What a step finds -/

/-- Whether the option is given what it takes: as many values as it should have, or else that it is
turned on or off. -/
def Occurrence.IsProper (occurrence : Occurrence) : Prop :=
  if occurrence.option.takesValue then
    ∃ values, occurrence.given = .values values ∧ values.length = occurrence.option.valueCount
  else occurrence.given = .on ∨ occurrence.given = .off ∧ occurrence.option.offForms ≠ []

/-- Whether a step takes some of the words that follow and leaves the others alone: it does the same
where more words follow. What it finds are options, given what they take. -/
structure Step.IsLocal (options : List CommandOption) (read : List String → Except UsageError Step)
    (rest : List String) (step : Step) : Prop where
  suffix : step.rest <:+ rest
  reads_append : ∀ more, read (rest ++ more) = .ok ⟨step.occurrences, step.rest ++ more⟩
  proper : ∀ occurrence ∈ step.occurrences, occurrence.option ∈ options ∧ occurrence.IsProper

theorem Step.IsLocal.imp {read next : List String → Except UsageError Step} {rest : List String}
    {step : Step} (h : step.IsLocal options read rest) (front : List Occurrence)
    (himp : ∀ others other, read others = .ok other →
      next others = .ok ⟨front ++ other.occurrences, other.rest⟩)
    (hproper : ∀ occurrence ∈ front, occurrence.option ∈ options ∧ occurrence.IsProper) :
    Step.IsLocal options next rest ⟨front ++ step.occurrences, step.rest⟩ where
  suffix := h.suffix
  reads_append more := himp _ _ (h.reads_append more)
  proper occurrence hmem := by
    obtain hfront | hstep := List.mem_append.mp hmem
    · exact hproper occurrence hfront
    · exact h.proper occurrence hstep

theorem takeValues_of_le {marks : List String} {option : CommandOption} {form : String}
    {attached : Option String} {rest : List String} (hfixed : option.isOmittable = false)
    (hle : option.valueCount ≤ (attached.toList ++ rest).length) :
    takeValues marks option form attached rest =
      .ok ⟨[⟨option, .values ((attached.toList ++ rest).take option.valueCount)⟩],
        (attached.toList ++ rest).drop option.valueCount⟩ := by
  unfold takeValues
  dsimp only
  rw [if_neg (not_lt.mpr hle), hfixed, Bool.false_and, if_neg Bool.false_ne_true]

theorem valueCount_le_of_takeValues {marks : List String} {option : CommandOption} {form : String}
    {attached : Option String} {rest : List String} {step : Step}
    (hfixed : option.isOmittable = false)
    (h : takeValues marks option form attached rest = .ok step) :
    option.valueCount ≤ (attached.toList ++ rest).length := by
  by_contra hless
  unfold takeValues at h
  dsimp only at h
  rw [if_pos (not_le.mp hless), hfixed, if_neg Bool.false_ne_true] at h
  cases h

theorem drop_consumed {option : CommandOption} (htakes : option.takesValue = true)
    (hpos : 0 < option.valueCount) (attached : Option String) (rest : List String) :
    (attached.toList ++ rest).drop option.valueCount = rest.drop (option.consumed attached) := by
  obtain ⟨n, hn⟩ := Nat.exists_eq_add_of_lt hpos
  rw [Nat.zero_add] at hn
  rw [CommandOption.consumed, if_pos htakes, hn]
  cases attached <;> simp

theorem head?_take_values {option : CommandOption} (htakes : option.takesValue = true)
    (hpos : 0 < option.valueCount) (attached : Option String) (rest : List String) :
    ((attached.toList ++ rest).take option.valueCount).head? = option.firstValue attached rest := by
  rw [List.head?_take, if_neg hpos.ne', CommandOption.firstValue, if_pos htakes]
  cases attached <;> simp

theorem isLocal_takeValues {marks : List String} {option : CommandOption} {form : String}
    {attached : Option String} {rest : List String} {step : Step} (hoption : option ∈ options)
    (htakes : option.takesValue = true) (hpos : 0 < option.valueCount)
    (hfixed : option.isOmittable = false)
    (h : takeValues marks option form attached rest = .ok step) :
    step.IsLocal options (takeValues marks option form attached) rest := by
  have hle := valueCount_le_of_takeValues hfixed h
  obtain rfl := Except.ok.inj ((takeValues_of_le hfixed hle).symm.trans h)
  refine ⟨?_, fun more => ?_, ?_⟩
  · rw [drop_consumed htakes hpos]
    exact List.drop_suffix _ _
  · have hmore : option.valueCount ≤ (attached.toList ++ (rest ++ more)).length := by
      rw [← List.append_assoc, List.length_append]
      omega
    rw [takeValues_of_le hfixed hmore, ← List.append_assoc, List.take_append_of_le_length hle,
      List.drop_append_of_le_length hle]
  · simp only [List.mem_singleton, forall_eq]
    refine ⟨hoption, ?_⟩
    rw [Occurrence.IsProper, if_pos htakes]
    exact ⟨_, rfl, List.length_take_of_le hle⟩

theorem isProper_switch {isShort : Bool} {form : String} {option : CommandOption} {isOff : Bool}
    (h : option.takesValue = false) (hlook : lookUp? options isShort form = some (option, isOff)) :
    (⟨option, if isOff then .off else .on⟩ : Occurrence).IsProper := by
  obtain ⟨-, hform⟩ := mem_of_lookUp? hlook
  rw [Occurrence.IsProper, if_neg (by simp [h])]
  cases isOff with
  | false => exact .inl rfl
  | true => exact .inr ⟨rfl, List.ne_nil_of_mem hform⟩

theorem isLocal_readCluster (h : Regular options) {mark : Char} {rest : List String}
    {letters : List Char} {step : Step} (hread : readCluster options mark rest letters = .ok step) :
    step.IsLocal options (fun rest => readCluster options mark rest letters) rest := by
  induction letters generalizing step with
  | nil =>
      cases hread
      exact ⟨List.suffix_refl _, fun _ => rfl, by simp⟩
  | cons c letters ih =>
      obtain ⟨option, isOff, hlook, ⟨htakes, htake⟩ | ⟨htakes, inner, hinner, rfl⟩⟩ :=
        readCluster_cons_eq_ok_iff.mp hread
      · obtain ⟨hoption, -⟩ := mem_of_lookUp? hlook
        obtain ⟨hpos, hfixed, -⟩ := h.counted option hoption htakes
        refine (isLocal_takeValues hoption htakes hpos hfixed htake).imp [] ?_ (by simp)
        intro others other hother
        exact readCluster_cons_eq_ok_iff.mpr ⟨option, isOff, hlook, .inl ⟨htakes, hother⟩⟩
      · obtain ⟨hoption, -⟩ := mem_of_lookUp? hlook
        refine (ih hinner).imp [_] ?_ ?_
        · intro others other hother
          exact readCluster_cons_eq_ok_iff.mpr
            ⟨option, isOff, hlook, .inr ⟨htakes, other, hother, rfl⟩⟩
        · simp only [List.mem_singleton, forall_eq]
          exact ⟨hoption, isProper_switch htakes hlook⟩

theorem isLocal_readOption (h : Regular options) {word : String} {rest : List String} {step : Step}
    (hlooks : looksLikeOption (knownMarks options) word = true)
    (hread : readOption options word rest = .ok step) :
    step.IsLocal options (readOption options word) rest := by
  obtain ⟨c, letters, hword⟩ := (looksLikeOption_iff h).mp hlooks
  by_cases hc : c = '-'
  · subst hc
    obtain ⟨option, isOff, hlook, ⟨htakes, htake⟩ | ⟨htakes, hattached, rfl⟩⟩ :=
      (readOption_long_eq_ok_iff h hword).mp hread
    · obtain ⟨hoption, -⟩ := mem_of_lookUp? hlook
      obtain ⟨hpos, hfixed, -⟩ := h.counted option hoption htakes
      refine (isLocal_takeValues hoption htakes hpos hfixed htake).imp [] ?_ (by simp)
      intro others other hother
      exact (readOption_long_eq_ok_iff h hword).mpr
        ⟨option, isOff, hlook, .inl ⟨htakes, hother⟩⟩
    · obtain ⟨hoption, -⟩ := mem_of_lookUp? hlook
      refine ⟨List.suffix_refl _, fun more => ?_, ?_⟩
      · exact (readOption_long_eq_ok_iff h hword).mpr
          ⟨option, isOff, hlook, .inr ⟨htakes, hattached, rfl⟩⟩
      · simp only [List.mem_singleton, forall_eq]
        exact ⟨hoption, isProper_switch htakes hlook⟩
  · rw [readOption_of_short h hc hword] at hread
    obtain ⟨hsuffix, happend, hproper⟩ := isLocal_readCluster h hread
    refine ⟨hsuffix, fun more => ?_, hproper⟩
    rw [readOption_of_short h hc hword]
    exact happend more

namespace Reads

theorem isProper (h : Regular options) {words : List String} {parts : List Part}
    (hreads : Reads options words parts) {occurrence : Occurrence}
    (hmem : .option occurrence ∈ parts) :
    occurrence.option ∈ options ∧ occurrence.IsProper := by
  induction hreads with
  | nil => cases hmem
  | stop rest => simp at hmem
  | option _ looks reads _ ih =>
      obtain hfirst | htail := List.mem_append.mp hmem
      · obtain ⟨other, hother, hsame⟩ := List.mem_map.mp hfirst
        obtain rfl := Part.option.inj hsame
        exact (isLocal_readOption h looks reads).proper other hother
      · exact ih htail
  | file _ _ _ ih =>
      obtain hfirst | htail := List.mem_cons.mp hmem
      · cases hfirst
      · exact ih htail

/-- Words that are read to their end, with no `--` among them, are read in the same way where others
follow. -/
theorem append (h : Regular options) {words others : List String} {parts further : List Part}
    (hreads : Reads options words parts) (hstop : "--" ∉ words)
    (hothers : Reads options others further) :
    Reads options (words ++ others) (parts ++ further) := by
  induction hreads with
  | nil => exact hothers
  | stop rest => simp at hstop
  | option notStop looks reads _ ih =>
      -- The words that are left are some of those that follow, so `--` is not among them either.
      obtain ⟨hsuffix, happend, -⟩ := isLocal_readOption h looks reads
      have hrest := ih fun hmem => hstop (List.mem_cons_of_mem _ (hsuffix.subset hmem))
      rw [List.append_assoc]
      have hwhole := Reads.option notStop looks (happend others) hrest
      exact hwhole
  | file notStop plain _ ih =>
      exact .file notStop plain (ih fun hmem => hstop (List.mem_cons_of_mem _ hmem))

end Reads

end

end LanguageShell.CommandLine

import LanguageShell.CommandLine.Read
import Mathlib

/-!
Forms with dashes. Where all options are written as `-c` or `--name`, and no form is declared twice,
the two ways to look up a form find the same option, except that one of them knows no forms that
turn a flag off.
-/

namespace LanguageShell

set_option maxRecDepth 10000 in
theorem Text.isAlphanumeric_dash : isAlphanumeric '-' = false := by
  decide

namespace OptionDeclaration

/-- Whether a form is a dash and a character, or two dashes and a name. -/
def isDashed (form : String) : Bool :=
  match form.toList with
  | '-' :: '-' :: _ => true
  | ['-', _] => true
  | _ => false

theorem isShort_of_long {form : String} {name : List Char} (h : form.toList = '-' :: '-' :: name) :
    isShort form = false := by
  simp [isShort, markLength, h, Text.isAlphanumeric_dash]

theorem isShort_of_short {form : String} {c : Char} (hc : c ≠ '-') (h : form.toList = ['-', c]) :
    isShort form = true := by
  simp [isShort, markLength, h, Text.isAlphanumeric_dash, hc, ← String.length_toList]

theorem isDashed_cases {form : String} (h : isDashed form = true) :
    (∃ name, form.toList = '-' :: '-' :: name) ∨ ∃ c, c ≠ '-' ∧ form.toList = ['-', c] := by
  unfold isDashed at h
  split at h
  · rename_i name hform
    exact .inl ⟨name, hform⟩
  · rename_i c hc hform
    exact .inr ⟨c, hc, hform⟩
  · cases h

theorem toList_marks {form : String} (h : isDashed form = true) :
    (marks form).toList = if isShort form then ['-'] else ['-', '-'] := by
  rw [marks, String.toList_copy_take]
  obtain ⟨name, hform⟩ | ⟨c, hc, hform⟩ := isDashed_cases h
  · simp [isShort_of_long hform, markLength, hform, Text.isAlphanumeric_dash]
  · simp [isShort_of_short hc hform, markLength, hform, Text.isAlphanumeric_dash, hc]

theorem markLength_ne_zero {form : String} (h : isDashed form = true) : markLength form ≠ 0 := by
  obtain ⟨name, hform⟩ | ⟨c, hc, hform⟩ := isDashed_cases h
  · simp [markLength, hform, Text.isAlphanumeric_dash]
  · simp [markLength, hform, Text.isAlphanumeric_dash, hc]

theorem declaresFlag_of_check {declaration : OptionDeclaration} (h : declaration.check = .ok ())
    (hoff : declaration.forms.any (!·.off.isEmpty) = true) : declaration.declaresFlag = true := by
  by_contra hflag
  rw [Bool.not_eq_true] at hflag
  unfold check at h
  cases hforms : declaration.checkForms with
  | error error =>
      rw [hforms] at h
      cases h
  | ok =>
      rw [hforms, hflag, hoff] at h
      by_cases hcount : declaration.valueCount = some (-1)
      · rw [if_pos hcount] at h
        cases h
      · rw [if_neg hcount] at h
        cases h

end OptionDeclaration

open OptionDeclaration

namespace CommandOption

/-- Whether an option is a flag, a counter, or one that takes a certain number of values, one at
least, and is written with dashes. -/
structure IsRegular (option : CommandOption) : Prop where
  declared : ∃ declaration : OptionDeclaration, declaration.build = .ok option
  dashed : ∀ form ∈ option.forms ++ option.offForms, isDashed form = true
  counted : option.takesValue = true → 0 < option.valueCount ∧ option.isOmittable = false

theorem IsRegular.of_check {declaration : OptionDeclaration} (hcheck : declaration.check = .ok ())
    (dashed : ∀ form ∈ declaration.toOption.forms ++ declaration.toOption.offForms,
      isDashed form = true)
    (counted : declaration.toOption.takesValue = true →
      0 < declaration.toOption.valueCount ∧ declaration.toOption.isOmittable = false) :
    declaration.toOption.IsRegular where
  declared := ⟨declaration, by rw [build, hcheck]; rfl⟩
  dashed := dashed
  counted := counted

theorem IsRegular.offForms_eq_nil {option : CommandOption} (h : option.IsRegular)
    (htakes : option.takesValue = true) : option.offForms = [] := by
  obtain ⟨declaration, hbuild⟩ := h.declared
  unfold build at hbuild
  cases hcheck : declaration.check with
  | error error =>
      rw [hcheck] at hbuild
      cases hbuild
  | ok =>
      rw [hcheck] at hbuild
      obtain rfl := Except.ok.inj hbuild
      by_contra hoff
      have hany : declaration.forms.any (!·.off.isEmpty) = true := by
        rw [List.any_eq_true]
        obtain ⟨form, hform⟩ := List.exists_mem_of_ne_nil _ hoff
        obtain ⟨forms, hforms, hmem⟩ := List.mem_flatMap.mp hform
        refine ⟨forms, hforms, ?_⟩
        cases hempty : forms.off with
        | nil => simp [hempty] at hmem
        | cons => rfl
      have hflag := declaresFlag_of_check hcheck hany
      simp only [takesValue, toOption, hflag, if_true] at htakes
      split at htakes <;> cases htakes

end CommandOption

namespace CommandLine

/-! ### The options that every language has -/

/-! The options, spelled out. -/

def editorSwitch : CommandOption where
  name := "no_wrapper"
  forms := [LineEditor.offFlag]
  default := some (.truth false)
  help := "Do not use a command-line wrapper."

def shellSwitch : CommandOption where
  name := "no_shell"
  forms := ["-n"]
  default := some (.truth false)
  help := "Do not run the interactive toplevel."

/-- The option that loads files. The setting has all of them. -/
def loadEntry : CommandOption where
  name := "load"
  forms := ["-l"]
  kind := .values
  type := .uniform .text
  isRepeated := true
  placeholder := some "<file>"
  help := "Load <file> into the initial environment."

def commonTable : List CommandOption := [
  { name := "wrapper", forms := ["--wrapper"], kind := .values, type := .uniform .text,
    default := some .absent, placeholder := some "<program>",
    help := "Specify a command-line wrapper to be used (such as rlwrap or ledit)." },
  editorSwitch,
  { name := "version", forms := ["-v"], default := some (.truth false),
    help := "Print language information and exit." },
  shellSwitch,
  loadEntry,
  { name := "verbosity", forms := ["--verbosity"], kind := .values, type := .uniform .integer,
    default := some (.integer defaultVerbosity), placeholder := some "<n>",
    help := "Print diagnostics up to this severity (1 errors, 2 warnings, 3 debug).  " ++
      s!"[default: {defaultVerbosity}]" }]

set_option maxRecDepth 10000 in
theorem commonOptions_eq : commonOptions = commonTable :=
  (rfl)

set_option maxRecDepth 10000 in
theorem isRegular_common : ∀ option ∈ commonOptions, option.IsRegular := by
  simp only [commonOptions, List.forall_mem_cons, List.not_mem_nil, false_imp_iff, implies_true,
    and_true]
  refine ⟨?_, ?_, ?_, ?_, ?_, ?_⟩ <;>
    exact .of_check (by decide) (by decide) (by decide)

variable {options : List CommandOption}

theorem mem_allForms {form : String} :
    form ∈ allForms options ↔
      ∃ option ∈ options, form ∈ option.forms ++ option.offForms := by
  simp [allForms]

theorem mem_knownMarks (h : ∀ form ∈ allForms options, isDashed form = true) {mark : String} :
    mark ∈ knownMarks options ↔ mark = "-" ∨ mark = "--" := by
  constructor
  · intro hmark
    simp only [knownMarks, List.mem_append, List.mem_cons, List.not_mem_nil, or_false,
      List.mem_flatMap] at hmark
    obtain hmark | ⟨form, hform, hfirst | hwhole⟩ := hmark
    · exact hmark
    · left
      rw [hfirst, ← String.toList_inj, String.toList_copy_take, toList_marks (h form hform)]
      split <;> rfl
    · split at hwhole
      · cases hwhole
      · rename_i hlong
        right
        rw [List.mem_singleton.mp hwhole, ← String.toList_inj, toList_marks (h form hform),
          if_neg hlong]
        rfl
  · rintro (rfl | rfl) <;> simp [knownMarks]

/-! ### Declarations -/

structure Distinct (options : List CommandOption) : Prop where
  forms : (helpForm :: allForms options).Nodup
  names : (filesName :: options.map (·.name)).Nodup

theorem Distinct.nodup_forms (h : Distinct options) : (allForms options).Nodup :=
  (List.nodup_cons.mp h.forms).2

theorem Distinct.nodup_names (h : Distinct options) : (options.map (·.name)).Nodup :=
  (List.nodup_cons.mp h.names).2

theorem Distinct.nodup_append_help (h : Distinct options) :
    (allForms (options ++ [helpOption])).Nodup := by
  rw [allForms, List.flatMap_append]
  exact (List.perm_append_singleton helpForm _).nodup_iff.mpr h.forms

theorem Distinct.eq_of_name_eq (h : Distinct options) {first second : CommandOption}
    (hfirst : first ∈ options) (hsecond : second ∈ options) (hname : first.name = second.name) :
    first = second :=
  List.inj_on_of_nodup_map h.nodup_names hfirst hsecond hname

theorem foldlM_add_eq_ok {failure : String → Failure} {texts seen result : List String}
    (h : (texts.foldlM (fun seen text =>
      if text ∈ seen then .error (failure text) else .ok (text :: seen)) seen :
        Except Failure (List String)) = .ok result)
    (hseen : seen.Nodup) : result = texts.reverse ++ seen ∧ result.Nodup := by
  induction texts generalizing seen with
  | nil =>
      cases h
      exact ⟨rfl, hseen⟩
  | cons text texts ih =>
      rw [List.foldlM_cons] at h
      by_cases hmem : text ∈ seen
      · rw [if_pos hmem] at h
        cases h
      · rw [if_neg hmem] at h
        obtain ⟨hresult, hnodup⟩ := ih h (List.nodup_cons.mpr ⟨hmem, hseen⟩)
        exact ⟨by simpa using hresult, hnodup⟩

/-- What is declared after further forms and a name, if none of them was there before. -/
theorem Declared.add_eq_ok {declared next : Declared} {forms : List String} {name : String}
    (h : declared.add forms name = .ok next) (hforms : declared.forms.Nodup)
    (hnames : declared.names.Nodup) :
    next.forms = forms.reverse ++ declared.forms ∧ next.forms.Nodup ∧
      next.names = name :: declared.names ∧ next.names.Nodup := by
  unfold add at h
  dsimp only at h
  generalize hresult : (forms.foldlM _ declared.forms : Except Failure (List String)) = result at h
  cases result with
  | error failure => cases h
  | ok result =>
      obtain ⟨rfl, hnodup⟩ := foldlM_add_eq_ok hresult hforms
      dsimp only at h
      split at h
      · cases h
      · rename_i hname
        obtain rfl := Except.ok.inj h
        exact ⟨rfl, hnodup, rfl, List.nodup_cons.mpr ⟨hname, hnames⟩⟩

theorem Declared.addAll_eq_ok {declared next : Declared}
    (h : options.foldlM (fun declared option =>
      declared.add (option.forms ++ option.offForms) option.name) declared = .ok next)
    (hforms : declared.forms.Nodup) (hnames : declared.names.Nodup) :
    next.forms.Perm (allForms options ++ declared.forms) ∧ next.forms.Nodup ∧
      next.names.Perm (options.map (·.name) ++ declared.names) ∧ next.names.Nodup := by
  induction options generalizing declared with
  | nil =>
      cases h
      exact ⟨.refl _, hforms, .refl _, hnames⟩
  | cons option options ih =>
      rw [List.foldlM_cons] at h
      cases hadd : declared.add (option.forms ++ option.offForms) option.name with
      | error failure =>
          rw [hadd] at h
          cases h
      | ok middle =>
          rw [hadd] at h
          obtain ⟨hmiddleForms, hnodupForms, hmiddleNames, hnodupNames⟩ :=
            add_eq_ok hadd hforms hnames
          obtain ⟨hpermForms, hnextForms, hpermNames, hnextNames⟩ := ih h hnodupForms hnodupNames
          refine ⟨hpermForms.trans ?_, hnextForms, hpermNames.trans ?_, hnextNames⟩
          · rw [hmiddleForms, allForms, allForms, List.flatMap_cons, ← List.append_assoc]
            refine .append_right _ (List.perm_append_comm.trans ?_)
            exact .append_right _ (List.reverse_perm _)
          · rw [hmiddleNames, List.map_cons]
            exact List.perm_middle

theorem distinct_of_checkDuplicates (h : checkDuplicates options = .ok ()) : Distinct options := by
  unfold checkDuplicates at h
  dsimp only at h
  cases hall : options.foldlM (fun declared option =>
      Declared.add declared (option.forms ++ option.offForms) option.name) {} with
  | error failure =>
      rw [hall] at h
      cases h
  | ok declared =>
      rw [hall] at h
      obtain ⟨hpermForms, hforms, hpermNames, hnames⟩ :=
        Declared.addAll_eq_ok hall (List.nodup_singleton _) List.nodup_nil
      cases hfiles : declared.add [] filesName with
      | error failure =>
          change (declared.add [] filesName >>= _) = _ at h
          rw [hfiles] at h
          cases h
      | ok last =>
          obtain ⟨-, -, hlastNames, hlast⟩ := Declared.add_eq_ok hfiles hforms hnames
          rw [List.append_nil] at hpermNames
          constructor
          · exact (hpermForms.trans (List.perm_append_singleton _ _)).nodup_iff.mp hforms
          · rw [hlastNames] at hlast
            exact (hpermNames.cons filesName).nodup_iff.mp hlast

/-! ### Looking up a form -/

theorem mem_of_lookUp? {isShort : Bool} {form : String} {option : CommandOption} {isOff : Bool}
    (h : lookUp? options isShort form = some (option, isOff)) :
    option ∈ options ∧ if isOff then form ∈ option.offForms else form ∈ option.forms := by
  unfold lookUp? at h
  split at h
  · cases h
  · obtain ⟨other, hmem, hfound⟩ := List.exists_of_findSome?_eq_some h
    split at hfound
    · rename_i hforms
      cases hfound
      exact ⟨hmem, by simpa using hforms⟩
    · split at hfound
      · rename_i hoff
        cases hfound
        exact ⟨hmem, by simpa using hoff⟩
      · cases hfound

/-- A form that is not found belongs to no option, unless it is looked up among forms of another
length. -/
theorem lookUp?_eq_none_iff {isShort : Bool} {form : String} :
    lookUp? options isShort form = none ↔
      OptionDeclaration.isShort form ≠ isShort ∨ form ∉ allForms options := by
  unfold lookUp?
  by_cases hshort : OptionDeclaration.isShort form ≠ isShort
  · simp [hshort]
  · simp only [hshort, if_false, false_or, List.findSome?_eq_none_iff, mem_allForms, not_exists,
      not_and, List.mem_append, not_or]
    refine forall₂_congr fun option _ => ?_
    by_cases hforms : form ∈ option.forms
    · simp [hforms]
    · by_cases hoff : form ∈ option.offForms <;> simp [hforms, hoff]

theorem lookUp?_of_mem (hnodup : (allForms options).Nodup) {form : String} {option : CommandOption}
    (hoption : option ∈ options) (hform : form ∈ option.forms) :
    lookUp? options (isShort form) form = some (option, false) := by
  unfold lookUp?
  rw [if_neg (not_not.mpr rfl)]
  induction options with
  | nil => cases hoption
  | cons first options ih =>
      rw [allForms, List.flatMap_cons, List.nodup_append'] at hnodup
      obtain ⟨-, hothers, hdisjoint⟩ := hnodup
      rw [List.findSome?_cons]
      obtain rfl | hoption := List.mem_cons.mp hoption
      · rw [if_pos (List.contains_iff_mem.mpr hform)]
      · have hmem : form ∈ allForms options :=
          mem_allForms.mpr ⟨option, hoption, List.mem_append_left _ hform⟩
        have hnew : form ∉ first.forms ++ first.offForms := fun hfirst => hdisjoint hfirst hmem
        rw [List.mem_append, not_or] at hnew
        obtain ⟨hon, hoff⟩ := hnew
        rw [if_neg (by simpa using hon), if_neg (by simpa using hoff)]
        exact ih hothers hoption

theorem findForm?_eq_none_of_not_mem {form : String} (h : form ∉ allForms options) :
    findForm? options form = none := by
  rw [findForm?, List.find?_eq_none]
  intro option hoption hforms
  exact h (mem_allForms.mpr ⟨option, hoption, List.mem_append_left _ (by simpa using hforms)⟩)

/-- A form that turns something on is found in both ways, and one that turns it off in one. -/
theorem findForm?_of_lookUp? (hnodup : (allForms options).Nodup) {isShort : Bool} {form : String}
    {option : CommandOption} {isOff : Bool}
    (h : lookUp? options isShort form = some (option, isOff)) :
    findForm? options form = if isOff then none else some option := by
  induction options with
  | nil =>
      unfold lookUp? at h
      split at h <;> cases h
  | cons first options ih =>
      rw [allForms, List.flatMap_cons, List.nodup_append'] at hnodup
      obtain ⟨hfirst, hothers, hdisjoint⟩ := hnodup
      unfold lookUp? at h
      split at h
      · cases h
      rename_i hshort
      rw [List.findSome?_cons] at h
      rw [findForm?, List.find?_cons]
      by_cases hforms : first.forms.contains form = true
      · rw [if_pos hforms] at h
        cases h
        rw [hforms]
        rfl
      rw [if_neg hforms] at h
      rw [Bool.not_eq_true] at hforms
      rw [hforms]
      by_cases hoff : first.offForms.contains form = true
      · -- No other option has the form.
        have hnone : form ∉ allForms options :=
          hdisjoint (List.mem_append_right _ (by simpa using hoff))
        rw [if_pos hoff] at h
        cases h
        exact findForm?_eq_none_of_not_mem hnone
      · rw [if_neg hoff] at h
        apply ih hothers
        unfold lookUp?
        rw [if_neg hshort]
        exact h

end CommandLine

end LanguageShell

import LanguageShell.CommandLine.Scan
import LanguageShell.CommandLine.Value

/-!
Reading the arguments. Options and files may be mixed up to `--`, and only exact forms count. The
first argument of a wrong form is an error; values of a wrong type are found later, in the order in
which their options first appear.
-/

namespace LanguageShell

namespace CommandLine

inductive UsageError where
  | noSuchOption (form : String)
  | missingValues (form : String) (count : Nat)
  | unwantedValue (form : String)
  /-- A value of the option with these forms is refused. -/
  | badValue (forms : List String) (error : ValueError)
deriving DecidableEq, Repr

namespace UsageError

def message : UsageError → String
  | noSuchOption form => s!"No such option {Text.quoted form}."
  | missingValues form count =>
    let wanted := if count = 1 then "an argument" else s!"{count} arguments"
    s!"Option {Text.quoted form} requires {wanted}."
  | unwantedValue form => s!"Option {Text.quoted form} does not take a value."
  | badValue forms error =>
    let shown := " / ".intercalate (forms.map fun form => s!"'{form}'")
    s!"Invalid value for {shown}: {error.message}"

/-- Whether the error is about the use of one option, and is shown without the usage. -/
def isBrief : UsageError → Bool
  | missingValues .. => true
  | unwantedValue _ => true
  | _ => false

end UsageError

inductive Refusal where
  | misuse (error : UsageError)
  | fault (fault : Fault)
deriving DecidableEq, Repr

inductive Given where
  | on
  | off
  | values (values : List String)
  /-- The values are left out. -/
  | nothing
deriving DecidableEq, Repr

structure Occurrence where
  option : CommandOption
  given : Given

/-- The arguments taken apart: options as they occur, and files. -/
structure Arguments where
  occurrences : List Occurrence := []
  files : List String := []

namespace Arguments

def addFile (arguments : Arguments) (path : String) : Arguments :=
  { arguments with files := path :: arguments.files }

def addAll (arguments : Arguments) (occurrences : List Occurrence) : Arguments :=
  { arguments with occurrences := occurrences ++ arguments.occurrences }

end Arguments

/-! ### Forms -/

/-- The option that is written in a form, and whether the form turns it off. Forms that may stand
in a cluster are kept apart from others. -/
def lookUp? (options : List CommandOption) (isShort : Bool) (form : String) :
    Option (CommandOption × Bool) :=
  if OptionDeclaration.isShort form ≠ isShort then none
  else options.findSome? fun option =>
    if option.forms.contains form then some (option, false)
    else if option.offForms.contains form then some (option, true)
    else none

def allForms (options : List CommandOption) : List String :=
  options.flatMap fun option => option.forms ++ option.offForms

/-- The marks with which forms begin: two dashes, one dash, and what options use besides. -/
def knownMarks (options : List CommandOption) : List String :=
  ["-", "--"] ++ (allForms options).flatMap fun form =>
    let marks := OptionDeclaration.marks form
    (marks.take 1).copy :: (if OptionDeclaration.isShort form then [] else [marks])

/-- Whether a word has the look of an option: it begins with a mark, and something follows. -/
def looksLikeOption (marks : List String) (word : String) : Bool :=
  marks.contains (word.take 1).copy && 1 < word.length

/-! ### Words -/

/-- The number of characters in words, and of the words. -/
def weight : List String → Nat
  | [] => 0
  | word :: rest => word.length + 1 + weight rest

/-- What one word and those after it give: options, and the words that are left. -/
structure Step where
  occurrences : List Occurrence
  rest : List String

/-- The values of an option: an attached one and then the next words. If the option can do without
values, a single word that looks like another option is not taken for one. -/
def takeValues (marks : List String) (option : CommandOption) (form : String)
    (attached : Option String) (rest : List String) : Except UsageError Step :=
  let available := attached.toList ++ rest
  let isNextOption := option.valueCount = 1 && (available.head?.any (looksLikeOption marks))
  if available.length < option.valueCount then
    if option.isOmittable then .ok ⟨[⟨option, .nothing⟩], available⟩
    else .error (.missingValues form option.valueCount)
  else if option.isOmittable && isNextOption then .ok ⟨[⟨option, .nothing⟩], available⟩
  else
    .ok ⟨[⟨option, .values (available.take option.valueCount)⟩], available.drop option.valueCount⟩

/-- Reads the letters of a cluster, which all have the same mark. The last letter may be an option
with values, the first of which may be attached to it. -/
def readCluster (options : List CommandOption) (mark : Char) (rest : List String) :
    List Char → Except UsageError Step
  | [] => .ok ⟨[], rest⟩
  | c :: letters =>
    let form := String.ofList [mark, c]
    match lookUp? options true form with
    | none => .error (.noSuchOption form)
    | some (option, isOff) =>
      if option.takesValue then
        let attached := if letters.isEmpty then none else some (String.ofList letters)
        takeValues (knownMarks options) option form attached rest
      else
        match readCluster options mark rest letters with
        | .error error => .error error
        | .ok step =>
          .ok { step with occurrences := ⟨option, if isOff then .off else .on⟩ :: step.occurrences }

/-- Reads a word that looks like an option: an option by its whole form, or else a cluster. -/
def readOption (options : List CommandOption) (word : String) (rest : List String) :
    Except UsageError Step :=
  let (form, attached) := splitAtEquals word
  match lookUp? options false form with
  | some (option, isOff) =>
    if option.takesValue then takeValues (knownMarks options) option form attached rest
    else if attached.isSome then .error (.unwantedValue form)
    else .ok ⟨[⟨option, if isOff then .off else .on⟩], rest⟩
  | none =>
    match word.toList with
    | mark :: letters =>
      if (knownMarks options).contains (word.take 2).copy then .error (.noSuchOption form)
      else readCluster options mark rest letters
    | [] => .ok ⟨[], rest⟩

/-! Every step leaves fewer characters or words: what is attached to an option is a part of its
word. -/

theorem weight_append (xs ys : List String) : weight (xs ++ ys) = weight xs + weight ys := by
  induction xs with
  | nil => simp [weight]
  | cons x xs ih => simp only [List.cons_append, weight, ih]; omega

theorem weight_drop_le (n : Nat) (words : List String) : weight (words.drop n) ≤ weight words := by
  induction words generalizing n with
  | nil => simp
  | cons word rest ih =>
    cases n with
    | zero => simp
    | succ n => simp only [List.drop_succ_cons, weight]; have := ih n; omega

theorem weight_takeValues_le {marks : List String} {option : CommandOption} {form : String}
    {attached : Option String} {rest : List String} {step : Step}
    (h : takeValues marks option form attached rest = .ok step) :
    weight step.rest ≤ weight (attached.toList ++ rest) := by
  unfold takeValues at h
  simp only at h
  repeat' split at h
  all_goals cases h
  · exact Nat.le_refl _
  · exact Nat.le_refl _
  · exact weight_drop_le ..

theorem weight_readCluster_le {options : List CommandOption} {mark : Char} {rest : List String}
    {letters : List Char} {step : Step} (h : readCluster options mark rest letters = .ok step) :
    weight step.rest ≤ letters.length + weight rest := by
  induction letters generalizing step with
  | nil => cases h; simp
  | cons c letters ih =>
    unfold readCluster at h
    simp only at h
    split at h
    · cases h
    split at h
    · have hle := weight_takeValues_le h
      rw [weight_append] at hle
      split at hle
      · simp only [Option.toList_none, weight] at hle
        omega
      · simp only [Option.toList_some, weight, String.length_ofList] at hle
        simp only [List.length_cons]
        omega
    · split at h
      · cases h
      · cases h
        rename_i hrest
        have hle := ih hrest
        simp only [List.length_cons]
        omega

theorem length_dropWhile_pos {c : Char} {text : List Char} (h : c ∈ text) :
    0 < (text.dropWhile (· ≠ c)).length := by
  induction text with
  | nil => cases h
  | cons d rest ih =>
    by_cases hd : d = c
    · simp [hd]
    · have hrest : c ∈ rest := by simpa [Ne.symm hd] using h
      simpa [List.dropWhile_cons, hd] using ih hrest

theorem length_attached_lt {word form attached : String}
    (h : splitAtEquals word = (form, some attached)) : attached.length < word.length := by
  unfold splitAtEquals at h
  simp only at h
  split at h
  · rename_i hmem
    simp only [Prod.mk.injEq, Option.some.injEq] at h
    obtain ⟨-, rfl⟩ := h
    have hpos := length_dropWhile_pos hmem
    have hle := (List.dropWhile_sublist (· ≠ '=') (l := word.toList)).length_le
    rw [String.length_ofList, List.length_drop, ← String.length_toList]
    omega
  · simp at h

theorem weight_readOption_lt {options : List CommandOption} {word : String} {rest : List String}
    {step : Step} (h : readOption options word rest = .ok step) :
    weight step.rest < weight (word :: rest) := by
  unfold readOption at h
  rcases hsplit : splitAtEquals word with ⟨form, attached⟩
  simp only [hsplit] at h
  split at h
  · split at h
    · have hle := weight_takeValues_le h
      cases attached with
      | none => simp only [Option.toList_none, List.nil_append] at hle; simp only [weight]; omega
      | some value =>
        have hlt := length_attached_lt hsplit
        simp only [Option.toList_some, List.cons_append, List.nil_append, weight] at hle ⊢
        omega
    · split at h <;> cases h
      simp only [weight]; omega
  · split at h
    · rename_i mark letters hletters
      split at h
      · cases h
      · have hle := weight_readCluster_le h
        have hlength := congrArg List.length hletters
        rw [String.length_toList, List.length_cons] at hlength
        simp only [weight]
        omega
    · cases h
      simp only [weight]; omega

def readWords (options : List CommandOption) : List String → Except UsageError Arguments
  | [] => .ok {}
  | word :: rest =>
    if word = "--" then .ok { files := rest }
    else if looksLikeOption (knownMarks options) word then
      match _hstep : readOption options word rest with
      | .error error => .error error
      | .ok step => (readWords options step.rest).map (·.addAll step.occurrences)
    else (readWords options rest).map (·.addFile word)
termination_by words => weight words
decreasing_by
  · exact weight_readOption_lt (by assumption)
  · simp only [weight]; omega

end CommandLine

namespace CommandOption

def datum (option : CommandOption) : CommandLine.Given → Datum
  | .on => .truth true
  | .off => .truth false
  | .nothing => .absent
  | .values values =>
    match option.valueCount, values with
    | 1, [value] => .text value
    | _, values => .list (values.map .text)

def setting (option : CommandOption) (given : List CommandLine.Given) : ConvertM Datum :=
  match given.getLast? with
  | none => option.convert (option.default.getD .absent)
  | some last => option.convert <|
    if option.kind = .counter then .integer given.length
    else if option.isRepeated then .list (given.map option.datum)
    else option.datum last

end CommandOption

namespace CommandLine

namespace Arguments

def given (arguments : Arguments) (option : CommandOption) : List Given :=
  (arguments.occurrences.filter (·.option.name = option.name)).map (·.given)

/-- The options in the order of their first appearance, then those that do not appear. -/
def order (arguments : Arguments) (options : List CommandOption) : List CommandOption :=
  let position (option : CommandOption) : Nat :=
    arguments.occurrences.findIdx (·.option.name = option.name)
  options.mergeSort fun a b => position a ≤ position b

end Arguments

inductive Request where
  | help
  | version
  | run (settings : List (String × Datum)) (files : List String)

/-- The setting of an option, or why there is none. An option without forms is known by its
name. -/
def settle (arguments : Arguments) (option : CommandOption) : Except Refusal (String × Datum) :=
  match option.setting (arguments.given option) with
  | .ok setting => .ok (option.name, setting)
  | .error (.fault fault) => .error (.fault fault)
  | .error (.refused error) =>
    let forms := if option.forms.isEmpty then [option.name] else option.forms
    .error (.misuse (.badValue forms error))

/-- Reads the arguments. A call for help or for the version, whichever comes first, wins over
values of a wrong type. -/
def read (command : CommandLine) (words : List String) : Except Refusal Request := do
  let options := command.options ++ [helpOption]
  match (allForms options).find? (OptionDeclaration.markLength · = 0) with
  | some form => throw (.fault (.unmarkedForm form))
  | none =>
    let arguments ← (readWords options words).mapError .misuse
    let calls := arguments.occurrences.filterMap fun occurrence =>
      if occurrence.option.name = helpOption.name && occurrence.option.forms = [helpForm] then
        some Request.help
      else if occurrence.option.name = "version" then some Request.version
      else none
    match calls with
    | call :: _ => return call
    | [] =>
      return .run (← (arguments.order command.options).mapM (settle arguments)) arguments.files

end CommandLine

end LanguageShell

import LanguageShell.Echo
import LanguageShell.Proofs.Survival

/-!
A conversation with the shell, command by command. The inputs are divided into portions, each of
them read for one command: lines that leave it incomplete, and then the line that completes it or an
interruption. Where they are divided depends on the lines alone. The commands that succeed are
executed one after another as if there were no others, and each of the others is reported once.
-/

namespace LanguageShell.Shell

variable {Env Cmd : Type} {language : Language Env Cmd}

def joined (lines : List String) : String :=
  "\n".intercalate lines

/-- Whether the lines do not complete a command, neither all of them nor the first ones. -/
def Incomplete (language : Language Env Cmd) (lines : List String) : Prop :=
  ∀ front, front ≠ [] → front <+: lines → language.readsMore (joined front) = true

/-- What is read for one command: lines that leave it incomplete, and then the line that completes
it or an interruption. -/
inductive Portion where
  | command (lines : List String) (last : String)
  | interrupted (lines : List String)

namespace Portion

def lines : Portion → List String
  | command lines _ => lines
  | interrupted lines => lines

def last : Portion → Input
  | command _ last => .line last
  | interrupted _ => .interrupt

def inputs (portion : Portion) : List Input :=
  portion.lines.map .line ++ [portion.last]

/-- Whether a language reads the portion for one command, and no less. -/
def IsRead (language : Language Env Cmd) (portion : Portion) : Prop :=
  Incomplete language portion.lines ∧
    ∀ line, portion.last = .line line →
      language.readsMore (joined (portion.lines ++ [line])) = false

/-- What is made of the portion. Nothing comes of an interrupted one. -/
def attempt (language : Language Env Cmd) (execute : Env → Cmd → Trace Env) (env : Env) :
    Portion → Trace Env
  | command lines last => runCommand language execute env (joined (lines ++ [last]))
  | interrupted _ => .fail .interrupted

end Portion

/-- Whether the inputs, as far as the end of the input, are those of the portions one after another
and then lines that complete no command. -/
structure Divides (language : Language Env Cmd) (inputs : List Input) (portions : List Portion)
    (rest : List String) : Prop where
  inputs_eq : inputs.takeWhile (· ≠ .endOfInput) =
    portions.flatMap Portion.inputs ++ rest.map .line
  isRead : ∀ portion ∈ portions, portion.IsRead language
  incomplete : Incomplete language rest

/-- The requests for the lines of a command and for one input more. All that has happened before
is told with the first one. -/
def requests (language : Language Env Cmd) (events : List Event) (env : Env)
    (lines : List String) : List (Turn Env) :=
  ⟨events, env, language.prompt⟩ :: List.replicate lines.length ⟨[], env, language.morePrompt⟩

/-- How the shell gets on with portions: the turns in which it reads them, and the commands that
succeed. What has happened since the last request and the environment are given as they are before
the portions and after them. -/
inductive Converses (language : Language Env Cmd) (reporter : Reporter)
    (execute : Env → Cmd → Trace Env) : List Event → Env → List Portion → List (Turn Env) →
      List Cmd → List Event → Env → Prop where
  | done {events : List Event} {env : Env} : Converses language reporter execute events env [] [] []
      events env
  | success {events others : List Event} {env next last : Env} {lines : List String}
      {line : String} {portions : List Portion} {turns : List (Turn Env)} {command : Cmd}
      {commands : List Cmd}
      (parses : Parser.located language.parseCommand (commandSource (joined (lines ++ [line]))) =
        .ok command)
      (succeeds : (execute env command).outcome = .ok next)
      (rest : Converses language reporter execute (execute env command).events next portions turns
        commands others last) :
      Converses language reporter execute events env (.command lines line :: portions)
        (requests language events env lines ++ turns) (command :: commands) others last
  | failure {events others : List Event} {env last : Env} {portion : Portion}
      {portions : List Portion} {turns : List (Turn Env)} {commands : List Cmd} {failure : Failure}
      (fails : (portion.attempt language execute env).outcome = .error failure)
      (rest : Converses language reporter execute
        ((portion.attempt language execute env).events ++ reporter.told failure) env portions turns
        commands others last) :
      Converses language reporter execute events env (portion :: portions)
        (requests language events env portion.lines ++ turns) commands others last

/-! ### Division into portions -/

theorem Incomplete.nil (language : Language Env Cmd) : Incomplete language [] := by
  intro front hne hbegins
  exact absurd (List.prefix_nil.mp hbegins) hne

theorem Incomplete.of_append {front back : List String} (h : Incomplete language (front ++ back)) :
    Incomplete language front :=
  fun start hne hbegins => h start hne (hbegins.trans (List.prefix_append front back))

theorem Incomplete.concat {lines : List String} {line : String} (h : Incomplete language lines)
    (hmore : language.readsMore (joined (lines ++ [line])) = true) :
    Incomplete language (lines ++ [line]) := by
  intro front hne hbegins
  obtain rfl | hshort := List.prefix_concat_iff.mp hbegins
  · exact hmore
  · exact h front hne hshort

theorem Incomplete.last {lines : List String} {line : String}
    (h : Incomplete language (lines ++ [line])) :
    language.readsMore (joined (lines ++ [line])) = true :=
  h _ (by simp) List.prefix_rfl

def divide (language : Language Env Cmd) (lines : List String) :
    List Input → List Portion × List String
  | .line line :: inputs =>
    if language.readsMore (joined (lines ++ [line])) then divide language (lines ++ [line]) inputs
    else
      let (portions, rest) := divide language [] inputs
      (.command lines line :: portions, rest)
  | .interrupt :: inputs =>
    let (portions, rest) := divide language [] inputs
    (.interrupted lines :: portions, rest)
  | .endOfInput :: _ | [] => ([], lines)

theorem divides_divide {lines : List String} (h : Incomplete language lines)
    (inputs : List Input) :
    lines.map .line ++ inputs.takeWhile (· ≠ .endOfInput) =
        (divide language lines inputs).1.flatMap Portion.inputs ++
          (divide language lines inputs).2.map .line ∧
      (∀ portion ∈ (divide language lines inputs).1, portion.IsRead language) ∧
      Incomplete language (divide language lines inputs).2 := by
  induction inputs generalizing lines with
  | nil => simp [divide, h]
  | cons input inputs ih =>
      obtain ⟨hinputs, hread, hrest⟩ := ih (Incomplete.nil language)
      cases input with
      | endOfInput => simp [divide, h]
      | interrupt =>
          simp only [divide, List.flatMap_cons, List.forall_mem_cons]
          refine ⟨?_, ⟨⟨h, nofun⟩, hread⟩, hrest⟩
          rw [List.append_assoc, ← hinputs]
          simp [Portion.inputs, Portion.lines, Portion.last]
      | line line =>
          by_cases hmore : language.readsMore (joined (lines ++ [line])) = true
          · rw [divide, if_pos hmore]
            have hconcat := ih (h.concat hmore)
            simpa using hconcat
          · rw [divide, if_neg hmore]
            simp only [List.flatMap_cons, List.forall_mem_cons]
            refine ⟨?_, ⟨⟨h, fun other hother => ?_⟩, hread⟩, hrest⟩
            · rw [List.append_assoc, ← hinputs]
              simp [Portion.inputs, Portion.lines, Portion.last]
            · obtain rfl : line = other := Input.line.inj hother
              exact (Bool.not_eq_true _).mp hmore

theorem divide_lines {before lines : List String} (h : Incomplete language (before ++ lines))
    (inputs : List Input) : divide language before (lines.map .line ++ inputs) =
      divide language (before ++ lines) inputs := by
  induction lines generalizing before with
  | nil => simp
  | cons line lines ih =>
      have hconcat : before ++ line :: lines = before ++ [line] ++ lines := by simp
      rw [hconcat] at h ⊢
      rw [List.map_cons, List.cons_append, divide, if_pos h.of_append.last, ih h]

theorem divide_portion {portion : Portion} (h : portion.IsRead language) (inputs : List Input) :
    divide language [] (portion.inputs ++ inputs) =
      (portion :: (divide language [] inputs).1, (divide language [] inputs).2) := by
  rw [Portion.inputs, List.append_assoc, divide_lines (by simpa using h.1)]
  cases portion with
  | interrupted lines => rfl
  | command lines line =>
      have hdone := h.2 line rfl
      simp only [Portion.last, List.singleton_append, List.nil_append, divide]
      rw [if_neg (by simpa using hdone)]
      rfl

theorem takeWhile_append_endOfInput (inputs : List Input) :
    ∃ back, inputs = inputs.takeWhile (· ≠ .endOfInput) ++ back ∧
      back.head?.getD .endOfInput = .endOfInput := by
  refine ⟨inputs.dropWhile (· ≠ .endOfInput), List.takeWhile_append_dropWhile.symm, ?_⟩
  cases hback : inputs.dropWhile (· ≠ .endOfInput) with
  | nil => rfl
  | cons input back =>
      have hstop := List.head?_dropWhile_not (· ≠ .endOfInput) inputs
      rw [hback] at hstop
      simpa using hstop

theorem Divides.divide_eq {inputs : List Input} {portions : List Portion} {rest : List String}
    (h : Divides language inputs portions rest) : divide language [] inputs = (portions, rest) := by
  obtain ⟨back, hinputs, hback⟩ := takeWhile_append_endOfInput inputs
  obtain ⟨heq, hread, hrest⟩ := h
  rw [heq] at hinputs
  rw [hinputs]
  clear heq hinputs
  induction portions with
  | nil =>
      rw [List.flatMap_nil, List.nil_append, divide_lines (by simpa using hrest)]
      cases back with
      | nil => rfl
      | cons input back =>
          obtain rfl : input = .endOfInput := hback
          rfl
  | cons portion portions ih =>
      obtain ⟨hportion, hportions⟩ := List.forall_mem_cons.mp hread
      rw [List.flatMap_cons, List.append_assoc, List.append_assoc, divide_portion hportion,
        ← List.append_assoc, ih hportions]

/-! ### What comes of the portions -/

section Visits

variable {reporter : Reporter} {execute : Env → Cmd → Trace Env}

def collecting (env : Env) (lines : List String) : State Env :=
  ⟨env, if lines = [] then none else some (joined lines)⟩

theorem textWith_collecting (env : Env) (lines : List String) (line : String) :
    (collecting env lines).textWith line = joined (lines ++ [line]) := by
  by_cases h : lines = []
  · simp [collecting, State.textWith, joined, h]
  · simp [collecting, State.textWith, joined, h,
      String.intercalate_append_of_ne_nil h (List.cons_ne_nil line [])]

theorem prompt_collecting (env : Env) {lines : List String} (h : lines ≠ []) :
    prompt language (collecting env lines) = language.morePrompt := by
  simp [prompt, collecting, h]

theorem respond_of_incomplete {env : Env} {lines : List String} {line : String}
    (h : Incomplete language (lines ++ [line])) :
    respond language reporter execute (collecting env lines) (.line line) =
      ⟨[], .ok (.more (collecting env (lines ++ [line])))⟩ := by
  have hmore := h.last
  rw [respond_of_more (by rw [Completes, textWith_collecting]; simpa using hmore),
    textWith_collecting]
  simp [collecting]

/-- The lines of a command are read one after another. Each is a turn of its own, and so is the
request for what comes after them. -/
theorem converse_lines {env : Env} (before : List String) {lines : List String}
    {inputs : List Input} (visit : Visit Env) (h : Incomplete language (before ++ lines))
    (hvisit : ∀ events,
      converse language reporter execute events (collecting env (before ++ lines)) inputs =
        { visit with turns :=
            ⟨events, env, prompt language (collecting env (before ++ lines))⟩ :: visit.turns })
    (events : List Event) :
    converse language reporter execute events (collecting env before)
        (lines.map .line ++ inputs) =
      { visit with turns :=
          ⟨events, env, prompt language (collecting env before)⟩ ::
            (List.replicate lines.length ⟨[], env, language.morePrompt⟩ ++ visit.turns) } := by
  induction lines generalizing before events with
  | nil => simpa using hvisit events
  | cons line lines ih =>
      have hconcat : before ++ line :: lines = before ++ [line] ++ lines := by simp
      rw [hconcat] at h hvisit
      have hrespond : respond language reporter execute (collecting env before) (.line line) = _ :=
        respond_of_incomplete h.of_append
      rw [List.map_cons, List.cons_append, converse_of_more (congrArg Trace.outcome hrespond),
        hrespond, ih _ h hvisit, prompt_collecting env (by simp)]
      rfl

/-- A portion is read, and then the shell goes on with what its attempt leaves. -/
theorem converse_portion {env next : Env} {portion : Portion} {others : List Event}
    (h : portion.IsRead language)
    (hattempt : recover reporter env (portion.attempt language execute env) = ⟨others, .ok next⟩)
    (events : List Event) (inputs : List Input) :
    converse language reporter execute events { env } (portion.inputs ++ inputs) =
      let rest := converse language reporter execute others { env := next } inputs
      { rest with turns := requests language events env portion.lines ++ rest.turns } := by
  have hrespond : respond language reporter execute (collecting env portion.lines) portion.last =
      ⟨others, .ok (.more { env := next })⟩ := by
    cases portion with
    | interrupted lines =>
        cases hattempt
        rfl
    | command lines line =>
        have hdone := h.2 line rfl
        have hrun : recover reporter env
            (runCommand language execute env (joined (lines ++ [line]))) = ⟨others, .ok next⟩ :=
          hattempt
        rw [Portion.last, respond, textWith_collecting, if_neg (by simpa using hdone)]
        show recover reporter env (runCommand language execute env _) >>= _ = _
        rw [Portion.lines, hrun, Trace.bind_of_ok rfl, Trace.pure_eq, List.append_nil]
  have hvisit : ∀ events, converse language reporter execute events
      (collecting env ([] ++ portion.lines)) (portion.last :: inputs) = _ := fun events => by
    rw [List.nil_append, converse_of_more (congrArg Trace.outcome hrespond), hrespond]
  rw [Portion.inputs, List.append_assoc]
  exact converse_lines [] _ h.1 hvisit events

theorem converse_rest {env : Env} {rest : List String} {back : List Input}
    (h : Incomplete language rest) (hback : back.head?.getD .endOfInput = .endOfInput)
    (events : List Event) :
    converse language reporter execute events { env } (rest.map .line ++ back) =
      ⟨requests language events env rest, [.printed "\n"], .ok env⟩ := by
  have hover : respond language reporter execute (collecting env rest)
      (back.head?.getD .endOfInput) = ⟨[.printed "\n"], .ok (.over env)⟩ := by
    rw [hback]
    rfl
  have hvisit : ∀ events, converse language reporter execute events (collecting env ([] ++ rest))
      back = ⟨[⟨events, env, prompt language (collecting env rest)⟩], [.printed "\n"], .ok env⟩ :=
    fun events => by
      rw [List.nil_append, converse.eq_2 _ _ _ _ _ _ env (congrArg Trace.outcome hover), hover]
      rfl
  have hlines := converse_lines [] ⟨[], [.printed "\n"], .ok env⟩ h hvisit events
  rw [List.append_nil] at hlines
  exact hlines

theorem recover_of_ok {env next : Env} {attempt : Trace Env} (h : attempt.outcome = .ok next) :
    recover reporter env attempt = ⟨attempt.events, .ok next⟩ := by
  obtain ⟨events, outcome⟩ := attempt
  cases h
  rfl

theorem recover_of_error {env : Env} {attempt : Trace Env} {failure : Failure}
    (h : attempt.outcome = .error failure) (hfault : ∀ fault, failure ≠ .fault fault) :
    recover reporter env attempt = ⟨attempt.events ++ reporter.told failure, .ok env⟩ := by
  obtain ⟨events, outcome⟩ := attempt
  cases h
  cases failure with
  | diagnostic diagnostic =>
      simp only [recover, Reporter.diagnostic_eq_told]
      rw [Trace.bind_of_ok rfl, Trace.bind_of_ok rfl, Trace.pure_eq, List.append_nil]
  | interrupted => rfl
  | fault fault => exact absurd rfl (hfault fault)

/-- Portions are read one after another, if none of them ends with a fault. -/
theorem exists_converses (reporter : Reporter) {portions : List Portion}
    (hread : ∀ portion ∈ portions, portion.IsRead language)
    (hfault : ∀ env portion fault,
      (Portion.attempt language execute env portion).outcome ≠ .error (.fault fault))
    (events : List Event) (env : Env) (inputs : List Input) :
    ∃ turns commands others last,
      Converses language reporter execute events env portions turns commands others last ∧
        converse language reporter execute events { env }
            (portions.flatMap Portion.inputs ++ inputs) =
          let rest := converse language reporter execute others { env := last } inputs
          { rest with turns := turns ++ rest.turns } := by
  induction portions generalizing events env with
  | nil => exact ⟨[], [], events, env, .done, rfl⟩
  | cons portion portions ih =>
      obtain ⟨hportion, hportions⟩ := List.forall_mem_cons.mp hread
      rw [List.flatMap_cons, List.append_assoc]
      cases houtcome : (portion.attempt language execute env).outcome with
      | error failure =>
          have hne : ∀ fault, failure ≠ .fault fault := by
            rintro fault rfl
            exact hfault env portion fault houtcome
          have hrecover : recover reporter env _ = _ := recover_of_error houtcome hne
          obtain ⟨turns, commands, others, last, hconverses, hrest⟩ := ih hportions _ env
          refine ⟨_, commands, others, last, .failure houtcome hconverses, ?_⟩
          rw [converse_portion hportion hrecover, hrest]
          simp
      | ok next =>
          have hrecover : recover reporter env _ = _ := recover_of_ok houtcome
          cases portion with
          | interrupted lines => cases houtcome
          | command lines line =>
              obtain ⟨command, hparses, hsucceeds⟩ := Trace.outcome_bind_eq_ok.mp houtcome
              have hparses : Parser.located language.parseCommand
                  (commandSource (joined (lines ++ [line]))) = .ok command := hparses
              have hevents : ((Portion.command lines line).attempt language execute env).events =
                  (execute env command).events := by
                rw [Portion.attempt, runCommand, hparses]
                rfl
              obtain ⟨turns, commands, others, last, hconverses, hrest⟩ :=
                ih hportions (execute env command).events next
              refine ⟨_, _, others, last, .success hparses hsucceeds hconverses, ?_⟩
              rw [converse_portion hportion hrecover, hevents, hrest]
              simp [Portion.lines]

/-- The commands that succeed do so as well without the others between them. -/
theorem Converses.foldlM_commands {events others : List Event} {env last : Env}
    {portions : List Portion} {turns : List (Turn Env)} {commands : List Cmd}
    (h : Converses language reporter execute events env portions turns commands others last) :
    (commands.foldlM execute env).outcome = .ok last := by
  induction h with
  | done => rfl
  | success _ succeeds _ ih =>
      rw [List.foldlM_cons, Trace.bind_of_ok succeeds]
      exact ih
  | failure _ _ ih => exact ih

theorem Converses.length_turns {events others : List Event} {env last : Env}
    {portions : List Portion} {turns : List (Turn Env)} {commands : List Cmd}
    (h : Converses language reporter execute events env portions turns commands others last) :
    turns.length = (portions.flatMap Portion.inputs).length := by
  induction h with
  | done => rfl
  | success _ _ _ ih =>
      rw [List.flatMap_cons, List.length_append, List.length_append, ih]
      simp [requests, Portion.inputs, Portion.lines]
  | failure _ _ ih =>
      rw [List.flatMap_cons, List.length_append, List.length_append, ih]
      simp [requests, Portion.inputs]

end Visits

/-- The shell is a fold over the commands that succeed. Its inputs are divided into portions in one
way, and each portion is read in turns of its own: the first with the prompt for a command, the
others with the prompt for more of it. The environment in the end is what the commands that succeed
leave, executed one after another and without the others. What fails, or is interrupted, is told
once and leaves the environment as it was; so do the lines of a command that the end of the input
cuts off. -/
theorem shell_folds_commands_that_succeed {name : String} (hname : language.name = some name)
    (hparse : ∀ source fault,
      Parser.located language.parseCommand source ≠ .error (.fault fault))
    {execute : Env → Cmd → Trace Env}
    (hexecute : ∀ env command fault, (execute env command).outcome ≠ .error (.fault fault))
    (platform : Platform) (reporter : Reporter) (env : Env) (inputs : List Input) :
    let visited := visit language platform reporter execute env inputs
    ∃ portions rest, Divides language inputs portions rest ∧
      (∀ others back, Divides language inputs others back → others = portions ∧ back = rest) ∧
      ∃ turns commands events last,
        Converses language reporter execute (greet language platform).events env portions turns
          commands events last ∧
        (commands.foldlM execute env).outcome = .ok last ∧
        visited =
          ⟨turns ++ requests language events last rest, [.printed "\n"], .ok last⟩ ∧
        visited.turns.length = (inputs.takeWhile (· ≠ .endOfInput)).length + 1 := by
  intro visited
  have hfault : ∀ env portion fault,
      (Portion.attempt language execute env portion).outcome ≠ .error (.fault fault) := by
    intro env portion fault hfails
    cases portion with
    | interrupted lines => cases hfails
    | command lines line =>
        cases hparses : Parser.located language.parseCommand
            (commandSource (joined (lines ++ [line]))) with
        | error failure =>
            rw [Portion.attempt, runCommand, hparses] at hfails
            obtain rfl : failure = .fault fault := Except.error.inj hfails
            exact hparse _ fault hparses
        | ok command =>
            rw [Portion.attempt, runCommand, hparses] at hfails
            exact hexecute env command fault hfails
  obtain ⟨portions, rest, hdivides⟩ : ∃ portions rest, Divides language inputs portions rest := by
    obtain ⟨hinputs, hread, hrest⟩ := divides_divide (Incomplete.nil language) inputs
    exact ⟨_, _, by simpa using hinputs, hread, hrest⟩
  obtain ⟨back, hback, hend⟩ := takeWhile_append_endOfInput inputs
  obtain ⟨turns, commands, events, last, hconverses, hrun⟩ := exists_converses reporter
    hdivides.isRead hfault (greet language platform).events env (rest.map .line ++ back)
  have hinputs : inputs = portions.flatMap Portion.inputs ++ (rest.map .line ++ back) := by
    rw [← List.append_assoc, ← hdivides.inputs_eq]
    exact hback
  have hvisited : visited =
      ⟨turns ++ requests language events last rest, [.printed "\n"], .ok last⟩ := by
    have hconverse : visited = converse language reporter execute (greet language platform).events
        { env } inputs := visit_eq platform env inputs hname
    rw [hconverse, hinputs, hrun, converse_rest hdivides.incomplete hend]
  refine ⟨portions, rest, hdivides, fun others rest' hothers => ?_, turns, commands, events, last,
    hconverses, hconverses.foldlM_commands, hvisited, ?_⟩
  · exact Prod.mk.inj (hothers.divide_eq.symm.trans hdivides.divide_eq)
  · rw [hvisited, hdivides.inputs_eq, List.length_append, List.length_append,
      hconverses.length_turns]
    simp [requests, Nat.add_assoc]

theorem located_echo_ne_fault (description : Echo.Description) (source : Source) (fault : Fault) :
    Parser.located (Echo.language description).parseCommand source ≠ .error (.fault fault) := by
  intro h
  have hparse : (Echo.language description).parseCommand = Echo.parseCommand := by
    simp only [Echo.language]
  rw [hparse] at h
  unfold Parser.located Echo.parseCommand at h
  dsimp only at h
  split at h
  · have hdiagnostic := Except.error.inj h
    cases hdiagnostic
  · cases h

theorem execute_echo_ne_fault (env : List String) (command : String) (fault : Fault) :
    (Echo.execute {} (fun env _ => pure env) true env command).outcome ≠ .error (.fault fault) := by
  intro h
  unfold Echo.execute at h
  split at h <;> cases h

/-- A command that is interrupted, one that is refused, one that succeeds, and one that the end of
the input cuts off. -/
theorem shell_folds_echoed_commands :
    let description : Echo.Description := { name := some "echo", moreSuffix := some "," }
    let execute := Echo.execute {} (fun env _ => pure env) true
    let visited := visit (Echo.language description) .unix {} execute []
      [.line "a,", .interrupt, .line "!b", .line "c", .line "d,"]
    (Echo.language description).name = some "echo" ∧
      (∀ source fault, Parser.located (Echo.language description).parseCommand source ≠
        .error (.fault fault)) ∧
      (∀ env command fault, (execute env command).outcome ≠ .error (.fault fault)) ∧
      visited.outcome = .ok ["c"] ∧
      visited.turns.map Turn.prompt = ["# ", "  ", "# ", "# ", "# ", "  "] := by
  intro description execute visited
  have hname : (Echo.language description).name = some "echo" := rfl
  have hparse := located_echo_ne_fault description
  obtain ⟨portions, rest, hdivides, -, turns, commands, events, last, hconverses, -, hvisited, -⟩ :=
    shell_folds_commands_that_succeed hname hparse execute_echo_ne_fault .unix {} []
      [.line "a,", .interrupt, .line "!b", .line "c", .line "d,"]
  have hdivision : divide (Echo.language description) []
      [.line "a,", .interrupt, .line "!b", .line "c", .line "d,"] =
        ([.interrupted ["a,"], .command [] "!b", .command [] "c"], ["d,"]) := by cbv
  obtain ⟨rfl, rfl⟩ := Prod.mk.inj (hdivides.divide_eq.symm.trans hdivision)
  have hrefused : (Parser.located (Echo.language description).parseCommand
      (commandSource (joined ([] ++ ["!b"])))).toOption = none := by decide +kernel
  have haccepted : (Parser.located (Echo.language description).parseCommand
      (commandSource (joined ([] ++ ["c"])))).toOption = some "c" := by decide +kernel
  have hdone : (execute [] "c").outcome.toOption = some ["c"] := by decide +kernel
  have hattempt : (Portion.attempt (Echo.language description) execute []
      (.command [] "c")).outcome.toOption = some ["c"] := by decide +kernel
  refine ⟨hname, hparse, execute_echo_ne_fault, ?_⟩
  -- The first two portions fail and the third one succeeds.
  cases hconverses with
  | failure _ hconverses =>
      cases hconverses with
      | success parses =>
          rw [parses] at hrefused
          cases hrefused
      | failure _ hconverses =>
          cases hconverses with
          | failure fails =>
              rw [fails] at hattempt
              cases hattempt
          | success parses succeeds hconverses =>
              rw [parses] at haccepted
              cases haccepted
              rw [succeeds] at hdone
              cases hdone
              cases hconverses
              have hvisited : visited = _ := hvisited
              rw [hvisited]
              exact ⟨rfl, rfl⟩

end LanguageShell.Shell

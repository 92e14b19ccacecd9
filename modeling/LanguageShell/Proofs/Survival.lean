import LanguageShell.Proofs.Shell

/-!
How a visit to the shell goes on and how it ends. Each input takes the shell from one state to the
next: a line is collected or completes a command, which changes the environment if it succeeds and
is reported if it does not. Only a fault of a command ends the shell before the input does.
-/

namespace LanguageShell.Shell

variable {Env Cmd : Type} (language : Language Env Cmd) (reporter : Reporter)
  (execute : Env → Cmd → Trace Env)

/-- What a line that completes a command makes of it. -/
def attempt (state : State Env) (line : String) : Trace Env :=
  runCommand language execute state.env (state.textWith line)

def Completes (state : State Env) (line : String) : Prop :=
  language.readsMore (state.textWith line) = false

/-- Whether the inputs take the shell from one state to another. -/
inductive Arrives : State Env → List Input → State Env → Prop where
  | nil {state : State Env} : Arrives state [] state
  | cons {state next last : State Env} {input : Input} {inputs : List Input}
      (goesOn : (respond language reporter execute state input).outcome = .ok (.more next))
      (rest : Arrives next inputs last) : Arrives state (input :: inputs) last

/-! ### One input -/

variable {language reporter execute}

theorem diagnostic_outcome (reporter : Reporter) (diagnostic : Diagnostic) :
    (reporter.diagnostic diagnostic).outcome = .ok () := by
  rw [Reporter.diagnostic_eq]
  split <;> rfl

theorem respond_of_more {state : State Env} {line : String} (h : ¬Completes language state line) :
    respond language reporter execute state (.line line) =
      ⟨[], .ok (.more { state with collected := some (state.textWith line) })⟩ := by
  have hmore : language.readsMore (state.textWith line) = true := by simpa [Completes] using h
  rw [respond, if_pos hmore]
  rfl

/-- A command that succeeds changes the environment, one that does not is reported, and only after
a fault the shell does not go on. -/
theorem respond_of_completes {state : State Env} {line : String}
    (h : Completes language state line) :
    respond language reporter execute state (.line line) =
      match (attempt language execute state line).outcome with
      | .ok env => ⟨(attempt language execute state line).events, .ok (.more { env })⟩
      | .error (.diagnostic diagnostic) =>
          ⟨(attempt language execute state line).events ++ (reporter.diagnostic diagnostic).events,
            .ok (.more { env := state.env })⟩
      | .error .interrupted =>
          ⟨(attempt language execute state line).events ++ [.interrupted],
            .ok (.more { env := state.env })⟩
      | .error (.fault fault) =>
          ⟨(attempt language execute state line).events, .error (.fault fault)⟩ := by
  have hmore : ¬language.readsMore (state.textWith line) = true := by simpa [Completes] using h
  rw [respond, if_neg hmore, recover, ← attempt]
  cases houtcome : (attempt language execute state line).outcome with
  | ok env =>
      simp only
      rw [Trace.bind_of_ok houtcome, Trace.pure_eq, List.append_nil]
  | error failure =>
      cases failure with
      | diagnostic diagnostic =>
          simp only
          rw [Trace.bind_of_ok (a := ()) rfl, Trace.bind_of_ok (diagnostic_outcome _ _)]
          simp only [Trace.pure_eq, List.append_nil]
          rw [Trace.bind_of_ok rfl, List.append_nil]
      | interrupted =>
          simp only
          rw [Trace.bind_of_ok rfl, Trace.pure_eq, List.append_nil]
      | fault fault =>
          simp only
          rw [Trace.bind_of_error houtcome]

theorem respond_of_diagnostic {state : State Env} {line : String} {diagnostic : Diagnostic}
    (h : Completes language state line)
    (houtcome : (attempt language execute state line).outcome = .error (.diagnostic diagnostic)) :
    respond language reporter execute state (.line line) =
      ⟨(attempt language execute state line).events ++
          if reporter.Shows 1 then
            [.reported 1 (Report.render diagnostic.kind.label (some diagnostic.place)
              diagnostic.message)]
          else [],
        .ok (.more { env := state.env })⟩ := by
  rw [respond_of_completes h, houtcome]
  dsimp only
  rw [Reporter.diagnostic_eq]
  split <;> rfl

/-- The shell fails where a command ends with a fault, and nowhere else. -/
theorem respond_eq_error_iff {state : State Env} {input : Input} {failure : Failure} :
    (respond language reporter execute state input).outcome = .error failure ↔
      ∃ line fault, input = .line line ∧ Completes language state line ∧
        (attempt language execute state line).outcome = .error (.fault fault) ∧
        failure = .fault fault := by
  constructor
  · intro h
    cases input with
    | interrupt | endOfInput => cases h
    | line line =>
        by_cases hcompletes : Completes language state line
        · rw [respond_of_completes hcompletes] at h
          split at h
          · cases h
          · cases h
          · cases h
          · rename_i fault houtcome
            exact ⟨line, fault, rfl, hcompletes, houtcome, (Except.error.inj h).symm⟩
        · rw [respond_of_more hcompletes] at h
          cases h
  · rintro ⟨line, fault, rfl, hcompletes, houtcome, rfl⟩
    rw [respond_of_completes hcompletes, houtcome]

theorem respond_eq_over_iff {state : State Env} {input : Input} {env : Env} :
    (respond language reporter execute state input).outcome = .ok (.over env) ↔
      input = .endOfInput ∧ state.env = env := by
  constructor
  · intro h
    cases input with
    | interrupt => cases h
    | endOfInput =>
        cases h
        exact ⟨rfl, rfl⟩
    | line line =>
        by_cases hcompletes : Completes language state line
        · rw [respond_of_completes hcompletes] at h
          split at h <;> cases h
        · rw [respond_of_more hcompletes] at h
          cases h
  · rintro ⟨rfl, rfl⟩
    rfl

/-! ### All inputs -/

theorem converse_of_more {events : List Event} {state next : State Env} {input : Input}
    {inputs : List Input}
    (h : (respond language reporter execute state input).outcome = .ok (.more next)) :
    converse language reporter execute events state (input :: inputs) =
      let rest := converse language reporter execute
        (respond language reporter execute state input).events next inputs
      { rest with turns := ⟨events, state.env, prompt language state⟩ :: rest.turns } := by
  rw [converse.eq_3 _ _ _ _ _ next _ _ h]
  rfl

theorem outcome_converse_nil (events : List Event) (state : State Env) :
    (converse language reporter execute events state []).outcome = .ok state.env := by
  rw [converse.eq_2 _ _ _ _ _ _ state.env rfl]

theorem head_turns_converse (events : List Event) (state : State Env) (inputs : List Input) :
    (converse language reporter execute events state inputs).turns[0]? =
      some ⟨events, state.env, prompt language state⟩ := by
  unfold converse
  dsimp only
  split <;> rfl

theorem outcome_converse_of_arrives {state last : State Env} {front : List Input}
    (h : Arrives language reporter execute state front last) (events : List Event)
    (back : List Input) :
    ∃ others, (converse language reporter execute events state (front ++ back)).outcome =
      (converse language reporter execute others last back).outcome := by
  induction h generalizing events with
  | nil => exact ⟨events, rfl⟩
  | cons goesOn _ ih =>
      obtain ⟨others, hothers⟩ := ih _
      refine ⟨others, ?_⟩
      rw [List.cons_append, converse_of_more goesOn]
      exact hothers

/-- A conversation fails where a response does. -/
theorem converse_eq_error_iff {events : List Event} {state : State Env} {inputs : List Input}
    {failure : Failure} :
    (converse language reporter execute events state inputs).outcome = .error failure ↔
      ∃ front input back last, inputs = front ++ input :: back ∧
        Arrives language reporter execute state front last ∧
        (respond language reporter execute last input).outcome = .error failure := by
  constructor
  · intro h
    induction inputs generalizing events state with
    | nil =>
        rw [outcome_converse_nil] at h
        cases h
    | cons input inputs ih =>
        cases hresponse : (respond language reporter execute state input).outcome with
        | error other =>
            rw [converse.eq_1 _ _ _ _ _ _ other hresponse] at h
            obtain rfl : other = failure := Except.error.inj h
            exact ⟨[], input, inputs, state, rfl, .nil, hresponse⟩
        | ok next =>
            obtain next | env := next
            · rw [converse_of_more hresponse] at h
              obtain ⟨front, other, back, last, rfl, harrives, hfails⟩ := ih h
              exact ⟨input :: front, other, back, last, rfl, .cons hresponse harrives, hfails⟩
            · rw [converse.eq_2 _ _ _ _ _ _ env hresponse] at h
              cases h
  · rintro ⟨front, input, back, last, rfl, harrives, hfails⟩
    obtain ⟨others, houtcome⟩ := outcome_converse_of_arrives harrives events (input :: back)
    rw [houtcome, converse.eq_1 _ _ _ _ _ _ failure hfails]

/-- So a conversation fails where a command ends with a fault, and nowhere else. -/
theorem converse_eq_error_iff_attempt {events : List Event} {state : State Env}
    {inputs : List Input} {failure : Failure} :
    (converse language reporter execute events state inputs).outcome = .error failure ↔
      ∃ front line back last fault, inputs = front ++ .line line :: back ∧
        Arrives language reporter execute state front last ∧ Completes language last line ∧
        (attempt language execute last line).outcome = .error (.fault fault) ∧
        failure = .fault fault := by
  rw [converse_eq_error_iff]
  constructor
  · rintro ⟨front, input, back, last, rfl, harrives, hfails⟩
    obtain ⟨line, fault, rfl, hcompletes, houtcome, rfl⟩ := respond_eq_error_iff.mp hfails
    exact ⟨front, line, back, last, fault, rfl, harrives, hcompletes, houtcome, rfl⟩
  · rintro ⟨front, line, back, last, fault, rfl, harrives, hcompletes, houtcome, rfl⟩
    exact ⟨front, .line line, back, last, rfl, harrives,
      respond_eq_error_iff.mpr ⟨line, fault, rfl, hcompletes, houtcome, rfl⟩⟩

/-- A conversation succeeds if it comes to the end of the input, and gives the environment there. -/
theorem converse_eq_ok_iff {events : List Event} {state : State Env} {inputs : List Input}
    {env : Env} :
    (converse language reporter execute events state inputs).outcome = .ok env ↔
      ∃ front back last, inputs = front ++ back ∧
        Arrives language reporter execute state front last ∧
        back.head?.getD .endOfInput = .endOfInput ∧ last.env = env := by
  constructor
  · intro h
    induction inputs generalizing events state with
    | nil =>
        rw [outcome_converse_nil] at h
        exact ⟨[], [], state, rfl, .nil, rfl, Except.ok.inj h⟩
    | cons input inputs ih =>
        cases hresponse : (respond language reporter execute state input).outcome with
        | error other =>
            rw [converse.eq_1 _ _ _ _ _ _ other hresponse] at h
            cases h
        | ok next =>
            obtain next | after := next
            · rw [converse_of_more hresponse] at h
              obtain ⟨front, back, last, rfl, harrives, hend, henv⟩ := ih h
              exact ⟨input :: front, back, last, rfl, .cons hresponse harrives, hend, henv⟩
            · rw [converse.eq_2 _ _ _ _ _ _ after hresponse] at h
              obtain ⟨rfl, rfl⟩ := respond_eq_over_iff.mp hresponse
              exact ⟨[], _, state, rfl, .nil, rfl, Except.ok.inj h⟩
  · rintro ⟨front, back, last, rfl, harrives, hend, rfl⟩
    obtain ⟨others, houtcome⟩ := outcome_converse_of_arrives harrives events back
    rw [houtcome, converse.eq_2 _ _ _ _ _ _ last.env]
    rw [hend]
    rfl

theorem turn_of_arrives {state last next : State Env} {front : List Input} {input : Input}
    (h : Arrives language reporter execute state front last)
    (hnext : (respond language reporter execute last input).outcome = .ok (.more next))
    (events : List Event) (back : List Input) :
    (converse language reporter execute events state (front ++ input :: back)).turns[
        front.length + 1]? =
      some ⟨(respond language reporter execute last input).events, next.env,
        prompt language next⟩ := by
  induction h generalizing events with
  | nil =>
      rw [List.nil_append, converse_of_more hnext]
      exact head_turns_converse _ _ _
  | cons goesOn _ ih =>
      rw [List.cons_append, converse_of_more goesOn]
      exact ih hnext _

theorem Arrives.concat {state last next : State Env} {front : List Input} {input : Input}
    (h : Arrives language reporter execute state front last)
    (hnext : (respond language reporter execute last input).outcome = .ok (.more next)) :
    Arrives language reporter execute state (front ++ [input]) next := by
  induction h with
  | nil => exact .cons hnext .nil
  | cons goesOn _ ih => exact .cons goesOn (ih hnext)

theorem visit_eq (platform : Platform) (env : Env) (inputs : List Input) {name : String}
    (hname : language.name = some name) :
    visit language platform reporter execute env inputs =
      converse language reporter execute (greet language platform).events { env } inputs := by
  have hgreet : (greet language platform).outcome = .ok () := by simp [greet, hname]
  simp only [visit, hgreet]

end LanguageShell.Shell

import LanguageShell.Proofs.Calculator.Canonical
import LanguageShell.Proofs.Calculator.Noninterference
import LanguageShell.Proofs.Survival

/-!
Bindings that can be referred to. A name gets a binding from a definition that is parsed, so it is
a name of the grammar, and no keyword, since a definition does not begin with one. No command takes
a binding away, and after one that fails the bindings are those from before. So at every point of a
session the bound names can be used, and they stay bound from then on.
-/

namespace LanguageShell.Calculator

open Shell

/-! ### Environments -/

namespace Env

theorem find?_cons (name : String) (v : Value) (rest : Env) (other : String) :
    find? ((name, v) :: rest) other = if other = name then some v else rest.find? other := by
  unfold find?
  rw [List.lookup_cons]
  split <;> split <;> simp_all

theorem find?_insert (env : Env) (name : String) (v : Value) (other : String) :
    (env.insert name v).find? other = if other = name then some v else env.find? other := by
  induction env with
  | nil => exact find?_cons name v [] other
  | cons first rest ih =>
      obtain ⟨known, old⟩ := first
      rw [insert]
      split
      · rename_i hsame
        subst hsame
        rw [find?_cons, find?_cons]
        split <;> rfl
      · rename_i hdiffers
        rw [find?_cons, find?_cons, ih]
        split
        · rename_i hother
          rw [if_neg (hother ▸ hdiffers)]
        · rfl

def Binds (env : Env) (name : String) : Prop :=
  ∃ v, env.find? name = some v

theorem Binds.insert {env : Env} {name : String} (h : env.Binds name) (other : String)
    (v : Value) : (env.insert other v).Binds name := by
  obtain ⟨old, hold⟩ := h
  rw [Binds, find?_insert]
  split
  · exact ⟨v, rfl⟩
  · exact ⟨old, hold⟩

end Env

/-! ### Names that are defined -/

/-- Whether the name is one of the grammar and not a keyword. -/
def IsReferable (name : String) : Prop :=
  Pattern.name.regex.Matches name.toList ∧ ∀ k : Keyword, name.toList ≠ k.spelling

theorem isReferable_of_parse {entry : Entry} {source : Source} {commands : List (Command Place)}
    (h : parse entry source = .ok commands) {name : String} {e : Expr} {place : Place}
    (hmem : .define name e place ∈ commands) : IsReferable name := by
  obtain ⟨analysis, hreadable, rfl⟩ := parse_eq_ok_iff.mp h
  have hshape := List.mem_map_of_mem (f := Command.map fun _ => ()) hmem
  rw [analysis.map_commands] at hshape
  obtain ⟨sentence, hsentence, hsame⟩ := List.mem_map.mp hshape
  cases sentence with
  | define text mark assign expr stop =>
      obtain rfl : String.ofList text = name := (Command.define.inj hsame).1
      rw [IsReferable, String.toList_ofList]
      have htoken : Token.name text ∈ tokensOf (yieldAll analysis.sentences) := by
        simp only [tokensOf, yieldAll, List.map_flatMap, List.mem_flatMap]
        exact ⟨_, hsentence, List.mem_cons_self⟩
      have hproper := ((interprets_iff analysis.derives).mp analysis.interprets).2 _ hsentence
      refine ⟨(analysis.isGenuine hreadable _ htoken).name, ?_⟩
      -- A definition whose name is a keyword would begin with that keyword.
      rintro k rfl
      exact hproper _ rfl ⟨k, rfl⟩
  | eval | display | load | listing | help => cases hsame

theorem IsReferable.exists_parseSingle {name : String} (h : IsReferable name) (filename : String) :
    ∃ place note, parseSingle (.ofString (name ++ ";") filename) =
      .ok (.eval (.var name place) note) := by
  obtain ⟨hname, hkeyword⟩ := h
  let phrase : Phrase Unit .sum := .ofProduct (.ofUnary (.ofAtom (.name name.toList ())))
  have hlexes : Lexes name.toList (tokensOf phrase.yield) := lexes_name hname
  have hsource : (Source.ofString (name ++ ";") filename).text = name.toList ++ [';'] := by
    simp [Source.ofString]
  obtain ⟨command, hparse, hshape⟩ := (parseSingle_eval_iff hlexes hsource).mpr (by
    rw [hlexes.beginsWithKeyword_iff]
    rintro ⟨k, hk⟩
    exact hkeyword k (Token.name.inj (Option.some.inj hk)))
  rw [show phrase.shape = .var name () from congrArg (Term.var · ()) String.ofList_toList] at hshape
  cases command with
  | eval e note =>
      cases e with
      | var other place =>
          obtain ⟨hvar, -⟩ := Command.eval.inj hshape
          obtain rfl : other = name := (Term.var.inj hvar).1
          exact ⟨place, note, hparse⟩
      | num | neg | bin | foreign => cases hshape
  | define | display | load | listing | help => cases hshape

/-! ### Commands and loads -/

/-- Whether all bound names can be referred to, and the given names are among them. -/
structure Env.Keeps (names : String → Prop) (env : Env) : Prop where
  referable : ∀ binding ∈ env, IsReferable binding.1
  bound : ∀ name, names name → env.Binds name

variable {setup : Setup} {tree : FileTree} {names : String → Prop}

theorem Env.Keeps.insert {env : Env} (h : env.Keeps names) {name : String}
    (hname : IsReferable name) (v : Value) : (env.insert name v).Keeps names where
  referable binding hmem := by
    rcases mem_insert hmem with rfl | hold
    · exact hname
    · exact h.referable binding hold
  bound other hother := (h.bound other hother).insert name v

theorem keeps_of_execute {use : Env → FileEntry → Trace Env} {interactive : Bool} {env next : Env}
    {command : Command Place} (henv : env.Keeps names) {commands : List (Command Place)}
    {entry : Entry} {source : Source} (hparse : parse entry source = .ok commands)
    (hmem : command ∈ commands) (hload : command.IsLoad = false)
    (h : (execute setup use interactive env command).outcome = .ok next) : next.Keeps names := by
  have hnext := env_of_execute hload h
  cases command with
  | load => cases hload
  | define name e place =>
      obtain ⟨v, -, rfl⟩ := hnext
      exact henv.insert (isReferable_of_parse hparse hmem) v
  | eval | display | listing | help =>
      obtain rfl : next = env := hnext
      exact henv

theorem keeps_run {request : Request} (henv : request.env.Keeps names) {next : Env}
    (h : (request.run setup tree).outcome = .ok next) : next.Keeps names := by
  refine invariant_run henv ?_ h
  rintro use interactive env command next ⟨_, inner, front, back, -, -, hcontents, -⟩ hload hbefore
    hexecute
  obtain ⟨source, hparse⟩ := exists_parse_of_contents hcontents
  exact keeps_of_execute hbefore hparse (by simp) hload hexecute

theorem keeps_of_command {inProgress : List RealPath} {interactive : Bool} {env next : Env}
    {command : Command Place} (henv : env.Keeps names) {commands : List (Command Place)}
    {entry : Entry} {source : Source} (hparse : parse entry source = .ok commands)
    (hmem : command ∈ commands)
    (h : (execute setup (language.load setup tree inProgress) interactive env command).outcome =
      .ok next) : next.Keeps names := by
  obtain hload | ⟨path, place, rfl⟩ := command.isLoad_cases
  · exact keeps_of_execute henv hparse hmem hload h
  · let request : Request := ⟨inProgress, env, ⟨path, false⟩⟩
    have hstart : request.env.Keeps names := henv
    exact keeps_run hstart h

/-- While a load runs, each command is executed with such bindings. -/
theorem keeps_of_performs {request : Request} (henv : request.env.Keeps names) {later : Env}
    {command : Command Place} (h : request.Performs setup tree later command) :
    later.Keeps names := by
  obtain ⟨_, inner, front, back, hreaches, -, hcontents, hlater⟩ := h
  -- The first commands of a file lead from bindings that can be referred to to others.
  have hperform : ∀ {request : Request} {front back : List (Command Place)} {after : Env},
      request.env.Keeps names → contents tree request.entry.path = .ok (front ++ back) →
      (request.perform setup tree front).outcome = .ok after → after.Keeps names := by
    intro request front back after hstart hcontents hafter
    obtain ⟨source, hparse⟩ := exists_parse_of_contents hcontents
    refine invariant_foldlM hstart ?_ hafter
    rintro first command rest middle next rfl - hmiddle hexecute
    exact keeps_of_command hmiddle hparse (by simp) hexecute
  refine hperform ?_ hcontents hlater
  clear hlater hcontents
  induction hreaches with
  | refl => exact henv
  | tail _ executes ih =>
      obtain ⟨-, hreadable, hbefore⟩ := executes
      exact hperform ih hreadable hbefore

/-! ### Sessions -/

namespace Session

/-- The session after some steps. -/
def after (session : Session) (steps : List Step) : Session :=
  steps.foldl (fun session step => (session.step step).2) session

@[simp] theorem after_nil (session : Session) : session.after [] = session := rfl

@[simp] theorem after_cons (session : Session) (step : Step) (steps : List Step) :
    session.after (step :: steps) = (session.step step).2.after steps := rfl

theorem after_append (session : Session) (front back : List Step) :
    session.after (front ++ back) = (session.after front).after back :=
  List.foldl_append

theorem settle_eq (session : Session) (trace : Trace Env) :
    (step.settle session trace).2 = match trace.outcome with
      | .ok env => { session with env }
      | .error _ => session :=
  rfl

theorem keeps_settle {session : Session} (h : session.env.Keeps names) {trace : Trace Env}
    (htrace : ∀ next, trace.outcome = .ok next → next.Keeps names) :
    (step.settle session trace).2.env.Keeps names := by
  rw [settle_eq]
  split
  · rename_i next houtcome
    exact htrace next houtcome
  · exact h

theorem keeps_step {session : Session} (h : session.env.Keeps names) (step : Step) :
    (session.step step).2.env.Keeps names := by
  cases step with
  | exec text interactive =>
      refine keeps_settle h fun next hnext => ?_
      obtain ⟨command, hparse, hexecute⟩ := Trace.outcome_bind_eq_ok.mp hnext
      have hall : parse .single (.ofString text) = .ok [command] :=
        parse_eq_ok_iff.mpr (parseSingle_eq_ok_iff.mp (mapError_eq_ok.mp hparse))
      exact keeps_of_command h hall (List.mem_singleton_self _) hexecute
  | load path interactive =>
      let request : Request := ⟨[], session.env, ⟨path, interactive⟩⟩
      have hstart : request.env.Keeps names := h
      exact keeps_settle h fun next hnext => keeps_run hstart hnext
  | write | configure | foreign => exact h

theorem keeps_after {session : Session} (h : session.env.Keeps names) (steps : List Step) :
    (session.after steps).env.Keeps names := by
  induction steps generalizing session with
  | nil => exact h
  | cons step steps ih => exact ih (keeps_step h step)

theorem step_exec_of_error (session : Session) {text : String} {failure : Failure}
    (h : Parser.located parseSingle (.ofString text) = .error failure) (interactive : Bool) :
    (session.step (.exec text interactive)).2 = session := by
  show (step.settle session (Trace.ofExcept (Parser.located parseSingle (.ofString text)) >>= fun
    command => execute session.setup _ interactive session.env command)).2 = session
  rw [h]
  rfl

theorem step_exec_of_parsed {session : Session} {text : String} {command : Command Place}
    (h : parseSingle (.ofString text) = .ok command) (hload : command.IsLoad = false)
    {interactive : Bool}
    (hshown : ∀ fault, ¬command.CannotShow session.setup interactive session.env fault) :
    (session.step (.exec text interactive)).2 = match command.effect session.env with
      | .ok env => { session with env }
      | .error _ => session := by
  show (step.settle session (Trace.ofExcept (Parser.located parseSingle (.ofString text)) >>= fun
    command => execute session.setup _ interactive session.env command)).2 = _
  have hlocated : Parser.located parseSingle (.ofString text) = .ok command :=
    mapError_eq_ok.mpr h
  rw [hlocated, Trace.bind_of_ok rfl, settle_eq]
  simp only [outcome_execute_eq_effect hshown hload]

theorem exists_after_of_respond {session : Session} {reporter : Reporter}
    {state next : State Env} {input : Input}
    (h : (respond language reporter (language.execute session.setup
      (language.useFile session.setup session.files) true) state input).outcome =
        .ok (.more next)) :
    ∃ steps, ({ session with env := state.env } : Session).after steps =
      { session with env := next.env } := by
  cases input with
  | endOfInput => cases h
  | interrupt =>
      obtain rfl := Shell.Next.more.inj (Except.ok.inj h)
      exact ⟨[], rfl⟩
  | line line =>
      by_cases hcompletes : Completes language state line
      · let shell := language.execute session.setup
          (language.useFile session.setup session.files) true
        refine ⟨[.exec (state.textWith line ++ "\n") true], ?_⟩
        have hstep : ({ session with env := state.env } : Session).step
            (.exec (state.textWith line ++ "\n") true) =
              step.settle { session with env := state.env } (attempt language shell state line) :=
          rfl
        rw [after_cons, after_nil, hstep, settle_eq]
        rw [respond_of_completes hcompletes] at h
        cases houtcome : (attempt language shell state line).outcome with
        | ok env =>
            rw [houtcome] at h
            obtain rfl := Shell.Next.more.inj (Except.ok.inj h)
            rfl
        | error failure =>
            rw [houtcome] at h
            cases failure with
            | fault => cases h
            | diagnostic | interrupted =>
                obtain rfl := Shell.Next.more.inj (Except.ok.inj h)
                rfl
      · rw [respond_of_more hcompletes] at h
        obtain rfl := Shell.Next.more.inj (Except.ok.inj h)
        exact ⟨[], rfl⟩

/-- The shell leads nowhere but steps of the session do. -/
theorem exists_after_of_arrives {session : Session} {reporter : Reporter}
    {state last : State Env} {inputs : List Input}
    (h : Arrives language reporter (language.execute session.setup
      (language.useFile session.setup session.files) true) state inputs last) :
    ∃ steps, ({ session with env := state.env } : Session).after steps =
      { session with env := last.env } := by
  induction h with
  | nil => exact ⟨[], rfl⟩
  | cons goesOn _ ih =>
      obtain ⟨first, hfirst⟩ := exists_after_of_respond goesOn
      obtain ⟨others, hothers⟩ := ih
      exact ⟨first ++ others, by rw [after_append, hfirst, hothers]⟩

end Session

/-- Every binding can be referred to. After any steps from the empty environment, failing ones
included, each bound name is one of the grammar and no keyword, and its text with a semicolon is
parsed as a reference to it, which is checked and has the bound value. Names that are bound stay
bound, whatever the later steps are, also while a file is loaded; and the environments in the shell
are those after steps. -/
theorem bindings_can_be_referred_to (setup : Setup) (files : FileTree)
    (steps : List Session.Step) :
    let session := Session.after ⟨setup, files, language.initial⟩ steps
    (∀ name value, session.env.find? name = some value →
      IsReferable name ∧ ∀ filename, ∃ place note,
        parseSingle (.ofString (name ++ ";") filename) = .ok (.eval (.var name place) note) ∧
        (Term.var name place : Expr).check session.env = .ok () ∧
        (Term.var name place : Expr).evaluate session.env = .ok value) ∧
    (∀ name, session.env.Binds name →
      (∀ more, (session.after more).env.Binds name) ∧
      ∀ entry later command,
        (Request.mk [] session.env entry).Performs session.setup session.files later command →
          later.Binds name) ∧
    ∀ reporter inputs state,
      Arrives language reporter (language.execute session.setup
        (language.useFile session.setup session.files) true) { env := session.env } inputs state →
      ∃ more, session.after more = { session with env := state.env } := by
  intro session
  have hempty : Env.Keeps (fun _ => False) language.initial := ⟨by rintro _ ⟨⟩, by rintro _ ⟨⟩⟩
  have hsession : session.env.Keeps fun _ => False := Session.keeps_after hempty steps
  refine ⟨?_, ?_, fun _ _ _ => Session.exists_after_of_arrives⟩
  · intro name value hfind
    have hname := hsession.referable _ (Env.mem_of_find? hfind)
    refine ⟨hname, fun filename => ?_⟩
    obtain ⟨place, note, hparse⟩ := hname.exists_parseSingle filename
    refine ⟨place, note, hparse, ?_, ?_⟩
    · rw [Term.check, hfind]
      rfl
    · rw [Term.evaluate, hfind]
  · intro name hbinds
    have hkeeps : session.env.Keeps (· = name) := ⟨hsession.referable, by rintro _ rfl; exact hbinds⟩
    refine ⟨fun more => (Session.keeps_after hkeeps more).bound name rfl, ?_⟩
    intro entry later command hperforms
    let request : Request := ⟨[], session.env, entry⟩
    have hstart : request.env.Keeps (· = name) := hkeeps
    exact (keeps_of_performs hstart hperforms).bound name rfl

/-- A binding, and then a text that is no definition of a keyword. -/
theorem binding_can_be_referred_to_after_failure :
    let steps : List Session.Step := [.exec "shows := 1 / 2;" false, .exec "show := 1;" true]
    let session := Session.after ⟨{}, {}, language.initial⟩ steps
    session.env.find? "shows" = some (.fraction (1 / 2)) ∧ IsReferable "shows" ∧
      (session.after [.exec "shows := 2;" true]).env.Binds "shows" := by
  intro steps session
  obtain ⟨e, place, hparse, hchecked, hvalue⟩ : ∃ e place,
      parseSingle (.ofString "shows := 1 / 2;") = .ok (.define "shows" e place) ∧
        e.check [] = .ok () ∧ e.evaluate [] = .ok (.fraction (1 / 2)) :=
    ⟨_, _, by cbv, rfl, by cbv⟩
  obtain ⟨failure, hfails⟩ : ∃ failure,
      Parser.located parseSingle (.ofString "show := 1;") = .error failure :=
    ⟨_, by cbv⟩
  have hsession : session = ⟨{}, {}, [("shows", .fraction (1 / 2))]⟩ := by
    have hshown : ∀ fault, ¬(Command.define "shows" e place).CannotShow {} false [] fault := by
      rintro fault ⟨⟨⟩, -⟩
    have hcomputed : e.computed language.initial = .ok (.fraction (1 / 2)) := by
      rw [← outcome_compute_eq {}, outcome_compute _ _ (produced_of_parseSingle _ hparse rfl)]
      show (e.check [] >>= fun _ => e.evaluate []) = _
      rw [hchecked, ← hvalue]
      rfl
    show Session.after _ [_, _] = _
    rw [Session.after_cons, Session.step_exec_of_parsed hparse rfl hshown, Command.effect,
      hcomputed]
    exact Session.step_exec_of_error _ hfails true
  have hfind : session.env.find? "shows" = some (.fraction (1 / 2)) := by
    rw [hsession]
    rfl
  obtain ⟨hreferable, hbound, -⟩ := bindings_can_be_referred_to {} {} steps
  exact ⟨hfind, (hreferable "shows" _ hfind).1, (hbound "shows" ⟨_, hfind⟩).1 _⟩

end LanguageShell.Calculator

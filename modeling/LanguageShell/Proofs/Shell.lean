import LanguageShell.Proofs.Lines
import LanguageShell.Proofs.Report

/-!
What the shell makes of lines. It cuts them into the texts of commands, whatever the commands do,
and runs these texts one after another. Prompts apart, a visit to the shell is the greeting, these
runs, and a blank line at the end of the input; only a failure that the shell does not recover from
ends it before.
-/

namespace LanguageShell.Shell

variable {Env Cmd : Type} (language : Language Env Cmd)

def collect (collected : Option String) (line : String) : String :=
  (⟨(), collected⟩ : State Unit).textWith line

/-- The texts of the commands that are read from lines, after those that are collected. -/
def texts (collected : Option String) : List String → List String
  | [] => []
  | line :: lines =>
    let text := collect collected line
    if language.readsMore text then texts (some text) lines else text :: texts none lines

/-! ### Visits -/

section Visits

variable (reporter : Reporter) (execute : Env → Cmd → Trace Env)

def runAll {α : Type} (run : Env → α → Trace Env) (env : Env) (commands : List α) : Trace Env :=
  commands.foldlM (fun env command => recover reporter env (run env command)) env

def farewell (env : Env) : Trace Env := do
  Trace.printLine ""
  return env

theorem runAll_cons {α : Type} (run : Env → α → Trace Env) (env : Env) (command : α)
    (commands : List α) : runAll reporter run env (command :: commands) =
      recover reporter env (run env command) >>= fun env => runAll reporter run env commands :=
  List.foldlM_cons

theorem written_turn (turn : Turn Env) (visit : Visit Env) :
    (Visit.trace { visit with turns := turn :: visit.turns }).written =
      (⟨turn.events, .ok ()⟩ >>= fun _ => visit.trace).written := by
  simp [Visit.trace, Trace.bind_of_ok, Trace.written, Event.IsWritten]

/-- After a response the shell goes on with the state that it left, or fails with it. -/
theorem written_converse_cons (events : List Event) (state : State Env) (input : Input)
    (inputs : List Input) (response : Trace (State Env)) (after : State Env → Trace Env)
    (hresponse : respond language reporter execute state input =
      response >>= fun next => return .more next)
    (hrest : ∀ events next, (converse language reporter execute events next inputs).trace.written =
      (⟨events, .ok ()⟩ >>= fun _ => after next).written) :
    (converse language reporter execute events state (input :: inputs)).trace.written =
      (⟨events, .ok ()⟩ >>= fun _ => response >>= after).written := by
  obtain ⟨others, failure | next⟩ := response
  · have hfailed : respond language reporter execute state input = ⟨others, .error failure⟩ :=
      hresponse
    rw [converse.eq_1 _ _ _ _ _ _ failure (congrArg Trace.outcome hfailed), List.head?_cons,
      Option.getD_some, hfailed]
    exact written_turn ⟨events, _, _⟩ ⟨[], others, .error failure⟩
  · have hdone : respond language reporter execute state input = ⟨others, .ok (.more next)⟩ := by
      rw [hresponse, Trace.bind_of_ok rfl, Trace.pure_eq, List.append_nil]
    rw [converse.eq_3 _ _ _ _ _ next _ _ (congrArg Trace.outcome hdone), List.head?_cons,
      Option.getD_some, hdone, written_turn, Trace.written_bind, Trace.written_bind]
    simp only [hrest]
    rfl

theorem written_converse (events : List Event) (state : State Env) (lines : List String) :
    (converse language reporter execute events state (lines.map .line)).trace.written =
      (⟨events, .ok ()⟩ >>= fun _ => runAll reporter (runCommand language execute) state.env
        (texts language state.collected lines) >>= farewell).written := by
  induction lines generalizing events state with
  | nil =>
      have hover : respond language reporter execute state .endOfInput =
          ⟨[.printed "\n"], .ok (.over state.env)⟩ := rfl
      rw [List.map_nil, converse.eq_2 _ _ _ _ _ _ state.env (congrArg Trace.outcome hover)]
      exact written_turn ⟨events, _, _⟩ ⟨[], [.printed "\n"], .ok state.env⟩
  | cons line lines ih =>
      have hcollect : state.textWith line = collect state.collected line := rfl
      rw [List.map_cons, texts]
      by_cases hmore : language.readsMore (collect state.collected line) = true
      · have hrest := written_converse_cons language reporter execute events state (.line line)
          (lines.map .line) (pure { state with collected := some (collect state.collected line) })
          (fun next => runAll reporter (runCommand language execute) next.env
            (texts language next.collected lines) >>= farewell)
          (by simp [respond, hcollect, hmore]) ih
        simpa [hmore] using hrest
      · have hrest := written_converse_cons language reporter execute events state (.line line)
          (lines.map .line)
          (do
            let env ← recover reporter state.env
              (runCommand language execute state.env (collect state.collected line))
            return { env })
          (fun next => runAll reporter (runCommand language execute) next.env
            (texts language next.collected lines) >>= farewell)
          (by simp [respond, hcollect, hmore]) ih
        simpa [hmore, runAll_cons] using hrest

theorem written_visit (platform : Platform) (env : Env) (lines : List String) {name : String}
    (hname : language.name = some name) :
    (visit language platform reporter execute env (lines.map .line)).trace.written =
      (greet language platform >>= fun _ => runAll reporter (runCommand language execute) env
        (texts language none lines) >>= farewell).written := by
  have hgreet : (greet language platform).outcome = .ok () := by simp [greet, hname]
  simp only [visit, hgreet, written_converse]
  rw [Trace.bind_of_ok hgreet, Trace.bind_of_ok rfl]

theorem runCommand_of_ok {text : String} {command : Cmd}
    (h : Parser.located language.parseCommand (commandSource text) = .ok command) (env : Env) :
    runCommand language execute env text = execute env command := by
  rw [runCommand, h]
  rfl

theorem runAll_texts {texts : List String} {commands : List Cmd}
    (h : texts.map (fun text => Parser.located language.parseCommand (commandSource text)) =
      commands.map .ok) (env : Env) :
    runAll reporter (runCommand language execute) env texts =
      runAll reporter execute env commands := by
  induction texts generalizing commands env with
  | nil =>
      obtain rfl := List.map_eq_nil_iff.mp h.symm
      rfl
  | cons text texts ih =>
      obtain ⟨command, others, rfl, htext, hrest⟩ := List.map_eq_cons_iff.mp h.symm
      rw [runAll_cons, runAll_cons, runCommand_of_ok language execute htext.symm]
      simp only [ih hrest.symm]

theorem recover_of_not_parsed {text : String} {diagnostic : Diagnostic}
    (h : Parser.located language.parseCommand (commandSource text) =
      .error (.diagnostic diagnostic))
    (env : Env) : recover reporter env (runCommand language execute env text) =
      reporter.diagnostic diagnostic >>= fun _ => pure env := by
  have hrun : runCommand language execute env text = .fail (.diagnostic diagnostic) := by
    rw [runCommand, h]
    rfl
  rw [hrun]
  rfl

theorem errorsOf_visit_ne {line : String} (lines : List String) {diagnostic : Diagnostic}
    (hname : language.name.isSome) (hshows : reporter.Shows 1)
    (hmore : language.readsMore line = false)
    (h : Parser.located language.parseCommand (commandSource line) =
      .error (.diagnostic diagnostic))
    (platform : Platform) (env : Env) :
    errorsOf (visit language platform reporter execute env
      ((line :: lines).map .line)).trace.events ≠ "" := by
  obtain ⟨name, hname⟩ := Option.isSome_iff_exists.mp hname
  have hgreet : (greet language platform).outcome = .ok () := by simp [greet, hname]
  have htexts : texts language none (line :: lines) = line :: texts language none lines :=
    if_neg (by simpa [collect, State.textWith] using hmore)
  have hvisit := written_visit language reporter execute platform env (line :: lines) hname
  rw [(Trace.agree_of_written hvisit).2.2, htexts, runAll_cons,
    recover_of_not_parsed language reporter execute h, Trace.bind_of_ok hgreet]
  simp only [bind_assoc]
  obtain ⟨others, hevents⟩ := Trace.exists_events_bind (reporter.diagnostic diagnostic) fun _ =>
    pure env >>= fun env => runAll reporter (runCommand language execute) env
      (texts language none lines) >>= farewell
  rw [hevents, errorsOf_append, errorsOf_append]
  intro hempty
  have hlength := congrArg String.length hempty
  simp only [String.length_append, String.length_empty, Nat.add_eq_zero_iff] at hlength
  exact Reporter.errorsOf_diagnostic_ne hshows diagnostic (String.length_eq_zero_iff.mp hlength.2.1)

theorem length_turns_visit_of_fault {line : String} (inputs : List Input) {fault : Fault}
    (platform : Platform) {env : Env} (hname : language.name.isSome)
    (hmore : language.readsMore line = false)
    (h : (runCommand language execute env line).outcome = .error (.fault fault)) :
    (visit language platform reporter execute env (.line line :: inputs)).turns.length = 1 := by
  obtain ⟨name, hname⟩ := Option.isSome_iff_exists.mp hname
  have hgreet : (greet language platform).outcome = .ok () := by simp [greet, hname]
  have hrespond : (respond language reporter execute { env } (.line line)).outcome =
      .error (.fault fault) := by
    have hrecover : recover reporter env (runCommand language execute env line) =
        runCommand language execute env line := by
      rw [recover, h]
    have hcollect : State.textWith ⟨env, none⟩ line = line := rfl
    rw [respond, hcollect]
    simp only [hmore, Bool.false_eq_true, if_false, hrecover]
    rw [Trace.bind_of_error h]
  simp only [visit, hgreet]
  rw [converse.eq_1 _ _ _ _ _ _ _ hrespond]
  rfl

theorem runAll_of_ok {α : Type} {run : Env → α → Trace Env} {env after : Env} {commands : List α}
    (h : (commands.foldlM run env).outcome = .ok after) :
    runAll reporter run env commands = commands.foldlM run env := by
  induction commands generalizing env with
  | nil => rfl
  | cons command commands ih =>
      rw [List.foldlM_cons] at h ⊢
      obtain ⟨next, hnext, hrest⟩ := Trace.outcome_bind_eq_ok.mp h
      rw [runAll_cons, recover, hnext, Trace.bind_of_ok hnext, Trace.bind_of_ok hnext, ih hrest]

end Visits

/-! ### The texts of commands -/

def pending : Option String → List Char
  | none => []
  | some text => text.toList ++ ['\n']

theorem toList_collect (collected : Option String) (line : String) :
    (collect collected line).toList = pending collected ++ line.toList := by
  cases collected with
  | none => rfl
  | some text => simp [collect, State.textWith, pending]

/-- Whether commands end nowhere in the text before a newline. -/
def StaysOpen (text : List Char) : Prop :=
  ∀ front back, text = front ++ '\n' :: back → language.readsMore (String.ofList front) = true

/-- Whether the text, cut after the first newline before which a command ends, and the rest of it
in the same way, gives the pieces. -/
inductive Cuts : List Char → List (List Char) → Prop where
  | rest {text : List Char} (unfinished : StaysOpen language text) : Cuts text []
  | piece {piece text : List Char} {pieces : List (List Char)}
      (unfinished : StaysOpen language piece)
      (finished : language.readsMore (String.ofList piece) = false)
      (tail : Cuts text pieces) : Cuts (piece ++ '\n' :: text) (piece :: pieces)

variable {language}

theorem texts_of_staysOpen {collected : Option String} {lines : List String}
    (h : StaysOpen language (pending collected ++ textOfLines lines)) :
    texts language collected lines = [] := by
  induction lines generalizing collected with
  | nil => rfl
  | cons line lines ih =>
      have htext : pending collected ++ textOfLines (line :: lines) =
          pending (some (collect collected line)) ++ textOfLines lines := by
        simp [textOfLines, pending, toList_collect]
      have hmore : language.readsMore (collect collected line) = true := by
        rw [← String.ofList_toList (s := collect collected line), toList_collect]
        exact h _ (textOfLines lines) (by simp [textOfLines])
      rw [texts, if_pos hmore]
      exact ih (htext ▸ h)

/-- Lines that begin with the rest of a piece are read as that piece and then as the rest. -/
theorem texts_of_piece (collected : Option String) {lines : List String}
    {piece text : List Char} (hlines : ∀ line ∈ lines, '\n' ∉ line.toList)
    (htext : pending collected ++ textOfLines lines = piece ++ '\n' :: text)
    (hpending : (pending collected).length ≤ piece.length)
    (unfinished : StaysOpen language piece)
    (finished : language.readsMore (String.ofList piece) = false) :
    ∃ others, texts language collected lines = String.ofList piece :: texts language none others ∧
      (∀ line ∈ others, '\n' ∉ line.toList) ∧ textOfLines others = text := by
  induction lines generalizing collected with
  | nil =>
      have hlength := congrArg List.length htext
      simp only [textOfLines, List.flatMap_nil, List.append_nil, List.length_append,
        List.length_cons] at hlength
      omega
  | cons line lines ih =>
      have hnext : (pending collected ++ line.toList) ++ '\n' :: textOfLines lines =
          piece ++ '\n' :: text := by
        rw [← htext]
        simp [textOfLines]
      have hcollect : collect collected line =
          String.ofList (pending collected ++ line.toList) := by
        rw [← toList_collect, String.ofList_toList]
      by_cases hpiece : pending collected ++ line.toList = piece
      · obtain rfl : textOfLines lines = text := by simpa [hpiece] using hnext
        refine ⟨lines, ?_, fun other hother => hlines other (by simp [hother]), rfl⟩
        rw [texts, if_neg (by simp [hcollect, hpiece, finished]), hcollect, hpiece]
      obtain ⟨back, hback, hrest⟩ | ⟨back, hback, hrest⟩ := List.append_eq_append_iff.mp hnext
      · cases back with
        | nil => exact absurd (hback.trans (List.append_nil _)).symm hpiece
        | cons c back =>
            obtain rfl : '\n' = c := (List.cons.inj hrest).1
            have hmore : language.readsMore (collect collected line) = true :=
              hcollect ▸ unfinished _ back hback
            rw [texts, if_pos hmore]
            refine ih _ (fun other hother => hlines other (by simp [hother])) ?_ ?_
            · rw [← hnext]
              simp [pending, toList_collect]
            · rw [hback]
              simp [pending, toList_collect]
      · -- Else the newline after the piece would stand in the line.
        have hstart : pending collected <+: piece :=
          List.prefix_of_prefix_length_le ⟨line.toList, rfl⟩ ⟨back, hback.symm⟩ hpending
        obtain ⟨front, rfl⟩ := hstart
        have hline : line.toList = front ++ back := by simpa using hback
        cases back with
        | nil => exact absurd (hback.trans (List.append_nil _)) hpiece
        | cons c back =>
            obtain rfl : '\n' = c := (List.cons.inj hrest).1
            have hmem : '\n' ∈ line.toList := hline ▸ List.mem_append_right _ List.mem_cons_self
            exact absurd hmem (hlines line (by simp))

theorem exists_first_piece {front back : List Char}
    (h : language.readsMore (String.ofList front) = false) :
    ∃ piece rest, front ++ '\n' :: back = piece ++ '\n' :: rest ∧ StaysOpen language piece ∧
      language.readsMore (String.ofList piece) = false := by
  induction hlength : front.length using Nat.strong_induction_on generalizing front back with
  | _ n ih =>
      by_cases hopen : StaysOpen language front
      · exact ⟨front, back, rfl, hopen, h⟩
      · obtain ⟨shorter, others, rfl, hfinished⟩ : ∃ shorter others,
            front = shorter ++ '\n' :: others ∧
              language.readsMore (String.ofList shorter) = false := by
          simpa [StaysOpen] using hopen
        have hless : shorter.length < n := by
          rw [← hlength, List.length_append, List.length_cons]
          omega
        rw [List.append_assoc, List.cons_append]
        exact ih _ hless hfinished rfl

theorem written_visit_of_piece {lines : List String} {piece rest : List Char}
    (hlines : ∀ line ∈ lines, '\n' ∉ line.toList)
    (htext : textOfLines lines = piece ++ '\n' :: rest) (unfinished : StaysOpen language piece)
    (finished : language.readsMore (String.ofList piece) = false) {name : String}
    (hname : language.name = some name) :
    ∃ others, textOfLines others = rest ∧ ∀ platform reporter execute env,
      (visit language platform reporter execute env (lines.map .line)).trace.written =
        (greet language platform >>= fun _ =>
          recover reporter env (runCommand language execute env (String.ofList piece)) >>=
            fun next => (converse language reporter execute [] { env := next }
              (others.map .line)).trace).written := by
  obtain ⟨others, htexts, -, hrest⟩ :=
    texts_of_piece none hlines htext (Nat.zero_le _) unfinished finished
  refine ⟨others, hrest, fun platform reporter execute env => ?_⟩
  have hstart : (⟨[], .ok ()⟩ : Trace Unit) = pure () := rfl
  rw [written_visit language reporter execute platform env lines hname, htexts, runAll_cons]
  simp only [Trace.written_bind, written_converse, bind_assoc, hstart, pure_bind]

/-- Lines are read as the pieces into which their text is cut. -/
theorem texts_of_cuts {text : List Char} {pieces : List (List Char)}
    (h : Cuts language text pieces) {lines : List String}
    (hlines : ∀ line ∈ lines, '\n' ∉ line.toList) (htext : textOfLines lines = text) :
    texts language none lines = pieces.map String.ofList := by
  induction h generalizing lines with
  | rest unfinished => exact texts_of_staysOpen (htext ▸ unfinished)
  | piece unfinished finished _ ih =>
      obtain ⟨others, htexts, hothers, hrest⟩ :=
        texts_of_piece none hlines htext (Nat.zero_le _) unfinished finished
      rw [htexts, List.map_cons, ih hothers hrest]

end LanguageShell.Shell

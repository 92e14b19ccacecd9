import LanguageShell.Proofs.Calculator.Joined
import LanguageShell.Proofs.Calculator.WrittenNumber
import LanguageShell.Proofs.Pieces

/-!
Listings that are read back. A listing names the bindings in the order of their names. If each of
them is put on a line of its own and written as a definition, the lines are parsed one by one, and
the definitions bind the same names to the same numbers again, an integral one as an integer.
-/

namespace LanguageShell.Calculator

open Pattern

def Value.number (v : Value) : Rat :=
  v.rational?.getD 0

theorem Value.IsExact.rational?_eq {v : Value} (h : v.IsExact) : v.rational? = some v.number := by
  obtain ⟨q, hq⟩ := h
  rw [number, hq]
  rfl

/-- Whether a binding is such that it can be listed and read back: to an exact number that can be
written, and not by a keyword. -/
structure IsLegibleBinding (binding : String × Value) : Prop where
  name : Pattern.name.regex.Matches binding.1.toList
  noKeyword : ∀ k : Keyword, k.spelling ≠ binding.1.toList
  isExact : binding.2.IsExact
  isWritable : binding.2.IsWritable

namespace IsLegibleBinding

variable {binding : String × Value} (h : IsLegibleBinding binding)
include h

theorem writable : Integer.Writable binding.2.number.num.natAbs ∧
    Integer.Writable binding.2.number.den :=
  (Value.isWritable_iff_of_rational h.isExact.rational?_eq).mp h.isWritable

end IsLegibleBinding

/-! ### Listings as files -/

/-- A binding as it is listed. -/
def listedText (binding : String × Value) : List Char :=
  binding.1.toList ++ [' ', '=', ' '] ++ rationalText binding.2.number

def definedText (binding : String × Value) : List Char :=
  binding.1.toList ++ [' ', ':', '=', ' '] ++ rationalText binding.2.number ++ [';']

/-- The definitions of what is listed, one on each line. -/
def definitionsOf (listing : String) : String :=
  String.ofList (['\n'].intercalate ((Text.pieces [',', ' '] listing.toList).map fun piece =>
    Text.replace [' ', '=', ' '] [' ', ':', '=', ' '] piece ++ [';']))

theorem mapM_eq_ok {ε α β : Type} {f : α → Except ε β} {g : α → β} {items : List α}
    (h : ∀ item ∈ items, f item = .ok (g item)) : items.mapM f = .ok (items.map g) := by
  induction items with
  | nil => rfl
  | cons item items ih =>
      obtain ⟨hitem, hitems⟩ := List.forall_mem_cons.mp h
      rw [List.mapM_cons, hitem, ih hitems]
      rfl

section

variable {env : Env}

theorem toText_eq_listed (hne : env ≠ []) (h : ∀ binding ∈ env, IsLegibleBinding binding)
    (precision : Option Int) :
    env.toText precision =
      .ok (String.ofList ([',', ' '].intercalate (env.sorted.map listedText))) := by
  have hitems : env.sorted.mapM (Env.itemText precision) =
      .ok (env.sorted.map fun binding => String.ofList (listedText binding)) := by
    refine mapM_eq_ok fun binding hbinding => ?_
    have hlegible := h binding (List.mem_mergeSort.mp hbinding)
    rw [Env.itemText, Value.toText_of_rational hlegible.isExact.rational?_eq hlegible.isWritable]
    refine congrArg Except.ok (String.toList_inj.mp ?_)
    simp [listedText, toString]
  rw [Env.toText_eq hne, hitems]
  refine congrArg Except.ok (String.toList_inj.mp ?_)
  rw [String.toList_intercalate, String.toList_ofList, List.map_map]
  simp [Function.comp_def]

theorem separators_not_mem {binding : String × Value} (h : IsLegibleBinding binding) :
    (' ' ∉ binding.1.toList ∧ ' ' ∉ rationalText binding.2.number) ∧ ',' ∉ listedText binding := by
  have hname : ∀ c ∈ binding.1.toList, isNamePart c = true := isNamePart_of_mem_name h.name
  have hnumber : ∀ c ∈ rationalText binding.2.number,
      Text.isDigit c = true ∨ c = '-' ∨ c = '/' := fun _ => mem_rationalText
  have hspace : ' ' ∉ rationalText binding.2.number := fun hmem =>
    absurd (hnumber _ hmem) (by decide)
  have hcomma : ',' ∉ rationalText binding.2.number := fun hmem =>
    absurd (hnumber _ hmem) (by decide)
  have hcomma' : ',' ∉ binding.1.toList := fun hmem => absurd (hname _ hmem) (by decide)
  refine ⟨⟨fun hmem => absurd (hname _ hmem) (by decide), hspace⟩, ?_⟩
  simp [listedText, hcomma, hcomma']

theorem definitionsOf_listed (hne : env ≠ []) (h : ∀ binding ∈ env, IsLegibleBinding binding) :
    definitionsOf (String.ofList ([',', ' '].intercalate (env.map listedText))) =
      String.ofList (['\n'].intercalate (env.map definedText)) := by
  have hpieces : Text.pieces [',', ' '] ([',', ' '].intercalate (env.map listedText)) =
      env.map listedText := by
    refine Text.pieces_intercalate (by simpa using hne) (List.forall_mem_map.mpr ?_)
    exact fun binding hbinding => (separators_not_mem (h binding hbinding)).2
  rw [definitionsOf, String.toList_ofList, hpieces, List.map_map]
  congr 2
  refine List.map_congr_left fun binding hbinding => ?_
  obtain ⟨⟨hname, hnumber⟩, -⟩ := separators_not_mem (h binding hbinding)
  rw [Function.comp_apply, listedText, Text.replace_between hname hnumber, definedText]

end

/-! ### Definitions that are parsed -/

def definitionOf (binding : String × Value) : Command Unit :=
  .define binding.1 (rationalPhrase binding.2.number).shape ()

theorem wins_assign (rest : List Char) : assign.Wins [':', '='] rest := by
  refine wins_of_ne_open (by decide) ?_
  simp [length?, Regex.literalLength?]

theorem exists_splits_definition {binding : String × Value} (h : IsLegibleBinding binding) :
    ∃ words, Splits (definedText binding) words ∧
      words.filterMap Word.token? = .name binding.1.toList :: .assign ::
        (tokensOf (rationalPhrase binding.2.number).yield ++ [.semicolon]) := by
  obtain ⟨-, words, hwords, htokens⟩ := (reads_rational h.writable.1 h.writable.2).lexes.closes
  obtain ⟨c, rest, hnumber, -, hblank⟩ := exists_initial_rational binding.2.number
  have hvalue : blank.Wins [' '] (rationalText binding.2.number ++ [';']) := by
    refine wins_space fun d hd => ?_
    rw [hnumber, List.cons_append, List.head?_cons, Option.some.injEq] at hd
    rwa [← hd]
  have hsign (others : List Char) : blank.Wins [' '] ([':', '='] ++ others) := by
    refine wins_space fun d hd => ?_
    obtain rfl : ':' = d := Option.some.inj hd
    decide
  have hname (others : List Char) : name.Wins binding.1.toList ([' '] ++ others) := by
    refine wins_name h.name fun d hd => ?_
    obtain rfl : ' ' = d := Option.some.inj hd
    decide
  have htext : definedText binding = binding.1.toList ++ ([' '] ++ ([':', '='] ++ ([' '] ++
      (rationalText binding.2.number ++ [';'])))) := by
    simp [definedText]
  rw [htext, ← htokens]
  exact ⟨_, .prepend (hname _) (.prepend (hsign _)
    (.prepend (wins_assign _) (.prepend hvalue hwords))), rfl⟩

theorem exists_parse_definition {binding : String × Value} (h : IsLegibleBinding binding)
    {source : Source} (hsource : source.text = definedText binding) :
    ∃ command, parseFile source = .ok [command] ∧
      command.map (fun _ => ()) = definitionOf binding := by
  obtain ⟨words, hsplits, htokens⟩ := exists_splits_definition h
  let sentence : Sentence Unit :=
    .define binding.1.toList () () (.ofProduct (rationalPhrase binding.2.number)) ()
  have hyield : tokensOf sentence.yield = .name binding.1.toList :: .assign ::
      (tokensOf (rationalPhrase binding.2.number).yield ++ [.semicolon]) := by
    simp [sentence, Sentence.yield, Sentence.body, Phrase.yield, Terminal.spelled]
  have hmeaning : ∀ token ∈ tokensOf sentence.yield, token.HasMeaning := by
    obtain ⟨hnumber, -⟩ := reads_rational h.writable.1 h.writable.2
    simp only [hyield, List.forall_mem_cons, List.forall_mem_append]
    exact ⟨trivial, trivial, hnumber, trivial, by simp⟩
  have hproper : sentence.Proper := by
    intro leaf hleaf
    obtain rfl := Option.some.inj hleaf
    rintro ⟨k, hk⟩
    exact h.noKeyword k (Token.name.inj (Terminal.token.inj hk)).symm
  rw [← hsource] at hsplits
  obtain ⟨command, hparse, hshape⟩ :=
    exists_parse .file sentence hsplits (htokens.trans hyield.symm) hmeaning hproper
  refine ⟨command, hparse, hshape.trans ?_⟩
  rw [Sentence.shape, String.ofList_toList]
  rfl

theorem exists_parse_definitions {bindings : Env} (hne : bindings ≠ [])
    (h : ∀ binding ∈ bindings, IsLegibleBinding binding) {source : Source}
    (hsource : source.text = ['\n'].intercalate (bindings.map definedText)) :
    ∃ commands, parseFile source = .ok commands ∧
      commands.map (·.map fun _ => ()) = bindings.map definitionOf := by
  induction bindings generalizing source with
  | nil => exact absurd rfl hne
  | cons binding bindings ih =>
      obtain ⟨hbinding, hbindings⟩ := List.forall_mem_cons.mp h
      by_cases hlast : bindings = []
      · subst hlast
        have hsingle : source.text = definedText binding := by simpa using hsource
        obtain ⟨command, hparse, hshape⟩ := exists_parse_definition hbinding hsingle
        exact ⟨[command], hparse, by rw [List.map_singleton, hshape]; rfl⟩
      · let first : Source := { text := definedText binding, filename := source.filename }
        let second : Source :=
          { text := ['\n'].intercalate (bindings.map definedText), filename := source.filename }
        have hjoins : source.Joins first second := by
          refine ⟨?_, rfl, rfl⟩
          obtain ⟨next, others, rfl⟩ := List.exists_cons_of_ne_nil hlast
          simpa [first, second] using hsource
        have hfirst : first.text = definedText binding := rfl
        have hsecond : second.text = ['\n'].intercalate (bindings.map definedText) := rfl
        obtain ⟨command, hparse, hshape⟩ := exists_parse_definition hbinding hfirst
        obtain ⟨commands, hparses, hshapes⟩ := ih hlast hbindings hsecond
        refine ⟨_, hjoins.parseFile_eq_ok hparse hparses, ?_⟩
        rw [List.map_append, List.map_singleton, hshape, List.map_map, List.map_cons, ← hshapes,
          List.singleton_append]
        congr 1
        exact List.map_congr_left fun other _ => Command.map_map _ _ other

/-! ### Definitions that are executed -/

theorem Env.insert_of_not_mem {env : Env} {name : String} (h : name ∉ env.map Prod.fst)
    (value : Value) : env.insert name value = env ++ [(name, value)] := by
  induction env with
  | nil => rfl
  | cons binding env ih =>
      rw [List.map_cons, List.mem_cons, not_or] at h
      rw [insert, if_neg (Ne.symm h.1), ih h.2]
      rfl

/-- The environment with its numbers as they are read back. -/
def Env.readBack (env : Env) : Env :=
  env.map fun binding => (binding.1, Value.collapse binding.2.number)

theorem outcome_execute_definition {binding : String × Value} (h : IsLegibleBinding binding)
    {command : Command Place} (hcommand : command.map (fun _ => ()) = definitionOf binding)
    {env : Env} (hfresh : binding.1 ∉ env.map Prod.fst) (setup : Setup)
    (use : Env → FileEntry → Trace Env) (interactive : Bool) :
    (execute setup use interactive env command).outcome =
      .ok (env ++ Env.readBack [binding]) := by
  cases command with
  | eval | display | load | listing | help => cases hcommand
  | define name e place =>
      obtain ⟨rfl, he, -⟩ := Command.define.inj hcommand
      obtain ⟨hvalue, hwritable⟩ := computed_rational h.writable.1 h.writable.2 he env
      have hshown : ∀ fault,
          ¬(Command.define binding.1 e place).CannotShow setup interactive env fault := by
        rintro fault ⟨-, value, hother, hfault⟩
        obtain rfl := Except.ok.inj (hvalue.symm.trans hother)
        cases (Value.toText_of_rational (Value.rational?_collapse _) hwritable _).symm.trans hfault
      rw [outcome_execute_eq_effect hshown rfl, Command.effect, hvalue]
      exact congrArg Except.ok (Env.insert_of_not_mem hfresh _)

/-- Definitions of different names bind all of them. -/
theorem outcome_execute_definitions {bindings : Env} (hnodup : (bindings.map Prod.fst).Nodup)
    (h : ∀ binding ∈ bindings, IsLegibleBinding binding) {commands : List (Command Place)}
    (hcommands : commands.map (·.map fun _ => ()) = bindings.map definitionOf) {env : Env}
    (hfresh : ∀ name ∈ bindings.map Prod.fst, name ∉ env.map Prod.fst) (setup : Setup)
    (use : Env → FileEntry → Trace Env) (interactive : Bool) :
    (commands.foldlM (execute setup use interactive) env).outcome =
      .ok (env ++ bindings.readBack) := by
  induction bindings generalizing env commands with
  | nil =>
      obtain rfl := List.map_eq_nil_iff.mp hcommands
      simp [Env.readBack, Trace.pure_eq]
  | cons binding bindings ih =>
      obtain ⟨command, others, rfl, hcommand, hothers⟩ := List.map_eq_cons_iff.mp hcommands
      obtain ⟨hbinding, hbindings⟩ := List.forall_mem_cons.mp h
      rw [List.map_cons, List.nodup_cons] at hnodup
      rw [List.map_cons, List.forall_mem_cons] at hfresh
      have hnext : ∀ name ∈ bindings.map Prod.fst,
          name ∉ (env ++ Env.readBack [binding]).map Prod.fst := by
        intro name hname hmem
        rw [List.map_append, List.mem_append] at hmem
        obtain hmem | hmem := hmem
        · exact hfresh.2 name hname hmem
        · obtain rfl := List.mem_singleton.mp hmem
          exact hnodup.1 hname
      rw [List.foldlM_cons, Trace.outcome_bind,
        outcome_execute_definition hbinding hcommand hfresh.1]
      refine (ih hnodup.2 hbindings hothers hnext).trans ?_
      rw [List.append_assoc]
      rfl

/-! ### What is bound -/

namespace Env

theorem find?_eq_some_iff {env : Env} (h : (env.map Prod.fst).Nodup) {name : String}
    {value : Value} : env.find? name = some value ↔ (name, value) ∈ env := by
  refine ⟨mem_of_find?, fun hmem => ?_⟩
  obtain ⟨front, back, rfl⟩ := List.append_of_mem hmem
  refine List.lookup_eq_some_iff.mpr ⟨front, back, rfl, fun binding hbinding => ?_⟩
  rw [List.map_append, List.nodup_append] at h
  have hne := h.2.2 binding.1 (List.mem_map_of_mem hbinding) name (by simp)
  simpa using Ne.symm hne

theorem find?_of_perm {env other : Env} (h : (env.map Prod.fst).Nodup) (hperm : env.Perm other)
    (name : String) : env.find? name = other.find? name := by
  have hother := (hperm.map Prod.fst).nodup_iff.mp h
  refine Option.ext fun value => ?_
  rw [find?_eq_some_iff h, find?_eq_some_iff hother, hperm.mem_iff]

theorem find?_readBack (env : Env) (name : String) :
    env.readBack.find? name = (env.find? name).map fun value => .collapse value.number := by
  induction env with
  | nil => rfl
  | cons binding env ih =>
      obtain ⟨other, value⟩ := binding
      simp only [find?, readBack, List.map_cons, List.lookup] at ih ⊢
      cases name == other with
      | true => rfl
      | false => exact ih

theorem perm_sorted (env : Env) : env.sorted.Perm env :=
  List.mergeSort_perm env _

theorem pairwise_sorted {env : Env} (h : (env.map Prod.fst).Nodup) :
    (env.sorted.map Prod.fst).Pairwise (· < ·) := by
  have hordered : env.sorted.Pairwise fun first second => decide (first.1 ≤ second.1) = true := by
    refine List.pairwise_mergeSort (fun first second third hfirst hsecond => ?_)
      (fun first second => ?_) env
    · simp only [decide_eq_true_eq] at hfirst hsecond ⊢
      exact String.le_trans hfirst hsecond
    · simpa using String.le_total first.1 second.1
  have hdistinct : (env.sorted.map Prod.fst).Nodup := ((perm_sorted env).map _).nodup_iff.mpr h
  rw [List.Nodup, List.pairwise_map] at hdistinct
  rw [List.pairwise_map]
  refine (hordered.and hdistinct).imp fun hboth => ?_
  exact lt_of_le_of_ne (of_decide_eq_true hboth.1) hboth.2

end Env

def Command.binds? : Command α → Option String
  | .define bound _ _ => some bound
  | .eval .. | .display .. | .load .. | .listing .. | .help .. => none

theorem Command.binds?_map (f : α → β) (command : Command α) :
    (command.map f).binds? = command.binds? := by
  cases command <;> rfl

/-- The listing of an environment can be read back. Its names are different, none of them is a
keyword, and its values are exact numbers that can be written. Made into definitions, the listing is
parsed as one definition for each binding, in the order of the names; and these bind the same names
again to the same numbers, starting from the empty environment. -/
theorem listing_reads_back {env : Env} (hne : env ≠ []) (hnodup : (env.map Prod.fst).Nodup)
    (hlegible : ∀ binding ∈ env, IsLegibleBinding binding) (precision : Option Int)
    (filename : String) :
    ∃ (listing : String) (commands : List (Command Place)) (after : Env),
      env.toText precision = .ok listing ∧
      parseFile (.ofString (definitionsOf listing) filename) = .ok commands ∧
      (∃ names : List String, commands.map Command.binds? = names.map some ∧
        names.Pairwise (· < ·) ∧ names.Perm (env.map Prod.fst)) ∧
      (∀ setup use interactive,
        (commands.foldlM (execute setup use interactive) []).outcome = .ok after) ∧
      (after.map Prod.fst).Perm (env.map Prod.fst) ∧
      ∀ name, Option.Rel Value.Same (after.find? name) (env.find? name) := by
  have hperm := Env.perm_sorted env
  have hnames : (env.sorted.map Prod.fst).Perm (env.map Prod.fst) := hperm.map _
  have hsorted : ∀ binding ∈ env.sorted, IsLegibleBinding binding := fun binding hbinding =>
    hlegible binding (hperm.mem_iff.mp hbinding)
  have hsome : env.sorted ≠ [] := fun hnil => hne (List.nil_perm.mp (hnil ▸ hperm))
  let text := ['\n'].intercalate (env.sorted.map definedText)
  have htext : (Source.ofString (String.ofList text) filename).text = text := String.toList_ofList
  obtain ⟨commands, hparse, hshapes⟩ := exists_parse_definitions hsome hsorted htext
  refine ⟨_, commands, env.sorted.readBack, toText_eq_listed hne hlegible precision, ?_,
    ⟨env.sorted.map Prod.fst, ?_, Env.pairwise_sorted hnodup, hnames⟩, ?_, ?_, fun name => ?_⟩
  · rw [definitionsOf_listed hsome hsorted]
    exact hparse
  · have hbinds := congrArg (List.map Command.binds?) hshapes
    simp only [List.map_map, Function.comp_def, Command.binds?_map] at hbinds
    rw [hbinds, List.map_map]
    rfl
  · intro setup use interactive
    exact outcome_execute_definitions (hnames.nodup_iff.mpr hnodup) hsorted hshapes (by simp)
      setup use interactive
  · rw [Env.readBack, List.map_map]
    exact hnames
  · rw [Env.find?_readBack, Env.find?_of_perm (hnames.nodup_iff.mpr hnodup) hperm]
    cases hfind : env.find? name with
    | none => exact .none
    | some value =>
        have hexact := (hlegible _ (Env.mem_of_find? hfind)).isExact.rational?_eq
        exact .some (Value.same_of_rational (Value.rational?_collapse _) hexact)

/-- The sign and the slash of a fraction come back as operators. -/
theorem listing_of_fraction_reads_back :
    let env : Env := [("y", .fraction (-1 / 2)), ("x", .int 3)]
    env.toText none = .ok "x = 3, y = -1/2" ∧
      definitionsOf "x = 3, y = -1/2" = "x := 3;\ny := -1/2;" ∧
      ∃ commands after, parseFile (.ofString "x := 3;\ny := -1/2;" "") = .ok commands ∧
        (∀ setup use interactive,
          (commands.foldlM (execute setup use interactive) []).outcome = .ok after) ∧
        Option.Rel Value.Same (after.find? "y") (some (.fraction (-1 / 2))) := by
  intro env
  have hone : Integer.Writable 1 := writable_of_lt (by decide : 1 < 10 ^ 1) (by decide)
  have htwo : Integer.Writable 2 := writable_of_lt (by decide : 2 < 10 ^ 1) (by decide)
  have hthree : Integer.Writable 3 := writable_of_lt (by decide : 3 < 10 ^ 1) (by decide)
  have hhalf : (-1 / 2 : Rat).num = -1 ∧ (-1 / 2 : Rat).den = 2 := by norm_num
  have hy : IsLegibleBinding ("y", .fraction (-1 / 2)) := by
    refine ⟨Regex.matches_headed.mpr ⟨'y', [], rfl, by decide, by simp⟩, ?_, ⟨_, rfl⟩, ?_⟩
    · intro k
      cases k <;> simp [Keyword.spelling]
    · rw [Value.IsWritable, hhalf.1, hhalf.2]
      exact ⟨hone, htwo⟩
  have hx : IsLegibleBinding ("x", .int 3) := by
    refine ⟨Regex.matches_headed.mpr ⟨'x', [], rfl, by decide, by simp⟩, ?_, ⟨_, rfl⟩, hthree⟩
    intro k
    cases k <;> simp [Keyword.spelling]
  have hne : env ≠ [] := List.cons_ne_nil _ _
  have hlegible : ∀ binding ∈ env, IsLegibleBinding binding := by
    simpa [env] using ⟨hy, hx⟩
  have hsorted : env.sorted = [("x", .int 3), ("y", .fraction (-1 / 2))] := by cbv
  have hlisted : [',', ' '].intercalate (env.sorted.map listedText) = "x = 3, y = -1/2".toList := by
    rw [hsorted]
    cbv
  have htext : env.toText none = .ok "x = 3, y = -1/2" := by
    rw [toText_eq_listed hne hlegible, hlisted, String.ofList_toList]
  have hdefinitions : definitionsOf "x = 3, y = -1/2" = "x := 3;\ny := -1/2;" := by cbv
  obtain ⟨listing, commands, after, hlisting, hparse, -, hrun, -, hfind⟩ :=
    listing_reads_back hne (by simp [env]) hlegible none ""
  obtain rfl := Except.ok.inj (htext.symm.trans hlisting)
  rw [hdefinitions] at hparse
  exact ⟨htext, hdefinitions, commands, after, hparse, hrun, hfind "y"⟩

end LanguageShell.Calculator

import LanguageShell.Proofs.Calculator.Seam
import LanguageShell.Proofs.Calculator.Spans
import LanguageShell.Proofs.Joining

/-!
Files that are joined by a newline. The sentences of the whole are those of the first text and those
of the second one, the marks of which come later; and the reader has nothing open where the texts
meet. So the commands are those of both texts, and all places of the second one are shifted alike.
-/

namespace LanguageShell.Calculator

/-! ### Other marks -/

namespace Phrase

variable {α β : Type} {layer : Layer}

def map (f : α → β) : {layer : Layer} → Phrase α layer → Phrase β layer
  | _, .number text mark => .number text (f mark)
  | _, .name text mark => .name text (f mark)
  | _, .parens opening inner closing => .parens (f opening) (inner.map f) (f closing)
  | _, .ofAtom only => .ofAtom (only.map f)
  | _, .neg sign operand => .neg (f sign) (operand.map f)
  | _, .ofUnary only => .ofUnary (only.map f)
  | _, .product left sign mark right => .product (left.map f) sign (f mark) (right.map f)
  | _, .ofProduct only => .ofProduct (only.map f)
  | _, .sum left sign mark right => .sum (left.map f) sign (f mark) (right.map f)

theorem yield_map (f : α → β) (phrase : Phrase α layer) :
    (phrase.map f).yield = phrase.yield.map (Prod.map id f) := by
  induction phrase with
  | number | name => rfl
  | ofAtom _ ih | ofUnary _ ih | ofProduct _ ih => exact ih
  | parens _ _ _ ih | neg _ _ ih => simp [map, yield, ih]
  | product _ _ _ _ ihl ihr | sum _ _ _ _ ihl ihr => simp [map, yield, ihl, ihr]

theorem operand_map {f : Extent → Extent}
    (hthrough : ∀ first last : Extent, f (first.through last) = (f first).through (f last))
    (phrase : Phrase Extent layer) :
    (phrase.map f).operand = ⟨phrase.operand.tree.map f, f phrase.operand.extent⟩ := by
  induction phrase with
  | number | name => rfl
  | ofAtom _ ih | ofUnary _ ih | ofProduct _ ih => exact ih
  | parens _ _ _ ih => simp [map, operand, ih, hthrough]
  | neg _ _ ih => simp [map, operand, Operand.negate, ih, hthrough, Term.map]
  | product _ _ _ _ ihl ihr | sum _ _ _ _ ihl ihr =>
      simp [map, operand, Operand.combine, ihl, ihr, hthrough, Term.map]

theorem tree_map_congr {P : Extent → Prop}
    (hthrough : ∀ first last : Extent, P first → P last → P (first.through last)) {f g : Extent → β}
    (hagree : ∀ extent, P extent → f extent = g extent) {phrase : Phrase Extent layer}
    (h : ∀ leaf ∈ phrase.yield, P leaf.2) :
    phrase.operand.tree.map f = phrase.operand.tree.map g ∧ P phrase.operand.extent := by
  induction phrase with
  | number | name =>
      have hmark := h _ (List.mem_singleton_self _)
      exact ⟨by simp [operand, Term.map, hagree _ hmark], hmark⟩
  | ofAtom _ ih | ofUnary _ ih | ofProduct _ ih => exact ih h
  | parens opening inner closing ih =>
      simp only [yield, List.cons_append, List.forall_mem_cons, List.forall_mem_append] at h
      obtain ⟨hopening, hinner, hclosing, -⟩ := h
      exact ⟨(ih hinner).1, hthrough _ _ hopening hclosing⟩
  | neg sign inner ih =>
      obtain ⟨hsign, hinner⟩ := List.forall_mem_cons.mp h
      obtain ⟨htree, hextent⟩ := ih hinner
      have hnode := hthrough _ _ hsign hextent
      exact ⟨by simp [operand, Operand.negate, Term.map, htree, hagree _ hnode], hnode⟩
  | product left sign mark right ihl ihr | sum left sign mark right ihl ihr =>
      obtain ⟨hleft, hright⟩ := List.forall_mem_append.mp h
      obtain ⟨htree, hextent⟩ := ihl hleft
      obtain ⟨htree', hextent'⟩ := ihr (List.forall_mem_cons.mp hright).2
      have hnode := hthrough _ _ hextent hextent'
      exact ⟨by simp [operand, Operand.combine, Term.map, htree, htree', hagree _ hnode], hnode⟩

end Phrase

namespace Sentence

variable {α β : Type}

def map (f : α → β) : Sentence α → Sentence β
  | define name mark assign expr stop => define name (f mark) (f assign) (expr.map f) (f stop)
  | eval expr stop => eval (expr.map f) (f stop)
  | display keyword expr stop => display (f keyword) (expr.map f) (f stop)
  | load keyword path mark stop => load (f keyword) path (f mark) (f stop)
  | listing keyword stop => listing (f keyword) (f stop)
  | help keyword stop => help (f keyword) (f stop)

theorem yield_map (f : α → β) (sentence : Sentence α) :
    (sentence.map f).yield = sentence.yield.map (Prod.map id f) := by
  cases sentence <;> simp [map, yield, body, semicolon, Phrase.yield_map]

theorem terminals_map (f : α → β) (sentence : Sentence α) :
    (sentence.map f).terminals = sentence.terminals := by
  rw [terminals, terminals, yield_map, List.map_map]
  rfl

theorem proper_map_iff (f : α → β) {sentence : Sentence α} :
    (sentence.map f).Proper ↔ sentence.Proper := by
  rw [proper_iff_terminals, proper_iff_terminals, terminals_map]

theorem command_map {f : Extent → Extent}
    (hthrough : ∀ first last : Extent, f (first.through last) = (f first).through (f last))
    (sentence : Sentence Extent) : (sentence.map f).command = sentence.command.map f := by
  cases sentence <;> simp [map, command, Command.map, Phrase.operand_map hthrough, hthrough]

theorem command_map_congr {P : Extent → Prop}
    (hthrough : ∀ first last : Extent, P first → P last → P (first.through last)) {f g : Extent → β}
    (hagree : ∀ extent, P extent → f extent = g extent) {sentence : Sentence Extent}
    (h : ∀ leaf ∈ sentence.yield, P leaf.2) : sentence.command.map f = sentence.command.map g := by
  obtain ⟨hbody, hstop⟩ := List.forall_mem_append.mp h
  have hsemicolon : P sentence.semicolon := hstop _ (List.mem_singleton_self _)
  cases sentence with
  | define name mark assign expr stop =>
      obtain ⟨hmark, hexpr⟩ := List.forall_mem_cons.mp hbody
      obtain ⟨htree, -⟩ := Phrase.tree_map_congr hthrough hagree (List.forall_mem_cons.mp hexpr).2
      rw [command, Command.map, Command.map, htree, hagree _ (hthrough mark stop hmark hsemicolon)]
  | eval expr stop =>
      obtain ⟨htree, hextent⟩ := Phrase.tree_map_congr hthrough hagree hbody
      rw [command, Command.map, Command.map, htree, hagree _ (hthrough _ stop hextent hsemicolon)]
  | display keyword expr stop =>
      obtain ⟨hmark, hexpr⟩ := List.forall_mem_cons.mp hbody
      obtain ⟨htree, -⟩ := Phrase.tree_map_congr hthrough hagree hexpr
      rw [command, Command.map, Command.map, htree,
        hagree _ (hthrough keyword stop hmark hsemicolon)]
  | load keyword _ _ stop | listing keyword stop | help keyword stop =>
      have hmark : P keyword := hbody _ List.mem_cons_self
      rw [command, Command.map, Command.map, hagree _ (hthrough keyword stop hmark hsemicolon)]

end Sentence

/-! ### Joined texts -/

/-- The sentences of joined texts are those of the first text and those of the second. -/
theorem Analysis.exists_joined {first second : List Char} (analysis : Analysis .file first)
    (other : Analysis .file second) :
    ∃ joined : Analysis .file (first ++ '\n' :: second),
      joined.sentences = analysis.sentences ++
        other.sentences.map (Sentence.map (Extent.shift (first.length + 1))) ∧
      (analysis.IsReadable → other.IsReadable → joined.IsReadable) := by
  obtain ⟨words, hsplits, hlexemes⟩ :=
    analysis.splits.exists_joined analysis.isChain other.splits
  let shift := Extent.shift (first.length + 1)
  have hderives : Derives .file (analysis.sentences ++ other.sentences.map (Sentence.map shift))
      (analysis.leaves ++ other.leaves.map (Prod.map id shift)) := by
    refine ⟨.inl rfl, ?_⟩
    rw [yieldAll_append, analysis.derives.2, ← other.derives.2]
    simp [yieldAll, List.flatMap_map, List.map_flatMap, Sentence.yield_map]
  have hmap : (analysis.leaves ++ other.leaves.map (Prod.map id shift)).map Leaf.lexeme =
      Word.lexemes words := by
    rw [hlexemes, ← analysis.map_lexeme, ← other.map_lexeme, List.map_append, List.map_map,
      List.map_map]
    rfl
  have hproper : ∀ sentence ∈ analysis.sentences ++ other.sentences.map (Sentence.map shift),
      sentence.Proper := by
    refine List.forall_mem_append.mpr
      ⟨((interprets_iff analysis.derives).mp analysis.interprets).2, ?_⟩
    refine List.forall_mem_map.mpr fun sentence hsentence => ?_
    exact (Sentence.proper_map_iff shift).mpr
      (((interprets_iff other.derives).mp other.interprets).2 sentence hsentence)
  let joined : Analysis .file (first ++ '\n' :: second) :=
    ⟨words, _, _, hsplits, (interprets_iff hderives).mpr ⟨hmap, hproper⟩, hderives⟩
  refine ⟨joined, rfl, fun hfirst hsecond => joined.all_isReadable.mp ?_⟩
  have hall : (Word.lexemes joined.words).all (·.token.isReadable) =
      ((Word.lexemes analysis.words).all (·.token.isReadable) &&
        (Word.lexemes other.words).all (·.token.isReadable)) := by
    change (Word.lexemes words).all _ = _
    rw [hlexemes, List.all_append, List.all_map]
    rfl
  rw [hall, analysis.all_isReadable.mpr hfirst, other.all_isReadable.mpr hsecond]
  rfl

theorem Analysis.bounds_of_mem {entry : Entry} {text : List Char} (analysis : Analysis entry text)
    {leaf : Leaf Extent} (h : leaf ∈ analysis.leaves) :
    leaf.2.start ≤ text.length ∧ leaf.2.stop ≤ text.length := by
  have hmem : leaf.lexeme ∈ Word.lexemes analysis.words := by
    rw [← analysis.map_lexeme]
    exact List.mem_map_of_mem h
  obtain ⟨front, back, hsplit⟩ := List.append_of_mem hmem
  have hstretch : Word.lexemes analysis.words = front ++ ([leaf.lexeme] ++ back) := hsplit
  obtain ⟨hle, hsize, -⟩ := analysis.splits.exists_stretch hstretch (Extent.Covers.singleton leaf)
  omega

end LanguageShell.Calculator

namespace LanguageShell

open Calculator

namespace Source.Joins

variable {whole first second : Source} (h : whole.Joins first second)
include h

theorem place_first {extent : Extent} (hstart : extent.start ≤ first.size)
    (hstop : extent.stop ≤ first.size) : extent.place whole = extent.place first := by
  rw [Extent.place, Extent.place, h.slice_first (by omega)]

theorem place_second (extent : Extent) :
    (extent.shift (first.size + 1)).place whole =
      (extent.place second).shift (first.size + 1) (first.text.count '\n' + 1) := by
  have hlength : (extent.shift (first.size + 1)).stop - (extent.shift (first.size + 1)).start =
      extent.stop - extent.start := Nat.add_sub_add_right _ _ _
  rw [Extent.place, Extent.place, hlength, Place.shift, ← h.slice_second]
  rfl

theorem parseFile_eq_ok {commands others : List (Command Place)}
    (hfirst : Calculator.parseFile first = .ok commands)
    (hsecond : Calculator.parseFile second = .ok others) :
    Calculator.parseFile whole = .ok (commands ++
      others.map (·.map (Place.shift (first.size + 1) (first.text.count '\n' + 1)))) := by
  obtain ⟨analysis, hreadable, rfl⟩ := parseFile_eq_ok_iff.mp hfirst
  obtain ⟨other, hreadable', rfl⟩ := parseFile_eq_ok_iff.mp hsecond
  obtain ⟨joined, hsentences, hjoined⟩ : ∃ joined : Analysis .file whole.text,
      joined.sentences = analysis.sentences ++
        other.sentences.map (Sentence.map (Extent.shift (first.size + 1))) ∧
      (analysis.IsReadable → other.IsReadable → joined.IsReadable) := by
    rw [h.text, first.size_eq]
    exact analysis.exists_joined other
  refine parseFile_eq_ok_iff.mpr ⟨joined, hjoined hreadable hreadable', ?_⟩
  rw [Analysis.commands, hsentences, List.map_append, List.map_map]
  congr 1
  · refine List.map_congr_left fun sentence hsentence => ?_
    -- The marks of the sentence lie within the first text, and so do all of its extents.
    refine Sentence.command_map_congr
      (P := fun extent => extent.start ≤ first.size ∧ extent.stop ≤ first.size)
      (fun _ _ hfirst hlast => ⟨hfirst.1, hlast.2⟩) (fun _ hextent => ?_) fun leaf hleaf => ?_
    · exact h.place_first hextent.1 hextent.2
    · rw [first.size_eq]
      refine analysis.bounds_of_mem ?_
      rw [← analysis.derives.2]
      exact List.mem_flatMap.mpr ⟨sentence, hsentence, hleaf⟩
  · rw [Analysis.commands, List.map_map]
    refine List.map_congr_left fun sentence _ => ?_
    have hshift : (sentence.map (Extent.shift (first.size + 1))).command =
        sentence.command.map (Extent.shift (first.size + 1)) :=
      sentence.command_map fun _ _ => rfl
    rw [Function.comp_apply, Function.comp_apply, hshift, Command.map_map, Command.map_map]
    congr 1
    exact funext h.place_second

end Source.Joins

theorem joins_ofString (first second filename : String) :
    (Source.ofString (first ++ "\n" ++ second) filename).Joins (.ofString first filename)
      (.ofString second filename) where
  text := by simp [Source.ofString]
  firstName := rfl
  secondName := rfl

namespace Calculator

/-- Two files that are parsed are parsed as one, with a newline between them. The commands are those
of the first with their places, and those of the second with every place shifted, at every node: the
offsets and the beginnings of lines by the length of the first text and one more, the lines by its
newlines and one more. -/
theorem joined_files_are_parsed {first second filename : String}
    {commands others : List (Command Place)}
    (hfirst : parseFile (.ofString first filename) = .ok commands)
    (hsecond : parseFile (.ofString second filename) = .ok others) :
    parseFile (.ofString (first ++ "\n" ++ second) filename) = .ok (commands ++
      others.map (·.map (Place.shift (first.length + 1) (first.toList.count '\n' + 1)))) := by
  have hjoined := (joins_ofString first second filename).parseFile_eq_ok hfirst hsecond
  have hsize : (Source.ofString first filename).size = first.length := String.length_toList
  rwa [hsize] at hjoined

/-- A comment at the end of the first text ends with the line, and the sum of the second text stands
on the third line. -/
theorem joined_files_of_comment_and_sum :
    ∃ commands others, parseFile (.ofString "x := 2; # two" "") = .ok commands ∧
      parseFile (.ofString "\n 3 + x;" "") = .ok others ∧
      parseFile (.ofString ("x := 2; # two" ++ "\n" ++ "\n 3 + x;") "") =
        .ok (commands ++ others.map (·.map (Place.shift 14 1))) ∧
      others.map (·.note.describe) = ["line 2, characters 1-7"] ∧
      others.map (fun other => (other.map (Place.shift 14 1)).note.describe) =
        ["line 3, characters 1-7"] := by
  obtain ⟨commands, hcommands⟩ :
      ∃ commands, parseFile (.ofString "x := 2; # two" "") = .ok commands := ⟨_, by cbv⟩
  obtain ⟨others, hothers, hplace, hshifted⟩ :
      ∃ others, parseFile (.ofString "\n 3 + x;" "") = .ok others ∧
        others.map (·.note.describe) = ["line 2, characters 1-7"] ∧
        others.map (fun other => (other.map (Place.shift 14 1)).note.describe) =
          ["line 3, characters 1-7"] := ⟨_, by cbv, rfl, rfl⟩
  have hjoined := joined_files_are_parsed hcommands hothers
  exact ⟨commands, others, hcommands, hothers, hjoined, hplace, hshifted⟩

end Calculator

end LanguageShell

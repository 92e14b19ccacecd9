import LanguageShell.FileTree
import LanguageShell.Language

/-!
Running the commands of a file, which may run further files. A file that is still being run is not
started again, whatever path leads to it; since there are only so many files, loading ends.
-/

namespace LanguageShell

namespace FileTree

def source (tree : FileTree) (path : CodeText) : Except Failure Source :=
  (tree.read path).map fun text => { text, filename := path.shown }

def idleFiles (tree : FileTree) (inProgress : List RealPath) : List RealPath :=
  (tree.files.map (·.1)).filter (· ∉ inProgress)

theorem find?_realPath_of_read {tree : FileTree} {path : CodeText} {text : List Char}
    (h : tree.read path = .ok text) : (tree.find? (tree.realPath path)).isSome := by
  unfold read at h
  split at h
  · simp at h
  split at h
  · simp at h
  rename_i bytes hopen
  cases hfind : tree.find? (tree.realPath path) with
  | some _ => rfl
  | none =>
    unfold openFile at hopen
    simp only [hfind] at hopen
    repeat' split at hopen
    all_goals simp [bind, Except.bind, throw, throwThe, MonadExceptOf.throw] at hopen
    all_goals repeat' split at hopen
    all_goals simp at hopen

theorem mem_of_find?_isSome {tree : FileTree} {place : RealPath}
    (h : (tree.find? place).isSome) : place ∈ tree.files.map (·.1) := by
  unfold find? at h
  rw [Option.isSome_map, List.find?_isSome] at h
  obtain ⟨file, hfile, heq⟩ := h
  exact List.mem_map.2 ⟨file, hfile, by simpa using heq⟩

theorem length_idleFiles_cons {tree : FileTree} {place : RealPath} {inProgress : List RealPath}
    (hmem : place ∈ tree.files.map (·.1)) (hnew : place ∉ inProgress) :
    (tree.idleFiles (place :: inProgress)).length < (tree.idleFiles inProgress).length := by
  unfold idleFiles
  rw [← List.countP_eq_length_filter, ← List.countP_eq_length_filter]
  generalize tree.files.map (·.1) = places at hmem
  induction places with
  | nil => simp at hmem
  | cons other rest ih =>
    have hle : rest.countP (· ∉ place :: inProgress) ≤ rest.countP (· ∉ inProgress) :=
      List.countP_mono_left fun x _ hx => by simp_all
    by_cases heq : other = place
    · have hafter : decide (other ∉ place :: inProgress) = false := by simp [heq]
      have hbefore : decide (other ∉ inProgress) = true := by simp [heq, hnew]
      simp only [List.countP_cons, hafter, hbefore, Bool.false_eq_true, if_false, if_true]
      omega
    · have hrest := ih (by simpa [Ne.symm heq] using hmem)
      have hsame : decide (other ∉ place :: inProgress) = decide (other ∉ inProgress) := by
        simp [heq]
      simp only [List.countP_cons, hsame]
      omega

end FileTree

namespace Language

variable {Env Cmd : Type}

/-- Runs a file in an environment while the given files are in progress. Its commands are executed
one after another, each in the environment that the one before left. -/
def load (language : Language Env Cmd) (setup : Setup) (tree : FileTree)
    (inProgress : List RealPath) (env : Env) (entry : FileEntry) : Trace Env :=
  match language.parseFile with
  | none => .fail (.fatal "Cannot load files, only interactive shell is available")
  | some parse =>
    match FileTree.unresolvable? entry.path with
    | some fault => .fail (.fault fault)
    | none =>
      let place := tree.realPath entry.path
      if hnew : place ∈ inProgress then .fail (.fatal s!"recursive load of {entry.path}")
      else match hread : tree.read entry.path with
        | .error failure => .fail failure
        | .ok text =>
          match Parser.located parse { text, filename := entry.path.shown } with
          | .error failure => .fail failure
          | .ok commands => do
            Trace.emit (.entered place)
            let useFile := fun env entry => load language setup tree (place :: inProgress) env entry
            (commands.foldlM (language.execute setup useFile entry.interactive) env).andFinally
              .left
termination_by (tree.idleFiles inProgress).length
decreasing_by
  exact FileTree.length_idleFiles_cons
    (FileTree.mem_of_find?_isSome (FileTree.find?_realPath_of_read hread)) hnew

def useFile (language : Language Env Cmd) (setup : Setup) (tree : FileTree) :
    Env → FileEntry → Trace Env :=
  language.load setup tree []

end Language

end LanguageShell

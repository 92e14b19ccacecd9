import LanguageShell.FileTree
import LanguageShell.Proofs.Trace

/-!
The files in progress, as the events of a run tell: a file is in progress from the event that enters
it to the one that leaves it. A run is orderly if at every moment the files in progress are
different files of the tree, and if it leaves every file that it enters.
-/

namespace LanguageShell

/-- The files in progress after an event, the one entered last first. -/
def Event.progress (files : List RealPath) : Event → List RealPath
  | .entered file => file :: files
  | .left => files.tail
  | .printed _ | .prompted _ | .reported .. | .interrupted => files

/-- The files in progress after events, where the given ones are in progress before them. -/
def progressAfter (files : List RealPath) (events : List Event) : List RealPath :=
  events.foldl Event.progress files

@[simp] theorem progressAfter_nil (files : List RealPath) : progressAfter files [] = files :=
  rfl

@[simp] theorem progressAfter_cons (files : List RealPath) (event : Event) (events : List Event) :
    progressAfter files (event :: events) = progressAfter (event.progress files) events :=
  rfl

@[simp] theorem progressAfter_append (files : List RealPath) (front back : List Event) :
    progressAfter files (front ++ back) = progressAfter (progressAfter files front) back :=
  List.foldl_append

theorem progressAfter_of_isWritten {events : List Event}
    (h : ∀ event ∈ events, event.IsWritten = true) (files : List RealPath) :
    progressAfter files events = files := by
  induction events with
  | nil => rfl
  | cons event events ih =>
      obtain ⟨hevent, hevents⟩ := List.forall_mem_cons.mp h
      have hsame : event.progress files = files := by
        cases event <;> first
          | rfl
          | cases hevent
      rw [progressAfter_cons, hsame, ih hevents]

namespace FileTree

/-- Whether the files can be in progress together: each is a file of the tree, and none is in
progress twice. -/
structure MayProgress (tree : FileTree) (files : List RealPath) : Prop where
  nodup : files.Nodup
  subset : files ⊆ tree.files.map (·.1)

def fileCount (tree : FileTree) : Nat :=
  (tree.files.map (·.1)).dedup.length

theorem MayProgress.nil (tree : FileTree) : tree.MayProgress [] :=
  ⟨List.nodup_nil, List.nil_subset _⟩

theorem MayProgress.cons {tree : FileTree} {files : List RealPath} {file : RealPath}
    (h : tree.MayProgress files) (hnew : file ∉ files) (hfile : file ∈ tree.files.map (·.1)) :
    tree.MayProgress (file :: files) :=
  ⟨List.nodup_cons.mpr ⟨hnew, h.nodup⟩, List.cons_subset.mpr ⟨hfile, h.subset⟩⟩

theorem MayProgress.length_le {tree : FileTree} {files : List RealPath}
    (h : tree.MayProgress files) : files.length ≤ tree.fileCount :=
  (h.nodup.subperm fun _ hfile => List.mem_dedup.mpr (h.subset hfile)).length_le

end FileTree

/-! ### Orderly runs -/

theorem prefix_append_cases {α : Type} {start front back : List α} (h : start <+: front ++ back) :
    start <+: front ∨ ∃ rest, start = front ++ rest ∧ rest <+: back := by
  obtain hshort | ⟨rest, rfl⟩ := List.prefix_or_prefix_of_prefix h (List.prefix_append front back)
  · exact .inl hshort
  · exact .inr ⟨rest, rfl, (List.prefix_append_right_inj front).mp h⟩

structure Orderly (tree : FileTree) (files : List RealPath) (events : List Event) : Prop where
  /-- At every moment the files in progress can be so together. -/
  sound : ∀ front, front <+: events → tree.MayProgress (progressAfter files front)
  /-- In the end the same files are in progress. -/
  restores : progressAfter files events = files

namespace Orderly

variable {tree : FileTree} {files : List RealPath} {α β : Type}

theorem of_isWritten (h : tree.MayProgress files) {events : List Event}
    (hevents : ∀ event ∈ events, event.IsWritten = true) : Orderly tree files events where
  sound front hfront := by
    rwa [progressAfter_of_isWritten fun event hevent => hevents event (hfront.subset hevent)]
  restores := progressAfter_of_isWritten hevents files

theorem nil (h : tree.MayProgress files) : Orderly tree files [] :=
  of_isWritten h (by simp)

/-- Orderly events one after another are orderly, since the first ones restore the files in
progress. -/
theorem append {front back : List Event} (hfront : Orderly tree files front)
    (hback : Orderly tree files back) : Orderly tree files (front ++ back) where
  sound start hstart := by
    obtain hshort | ⟨rest, rfl, hrest⟩ := prefix_append_cases hstart
    · exact hfront.sound start hshort
    · rw [progressAfter_append, hfront.restores]
      exact hback.sound rest hrest
  restores := by rw [progressAfter_append, hfront.restores, hback.restores]

theorem bind {trace : Trace α} {next : α → Trace β} (h : Orderly tree files trace.events)
    (hnext : ∀ a, Orderly tree files (next a).events) :
    Orderly tree files (trace >>= next).events := by
  cases houtcome : trace.outcome with
  | error failure => rwa [Trace.bind_of_error houtcome]
  | ok a =>
      rw [Trace.bind_of_ok houtcome]
      exact h.append (hnext a)

end Orderly

end LanguageShell

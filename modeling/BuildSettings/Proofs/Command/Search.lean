/-
# Searching upwards

A search upwards looks for a regular file of one name in a directory, in the one above it,
and so on until there is none above. It may start from any path, be it relative or spelled with
detours, and ends after as many steps as the path has directories above it. What it finds is
the first directory of this chain that has the file. There it would stop at once
if it were started again.

Only regular files count. In a tree of files a directory of that name is passed over.
-/

import BuildSettings.FileTree
import BuildSettings.Proofs.Command.Stages
import BuildSettings.Proofs.Path.Climbing

namespace BuildSettings

variable {isFile : Path → Id Bool} {fileName : String} {start dir : Path}

/-- Of a path and those above it, the nearest one with a property comes after a number of steps
upwards, and no path has the property after fewer steps. -/
theorem Path.nearest_iff_above? {holds : Path → Prop} :
    start.Nearest holds dir ↔
      ∃ count, start.above? count = some dir ∧ holds dir ∧
        ∀ fewer other, fewer < count → start.above? fewer = some other → ¬ holds other := by
  simp only [← getElem?_ancestors]
  apply Iff.intro
  · rintro ⟨below, above, happend, hbelow, hholds⟩
    refine ⟨below.length, by simp [happend], hholds, ?_⟩
    intro fewer other hfewer hother
    rw [happend, List.getElem?_append_left hfewer] at hother
    exact hbelow other (List.mem_of_getElem? hother)
  · rintro ⟨count, hdir, hholds, hfewer⟩
    obtain ⟨hcount, hdir⟩ := List.getElem?_eq_some_iff.mp hdir
    refine ⟨start.ancestors.take count, start.ancestors.drop (count + 1), ?_, ?_, hholds⟩
    · rw [← hdir, List.getElem_cons_drop, List.take_append_drop]
    · intro other hother
      obtain ⟨fewer, hlt, hother⟩ := List.mem_take_iff_getElem.mp hother
      exact hfewer fewer other (by omega) (List.getElem?_eq_some_iff.mpr ⟨by omega, hother⟩)

/-- A search asks for the file in the directory where it starts, and goes on with the one above. -/
theorem findAncestor_step {m : Type → Type} [Monad m] (isFile : Path → m Bool)
    (fileName : String) (start : Path) :
    findAncestor isFile fileName start = (do
      if ← isFile (start.join ⟨fileName⟩) then pure (some start)
      else
        match start.parent? with
        | none => pure none
        | some parent => findAncestor isFile fileName parent) := by
  rw [findAncestor, Path.ancestors]
  cases hparent : start.parent? with
  | none => rfl
  | some parent => rfl

/-- A directory with the file is found from itself. -/
theorem run_findAncestor_of_holdsFile (h : HoldsFile isFile fileName dir) :
    (findAncestor isFile fileName dir).run = some dir := by
  rw [findAncestor_step, Id.run_bind, h]
  rfl

/-- What counts as a file of a tree is one, and no directory. -/
theorem exists_find_eq_file {tree : FileTree} {workingDir : Path} {environment : Environment}
    (h : HoldsFile (World.host ⟨tree.fileSystem, workingDir, environment⟩).isFile fileName dir) :
    ∃ bytes, tree.find (workingDir.join (dir.join ⟨fileName⟩)) = .ok (.file bytes) := by
  simp only [HoldsFile, World.host, FileTree.fileSystem, Id.run, Bool.and_eq_true] at h
  obtain ⟨-, hfile⟩ := h
  rw [FileTree.isFile] at hfile
  split at hfile
  · rename_i bytes hfind
    exact ⟨bytes, hfind⟩
  · cases hfile

/-- Going up from a path ends, and a search upwards finds the first directory on the way that
has the file, or nothing if none of them has it. What it finds has a regular file of the
name, and is found again from there; in a tree of files, a directory is no regular file. -/
theorem search_finds_nearest (isFile : Path → Id Bool) (fileName : String) (start : Path) :
    (∀ count, (start.above? count).isSome = true ↔ count ≤ start.depth) ∧
    (∀ dir, (findAncestor isFile fileName start).run = some dir ↔
      ∃ count, start.above? count = some dir ∧ HoldsFile isFile fileName dir ∧
        ∀ fewer other, fewer < count → start.above? fewer = some other →
          ¬ HoldsFile isFile fileName other) ∧
    ((findAncestor isFile fileName start).run = none ↔
      ∀ count other, start.above? count = some other → ¬ HoldsFile isFile fileName other) ∧
    (∀ dir, (findAncestor isFile fileName start).run = some dir →
      (findAncestor isFile fileName dir).run = some dir) ∧
    ∀ tree workingDir environment dir,
      (findAncestor (World.host ⟨FileTree.fileSystem tree, workingDir, environment⟩).isFile
          fileName start).run = some dir →
        ∃ bytes, tree.find (workingDir.join (dir.join ⟨fileName⟩)) = .ok (.file bytes) := by
  refine ⟨fun count => Path.isSome_above?_iff, ?_, ?_, ?_, ?_⟩
  · intro dir
    rw [findAncestor_eq_some_iff, Path.nearest_iff_above?]
  · rw [findAncestor_eq_none_iff]
    simp only [List.mem_iff_getElem?, Path.getElem?_ancestors, forall_exists_index]
    exact forall_comm
  · intro dir hfound
    obtain ⟨-, -, -, -, hholds⟩ := findAncestor_eq_some_iff.mp hfound
    exact run_findAncestor_of_holdsFile hholds
  · intro tree workingDir environment dir hfound
    obtain ⟨-, -, -, -, hholds⟩ := findAncestor_eq_some_iff.mp hfound
    exact exists_find_eq_file hholds

end BuildSettings

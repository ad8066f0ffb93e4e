/-
# Directories of the modules of a workspace

Resolution sees to it that no module is included twice, which is a matter of module
paths. Whether two modules live in one directory is not looked at. They do exactly
when their paths agree but for segments `.` that stand behind another segment, so
modules without such segments have directories of their own.
-/

import BuildSettings.Proofs.ModulePath.Directory
import BuildSettings.Proofs.Workspace.Validity

namespace BuildSettings.Declaration

variable {declaration : Declaration} {workspace : Workspace}

/-- The module at a position is the one declared there, in its own directory. -/
theorem module_of_resolve (h : declaration.resolve = .ok workspace) {i : Nat}
    {item : WorkspaceModule} (hitem : workspace.modules[i]? = some item) :
    declaration.modules[i]? = some item.path ∧ item.projectDir = item.path.projectDir := by
  obtain ⟨-, rfl⟩ := resolve_eq_ok_iff_keeps.mp h
  rw [assemble, List.getElem?_map, Option.map_eq_some_iff] at hitem
  obtain ⟨path, hpath, rfl⟩ := hitem
  exact ⟨hpath, rfl⟩

/-- Two modules of a workspace have different paths. They share a directory exactly
when their paths agree but for segments `.` behind the first one, so they do not when
neither path has such a segment. -/
theorem same_directory_iff_up_to_dots (h : declaration.resolve = .ok workspace) {i j : Nat}
    {a b : WorkspaceModule} (ha : workspace.modules[i]? = some a)
    (hb : workspace.modules[j]? = some b) (hij : i ≠ j) :
    a.path ≠ b.path ∧
      (a.projectDir.same b.projectDir = true ↔
        a.path.directorySegments = b.path.directorySegments) ∧
      ("." ∉ a.path.segments.tail → "." ∉ b.path.segments.tail →
        a.projectDir.same b.projectDir = false) := by
  obtain ⟨hpath, hdir⟩ := module_of_resolve h ha
  obtain ⟨hpath', hdir'⟩ := module_of_resolve h hb
  have hne : a.path ≠ b.path := by
    have hnodup : declaration.modules.Nodup := (resolve_eq_ok_iff_keeps.mp h).1 .modules
    obtain ⟨hi, -⟩ := List.getElem?_eq_some_iff.mp hpath
    intro heq
    exact hij ((List.getElem?_inj hi hnodup).mp (by rw [hpath, hpath', heq]))
  have hsame : a.projectDir.same b.projectDir = true ↔
      a.path.directorySegments = b.path.directorySegments := by
    rw [hdir, hdir', ModulePath.same_projectDir_iff]
  refine ⟨hne, hsame, ?_⟩
  intro hdot hdot'
  rw [ModulePath.directorySegments_eq_segments hdot,
    ModulePath.directorySegments_eq_segments hdot', ← ModulePath.ext_iff] at hsame
  rw [← Bool.not_eq_true, hsame]
  exact hne

/-- A declaration of which the first two modules differ by a segment `.` only. -/
def dotted : Declaration where
  rootName := "Demo"
  modules := [⟨["a", "."], by decide, by decide⟩, ⟨["a"], by decide, by decide⟩,
    ⟨["b"], by decide, by decide⟩]

example : ["a:.", "a", "b"].mapM ModulePath.parse = .ok dotted.modules := rfl

theorem dotted_directories :
    dotted.resolve = .ok dotted.assemble ∧
      ∃ a b c, dotted.assemble.modules = [a, b, c] ∧
        a.projectDir.same b.projectDir = true ∧ b.projectDir.same c.projectDir = false := by
  have hresolve : dotted.resolve = .ok dotted.assemble := rfl
  refine ⟨hresolve, _, _, _, rfl, ?_, ?_⟩
  · obtain ⟨-, hsame, -⟩ :=
      same_directory_iff_up_to_dots (i := 0) (j := 1) hresolve rfl rfl (by decide)
    exact hsame.mpr rfl
  · obtain ⟨-, -, hdiffer⟩ :=
      same_directory_iff_up_to_dots (i := 1) (j := 2) hresolve rfl rfl (by decide)
    exact hdiffer (by decide) (by decide)

/-- Different modules of a workspace need not have different directories. -/
theorem not_all_directories_differ :
    ¬ ∀ (declaration : Declaration) (workspace : Workspace),
      declaration.resolve = .ok workspace → ∀ (i j : Nat) (a b : WorkspaceModule),
        workspace.modules[i]? = some a → workspace.modules[j]? = some b → i ≠ j →
          a.projectDir.same b.projectDir = false := by
  intro hall
  have hshared : (ModulePath.projectDir ⟨["a", "."], by decide, by decide⟩).same
      (ModulePath.projectDir ⟨["a"], by decide, by decide⟩) = true := by
    decide
  have hdiffer := hall dotted dotted.assemble rfl 0 1 _ _ rfl rfl (by decide)
  rw [← Bool.not_eq_true] at hdiffer
  exact hdiffer hshared

end BuildSettings.Declaration

/-
# Going up step by step

Going up takes the last component away from a path, whatever its spelling: slashes and dots
that stand for no component go with it. Nothing can be taken away from the empty path and
from the root, and there the chain of parents ends. So there are as many directories above
a path as it has components that are not the root.
-/

import BuildSettings.Proofs.Path.Plain

namespace BuildSettings.Path

variable {path above : Path} {piece : List Char}

/-! ## One step -/

/-- A piece that is not idle stands for a component, which is not the root. -/
theorem exists_innerComponent?_eq_some (h : isIdle piece = false) :
    ∃ component ≠ .root, innerComponent? piece = some component := by
  have hstep := isStepComponent_stepComponent piece
  refine ⟨stepComponent piece, ?_, ?_⟩
  · intro hroot
    rw [hroot] at hstep
    cases hstep
  · rw [innerComponent?_eq, h]
    rfl

/-- So does a first piece that is not empty. -/
theorem exists_leadingComponent?_eq_some (h : piece ≠ []) (slashFollows : Bool) :
    ∃ component ≠ .root, leadingComponent? piece slashFollows = some component := by
  rw [leadingComponent?, if_neg h]
  by_cases hdot : piece = ['.']
  · exact ⟨.here, by simp, if_pos hdot⟩
  · rw [if_neg hdot]
    exact exists_innerComponent?_eq_some (by simp [isIdle, h, hdot])

/-- What going up does with the pieces: it fails where there is no component but the root, it
leaves nothing of a single first piece, and otherwise it drops the last piece that is not idle,
with the idle ones on both sides of it. -/
theorem parent?_cases {first : List Char} {rest : List (List Char)}
    (hpieces : path.pieces = first :: rest) :
    (path.parent? = none ∧ first = [] ∧ Text.dropTailWhile isIdle rest = []) ∨
      (path.parent? = some ⟨""⟩ ∧ first ≠ [] ∧ Text.dropTailWhile isIdle rest = []) ∨
      ∃ front last, path.parent? = some (spell (first :: Text.dropTailWhile isIdle front)) ∧
        Text.dropTailWhile isIdle rest = front ++ [last] ∧ isIdle last = false := by
  simp only [parent?, hpieces]
  by_cases hsteps : Text.dropTailWhile isIdle rest = []
  · by_cases hfirst : first = []
    · exact .inl (by simp [hsteps, hfirst])
    · exact .inr (.inl (by simp [hsteps, hfirst]))
  · refine .inr (.inr ⟨_, _, if_neg hsteps, (List.dropLast_concat_getLast hsteps).symm, ?_⟩)
    exact Text.dropTailWhile_getLast (List.getLast?_eq_some_getLast hsteps)

/-- Going up takes the last component away, which is not the root. From the empty path and the
root there is nowhere to go up. -/
theorem parent?_takes_last (path : Path) :
    (path.parent? = none ∧ (path.components = [] ∨ path.components = [.root])) ∨
      ∃ above, path.parent? = some above ∧
        ∃ last ≠ .root, path.components = above.components ++ [last] := by
  have hfree : ∀ piece ∈ path.pieces, '/' ∉ piece := fun _ => ModulePath.not_mem_of_mem_splitOn
  obtain ⟨first, rest, hpieces⟩ : ∃ first rest, path.pieces = first :: rest :=
    List.exists_cons_of_ne_nil (List.splitOn_ne_nil '/' _)
  have hcomponents : path.components =
      (leadingComponent? first (!rest.isEmpty)).toList ++
        (Text.dropTailWhile isIdle rest).filterMap innerComponent? := by
    rw [components, hpieces, filterMap_dropTailWhile]
  rw [hpieces, List.forall_mem_cons] at hfree
  rcases parent?_cases hpieces with ⟨hparent, hfirst, hsteps⟩ | ⟨hparent, hfirst, hsteps⟩ |
    ⟨front, last, hparent, hsteps, hlast⟩
  · refine .inl ⟨hparent, ?_⟩
    rw [hcomponents, hfirst, hsteps]
    cases rest with
    | nil => exact .inl rfl
    | cons piece rest => exact .inr rfl
  · obtain ⟨last, hroot, hlast⟩ := exists_leadingComponent?_eq_some hfirst (!rest.isEmpty)
    refine .inr ⟨_, hparent, last, hroot, ?_⟩
    rw [hcomponents, hsteps, hlast]
    rfl
  · obtain ⟨component, hroot, hcomponent⟩ := exists_innerComponent?_eq_some hlast
    have hslash : rest.isEmpty = false := by
      cases rest with
      | nil => simp at hsteps
      | cons piece rest => rfl
    have hkept : ∀ piece ∈ Text.dropTailWhile isIdle front, '/' ∉ piece := by
      intro piece hpiece
      have hmem : piece ∈ Text.dropTailWhile isIdle rest := by
        rw [hsteps]
        exact List.mem_append_left _ (Text.mem_of_mem_dropTailWhile hpiece)
      exact hfree.2 piece (Text.mem_of_mem_dropTailWhile hmem)
    refine .inr ⟨_, hparent, component, hroot, ?_⟩
    rw [hcomponents, hsteps, hslash, components_spell hfree.1 hkept, filterMap_dropTailWhile,
      List.filterMap_append, List.append_assoc]
    simp [hcomponent]

/-! ## The chain of parents -/

/-- How many directories there are above a path. -/
def depth (path : Path) : Nat :=
  path.components.countP (· ≠ .root)

/-- The path that going up a number of times leads to. -/
def above? (path : Path) : Nat → Option Path
  | 0 => some path
  | count + 1 => path.parent?.bind fun parent => parent.above? count

theorem depth_of_parent?_eq_none (h : path.parent? = none) : path.depth = 0 := by
  rcases parent?_takes_last path with ⟨-, hnil | hroot⟩ | ⟨parent, hparent, -⟩
  · rw [depth, hnil]
    rfl
  · rw [depth, hroot]
    rfl
  · rw [h] at hparent
    cases hparent

theorem depth_of_parent?_eq_some (h : path.parent? = some above) :
    path.depth = above.depth + 1 := by
  rcases parent?_takes_last path with ⟨hnone, -⟩ | ⟨parent, hparent, last, hlast, hcomponents⟩
  · rw [h] at hnone
    cases hnone
  · obtain rfl : above = parent := Option.some.inj (h.symm.trans hparent)
    rw [depth, hcomponents, List.countP_append, ← depth]
    simp [hlast]

/-- One can go up as often as there are directories above a path, and no more often. -/
theorem isSome_above?_iff {count : Nat} : (path.above? count).isSome = true ↔ count ≤ path.depth := by
  induction count generalizing path with
  | zero => simp [above?]
  | succ count ih =>
      rw [above?]
      cases hparent : path.parent? with
      | none => simp [depth_of_parent?_eq_none hparent]
      | some parent =>
          rw [Option.bind_some, ih, depth_of_parent?_eq_some hparent, Nat.add_le_add_iff_right]

/-- A path and those above it are what going up leads to. The induction goes up. -/
theorem getElem?_ancestors (path : Path) (count : Nat) :
    path.ancestors[count]? = path.above? count := by
  induction path using ancestors.induct generalizing count with
  | case1 path hnone =>
      rw [ancestors, hnone]
      cases count with
      | zero => rfl
      | succ count => simp [above?, hnone]
  | case2 path parent hparent ih =>
      rw [ancestors, hparent]
      cases count with
      | zero => rfl
      | succ count => simp [above?, hparent, ih]

example :
    (List.range 4).map (fun count => ((⟨"./a//b/."⟩ : Path).above? count).map spelling) =
      [some "./a//b/.", some "./a", some ".", some ""] := by
  decide

end BuildSettings.Path

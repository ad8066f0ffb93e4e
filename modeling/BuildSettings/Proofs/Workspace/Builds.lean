/-
# Spellings of included builds

Resolution lets no build be included twice, and tells builds apart by their components.
So two builds of a workspace may have one plain form, but then exactly one of them begins
with a piece `.`. Two that both begin with it have different plain forms, two that both do
not have different ones as well, and no three builds have the same.
-/

import Mathlib.Data.Fintype.Card
import BuildSettings.Proofs.Path.Plain
import BuildSettings.Proofs.Workspace.Validity

namespace BuildSettings.Declaration

variable {declaration : Declaration} {workspace : Workspace}

/-- The builds of a workspace are told apart by their plain forms and by what they begin
with. -/
theorem pairwise_builds (h : declaration.resolve = .ok workspace) :
    workspace.pluginBuilds.Pairwise fun a b =>
      ¬ (a.plain = b.plain ∧ a.beginsHere = b.beginsHere) := by
  obtain ⟨hkeeps, rfl⟩ := resolve_eq_ok_iff_keeps.mp h
  have hnodup : (declaration.pluginBuilds.map Path.components).Nodup := hkeeps .builds
  rw [List.Nodup, List.pairwise_map] at hnodup
  apply hnodup.imp
  intro a b hdiffer halike
  exact hdiffer (Path.components_eq_iff.mpr halike)

/-- Two builds of a workspace have different plain forms when both begin with a piece `.`
and also when both do not. -/
theorem plain_builds_differ (h : declaration.resolve = .ok workspace) {i j : Nat} {a b : Path}
    (ha : workspace.pluginBuilds[i]? = some a) (hb : workspace.pluginBuilds[j]? = some b)
    (hij : i ≠ j) (hbegin : a.beginsHere = b.beginsHere) : a.plain ≠ b.plain := by
  obtain ⟨hi, rfl⟩ := List.getElem?_eq_some_iff.mp ha
  obtain ⟨hj, rfl⟩ := List.getElem?_eq_some_iff.mp hb
  have hpairwise := List.pairwise_iff_getElem.mp (pairwise_builds h)
  intro hplain
  cases Nat.lt_or_gt_of_ne hij with
  | inl hlt => exact hpairwise i j hi hj hlt ⟨hplain, hbegin⟩
  | inr hgt => exact hpairwise j i hj hi hgt ⟨hplain.symm, hbegin.symm⟩

/-- A declaration that includes one build with a piece `.` in front of it and without, and
two builds that cannot be taken for it. -/
def dottedBuilds : Declaration where
  rootName := "Demo"
  pluginBuilds := [⟨"./a"⟩, ⟨"a"⟩, ⟨"./b//c"⟩, ⟨"/a/."⟩]

theorem dotted_builds_differ :
    dottedBuilds.resolve = .ok dottedBuilds.assemble ∧
      Path.plain ⟨"./a"⟩ ≠ Path.plain ⟨"./b//c"⟩ ∧ Path.plain ⟨"a"⟩ ≠ Path.plain ⟨"/a/."⟩ := by
  have hresolve : dottedBuilds.resolve = .ok dottedBuilds.assemble := rfl
  constructor
  · exact hresolve
  · constructor
    · exact plain_builds_differ (i := 0) (j := 2) hresolve rfl rfl (by decide) (by decide)
    · exact plain_builds_differ (i := 1) (j := 3) hresolve rfl rfl (by decide) (by decide)

/-- Two builds of a workspace can have one plain form. -/
theorem not_all_plain_builds_differ :
    ¬ ∀ (declaration : Declaration) (workspace : Workspace),
      declaration.resolve = .ok workspace → ∀ (i j : Nat) (a b : Path),
        workspace.pluginBuilds[i]? = some a → workspace.pluginBuilds[j]? = some b → i ≠ j →
          a.plain ≠ b.plain := by
  intro hall
  have hplain : Path.plain ⟨"./a"⟩ = Path.plain ⟨"a"⟩ := by
    rw [Path.plain_eq_iff]
    decide
  exact hall dottedBuilds dottedBuilds.assemble rfl 0 1 _ _ rfl rfl (by decide) hplain

/-- No three builds of a workspace have one plain form. -/
theorem length_builds_of_plain_le (h : declaration.resolve = .ok workspace) (form : String) :
    (workspace.pluginBuilds.filter fun build => build.plain.spelling == form).length ≤ 2 := by
  have hbegins : ((workspace.pluginBuilds.filter fun build =>
      build.plain.spelling == form).map Path.beginsHere).Nodup := by
    rw [List.Nodup, List.pairwise_map]
    apply ((pairwise_builds h).sublist List.filter_sublist).imp_of_mem
    intro a b ha hb hdiffer hbegin
    have hform : a.plain.spelling = form := beq_iff_eq.mp (List.mem_filter.mp ha).2
    have hform' : b.plain.spelling = form := beq_iff_eq.mp (List.mem_filter.mp hb).2
    exact hdiffer ⟨congrArg Path.mk (hform.trans hform'.symm), hbegin⟩
  -- What a build begins with is one of two things.
  have hcard := hbegins.length_le_card
  rwa [List.length_map, Fintype.card_bool] at hcard

end BuildSettings.Declaration

/-
# What the verdict of resolution depends on

An error names a place, and which place it is depends on the order of the lists. Which rule
is reported does not: a rule is kept or broken by the items of the lists in whatever order,
and the first broken rule is reported. So two declarations with the same items both resolve,
or both fail for the same rule.

Items can also be deleted. What is left breaks no rule that was kept before, and every module
that is left comes out as it did. Only the flag for accessors is felt by other items: without
it the modules lose their accessors, and nothing else.
-/

import BuildSettings.Proofs.Workspace.Rearrangement

namespace BuildSettings

/-- The rule that an error is about, with the repository list if it is about one. -/
def ResolveError.rule : ResolveError → Rule
  | .blankName => .rootName
  | .duplicateModule _ => .modules
  | .duplicateAccessor .. => .accessors
  | .duplicateCatalog _ => .catalogs
  | .emptyLocation scope _ => .locations scope
  | .duplicateBuild _ => .builds

/-- The module as it is when no accessors are generated. -/
def WorkspaceModule.withoutAccessor (item : WorkspaceModule) : WorkspaceModule :=
  { item with accessor? := none }

namespace Declaration

variable {declaration other smaller : Declaration} {rule : Rule}

/-! ## The rule that is reported -/

theorem Breaks.rule_eq {error : ResolveError} (h : declaration.Breaks rule error) :
    error.rule = rule := by
  cases h <;> rfl

/-- The rule is broken, and those before it are kept. -/
def FailsFirst (declaration : Declaration) (rule : Rule) : Prop :=
  ¬ declaration.Keeps rule ∧ ∀ other, other.place < rule.place → declaration.Keeps other

/-- Which rule is reported can be told from the rules that are kept. -/
theorem exists_resolve_eq_error_iff :
    (∃ error, declaration.resolve = .error error ∧ error.rule = rule) ↔
      declaration.FailsFirst rule := by
  simp only [resolve_eq_error_iff, FirstBroken, FailsFirst, ← exists_breaks_iff]
  apply Iff.intro
  · rintro ⟨error, ⟨broken, hbreaks, hearlier⟩, rfl⟩
    obtain rfl := hbreaks.rule_eq
    refine ⟨⟨error, hbreaks⟩, ?_⟩
    intro other hother
    by_contra hbroken
    obtain ⟨fault, hfault⟩ := exists_breaks_iff.mpr hbroken
    exact hearlier other hother fault hfault
  · rintro ⟨⟨error, hbreaks⟩, hearlier⟩
    refine ⟨error, ⟨rule, hbreaks, ?_⟩, hbreaks.rule_eq⟩
    intro other hother fault hfault
    exact exists_breaks_iff.mp ⟨fault, hfault⟩ (hearlier other hother)

/-- Declarations that keep the same rules both resolve, or both fail for the same rule. -/
theorem resolve_of_keeps_iff (h : ∀ rule, declaration.Keeps rule ↔ other.Keeps rule) :
    (∃ workspace workspace', declaration.resolve = .ok workspace ∧
        other.resolve = .ok workspace') ∨
      ∃ error error', declaration.resolve = .error error ∧ other.resolve = .error error' ∧
        error.rule = error'.rule := by
  cases hresolve : declaration.resolve with
  | ok workspace =>
      have hkeeps := (resolve_eq_ok_iff_keeps.mp hresolve).1
      refine .inl ⟨workspace, other.assemble, rfl, ?_⟩
      rw [resolve_eq_ok_iff_keeps]
      exact ⟨fun rule => (h rule).mp (hkeeps rule), rfl⟩
  | error error =>
      have hfails : declaration.FailsFirst error.rule :=
        exists_resolve_eq_error_iff.mp ⟨error, hresolve, rfl⟩
      have hfails' : other.FailsFirst error.rule := by
        simpa only [FailsFirst, h] using hfails
      obtain ⟨error', hresolve', hrule⟩ := exists_resolve_eq_error_iff.mpr hfails'
      exact .inr ⟨error, error', rfl, hresolve', hrule.symm⟩

/-! ## The same items in another order -/

/-- The other declaration has the same items in its lists, in whatever order, and the same
set of flags. -/
structure Permutes (declaration other : Declaration) : Prop where
  rootName : other.rootName = declaration.rootName
  features : ∀ flag, flag ∈ other.features ↔ flag ∈ declaration.features
  pluginRepositories : other.pluginRepositories.Perm declaration.pluginRepositories
  dependencyRepositories : other.dependencyRepositories.Perm declaration.dependencyRepositories
  catalogs : other.catalogs.Perm declaration.catalogs
  modules : other.modules.Perm declaration.modules
  pluginBuilds : other.pluginBuilds.Perm declaration.pluginBuilds

namespace Permutes

theorem symm (h : declaration.Permutes other) : other.Permutes declaration where
  rootName := h.rootName.symm
  features := fun flag => (h.features flag).symm
  pluginRepositories := h.pluginRepositories.symm
  dependencyRepositories := h.dependencyRepositories.symm
  catalogs := h.catalogs.symm
  modules := h.modules.symm
  pluginBuilds := h.pluginBuilds.symm

theorem within (h : declaration.Permutes other) : other.Within declaration where
  rootName := h.rootName
  features := fun flag => (h.features flag).mp
  repositories := by
    intro scope
    cases scope with
    | plugin => exact h.pluginRepositories.subset
    | dependency => exact h.dependencyRepositories.subset
  catalogs := h.catalogs.subperm
  modules := h.modules.subperm
  pluginBuilds := h.pluginBuilds.subperm

/-- The order of the items has no influence on the rules that are kept. -/
theorem keeps_iff (h : declaration.Permutes other) (rule : Rule) :
    declaration.Keeps rule ↔ other.Keeps rule :=
  ⟨h.within.keeps, h.symm.within.keeps⟩

end Permutes

/-! ## Some of the items -/

/-- The smaller declaration is made by deleting items of the other one. -/
structure PartOf (smaller declaration : Declaration) : Prop where
  rootName : smaller.rootName = declaration.rootName
  features : smaller.features.Sublist declaration.features
  pluginRepositories : smaller.pluginRepositories.Sublist declaration.pluginRepositories
  dependencyRepositories :
    smaller.dependencyRepositories.Sublist declaration.dependencyRepositories
  catalogs : smaller.catalogs.Sublist declaration.catalogs
  modules : smaller.modules.Sublist declaration.modules
  pluginBuilds : smaller.pluginBuilds.Sublist declaration.pluginBuilds

theorem PartOf.refl (declaration : Declaration) : declaration.PartOf declaration where
  rootName := rfl
  features := .refl _
  pluginRepositories := .refl _
  dependencyRepositories := .refl _
  catalogs := .refl _
  modules := .refl _
  pluginBuilds := .refl _

theorem PartOf.trans (h : smaller.PartOf declaration) (h' : declaration.PartOf other) :
    smaller.PartOf other where
  rootName := h.rootName.trans h'.rootName
  features := h.features.trans h'.features
  pluginRepositories := h.pluginRepositories.trans h'.pluginRepositories
  dependencyRepositories := h.dependencyRepositories.trans h'.dependencyRepositories
  catalogs := h.catalogs.trans h'.catalogs
  modules := h.modules.trans h'.modules
  pluginBuilds := h.pluginBuilds.trans h'.pluginBuilds

theorem PartOf.within (h : smaller.PartOf declaration) : smaller.Within declaration where
  rootName := h.rootName
  features := h.features.subset
  repositories := by
    intro scope
    cases scope with
    | plugin => exact h.pluginRepositories.subset
    | dependency => exact h.dependencyRepositories.subset
  catalogs := h.catalogs.subperm
  modules := h.modules.subperm
  pluginBuilds := h.pluginBuilds.subperm

/-- The modules that are left come out as before while the flag for accessors is there in
both declarations or in none. -/
theorem PartOf.modules_sublist (h : smaller.PartOf declaration)
    (hflag : Feature.typesafeProjectAccessors ∈ smaller.features ↔
      Feature.typesafeProjectAccessors ∈ declaration.features) :
    smaller.assemble.modules.Sublist declaration.assemble.modules := by
  show (smaller.modules.map smaller.workspaceModule).Sublist
    (declaration.modules.map declaration.workspaceModule)
  rw [workspaceModule_congr hflag]
  exact h.modules.map _

/-- Without the flag they come out as before but for their accessors. -/
theorem PartOf.modules_sublist_withoutAccessor (h : smaller.PartOf declaration)
    (hflag : smaller.generatesAccessors = false) :
    smaller.assemble.modules.Sublist
      (declaration.assemble.modules.map WorkspaceModule.withoutAccessor) := by
  have hmodule : smaller.workspaceModule =
      WorkspaceModule.withoutAccessor ∘ declaration.workspaceModule := by
    funext path
    simp [workspaceModule, WorkspaceModule.withoutAccessor, hflag]
  show (smaller.modules.map smaller.workspaceModule).Sublist
    ((declaration.modules.map declaration.workspaceModule).map WorkspaceModule.withoutAccessor)
  rw [List.map_map, ← hmodule]
  exact h.modules.map _

/-! ## Both together -/

/-- Whether a declaration resolves, and for which rule it fails if it does not, has nothing
to do with the order of its lists. If it resolves, so does what is left when some items are
deleted. The modules that are left are then those of the whole workspace, in their order;
when the flag for accessors is deleted they are so but for their accessors. -/
theorem verdict_of_reordering_and_deletion (declaration : Declaration) :
    (∀ other, declaration.Permutes other →
      (∃ workspace workspace', declaration.resolve = .ok workspace ∧
          other.resolve = .ok workspace') ∨
        ∃ error error', declaration.resolve = .error error ∧ other.resolve = .error error' ∧
          error.rule = error'.rule) ∧
    ∀ workspace, declaration.resolve = .ok workspace →
      ∀ smaller : Declaration, smaller.PartOf declaration →
        ∃ remaining, smaller.resolve = .ok remaining ∧
          remaining.modulePaths = smaller.modules ∧
          ((Feature.typesafeProjectAccessors ∈ smaller.features ∨
              Feature.typesafeProjectAccessors ∉ declaration.features) →
            remaining.modules.Sublist workspace.modules) ∧
          (Feature.typesafeProjectAccessors ∉ smaller.features →
            remaining.modules.Sublist
              (workspace.modules.map WorkspaceModule.withoutAccessor)) := by
  refine ⟨fun other h => resolve_of_keeps_iff h.keeps_iff, ?_⟩
  intro workspace hresolve smaller h
  obtain ⟨-, rfl⟩ := resolve_eq_ok_iff_keeps.mp hresolve
  refine ⟨smaller.assemble, h.within.resolve_eq hresolve, modulePaths_assemble smaller, ?_, ?_⟩
  · intro hflag
    apply h.modules_sublist
    apply Iff.intro
    · intro hmem
      exact h.features.subset hmem
    · intro hmem
      exact hflag.resolve_right fun hnot => hnot hmem
  · intro hflag
    apply h.modules_sublist_withoutAccessor
    rw [← Bool.not_eq_true, generatesAccessors_iff]
    exact hflag

/-- A declaration in which two modules have one accessor and two catalogs have one name. -/
def clashing : Declaration where
  rootName := "Demo"
  features := [.typesafeProjectAccessors]
  catalogs := [⟨"libs", ⟨"a.toml"⟩⟩, ⟨"libs", ⟨"b.toml"⟩⟩]
  modules := [⟨["a-b"], by decide, by decide⟩, ⟨["c"], by decide, by decide⟩,
    ⟨["a_b"], by decide, by decide⟩]

/-- The declaration `clashing` with its modules the other way round and its flag repeated. -/
def clashingReversed : Declaration where
  rootName := clashing.rootName
  features := [.typesafeProjectAccessors, .typesafeProjectAccessors]
  catalogs := clashing.catalogs
  modules := clashing.modules.reverse

theorem clashing_permutes_clashingReversed : clashing.Permutes clashingReversed where
  rootName := rfl
  features := by
    intro flag
    cases flag <;> decide
  pluginRepositories := .nil
  dependencyRepositories := .nil
  catalogs := .refl _
  modules := List.reverse_perm _
  pluginBuilds := .nil

/-- What is left of `unsorted` without the flag for accessors, a module and a catalog. -/
def unsortedRemainder : Declaration where
  rootName := unsorted.rootName
  features := [.stableConfigurationCache, .stableConfigurationCache]
  pluginRepositories := unsorted.pluginRepositories
  catalogs := unsorted.catalogs.tail
  modules := unsorted.modules.tail
  pluginBuilds := unsorted.pluginBuilds

theorem unsortedRemainder_partOf_unsorted : unsortedRemainder.PartOf unsorted where
  rootName := rfl
  features := by decide
  pluginRepositories := .refl _
  dependencyRepositories := List.nil_sublist _
  catalogs := List.tail_sublist unsorted.catalogs
  modules := List.tail_sublist unsorted.modules
  pluginBuilds := .refl _

theorem clashing_and_unsorted_verdicts :
    (∃ error error', clashing.resolve = .error error ∧ clashingReversed.resolve = .error error' ∧
        error.rule = error'.rule ∧ error.message ≠ error'.message) ∧
      ∃ remaining, unsortedRemainder.resolve = .ok remaining ∧
        remaining.modulePaths = unsortedRemainder.modules ∧
        remaining.modules.Sublist
          (unsorted.assemble.modules.map WorkspaceModule.withoutAccessor) := by
  refine ⟨?_, ?_⟩
  · rcases (verdict_of_reordering_and_deletion clashing).1 _ clashing_permutes_clashingReversed with
      ⟨workspace, -, hresolve, -⟩ | ⟨error, error', hresolve, hresolve', hrule⟩
    · cases hresolve
    · refine ⟨error, error', hresolve, hresolve', hrule, ?_⟩
      cases hresolve
      cases hresolve'
      decide +kernel
  · obtain ⟨remaining, hresolve, hpaths, -, hmodules⟩ :=
      (verdict_of_reordering_and_deletion unsorted).2 unsorted.assemble rfl _
        unsortedRemainder_partOf_unsorted
    exact ⟨remaining, hresolve, hpaths, hmodules (by decide)⟩

end Declaration

end BuildSettings

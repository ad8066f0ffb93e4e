/-
# What keeping the rules means

Resolution is described by the first rule that is broken. To know what holds of a
declaration that resolves, it is the rules themselves that count, all at once and
each as a plain fact: a name, lists without repeats, locations that are not blank.
A declaration resolves exactly when it keeps every rule, and then to the one
workspace that is assembled from it.

All rules forbid something: a blank text, or two items with one key. None asks for an
item to be there or looks at the order, so a declaration that holds nothing more than
another one keeps every rule that the other keeps.
-/

import Mathlib.Data.List.Perm.Subperm
import BuildSettings.Proofs.Workspace.Rules

namespace BuildSettings.Declaration

variable {declaration smaller : Declaration}

/-- The declaration keeps a rule. -/
def Keeps (declaration : Declaration) : Rule → Prop
  | .rootName => Text.trim declaration.rootName ≠ ""
  | .modules => declaration.modules.Nodup
  | .accessors => Feature.typesafeProjectAccessors ∈ declaration.features →
      (declaration.modules.map ModulePath.accessor).Nodup
  | .catalogs => (declaration.catalogs.map CatalogDeclaration.name).Nodup
  | .locations scope => ∀ repository ∈ declaration.repositories scope,
      Text.trim repository.location ≠ ""
  | .builds => (declaration.pluginBuilds.map Path.components).Nodup

/-- The check that belongs to a rule passes exactly when the rule is kept. -/
theorem check?_eq_none_iff_keeps {rule : Rule} :
    declaration.check? rule = none ↔ declaration.Keeps rule := by
  cases rule with
  | rootName =>
      rw [check?, nameViolation?, Keeps, ne_eq, ← Text.blank_iff_trim_eq_empty]
      cases Text.blank declaration.rootName <;> simp
  | modules => rw [check?_eq_none_iff, ← nodup_modules_iff, Keeps]
  | accessors =>
      rw [check?, accessorViolation?, Keeps, ← generatesAccessors_iff]
      split
      · rename_i hflag
        rw [Option.map_eq_none_iff, firstRepeat?_eq_none_iff]
        exact (imp_iff_right hflag).symm
      · rename_i hflag
        exact iff_of_true rfl fun h => absurd h hflag
  | catalogs =>
      rw [check?, catalogViolation?, Option.map_eq_none_iff, firstRepeat?_eq_none_iff, Keeps]
  | locations scope =>
      rw [check?, locationViolation?, Option.map_eq_none_iff, List.findIdx?_eq_none_iff, Keeps]
      simp only [ne_eq, ← Text.blank_iff_trim_eq_empty, Bool.not_eq_true]
  | builds =>
      rw [check?, buildViolation?, Option.map_eq_none_iff, firstRepeat?_eq_none_iff, Keeps]

instance (declaration : Declaration) (rule : Rule) : Decidable (declaration.Keeps rule) :=
  decidable_of_iff ((declaration.check? rule).isNone = true)
    (by rw [Option.isNone_iff_eq_none, check?_eq_none_iff_keeps])

/-- A rule is broken in some way exactly when it is not kept. -/
theorem exists_breaks_iff {rule : Rule} :
    (∃ error, declaration.Breaks rule error) ↔ ¬ declaration.Keeps rule := by
  rw [← check?_eq_none_iff_keeps, check?_eq_none_iff, not_forall_not]

/-- A declaration resolves when it keeps every rule, and to nothing else than the
workspace assembled from it. -/
theorem resolve_eq_ok_iff_keeps {workspace : Workspace} :
    declaration.resolve = .ok workspace ↔
      (∀ rule, declaration.Keeps rule) ∧ workspace = declaration.assemble := by
  rw [resolve_eq_ok_iff]
  simp only [← check?_eq_none_iff, check?_eq_none_iff_keeps]

/-! ## Declarations that hold no more than another -/

/-- Everything in a declaration is also in another one of the same name, and nothing that
can be repeated occurs more often. -/
structure Within (smaller declaration : Declaration) : Prop where
  rootName : smaller.rootName = declaration.rootName
  features : smaller.features ⊆ declaration.features
  repositories : ∀ scope, smaller.repositories scope ⊆ declaration.repositories scope
  catalogs : smaller.catalogs.Subperm declaration.catalogs
  modules : smaller.modules.Subperm declaration.modules
  pluginBuilds : smaller.pluginBuilds.Subperm declaration.pluginBuilds

/-- Some of the items of a list have different keys when all of them have. -/
theorem nodup_map_of_subperm {α κ : Type} {key : α → κ} {chosen items : List α}
    (h : chosen.Subperm items) (hnodup : (items.map key).Nodup) : (chosen.map key).Nodup := by
  obtain ⟨kept, hperm, hsublist⟩ := h
  exact (hperm.map key).nodup_iff.mp (hnodup.sublist (hsublist.map key))

/-- A declaration that holds no more than another keeps the rules that the other keeps. -/
theorem Within.keeps (h : smaller.Within declaration) {rule : Rule}
    (hkeeps : declaration.Keeps rule) : smaller.Keeps rule := by
  cases rule with
  | rootName =>
      rw [Keeps, h.rootName]
      exact hkeeps
  | modules =>
      rw [Keeps, ← List.map_id smaller.modules]
      apply nodup_map_of_subperm h.modules
      rw [List.map_id]
      exact hkeeps
  | accessors =>
      intro hflag
      exact nodup_map_of_subperm h.modules (hkeeps (h.features hflag))
  | catalogs => exact nodup_map_of_subperm h.catalogs hkeeps
  | locations scope =>
      intro repository hrepository
      exact hkeeps repository (h.repositories scope hrepository)
  | builds => exact nodup_map_of_subperm h.pluginBuilds hkeeps

/-- A declaration that holds no more than one that resolves does so as well. -/
theorem Within.resolve_eq {workspace : Workspace} (h : smaller.Within declaration)
    (hresolve : declaration.resolve = .ok workspace) : smaller.resolve = .ok smaller.assemble := by
  rw [resolve_eq_ok_iff_keeps]
  exact ⟨fun rule => h.keeps ((resolve_eq_ok_iff_keeps.mp hresolve).1 rule), rfl⟩

end BuildSettings.Declaration

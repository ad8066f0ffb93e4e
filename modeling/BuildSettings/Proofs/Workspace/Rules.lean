/-
# The first broken rule

Resolution rejects a declaration for one reason at a time. The rules below say
of the declaration alone when each of them is broken and what is reported then:
a repeat at the first position whose key has occurred before, a blank location
at the first position that has one. A declaration resolves exactly when no rule
is broken; otherwise the error is that of the first broken rule in their order,
whatever else is wrong with the declaration.
-/

import BuildSettings.Proofs.FirstFault
import BuildSettings.Proofs.ModulePath.Reading
import BuildSettings.Proofs.Workspace.FirstRepeat

namespace BuildSettings

/-- The rules of resolution. -/
inductive Rule
  | rootName
  | modules
  | accessors
  | catalogs
  | locations (scope : RepositoryScope)
  | builds

namespace Rule

/-- The rules in the order in which they are checked. -/
def inOrder : List Rule :=
  [.rootName, .modules, .accessors, .catalogs, .locations .plugin, .locations .dependency, .builds]

/-- The place of a rule in the order. -/
def place : Rule → Nat
  | .rootName => 0
  | .modules => 1
  | .accessors => 2
  | .catalogs => 3
  | .locations .plugin => 4
  | .locations .dependency => 5
  | .builds => 6

theorem mem_inOrder (rule : Rule) : rule ∈ inOrder := by
  cases rule with
  | locations scope => cases scope <;> simp [inOrder]
  | _ => simp [inOrder]

theorem pairwise_inOrder : inOrder.Pairwise fun a b => a.place < b.place := by
  simp [inOrder, place]

end Rule

/-- A position is the first one in a list of repositories whose location is blank. -/
structure FirstBlankLocation (repositories : List Repository) (index : Nat) : Prop where
  blank_at : ∃ repository, repositories[index]? = some repository ∧
    Text.trim repository.location = ""
  none_before : ∀ i repository, i < index → repositories[i]? = some repository →
    Text.trim repository.location ≠ ""

namespace Declaration

/-- The repository list of a scope. -/
def repositories (declaration : Declaration) : RepositoryScope → List Repository
  | .plugin => declaration.pluginRepositories
  | .dependency => declaration.dependencyRepositories

/-- A declaration breaks a rule, and this is what is wrong. -/
inductive Breaks (declaration : Declaration) : Rule → ResolveError → Prop
  | rootName :
      Text.trim declaration.rootName = "" → Breaks declaration .rootName .blankName
  | modules {i j first second} :
      FirstRepeat id declaration.modules i j first second →
        Breaks declaration .modules (.duplicateModule second)
  | accessors {i j first second} :
      Feature.typesafeProjectAccessors ∈ declaration.features →
        FirstRepeat ModulePath.accessor declaration.modules i j first second →
          Breaks declaration .accessors (.duplicateAccessor second.accessor first second)
  | catalogs {i j first second} :
      FirstRepeat CatalogDeclaration.name declaration.catalogs i j first second →
        Breaks declaration .catalogs (.duplicateCatalog second.name)
  | locations {scope index} :
      FirstBlankLocation (declaration.repositories scope) index →
        Breaks declaration (.locations scope) (.emptyLocation scope index)
  | builds {i j first second} :
      FirstRepeat Path.components declaration.pluginBuilds i j first second →
        Breaks declaration .builds (.duplicateBuild second)

/-- The check that belongs to a rule. -/
def check? (declaration : Declaration) : Rule → Option ResolveError
  | .rootName => declaration.nameViolation?
  | .modules => declaration.moduleViolation?
  | .accessors => declaration.accessorViolation?
  | .catalogs => declaration.catalogViolation?
  | .locations scope => locationViolation? scope (declaration.repositories scope)
  | .builds => declaration.buildViolation?

/-- The checks are made one after the other until one of them fails. -/
theorem violation?_eq_findSome? (declaration : Declaration) :
    declaration.violation? = Rule.inOrder.findSome? declaration.check? := by
  simp only [violation?, Rule.inOrder, List.findSome?_cons, List.findSome?_nil, check?,
    repositories]
  cases declaration.nameViolation? <;> cases declaration.moduleViolation? <;>
    cases declaration.accessorViolation? <;> cases declaration.catalogViolation? <;>
    cases locationViolation? .plugin declaration.pluginRepositories <;>
    cases locationViolation? .dependency declaration.dependencyRepositories <;>
    cases declaration.buildViolation? <;> rfl

/-! ## One rule at a time -/

/-- A check for repeats fails at the first repeat and reports that. -/
theorem map_firstRepeat?_eq_some_iff {α κ : Type} [DecidableEq κ] {key : α → κ}
    {items : List α} {report : α × α → ResolveError} {error : ResolveError} :
    (firstRepeat? key items).map report = some error ↔
      ∃ i j first second, FirstRepeat key items i j first second ∧
        report (first, second) = error := by
  rw [Option.map_eq_some_iff]
  apply Iff.intro
  · intro h
    rcases h with ⟨⟨first, second⟩, hfound, hreport⟩
    obtain ⟨i, j, hrepeat⟩ := firstRepeat?_eq_some_iff.mp hfound
    exact ⟨i, j, first, second, hrepeat, hreport⟩
  · intro h
    rcases h with ⟨i, j, first, second, hrepeat, hreport⟩
    exact ⟨(first, second), firstRepeat?_eq_some_iff.mpr ⟨i, j, hrepeat⟩, hreport⟩

/-- The check of locations fails at the first blank one. -/
theorem findIdx?_blank_eq_some_iff {repositories : List Repository} {index : Nat} :
    (repositories.findIdx? fun repository => Text.blank repository.location) = some index ↔
      FirstBlankLocation repositories index := by
  rw [List.findIdx?_eq_some_iff_getElem]
  simp only [Text.blank_iff_trim_eq_empty]
  apply Iff.intro
  · intro h
    rcases h with ⟨hlt, hblank, hbefore⟩
    refine ⟨⟨_, List.getElem?_eq_getElem hlt, hblank⟩, ?_⟩
    intro i repository hi hat
    obtain ⟨_, rfl⟩ := List.getElem?_eq_some_iff.mp hat
    exact hbefore i hi
  · intro h
    rcases h with ⟨⟨repository, hat, hblank⟩, hbefore⟩
    obtain ⟨hlt, rfl⟩ := List.getElem?_eq_some_iff.mp hat
    refine ⟨hlt, hblank, ?_⟩
    intro i hi
    exact hbefore i _ hi (List.getElem?_eq_getElem (Nat.lt_trans hi hlt))

theorem generatesAccessors_iff {declaration : Declaration} :
    declaration.generatesAccessors = true ↔
      Feature.typesafeProjectAccessors ∈ declaration.features :=
  List.contains_iff_mem

/-- Two declarations that both ask for accessors, or both do not, generate them alike. -/
theorem generatesAccessors_congr {declaration other : Declaration}
    (h : Feature.typesafeProjectAccessors ∈ declaration.features ↔
      Feature.typesafeProjectAccessors ∈ other.features) :
    declaration.generatesAccessors = other.generatesAccessors := by
  rw [Bool.eq_iff_iff, generatesAccessors_iff, generatesAccessors_iff, h]

/-- They also make the same modules of their paths. -/
theorem workspaceModule_congr {declaration other : Declaration}
    (h : Feature.typesafeProjectAccessors ∈ declaration.features ↔
      Feature.typesafeProjectAccessors ∈ other.features) :
    declaration.workspaceModule = other.workspaceModule := by
  funext path
  rw [workspaceModule, workspaceModule, generatesAccessors_congr h]

/-- The check that belongs to a rule fails exactly when the rule is broken, and
reports what is wrong. -/
theorem check?_eq_some_iff {declaration : Declaration} {rule : Rule} {error : ResolveError} :
    declaration.check? rule = some error ↔ declaration.Breaks rule error := by
  cases rule with
  | rootName =>
      rw [check?, nameViolation?]
      apply Iff.intro
      · intro h
        split at h
        · rename_i hblank
          obtain rfl := Option.some.inj h
          exact .rootName (Text.blank_iff_trim_eq_empty.mp hblank)
        · cases h
      · intro h
        cases h with
        | rootName hblank => rw [if_pos (Text.blank_iff_trim_eq_empty.mpr hblank)]
  | modules =>
      rw [check?, moduleViolation?, map_firstRepeat?_eq_some_iff]
      apply Iff.intro
      · intro h
        rcases h with ⟨i, j, first, second, hrepeat, rfl⟩
        exact .modules hrepeat
      · intro h
        cases h with
        | modules hrepeat => exact ⟨_, _, _, _, hrepeat, rfl⟩
  | accessors =>
      rw [check?, accessorViolation?]
      by_cases hflag : declaration.generatesAccessors = true
      · rw [if_pos hflag, map_firstRepeat?_eq_some_iff]
        apply Iff.intro
        · intro h
          rcases h with ⟨i, j, first, second, hrepeat, rfl⟩
          exact .accessors (generatesAccessors_iff.mp hflag) hrepeat
        · intro h
          cases h with
          | accessors _ hrepeat => exact ⟨_, _, _, _, hrepeat, rfl⟩
      · rw [if_neg hflag]
        apply Iff.intro
        · intro h
          cases h
        · intro h
          cases h with
          | accessors hmem => exact absurd (generatesAccessors_iff.mpr hmem) hflag
  | catalogs =>
      rw [check?, catalogViolation?, map_firstRepeat?_eq_some_iff]
      apply Iff.intro
      · intro h
        rcases h with ⟨i, j, first, second, hrepeat, rfl⟩
        exact .catalogs hrepeat
      · intro h
        cases h with
        | catalogs hrepeat => exact ⟨_, _, _, _, hrepeat, rfl⟩
  | locations scope =>
      rw [check?, locationViolation?, Option.map_eq_some_iff]
      simp only [findIdx?_blank_eq_some_iff]
      apply Iff.intro
      · intro h
        rcases h with ⟨index, hfirst, rfl⟩
        exact .locations hfirst
      · intro h
        cases h with
        | locations hfirst => exact ⟨_, hfirst, rfl⟩
  | builds =>
      rw [check?, buildViolation?, map_firstRepeat?_eq_some_iff]
      apply Iff.intro
      · intro h
        rcases h with ⟨i, j, first, second, hrepeat, rfl⟩
        exact .builds hrepeat
      · intro h
        cases h with
        | builds hrepeat => exact ⟨_, _, _, _, hrepeat, rfl⟩

/-- The check that belongs to a rule passes exactly when the rule is not broken. -/
theorem check?_eq_none_iff {declaration : Declaration} {rule : Rule} :
    declaration.check? rule = none ↔ ∀ error, ¬ declaration.Breaks rule error := by
  rw [Option.eq_none_iff_forall_ne_some]
  simp only [ne_eq, check?_eq_some_iff]

/-- No module is included twice exactly when the rule about modules is kept. -/
theorem nodup_modules_iff {declaration : Declaration} :
    declaration.modules.Nodup ↔ ∀ error, ¬ declaration.Breaks .modules error := by
  rw [← check?_eq_none_iff, check?, moduleViolation?, Option.map_eq_none_iff,
    firstRepeat?_eq_none_iff, List.map_id]

/-! ## All rules in order -/

/-- This is what is wrong with the first rule that is broken. -/
def FirstBroken (declaration : Declaration) (error : ResolveError) : Prop :=
  ∃ rule, declaration.Breaks rule error ∧
    ∀ other, other.place < rule.place → ∀ e, ¬ declaration.Breaks other e

theorem violation?_eq_some_iff {declaration : Declaration} {error : ResolveError} :
    declaration.violation? = some error ↔ declaration.FirstBroken error := by
  rw [violation?_eq_findSome?, findSome?_eq_some_iff_of_pairwise Rule.pairwise_inOrder
    fun _ _ => Nat.lt_asymm]
  simp only [FirstBroken, check?_eq_some_iff, check?_eq_none_iff, Rule.mem_inOrder, true_and,
    true_implies]

theorem violation?_eq_none_iff {declaration : Declaration} :
    declaration.violation? = none ↔ ∀ rule error, ¬ declaration.Breaks rule error := by
  rw [violation?_eq_findSome?, List.findSome?_eq_none_iff]
  simp only [Rule.mem_inOrder, true_implies, check?_eq_none_iff]

/-- Resolution fails with what is wrong with the first broken rule. -/
theorem resolve_eq_error_iff {declaration : Declaration} {error : ResolveError} :
    declaration.resolve = .error error ↔ declaration.FirstBroken error := by
  rw [← violation?_eq_some_iff, resolve]
  cases declaration.violation? <;> simp

/-- Resolution succeeds when no rule is broken. -/
theorem resolve_eq_ok_iff {declaration : Declaration} {workspace : Workspace} :
    declaration.resolve = .ok workspace ↔
      (∀ rule error, ¬ declaration.Breaks rule error) ∧ workspace = declaration.assemble := by
  rw [← violation?_eq_none_iff, resolve]
  cases declaration.violation? <;> simp [eq_comm]

/-- A module that is reported for its accessor is not included twice itself, and
up to the module that repeats it no third one has the accessor. -/
theorem owner_of_firstBroken {declaration : Declaration} {accessor : String}
    {first second : ModulePath}
    (h : declaration.FirstBroken (.duplicateAccessor accessor first second)) :
    first.text ≠ second.text ∧ ∃ i j,
      FirstRepeat ModulePath.accessor declaration.modules i j first second ∧
        second.accessor = accessor ∧ ∀ k path, k < j →
          declaration.modules[k]? = some path → path.accessor = accessor → k = i := by
  obtain ⟨rule, hbreaks, hearlier⟩ := h
  cases hbreaks with
  | accessors hflag hrepeat =>
      refine ⟨?_, _, _, hrepeat, rfl, fun k path => hrepeat.eq_earlier⟩
      intro htext
      have hpaths : first = second := ModulePath.text_injective htext
      have hnodup := nodup_modules_iff.mpr (hearlier .modules (by decide))
      obtain ⟨hi, hfirst⟩ := List.getElem?_eq_some_iff.mp hrepeat.first_at
      obtain ⟨hj, hsecond⟩ := List.getElem?_eq_some_iff.mp hrepeat.second_at
      have hne := List.pairwise_iff_getElem.mp hnodup _ _ hi hj hrepeat.lt
      exact hne (hfirst.trans (hpaths.trans hsecond.symm))

/-- A declaration resolves exactly when it breaks no rule, and otherwise the
error is what is wrong with the first broken rule. Two modules that are reported
for one accessor are different, and the first of them is the only one that has
the accessor before the second. -/
theorem resolve_reports_first_broken (declaration : Declaration) :
    (∀ error, declaration.resolve = .error error ↔ declaration.FirstBroken error) ∧
    ((∃ workspace, declaration.resolve = .ok workspace) ↔
      ∀ rule error, ¬ declaration.Breaks rule error) ∧
    ∀ accessor first second,
      declaration.resolve = .error (.duplicateAccessor accessor first second) →
        first.text ≠ second.text ∧ ∃ i j,
          FirstRepeat ModulePath.accessor declaration.modules i j first second ∧
            second.accessor = accessor ∧ ∀ k path, k < j →
              declaration.modules[k]? = some path → path.accessor = accessor → k = i := by
  refine ⟨fun error => resolve_eq_error_iff, ?_, ?_⟩
  · simp only [resolve_eq_ok_iff, exists_and_left, exists_eq, and_true]
  · intro accessor first second h
    exact owner_of_firstBroken (resolve_eq_error_iff.mp h)

end Declaration

end BuildSettings

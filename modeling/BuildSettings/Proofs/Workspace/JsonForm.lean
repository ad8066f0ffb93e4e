/-
# What the JSON form of a workspace tells

The order of the members of a JSON object does not count, so two values are compared member
by member: under each name both have the same value, or neither has one. A workspace is
known by its JSON form even so. Strings are written as they are, lists as arrays in their
order, and what a flag or a kind of repository is called is not what another is called.

A module is written with the key for its accessor only if it has one. In a workspace that
comes from a declaration either all modules have an accessor or none has, and which of them
it is can be told from the features.
-/

import BuildSettings.Proofs.Workspace.Sameness
import BuildSettings.Workspace.Json

namespace BuildSettings

namespace Json

variable {value other : Json} {items others : List Json} {members entries : List (String × Json)}

/-! ## Comparing values -/

/-- The member of an object under a name. -/
def member? : Json → String → Option Json
  | .object members, name => members.lookup name
  | _, _ => none

/-- Two values are the same but for the order of members. -/
inductive Same : Json → Json → Prop
  | string {text : String} : Same (.string text) (.string text)
  | array {items others : List Json} :
      List.Forall₂ Same items others → Same (.array items) (.array others)
  | object {members entries : List (String × Json)} :
      (∀ name, Option.Rel Same (members.lookup name) (entries.lookup name)) →
      Same (.object members) (.object entries)

/-- No object of a value has two members of one name, so none is lost when the members are
looked up. -/
inductive Proper : Json → Prop
  | string {text : String} : Proper (.string text)
  | array {items : List Json} : (∀ item ∈ items, Proper item) → Proper (.array items)
  | object {members : List (String × Json)} : (members.map Prod.fst).Nodup →
      (∀ member ∈ members, Proper member.2) → Proper (.object members)

theorem Proper.array_map {α : Type} {toJson : α → Json} (h : ∀ a, (toJson a).Proper)
    (as : List α) : (Json.array (as.map toJson)).Proper := by
  apply Proper.array
  rw [List.forall_mem_map]
  exact fun a _ => h a

/-- What is found under a name is smaller than the list it is found in. -/
theorem sizeOf_lt_of_lookup {name : String} (h : members.lookup name = some value) :
    sizeOf value < sizeOf members := by
  obtain ⟨before, after, rfl, -⟩ := List.lookup_eq_some_iff.mp h
  have hmem : (name, value) ∈ before ++ (name, value) :: after :=
    List.mem_append_right _ List.mem_cons_self
  have hlt := List.sizeOf_lt_of_mem hmem
  rw [Prod.mk.sizeOf_spec] at hlt
  omega

namespace Same

theorem refl (value : Json) : value.Same value := by
  -- The recursion is on the value. A member is reached by look-up, not by its place in the
  -- list, so that it is smaller needs a lemma.
  match value with
  | .string text => exact .string
  | .array items =>
      apply Same.array
      rw [List.forall₂_same]
      intro item hitem
      exact refl item
  | .object members =>
      apply Same.object
      intro name
      cases hlookup : members.lookup name with
      | none => exact .none
      | some held =>
          have hlt := sizeOf_lt_of_lookup hlookup
          exact .some (refl held)

theorem string_iff {text text' : String} :
    (Json.string text).Same (.string text') ↔ text = text' := by
  apply Iff.intro
  · intro h
    cases h
    rfl
  · rintro rfl
    exact .string

theorem array_iff : (Json.array items).Same (.array others) ↔ List.Forall₂ Same items others := by
  apply Iff.intro
  · intro h
    cases h with
    | array hitems => exact hitems
  · exact .array

/-- Values that are the same have the same members. -/
theorem rel_member? (h : value.Same other) (name : String) :
    Option.Rel Same (value.member? name) (other.member? name) := by
  cases h with
  | object hmembers => exact hmembers name
  | _ => exact .none

theorem of_member? {held held' : Json} (h : value.Same other) (name : String)
    (hvalue : value.member? name = some held) (hother : other.member? name = some held') :
    held.Same held' := by
  have hrel := h.rel_member? name
  rw [hvalue, hother] at hrel
  exact Option.rel_some_some.mp hrel

/-! Lists and optional values are the same when their forms are, if this is so for the
values themselves. -/

section

variable {α : Type} {toJson : α → Json} (hinj : ∀ a b, (toJson a).Same (toJson b) → a = b)

include hinj

theorem eq_of_array_map {as bs : List α}
    (h : (Json.array (as.map toJson)).Same (.array (bs.map toJson))) : as = bs := by
  rw [array_iff, List.forall₂_map_left_iff, List.forall₂_map_right_iff] at h
  rw [← List.forall₂_eq_eq_eq]
  exact h.imp hinj

theorem eq_of_rel_map {a? b? : Option α}
    (h : Option.Rel Same (a?.map toJson) (b?.map toJson)) : a? = b? := by
  cases a? with
  | none =>
      cases b? with
      | none => rfl
      | some b => cases h
  | some a =>
      cases b? with
      | none => cases h
      | some b => rw [hinj a b (Option.rel_some_some.mp h)]

end

end Same

end Json

/-! ## The parts of a workspace -/

theorem Feature.name_injective {flag flag' : Feature} (h : flag.name = flag'.name) :
    flag = flag' := by
  revert h
  cases flag <;> cases flag' <;> decide

theorem RepositoryKind.name_injective {kind kind' : RepositoryKind}
    (h : kind.name = kind'.name) : kind = kind' := by
  revert h
  cases kind <;> cases kind' <;> decide

theorem Path.eq_of_same_toJson {a b : Path} (h : a.toJson.Same b.toJson) : a = b := by
  obtain ⟨spelling⟩ := a
  obtain rfl := Json.Same.string_iff.mp h
  rfl

theorem Repository.eq_of_same_toJson {a b : Repository} (h : a.toJson.Same b.toJson) : a = b := by
  obtain ⟨kind, location⟩ := a
  obtain rfl := RepositoryKind.name_injective
    (Json.Same.string_iff.mp (h.of_member? "kind" rfl rfl))
  obtain rfl := Json.Same.string_iff.mp (h.of_member? "location" rfl rfl)
  rfl

/-- A module is written with its accessor if it has one, and without the key if not. -/
theorem WorkspaceModule.member?_accessor_toJson (item : WorkspaceModule) :
    item.toJson.member? "accessor" = item.accessor?.map .string := by
  obtain ⟨path, projectDir, accessor?⟩ := item
  cases accessor? <;> rfl

theorem WorkspaceModule.eq_of_same_toJson {a b : WorkspaceModule}
    (h : a.toJson.Same b.toJson) : a = b := by
  have haccessor := h.rel_member? "accessor"
  rw [member?_accessor_toJson, member?_accessor_toJson] at haccessor
  obtain ⟨path, projectDir, accessor?⟩ := a
  obtain rfl := ModulePath.text_injective
    (Json.Same.string_iff.mp (h.of_member? "path" rfl rfl))
  obtain rfl := Path.eq_of_same_toJson (h.of_member? "project_dir" rfl rfl)
  obtain rfl := Json.Same.eq_of_rel_map (fun _ _ => Json.Same.string_iff.mp) haccessor
  rfl

theorem Repository.proper_toJson (repository : Repository) : repository.toJson.Proper := by
  apply Json.Proper.object
  · show ["kind", "location"].Nodup
    decide
  · simp [Json.Proper.string]

theorem WorkspaceModule.proper_toJson (item : WorkspaceModule) : item.toJson.Proper := by
  obtain ⟨path, projectDir, accessor?⟩ := item
  cases accessor? with
  | none =>
      apply Json.Proper.object
      · show ["path", "project_dir"].Nodup
        decide
      · simp [Json.Proper.string, Path.toJson]
  | some accessor =>
      apply Json.Proper.object
      · show ["path", "project_dir", "accessor"].Nodup
        decide
      · simp [Json.Proper.string, Path.toJson]

/-- A catalog is found under its name. -/
theorem NameMap.eq_of_same_object {m n : NameMap Path}
    (h : (Json.object (m.toList.map fun entry => (entry.1, entry.2.toJson))).Same
      (.object (n.toList.map fun entry => (entry.1, entry.2.toJson)))) : m = n := by
  apply NameMap.eq_of_get?
  intro name
  have hrel : Option.Rel Json.Same ((m.mapValues Path.toJson).get? name)
      ((n.mapValues Path.toJson).get? name) :=
    h.rel_member? name
  rw [get?_mapValues, get?_mapValues] at hrel
  exact Json.Same.eq_of_rel_map (fun _ _ => Path.eq_of_same_toJson) hrel

/-- The modules of a workspace have accessors when the flag for them is among its features. -/
theorem Declaration.isSome_accessor?_iff {declaration : Declaration} {item : WorkspaceModule}
    (hitem : item ∈ declaration.assemble.modules) :
    item.accessor?.isSome = true ↔
      Feature.typesafeProjectAccessors ∈ declaration.assemble.features := by
  obtain ⟨path, -, rfl⟩ := List.mem_map.mp hitem
  simp only [Option.isSome_iff_exists, accessor?_workspaceModule_eq_some_iff, exists_and_left,
    exists_eq, and_true]
  exact Feature.mem_distinct.symm

namespace Workspace

variable {workspace other : Workspace}

/-! ## The whole workspace -/

theorem eq_of_same_toJson (h : workspace.toJson.Same other.toJson) : workspace = other := by
  have hrepositories (a b : Repository) : a.toJson.Same b.toJson → a = b :=
    Repository.eq_of_same_toJson
  have hfeatures (a b : Feature) : (Json.string a.name).Same (.string b.name) → a = b :=
    fun hsame => Feature.name_injective (Json.Same.string_iff.mp hsame)
  have hmodules (a b : WorkspaceModule) : a.toJson.Same b.toJson → a = b :=
    WorkspaceModule.eq_of_same_toJson
  have hbuilds (a b : Path) : a.toJson.Same b.toJson → a = b := Path.eq_of_same_toJson
  obtain ⟨rootName, pluginRepositories, dependencyRepositories, catalogs, features, modules,
    pluginBuilds⟩ := workspace
  obtain rfl := Json.Same.string_iff.mp (h.of_member? "root_name" rfl rfl)
  obtain rfl := Json.Same.eq_of_array_map hrepositories (h.of_member? "plugin_repositories" rfl rfl)
  obtain rfl := Json.Same.eq_of_array_map hrepositories
    (h.of_member? "dependency_repositories" rfl rfl)
  obtain rfl := NameMap.eq_of_same_object (h.of_member? "catalogs" rfl rfl)
  obtain rfl := Json.Same.eq_of_array_map hfeatures (h.of_member? "features" rfl rfl)
  obtain rfl := Json.Same.eq_of_array_map hmodules (h.of_member? "modules" rfl rfl)
  obtain rfl := Json.Same.eq_of_array_map hbuilds (h.of_member? "plugin_builds" rfl rfl)
  rfl

/-- Nothing is written twice under one name. Only the names of catalogs are not fixed, and
these are the names of a map. -/
theorem proper_toJson (workspace : Workspace) : workspace.toJson.Proper := by
  have hcatalogs : (Json.object (workspace.catalogs.toList.map
      fun entry => (entry.1, entry.2.toJson))).Proper := by
    apply Json.Proper.object
    · rw [List.map_map]
      exact workspace.catalogs.nodup_names
    · rw [List.forall_mem_map]
      exact fun entry _ => .string
  apply Json.Proper.object
  · show ["root_name", "plugin_repositories", "dependency_repositories", "catalogs", "features",
      "modules", "plugin_builds"].Nodup
    decide
  simp only [List.forall_mem_cons, List.not_mem_nil, false_implies, implies_true, and_true]
  exact ⟨.string, .array_map Repository.proper_toJson _, .array_map Repository.proper_toJson _,
    hcatalogs, .array_map (fun _ => .string) _, .array_map WorkspaceModule.proper_toJson _,
    .array_map (fun _ => .string) _⟩

/-- A workspace is known by its JSON form, with the spelling of every path. In the form of a
workspace that a declaration resolves to, the modules have the key for accessors when the
flag for them is set, and otherwise none of them has it. -/
theorem known_by_toJson :
    (∀ workspace other : Workspace, workspace.toJson.Proper ∧
      (workspace.toJson.Same other.toJson ↔ workspace = other)) ∧
    ∀ (declaration : Declaration) (workspace : Workspace), declaration.resolve = .ok workspace →
      ∃ items, workspace.toJson.member? "modules" = some (.array items) ∧
        items.length = workspace.modules.length ∧
        ∀ item ∈ items, (item.member? "accessor").isSome = true ↔
          Feature.typesafeProjectAccessors ∈ workspace.features := by
  refine ⟨?_, ?_⟩
  · intro workspace other
    refine ⟨workspace.proper_toJson, eq_of_same_toJson, ?_⟩
    rintro rfl
    exact .refl _
  · intro declaration workspace hresolve
    obtain ⟨-, rfl⟩ := Declaration.resolve_eq_ok_iff_keeps.mp hresolve
    refine ⟨_, rfl, List.length_map _, ?_⟩
    rw [List.forall_mem_map]
    intro item hitem
    rw [WorkspaceModule.member?_accessor_toJson, Option.isSome_map]
    exact Declaration.isSome_accessor?_iff hitem

/-- The workspaces of `unsorted` and `reordered` count as the same, but their forms tell
how builds are spelled. -/
theorem unsorted_known_by_toJson :
    (∃ items, Declaration.unsorted.assemble.toJson.member? "modules" = some (.array items) ∧
      items.length = 2 ∧ ∀ item ∈ items, (item.member? "accessor").isSome = true) ∧
    Declaration.unsorted.assemble.same Declaration.reordered.assemble = true ∧
    ¬ Declaration.unsorted.assemble.toJson.Same Declaration.reordered.assemble.toJson := by
  refine ⟨?_, ?_, ?_⟩
  · obtain ⟨items, hitems, hlength, haccessor⟩ := known_by_toJson.2 Declaration.unsorted _ rfl
    exact ⟨items, hitems, hlength, fun item hitem => (haccessor item hitem).mpr (by decide)⟩
  · decide +kernel
  · rw [(known_by_toJson.1 _ _).2]
    intro h
    have hspellings := congrArg (fun workspace => workspace.pluginBuilds.map Path.spelling) h
    exact absurd hspellings (by decide)

end Workspace

end BuildSettings

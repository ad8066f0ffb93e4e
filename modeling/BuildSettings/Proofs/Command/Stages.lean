/-
# The stages of loading

Before a command can answer, a settings file is located, read, parsed and resolved. For
a catalog there follow four more stages: the catalog is looked up, read, parsed and
resolved. Every stage works on what the one before it gave, so loading succeeds when all
stages do, and otherwise fails with the error of the first stage that fails. Here both
are told stage by stage, by relations that know nothing of how the stages are run.

The settings file is the one that is named, or the one in the nearest directory that
holds one, counted from the working directory upwards.
-/

import BuildSettings.Command.Load
import BuildSettings.Proofs.FirstFault

namespace BuildSettings

/-! ## What the stages give -/

/-- Of a path and the directories above it, the nearest one with a property. -/
def Path.Nearest (start : Path) (holds : Path → Prop) (dir : Path) : Prop :=
  ∃ below above, start.ancestors = below ++ dir :: above ∧
    (∀ other ∈ below, ¬ holds other) ∧ holds dir

namespace Host

/-- There is a settings file in a directory. -/
def HoldsSettings (host : Host Id) (dir : Path) : Prop :=
  (host.isFile (dir.join ⟨settingsName⟩)).run = true

/-- The settings file that counts is located. -/
inductive Locates (host : Host Id) : Option Path → Path → Prop
  | named (path : Path) : Locates host (some path) path
  | nearest {start dir : Path} : host.workingDir.run = .ok start →
      start.Nearest host.HoldsSettings dir → Locates host none (dir.join ⟨settingsName⟩)

/-- A text with its references replaced by the variables of a host. -/
def expanded (host : Host Id) (text : String) : String :=
  BuildSettings.interpolate (fun key => (host.getVariable key).run) text

/-- All stages succeed and give a workspace, with the directory of its settings file. -/
inductive Loads (host : Host Id) (settings? : Option Path) : LoadedWorkspace → Prop
  | intro {path : Path} {text : String} {declaration : Declaration} {workspace : Workspace} :
      host.Locates settings? path → (host.read path).run = .ok text →
      Declaration.ofText (host.expanded text) = .ok declaration →
      declaration.resolve = .ok workspace →
      Loads host settings? ⟨path.parent?.getD ⟨"."⟩, workspace⟩

/-- The first stage that fails gives an error. -/
inductive FailsToLoad (host : Host Id) : Option Path → LoadError → Prop
  | workingDir {error : ReadError} : host.workingDir.run = .error error →
      FailsToLoad host none (.noWorkingDir error)
  | location {start : Path} : host.workingDir.run = .ok start →
      (∀ dir ∈ start.ancestors, ¬ host.HoldsSettings dir) →
      FailsToLoad host none .noSettingsFile
  | reading {settings? : Option Path} {path : Path} {error : ReadError} :
      host.Locates settings? path → (host.read path).run = .error error →
      FailsToLoad host settings? (.unreadableSettings path error)
  | parsing {settings? : Option Path} {path : Path} {text : String} {error : DocumentError} :
      host.Locates settings? path → (host.read path).run = .ok text →
      Declaration.ofText (host.expanded text) = .error error →
      FailsToLoad host settings? (.settings error)
  | resolution {settings? : Option Path} {path : Path} {text : String}
      {declaration : Declaration} {error : ResolveError} :
      host.Locates settings? path → (host.read path).run = .ok text →
      Declaration.ofText (host.expanded text) = .ok declaration →
      declaration.resolve = .error error →
      FailsToLoad host settings? (.resolution error)

/-- All stages for a catalog succeed. Its file is seen from the root of the workspace. -/
inductive LoadsCatalog (host : Host Id) (loaded : LoadedWorkspace) (name : String) :
    Path → ResolvedCatalog → Prop
  | intro {source : Path} {text : String} {catalog : Catalog} {resolved : ResolvedCatalog} :
      loaded.workspace.catalog? name = some source →
      (host.read (loaded.rootDir.join source)).run = .ok text → Catalog.ofText text = .ok catalog →
      catalog.resolve = .ok resolved → LoadsCatalog host loaded name source resolved

/-- The first stage for a catalog that fails gives an error. -/
inductive FailsToLoadCatalog (host : Host Id) (loaded : LoadedWorkspace) (name : String) :
    LoadError → Prop
  | undeclared : loaded.workspace.catalog? name = none →
      FailsToLoadCatalog host loaded name (.undeclaredCatalog name)
  | reading {source : Path} {error : ReadError} :
      loaded.workspace.catalog? name = some source →
      (host.read (loaded.rootDir.join source)).run = .error error →
      FailsToLoadCatalog host loaded name
        (.unreadableCatalog (loaded.rootDir.join source) error)
  | parsing {source : Path} {text : String} {error : DocumentError} :
      loaded.workspace.catalog? name = some source →
      (host.read (loaded.rootDir.join source)).run = .ok text → Catalog.ofText text = .error error →
      FailsToLoadCatalog host loaded name (.catalogDocument error)
  | resolution {source : Path} {text : String} {catalog : Catalog} {error : CatalogError} :
      loaded.workspace.catalog? name = some source →
      (host.read (loaded.rootDir.join source)).run = .ok text → Catalog.ofText text = .ok catalog →
      catalog.resolve = .error error → FailsToLoadCatalog host loaded name (.catalog error)

end Host

/-! ## Running steps that can fail -/

section Steps

variable {ε α β : Type}

/-- Steps without effects run one after the other until one fails. -/
theorem run_run_bind (step : ExceptT ε Id α) (next : α → ExceptT ε Id β) :
    (step >>= next).run.run = (step.run.run >>= fun value => (next value).run.run) := by
  rw [ExceptT.run_bind, Id.run_bind]
  cases step.run.run <;> rfl

/-- A question to a host that answers without effects cannot fail. -/
theorem run_run_ask (question : Id α) (next : α → ExceptT ε Id β) :
    (@liftM Id _ (instMonadLiftTOfMonadLift Id Id (ExceptT ε Id)) _ question >>= next).run.run =
      (next question.run).run.run := rfl

theorem elim_ok_eq_ok_iff {found? : Option α} {error : ε} {value : α} :
    found?.elim (.error error) .ok = Except.ok value ↔ found? = some value := by
  cases found? <;> simp

theorem elim_ok_eq_error_iff {found? : Option α} {error other : ε} :
    found?.elim (.error error) .ok = (Except.error other : Except ε α) ↔
      found? = none ∧ error = other := by
  cases found? <;> simp

end Steps

variable {host : Host Id} {settings? : Option Path} {path start : Path}

/-! ## Locating the settings file -/

/-- The search for a file is a search through the directories. -/
theorem run_firstWithFile (isFile : Path → Id Bool) (fileName : String) (dirs : List Path) :
    (firstWithFile isFile fileName dirs).run =
      dirs.find? fun dir => (isFile (dir.join ⟨fileName⟩)).run := by
  induction dirs with
  | nil => rfl
  | cons dir rest ih =>
      rw [firstWithFile, List.find?_cons, ← ih, Id.run_bind]
      cases (isFile (dir.join ⟨fileName⟩)).run <;> rfl

/-- There is a regular file of a name in a directory. -/
def HoldsFile (isFile : Path → Id Bool) (fileName : String) (dir : Path) : Prop :=
  (isFile (dir.join ⟨fileName⟩)).run = true

/-- The search upwards finds the nearest directory with a file of the name. -/
theorem findAncestor_eq_some_iff {isFile : Path → Id Bool} {fileName : String} {dir : Path} :
    (findAncestor isFile fileName start).run = some dir ↔
      start.Nearest (HoldsFile isFile fileName) dir := by
  rw [findAncestor, run_firstWithFile, List.find?_eq_some_iff_append]
  simp only [Path.Nearest, HoldsFile, Bool.not_eq_true', Bool.not_eq_true]
  apply Iff.intro
  · rintro ⟨hholds, below, above, happend, hbelow⟩
    exact ⟨below, above, happend, hbelow, hholds⟩
  · rintro ⟨below, above, happend, hbelow, hholds⟩
    exact ⟨hholds, below, above, happend, hbelow⟩

/-- The search upwards finds nothing when no directory has a file of the name. -/
theorem findAncestor_eq_none_iff {isFile : Path → Id Bool} {fileName : String} :
    (findAncestor isFile fileName start).run = none ↔
      ∀ dir ∈ start.ancestors, ¬ HoldsFile isFile fileName dir := by
  rw [findAncestor, run_firstWithFile]
  exact List.find?_eq_none

namespace Host

/-- The search for a settings file finds the nearest directory with one. -/
theorem findAncestor_settings_eq_some_iff {dir : Path} :
    (findAncestor host.isFile settingsName start).run = some dir ↔
      start.Nearest host.HoldsSettings dir :=
  findAncestor_eq_some_iff

/-- The search for a settings file finds nothing when no directory has one. -/
theorem findAncestor_settings_eq_none_iff :
    (findAncestor host.isFile settingsName start).run = none ↔
      ∀ dir ∈ start.ancestors, ¬ host.HoldsSettings dir :=
  findAncestor_eq_none_iff

/-- Searching upwards from the working directory. -/
theorem run_locateSettings_none :
    (locateSettings host none).run.run =
      (host.workingDir.run.mapError .noWorkingDir >>= fun start =>
        (findAncestor host.isFile settingsName start).run.elim (.error .noSettingsFile)
          fun dir => .ok (dir.join ⟨settingsName⟩)) := by
  rw [locateSettings, run_run_ask]
  cases host.workingDir.run with
  | error error => rfl
  | ok start =>
      simp only [run_run_ask]
      show _ = (findAncestor host.isFile settingsName start).run.elim _ _
      cases (findAncestor host.isFile settingsName start).run <;> rfl

theorem locateSettings_eq_ok_iff :
    (locateSettings host settings?).run.run = .ok path ↔ host.Locates settings? path := by
  cases settings? with
  | some named =>
      apply Iff.intro
      · rintro ⟨⟩
        exact .named path
      · rintro ⟨⟩
        rfl
  | none =>
      rw [run_locateSettings_none, bind_eq_ok_iff]
      simp only [mapError_eq_ok_iff]
      apply Iff.intro
      · rintro ⟨start, hstart, h⟩
        cases hfound : (findAncestor host.isFile settingsName start).run with
        | none =>
            rw [hfound] at h
            cases h
        | some dir =>
            rw [hfound] at h
            obtain rfl := Except.ok.inj h
            exact .nearest hstart (findAncestor_settings_eq_some_iff.mp hfound)
      · intro h
        cases h with
        | nearest hstart hdir =>
            refine ⟨_, hstart, ?_⟩
            rw [findAncestor_settings_eq_some_iff.mpr hdir]
            rfl

theorem locateSettings_eq_error_iff {error : LoadError} :
    (locateSettings host settings?).run.run = .error error ↔
      settings? = none ∧
        ((∃ fault, host.workingDir.run = .error fault ∧ .noWorkingDir fault = error) ∨
          ∃ start, host.workingDir.run = .ok start ∧
            (∀ dir ∈ start.ancestors, ¬ host.HoldsSettings dir) ∧ .noSettingsFile = error) := by
  cases settings? with
  | some named =>
      apply iff_of_false
      · rintro ⟨⟩
      · rintro ⟨⟨⟩, -⟩
  | none =>
      rw [run_locateSettings_none, bind_eq_error_iff]
      simp only [mapError_eq_ok_iff, mapError_eq_error_iff, true_and]
      apply or_congr_right
      apply exists_congr
      intro start
      rw [← findAncestor_settings_eq_none_iff]
      cases (findAncestor host.isFile settingsName start).run <;> simp

/-! ## Reading and resolving it -/

theorem run_loadDeclaration :
    (Declaration.load host path).run.run =
      ((host.read path).run.mapError (.unreadableSettings path) >>= fun text =>
        (Declaration.ofText (host.expanded text)).mapError .settings) := by
  rw [Declaration.load, run_run_ask]
  cases (host.read path).run with
  | error error => rfl
  | ok text =>
      have hexpanded : (host.interpolate text).run = host.expanded text := rfl
      simp only [run_run_ask, hexpanded]
      show _ = (Declaration.ofText (host.expanded text)).mapError _
      cases Declaration.ofText (host.expanded text) <;> rfl

theorem run_load :
    (LoadedWorkspace.load host settings?).run.run =
      ((locateSettings host settings?).run.run >>= fun path =>
        (Declaration.load host path).run.run >>= fun declaration =>
          (declaration.resolve.mapError .resolution).map
            fun workspace => ⟨path.parent?.getD ⟨"."⟩, workspace⟩) := by
  rw [LoadedWorkspace.load, run_run_bind]
  congr 1
  funext path
  rw [run_run_bind]
  congr 1
  funext declaration
  cases declaration.resolve <;> rfl

/-- Loading succeeds when all stages do. -/
theorem load_eq_ok_iff {loaded : LoadedWorkspace} :
    (LoadedWorkspace.load host settings?).run.run = .ok loaded ↔ host.Loads settings? loaded := by
  simp only [run_load, run_loadDeclaration, bind_eq_ok_iff, map_eq_ok_iff, mapError_eq_ok_iff,
    locateSettings_eq_ok_iff]
  apply Iff.intro
  · rintro ⟨path, hpath, declaration, ⟨text, htext, hdeclaration⟩, workspace, hworkspace, rfl⟩
    exact .intro hpath htext hdeclaration hworkspace
  · rintro ⟨hpath, htext, hdeclaration, hworkspace⟩
    exact ⟨_, hpath, _, ⟨_, htext, hdeclaration⟩, _, hworkspace, rfl⟩

/-- Loading fails with the error of the first stage that fails. -/
theorem load_eq_error_iff {error : LoadError} :
    (LoadedWorkspace.load host settings?).run.run = .error error ↔
      host.FailsToLoad settings? error := by
  simp only [run_load, run_loadDeclaration, bind_eq_error_iff, bind_eq_ok_iff,
    map_eq_error_iff, mapError_eq_ok_iff, mapError_eq_error_iff, locateSettings_eq_ok_iff,
    locateSettings_eq_error_iff]
  apply Iff.intro
  · rintro (⟨rfl, ⟨fault, hfault, rfl⟩ | ⟨start, hstart, hnone, rfl⟩⟩ |
      ⟨path, hpath, (⟨fault, hfault, rfl⟩ | ⟨text, htext, fault, hfault, rfl⟩) |
        ⟨declaration, ⟨text, htext, hdeclaration⟩, fault, hfault, rfl⟩⟩)
    · exact .workingDir hfault
    · exact .location hstart hnone
    · exact .reading hpath hfault
    · exact .parsing hpath htext hfault
    · exact .resolution hpath htext hdeclaration hfault
  · intro h
    cases h with
    | workingDir hfault => exact .inl ⟨rfl, .inl ⟨_, hfault, rfl⟩⟩
    | location hstart hnone => exact .inl ⟨rfl, .inr ⟨_, hstart, hnone, rfl⟩⟩
    | reading hpath hfault => exact .inr ⟨_, hpath, .inl (.inl ⟨_, hfault, rfl⟩)⟩
    | parsing hpath htext hfault =>
        exact .inr ⟨_, hpath, .inl (.inr ⟨_, htext, _, hfault, rfl⟩)⟩
    | resolution hpath htext hdeclaration hfault =>
        exact .inr ⟨_, hpath, .inr ⟨_, ⟨_, htext, hdeclaration⟩, _, hfault, rfl⟩⟩

/-! ## Loading a catalog -/

variable {loaded : LoadedWorkspace} {name : String}

theorem run_loadCatalog :
    (loaded.loadCatalog host name).run.run =
      ((loaded.workspace.catalog? name).elim (.error (.undeclaredCatalog name)) .ok >>=
        fun source =>
          (host.read (loaded.rootDir.join source)).run.mapError
            (.unreadableCatalog (loaded.rootDir.join source)) >>= fun text =>
              (Catalog.ofText text).mapError .catalogDocument >>= fun catalog =>
                (catalog.resolve.mapError .catalog).map fun resolved => (source, resolved)) := by
  rw [LoadedWorkspace.loadCatalog]
  cases loaded.workspace.catalog? name with
  | none => rfl
  | some source =>
      simp only [run_run_ask, Option.elim_some, ok_bind]
      cases (host.read (loaded.rootDir.join source)).run with
      | error error => rfl
      | ok text =>
          simp only [Except.mapError, ok_bind]
          cases Catalog.ofText text with
          | error error => rfl
          | ok catalog =>
              simp only [ok_bind]
              cases catalog.resolve <;> rfl

/-- Loading a catalog succeeds when all stages do. -/
theorem loadCatalog_eq_ok_iff {source : Path} {resolved : ResolvedCatalog} :
    (loaded.loadCatalog host name).run.run = .ok (source, resolved) ↔
      host.LoadsCatalog loaded name source resolved := by
  simp only [run_loadCatalog, bind_eq_ok_iff, map_eq_ok_iff, mapError_eq_ok_iff]
  apply Iff.intro
  · rintro ⟨declared, hsource, text, htext, catalog, hcatalog, _, hresolved, heq⟩
    obtain ⟨rfl, rfl⟩ := Prod.mk.inj heq
    exact .intro (elim_ok_eq_ok_iff.mp hsource) htext hcatalog hresolved
  · rintro ⟨hsource, htext, hcatalog, hresolved⟩
    exact ⟨_, elim_ok_eq_ok_iff.mpr hsource, _, htext, _, hcatalog, _, hresolved, rfl⟩

/-- Loading a catalog fails with the error of the first stage that fails. -/
theorem loadCatalog_eq_error_iff {error : LoadError} :
    (loaded.loadCatalog host name).run.run = .error error ↔
      host.FailsToLoadCatalog loaded name error := by
  simp only [run_loadCatalog, bind_eq_error_iff, map_eq_error_iff, mapError_eq_ok_iff,
    mapError_eq_error_iff, elim_ok_eq_ok_iff, elim_ok_eq_error_iff]
  apply Iff.intro
  · rintro (⟨hnone, rfl⟩ | ⟨source, hsource, ⟨fault, hfault, rfl⟩ | ⟨text, htext,
      ⟨fault, hfault, rfl⟩ | ⟨catalog, hcatalog, fault, hfault, rfl⟩⟩⟩)
    · exact .undeclared hnone
    · exact .reading hsource hfault
    · exact .parsing hsource htext hfault
    · exact .resolution hsource htext hcatalog hfault
  · intro h
    cases h with
    | undeclared hnone => exact .inl ⟨hnone, rfl⟩
    | reading hsource hfault => exact .inr ⟨_, hsource, .inl ⟨_, hfault, rfl⟩⟩
    | parsing hsource htext hfault =>
        exact .inr ⟨_, hsource, .inr ⟨_, htext, .inl ⟨_, hfault, rfl⟩⟩⟩
    | resolution hsource htext hcatalog hfault =>
        exact .inr ⟨_, hsource, .inr ⟨_, htext, .inr ⟨_, hcatalog, _, hfault, rfl⟩⟩⟩

end Host

end BuildSettings

/-
# How commands end

A command does all that can fail before it prints. So a run that fails has printed
nothing, and what it fails with is the error of the first stage of loading that fails. As
long as there is no workspace all commands fail alike. On a workspace they all succeed
but the one for a catalog, which goes through the stages of the catalog as well.
-/

import BuildSettings.FileTree
import BuildSettings.Proofs.Command.Running
import BuildSettings.Proofs.Command.Stages

namespace BuildSettings

/-- A run ends as the stages of loading tell. -/
structure Invocation.EndsByStages (invocation : Invocation) (host : Host Id)
    (outcome : Outcome) : Prop where
  loads_iff : ∀ loaded,
    (LoadedWorkspace.load host invocation.settings?).run.run = .ok loaded ↔
      host.Loads invocation.settings? loaded
  failsToLoad_iff : ∀ error,
    (LoadedWorkspace.load host invocation.settings?).run.run = .error error ↔
      host.FailsToLoad invocation.settings? error
  /-- Without a workspace every command fails with the error of the first stage that fails. -/
  unloaded : ∀ error, host.FailsToLoad invocation.settings? error →
    outcome = @Outcome.failed "" error.toFailure
  /-- All commands but one succeed exactly when there is a workspace. -/
  answered : (∀ name, invocation.command ≠ .catalog name) →
    ((∃ output, outcome = .success output) ↔ ∃ loaded, host.Loads invocation.settings? loaded)
  /-- The command for a catalog succeeds on a workspace when the catalog can be loaded. -/
  catalog : ∀ name loaded, invocation.command = .catalog name →
    host.Loads invocation.settings? loaded →
      ((∃ output, outcome = .success output) ↔
        ∃ source resolved, host.LoadsCatalog loaded name source resolved)
  /-- Otherwise it fails with the error of the first stage of the catalog that fails. -/
  noCatalog : ∀ name loaded, invocation.command = .catalog name →
    host.Loads invocation.settings? loaded →
      ∀ failure, outcome = @Outcome.failed "" failure ↔
        ∃ error, host.FailsToLoadCatalog loaded name error ∧ error.toFailure = failure

/-! ## Running invocations -/

section Run

variable {host : Host Id} {loaded : LoadedWorkspace} {arguments : List String}
  {invocation : Invocation}
  (harguments : Invocation.ofArguments (host.getVariable settingsVariable).run arguments =
    .ok invocation)

include harguments

/-- A failure to load ends a run before anything is printed. -/
theorem runProgram_of_failsToLoad {error : LoadError}
    (h : host.FailsToLoad invocation.settings? error) :
    (runProgram host arguments).run = @Outcome.failed "" error.toFailure := by
  rw [Invocation.run_runProgram harguments, Invocation.run_run, Host.load_eq_error_iff.mpr h]
  rfl

/-- What is loaded is given to the command. -/
theorem runProgram_of_loads (h : host.Loads invocation.settings? loaded) :
    (runProgram host arguments).run =
      .ofRun ((invocation.command.perform host loaded).run.run "").run := by
  rw [Invocation.run_runProgram harguments, Invocation.run_run, Host.load_eq_ok_iff.mpr h]

/-- On a workspace, a command that asks for no catalog succeeds. -/
theorem runProgram_answers (h : host.Loads invocation.settings? loaded)
    (hcommand : ∀ name, invocation.command ≠ .catalog name) :
    ∃ output, (runProgram host arguments).run = .success output := by
  obtain ⟨text, htext⟩ := Command.run_perform host loaded hcommand ""
  rw [runProgram_of_loads harguments h, htext]
  exact ⟨_, rfl⟩

/-- On a workspace, the command for a catalog ends as loading the catalog does. -/
theorem runProgram_catalog {name : String} (h : host.Loads invocation.settings? loaded)
    (hcommand : invocation.command = .catalog name) :
    (runProgram host arguments).run =
      match (loaded.loadCatalog host name).run.run with
      | .ok (source, resolved) => .success (resolved.report name source)
      | .error error => @Outcome.failed "" error.toFailure := by
  rw [runProgram_of_loads harguments h, hcommand, Command.run_perform_catalog]
  cases (loaded.loadCatalog host name).run.run with
  | ok result => exact congrArg Outcome.success String.empty_append
  | error error => rfl

theorem exists_success_iff_loads (hcommand : ∀ name, invocation.command ≠ .catalog name) :
    (∃ output, (runProgram host arguments).run = .success output) ↔
      ∃ loaded, host.Loads invocation.settings? loaded := by
  apply Iff.intro
  · rintro ⟨output, houtput⟩
    cases hload : (LoadedWorkspace.load host invocation.settings?).run.run with
    | ok loaded => exact ⟨loaded, Host.load_eq_ok_iff.mp hload⟩
    | error error =>
        rw [runProgram_of_failsToLoad harguments (Host.load_eq_error_iff.mp hload)] at houtput
        cases houtput
  · rintro ⟨loaded, hloaded⟩
    exact runProgram_answers harguments hloaded hcommand

theorem endsByStages : invocation.EndsByStages host (runProgram host arguments).run where
  loads_iff loaded := Host.load_eq_ok_iff
  failsToLoad_iff error := Host.load_eq_error_iff
  unloaded error := runProgram_of_failsToLoad harguments
  answered := exists_success_iff_loads harguments
  catalog name loaded hcommand hloaded := by
    rw [runProgram_catalog harguments hloaded hcommand]
    simp only [← Host.loadCatalog_eq_ok_iff]
    cases (loaded.loadCatalog host name).run.run with
    | ok result => exact iff_of_true ⟨_, rfl⟩ ⟨result.1, result.2, rfl⟩
    | error error => simp
  noCatalog name loaded hcommand hloaded failure := by
    rw [runProgram_catalog harguments hloaded hcommand]
    simp only [← Host.loadCatalog_eq_error_iff]
    cases (loaded.loadCatalog host name).run.run with
    | ok result => simp
    | error error => simp

/-- A run that fails has printed nothing. -/
theorem output_eq_empty_of_status_ne_zero
    (hstatus : (runProgram host arguments).run.status ≠ 0) :
    (runProgram host arguments).run.output = "" := by
  cases hload : (LoadedWorkspace.load host invocation.settings?).run.run with
  | error error =>
      rw [runProgram_of_failsToLoad harguments (Host.load_eq_error_iff.mp hload)]
      rfl
  | ok loaded =>
      have hloaded := Host.load_eq_ok_iff.mp hload
      -- On a workspace only a catalog can fail, and it is loaded before the first line.
      by_cases hcommand : ∃ name, invocation.command = .catalog name
      · obtain ⟨name, hname⟩ := hcommand
        rw [runProgram_catalog harguments hloaded hname] at hstatus ⊢
        cases hcatalog : (loaded.loadCatalog host name).run.run with
        | ok result =>
            rw [hcatalog] at hstatus
            exact absurd rfl hstatus
        | error error => rfl
      · obtain ⟨output, houtput⟩ :=
          runProgram_answers harguments hloaded (not_exists.mp hcommand)
        rw [houtput] at hstatus
        exact absurd rfl hstatus

end Run

/-- Every invocation ends as the stages of loading tell, and a run that ends with another
status than 0 has printed nothing. -/
theorem runs_end_by_stages (host : Host Id) (arguments : List String) :
    (∀ invocation,
      Invocation.ofArguments (host.getVariable settingsVariable).run arguments =
          .ok invocation →
        invocation.EndsByStages host (runProgram host arguments).run) ∧
      ((runProgram host arguments).run.status ≠ 0 →
        (runProgram host arguments).run.output = "") := by
  refine ⟨fun invocation harguments => endsByStages harguments, fun hstatus => ?_⟩
  cases harguments :
      Invocation.ofArguments (host.getVariable settingsVariable).run arguments with
  | ok invocation => exact output_eq_empty_of_status_ne_zero harguments hstatus
  | error halt =>
      have hrun : (runProgram host arguments).run = halt.outcome := by
        rw [runProgram, Id.run_bind, harguments]
        rfl
      rw [hrun] at hstatus ⊢
      cases halt with
      | help => exact absurd rfl hstatus
      | version => exact absurd rfl hstatus
      | usage error => rfl

/-- A project without catalogs, and the program run in a directory below it. -/
def plainWorld : World where
  files := ((FileTree.empty.addFile ⟨"/demo/settings.toml"⟩
    "[project]\nname = \"$\x7benv:NAME\x7d\"\n".toUTF8).addDirectory ⟨"/demo/src"⟩).fileSystem
  workingDir := ⟨"/demo/src"⟩
  environment := ⟨[("NAME", "Demo")]⟩

theorem plainWorld_ends :
    (∃ output, (runProgram plainWorld.host ["modules"]).run = .success output) ∧
      (runProgram plainWorld.host ["catalog", "libs"]).run =
        @Outcome.failed "" (LoadError.undeclaredCatalog "libs").toFailure ∧
      (runProgram plainWorld.host ["catalog", "libs"]).run.output = "" := by
  have hcatalogs : (LoadedWorkspace.load plainWorld.host none).run.run.toOption.map
      (fun loaded => (loaded.workspace.catalog? "libs").isNone) = some true := by decide +kernel
  obtain ⟨loaded, hloaded, hisNone⟩ := Option.map_eq_some_iff.mp hcatalogs
  have hload := toOption_eq_some_iff.mp hloaded
  have hnone := Option.isNone_iff_eq_none.mp hisNone
  have hmodules := (runs_end_by_stages plainWorld.host ["modules"]).1 ⟨.modules, none, false⟩ rfl
  have hcatalog :=
    (runs_end_by_stages plainWorld.host ["catalog", "libs"]).1 ⟨.catalog "libs", none, false⟩ rfl
  have hloads := (hmodules.loads_iff loaded).mp hload
  have hfailed := (hcatalog.noCatalog "libs" loaded rfl hloads _).mpr ⟨_, .undeclared hnone, rfl⟩
  refine ⟨(hmodules.answered fun name => by rintro ⟨⟩).mpr ⟨loaded, hloads⟩, hfailed, ?_⟩
  apply (runs_end_by_stages plainWorld.host ["catalog", "libs"]).2
  rw [hfailed]
  decide

end BuildSettings

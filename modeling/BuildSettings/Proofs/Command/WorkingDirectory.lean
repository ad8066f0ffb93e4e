/-
# Where the program is run

From the working directory the settings file is searched upwards. What is found is an
absolute path, and from then on the files are seen from the directory of the settings
file. So two runs agree when they find the same file, and they agree with a run that is
told this file, wherever that one takes place.

The comparison goes through agreement of hosts: two hosts that hold the same absolute
files and the same variables cannot be told apart once the settings file is located.
-/

import BuildSettings.FileTree
import BuildSettings.Proofs.Command.Arguments
import BuildSettings.Proofs.Command.Running
import BuildSettings.Proofs.Command.Stages
import BuildSettings.Proofs.Path.Parents

namespace BuildSettings

/-- A directory holds a settings file, and its path can be looked up. -/
def FileSystem.HoldsSettings (files : FileSystem) (dir : Path) : Prop :=
  (dir.join ⟨settingsName⟩).refusal? = none ∧ files.isFile (dir.join ⟨settingsName⟩) = true

instance (files : FileSystem) (dir : Path) : Decidable (files.HoldsSettings dir) :=
  inferInstanceAs (Decidable (_ ∧ _))

/-- Two hosts have the same variables, and the same texts in files with absolute paths. -/
structure Host.Agrees (host other : Host Id) : Prop where
  read : ∀ path, path.isAbsolute = true → (host.read path).run = (other.read path).run
  getVariable : ∀ key, (host.getVariable key).run = (other.getVariable key).run

/-- How the program ends in a world. -/
def World.outcome (world : World) (arguments : List String) : Outcome :=
  (runProgram world.host arguments).run

/-! ## The directory of the settings file -/

theorem parent?_join_settingsName {root : Path} (hroot : root.isAbsolute = true) :
    ∃ dir, (root.join ⟨settingsName⟩).parent? = some dir ∧ dir.same root = true :=
  Path.parent?_join hroot (by decide) (by decide)

/-- Of absolute directories the same one is nearest for properties that agree on them. -/
theorem Path.Nearest.congr {start dir : Path} {holds holds' : Path → Prop}
    (hstart : start.isAbsolute = true)
    (h : ∀ other, other.isAbsolute = true → (holds other ↔ holds' other))
    (hnearest : start.Nearest holds dir) : start.Nearest holds' dir := by
  obtain ⟨below, above, happend, hbelow, hdir⟩ := hnearest
  have habsolute : ∀ other ∈ below ++ dir :: above, other.isAbsolute = true := by
    intro other hother
    exact Path.isAbsolute_of_mem_ancestors hstart (happend ▸ hother)
  refine ⟨below, above, happend, ?_, ?_⟩
  · intro other hother hholds
    exact hbelow other hother ((h other (habsolute other (by simp [hother]))).mpr hholds)
  · exact (h dir (habsolute dir (by simp))).mp hdir

theorem Path.Nearest.isAbsolute {start dir : Path} {holds : Path → Prop}
    (hstart : start.isAbsolute = true) (hnearest : start.Nearest holds dir) :
    dir.isAbsolute = true := by
  obtain ⟨below, above, happend, -⟩ := hnearest
  exact Path.isAbsolute_of_mem_ancestors hstart (by simp [happend])

/-! ## Hosts that agree -/

namespace Host

variable {host other : Host Id} {settings? : Option Path} {path : Path}
  {loaded : LoadedWorkspace}

/-- Once the settings file is located, loading goes on as if it had been named. -/
theorem run_load_of_locates (h : host.Locates settings? path) :
    (LoadedWorkspace.load host settings?).run.run =
      (LoadedWorkspace.load host (some path)).run.run := by
  rw [run_load, run_load, locateSettings_eq_ok_iff.mpr h,
    locateSettings_eq_ok_iff.mpr (.named path)]

/-- Hosts that agree load the same from a settings file with an absolute path. -/
theorem Agrees.run_load (h : host.Agrees other) (hpath : path.isAbsolute = true) :
    (LoadedWorkspace.load host (some path)).run.run =
      (LoadedWorkspace.load other (some path)).run.run := by
  have hexpanded : host.expanded = other.expanded := by
    funext text
    rw [expanded, expanded, funext h.getVariable]
  simp only [Host.run_load, run_loadDeclaration, locateSettings_eq_ok_iff.mpr (.named path),
    ok_bind, h.read path hpath, hexpanded]

/-- Hosts that agree load the same catalogs below an absolute directory. -/
theorem Agrees.run_loadCatalog (h : host.Agrees other)
    (hroot : loaded.rootDir.isAbsolute = true) (name : String) :
    (loaded.loadCatalog host name).run.run = (loaded.loadCatalog other name).run.run := by
  have hread (source : Path) := h.read _ (Path.isAbsolute_join hroot source)
  simp only [Host.run_loadCatalog, hread]

/-- On a workspace below an absolute directory, hosts that agree give the same answers. -/
theorem Agrees.run_perform (h : host.Agrees other) (hroot : loaded.rootDir.isAbsolute = true)
    (command : Command) (printed : String) :
    ((command.perform host loaded).run.run printed).run =
      ((command.perform other loaded).run.run printed).run := by
  cases command with
  | resolve format => cases format <;> rfl
  | modules => rfl
  | repositories listed => rfl
  | catalog name =>
      rw [Command.run_perform_catalog, Command.run_perform_catalog, h.run_loadCatalog hroot]

/-- What is loaded from a settings file that is joined to an absolute directory lies in that
directory, which may be spelled differently. -/
theorem rootDir_of_loads {root : Path} (hroot : root.isAbsolute = true)
    (h : host.Loads (some (root.join ⟨settingsName⟩)) loaded) :
    loaded.rootDir.isAbsolute = true ∧ loaded.rootDir.same root = true := by
  obtain ⟨dir, hparent, hsame⟩ := parent?_join_settingsName hroot
  cases h with
  | intro hlocates =>
      cases hlocates
      rw [hparent]
      have hjoin := Path.isAbsolute_join hroot ⟨settingsName⟩
      exact ⟨Path.isAbsolute_of_parent?_eq_some hjoin hparent, hsame⟩

end Host

/-- Invocations of the same command that locate the same settings file are carried out alike
on hosts that agree. -/
theorem Host.Agrees.run_invocation {host other : Host Id} (h : host.Agrees other)
    {invocation invocation' : Invocation} {root : Path} (hroot : root.isAbsolute = true)
    (hcommand : invocation.command = invocation'.command)
    (hlocates : host.Locates invocation.settings? (root.join ⟨settingsName⟩))
    (hlocates' : other.Locates invocation'.settings? (root.join ⟨settingsName⟩)) :
    ((invocation.run host).run.run "").run = ((invocation'.run other).run.run "").run := by
  have hjoin := Path.isAbsolute_join hroot ⟨settingsName⟩
  rw [Invocation.run_run, Invocation.run_run, Host.run_load_of_locates hlocates,
    Host.run_load_of_locates hlocates', ← h.run_load hjoin, hcommand]
  cases hload : (LoadedWorkspace.load host (some (root.join ⟨settingsName⟩))).run.run with
  | error error => rfl
  | ok loaded =>
      have hrootDir := (Host.rootDir_of_loads hroot (Host.load_eq_ok_iff.mp hload)).1
      exact h.run_perform hrootDir invocation'.command ""

/-! ## Worlds with the same files -/

namespace World

variable {files : FileSystem} {environment : Environment} {workingDir workingDir' dir : Path}

/-- Only relative paths are seen from the working directory. -/
theorem agrees (files : FileSystem) (environment : Environment) (workingDir workingDir' : Path) :
    (host ⟨files, workingDir, environment⟩).Agrees (host ⟨files, workingDir', environment⟩) where
  read path hpath := by simp only [host, Path.join_of_isAbsolute hpath]
  getVariable _ := rfl

theorem holdsSettings_iff (hdir : dir.isAbsolute = true) :
    (host ⟨files, workingDir, environment⟩).HoldsSettings dir ↔ files.HoldsSettings dir := by
  have hjoin := Path.isAbsolute_join hdir ⟨settingsName⟩
  show ((dir.join ⟨settingsName⟩).refusal?.isNone &&
    files.isFile (workingDir.join (dir.join ⟨settingsName⟩))) = true ↔ _
  rw [Path.join_of_isAbsolute hjoin, FileSystem.HoldsSettings, Bool.and_eq_true,
    Option.isNone_iff_eq_none]

/-- Without a name, the settings file is located in the nearest directory that holds one. -/
theorem locates_none {root : Path} (habsolute : workingDir.isAbsolute = true)
    (hroot : workingDir.Nearest files.HoldsSettings root) :
    (host ⟨files, workingDir, environment⟩).Locates none (root.join ⟨settingsName⟩) :=
  .nearest rfl (hroot.congr habsolute fun _ hother => (holdsSettings_iff hother).symm)

/-- Without a settings file from the environment, runs that are asked for the same command and
locate the same settings file end alike. -/
theorem outcome_eq_of_locates {arguments arguments' : List String}
    {invocation invocation' : Invocation} {root : Path} (hroot : root.isAbsolute = true)
    (hunset : environment.value? settingsVariable = none)
    (h : Invocation.ofArguments none arguments = .ok invocation)
    (h' : Invocation.ofArguments none arguments' = .ok invocation')
    (hcommand : invocation.command = invocation'.command)
    (hlocates : (host ⟨files, workingDir, environment⟩).Locates invocation.settings?
      (root.join ⟨settingsName⟩))
    (hlocates' : (host ⟨files, workingDir', environment⟩).Locates invocation'.settings?
      (root.join ⟨settingsName⟩)) :
    outcome ⟨files, workingDir, environment⟩ arguments =
      outcome ⟨files, workingDir', environment⟩ arguments' := by
  have hvariable (dir : Path) :
      ((host ⟨files, dir, environment⟩).getVariable settingsVariable).run = none := hunset
  rw [← hvariable workingDir] at h
  rw [← hvariable workingDir'] at h'
  rw [outcome, outcome, Invocation.run_runProgram h, Invocation.run_runProgram h',
    (agrees files environment workingDir workingDir').run_invocation hroot hcommand hlocates
      hlocates']

end World

/-- A run below the directory `root` of a settings file does not see where it takes place. All
absolute working directories with this nearest directory give the same outcome. So does a run
from anywhere that is told this file, be it in front of the arguments or in any other way. The
workspace lies in `root`, whose path may be spelled differently there. -/
theorem outcome_depends_on_root (files : FileSystem) (environment : Environment)
    {start other root : Path} {arguments : List String} {invocation : Invocation}
    (hstart : start.isAbsolute = true) (hother : other.isAbsolute = true)
    (hstartRoot : start.Nearest files.HoldsSettings root)
    (hotherRoot : other.Nearest files.HoldsSettings root)
    (hunset : environment.value? settingsVariable = none)
    (harguments : Invocation.ofArguments none arguments = .ok invocation)
    (hunnamed : invocation.settings? = none) :
    World.outcome ⟨files, other, environment⟩ arguments =
        World.outcome ⟨files, start, environment⟩ arguments ∧
      (∀ workingDir,
        World.outcome ⟨files, workingDir, environment⟩
            ("--settings" :: (root.join ⟨settingsName⟩).spelling :: arguments) =
          World.outcome ⟨files, start, environment⟩ arguments) ∧
      (∀ workingDir arguments' invocation',
        Invocation.ofArguments none arguments' = .ok invocation' →
          invocation'.command = invocation.command →
          invocation'.settings? = some (root.join ⟨settingsName⟩) →
          World.outcome ⟨files, workingDir, environment⟩ arguments' =
            World.outcome ⟨files, start, environment⟩ arguments) ∧
      ∀ loaded, (World.host ⟨files, start, environment⟩).Loads none loaded →
        loaded.rootDir.isAbsolute = true ∧ loaded.rootDir.same root = true := by
  have hroot := hstartRoot.isAbsolute hstart
  have hjoin := Path.isAbsolute_join hroot ⟨settingsName⟩
  have hlocates : (World.host ⟨files, start, environment⟩).Locates none
      (root.join ⟨settingsName⟩) := World.locates_none hstart hstartRoot
  have htold : ∀ workingDir arguments' invocation',
      Invocation.ofArguments none arguments' = .ok invocation' →
        invocation'.command = invocation.command →
        invocation'.settings? = some (root.join ⟨settingsName⟩) →
        World.outcome ⟨files, workingDir, environment⟩ arguments' =
          World.outcome ⟨files, start, environment⟩ arguments := by
    intro workingDir arguments' invocation' h hcommand hsettings
    refine World.outcome_eq_of_locates hroot hunset h harguments hcommand ?_ (hunnamed ▸ hlocates)
    rw [hsettings]
    exact .named _
  refine ⟨?_, ?_, htold, ?_⟩
  · exact World.outcome_eq_of_locates hroot hunset harguments harguments rfl
      (hunnamed ▸ World.locates_none hother hotherRoot) (hunnamed ▸ hlocates)
  · intro workingDir
    have hempty : (root.join ⟨settingsName⟩).spelling ≠ "" := by
      intro hempty
      exact Path.toList_ne_nil_of_isAbsolute hjoin (by rw [hempty]; rfl)
    exact htold workingDir _ _ (Invocation.ofArguments_naming harguments hunnamed hempty
      (Invocation.ofText_spelling hjoin)) rfl rfl
  · intro loaded hloads
    -- Loading goes on as if the file had been named, and then its parent is known.
    have hnamed : (World.host ⟨files, start, environment⟩).Loads
        (some (root.join ⟨settingsName⟩)) loaded := by
      rw [← Host.load_eq_ok_iff, ← Host.run_load_of_locates hlocates, Host.load_eq_ok_iff]
      exact hloads
    exact Host.rootDir_of_loads hroot hnamed

/-- A project with one module, and two directories that have no settings file. -/
def nestedFiles : FileSystem :=
  (((FileTree.empty.addFile ⟨"/demo/settings.toml"⟩
    "[project]\nname = \"Demo\"\ninclude = [\"app\"]\n".toUTF8).addDirectory
      ⟨"/demo/src/main"⟩).addDirectory ⟨"/demo/lib"⟩).fileSystem

theorem nestedFiles_outcomes :
    World.outcome ⟨nestedFiles, ⟨"/demo/lib"⟩, ⟨[]⟩⟩ ["modules"] =
        World.outcome ⟨nestedFiles, ⟨"/demo/src/main"⟩, ⟨[]⟩⟩ ["modules"] ∧
      World.outcome ⟨nestedFiles, ⟨"/elsewhere"⟩, ⟨[]⟩⟩
          ["--settings", "/demo/settings.toml", "modules"] =
        World.outcome ⟨nestedFiles, ⟨"/demo/src/main"⟩, ⟨[]⟩⟩ ["modules"] ∧
      (World.outcome ⟨nestedFiles, ⟨"/demo/src/main"⟩, ⟨[]⟩⟩ ["modules"]).status = 0 ∧
      (World.outcome ⟨nestedFiles, ⟨"/demo/src/main"⟩, ⟨[]⟩⟩ ["modules"]).output =
        "app\t/demo/app\n" := by
  have hspelling : Function.Injective (List.map Path.spelling) :=
    List.map_injective_iff.mpr fun ⟨_⟩ ⟨_⟩ h => congrArg Path.mk h
  have hmain : Path.Nearest ⟨"/demo/src/main"⟩ nestedFiles.HoldsSettings ⟨"/demo"⟩ :=
    ⟨[⟨"/demo/src/main"⟩, ⟨"/demo/src"⟩], [⟨"/"⟩], hspelling (by decide +kernel),
      by decide +kernel, by decide +kernel⟩
  have hlib : Path.Nearest ⟨"/demo/lib"⟩ nestedFiles.HoldsSettings ⟨"/demo"⟩ :=
    ⟨[⟨"/demo/lib"⟩], [⟨"/"⟩], hspelling (by decide +kernel), by decide +kernel,
      by decide +kernel⟩
  obtain ⟨hother, htold, -⟩ :=
    outcome_depends_on_root nestedFiles ⟨[]⟩ (by decide) (by decide) hmain hlib rfl
      (show Invocation.ofArguments none ["modules"] = .ok ⟨.modules, none, false⟩ from rfl) rfl
  exact ⟨hother, htold ⟨"/elsewhere"⟩, by decide +kernel, by decide +kernel⟩

end BuildSettings

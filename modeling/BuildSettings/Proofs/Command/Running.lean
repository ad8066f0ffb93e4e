/-
# Running commands

A run reads its arguments, loads the workspace and carries out the command. Steps that
print nothing leave what has been printed as it is, so a run can be followed without
looking at what stands on standard output.
-/

import BuildSettings.Command.Run

namespace BuildSettings

/-! ## Printing -/

variable {host : Host Id} {loaded : LoadedWorkspace}

/-- Steps that print nothing leave standard output to the steps behind them, or as it is
when they fail. -/
theorem run_silently_bind {α β : Type} (steps : ExceptT LoadError Id α)
    (next : α → Printing Id β) (printed : String) :
    ((silently steps >>= next).run.run printed).run =
      match steps.run.run with
      | .ok value => ((next value).run.run printed).run
      | .error error => (.error error, printed) := by
  cases h : steps.run.run with
  | ok value =>
      obtain rfl : steps = ExceptT.mk (pure (.ok value)) := h
      rfl
  | error error =>
      obtain rfl : steps = ExceptT.mk (pure (.error error)) := h
      rfl

namespace Command

variable {command : Command}

/-- On a workspace, a command that asks for no catalog prints something and succeeds. -/
theorem run_perform (host : Host Id) (loaded : LoadedWorkspace)
    (h : ∀ name, command ≠ .catalog name) (printed : String) :
    ∃ text, ((command.perform host loaded).run.run printed).run = (.ok (), printed ++ text) := by
  cases command with
  | resolve format => cases format <;> exact ⟨_, rfl⟩
  | modules => exact ⟨_, rfl⟩
  | repositories listed =>
      cases listed with
      | plugin => exact ⟨_, rfl⟩
      | dependency => exact ⟨_, rfl⟩
      | all => exact ⟨_, congrArg (Prod.mk _) (String.append_assoc ..)⟩
  | catalog name => exact absurd rfl (h name)

/-- A catalog is loaded before anything is printed about it. -/
theorem run_perform_catalog (name printed : String) :
    (((catalog name).perform host loaded).run.run printed).run =
      match (loaded.loadCatalog host name).run.run with
      | .ok (source, resolved) => (.ok (), printed ++ resolved.report name source)
      | .error error => (.error error, printed) := by
  rw [perform, run_silently_bind]
  cases (loaded.loadCatalog host name).run.run <;> rfl

end Command

/-! ## Running invocations -/

namespace Invocation

/-- What is loaded is given to the command; a failure to load ends a run before anything
is printed. -/
theorem run_run (invocation : Invocation) (host : Host Id) :
    ((invocation.run host).run.run "").run =
      match (LoadedWorkspace.load host invocation.settings?).run.run with
      | .ok loaded => ((invocation.command.perform host loaded).run.run "").run
      | .error error => (.error error, "") := by
  rw [run, run_silently_bind]
  cases (LoadedWorkspace.load host invocation.settings?).run.run <;> rfl

/-- Arguments that make an invocation are carried out. -/
theorem run_runProgram {invocation : Invocation} {arguments : List String}
    (harguments : Invocation.ofArguments (host.getVariable settingsVariable).run arguments =
      .ok invocation) :
    (runProgram host arguments).run = .ofRun ((invocation.run host).run.run "").run := by
  rw [runProgram, Id.run_bind, harguments]
  rfl

end Invocation

end BuildSettings

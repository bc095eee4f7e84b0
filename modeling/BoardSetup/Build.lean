import BoardSetup.Command.Runner
import BoardSetup.Settings.Basic

/-!
# Building the project

The build runs the build tool in the project directory with the chip name, whether to link the
ROM, and the job count, at least one.
-/

namespace BoardSetup

/-- The build command for a project directory and a job count. -/
def buildCommand (s : Settings) (project : String) (jobs : Nat) : Command :=
  { program := s.buildTool
    args := [s!"CONFIG_CHIP_NAME={s.chipName}",
             "CONFIG_LINK_ROM=" ++ (if s.linkRom then "1" else "0"),
             s!"-j{max jobs 1}"]
    cwd := some project }

/-- Runs the build; without a job count in the settings, one job per processor. -/
def runBuild (r : Runner) (s : Settings) (project : String) (processors : Nat) :
    Session SetupError Unit := do
  let cmd := buildCommand s project ((s.jobs.getD processors).max 1)
  Session.log .info s!"[Build] Starting build in {project}"
  Session.log .info s!"[Build] {cmd.display}"
  try r.run cmd
  catch e =>
    Session.log .error s!"[Build] Build failed: {e.message}"
    throw e
  Session.log .info "[Build] Build complete"

end BoardSetup

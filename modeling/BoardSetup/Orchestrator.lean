import BoardSetup.Environment
import BoardSetup.Packages
import BoardSetup.Sdk
import BoardSetup.Project
import BoardSetup.Makefile
import BoardSetup.Build

/-!
# A whole run

`setup` takes the phases in order: export the environment, install the host tools, make sure of
the SDK, check the project, patch its Makefile, build it. The first failure ends the run; the
progress then says in which phase, and a record of it is logged. A superuser needs no privilege
command, so it is dropped for one.

The pipeline keeps its progress beneath its errors, so a failed run still says how far it got.
A run whose export sets a variable to a value holding a NUL panics instead, before it has shown,
logged or called anything (`orchestrate`).
-/

namespace BoardSetup

def completionMessage : String :=
  "BL602 development environment setup complete."

/-- A run's steps: they change the world and the progress, and a failure keeps both. -/
abbrev Pipeline := ExceptT SetupError (StateT Progress (StateM World))

namespace Pipeline

def lift (x : Session SetupError α) : Pipeline α :=
  ExceptT.mk (StateT.lift x.run)

def moveTo (target : Phase) : Pipeline Unit := do
  match (← getThe Progress).moveTo target with
  | .ok p => set p
  | .error e => throw e

def environment (l : Layout) : Pipeline Unit := lift do
  exportEnvironment l
  Session.say s!"SDK_PATH: {l.sdk}"
  Session.say s!"TOOLCHAIN_PATH: {l.toolchain}"
  Session.say s!"PROJECT_PATH: {l.project}"

def dependencies (r : Runner) (s : Settings) (privilege : Option String) : Pipeline Unit := do
  if s.skipInstall then
    lift (Session.log .info "[Deps] Skipping host package installation")
    modifyThe Progress (·.recordSkipped .dependencies)
  else lift (installDependencies r s.packages privilege)

def sdk (r : Runner) (s : Settings) (l : Layout) : Pipeline Unit := do
  let outcome ← lift do
    let o ← Sdk.ensure r l.sdk s.sdkRemoteUrl
    Session.log .info s!"[Sdk] SDK {o.name}"
    return o
  modifyThe Progress fun p => { p with sdkOutcome := some outcome }

def patch (s : Settings) (l : Layout) : Pipeline Unit := do
  let outcome ← lift (ensureMakefileLine l.makefile s.makefileMarker s.makefileLine s.dryRun)
  modifyThe Progress fun p => { p with patchOutcome := some outcome }

def build (r : Runner) (s : Settings) (l : Layout) : Pipeline Unit := do
  if s.skipBuild then
    lift (Session.log .info "[Build] Skipping build")
    modifyThe Progress (·.recordSkipped .building)
  else lift do runBuild r s l.project (← Session.world).processors

/-- Every phase, in order. -/
def phases (r : Runner) (s : Settings) (l : Layout) (privilege : Option String) :
    Pipeline Unit := do
  environment l
  moveTo .dependencies
  dependencies r s privilege
  moveTo .sdk
  sdk r s l
  moveTo .validation
  lift (checkProject l)
  moveTo .patching
  patch s l
  moveTo .building
  build r s l
  moveTo .completed
  lift (Session.say completionMessage)

end Pipeline

/-- How a run ended and how far it got. -/
structure RunReport where
  result : Except SetupError Unit
  progress : Progress

/-- Runs every phase from the start and logs how the run ended. -/
def setup (r : Runner) (s : Settings) (l : Layout) : StateM World RunReport := do
  let w ← get
  let privilege := if w.superuser then none else s.privilegeCommand
  let (result, p) ← (Pipeline.phases r s l privilege).run.run {}
  match result with
  | .ok () =>
    modify fun w => w.log .info s!"[Setup] Finished in {w.clock.elapsed}s"
    return ⟨.ok (), p⟩
  | .error e =>
    modify (·.log .error s!"[Setup] Aborted during {p.phase.name} phase: {e.message}")
    return ⟨.error e, p.recordError e.message⟩

/-- How a run ends: it returns its report, or it panics with a message. -/
inductive RunEnd where
  | returned (report : RunReport)
  | panicked (message : String)

/-- A run as the program makes it. Its first step exports the environment, which panics when a
value holds a NUL; nothing has been shown, logged or called by then. Otherwise the run goes as
`setup` says. -/
def orchestrate (r : Runner) (s : Settings) (l : Layout) : StateM World RunEnd := do
  match exportPanic? l ((← get).var? "PATH") with
  | some m => return .panicked m
  | none => return .returned (← setup r s l)

end BoardSetup

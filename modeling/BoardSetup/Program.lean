import BoardSetup.CommandLine
import BoardSetup.Orchestrator
import BoardSetup.Settings.File
import BoardSetup.SessionLog
import BoardSetup.Machine

/-!
# The program

`bl602_setup` reads its command line, then its settings: those of the file given with
`--config`, else the user's file, else the stock ones, with the command line's options over
them. Settings that fail their checks stop it before anything is logged.

Logging starts next, at debug level with `--verbose` and info level without; with a log
directory a session log is opened there too, and a failure to open it is only a warning.
`--print-config` prints the settings as pretty JSON and stops. Otherwise every phase of the setup
runs on the host, each run command only logged in a dry run.

Help and the version go to standard output with status 0; a refused command line, and every
error, go to standard error with status 1. A run that panics writes the panic's report to
standard error and ends with status 101.
-/

namespace BoardSetup

def startLogging (verbose : Bool) (dir : Option String) : Session SetupError Unit := do
  let filter : LevelFilter := some (if verbose then .debug else .info)
  let (started, w) := (Logger.start filter dir).run.run (← Session.world)
  set w
  match started with
  | .ok lg =>
    match lg.file with
    | some f => Session.sayErr s!"[Main] Session log: {f}"
    | none => pure ()
    modify fun w => { w with logger := some lg }
  | .error m => Session.sayErr s!"[Main] WARNING: {m}"

def logSource (src : Settings.Source) : Session SetupError Unit :=
  match src with
  | .defaults => Session.log .debug s!"[Config] {src.describe}"
  | _ => Session.log .info s!"[Config] {src.describe}"

/-- A run with the options of the command line; a run that panics gives the panic's message. -/
def runWith (o : CommandLine.Options) : Session SetupError (Option String) := do
  let w ← Session.world
  let (s, src) ← match Settings.effective w o.config with
    | .ok r => pure r
    | .error e => throw (.config e)
  let s := o.applyTo s
  match Settings.check s with
  | some reason => throw (.config (.validationFailed reason))
  | none => pure ()
  startLogging o.verbose s.logDir
  logSource src
  if o.printConfig then
    Session.say (Settings.render s)
    return none
  else
    let l := Layout.ofSettings w.cwd s
    let r ← if s.dryRun then do
        Session.log .info "[Main] Dry run: no packages, git updates, Makefile writes or builds"
        pure Machine.runner.dryRun
      else pure Machine.runner
    match ← (orchestrate r s l : StateM World RunEnd) with
    | .panicked m => return some m
    | .returned report =>
      match report.result with
      | .ok () => return none
      | .error e => throw e

/-- What a panic writes to standard error: where the standard library raised it, its message,
and a note on backtraces. -/
def panicReport (message : String) : String :=
  "\nthread 'main' (3) panicked at " ++
    "/rustc/b940084d7eb6a299eb4bfeb8e34901bc051e7ac4/library/std/src/env.rs:362:9:\n" ++
    message ++ "\nnote: run with `RUST_BACKTRACE=1` environment variable to display a backtrace\n"

def panicStatus : Nat := 101

/-- Runs the program with its arguments; the result is its exit status. -/
def program (args : List String) : StateM World Nat := do
  match CommandLine.parse args with
  | .help =>
    modify fun w => { w with stdout := w.stdout ++ CommandLine.helpText }
    return 0
  | .version =>
    modify fun w => { w with stdout := w.stdout ++ CommandLine.versionText }
    return 0
  | .refused f =>
    modify fun w => { w with stderr := w.stderr ++ f.render }
    return 1
  | .run o =>
    match ← (runWith o).run with
    | .ok none => return 0
    | .ok (some m) =>
      modify fun w => { w with stderr := w.stderr ++ panicReport m }
      return panicStatus
    | .error e =>
      modify fun w => { w with stderr := w.stderr ++ "error: " ++ e.advice ++ "\n" }
      return e.exitCode

end BoardSetup

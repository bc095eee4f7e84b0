import BoardSetup.Command.Runner
import BoardSetup.Shell.Eval

/-!
# The host machine

Commands started for real. A command starts in its directory, which must exist and be a
directory, and then its program is found: a name with a `/` is a path from that directory, any
other name is looked up in the directories of `PATH`. A program that cannot be found is
`notFound`; a file or directory that is no program cannot be run (`permissionDenied`), and a
path that goes on past a file is `notADirectory`. The host's programs are the shell, two that
only succeed or only fail, and a few of the GNU tools.

The runner of the host reports a start that fails for want of the program, or of the directory,
as a missing command, and any other as a failed command. A program ends with an exit status or by
a signal; only status 0 is success. `run` shows what the program writes; `output` keeps what it
writes on standard output, and its standard error is added to the reason of a failure or logged;
`probe` only looks at the status.
-/

namespace BoardSetup

/-- How a program ran: what it wrote on its two outputs, how it ended, and the file system it left. -/
structure Finished where
  stdout : List UInt8
  stderr : List UInt8
  exit : Shell.Exit
  files : FileTree

def Shell.Exit.reason : Shell.Exit → String
  | .code n => s!"exit status {n}"
  | .signal _ => "terminated by signal"

def Shell.Exit.success : Shell.Exit → Bool
  | .code 0 => true
  | _ => false

namespace Machine

def workDir (w : World) (c : Command) : Except IoError (List String) :=
  match c.cwd with
  | none => .ok w.cwdLoc
  | some d =>
    match w.files.resolve w.cwdLoc d with
    | .error e => .error e
    | .ok tg =>
      match w.files.find? tg.loc with
      | some .dir => .ok tg.loc
      | some (.file _) => .error .notADirectory
      | none => .error .notFound

def programAt (w : World) (dir : List String) (p : String) : Except IoError Tool :=
  match w.files.resolve dir p with
  | .error e => .error e
  | .ok tg =>
    match w.tools.lookup tg.loc with
    | some t => if tg.slash then .error .notADirectory else .ok t
    | none =>
      match w.files.find? tg.loc with
      | some (.file _) => if tg.slash then .error .notADirectory else .error .permissionDenied
      | some .dir => .error .permissionDenied
      | none => .error .notFound

def locate (w : World) (dir : List String) (program : String) : Except IoError Tool :=
  if program.isEmpty then .error .notFound
  else if program.toList.contains '/' then programAt w dir program
  else
    let dirs := ((w.var? "PATH").getD "/bin:/usr/bin").splitOn ":"
    let found := dirs.findSome? fun d =>
      match programAt w dir (Path.join (if d.isEmpty then "." else d) program) with
      | .ok t => some t
      | .error _ => none
    match found with
    | some t => .ok t
    | none => .error .notFound

def exec (w : World) (c : Command) : Except IoError Finished := do
  let dir ← workDir w c
  let tool ← locate w dir c.program
  let sys : Shell.System := { files := w.files, programs := w.tools }
  let env := w.env.map fun (k, v) => (Text.encode k, Text.encode v)
  let (ex, sys) := Shell.runHostProgram sys dir env tool (Text.encode c.program)
    (c.args.map Text.encode)
  return ⟨sys.stdout, sys.stderr, ex, sys.files⟩

def spawnError (c : Command) : IoError → SetupError
  | .notFound => .commandNotFound c.program
  | e => .commandFailed c.display s!"could not start process: {e.message}"

def start (c : Command) : Session SetupError Finished := do
  let w ← Session.world
  match exec w c with
  | .error e => throw (spawnError c e)
  | .ok f =>
    set { w with files := f.files }
    return f

def runner : Runner where
  run c := do
    Session.log .debug s!"[System] [RUN] {c.display}"
    let f ← start c
    modify fun w => { w with stdout := w.stdout ++ Text.ofBytesLossy f.stdout,
                             stderr := w.stderr ++ Text.ofBytesLossy f.stderr }
    if !f.exit.success then throw (.commandFailed c.display f.exit.reason)
  output c := do
    Session.log .debug s!"[System] [OUTPUT] {c.display}"
    let f ← start c
    let err := Text.trim (Text.ofBytesLossy f.stderr)
    if !f.exit.success then
      throw (.commandFailed c.display (f.exit.reason ++ (if err.isEmpty then "" else ": " ++ err)))
    if !err.isEmpty then Session.log .debug s!"[System] [OUTPUT] stderr: {err}"
    return Text.ofBytesLossy f.stdout
  probe c := do
    Session.log .debug s!"[System] [PROBE] {c.display}"
    let f ← start c
    return f.exit.success

end Machine

end BoardSetup

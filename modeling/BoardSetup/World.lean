import BoardSetup.FileTree
import BoardSetup.Command.Basic
import BoardSetup.Text.Utf8

/-!
# The world a run acts on

Everything a run can change or show: the file system, the working directory, the environment
variables, what was printed on standard output and standard error, the logger, and the commands
a runner was asked for. The clock, the number of processors and the programs installed are
read, never set; they are given. Every line a logger writes is also kept apart from the rest of
standard error.

`Session ε` is an action on the world that may fail with `ε`. What an action did before it
failed stays done.
-/

namespace BoardSetup

/-- How serious a log record is, the most serious first. -/
inductive Level where
  | error
  | warn
  | info
  | debug
  | trace
  deriving DecidableEq, Repr

def Level.rank : Level → Nat
  | .error => 1
  | .warn => 2
  | .info => 3
  | .debug => 4
  | .trace => 5

def Level.label : Level → String
  | .error => "ERROR"
  | .warn => "WARN "
  | .info => "INFO "
  | .debug => "DEBUG"
  | .trace => "TRACE"

/-- Which records pass: those at most as detailed as the level, or none at all. -/
abbrev LevelFilter := Option Level

def LevelFilter.allows (f : LevelFilter) (l : Level) : Bool :=
  match f with
  | none => false
  | some m => l.rank ≤ m.rank

/-- The clock's readings: the time of day on every log line, the stamp in a session log's name,
and the seconds a run took. -/
structure Clock where
  time : String
  stamp : String
  elapsed : String
  deriving DecidableEq, Repr

/-- A logger: the records it lets through, and the session log file it also writes to. -/
structure Logger where
  filter : LevelFilter
  file : Option String := none
  deriving DecidableEq, Repr

/-- Everything a run can change or show. -/
structure World where
  files : FileTree := {}
  cwd : String := "/"
  env : List (String × String) := []
  stdout : String := ""
  stderr : String := ""
  logger : Option Logger := none
  clock : Clock
  calls : List Call := []
  superuser : Bool := false
  processors : Nat := 1
  tools : List (List String × Tool) := []
  logText : String := ""

/-- An action on the world that may fail; its effects before a failure stay. -/
abbrev Session (ε : Type) := ExceptT ε (StateM World)

namespace World

def cwdLoc (w : World) : List String :=
  (Path.components w.cwd).filterMap fun
    | .name n => some n
    | _ => none

def var? (w : World) (k : String) : Option String :=
  w.env.lookup k

def setVar (w : World) (k v : String) : World :=
  { w with env := (w.env.filter (·.1 != k)) ++ [(k, v)] }

def unsetVar (w : World) (k : String) : World :=
  { w with env := w.env.filter (·.1 != k) }

def logLine (w : World) (l : Level) (msg : String) : String :=
  w.clock.time ++ " " ++ l.label ++ " " ++ msg

end World

namespace Logger

def enabled (lg : Logger) (l : Level) : Bool :=
  lg.filter.allows l

/-- Writes a record: its line goes to standard error and, when there is one, to the session log;
a session log that cannot be written is passed over. -/
def emit (lg : Logger) (l : Level) (msg : String) (w : World) : World :=
  if !lg.enabled l then w
  else
    let line := w.logLine l msg
    let w := { w with stderr := w.stderr ++ line ++ "\n", logText := w.logText ++ line ++ "\n" }
    match lg.file with
    | none => w
    | some f =>
      match w.files.append w.cwdLoc f (Text.encode (line ++ "\n")) false with
      | .ok t => { w with files := t }
      | .error _ => w

end Logger

/-- Logs a record through the installed logger, if there is one. -/
def World.log (w : World) (l : Level) (msg : String) : World :=
  match w.logger with
  | some lg => lg.emit l msg w
  | none => w

namespace Session

def log (l : Level) (msg : String) : Session ε Unit :=
  modify (·.log l msg)

def say (line : String) : Session ε Unit :=
  modify fun w => { w with stdout := w.stdout ++ line ++ "\n" }

def sayErr (line : String) : Session ε Unit :=
  modify fun w => { w with stderr := w.stderr ++ line ++ "\n" }

def world : Session ε World :=
  getThe World

def fail (e : ε) : Session ε α :=
  throw e

def onFiles (f : FileTree → List String → Except IoError FileTree) (wrap : IoError → ε) :
    Session ε Unit := do
  let w ← world
  match f w.files w.cwdLoc with
  | .ok t => set { w with files := t }
  | .error e => throw (wrap e)

/-- Runs a change to the files that may fail part way: what it changed stays, and its failure
is raised. -/
def onFilesPartly (f : FileTree → List String → FileTree × Option IoError) (wrap : IoError → ε) :
    Session ε Unit := do
  let w ← world
  let (t, failure) := f w.files w.cwdLoc
  set { w with files := t }
  match failure with
  | some e => throw (wrap e)
  | none => pure ()

end Session

end BoardSetup

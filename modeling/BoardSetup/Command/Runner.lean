import BoardSetup.World
import BoardSetup.Decimal.Shortest

/-!
# Runners

A runner starts commands in three ways: `run` with the output shown, failing unless the command
succeeds; `output` for what it prints, failing unless it succeeds; and `probe`, which only says
whether it succeeded and fails only when it cannot be started.

A dry runner logs each `run` instead of starting it and passes the other two through. A scripted
runner answers from a table and keeps a list of every call it was asked for.
-/

namespace BoardSetup

/-- Three ways of starting a command. -/
structure Runner where
  run : Command → Session SetupError Unit
  output : Command → Session SetupError String
  probe : Command → Session SetupError Bool

/-- A runner that logs each `run` instead of starting it. -/
def Runner.dryRun (r : Runner) : Runner where
  run c := Session.log .info s!"[DRY-RUN] would run: {c.display}"
  output := r.output
  probe := r.probe

/-- How a scripted command fails: with an exit status, whole or written with a fraction, or for a
stated reason. -/
inductive Failure where
  | status (code : Int)
  | fractional (code : Float)
  | reason (text : String)
  deriving Repr

/-- The reason a failure gives; a status with a fraction is written as its shortest decimal,
with `.0` when whole and an exponent beyond sixteen digits. -/
def Failure.text : Failure → String
  | .status code => s!"exit status {code}"
  | .fractional code => "exit status " ++ Decimal.Style.render ⟨16, -5, false⟩ code
  | .reason text => text

/-- A table of answers, keyed by how a command is shown: what it prints, what a probe finds
(success when not listed), how it fails, and which programs are missing. -/
structure Script where
  outputs : List (String × String) := []
  probes : List (String × Bool) := []
  failures : List (String × Failure) := []
  missing : List String := []
  deriving Repr

namespace Script

def record (kind : CallKind) (c : Command) : Session SetupError Unit :=
  modify fun w => { w with calls := w.calls ++ [⟨kind, c.display, c.cwd⟩] }

def checkPresent (s : Script) (c : Command) : Session SetupError Unit :=
  if s.missing.contains c.program then throw (.commandNotFound c.program) else pure ()

def checkFailure (s : Script) (c : Command) : Session SetupError Unit :=
  match s.failures.lookup c.display with
  | some f => throw (.commandFailed c.display f.text)
  | none => pure ()

/-- The runner that answers from the table. -/
def runner (s : Script) : Runner where
  run c := do
    record .run c
    s.checkPresent c
    s.checkFailure c
  output c := do
    record .output c
    s.checkPresent c
    s.checkFailure c
    return (s.outputs.lookup c.display).getD ""
  probe c := do
    record .probe c
    s.checkPresent c
    return (s.probes.lookup c.display).getD true

end Script

end BoardSetup

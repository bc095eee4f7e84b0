import BoardSetup.Program

/-!
# Entry point

Runs the program on its arguments in a world that holds the caller's `HOME` and `PATH` and an
empty file system, prints what it wrote to standard output and standard error, and exits with
its status. Help, the version, refused command lines and the printed settings come out as the
program gives them.
-/

open BoardSetup

/-- Runs `bl602_setup`. -/
def main (args : List String) : IO UInt32 := do
  let vars := [("HOME", ← IO.getEnv "HOME"), ("PATH", ← IO.getEnv "PATH")]
  let env := vars.filterMap fun (k, v) => v.map (k, ·)
  let world : World := { clock := ⟨"00:00:00.000", "00000000-000000", "0.0"⟩, env := env }
  let (code, world) := (program args).run world
  IO.print world.stdout
  IO.eprint world.stderr
  return code.toUInt32

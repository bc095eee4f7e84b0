import BoardSetup.Layout
import BoardSetup.World
import BoardSetup.Text.Printable

/-!
# The environment of the build

The SDK's Makefiles read `SDK_PATH`, and the cross compiler must be found on `PATH` before any
host compiler. A search path is a list of directories joined by `:`, so a directory with `:` in
its name cannot be put on it. Exporting sets the three variables, or none of them when the new
`PATH` cannot be formed.

No environment holds a value with a NUL in it: setting a variable to one panics, and the program
stops there (`exportPanic?`).
-/

namespace BoardSetup

/-- The search path with `dir` in front of `current`; an unset or empty `current` gives `dir`
alone. -/
def prependToPath (dir : String) (current : Option String) : Except SetupError String :=
  if dir.toList.contains ':' then
    .error (.invalidInput
      s!"Toolchain path {dir} cannot be placed on PATH: path segment contains separator `:`")
  else match current with
    | some c => if c.isEmpty then .ok dir else .ok (dir ++ ":" ++ c)
    | none => .ok dir

/-- Sets `SDK_PATH` and `TOOLCHAIN_PATH`, and puts the toolchain's programs first on `PATH`. A
value holding a NUL cannot be set: a run panics before it gets here (`exportPanic?`). -/
def exportEnvironment (l : Layout) : Session SetupError Unit := do
  let bin := l.toolchainBin
  let w ← Session.world
  match prependToPath bin (w.var? "PATH") with
  | .error e => throw e
  | .ok newPath =>
    modify fun w => ((w.setVar "SDK_PATH" l.sdk).setVar "TOOLCHAIN_PATH" l.toolchain).setVar "PATH" newPath
    Session.log .info s!"[Env] SDK_PATH={l.sdk}"
    Session.log .info s!"[Env] TOOLCHAIN_PATH={l.toolchain}"
    Session.log .debug s!"[Env] PATH now starts with {bin}"

def exportedVars (l : Layout) (newPath : String) : List (String × String) :=
  [("SDK_PATH", l.sdk), ("TOOLCHAIN_PATH", l.toolchain), ("PATH", newPath)]

def setVarPanic (key value : String) : String :=
  "failed to set environment variable `" ++ Text.quote true key ++ "` to `" ++
    Text.quote true value ++ "`: file name contained an unexpected NUL byte"

/-- The panic exporting raises: at the first variable set to a value that holds a NUL. An export
whose search path cannot be formed fails before it sets anything, and raises none. -/
def exportPanic? (l : Layout) (path : Option String) : Option String :=
  match prependToPath l.toolchainBin path with
  | .error _ => none
  | .ok newPath =>
    ((exportedVars l newPath).find? fun kv => kv.2.toList.contains '\x00').map
      fun kv => setVarPanic kv.1 kv.2

end BoardSetup

import BoardSetup.Path.Normal
import BoardSetup.Settings.Basic

/-!
# Where the SDK, the toolchain and the project lie

The three directories a run works on, found from a base directory and the offsets of the
settings by text alone: a relative base is taken from the working directory, each offset is
joined onto the base (an absolute offset stands alone), and the result is put in normal form.
Nothing needs to exist, so a missing SDK can be reported where it was expected.
-/

namespace BoardSetup

/-- The SDK, toolchain and project directories of a run. -/
structure Layout where
  sdk : String
  toolchain : String
  project : String
  deriving DecidableEq, Repr

namespace Layout

/-- The layout from a base directory, a relative base taken from `cwd`. -/
def resolve (cwd base : String) (s : Settings) : Layout :=
  let base := if Path.isAbsolute base then base else Path.join cwd base
  { sdk := Path.normalize (Path.join base s.sdkRelative)
    toolchain := Path.normalize (Path.join base s.toolchainRelative)
    project := Path.normalize (Path.join base s.projectRelative) }

def ofSettings (cwd : String) (s : Settings) : Layout :=
  resolve cwd (s.baseDir.getD cwd) s

def toolchainBin (l : Layout) : String :=
  Path.join l.toolchain "bin"

def makefile (l : Layout) : String :=
  Path.join l.project "Makefile"

def projectMk (l : Layout) : String :=
  Path.join (Path.join l.sdk "make_scripts_riscv") "project.mk"

end Layout

end BoardSetup

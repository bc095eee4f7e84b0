import BoardSetup.World
import BoardSetup.Layout

/-!
# Checking the project

Before the Makefile is touched, the project directory must exist, hold a `Makefile`, and the
SDK must provide its build rules; the first missing one stops the run.
-/

namespace BoardSetup

/-- Checks the project directory, its Makefile and the SDK's build rules, in that order. -/
def checkProject (l : Layout) : Session SetupError Unit := do
  let w ← Session.world
  if !w.files.isDir w.cwdLoc l.project then
    Session.log .error s!"[Validate] Project path {l.project} does not exist"
    throw (.projectMissing l.project)
  Session.log .info s!"[Validate] ✓ Project path found: {l.project}"
  if !w.files.isFile w.cwdLoc l.makefile then
    Session.log .error s!"[Validate] Makefile not found at {l.makefile}"
    throw (.makefileMissing l.makefile)
  Session.log .info "[Validate] ✓ Makefile found"
  if !w.files.isFile w.cwdLoc l.projectMk then
    Session.log .error s!"[Validate] project.mk not found at {l.projectMk}"
    throw (.projectMkMissing l.projectMk)
  Session.log .info "[Validate] ✓ project.mk found"

end BoardSetup

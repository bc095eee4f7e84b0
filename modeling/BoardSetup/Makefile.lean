import BoardSetup.World
import BoardSetup.Phase
import BoardSetup.Settings.Basic

/-!
# The project Makefile

The project Makefile must say where the SDK's build rules are. When the marker does not occur in
it, exactly one line is appended: first a newline when the last line is unterminated, so that
line stays whole, then the line and its newline. An empty marker never occurs. A dry run only
reads the file.
-/

namespace BoardSetup

/-- The bytes to append to a Makefile, or `none` when the marker already occurs in it. -/
def planAppend (content : List UInt8) (marker line : String) : Option (List UInt8) :=
  let m := Text.encode marker
  if !m.isEmpty && Settings.infixOf m content then none
  else
    let lead := if !content.isEmpty && content.getLast? != some 10 then [10] else []
    some (lead ++ Text.encode line ++ [10])

/-- Makes sure the Makefile holds the marker, appending the line when it does not. -/
def ensureMakefileLine (makefile marker line : String) (dryRun : Bool) :
    Session SetupError PatchOutcome := do
  let w ← Session.world
  match w.files.read w.cwdLoc makefile with
  | .error .notFound => throw (.makefileMissing makefile)
  | .error e => throw (.io e)
  | .ok content =>
    match planAppend content marker line with
    | none =>
      Session.log .info s!"[Patch] Makefile already defines {marker}"
      return .alreadyPresent
    | some tail =>
      if dryRun then
        Session.log .info s!"[DRY-RUN] would append to {makefile}: {line}"
        return .wouldAppend
      Session.log .info "[Patch] Adding project path configuration to Makefile"
      Session.onFiles (fun t cwd => t.append cwd makefile tail false) SetupError.io
      return .appended

end BoardSetup

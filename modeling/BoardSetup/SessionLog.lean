import BoardSetup.World

/-!
# Session logs

A logger writes every record it lets through to standard error and, when it has a log
directory, also to a session log file there, named after the moment the session began. The
directory is made with every missing directory above it, and the file is created at once, so a
session leaves a log even when nothing is logged.
-/

namespace BoardSetup

def sessionLogName (c : Clock) : String :=
  s!"setup-{c.stamp}.log"

/-- A logger letting through what the filter allows, with its session log in `dir`, if given. -/
def Logger.start (filter : LevelFilter) (dir : Option String) : Session String Logger := do
  match dir with
  | none => return { filter }
  | some d =>
    Session.onFilesPartly (fun t cwd => t.createDirAll cwd d)
      (fun e => s!"Failed to create logs directory: {e.message}")
    let path := Path.join d (sessionLogName (← Session.world).clock)
    Session.onFiles (fun t cwd => t.append cwd path [] true)
      (fun e => s!"Failed to open log file {path}: {e.message}")
    return { filter, file := some path }

end BoardSetup

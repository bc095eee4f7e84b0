import BoardSetup.Text.Blank

/-!
# Errors

Why an operation of the file system fails, why settings are refused, and why a setup run stops.
Each error has a one-line message; a run's error also has the longer advice shown to the person
running it, and every one of them ends the program with status 1.
-/

namespace BoardSetup

/-- Why the file system or the process table refused an operation. -/
inductive IoError where
  | notFound
  | permissionDenied
  | alreadyExists
  | notADirectory
  | isADirectory
  | execFormat
  | nameTooLong
  | invalidUtf8
  deriving DecidableEq, Repr

def IoError.message : IoError → String
  | .notFound => "No such file or directory (os error 2)"
  | .permissionDenied => "Permission denied (os error 13)"
  | .alreadyExists => "File exists (os error 17)"
  | .notADirectory => "Not a directory (os error 20)"
  | .isADirectory => "Is a directory (os error 21)"
  | .execFormat => "Exec format error (os error 8)"
  | .nameTooLong => "File name too long (os error 36)"
  | .invalidUtf8 => "stream did not contain valid UTF-8"

/-- Why settings could not be had. -/
inductive ConfigError where
  | fileNotFound (path : String)
  | invalidJson (detail : String)
  | validationFailed (reason : String)
  | io (e : IoError)
  deriving DecidableEq, Repr

def ConfigError.message : ConfigError → String
  | .fileNotFound p => s!"Configuration file not found: {p}"
  | .invalidJson d => s!"Invalid JSON in config: {d}"
  | .validationFailed r => s!"Configuration validation failed: {r}"
  | .io e => s!"IO error during config operations: {e.message}"

/-- Why a setup run stopped. -/
inductive SetupError where
  | commandFailed (cmd reason : String)
  | commandNotFound (program : String)
  | sdkMissing (path url : String)
  | remoteMismatch (expected found : String)
  | projectMissing (path : String)
  | makefileMissing (path : String)
  | projectMkMissing (path : String)
  | invalidInput (detail : String)
  | invalidTransition (src dst : String)
  | config (e : ConfigError)
  | io (e : IoError)
  deriving DecidableEq, Repr

namespace SetupError

/-- The one-line message. -/
def message : SetupError → String
  | .commandFailed cmd reason => s!"Command '{cmd}' failed: {reason}"
  | .commandNotFound p => s!"Command not found: {p}"
  | .sdkMissing path _ => s!"SDK not found at {path}"
  | .remoteMismatch expected _ => s!"SDK remote mismatch: expected {expected}"
  | .projectMissing p => s!"Project directory not found: {p}"
  | .makefileMissing p => s!"Makefile not found: {p}"
  | .projectMkMissing p => s!"project.mk not found: {p}"
  | .invalidInput d => s!"Invalid input: {d}"
  | .invalidTransition src dst => s!"Invalid phase transition: {src} -> {dst}"
  | .config e => s!"Configuration error: {e.message}"
  | .io e => s!"I/O error: {e.message}"

def advice : SetupError → String
  | .commandFailed cmd reason => s!"Failed to execute '{cmd}': {reason}"
  | .commandNotFound p =>
    s!"'{p}' is not installed or not on PATH. Install it and run the setup again."
  | .sdkMissing path url =>
    s!"SDK is not installed at {path}. Download and extract it there manually, or run:\n" ++
      s!"    git clone {url} {path}"
  | .remoteMismatch expected found =>
    s!"SDK remote is incorrect. Make sure the remote points to {expected}.\nCurrent remotes:\n" ++
      Text.trimEnd found
  | .projectMissing p =>
    s!"Project path {p} does not exist. Create the project directory first."
  | .makefileMissing p =>
    s!"Makefile not found at {p}. Make sure the project directory contains a Makefile."
  | .projectMkMissing p => s!"project.mk not found. Check manually whether {p} exists."
  | .invalidInput d => s!"Invalid input: {d}"
  | .invalidTransition src dst => s!"Internal error: cannot move from {src} to {dst}"
  | .config e => s!"Configuration error: {e.message}"
  | .io e => s!"File operation failed: {e.message}"

/-- The exit status of a failed run. -/
def exitCode (_ : SetupError) : Nat := 1

end SetupError

end BoardSetup

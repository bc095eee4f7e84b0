import BoardSetup.Settings.Json
import BoardSetup.World

/-!
# Settings files

Settings live in `.json` files only: the check is on the path's extension, which must be exactly
`json`, so `settings.JSON` and `.json` are refused. A file is read whole and must be UTF-8; keys
it leaves out take their stock values. Saving makes the missing directories above the file and
writes the pretty form with no newline after it. Loading and saving are given for any text
format (`Codec`); settings files hold JSON (`json`).

Which settings a run uses: those of the file named on the command line, which must exist; else
the user's file below the home directory, when it is a file; else the stock settings. The
choice is reported once logging is up.
-/

namespace BoardSetup.Settings

def userFile : String := ".config/bl602-setup/settings.json"

/-- Where the settings of a run came from. -/
inductive Source where
  | explicit (path : String)
  | user (path : String)
  | defaults
  deriving DecidableEq, Repr

def Source.describe : Source → String
  | .explicit p => s!"Loading settings from {p}"
  | .user p => s!"Loading user settings from {p}"
  | .defaults => "No settings file, using built-in defaults"

def checkPath (p : String) : Except ConfigError Unit :=
  if p.isEmpty then .error (.validationFailed "Settings path is empty")
  else if Path.extension? p == some "json" then .ok ()
  else .error (.validationFailed s!"Settings file {p} is not a .json file")

/-- A text format for settings files: how settings are written as text, and how a text is read
as settings. -/
structure Codec where
  render : Settings → String
  read : String → Except String Settings

def json : Codec := ⟨render, ofText⟩

namespace Codec

variable (c : Codec)

/-- Reads settings from a file. -/
def load (t : FileTree) (cwd : List String) (p : String) : Except ConfigError Settings := do
  checkPath p
  match t.read cwd p with
  | .error .notFound => .error (.fileNotFound p)
  | .error e => .error (.io e)
  | .ok bytes =>
    match Text.decode? bytes with
    | none => .error (.io .invalidUtf8)
    | some src => (c.read (String.ofList src)).mapError .invalidJson

/-- Writes settings to a file, making the directories above it; the directories made stay when
the write fails. -/
def save (t : FileTree) (cwd : List String) (s : Settings) (p : String) :
    FileTree × Except ConfigError Unit :=
  match checkPath p with
  | .error e => (t, .error e)
  | .ok () =>
    let (t, made) := match Path.parent? p with
      | some dir => if dir.isEmpty then (t, none) else t.createDirAll cwd dir
      | none => (t, none)
    match made with
    | some e => (t, .error (.io e))
    | none =>
      match t.write cwd p (Text.encode (c.render s)) with
      | .ok t' => (t', .ok ())
      | .error e => (t, .error (.io e))

end Codec

/-- Reads settings from a settings file. -/
def load (t : FileTree) (cwd : List String) (p : String) : Except ConfigError Settings :=
  json.load t cwd p

/-- Writes settings to a settings file. -/
def save (t : FileTree) (cwd : List String) (s : Settings) (p : String) :
    FileTree × Except ConfigError Unit :=
  json.save t cwd s p

def userPath? (home : Option String) : Option String :=
  match home with
  | some h => if h.isEmpty then none else some (Path.join h userFile)
  | none => none

/-- The settings a run uses, and where they came from. -/
def effective (w : World) (explicit : Option String) : Except ConfigError (Settings × Source) :=
  match explicit with
  | some p => do return (← load w.files w.cwdLoc p, .explicit p)
  | none =>
    match userPath? (w.var? "HOME") with
    | some p =>
      if w.files.isFile w.cwdLoc p then do return (← load w.files w.cwdLoc p, .user p)
      else .ok (stock, .defaults)
    | none => .ok (stock, .defaults)

end BoardSetup.Settings

import BoardSetup.Command.Runner

/-!
# Host packages

Host tools are installed with `apt-get`, behind a privilege command when one is given. A
package name is a Debian name: a lowercase letter or digit, then at least one more of lowercase
letters, digits, `+`, `-` and `.`. Every name is checked before any command is built, so a bad
name starts nothing.
-/

namespace BoardSetup

def isNameStart (c : Char) : Bool :=
  ('a' ≤ c && c ≤ 'z') || ('0' ≤ c && c ≤ '9')

def isNameChar (c : Char) : Bool :=
  isNameStart c || c == '+' || c == '.' || c == '-'

def isPackageName (name : String) : Bool :=
  match name.toList with
  | c :: rest => isNameStart c && !rest.isEmpty && rest.all isNameChar
  | [] => false

/-- Refuses a name that is not a package name. -/
def checkPackageName (name : String) : Except SetupError Unit :=
  if isPackageName name then .ok ()
  else .error (.invalidInput
    s!"Package name contains invalid characters: '{name}'. Only lowercase alphanumerics, '+', '-' and '.' are allowed.")

def aptGet (privilege : Option String) (args : List String) : Command :=
  match privilege with
  | some p => { program := p, args := "apt-get" :: args }
  | none => { program := "apt-get", args := args }

/-- The commands that install the packages: an index update, then the install when there is
something to install. -/
def installCommands (packages : List String) (privilege : Option String) :
    Except SetupError (List Command) := do
  packages.forM checkPackageName
  let update := aptGet privilege ["update"]
  if packages.isEmpty then return [update]
  else return [update, aptGet privilege (["install", "-y"] ++ packages)]

/-- Installs the packages, stopping at the first command that fails. -/
def installDependencies (r : Runner) (packages : List String) (privilege : Option String) :
    Session SetupError Unit := do
  let names := ", ".intercalate packages
  Session.log .info s!"[Deps] Installing host tools: {names}"
  match installCommands packages privilege with
  | .error e => throw e
  | .ok cmds =>
    for c in cmds do
      try r.run c
      catch e =>
        Session.log .error s!"[Deps] Installation failed: {e.message}"
        throw e
    Session.log .info "[Deps] Installation complete"

end BoardSetup

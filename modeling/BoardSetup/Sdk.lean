import BoardSetup.Command.Runner
import BoardSetup.Phase
import BoardSetup.Settings.Basic

/-!
# The SDK checkout

The SDK directory is absent, a git work tree, or a directory that is no work tree. Absent is
fatal, with advice on cloning it by hand. A directory that is no work tree gets a fresh clone.
A work tree must point at the configured remote; it is fetched, and pulled only when its commit
differs from that of the branch it tracks. Every git command runs in the SDK directory.

Remotes are compared by text: the URL without surrounding blanks, trailing `/` and one trailing
`.git` must occur in the listing, so either spelling of a remote matches either spelling of the
URL.
-/

namespace BoardSetup

def dropTrailingSlashes (s : String) : String :=
  String.ofList (s.toList.reverse.dropWhile (· == '/')).reverse

def remoteNeedle (url : String) : String :=
  let u := dropTrailingSlashes (Text.trim url)
  if u.endsWith ".git" then String.ofList (u.toList.take (u.length - 4)) else u

/-- Whether a `git remote -v` listing names the URL. -/
def remoteMatches (remotes url : String) : Bool :=
  let needle := remoteNeedle url
  !needle.isEmpty && Settings.contains remotes needle

/-- What the SDK directory is. -/
inductive SdkStatus where
  | absent
  | gitRepository
  | notGitRepository
  deriving DecidableEq, Repr

namespace Sdk

def git (sdk : String) (args : List String) : Command :=
  { program := "git", args := args, cwd := some sdk }

/-- What the SDK directory is; only an existing directory is asked of git. -/
def inspect (r : Runner) (sdk : String) : Session SetupError SdkStatus := do
  let w ← Session.world
  if !w.files.isDir w.cwdLoc sdk then return .absent
  if ← r.probe (git sdk ["rev-parse", "--is-inside-work-tree"]) then return .gitRepository
  else return .notGitRepository

def revParse (r : Runner) (sdk rev : String) : Session SetupError String := do
  return Text.trim (← r.output (git sdk ["rev-parse", rev]))

/-- Brings a work tree up to date with the branch it tracks, after checking its remote. -/
def update (r : Runner) (sdk url : String) : Session SetupError SdkOutcome := do
  let remotes ← r.output (git sdk ["remote", "-v"])
  if !remoteMatches remotes url then
    Session.log .error s!"[Sdk] Remote does not point to {url}"
    throw (.remoteMismatch url remotes)
  Session.log .info "[Sdk] Remote is correct"
  r.run (git sdk ["fetch"])
  let here ← revParse r sdk "@"
  let tracked ← revParse r sdk "@\x7Bu\x7D"
  Session.log .debug s!"[Sdk] local={here} upstream={tracked}"
  if here == tracked then
    Session.log .info "[Sdk] SDK is already up to date"
    return .upToDate
  else
    Session.log .info "[Sdk] SDK is behind upstream, pulling latest changes"
    r.run (git sdk ["pull"])
    return .pulled

/-- Makes sure the SDK is there and current. -/
def ensure (r : Runner) (sdk url : String) : Session SetupError SdkOutcome := do
  match ← inspect r sdk with
  | .absent =>
    Session.log .error s!"[Sdk] SDK not installed at {sdk}"
    throw (.sdkMissing sdk url)
  | .gitRepository =>
    Session.log .info s!"[Sdk] {sdk} is a git repository"
    update r sdk url
  | .notGitRepository =>
    Session.log .info s!"[Sdk] {sdk} is not a git repository, cloning {url}"
    r.run (git sdk ["clone", url, sdk])
    Session.log .info "[Sdk] Clone complete"
    return .cloned

end Sdk

end BoardSetup

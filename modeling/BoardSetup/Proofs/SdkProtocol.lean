import BoardSetup.Proofs.Conversation
import BoardSetup.Sdk

/-!
# The SDK step against any runner

The SDK directory is absent, a git work tree, or a directory git says is no work tree, and the
step talks to git accordingly. `SdkRun sdk url dir t res` lists the ways this can go: for each
path through the decision, the exchanges `t` with the runner, in order, and the outcome `res`,
where `dir` says whether the SDK path names a directory when the step starts. `UpdateRun` does
the same for a work tree, from the listing of its remotes on.

Main statement: `ensure_follows_procedure`. Against every oracle and from every world, the
step's conversation and outcome are one of these paths, the conversation stops at its first
failed call, and the git commands keep to `GitDiscipline`.
-/

namespace BoardSetup.Sdk

/-- `git rev-parse --is-inside-work-tree`, asking whether the SDK is a work tree. -/
def probeCmd (sdk : String) : Command := git sdk ["rev-parse", "--is-inside-work-tree"]

/-- `git remote -v`, listing the remotes. -/
def remotesCmd (sdk : String) : Command := git sdk ["remote", "-v"]

/-- `git fetch`. -/
def fetchCmd (sdk : String) : Command := git sdk ["fetch"]

/-- `git rev-parse @`, the commit checked out. -/
def headCmd (sdk : String) : Command := git sdk ["rev-parse", "@"]

/-- `git rev-parse @{u}`, the commit of the branch tracked. -/
def upstreamCmd (sdk : String) : Command := git sdk ["rev-parse", "@\x7Bu\x7D"]

/-- `git pull`. -/
def pullCmd (sdk : String) : Command := git sdk ["pull"]

/-- `git clone <url> <sdk>`. -/
def cloneCmd (sdk url : String) : Command := git sdk ["clone", url, sdk]

/-- A listing of the remotes, then a fetch that succeeded. -/
def checked (sdk remotes : String) : List Exchange :=
  [.output (remotesCmd sdk) (.ok remotes), .run (fetchCmd sdk) (.ok ())]

/-- The ways bringing a work tree up to date can go, from the listing of its remotes on. -/
inductive UpdateRun (sdk url : String) : List Exchange → Except SetupError SdkOutcome → Prop
  | listFailed (e : SetupError) : UpdateRun sdk url [.output (remotesCmd sdk) (.error e)] (.error e)
  | mismatch (remotes : String) (other : remoteMatches remotes url = false) :
      UpdateRun sdk url [.output (remotesCmd sdk) (.ok remotes)]
        (.error (.remoteMismatch url remotes))
  | fetchFailed (remotes : String) (named : remoteMatches remotes url = true) (e : SetupError) :
      UpdateRun sdk url [.output (remotesCmd sdk) (.ok remotes), .run (fetchCmd sdk) (.error e)]
        (.error e)
  | headFailed (remotes : String) (named : remoteMatches remotes url = true) (e : SetupError) :
      UpdateRun sdk url (checked sdk remotes ++ [.output (headCmd sdk) (.error e)]) (.error e)
  | upstreamFailed (remotes here : String) (named : remoteMatches remotes url = true)
      (e : SetupError) :
      UpdateRun sdk url (checked sdk remotes ++
        [.output (headCmd sdk) (.ok here), .output (upstreamCmd sdk) (.error e)]) (.error e)
  | upToDate (remotes here tracked : String) (named : remoteMatches remotes url = true)
      (same : Text.trim here = Text.trim tracked) :
      UpdateRun sdk url (checked sdk remotes ++
        [.output (headCmd sdk) (.ok here), .output (upstreamCmd sdk) (.ok tracked)])
        (.ok .upToDate)
  | pull (remotes here tracked : String) (named : remoteMatches remotes url = true)
      (behind : Text.trim here ≠ Text.trim tracked) (r : Except SetupError Unit) :
      UpdateRun sdk url (checked sdk remotes ++ [.output (headCmd sdk) (.ok here),
        .output (upstreamCmd sdk) (.ok tracked), .run (pullCmd sdk) r]) (r.map fun _ => .pulled)

/-- The ways making sure of the SDK can go; `dir` is whether the SDK path names a directory. -/
inductive SdkRun (sdk url : String) :
    Bool → List Exchange → Except SetupError SdkOutcome → Prop
  | absent : SdkRun sdk url false [] (.error (.sdkMissing sdk url))
  | probeFailed (e : SetupError) : SdkRun sdk url true [.probe (probeCmd sdk) (.error e)] (.error e)
  | clone (r : Except SetupError Unit) :
      SdkRun sdk url true [.probe (probeCmd sdk) (.ok false), .run (cloneCmd sdk url) r]
        (r.map fun _ => .cloned)
  | workTree (t : List Exchange) (res : Except SetupError SdkOutcome)
      (h : UpdateRun sdk url t res) :
      SdkRun sdk url true (.probe (probeCmd sdk) (.ok true) :: t) res

/-- Before any call of `c` in a conversation, an exchange of which `p` holds. -/
def Preceded (c : Command) (p : Exchange → Prop) : List Exchange → Prop
  | [] => True
  | x :: t => x.command ≠ c ∧ (p x ∨ Preceded c p t)

/-- What the step's git commands keep to, whatever git answers. -/
structure GitDiscipline (sdk url : String) (dir : Bool) (t : List Exchange) : Prop where
  /-- Every command is git, run in the SDK directory. -/
  inSdk : ∀ x ∈ t, x.command.program = "git" ∧ x.command.cwd = some sdk
  /-- Without a directory there is no call at all. -/
  quietWithoutDir : dir = false → t = []
  /-- At most one pull. -/
  pullOnce : (t.map Exchange.command).count (pullCmd sdk) ≤ 1
  /-- A pull comes after a fetch that succeeded, -/
  pullAfterFetch : Preceded (pullCmd sdk) (· = .run (fetchCmd sdk) (.ok ())) t
  /-- and after a listing of the remotes that names the URL. -/
  pullAfterMatch : Preceded (pullCmd sdk)
    (fun y => ∃ remotes, y = .output (remotesCmd sdk) (.ok remotes) ∧
      remoteMatches remotes url) t
  /-- A clone comes after git said the directory is no work tree. -/
  cloneAfterProbe : Preceded (cloneCmd sdk url) (· = .probe (probeCmd sdk) (.ok false)) t
  /-- A listing that does not name the URL is the last call, right after the probe. -/
  mismatchStops : ∀ remotes, .output (remotesCmd sdk) (.ok remotes) ∈ t →
    remoteMatches remotes url = false →
    t = [.probe (probeCmd sdk) (.ok true), .output (remotesCmd sdk) (.ok remotes)]

section Paths

variable {sdk url : String} {t : List Exchange} {res : Except SetupError SdkOutcome}

theorem UpdateRun.stopsAtFailure (h : UpdateRun sdk url t res) : StopsAtFailure t res := by
  cases h
  case pull r => cases r <;> simp [StopsAtFailure, checked, Exchange.failure?, Except.map]
  all_goals simp [StopsAtFailure, checked, Exchange.failure?]

theorem SdkRun.stopsAtFailure {dir : Bool} (h : SdkRun sdk url dir t res) :
    StopsAtFailure t res := by
  cases h with
  | absent => trivial
  | probeFailed e => simp [StopsAtFailure, Exchange.failure?]
  | clone r => cases r <;> simp [StopsAtFailure, Exchange.failure?, Except.map]
  | workTree t res hu =>
    -- the probe succeeded, so the update's conversation decides
    have probed : ∀ x ∈ [Exchange.probe (probeCmd sdk) (.ok true)], x.failure? = none := by
      simp [Exchange.failure?]
    exact StopsAtFailure.append hu.stopsAtFailure probed

theorem SdkRun.discipline {dir : Bool} (h : SdkRun sdk url dir t res) :
    GitDiscipline sdk url dir t := by
  cases h with
  | workTree t res hu =>
    cases hu <;> constructor <;> simp_all [Preceded, checked, probeCmd, remotesCmd, fetchCmd,
      headCmd, upstreamCmd, pullCmd, cloneCmd, git, Exchange.command]
  | _ => constructor <;> simp [Preceded, probeCmd, cloneCmd, pullCmd, git, Exchange.command]

end Paths

section Follows

variable (o : Oracle) (sdk url : String)

theorem update_follows (w : World) : o.Talks (update o.runner sdk url) w (UpdateRun sdk url) := by
  simp only [update, revParse, bind_assoc, pure_bind]
  apply Oracle.Talks.output_bind
  · intro remotes _
    cases hm : remoteMatches remotes url
    · simp only [Bool.not_false, ite_true]
      apply Oracle.Talks.log_bind
      apply Oracle.Talks.throw_bind
      exact .mismatch remotes hm
    · simp only [Bool.not_true]
      apply Oracle.Talks.log_bind
      apply Oracle.Talks.run_bind
      · intro _
        apply Oracle.Talks.output_bind
        · intro here _
          apply Oracle.Talks.output_bind
          · intro tracked _
            apply Oracle.Talks.log_bind
            split
            · rename_i same
              apply Oracle.Talks.log_bind
              apply Oracle.Talks.pure
              exact .upToDate remotes here tracked hm (beq_iff_eq.1 same)
            · rename_i behind
              apply Oracle.Talks.log_bind
              apply Oracle.Talks.run_bind
              · intro _
                apply Oracle.Talks.pure
                exact .pull remotes here tracked hm (mt beq_iff_eq.2 behind) (.ok ())
              · intro e _
                exact .pull remotes here tracked hm (mt beq_iff_eq.2 behind) (.error e)
          · intro e _
            exact .upstreamFailed remotes here hm e
        · intro e _
          exact .headFailed remotes hm e
      · intro e _
        exact .fetchFailed remotes hm e
  · intro e _
    exact .listFailed e

theorem ensure_follows (w : World) :
    o.Talks (ensure o.runner sdk url) w (SdkRun sdk url (w.files.isDir w.cwdLoc sdk)) := by
  simp only [ensure, inspect, bind_assoc]
  apply Oracle.Talks.world_bind
  cases hd : w.files.isDir w.cwdLoc sdk
  · simp only [Bool.not_false, ite_true, pure_bind]
    apply Oracle.Talks.log_bind
    exact Oracle.Talks.throw .absent
  · simp only [Bool.not_true, Bool.false_eq_true, ite_false, bind_assoc]
    apply Oracle.Talks.probe_bind
    · intro b _
      cases b
      · simp only [Bool.false_eq_true, ite_false, pure_bind]
        apply Oracle.Talks.log_bind
        apply Oracle.Talks.run_bind
        · intro _
          apply Oracle.Talks.log_bind
          exact Oracle.Talks.pure (.clone (.ok ()))
        · intro e _
          exact .clone (.error e)
      · simp only [ite_true, pure_bind]
        apply Oracle.Talks.log_bind
        exact (update_follows o sdk url _).mono fun t r h => .workTree t r h
    · intro e _
      exact .probeFailed e

/-- Against every runner and from every world, making sure of the SDK takes one of the paths of
`SdkRun`, stops at its first failed call and keeps to `GitDiscipline`. -/
theorem ensure_follows_procedure (w : World) :
    ∃ t, o.Converses w ((ensure o.runner sdk url).exec w).2 t ∧
      SdkRun sdk url (w.files.isDir w.cwdLoc sdk) t ((ensure o.runner sdk url).exec w).1 ∧
      StopsAtFailure t ((ensure o.runner sdk url).exec w).1 ∧
      GitDiscipline sdk url (w.files.isDir w.cwdLoc sdk) t := by
  obtain ⟨t, hc, -, hr⟩ := ensure_follows o sdk url w
  exact ⟨t, hc, hr, hr.stopsAtFailure, hr.discipline⟩

end Follows

end BoardSetup.Sdk

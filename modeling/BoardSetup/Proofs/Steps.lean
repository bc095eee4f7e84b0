import BoardSetup.Proofs.Conversation
import BoardSetup.Packages
import BoardSetup.Build
import BoardSetup.Project
import BoardSetup.Makefile
import BoardSetup.Environment

/-!
# The steps of a run against any runner

Installing the host tools runs its commands one after another and stops at the first that fails
(`RunsInOrder`); a failure is logged before it is passed on. The build is one such command.
Exporting the environment and checking the project make no call, and neither does patching the
Makefile, which reads the file and appends to it; `MakefilePatch` lists the ways it can go.
-/

namespace BoardSetup

/-- Commands run one after another until the first that fails. -/
inductive RunsInOrder : List Command → List Exchange → Except SetupError Unit → Prop
  | done : RunsInOrder [] [] (.ok ())
  | failed (c : Command) (cs : List Command) (e : SetupError) :
      RunsInOrder (c :: cs) [.run c (.error e)] (.error e)
  | next (c : Command) (cs : List Command) (t : List Exchange) (r : Except SetupError Unit) :
      RunsInOrder cs t r → RunsInOrder (c :: cs) (.run c (.ok ()) :: t) r

theorem RunsInOrder.stopsAtFailure {cmds : List Command} {t : List Exchange}
    {r : Except SetupError Unit} : RunsInOrder cmds t r → StopsAtFailure t r
  | .done => trivial
  | .failed _ _ _ => by simp [StopsAtFailure, Exchange.failure?]
  | .next c _ _ _ h => by
    have ran : ∀ x ∈ [Exchange.run c (.ok ())], x.failure? = none := by
      simp [Exchange.failure?]
    exact StopsAtFailure.append h.stopsAtFailure ran

/-- The ways installing the host tools can go: a bad package name starts nothing, and otherwise
the commands run in order. -/
inductive InstallRun (packages : List String) (privilege : Option String) :
    List Exchange → Except SetupError Unit → Prop
  | refused (e : SetupError) (bad : installCommands packages privilege = .error e) :
      InstallRun packages privilege [] (.error e)
  | ran (cmds : List Command) (good : installCommands packages privilege = .ok cmds)
      (t : List Exchange) (r : Except SetupError Unit) (h : RunsInOrder cmds t r) :
      InstallRun packages privilege t r

theorem InstallRun.stopsAtFailure {packages : List String} {privilege : Option String}
    {t : List Exchange} {r : Except SetupError Unit} :
    InstallRun packages privilege t r → StopsAtFailure t r
  | .refused _ _ => trivial
  | .ran _ _ _ _ h => h.stopsAtFailure

/-- The errors checking the project stops with, each naming what is missing. -/
def ValidationError (l : Layout) (e : SetupError) : Prop :=
  e = .projectMissing l.project ∨ e = .makefileMissing l.makefile ∨
    e = .projectMkMissing l.projectMk

/-- The ways making sure of the Makefile line can go, with the outcome and the world after. -/
inductive MakefilePatch (mf marker line : String) (dry : Bool) (w : World) :
    Except SetupError PatchOutcome → World → Prop
  | missing (h : w.files.read w.cwdLoc mf = .error .notFound) :
      MakefilePatch mf marker line dry w (.error (.makefileMissing mf)) w
  | unreadable (io : IoError) (h : w.files.read w.cwdLoc mf = .error io) (other : io ≠ .notFound) :
      MakefilePatch mf marker line dry w (.error (.io io)) w
  | present (content : List UInt8) (h : w.files.read w.cwdLoc mf = .ok content)
      (plan : planAppend content marker line = none) (msg : String) :
      MakefilePatch mf marker line dry w (.ok .alreadyPresent) (w.log .info msg)
  | dryRun (content tail : List UInt8) (h : w.files.read w.cwdLoc mf = .ok content)
      (plan : planAppend content marker line = some tail) (isDry : dry = true) (msg : String) :
      MakefilePatch mf marker line dry w (.ok .wouldAppend) (w.log .info msg)
  | refused (content tail : List UInt8) (h : w.files.read w.cwdLoc mf = .ok content)
      (plan : planAppend content marker line = some tail) (notDry : dry = false) (msg : String)
      (io : IoError) (ha : (w.log .info msg).files.append w.cwdLoc mf tail false = .error io) :
      MakefilePatch mf marker line dry w (.error (.io io)) (w.log .info msg)
  | appended (content tail : List UInt8) (h : w.files.read w.cwdLoc mf = .ok content)
      (plan : planAppend content marker line = some tail) (notDry : dry = false) (msg : String)
      (t : FileTree) (ha : (w.log .info msg).files.append w.cwdLoc mf tail false = .ok t) :
      MakefilePatch mf marker line dry w (.ok .appended) { w.log .info msg with files := t }

namespace Oracle.Talks

variable {o : Oracle} {w : World}

theorem say_bind {f : Unit → Session SetupError β}
    {P : List Exchange → Except SetupError β → Prop} {line : String}
    (h : o.Talks (f ()) { w with stdout := w.stdout ++ line ++ "\n" } P) :
    o.Talks (Session.say line >>= f) w P :=
  quiet_bind (Session.exec_say line w) rfl (.stdout w _) h

theorem say {P : List Exchange → Except SetupError Unit → Prop} {line : String}
    (h : P [] (.ok ())) : o.Talks (Session.say line) w P :=
  quiet (Session.exec_say line w) rfl (.stdout w _) h

theorem loggedRun_bind {c : Command} {l : Level} {msg : SetupError → String}
    {f : Unit → Session SetupError β} {P : List Exchange → Except SetupError β → Prop}
    (hok : o.run w.calls c = .ok () →
      o.Talks (f ()) (o.after ⟨.run, c.display, c.cwd⟩ w) fun t r => P (.run c (.ok ()) :: t) r)
    (herr : ∀ e, o.run w.calls c = .error e → P [.run c (.error e)] (.error e)) :
    o.Talks (tryCatch (o.runner.run c) (fun e => do Session.log l (msg e); MonadExcept.throw e) >>= f)
      w P := by
  apply Talks.bind
  have hw := Within.after (o := o) ⟨.run, c.display, c.cwd⟩ w
  cases hr : o.run w.calls c with
  | ok u =>
    have hx : (tryCatch (o.runner.run c) fun e => do
        Session.log l (msg e); MonadExcept.throw e).exec w =
        (.ok (), o.after ⟨.run, c.display, c.cwd⟩ w) := by
      rw [Session.exec_tryCatch, exec_run, hr]
    refine ⟨[.run c (.ok ())], ?_, ?_, ?_⟩ <;> rw [hx]
    · exact .run hr
    · exact hw
    · exact hok hr
  | error e =>
    have hx : (tryCatch (o.runner.run c) fun e => do
        Session.log l (msg e); MonadExcept.throw e).exec w =
        (.error e, (o.after ⟨.run, c.display, c.cwd⟩ w).log l (msg e)) := by
      rw [Session.exec_tryCatch, exec_run, hr]
      rfl
    refine ⟨[.run c (.error e)], ?_, ?_, ?_⟩ <;> rw [hx]
    · exact (Converses.run hr).of_eq (World.log_calls ..)
    · exact hw.trans (.log _ l (msg e))
    · exact herr e hr

end Oracle.Talks

section Follows

variable (o : Oracle)

theorem runLoop_follows (l : Level) (msg : SetupError → String) (cmds : List Command) (w : World) :
    o.Talks (forIn cmds PUnit.unit fun c _ => do
      tryCatch (o.runner.run c) (fun e => do Session.log l (msg e); throw e)
      pure (ForInStep.yield PUnit.unit)) w (RunsInOrder cmds) := by
  induction cmds generalizing w with
  | nil => exact Oracle.Talks.pure .done
  | cons c cs ih =>
    rw [List.forIn_cons]
    simp only [bind_assoc, pure_bind]
    apply Oracle.Talks.loggedRun_bind
    · intro _
      exact (ih _).mono fun t r h => .next c cs t r h
    · intro e _
      exact .failed c cs e

theorem installDependencies_follows (packages : List String) (privilege : Option String)
    (w : World) :
    o.Talks (installDependencies o.runner packages privilege) w
      (InstallRun packages privilege) := by
  unfold installDependencies
  apply Oracle.Talks.log_bind
  split
  · rename_i e bad
    exact Oracle.Talks.throw (.refused e bad)
  · rename_i cmds good
    apply Oracle.Talks.bind
    refine (runLoop_follows o _ _ cmds _).mono fun t r h => ?_
    cases r with
    | error e => exact .ran cmds good t _ h
    | ok u =>
      dsimp only
      apply Oracle.Talks.log
      simpa using InstallRun.ran cmds good t _ h

theorem runBuild_follows (s : Settings) (project : String) (processors : Nat) (w : World) :
    o.Talks (runBuild o.runner s project processors) w fun t r =>
      t = [.run (buildCommand s project ((s.jobs.getD processors).max 1)) r] := by
  unfold runBuild
  apply Oracle.Talks.log_bind
  apply Oracle.Talks.log_bind
  apply Oracle.Talks.loggedRun_bind
  · intro _
    exact Oracle.Talks.log rfl
  · intro e _
    rfl

theorem checkProject_follows (l : Layout) (w : World) :
    o.Talks (checkProject l) w fun t r => t = [] ∧ ∀ e, r = .error e → ValidationError l e := by
  unfold checkProject
  apply Oracle.Talks.world_bind
  dsimp only
  split
  · apply Oracle.Talks.log_bind
    exact Oracle.Talks.throw_bind ⟨rfl, fun e he => by cases he; left; rfl⟩
  apply Oracle.Talks.log_bind
  split
  · apply Oracle.Talks.log_bind
    exact Oracle.Talks.throw_bind ⟨rfl, fun e he => by cases he; right; left; rfl⟩
  apply Oracle.Talks.log_bind
  split
  · apply Oracle.Talks.log_bind
    exact Oracle.Talks.throw_bind ⟨rfl, fun e he => by cases he; right; right; rfl⟩
  exact Oracle.Talks.log ⟨rfl, fun e he => by cases he⟩

theorem exportEnvironment_follows (l : Layout) (w : World) :
    o.Talks (exportEnvironment l) w fun t r =>
      t = [] ∧ r = (prependToPath l.toolchainBin (w.var? "PATH")).map fun _ => () := by
  unfold exportEnvironment
  apply Oracle.Talks.world_bind
  split
  · rename_i e he
    exact Oracle.Talks.throw ⟨rfl, by rw [he]; rfl⟩
  · rename_i path hp
    refine Oracle.Talks.quiet_bind (Session.exec_modify _ w) rfl ⟨rfl, rfl, rfl, fun _ _ _ => rfl⟩ ?_
    apply Oracle.Talks.log_bind
    apply Oracle.Talks.log_bind
    exact Oracle.Talks.log ⟨rfl, by rw [hp]; rfl⟩

end Follows

theorem ensureMakefileLine_patch (mf marker line : String) (dry : Bool) (w : World) :
    MakefilePatch mf marker line dry w ((ensureMakefileLine mf marker line dry).exec w).1
      ((ensureMakefileLine mf marker line dry).exec w).2 := by
  unfold ensureMakefileLine
  rw [Session.exec_bind_ok (Session.exec_world w)]
  split
  · rename_i h
    exact .missing h
  · rename_i io other h
    exact .unreadable io h other
  · rename_i content h
    split
    · rename_i plan
      rw [Session.exec_bind_ok (Session.exec_log _ _ w)]
      exact .present content h plan _
    · rename_i tail plan
      cases dry
      · simp only [Bool.false_eq_true, ite_false]
        rw [Session.exec_bind_ok (Session.exec_log _ _ w)]
        unfold Session.onFiles
        rw [bind_assoc, Session.exec_bind_ok (Session.exec_world _)]
        -- the log record leaves the working directory, so the append is at the Makefile's path
        split
        · rename_i t ha
          rw [World.log_cwdLoc] at ha
          rw [Session.exec_bind_ok (Session.exec_set _ _)]
          exact .appended content tail h plan rfl _ t ha
        · rename_i io ha
          rw [World.log_cwdLoc] at ha
          rw [Session.exec_bind_error (Session.exec_throw _ _)]
          exact .refused content tail h plan rfl _ io ha
      · simp only [ite_true]
        rw [Session.exec_bind_ok (Session.exec_log _ _ w)]
        exact .dryRun content tail h plan rfl _

end BoardSetup

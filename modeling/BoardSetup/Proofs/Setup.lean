import BoardSetup.Proofs.SdkProtocol
import BoardSetup.Proofs.Steps
import BoardSetup.Orchestrator

/-!
# The steps of a run against any runner

What a run itself does to the files is `Guarantee`: a location the runner spares changes only
where the session log lies or at the project Makefile, and the Makefile only once, by the tail
`planAppend` gives, with the progress noting the append. `Oracle.Goes` says that a pipeline step
talks with the runner in a given way and keeps the guarantee; the step of each phase does
(`environment_goes` to `patch_goes`), the installation and the build making the calls
`DepsRun` and `BuildRun` list.
-/

namespace BoardSetup

namespace Pipeline

/-- What a pipeline step gives from a progress and a world, with the progress and world after. -/
def exec (x : Pipeline α) (p : Progress) (w : World) :
    (Except SetupError α × Progress) × World :=
  (x.run.run p).run w

theorem exec_bind (x : Pipeline α) (f : α → Pipeline β) (p : Progress) (w : World) :
    (x >>= f).exec p w = match x.exec p w with
      | ((.ok a, p'), w') => (f a).exec p' w'
      | ((.error e, p'), w') => ((.error e, p'), w') := by
  simp only [exec, ExceptT.run_bind, StateT.run_bind]
  rcases (x.run.run p).run w with ⟨⟨_ | _, p'⟩, w'⟩ <;> rfl

@[simp] theorem exec_lift (x : Session SetupError α) (p : Progress) (w : World) :
    (lift x).exec p w = (((x.exec w).1, p), (x.exec w).2) := rfl

@[simp] theorem exec_modify (g : Progress → Progress) (p : Progress) (w : World) :
    (modifyThe Progress g : Pipeline Unit).exec p w = ((.ok (), g p), w) := rfl

theorem exec_moveTo {p : Progress} {target : Phase} (h : p.phase.next.contains target = true)
    (w : World) : (moveTo target).exec p w = ((.ok (), { p with phase := target }), w) := by
  have hm : p.moveTo target = .ok { p with phase := target } := by
    simp only [Progress.moveTo, h, ite_true]
  have hget : (getThe Progress : Pipeline Progress).exec p w = ((.ok p, p), w) := rfl
  unfold moveTo
  rw [exec_bind, hget]
  dsimp only
  rw [hm]
  rfl

end Pipeline

section Guarantee

variable (s : Settings) (mloc : List String)

/-- The Makefile at `mloc` from one point of a run to a later one: unchanged, with the progress
noting an append exactly when it did before, or extended once by the tail `planAppend` gives,
the progress noting the append only after it. -/
def MakefileStep (p : Progress) (w : World) (p' : Progress) (w' : World) : Prop :=
  (w'.files.find? mloc = w.files.find? mloc ∧
    (p'.patchOutcome = some .appended ↔ p.patchOutcome = some .appended)) ∨
  (p.patchOutcome ≠ some .appended ∧ p'.patchOutcome = some .appended ∧ s.dryRun = false ∧
    ∃ old tail, w.files.find? mloc = some (.file old) ∧
      planAppend old s.makefileMarker s.makefileLine = some tail ∧
      w'.files.find? mloc = some (.file (old ++ tail)))

/-- What a run promises about the world from one point to a later one, whatever the runner
does: the working directory, the logger and the number of processors stay; a location the runner
spares changes only where the session log lies or at the Makefile; and the Makefile, when the
runner spares it and the session log lies elsewhere, makes a `MakefileStep`. -/
structure Guarantee (o : Oracle) (p : Progress) (w : World) (p' : Progress) (w' : World) :
    Prop where
  cwd : w'.cwd = w.cwd
  logger : w'.logger = w.logger
  processors : w'.processors = w.processors
  others : ∀ x, o.Spares x → w.logLoc? ≠ some x → x ≠ mloc → w'.files.find? x = w.files.find? x
  makefile : o.Spares mloc → w.logLoc? ≠ some mloc → MakefileStep s mloc p w p' w'

variable {s mloc} {o : Oracle} {p p₁ p₂ : Progress} {w w₁ w₂ : World}

theorem MakefileStep.trans (h₁ : MakefileStep s mloc p w p₁ w₁)
    (h₂ : MakefileStep s mloc p₁ w₁ p₂ w₂) : MakefileStep s mloc p w p₂ w₂ := by
  rcases h₁ with ⟨hm₁, ha₁⟩ | ⟨hn₁, hy₁, hd₁, old, tail, ho₁, hp₁, hm₁⟩ <;>
    rcases h₂ with ⟨hm₂, ha₂⟩ | ⟨hn₂, hy₂, hd₂, old₂, tail₂, ho₂, hp₂, hm₂⟩
  · exact .inl ⟨hm₂.trans hm₁, ha₂.trans ha₁⟩
  · exact .inr ⟨fun h => hn₂ (ha₁.2 h), hy₂, hd₂, old₂, tail₂, hm₁ ▸ ho₂, hp₂, hm₂⟩
  · exact .inr ⟨hn₁, ha₂.2 hy₁, hd₁, old, tail, ho₁, hp₁, hm₂.trans hm₁⟩
  · -- the progress notes an append once, so a second one cannot follow
    exact absurd hy₁ hn₂

namespace Guarantee

theorem trans (h₁ : Guarantee s mloc o p w p₁ w₁) (h₂ : Guarantee s mloc o p₁ w₁ p₂ w₂) :
    Guarantee s mloc o p w p₂ w₂ := by
  have hl : w₁.logLoc? = w.logLoc? := by
    simp only [World.logLoc?, World.cwdLoc, h₁.cwd, h₁.logger]
  refine ⟨h₂.cwd.trans h₁.cwd, h₂.logger.trans h₁.logger,
    h₂.processors.trans h₁.processors, fun x hs hx hm => ?_, fun hs hx => ?_⟩
  · rw [h₂.others x hs (hl ▸ hx) hm, h₁.others x hs hx hm]
  · exact (h₁.makefile hs hx).trans (h₂.makefile hs (hl ▸ hx))

theorem of_within (h : o.Within w w₁)
    (hp : p₁.patchOutcome = some .appended ↔ p.patchOutcome = some .appended) :
    Guarantee s mloc o p w p₁ w₁ :=
  ⟨h.cwd, h.logger, h.processors, fun x hs hx _ => h.files x hs hx,
    fun hs hx => .inl ⟨h.files mloc hs hx, hp⟩⟩

theorem log (g : Guarantee s mloc o p w p₁ w₁) (lvl : Level) (msg : String) :
    Guarantee s mloc o p w p₁ (w₁.log lvl msg) :=
  g.trans (.of_within (.log w₁ lvl msg) Iff.rfl)

end Guarantee

end Guarantee

/-- Run from `p` and `w`, the pipeline step talks with the oracle in a conversation `t`, keeps
the guarantee, and gives an outcome `r`, progress `p'` and world `w'` such that `P t r p' w'`. -/
def Oracle.Goes (o : Oracle) (s : Settings) (mloc : List String) (x : Pipeline α) (p : Progress)
    (w : World) (P : List Exchange → Except SetupError α → Progress → World → Prop) : Prop :=
  ∃ t, o.Converses w (x.exec p w).2 t ∧
    Guarantee s mloc o p w (x.exec p w).1.2 (x.exec p w).2 ∧
    P t (x.exec p w).1.1 (x.exec p w).1.2 (x.exec p w).2

namespace Oracle.Goes

variable {o : Oracle} {s : Settings} {mloc : List String} {x : Pipeline α} {p : Progress}
  {w : World} {P Q : List Exchange → Except SetupError α → Progress → World → Prop}

theorem mono (h : o.Goes s mloc x p w Q) (hQ : ∀ t r p' w', Q t r p' w' → P t r p' w') :
    o.Goes s mloc x p w P := by
  obtain ⟨t, hc, hg, hq⟩ := h
  exact ⟨t, hc, hg, hQ _ _ _ _ hq⟩

/-- The calls of `x >>= f` are those of `x`, then, when `x` succeeds, those of `f`; the rest
may count on what `x` guaranteed. -/
theorem bind {f : α → Pipeline β} {P : List Exchange → Except SetupError β → Progress → World → Prop}
    (hx : o.Goes s mloc x p w Q)
    (hok : ∀ t₁ a p₁ w₁, Q t₁ (.ok a) p₁ w₁ → Guarantee s mloc o p w p₁ w₁ →
      o.Goes s mloc (f a) p₁ w₁ fun t₂ r₂ p₂ w₂ => P (t₁ ++ t₂) r₂ p₂ w₂)
    (herr : ∀ t₁ e p₁ w₁, Q t₁ (.error e) p₁ w₁ → Guarantee s mloc o p w p₁ w₁ →
      P t₁ (.error e) p₁ w₁) :
    o.Goes s mloc (x >>= f) p w P := by
  obtain ⟨t₁, hc₁, hg₁, hq⟩ := hx
  unfold Goes
  rw [Pipeline.exec_bind]
  revert hc₁ hg₁ hq
  rcases x.exec p w with ⟨⟨_ | a, p₁⟩, w₁⟩ <;> intro hc₁ hg₁ hq
  · exact ⟨t₁, hc₁, hg₁, herr _ _ _ _ hq hg₁⟩
  · obtain ⟨t₂, hc₂, hg₂, hp₂⟩ := hok _ _ _ _ hq hg₁
    exact ⟨t₁ ++ t₂, hc₁.append hc₂, hg₁.trans hg₂, hp₂⟩

theorem lift {y : Session SetupError α} {R : List Exchange → Except SetupError α → Prop}
    (h : o.Talks y w R) : o.Goes s mloc (Pipeline.lift y) p w fun t r p' _ => R t r ∧ p' = p := by
  obtain ⟨t, hc, hw, hr⟩ := h
  exact ⟨t, hc, .of_within hw Iff.rfl, hr, rfl⟩

theorem modify {g : Progress → Progress} (hg : (g p).patchOutcome = p.patchOutcome) :
    o.Goes s mloc (modifyThe Progress g : Pipeline Unit) p w fun t r p' w' =>
      t = [] ∧ r = .ok () ∧ p' = g p ∧ w' = w := by
  refine ⟨[], ?_, ?_, ?_⟩ <;> rw [Pipeline.exec_modify]
  · exact .nil rfl
  · exact .of_within (.refl w) (by rw [hg])
  · exact ⟨rfl, rfl, rfl, rfl⟩

end Oracle.Goes

/-- The calls the dependencies phase makes, and how it ends. -/
inductive DepsRun (s : Settings) (privilege : Option String) :
    List Exchange → Except SetupError Unit → Prop
  | skipped (skip : s.skipInstall = true) : DepsRun s privilege [] (.ok ())
  | install (run : s.skipInstall = false) (t : List Exchange) (r : Except SetupError Unit)
      (h : InstallRun s.packages privilege t r) : DepsRun s privilege t r

/-- The calls the building phase makes, and how it ends; without a job count in the settings,
one job per processor. -/
inductive BuildRun (s : Settings) (project : String) (processors : Nat) :
    List Exchange → Except SetupError Unit → Prop
  | skipped (skip : s.skipBuild = true) : BuildRun s project processors [] (.ok ())
  | ran (run : s.skipBuild = false) (r : Except SetupError Unit) :
      BuildRun s project processors [.run (buildCommand s project ((s.jobs.getD processors).max 1)) r] r

section Paths

variable {s : Settings} {privilege : Option String} {processors : Nat}
  {t : List Exchange} {r : Except SetupError Unit}

theorem DepsRun.stopsAtFailure : DepsRun s privilege t r → StopsAtFailure t r
  | .skipped _ => trivial
  | .install _ _ _ h => h.stopsAtFailure

theorem BuildRun.stopsAtFailure {project : String} :
    BuildRun s project processors t r → StopsAtFailure t r
  | .skipped _ => trivial
  | .ran _ r => by cases r <;> simp [StopsAtFailure, Exchange.failure?]

end Paths

section Phases

variable (o : Oracle) (s : Settings) (mloc : List String) (l : Layout) (p : Progress) (w : World)

theorem environment_goes :
    o.Goes s mloc (Pipeline.environment l) p w fun t r p' _ =>
      (t = [] ∧ r = (prependToPath l.toolchainBin (w.var? "PATH")).map fun _ => ()) ∧ p' = p := by
  unfold Pipeline.environment
  apply Oracle.Goes.lift
  apply Oracle.Talks.bind
  refine (exportEnvironment_follows o l w).mono fun t r ⟨ht, hr⟩ => ?_
  cases r with
  | error e => exact ⟨ht, hr⟩
  | ok u =>
    apply Oracle.Talks.say_bind
    apply Oracle.Talks.say_bind
    apply Oracle.Talks.say
    exact ⟨by rw [ht]; rfl, hr⟩

theorem dependencies_goes (privilege : Option String) :
    o.Goes s mloc (Pipeline.dependencies o.runner s privilege) p w fun t r p' _ =>
      DepsRun s privilege t r ∧ p'.phase = p.phase ∧ p'.patchOutcome = p.patchOutcome := by
  unfold Pipeline.dependencies
  cases hskip : s.skipInstall
  · simp only [Bool.false_eq_true, ite_false]
    refine (Oracle.Goes.lift (installDependencies_follows o s.packages privilege w)).mono
      fun t r p' _ ⟨h, hp⟩ => ?_
    subst hp
    exact ⟨.install hskip t r h, rfl, rfl⟩
  · simp only [ite_true]
    refine Oracle.Goes.bind
      (Oracle.Goes.lift (Oracle.Talks.log (P := fun t r => t = [] ∧ r = .ok ()) ⟨rfl, rfl⟩))
      (fun t₁ _ p₁ _ ⟨⟨ht₁, _⟩, hp₁⟩ _ => ?_) (fun _ _ _ _ ⟨⟨_, h⟩, _⟩ _ => by cases h)
    refine (Oracle.Goes.modify rfl).mono fun t r p' _ ⟨ht, hr, hp', _⟩ => ?_
    subst ht₁ ht hr hp' hp₁
    exact ⟨.skipped hskip, rfl, rfl⟩

theorem sdk_goes :
    o.Goes s mloc (Pipeline.sdk o.runner s l) p w fun t r p' _ =>
      (∃ res, Sdk.SdkRun l.sdk s.sdkRemoteUrl (w.files.isDir w.cwdLoc l.sdk) t res ∧
        r = res.map fun _ => ()) ∧ p'.phase = p.phase ∧ p'.patchOutcome = p.patchOutcome := by
  unfold Pipeline.sdk
  refine Oracle.Goes.bind (Oracle.Goes.lift (R := Sdk.SdkRun l.sdk s.sdkRemoteUrl
      (w.files.isDir w.cwdLoc l.sdk)) ?_)
    (fun t₁ a p₁ _ ⟨h, hp₁⟩ _ => ?_) (fun t₁ e p₁ _ ⟨h, hp₁⟩ _ => ⟨⟨.error e, h, rfl⟩, by rw [hp₁]; simp⟩)
  · apply Oracle.Talks.bind
    refine (Sdk.ensure_follows o l.sdk s.sdkRemoteUrl w).mono fun t r h => ?_
    cases r with
    | error e => exact h
    | ok a =>
      apply Oracle.Talks.log_bind
      apply Oracle.Talks.pure
      simpa using h
  · refine (Oracle.Goes.modify rfl).mono fun t r p' _ ⟨ht, hr, hp', _⟩ => ?_
    subst ht hr hp' hp₁
    exact ⟨⟨.ok a, by simpa using h, rfl⟩, rfl, rfl⟩

theorem build_goes :
    o.Goes s mloc (Pipeline.build o.runner s l) p w fun t r p' _ =>
      BuildRun s l.project w.processors t r ∧ p'.phase = p.phase ∧
        p'.patchOutcome = p.patchOutcome := by
  unfold Pipeline.build
  cases hskip : s.skipBuild
  · simp only [Bool.false_eq_true, ite_false]
    have ran := runBuild_follows o s l.project w.processors w
    refine (Oracle.Goes.lift (Oracle.Talks.world_bind ran)).mono fun t r p' _ ⟨h, hp⟩ => ?_
    subst h hp
    exact ⟨.ran hskip r, rfl, rfl⟩
  · simp only [ite_true]
    refine Oracle.Goes.bind
      (Oracle.Goes.lift (Oracle.Talks.log (P := fun t r => t = [] ∧ r = .ok ()) ⟨rfl, rfl⟩))
      (fun t₁ _ p₁ _ ⟨⟨ht₁, _⟩, hp₁⟩ _ => ?_) (fun _ _ _ _ ⟨⟨_, h⟩, _⟩ _ => by cases h)
    refine (Oracle.Goes.modify rfl).mono fun t r p' _ ⟨ht, hr, hp', _⟩ => ?_
    subst ht₁ ht hr hp' hp₁
    exact ⟨.skipped hskip, rfl, rfl⟩

/-- The Makefile line appended: the Makefile is extended by the tail, and nothing else changes
but the session log. -/
theorem appended_guarantee {content tail : List UInt8} {msg : String} {t : FileTree}
    (hp : p.patchOutcome = none) (hm : mloc = FileTree.locate w.cwdLoc l.makefile)
    (h : w.files.read w.cwdLoc l.makefile = .ok content)
    (plan : planAppend content s.makefileMarker s.makefileLine = some tail)
    (notDry : s.dryRun = false)
    (ha : (w.log .info msg).files.append w.cwdLoc l.makefile tail false = .ok t) :
    Guarantee s mloc o p w { p with patchOutcome := some .appended }
      { w.log .info msg with files := t } := by
  subst hm
  have hread := FileTree.read_find? h
  obtain ⟨old, hold, rfl⟩ := FileTree.append_eq_put ha
  refine ⟨by simp, by simp, by simp, fun x _ hx hxm => ?_, fun _ hx => ?_⟩
  · dsimp only
    rw [FileTree.find?_put_ne hxm, World.log_find? w _ _ hx]
  · -- the log lies elsewhere, so the append extends the Makefile as it was read
    rw [World.log_find? w _ _ hx, hread] at hold
    cases hold
    have hloc : FileTree.locate w.cwdLoc l.makefile ≠ [] := by
      intro hnil
      rw [hnil, FileTree.find?_nil] at hread
      cases hread
    exact .inr ⟨by simp [hp], rfl, notDry, content, tail, hread, plan, FileTree.find?_put_self hloc⟩

theorem patch_goes (hp : p.patchOutcome = none) (hm : mloc = FileTree.locate w.cwdLoc l.makefile) :
    o.Goes s mloc (Pipeline.patch s l) p w fun t _ p' _ => t = [] ∧ p'.phase = p.phase := by
  unfold Pipeline.patch Oracle.Goes
  rw [Pipeline.exec_bind, Pipeline.exec_lift]
  have hpatch := ensureMakefileLine_patch l.makefile s.makefileMarker s.makefileLine s.dryRun w
  revert hpatch
  generalize (ensureMakefileLine l.makefile s.makefileMarker s.makefileLine s.dryRun).exec w = res
  obtain ⟨r, w'⟩ := res
  intro hpatch
  cases hpatch with
  | missing h => exact ⟨[], .nil rfl, .of_within (.refl _) Iff.rfl, rfl, rfl⟩
  | unreadable io h other => exact ⟨[], .nil rfl, .of_within (.refl _) Iff.rfl, rfl, rfl⟩
  | present content h plan msg =>
    exact ⟨[], .nil (World.log_calls ..), .of_within (.log w _ _)
      ⟨fun h => (by cases h), fun h => (by rw [hp] at h; cases h)⟩, rfl, rfl⟩
  | dryRun content tail h plan isDry msg =>
    exact ⟨[], .nil (World.log_calls ..), .of_within (.log w _ _)
      ⟨fun h => (by cases h), fun h => (by rw [hp] at h; cases h)⟩, rfl, rfl⟩
  | refused content tail h plan notDry msg io ha =>
    exact ⟨[], .nil (World.log_calls ..), .of_within (.log w _ _) Iff.rfl, rfl, rfl⟩
  | appended content tail h plan notDry msg t ha =>
    exact ⟨[], .nil (World.log_calls ..), appended_guarantee o s mloc l p w hp hm h plan notDry ha,
      rfl, rfl⟩

end Phases

end BoardSetup

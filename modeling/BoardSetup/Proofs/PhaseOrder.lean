import BoardSetup.Proofs.Report

/-!
# A run takes its phases in order, each in the world it reached

`Pipeline.StepCalls ph w` lists the calls the step of `ph` makes when it runs in `w`: installing
the host tools and building make theirs unless the settings skip them, making sure of the SDK
follows the SDK's procedure for what `w` holds at the SDK path, and the other steps make none.
`CallsBefore w₀ ph p w t` is `Reaches` with the calls: the run from `w₀` gets to the step of `ph`
in world `w`, each earlier step having succeeded in the world it ran in, and `t` the calls they
made there, in order.

A run ends in the failed step of a phase it reached, with that step's error and with the calls
before the step followed by the step's own; or it completes, having made the calls of every step.
The files change only as `Guarantee` allows. The Makefile changes only in the step of the patching
phase, which the run reaches only after the project passed its check.

Main statement: `setup_follows_phases`.
-/

namespace BoardSetup

namespace Pipeline

section Steps

variable (o : Oracle) (s : Settings) (l : Layout) (privilege : Option String)

/-- The calls the step of `ph` makes when it runs in `w`, and how it ends. -/
def StepCalls (ph : Phase) (w : World) (t : List Exchange) (r : Except SetupError Unit) : Prop :=
  match ph with
  | .dependencies => DepsRun s privilege t r
  | .sdk => ∃ res, Sdk.SdkRun l.sdk s.sdkRemoteUrl (w.files.isDir w.cwdLoc l.sdk) t res ∧
      r = res.map fun _ => ()
  | .building => BuildRun s l.project w.processors t r
  | .environment | .validation | .patching | .completed | .failed => t = []

variable {s l privilege}

theorem StepCalls.stopsAtFailure {ph : Phase} {w : World} {t : List Exchange}
    {r : Except SetupError Unit} (h : StepCalls s l privilege ph w t r) : StopsAtFailure t r := by
  cases ph with
  | dependencies => exact DepsRun.stopsAtFailure h
  | sdk =>
    obtain ⟨res, hrun, rfl⟩ := h
    exact hrun.stopsAtFailure.map _
  | building => exact BuildRun.stopsAtFailure h
  | environment | validation | patching | completed | failed =>
    rw [show t = [] from h]
    trivial

variable (s l privilege)

/-- The step lemma: run from `p` in `w`, the step of `ph` makes the calls `StepCalls` allows in
`w` and keeps the guarantee, given that nothing has been noted of the Makefile when it is
patched. -/
theorem stage_goes (mloc : List String) (ph : Phase) {p : Progress} {w : World}
    (hp : ph = .patching → p.patchOutcome = none)
    (hm : mloc = FileTree.locate w.cwdLoc l.makefile) :
    o.Goes s mloc (stage o.runner s l privilege ph) p w fun t r _ _ =>
      StepCalls s l privilege ph w t r := by
  cases ph with
  | environment => exact (environment_goes o s mloc l p w).mono fun _ _ _ _ h => h.1.1
  | dependencies => exact (dependencies_goes o s mloc p w privilege).mono fun _ _ _ _ h => h.1
  | sdk => exact (sdk_goes o s mloc l p w).mono fun _ _ _ _ h => h.1
  | validation =>
    exact (Oracle.Goes.lift (checkProject_follows o l w)).mono fun _ _ _ _ h => h.1.1
  | patching => exact (patch_goes o s mloc l p w (hp rfl) hm).mono fun _ _ _ _ h => h.1
  | building => exact (build_goes o s mloc l p w).mono fun _ _ _ _ h => h.1
  | completed | failed => exact ⟨[], .nil rfl, .of_within (.refl w) Iff.rfl, rfl⟩

end Steps

section Calls

variable (o : Oracle) (s : Settings) (l : Layout) (privilege : Option String)

/-- The run from `w₀` gets to the step of `ph` with progress `p` in world `w`, having made the
calls `t`: every earlier step succeeded in the world the run reached it in, making there the calls
`StepCalls` allows, and the run moved on after each. -/
inductive CallsBefore (w₀ : World) : Phase → Progress → World → List Exchange → Prop
  | start : CallsBefore w₀ .environment {} w₀ []
  | next {ph : Phase} {p p' : Progress} {w w' : World} {t t' : List Exchange}
      (h : CallsBefore w₀ ph p w t) (working : ph.isTerminal = false)
      (ok : (stage o.runner s l privilege ph).exec p w = ((.ok (), p'), w'))
      (talk : o.Converses w w' t') (calls : StepCalls s l privilege ph w t' (.ok ())) :
      CallsBefore w₀ ph.onward { p' with phase := ph.onward } w' (t ++ t')

variable {o s l privilege} {w₀ : World} {ph : Phase} {p : Progress} {w : World}
  {t : List Exchange}

theorem CallsBefore.reaches (h : CallsBefore o s l privilege w₀ ph p w t) :
    Reaches o.runner s l privilege w₀ ph p w := by
  induction h with
  | start => exact .start
  | next _ working ok _ _ ih => exact .next ih working ok

theorem CallsBefore.converses (h : CallsBefore o s l privilege w₀ ph p w t) :
    o.Converses w₀ w t := by
  induction h with
  | start => exact .nil rfl
  | next _ _ _ talk _ ih => exact ih.append talk

theorem CallsBefore.no_failure (h : CallsBefore o s l privilege w₀ ph p w t) :
    ∀ x ∈ t, x.failure? = none := by
  induction h with
  | start => exact fun x hx => nomatch hx
  | next _ _ _ _ calls ih =>
    intro x hx
    rcases List.mem_append.1 hx with hx | hx
    · exact ih x hx
    · exact StopsAtFailure.no_failure calls.stopsAtFailure x hx

theorem Reaches.patchOutcome_none (h : Reaches o.runner s l privilege w₀ .patching p w) :
    p.patchOutcome = none := by
  cases hp : p.patchOutcome with
  | none => rfl
  | some po => exact absurd ((h.agrees.patchOutcome po).1 hp).1 (Nat.lt_irrefl _)

theorem Reaches.callsBefore (h : Reaches o.runner s l privilege w₀ ph p w) :
    ∃ t, CallsBefore o s l privilege w₀ ph p w t := by
  induction h with
  | start => exact ⟨[], .start⟩
  | @next ph p p' w w' h working ok ih =>
    obtain ⟨t, ht⟩ := ih
    obtain ⟨t', talk, -, calls⟩ := stage_goes o s l privilege
      (FileTree.locate w.cwdLoc l.makefile) ph (p := p)
      (fun hph => by subst hph; exact h.patchOutcome_none) rfl
    rw [ok] at talk calls
    exact ⟨t ++ t', .next ht working ok talk calls⟩

/-- The run lemma for the files: up to the step of every phase it reaches, the run keeps the
guarantee at the Makefile it started with. -/
theorem CallsBefore.guarantee (h : CallsBefore o s l privilege w₀ ph p w t) :
    Guarantee s (FileTree.locate w₀.cwdLoc l.makefile) o {} w₀ p w := by
  induction h with
  | start => exact .of_within (.refl w₀) Iff.rfl
  | @next ph p p' w w' t t' h working ok talk calls ih =>
    have hm : FileTree.locate w₀.cwdLoc l.makefile = FileTree.locate w.cwdLoc l.makefile := by
      simp only [World.cwdLoc, ih.cwd]
    obtain ⟨-, -, g, -⟩ := stage_goes o s l privilege _ ph (p := p)
      (fun hph => by subst hph; exact h.reaches.patchOutcome_none) hm
    rw [ok] at g
    exact (ih.trans g).trans (.of_within (.refl w') Iff.rfl)

/-- The failed step of a reached phase made the calls `StepCalls` allows in the world it ran in,
and the run up to its end kept the guarantee. -/
theorem CallsBefore.failed_step (h : CallsBefore o s l privilege w₀ ph p w t) {e : SetupError}
    {p' : Progress} {w' : World}
    (fail : (stage o.runner s l privilege ph).exec p w = ((.error e, p'), w')) :
    ∃ t', o.Converses w w' t' ∧ StepCalls s l privilege ph w t' (.error e) ∧
      Guarantee s (FileTree.locate w₀.cwdLoc l.makefile) o {} w₀ p' w' := by
  have g₀ := h.guarantee
  have hm : FileTree.locate w₀.cwdLoc l.makefile = FileTree.locate w.cwdLoc l.makefile := by
    simp only [World.cwdLoc, g₀.cwd]
  obtain ⟨t', talk, g, calls⟩ := stage_goes o s l privilege _ ph (p := p)
    (fun hph => by subst hph; exact h.reaches.patchOutcome_none) hm
  rw [fail] at talk g calls
  exact ⟨t', talk, calls, g₀.trans g⟩

end Calls

section Makefile

variable {o : Oracle} {s : Settings} {l : Layout} {privilege : Option String} {w₀ : World}

/-- A run whose Makefile step appended: that step ran in a world holding the Makefile the run
started with, and left it extended by the tail `planAppend` gives. -/
theorem Reaches.appended {p : Progress} {w w' : World} {old : List UInt8}
    (h : Reaches o.runner s l privilege w₀ .patching p w)
    (happ : (ensureMakefileLine l.makefile s.makefileMarker s.makefileLine s.dryRun).exec w =
      (.ok .appended, w'))
    (hs : o.Spares (FileTree.locate w₀.cwdLoc l.makefile))
    (hx : w₀.logLoc? ≠ some (FileTree.locate w₀.cwdLoc l.makefile))
    (hold : w₀.files.find? (FileTree.locate w₀.cwdLoc l.makefile) = some (.file old)) :
    ∃ t tail, CallsBefore o s l privilege w₀ .patching p w t ∧
      w.files.find? (FileTree.locate w₀.cwdLoc l.makefile) =
        w₀.files.find? (FileTree.locate w₀.cwdLoc l.makefile) ∧
      planAppend old s.makefileMarker s.makefileLine = some tail ∧
      w'.files.find? (FileTree.locate w₀.cwdLoc l.makefile) = some (.file (old ++ tail)) := by
  obtain ⟨t, hcb⟩ := h.callsBefore
  have g₀ := hcb.guarantee
  have hnone := h.patchOutcome_none
  have hl : w.logLoc? = w₀.logLoc? := by
    simp only [World.logLoc?, World.cwdLoc, g₀.cwd, g₀.logger]
  -- nothing was noted of the Makefile before, so the run left it as it was
  have hsame : w.files.find? (FileTree.locate w₀.cwdLoc l.makefile) =
      w₀.files.find? (FileTree.locate w₀.cwdLoc l.makefile) := by
    rcases g₀.makefile hs hx with ⟨hm, -⟩ | ⟨-, hy, -⟩
    · exact hm
    · rw [hnone] at hy
      cases hy
  have hm : FileTree.locate w₀.cwdLoc l.makefile = FileTree.locate w.cwdLoc l.makefile := by
    simp only [World.cwdLoc, g₀.cwd]
  obtain ⟨-, -, g, -⟩ := stage_goes o s l privilege _ .patching (fun _ => hnone) hm
  rw [exec_stage_patching, happ] at g
  rcases g.makefile hs (hl ▸ hx) with ⟨-, hy⟩ | ⟨-, -, -, old', tail, ho, hp, hw'⟩
  · -- the step notes the append, which was not noted before
    rw [hnone] at hy
    cases hy.1 rfl
  · rw [hsame, hold] at ho
    cases ho
    exact ⟨t, tail, hcb, hsame, hp, hw'⟩

theorem Ends.appended {x : (Except SetupError Unit × Progress) × World}
    (h : Ends o.runner s l privilege w₀ x) (hy : x.1.2.patchOutcome = some .appended) :
    ∃ p w w', Reaches o.runner s l privilege w₀ .patching p w ∧
      (ensureMakefileLine l.makefile s.makefileMarker s.makefileLine s.dryRun).exec w =
        (.ok .appended, w') := by
  cases h with
  | @failed ph p p' w w' e h working fail =>
    obtain ⟨-, -, -, hkeep⟩ := stage_keeps o.runner s l privilege fail
    rw [hkeep e rfl] at hy
    exact ((h.agrees.patchOutcome _).1 hy).2
  | completed h => exact ((h.agrees.patchOutcome _).1 hy).2

/-- The Makefile over a whole run that kept the guarantee: as it was, or appended to once, by the
step of the patching phase, and left alone after it. -/
theorem Ends.makefile {x : (Except SetupError Unit × Progress) × World} {W : World}
    (h : Ends o.runner s l privilege w₀ x)
    (G : Guarantee s (FileTree.locate w₀.cwdLoc l.makefile) o {} w₀ x.1.2 W)
    (hs : o.Spares (FileTree.locate w₀.cwdLoc l.makefile))
    (hx : w₀.logLoc? ≠ some (FileTree.locate w₀.cwdLoc l.makefile)) :
    let mloc := FileTree.locate w₀.cwdLoc l.makefile
    W.files.find? mloc = w₀.files.find? mloc ∨
      s.dryRun = false ∧ ∃ p₁ w₁ t₁ w₂ old tail,
        CallsBefore o s l privilege w₀ .patching p₁ w₁ t₁ ∧
        w₁.files.find? mloc = w₀.files.find? mloc ∧
        (ensureMakefileLine l.makefile s.makefileMarker s.makefileLine s.dryRun).exec w₁ =
          (.ok .appended, w₂) ∧
        w₀.files.find? mloc = some (.file old) ∧
        planAppend old s.makefileMarker s.makefileLine = some tail ∧
        w₂.files.find? mloc = some (.file (old ++ tail)) ∧ W.files.find? mloc = w₂.files.find? mloc := by
  intro mloc
  rcases G.makefile hs hx with ⟨hm, -⟩ | ⟨-, hy, hd, old, tail, ho, hp, hW⟩
  · exact .inl hm
  · obtain ⟨p₁, w₁, w₂, hreach, happ⟩ := h.appended hy
    obtain ⟨t₁, tail', hcb, hsame, hp', hw₂⟩ := hreach.appended happ hs hx ho
    rw [hp] at hp'
    cases hp'
    exact .inr ⟨hd, p₁, w₁, t₁, w₂, old, tail, hcb, hsame, happ, ho, hp, hw₂, hW.trans hw₂.symm⟩

end Makefile

end Pipeline

open Pipeline in
/-- Against every runner, from every world and for all settings and layouts, a run takes its
phases in order, each step in the world the run reached it in, and stops at the first step that
fails. A failed run failed in the step of a working phase it reached, every earlier step having
succeeded; the error it returns is that step's, the progress names that phase, and its calls are
those of the earlier steps followed by those of the failed one, each as `StepCalls` allows in the
world the step ran in. A run that succeeded reached completion, having made the calls of every
step. The calls stop at the first that fails. Of the locations the runner spares, the run changes
none but the session log's and the project Makefile's; and the Makefile, unless the session log
is kept in it, is as it was or was extended once, outside a dry run, by the step of the patching
phase: that step ran in a world where the Makefile was still as at the start, after the project
passed its check, appended the tail `planAppend` gives, and nothing changed the Makefile after
it. -/
theorem setup_follows_phases (o : Oracle) (s : Settings) (l : Layout) (w : World) :
    let privilege := if w.superuser then none else s.privilegeCommand
    let run := (setup o.runner s l).run w
    let mloc := FileTree.locate w.cwdLoc l.makefile
    ∃ t, o.Converses w run.2 t ∧ StopsAtFailure t run.1.result ∧
      (∀ e, run.1.result = .error e → ∃ ph p w₁ t₁ p' w₂ t₂,
        CallsBefore o s l privilege w ph p w₁ t₁ ∧ ph.isTerminal = false ∧
        (stage o.runner s l privilege ph).exec p w₁ = ((.error e, p'), w₂) ∧
        o.Converses w₁ w₂ t₂ ∧ StepCalls s l privilege ph w₁ t₂ (.error e) ∧ t = t₁ ++ t₂ ∧
        run.1.progress.failedIn = some ph) ∧
      (run.1.result = .ok () → ∃ p w₁, CallsBefore o s l privilege w .completed p w₁ t) ∧
      (∀ x, o.Spares x → w.logLoc? ≠ some x → x ≠ mloc → run.2.files.find? x = w.files.find? x) ∧
      (o.Spares mloc → w.logLoc? ≠ some mloc →
        run.2.files.find? mloc = w.files.find? mloc ∨
        s.dryRun = false ∧ ∃ p₁ w₁ t₁ w₂ old tail,
          CallsBefore o s l privilege w .patching p₁ w₁ t₁ ∧
          w₁.files.find? mloc = w.files.find? mloc ∧
          (ensureMakefileLine l.makefile s.makefileMarker s.makefileLine s.dryRun).exec w₁ =
            (.ok .appended, w₂) ∧
          w.files.find? mloc = some (.file old) ∧
          planAppend old s.makefileMarker s.makefileLine = some tail ∧
          w₂.files.find? mloc = some (.file (old ++ tail)) ∧
          run.2.files.find? mloc = w₂.files.find? mloc) := by
  intro privilege run mloc
  have hend := phases_ends o.runner s l privilege w
  have hrun := setup_run_eq o.runner s l w
  simp only [run, hrun]
  revert hend
  generalize (phases o.runner s l privilege).exec {} w = x
  intro hend
  cases hend with
  | @failed ph p p' w₁ w₂ e h working fail =>
    dsimp only
    obtain ⟨t₁, hcb⟩ := h.callsBefore
    obtain ⟨t₂, talk, calls, g⟩ := hcb.failed_step fail
    have hfi : (p'.recordError e.message).failedIn = some ph := by
      obtain ⟨-, -, -, hkeep⟩ := stage_keeps o.runner s l privilege fail
      rw [hkeep e rfl]
      simp [Progress.recordError, h.phase, working]
    refine ⟨t₁ ++ t₂, (hcb.converses.append talk).of_eq (World.log_calls ..),
      .append calls.stopsAtFailure hcb.no_failure, fun e' he' => ?_, fun hok => (by cases hok),
      fun x hs hx hxm => (g.log _ _).others x hs hx hxm,
      fun hs hx => (Ends.failed h working fail).makefile (g.log _ _) hs hx⟩
    cases he'
    exact ⟨ph, p, w₁, t₁, p', w₂, t₂, hcb, working, fail, talk, calls, rfl, hfi⟩
  | @completed p w₁ h =>
    dsimp only
    obtain ⟨t, hcb⟩ := h.callsBefore
    have G := hcb.guarantee.trans (Guarantee.of_within (p := p)
      (.stdout (o := o) w₁ (w₁.stdout ++ completionMessage ++ "\n")) Iff.rfl)
    refine ⟨t, hcb.converses.of_eq (World.log_calls ..), .of_no_failure hcb.no_failure,
      fun e he => (by cases he), fun _ => ⟨p, w₁, hcb⟩, fun x hs hx hxm => (G.log _ _).others x hs hx hxm,
      fun hs hx => (Ends.completed h).makefile (G.log _ _) hs hx⟩

end BoardSetup

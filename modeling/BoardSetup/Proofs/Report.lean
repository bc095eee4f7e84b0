import BoardSetup.Proofs.Setup

/-!
# What a run reports

A run is the step of each working phase in turn, each followed by the move to the next phase.
`Pipeline.stage` is the step of a phase, and `Pipeline.Reaches w₀ ph p w` says that the run from
`w₀` gets to the step of `ph` with progress `p` in world `w`: every earlier step succeeded. A run
reaches a phase in one way at most (`Reaches.unique`), and it ends (`Ends`) in the failed step of
a phase it reached, or after reaching `completed`.

At the step of each phase the progress agrees with the steps before it (`Agrees`): it names that
phase and no failure, it holds an SDK outcome exactly when the SDK step succeeded with it, a
Makefile outcome exactly when the Makefile step did, and the phases the settings skipped among
those passed.

Main statement: `setup_report_agrees`, the report of a run against how it ended.
-/

namespace BoardSetup

namespace Phase

/-- The place of a phase in a run: the working phases in order, then `completed`, then
`failed`. -/
def rank : Phase → Nat
  | .environment => 0
  | .dependencies => 1
  | .sdk => 2
  | .validation => 3
  | .patching => 4
  | .building => 5
  | .completed => 6
  | .failed => 7

/-- The phase a run moves to after the step of a working phase; the end phases stay. -/
def onward : Phase → Phase
  | .environment => .dependencies
  | .dependencies => .sdk
  | .sdk => .validation
  | .validation => .patching
  | .patching => .building
  | .building => .completed
  | .completed => .completed
  | .failed => .failed

theorem rank_inj {a b : Phase} (h : a.rank = b.rank) : a = b := by
  cases a <;> cases b <;> simp_all [rank]

theorem rank_onward {ph : Phase} (h : ph.isTerminal = false) : ph.onward.rank = ph.rank + 1 := by
  cases ph <;> simp_all [isTerminal, onward, rank]

theorem next_contains_onward {ph : Phase} (h : ph.isTerminal = false) :
    ph.next.contains ph.onward = true := by
  cases ph <;> simp_all [isTerminal, onward, next]

theorem onward_ne_environment (ph : Phase) : ph.onward ≠ .environment := by
  cases ph <;> simp [onward]

theorem onward_inj {a b : Phase} (ha : a.isTerminal = false) (hb : b.isTerminal = false)
    (h : a.onward = b.onward) : a = b := by
  have hr := congrArg rank h
  rw [rank_onward ha, rank_onward hb] at hr
  exact rank_inj (by omega)

theorem rank_le_of_working {ph : Phase} (h : ph.isTerminal = false) : ph.rank ≤ building.rank := by
  cases ph <;> simp_all [isTerminal, rank]

end Phase

namespace Pipeline

section Stages

variable (r : Runner) (s : Settings) (l : Layout) (privilege : Option String)

/-- The step of each working phase; the end phases have none. -/
def stage : Phase → Pipeline Unit
  | .environment => environment l
  | .dependencies => dependencies r s privilege
  | .sdk => sdk r s l
  | .validation => lift (checkProject l)
  | .patching => patch s l
  | .building => build r s l
  | .completed | .failed => pure ()

/-- A run is the step of each working phase in turn, each followed by the move onward, and then
the completion line. -/
theorem phases_eq_stages : phases r s l privilege =
    (stage r s l privilege .environment >>= fun _ => moveTo .dependencies >>= fun _ =>
      stage r s l privilege .dependencies >>= fun _ => moveTo .sdk >>= fun _ =>
      stage r s l privilege .sdk >>= fun _ => moveTo .validation >>= fun _ =>
      stage r s l privilege .validation >>= fun _ => moveTo .patching >>= fun _ =>
      stage r s l privilege .patching >>= fun _ => moveTo .building >>= fun _ =>
      stage r s l privilege .building >>= fun _ => moveTo .completed >>= fun _ =>
      lift (Session.say completionMessage)) := rfl

theorem exec_stage_environment (p : Progress) (w : World) :
    ((stage r s l privilege .environment).exec p w).1.2 = p := rfl

theorem exec_stage_validation (p : Progress) (w : World) :
    ((stage r s l privilege .validation).exec p w).1.2 = p := rfl

theorem exec_stage_dependencies (p : Progress) (w : World) :
    (stage r s l privilege .dependencies).exec p w =
      if s.skipInstall then
        ((.ok (), p.recordSkipped .dependencies),
          w.log .info "[Deps] Skipping host package installation")
      else
        ((((installDependencies r s.packages privilege).exec w).1, p),
          ((installDependencies r s.packages privilege).exec w).2) := by
  simp only [stage, dependencies]
  cases s.skipInstall <;> rfl

theorem exec_stage_sdk (p : Progress) (w : World) :
    (stage r s l privilege .sdk).exec p w =
      match (Sdk.ensure r l.sdk s.sdkRemoteUrl).exec w with
      | (.ok o, w₁) => ((.ok (), { p with sdkOutcome := some o }),
          w₁.log .info s!"[Sdk] SDK {o.name}")
      | (.error e, w₁) => ((.error e, p), w₁) := by
  simp only [stage, sdk]
  rw [exec_bind, exec_lift, Session.exec_bind]
  rcases (Sdk.ensure r l.sdk s.sdkRemoteUrl).exec w with ⟨_ | o, w₁⟩ <;> rfl

theorem exec_stage_patching (p : Progress) (w : World) :
    (stage r s l privilege .patching).exec p w =
      match (ensureMakefileLine l.makefile s.makefileMarker s.makefileLine s.dryRun).exec w with
      | (.ok o, w₁) => ((.ok (), { p with patchOutcome := some o }), w₁)
      | (.error e, w₁) => ((.error e, p), w₁) := by
  simp only [stage, patch]
  rw [exec_bind, exec_lift]
  rcases (ensureMakefileLine l.makefile s.makefileMarker s.makefileLine s.dryRun).exec w with
    ⟨_ | o, w₁⟩ <;> rfl

theorem exec_stage_building (p : Progress) (w : World) :
    (stage r s l privilege .building).exec p w =
      if s.skipBuild then
        ((.ok (), p.recordSkipped .building), w.log .info "[Build] Skipping build")
      else
        ((((runBuild r s l.project w.processors).exec w).1, p),
          ((runBuild r s l.project w.processors).exec w).2) := by
  simp only [stage, build]
  cases s.skipBuild <;> rfl

/-- A step keeps the phase and the absence of a failure, and a failed step leaves the progress as
it was. -/
theorem stage_keeps {ph : Phase} {p p' : Progress} {w w' : World} {res : Except SetupError Unit}
    (h : (stage r s l privilege ph).exec p w = ((res, p'), w')) :
    p'.phase = p.phase ∧ p'.failedIn = p.failedIn ∧ p'.error = p.error ∧
      ∀ e, res = .error e → p' = p := by
  cases ph with
  | environment =>
    have hp := exec_stage_environment r s l privilege p w
    rw [h] at hp
    subst hp
    exact ⟨rfl, rfl, rfl, fun _ _ => rfl⟩
  | validation =>
    have hp := exec_stage_validation r s l privilege p w
    rw [h] at hp
    subst hp
    exact ⟨rfl, rfl, rfl, fun _ _ => rfl⟩
  | dependencies =>
    rw [exec_stage_dependencies] at h
    split at h <;> cases h
    · exact ⟨rfl, rfl, rfl, fun _ he => by cases he⟩
    · exact ⟨rfl, rfl, rfl, fun _ _ => rfl⟩
  | sdk =>
    rw [exec_stage_sdk] at h
    split at h <;> cases h
    · exact ⟨rfl, rfl, rfl, fun _ he => by cases he⟩
    · exact ⟨rfl, rfl, rfl, fun _ _ => rfl⟩
  | patching =>
    rw [exec_stage_patching] at h
    split at h <;> cases h
    · exact ⟨rfl, rfl, rfl, fun _ he => by cases he⟩
    · exact ⟨rfl, rfl, rfl, fun _ _ => rfl⟩
  | building =>
    rw [exec_stage_building] at h
    split at h <;> cases h
    · exact ⟨rfl, rfl, rfl, fun _ he => by cases he⟩
    · exact ⟨rfl, rfl, rfl, fun _ _ => rfl⟩
  | completed =>
    cases h
    exact ⟨rfl, rfl, rfl, fun _ he => by cases he⟩
  | failed =>
    cases h
    exact ⟨rfl, rfl, rfl, fun _ he => by cases he⟩

/-- The run from `w₀` gets to the step of `ph` with progress `p` in world `w`: every earlier step
succeeded, and the run moved on after each. -/
inductive Reaches (w₀ : World) : Phase → Progress → World → Prop
  | start : Reaches w₀ .environment {} w₀
  | next {ph : Phase} {p p' : Progress} {w w' : World} (h : Reaches w₀ ph p w)
      (working : ph.isTerminal = false)
      (ok : (stage r s l privilege ph).exec p w = ((.ok (), p'), w')) :
      Reaches w₀ ph.onward { p' with phase := ph.onward } w'

end Stages

namespace Reaches

variable {r : Runner} {s : Settings} {l : Layout} {privilege : Option String} {w₀ : World}
  {ph : Phase} {p : Progress} {w : World}

theorem phase (h : Reaches r s l privilege w₀ ph p w) : p.phase = ph := by
  cases h <;> rfl

theorem unique (h : Reaches r s l privilege w₀ ph p w) :
    ∀ {ph' p' w'}, Reaches r s l privilege w₀ ph' p' w' → ph = ph' → p = p' ∧ w = w' := by
  induction h with
  | start =>
    intro ph' p' w' h' he
    cases h' with
    | start => exact ⟨rfl, rfl⟩
    | next _ _ _ => exact absurd he.symm (Phase.onward_ne_environment _)
  | next h working ok ih =>
    intro ph' p' w' h' he
    cases h' with
    | start => exact absurd he (Phase.onward_ne_environment _)
    | next h₂ working₂ ok₂ =>
      -- the phases before are the same, so the run got there alike and took the same step
      cases Phase.onward_inj working working₂ he
      obtain ⟨rfl, rfl⟩ := ih h₂ rfl
      rw [ok] at ok₂
      cases ok₂
      exact ⟨rfl, rfl⟩

theorem of_rank_le (h : Reaches r s l privilege w₀ ph p w) {q : Phase} (hq : q.rank ≤ ph.rank) :
    ∃ p' w', Reaches r s l privilege w₀ q p' w' := by
  induction h with
  | start =>
    have hq' : q = .environment := Phase.rank_inj (by simp [Phase.rank] at hq ⊢; omega)
    subst hq'
    exact ⟨_, _, .start⟩
  | next h working ok ih =>
    rw [Phase.rank_onward working] at hq
    rcases Nat.lt_or_eq_of_le hq with hlt | heq
    · exact ih (by omega)
    · rw [← Phase.rank_onward working] at heq
      have hq' := Phase.rank_inj heq
      subst hq'
      exact ⟨_, _, .next h working ok⟩

theorem rank_le_of_fails (h : Reaches r s l privilege w₀ ph p w) {e : SetupError} {p₁ : Progress}
    {w₁ : World} (fail : (stage r s l privilege ph).exec p w = ((.error e, p₁), w₁))
    {q : Phase} {p' : Progress} {w' : World} (h' : Reaches r s l privilege w₀ q p' w') :
    q.rank ≤ ph.rank := by
  induction h' with
  | start => exact Nat.zero_le _
  | @next ph₀ p₀ p₀' v v' h₀ working ok ih =>
    rw [Phase.rank_onward working]
    have hne : ph ≠ ph₀ := by
      intro heq
      subst heq
      obtain ⟨rfl, rfl⟩ := h.unique h₀ rfl
      rw [fail] at ok
      cases ok
    rcases Nat.lt_or_eq_of_le ih with hlt | heq
    · omega
    · exact absurd (Phase.rank_inj heq).symm hne

end Reaches

section Ending

variable (r : Runner) (s : Settings) (l : Layout) (privilege : Option String)

/-- How the run from `w₀` ends: in the failed step of a working phase it reached, or after
reaching `completed`, with the completion line printed. -/
inductive Ends (w₀ : World) : (Except SetupError Unit × Progress) × World → Prop
  | failed {ph : Phase} {p p' : Progress} {w w' : World} {e : SetupError}
      (h : Reaches r s l privilege w₀ ph p w) (working : ph.isTerminal = false)
      (fail : (stage r s l privilege ph).exec p w = ((.error e, p'), w')) :
      Ends w₀ ((.error e, p'), w')
  | completed {p : Progress} {w : World} (h : Reaches r s l privilege w₀ .completed p w) :
      Ends w₀ ((.ok (), p), { w with stdout := w.stdout ++ completionMessage ++ "\n" })

variable {r s l privilege}

/-- The step of a reached working phase, the move onward, then the rest: the run ends in this
step, or as the rest does from the next phase. -/
theorem Ends.stage_bind {w₀ : World} {ph : Phase} {p : Progress} {w : World}
    (h : Reaches r s l privilege w₀ ph p w) (working : ph.isTerminal = false)
    {k : Unit → Pipeline Unit}
    (hk : ∀ p' w', Reaches r s l privilege w₀ ph.onward p' w' → Ends r s l privilege w₀ ((k ()).exec p' w')) :
    Ends r s l privilege w₀
      ((stage r s l privilege ph >>= fun _ => moveTo ph.onward >>= k).exec p w) := by
  rw [exec_bind]
  rcases hx : (stage r s l privilege ph).exec p w with ⟨⟨e | ⟨⟩, p'⟩, w'⟩
  · exact .failed h working hx
  · have hph : p'.phase = ph := by rw [(stage_keeps r s l privilege hx).1, h.phase]
    dsimp only
    rw [exec_bind, exec_moveTo (by rw [hph]; exact Phase.next_contains_onward working)]
    exact hk _ _ (.next h working hx)

variable (r s l privilege) in
theorem phases_ends (w₀ : World) :
    Ends r s l privilege w₀ ((phases r s l privilege).exec {} w₀) := by
  rw [phases_eq_stages]
  refine Ends.stage_bind .start rfl fun p₁ w₁ h₁ => ?_
  refine Ends.stage_bind h₁ rfl fun p₂ w₂ h₂ => ?_
  refine Ends.stage_bind h₂ rfl fun p₃ w₃ h₃ => ?_
  refine Ends.stage_bind h₃ rfl fun p₄ w₄ h₄ => ?_
  refine Ends.stage_bind h₄ rfl fun p₅ w₅ h₅ => ?_
  refine Ends.stage_bind h₅ rfl fun p₆ w₆ h₆ => ?_
  rw [exec_lift]
  exact .completed h₆

end Ending

section Agreement

variable (r : Runner) (s : Settings) (l : Layout) (privilege : Option String)

/-- In the run from `w₀`, the step of `q` was reached and `x`, run there, gave `o`. -/
def StepGave {α : Type} (w₀ : World) (q : Phase) (x : Session SetupError α) (o : α) : Prop :=
  ∃ p w w', Reaches r s l privilege w₀ q p w ∧ x.exec w = (.ok o, w')

/-- The phases the settings skip, of those a run passes before its `n`-th. -/
def skippedBefore (n : Nat) : List Phase :=
  (if s.skipInstall ∧ Phase.dependencies.rank < n then [.dependencies] else []) ++
    (if s.skipBuild ∧ Phase.building.rank < n then [.building] else [])

/-- The phase a step skips, if the settings skip it. -/
def skipsOf : Phase → List Phase
  | .dependencies => if s.skipInstall then [.dependencies] else []
  | .building => if s.skipBuild then [.building] else []
  | _ => []

/-- At the step of `ph`, the progress agrees with the steps before it: it names `ph` and no
failure, it holds the SDK and Makefile outcomes exactly when those steps came earlier and gave
them, and the skips of the phases passed. -/
structure Agrees (w₀ : World) (ph : Phase) (p : Progress) : Prop where
  phase : p.phase = ph
  failedIn : p.failedIn = none
  error : p.error = none
  sdkOutcome : ∀ o, p.sdkOutcome = some o ↔
    Phase.sdk.rank < ph.rank ∧ StepGave r s l privilege w₀ .sdk (Sdk.ensure r l.sdk s.sdkRemoteUrl) o
  patchOutcome : ∀ o, p.patchOutcome = some o ↔
    Phase.patching.rank < ph.rank ∧ StepGave r s l privilege w₀ .patching
      (ensureMakefileLine l.makefile s.makefileMarker s.makefileLine s.dryRun) o
  skipped : p.skipped = skippedBefore s ph.rank

variable {r s l privilege}

theorem skippedBefore_onward {ph : Phase} (working : ph.isTerminal = false) :
    skippedBefore s ph.onward.rank = skippedBefore s ph.rank ++ skipsOf s ph := by
  cases ph <;> cases hi : s.skipInstall <;> cases hb : s.skipBuild <;>
    simp_all [skippedBefore, skipsOf, Phase.rank, Phase.onward, Phase.isTerminal]

theorem stage_ok_progress {ph : Phase} {p p' : Progress} {w w' : World}
    (hx : (stage r s l privilege ph).exec p w = ((.ok (), p'), w')) :
    p'.skipped = p.skipped ++ skipsOf s ph ∧ (ph ≠ .sdk → p'.sdkOutcome = p.sdkOutcome) ∧
      (ph ≠ .patching → p'.patchOutcome = p.patchOutcome) := by
  cases ph with
  | environment =>
    have hp := exec_stage_environment r s l privilege p w
    rw [hx] at hp
    subst hp
    simp [skipsOf]
  | validation =>
    have hp := exec_stage_validation r s l privilege p w
    rw [hx] at hp
    subst hp
    simp [skipsOf]
  | dependencies =>
    rw [exec_stage_dependencies] at hx
    cases hi : s.skipInstall <;>
      simp only [hi, Bool.false_eq_true, ite_false, ite_true, Prod.mk.injEq] at hx <;>
      obtain ⟨⟨-, rfl⟩, -⟩ := hx <;> simp [skipsOf, hi, Progress.recordSkipped]
  | sdk =>
    rw [exec_stage_sdk] at hx
    split at hx <;> cases hx
    simp [skipsOf]
  | patching =>
    rw [exec_stage_patching] at hx
    split at hx <;> cases hx
    simp [skipsOf]
  | building =>
    rw [exec_stage_building] at hx
    cases hb : s.skipBuild <;>
      simp only [hb, Bool.false_eq_true, ite_false, ite_true, Prod.mk.injEq] at hx <;>
      obtain ⟨⟨-, rfl⟩, -⟩ := hx <;> simp [skipsOf, hb, Progress.recordSkipped]
  | completed =>
    cases hx
    simp [skipsOf]
  | failed =>
    cases hx
    simp [skipsOf]

theorem stage_sdk_ok {p p' : Progress} {w w' : World}
    (hx : (stage r s l privilege .sdk).exec p w = ((.ok (), p'), w')) :
    ∃ o w₁, (Sdk.ensure r l.sdk s.sdkRemoteUrl).exec w = (.ok o, w₁) ∧ p'.sdkOutcome = some o := by
  rw [exec_stage_sdk] at hx
  rcases hens : (Sdk.ensure r l.sdk s.sdkRemoteUrl).exec w with ⟨_ | o, w₁⟩ <;> rw [hens] at hx
  · cases hx
  · cases hx
    exact ⟨o, w₁, rfl, rfl⟩

theorem stage_patching_ok {p p' : Progress} {w w' : World}
    (hx : (stage r s l privilege .patching).exec p w = ((.ok (), p'), w')) :
    ∃ o w₁, (ensureMakefileLine l.makefile s.makefileMarker s.makefileLine s.dryRun).exec w =
      (.ok o, w₁) ∧ p'.patchOutcome = some o := by
  rw [exec_stage_patching] at hx
  rcases hm : (ensureMakefileLine l.makefile s.makefileMarker s.makefileLine s.dryRun).exec w with
    ⟨_ | o, w₁⟩ <;> rw [hm] at hx
  · cases hx
  · cases hx
    exact ⟨o, _, rfl, rfl⟩

/-- Run at the one place a run reaches the step of `q`, `x` gave `o₀`; so it gave nothing else in
this run. -/
theorem stepGave_iff {α : Type} {w₀ : World} {q : Phase} {p : Progress} {w w₁ : World}
    {x : Session SetupError α} {o₀ : α} (h : Reaches r s l privilege w₀ q p w)
    (hx : x.exec w = (.ok o₀, w₁)) (o : α) : StepGave r s l privilege w₀ q x o ↔ o = o₀ := by
  constructor
  · rintro ⟨p₂, w₂, w₃, h₂, hx₂⟩
    obtain ⟨rfl, rfl⟩ := h.unique h₂ rfl
    rw [hx] at hx₂
    cases hx₂
    rfl
  · rintro rfl
    exact ⟨p, w, w₁, h, hx⟩

/-- An outcome noted only by the step of `q`: if before the step of `ph` it is noted exactly when
the step of `q` came earlier and gave it, the same holds before the next step. -/
theorem noted_onward {α : Type} (get : Progress → Option α) {Gave : α → Prop} {q ph : Phase}
    {p p' : Progress} (working : ph.isTerminal = false)
    (before : ∀ o, get p = some o ↔ q.rank < ph.rank ∧ Gave o)
    (here : ph = q → ∃ o₀, get p' = some o₀ ∧ ∀ o, Gave o ↔ o = o₀)
    (away : ph ≠ q → get p' = get p) :
    ∀ o, get p' = some o ↔ q.rank < ph.onward.rank ∧ Gave o := by
  intro o
  rw [Phase.rank_onward working]
  by_cases hq : ph = q
  · obtain ⟨o₀, hget, hgave⟩ := here hq
    subst hq
    rw [hget, hgave o, Option.some.injEq]
    constructor
    · rintro rfl
      exact ⟨by omega, rfl⟩
    · rintro ⟨-, rfl⟩
      rfl
  · have hr : ph.rank ≠ q.rank := fun h => hq (Phase.rank_inj h)
    rw [away hq, before o]
    constructor <;> rintro ⟨hlt, hg⟩ <;> exact ⟨by omega, hg⟩

theorem Agrees.start (w₀ : World) : Agrees r s l privilege w₀ .environment {} where
  phase := rfl
  failedIn := rfl
  error := rfl
  sdkOutcome o := by simp [Phase.rank]
  patchOutcome o := by simp [Phase.rank]
  skipped := by simp [skippedBefore, Phase.rank]

theorem Agrees.next {w₀ : World} {ph : Phase} {p p' : Progress} {w w' : World}
    (h : Reaches r s l privilege w₀ ph p w) (ha : Agrees r s l privilege w₀ ph p)
    (working : ph.isTerminal = false)
    (ok : (stage r s l privilege ph).exec p w = ((.ok (), p'), w')) :
    Agrees r s l privilege w₀ ph.onward { p' with phase := ph.onward } := by
  obtain ⟨-, hfi, herr, -⟩ := stage_keeps r s l privilege ok
  obtain ⟨hsk, hsdk, hpatch⟩ := stage_ok_progress ok
  refine ⟨rfl, hfi.trans ha.failedIn, herr.trans ha.error, ?_, ?_, ?_⟩
  · refine noted_onward Progress.sdkOutcome working ha.sdkOutcome (fun hq => ?_) hsdk
    subst hq
    obtain ⟨o₀, w₁, hens, hget⟩ := stage_sdk_ok ok
    exact ⟨o₀, hget, stepGave_iff h hens⟩
  · refine noted_onward Progress.patchOutcome working ha.patchOutcome (fun hq => ?_) hpatch
    subst hq
    obtain ⟨o₀, w₁, hm, hget⟩ := stage_patching_ok ok
    exact ⟨o₀, hget, stepGave_iff h hm⟩
  · show p'.skipped = _
    rw [hsk, ha.skipped, skippedBefore_onward working]

/-- The run lemma: at the step of every phase it reaches, the progress agrees with the steps
before it. -/
theorem Reaches.agrees {w₀ : World} {ph : Phase} {p : Progress} {w : World}
    (h : Reaches r s l privilege w₀ ph p w) : Agrees r s l privilege w₀ ph p := by
  induction h with
  | start => exact .start w₀
  | next h working ok ih => exact ih.next h working ok

end Agreement

section Later

variable {r : Runner} {s : Settings} {l : Layout} {privilege : Option String} {w₀ : World}

theorem StepGave.sdk_onward {o : SdkOutcome}
    (hg : StepGave r s l privilege w₀ .sdk (Sdk.ensure r l.sdk s.sdkRemoteUrl) o) :
    ∃ p w, Reaches r s l privilege w₀ .validation p w := by
  obtain ⟨p, w, w', h, hens⟩ := hg
  have ok := exec_stage_sdk r s l privilege p w
  rw [hens] at ok
  exact ⟨_, _, .next h rfl ok⟩

theorem StepGave.patching_onward {o : PatchOutcome}
    (hg : StepGave r s l privilege w₀ .patching
      (ensureMakefileLine l.makefile s.makefileMarker s.makefileLine s.dryRun) o) :
    ∃ p w, Reaches r s l privilege w₀ .building p w := by
  obtain ⟨p, w, w', h, hm⟩ := hg
  have ok := exec_stage_patching r s l privilege p w
  rw [hm] at ok
  exact ⟨_, _, .next h rfl ok⟩

theorem Reaches.sdk_of_skipInstall (hi : s.skipInstall = true) {p : Progress} {w : World}
    (h : Reaches r s l privilege w₀ .dependencies p w) :
    ∃ p' w', Reaches r s l privilege w₀ .sdk p' w' := by
  have ok := exec_stage_dependencies r s l privilege p w
  rw [if_pos hi] at ok
  exact ⟨_, _, .next h rfl ok⟩

theorem Reaches.completed_of_skipBuild (hb : s.skipBuild = true) {p : Progress} {w : World}
    (h : Reaches r s l privilege w₀ .building p w) :
    ∃ p' w', Reaches r s l privilege w₀ .completed p' w' := by
  have ok := exec_stage_building r s l privilege p w
  rw [if_pos hb] at ok
  exact ⟨_, _, .next h rfl ok⟩

theorem skippedBefore_eq_if (n : Nat) {D B : Prop} [Decidable D] [Decidable B]
    (hd : s.skipInstall = true → (Phase.dependencies.rank < n ↔ D))
    (hb : s.skipBuild = true → (Phase.building.rank < n ↔ B)) :
    skippedBefore s n =
      (if s.skipInstall ∧ D then [.dependencies] else []) ++
        (if s.skipBuild ∧ B then [.building] else []) := by
  unfold skippedBefore
  congr 1
  · by_cases hi : s.skipInstall = true
    · by_cases hD : D
      · rw [if_pos ⟨hi, (hd hi).2 hD⟩, if_pos ⟨hi, hD⟩]
      · rw [if_neg fun h => hD ((hd hi).1 h.2), if_neg fun h => hD h.2]
    · rw [if_neg fun h => hi h.1, if_neg fun h => hi h.1]
  · by_cases hs : s.skipBuild = true
    · by_cases hB : B
      · rw [if_pos ⟨hs, (hb hs).2 hB⟩, if_pos ⟨hs, hB⟩]
      · rw [if_neg fun h => hB ((hb hs).1 h.2), if_neg fun h => hB h.2]
    · rw [if_neg fun h => hs h.1, if_neg fun h => hs h.1]

end Later

end Pipeline

/-- A run is its phases from the start, then the log record of how they ended: the time taken, or
the phase the progress was in and the error. -/
theorem setup_run_eq (r : Runner) (s : Settings) (l : Layout) (w : World) :
    (setup r s l).run w =
      match (Pipeline.phases r s l (if w.superuser then none else s.privilegeCommand)).exec {} w with
      | ((.ok _, p), w₁) => (⟨.ok (), p⟩, w₁.log .info s!"[Setup] Finished in {w₁.clock.elapsed}s")
      | ((.error e, p), w₁) => (⟨.error e, p.recordError e.message⟩,
          w₁.log .error s!"[Setup] Aborted during {p.phase.name} phase: {e.message}") := by
  unfold setup
  simp only [StateT.run_bind, StateT.run_get, pure_bind]
  unfold Pipeline.exec
  rcases ((ExceptT.run (Pipeline.phases r s l (if w.superuser then none else s.privilegeCommand))).run
    {}).run w with ⟨⟨_ | _, p⟩, w₁⟩ <;> rfl

open Pipeline Classical in
/-- Against every runner, from every world and for all settings and layouts, the report of a run
agrees with how it went. It succeeded exactly when its progress is `completed` with no failure
noted, and failed exactly when its progress is `failed`. A failure came from the step of a working
phase the run reached, never from a move between phases; the progress names that phase and the
error's message, and so does the last log record. The progress holds an SDK outcome exactly when
the SDK step was reached and `Sdk.ensure` gave it, and a Makefile outcome exactly when the Makefile
step was reached and `ensureMakefileLine` gave it. It lists the installation as skipped exactly
when the settings skip it and the environment was exported, then the build exactly when the
settings skip it and the run got to it. -/
theorem setup_report_agrees (r : Runner) (s : Settings) (l : Layout) (w : World) :
    let privilege := if w.superuser then none else s.privilegeCommand
    let run := (setup r s l).run w
    (run.1.result = .ok () ↔ run.1.progress.phase = .completed ∧
      run.1.progress.failedIn = none ∧ run.1.progress.error = none) ∧
    ((∃ e, run.1.result = .error e) ↔ run.1.progress.phase = .failed) ∧
    (∀ e, run.1.result = .error e → ∃ ph p w₁ p' w₂,
      Reaches r s l privilege w ph p w₁ ∧ ph.isTerminal = false ∧
      (stage r s l privilege ph).exec p w₁ = ((.error e, p'), w₂) ∧
      run.1.progress.failedIn = some ph ∧ run.1.progress.error = some e.message ∧
      run.2 = w₂.log .error s!"[Setup] Aborted during {ph.name} phase: {e.message}") ∧
    (∀ o, run.1.progress.sdkOutcome = some o ↔ ∃ p w₁ w₂,
      Reaches r s l privilege w .sdk p w₁ ∧
      (Sdk.ensure r l.sdk s.sdkRemoteUrl).exec w₁ = (.ok o, w₂)) ∧
    (∀ o, run.1.progress.patchOutcome = some o ↔ ∃ p w₁ w₂,
      Reaches r s l privilege w .patching p w₁ ∧
      (ensureMakefileLine l.makefile s.makefileMarker s.makefileLine s.dryRun).exec w₁ =
        (.ok o, w₂)) ∧
    run.1.progress.skipped =
      (if s.skipInstall ∧ ∃ p w₁, Reaches r s l privilege w .dependencies p w₁
        then [.dependencies] else []) ++
      (if s.skipBuild ∧ ∃ p w₁, Reaches r s l privilege w .building p w₁
        then [.building] else []) := by
  intro privilege run
  have hend := phases_ends r s l privilege w
  have hrun := setup_run_eq r s l w
  simp only [run, hrun]
  revert hend
  generalize (phases r s l (if w.superuser then none else s.privilegeCommand)).exec {} w = x
  intro hend
  cases hend with
  | @failed ph p p' w₁ w₂ e h working fail =>
    dsimp only
    obtain ⟨-, -, -, hkeep⟩ := stage_keeps r s l privilege fail
    have hpp : p = p' := (hkeep e rfl).symm
    subst hpp
    have ha := h.agrees
    have hfi : (p.recordError e.message).failedIn = some ph := by
      simp [Progress.recordError, ha.phase, working]
    have later : ∀ q p₂ w₃, Reaches r s l privilege w q p₂ w₃ → q.rank ≤ ph.rank :=
      fun _ _ _ h₂ => h.rank_le_of_fails fail h₂
    have hle := Phase.rank_le_of_working working
    refine ⟨?_, ?_, ?_, fun o => ?_, fun o => ?_, ?_⟩
    · -- an error is no success, and `failed` is not `completed`
      constructor
      · intro hok
        cases hok
      · rintro ⟨hc, -⟩
        cases hc
    · exact ⟨fun _ => rfl, fun _ => ⟨e, rfl⟩⟩
    · intro e' he'
      cases he'
      exact ⟨ph, p, w₁, p, w₂, h, working, fail, hfi, rfl, by rw [ha.phase]⟩
    · show p.sdkOutcome = some o ↔ _
      rw [ha.sdkOutcome o]
      refine ⟨fun hg => hg.2, fun hg => ⟨?_, hg⟩⟩
      obtain ⟨_, _, hv⟩ := StepGave.sdk_onward hg
      have := later _ _ _ hv
      simp only [Phase.rank] at this ⊢
      omega
    · show p.patchOutcome = some o ↔ _
      rw [ha.patchOutcome o]
      refine ⟨fun hg => hg.2, fun hg => ⟨?_, hg⟩⟩
      obtain ⟨_, _, hv⟩ := StepGave.patching_onward hg
      have := later _ _ _ hv
      simp only [Phase.rank] at this ⊢
      omega
    · show p.skipped = _
      rw [ha.skipped]
      refine skippedBefore_eq_if _ (fun hi => ⟨fun hlt => h.of_rank_le (Nat.le_of_lt hlt), ?_⟩)
        (fun hb => ⟨fun hlt => absurd hlt (by simp only [Phase.rank] at hle ⊢; omega), ?_⟩)
      · -- a skipped installation succeeds, so the run got past it
        rintro ⟨_, _, hd⟩
        obtain ⟨_, _, hsdk⟩ := hd.sdk_of_skipInstall hi
        have := later _ _ _ hsdk
        simp only [Phase.rank] at this ⊢
        omega
      · -- a skipped build succeeds, so the run would have completed
        rintro ⟨_, _, hb'⟩
        obtain ⟨_, _, hc⟩ := hb'.completed_of_skipBuild hb
        have := later _ _ _ hc
        simp only [Phase.rank] at this hle
        omega
  | @completed p w₁ h =>
    dsimp only
    have ha := h.agrees
    refine ⟨?_, ?_, ?_, fun o => ?_, fun o => ?_, ?_⟩
    · exact ⟨fun _ => ⟨ha.phase, ha.failedIn, ha.error⟩, fun _ => rfl⟩
    · -- a success is no error, and `completed` is not `failed`
      constructor
      · rintro ⟨_, herr⟩
        cases herr
      · intro hf
        rw [ha.phase] at hf
        cases hf
    · intro e he
      cases he
    · rw [ha.sdkOutcome o]
      exact ⟨fun hg => hg.2, fun hg => ⟨by decide, hg⟩⟩
    · rw [ha.patchOutcome o]
      exact ⟨fun hg => hg.2, fun hg => ⟨by decide, hg⟩⟩
    · rw [ha.skipped]
      exact skippedBefore_eq_if _
        (fun _ => ⟨fun hlt => h.of_rank_le (Nat.le_of_lt hlt), fun _ => by decide⟩)
        (fun _ => ⟨fun hlt => h.of_rank_le (Nat.le_of_lt hlt), fun _ => by decide⟩)

end BoardSetup

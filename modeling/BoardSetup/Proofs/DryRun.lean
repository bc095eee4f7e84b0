import BoardSetup.Proofs.Report
import BoardSetup.Proofs.PhaseTable

/-!
# A dry run

A dry run starts no command and writes to no file but its session log: its runner logs each
`run` in place of starting it and passes the queries (`output` and `probe`) through, and its
Makefile step only reads. Set beside a run whose runner answers every `run` at once with success
and starts nothing (`Runner.idleRuns`), and whose Makefile step does append, it goes in
lockstep. The runner is asked the same queries in the same order, so it answers alike, and every
step decides alike, because the two worlds differ only in what was shown and logged, at the
session log, and, once the real run appended to it, at the Makefile (`Twin`).

The lockstep is built as the runs are: `Lockstep` relates two actions on the world, with one rule
for each way of composing them, and `Pipeline.Lockstep` two pipeline steps, whose progress differs
only in that the dry one reports an append as one it would make (`Progress.dry`).

Main statement: `dryRun_refines_idleRuns`. It asks of the runner that its queries change no file,
and of the session log that it is not kept in the Makefile.
-/

namespace BoardSetup

/-- How a dry run reports the Makefile step: an append is one it would make. -/
def PatchOutcome.dry : PatchOutcome → PatchOutcome
  | .appended => .wouldAppend
  | o => o

/-- The progress as a dry run reports it. -/
def Progress.dry (p : Progress) : Progress :=
  { p with patchOutcome := p.patchOutcome.map PatchOutcome.dry }

/-- The runner whose every `run` succeeds at once and starts nothing; queries pass through. -/
def Runner.idleRuns (r : Runner) : Runner :=
  { r with run := fun _ => pure () }

/-- A world without its files and without what was shown and logged. -/
def World.bare (w : World) : World :=
  { w with files := {}, stdout := "", stderr := "", logText := "" }

namespace World

@[simp] theorem bare_log (w : World) (l : Level) (msg : String) : (w.log l msg).bare = w.bare := by
  obtain ⟨fs, se, lt, h⟩ := w.log_eq l msg
  rw [h]
  rfl

theorem bare_setVar (w : World) (k v : String) : (w.setVar k v).bare = w.bare.setVar k v := rfl

end World

namespace FileTree

theorem SameShape.symm {t t' : FileTree} (h : SameShape t t') : SameShape t' t :=
  fun loc => (h loc).symm

theorem stat_eq {t t' : FileTree} (h : SameShape t t') (cwd : List String) (p : String) :
    t.stat cwd p = t'.stat cwd p := by
  unfold stat
  rw [resolve_eq h]
  simp only [bind, Except.bind]
  split
  · rfl
  · rename_i tg _
    have hn := h tg.loc
    cases h₁ : t.find? tg.loc with
    | none =>
      cases h₂ : t'.find? tg.loc with
      | none => rfl
      | some n => rw [h₁, h₂] at hn; cases hn
    | some n₁ =>
      cases h₂ : t'.find? tg.loc with
      | none => rw [h₁, h₂] at hn; cases hn
      | some n₂ =>
        rw [h₁, h₂] at hn
        cases n₁ <;> cases n₂ <;> simp only [Option.map_some, nodeIsDir, Option.some.injEq,
          Bool.true_eq_false, Bool.false_eq_true] at hn <;> rfl

theorem isDir_eq {t t' : FileTree} (h : SameShape t t') (cwd : List String) (p : String) :
    t.isDir cwd p = t'.isDir cwd p := by
  simp only [isDir, stat_eq h]

theorem isFile_eq {t t' : FileTree} (h : SameShape t t') (cwd : List String) (p : String) :
    t.isFile cwd p = t'.isFile cwd p := by
  simp only [isFile, stat_eq h]

theorem read_eq {t t' : FileTree} (h : SameShape t t') {cwd : List String} {p : String}
    (hx : t.find? (locate cwd p) = t'.find? (locate cwd p)) : t.read cwd p = t'.read cwd p := by
  unfold read
  rw [← resolve_eq h]
  simp only [bind, Except.bind]
  split
  · rfl
  · rename_i tg hres
    rw [resolve_loc hres, hx]

end FileTree

/-- `w` has the file tree of `w₀` but at the session log and at `extra`: the same shape
throughout, and the same node at every other location. Its working directory and logger are
those of `w₀`. -/
structure Keeps (w₀ : World) (extra : Option (List String)) (w : World) : Prop where
  cwd : w.cwd = w₀.cwd
  logger : w.logger = w₀.logger
  shape : FileTree.SameShape w₀.files w.files
  files : ∀ x, w₀.logLoc? ≠ some x → extra ≠ some x → w.files.find? x = w₀.files.find? x

namespace Keeps

variable {w₀ w w' : World} {e : Option (List String)}

theorem refl (w₀ : World) (e : Option (List String)) : Keeps w₀ e w₀ :=
  ⟨rfl, rfl, .refl _, fun _ _ _ => rfl⟩

theorem mono (h : Keeps w₀ none w) (e : Option (List String)) : Keeps w₀ e w :=
  ⟨h.cwd, h.logger, h.shape, fun x hl _ => h.files x hl (by simp)⟩

theorem cwdLoc (h : Keeps w₀ e w) : w.cwdLoc = w₀.cwdLoc := by
  simp only [World.cwdLoc, h.cwd]

theorem logLoc (h : Keeps w₀ e w) : w.logLoc? = w₀.logLoc? := by
  simp only [World.logLoc?, h.cwdLoc, h.logger]

theorem of_files (h : Keeps w₀ e w) (hf : w'.files = w.files) (hc : w'.cwd = w.cwd)
    (hl : w'.logger = w.logger) : Keeps w₀ e w' :=
  ⟨hc.trans h.cwd, hl.trans h.logger, hf ▸ h.shape, fun x hx he => hf ▸ h.files x hx he⟩

theorem log (h : Keeps w₀ e w) (l : Level) (msg : String) : Keeps w₀ e (w.log l msg) where
  cwd := (World.log_cwd ..).trans h.cwd
  logger := (World.log_logger ..).trans h.logger
  shape := h.shape.trans (World.log_sameShape w l msg)
  files x hx he := by
    have hx' : w.logLoc? ≠ some x := by rwa [h.logLoc]
    rw [World.log_find? w l msg hx', h.files x hx he]

theorem append (h : Keeps w₀ none w) (path : String) (data : List UInt8) {t : FileTree}
    (ha : w.files.append w₀.cwdLoc path data false = .ok t) :
    Keeps w₀ (some (FileTree.locate w₀.cwdLoc path)) { w with files := t } where
  cwd := h.cwd
  logger := h.logger
  shape := h.shape.trans (FileTree.sameShape_append ha)
  files x hx he := by
    have hx' : x ≠ FileTree.locate w₀.cwdLoc path := fun hxe => he (congrArg some hxe.symm)
    rw [FileTree.append_find?_ne ha hx', h.files x hx (by simp)]

end Keeps

/-- Two worlds of runs from `w₀` in lockstep: equal but in their files and in what was shown and
logged. The dry one has asked its runner only queries, and keeps the tree of `w₀` but at the
session log; the real one keeps it but at the session log and at `extra`. -/
structure Twin (w₀ : World) (extra : Option (List String)) (wa wb : World) : Prop where
  bare : wa.bare = wb.bare
  queries : ∃ t, wa.calls = w₀.calls ++ t ∧ ∀ c ∈ t, c.kind ≠ .run
  dry : Keeps w₀ none wa
  real : Keeps w₀ extra wb

namespace Twin

variable {w₀ wa wb : World} {e : Option (List String)}

theorem start (w₀ : World) : Twin w₀ none w₀ w₀ :=
  ⟨rfl, ⟨[], by simp, by simp⟩, .refl w₀ none, .refl w₀ none⟩

theorem mono (h : Twin w₀ none wa wb) (e : Option (List String)) : Twin w₀ e wa wb :=
  ⟨h.bare, h.queries, h.dry, h.real.mono e⟩

theorem calls (h : Twin w₀ e wa wb) : wa.calls = wb.calls := by
  have hc := congrArg World.calls h.bare
  exact hc

theorem env (h : Twin w₀ e wa wb) : wa.env = wb.env := by
  have he := congrArg World.env h.bare
  exact he

theorem cwdLoc (h : Twin w₀ e wa wb) : wa.cwdLoc = wb.cwdLoc := by
  have hc := congrArg World.cwd h.bare
  simp only [World.bare] at hc
  simp only [World.cwdLoc, hc]

theorem shape (h : Twin w₀ e wa wb) : FileTree.SameShape wa.files wb.files :=
  h.dry.shape.symm.trans h.real.shape

theorem isDir (h : Twin w₀ e wa wb) (p : String) :
    wa.files.isDir wa.cwdLoc p = wb.files.isDir wb.cwdLoc p := by
  rw [h.cwdLoc, FileTree.isDir_eq h.shape]

theorem isFile (h : Twin w₀ e wa wb) (p : String) :
    wa.files.isFile wa.cwdLoc p = wb.files.isFile wb.cwdLoc p := by
  rw [h.cwdLoc, FileTree.isFile_eq h.shape]

/-- A change that keeps the files, the calls and the session log's place, and changes the rest
of twins alike, keeps twins. -/
theorem of_files {wa' wb' : World} {g : World → World} (h : Twin w₀ e wa wb)
    (ha : wa' = g wa) (hb : wb' = g wb) (files : ∀ w, (g w).files = w.files)
    (calls : ∀ w, (g w).calls = w.calls) (cwd : ∀ w, (g w).cwd = w.cwd)
    (logger : ∀ w, (g w).logger = w.logger)
    (bare : ∀ wa wb, wa.bare = wb.bare → (g wa).bare = (g wb).bare) : Twin w₀ e wa' wb' := by
  subst ha hb
  exact ⟨bare wa wb h.bare, calls wa ▸ h.queries, h.dry.of_files (files wa) (cwd wa) (logger wa),
    h.real.of_files (files wb) (cwd wb) (logger wb)⟩

theorem log (h : Twin w₀ e wa wb) (l : Level) (msg : String) :
    Twin w₀ e (wa.log l msg) (wb.log l msg) :=
  ⟨by rw [World.bare_log, World.bare_log, h.bare], by rw [World.log_calls]; exact h.queries,
    h.dry.log l msg, h.real.log l msg⟩

/-- What twin worlds say of the runs that reached them: the same calls and environment, only
queries in the dry run, which kept the files of `w₀` but at the session log, and the same files
in both but at the session log and at `mk`. -/
theorem ends {mk : List String} (h : Twin w₀ (some mk) wa wb) :
    wa.calls = wb.calls ∧ wa.env = wb.env ∧
      (∃ t, wa.calls = w₀.calls ++ t ∧ ∀ c ∈ t, c.kind ≠ .run) ∧
      (∀ x, w₀.logLoc? ≠ some x → wa.files.find? x = w₀.files.find? x) ∧
      (∀ x, w₀.logLoc? ≠ some x → x ≠ mk → wb.files.find? x = wa.files.find? x) := by
  refine ⟨h.calls, h.env, h.queries, fun x hx => h.dry.files x hx (by simp), fun x hx hm => ?_⟩
  rw [h.real.files x hx fun he => hm (Option.some.inj he).symm, h.dry.files x hx (by simp)]

theorem log_dry (h : Twin w₀ e wa wb) (l : Level) (msg : String) : Twin w₀ e (wa.log l msg) wb :=
  ⟨by rw [World.bare_log, h.bare], by rw [World.log_calls]; exact h.queries, h.dry.log l msg,
    h.real⟩

theorem log_real (h : Twin w₀ e wa wb) (l : Level) (msg : String) : Twin w₀ e wa (wb.log l msg) :=
  ⟨by rw [World.bare_log, h.bare], h.queries, h.dry, h.real.log l msg⟩

/-- The real run's append to the file at `path`: the worlds stay twins, now differing also
there. -/
theorem append (h : Twin w₀ none wa wb) (path : String) (data : List UInt8) {t : FileTree}
    (ha : wb.files.append w₀.cwdLoc path data false = .ok t) :
    Twin w₀ (some (FileTree.locate w₀.cwdLoc path)) wa { wb with files := t } :=
  ⟨h.bare, h.queries, h.dry, h.real.append path data ha⟩

end Twin

section Lockstep

variable (w₀ : World) (e : Option (List String))

/-- From every two twin worlds, the actions give the same outcome and leave twin worlds. -/
def Lockstep (xa xb : Session SetupError α) : Prop :=
  ∀ wa wb, Twin w₀ e wa wb →
    (xa.exec wa).1 = (xb.exec wb).1 ∧ Twin w₀ e (xa.exec wa).2 (xb.exec wb).2

namespace Lockstep

variable {w₀ e} {xa xb : Session SetupError α}

protected theorem pure (a : α) : Lockstep w₀ e (pure a) (pure a) :=
  fun _ _ h => ⟨rfl, h⟩

protected theorem throw (err : SetupError) :
    Lockstep w₀ e (throw err : Session SetupError α) (throw err) :=
  fun _ _ h => ⟨rfl, h⟩

protected theorem bind {fa fb : α → Session SetupError β} (hx : Lockstep w₀ e xa xb)
    (hf : ∀ a, Lockstep w₀ e (fa a) (fb a)) : Lockstep w₀ e (xa >>= fa) (xb >>= fb) := by
  intro wa wb h
  have hx' := hx wa wb h
  rw [Session.exec_bind, Session.exec_bind]
  revert hx'
  rcases xa.exec wa with ⟨ra, va⟩
  rcases xb.exec wb with ⟨rb, vb⟩
  rintro ⟨hr, hv⟩
  dsimp only at hr hv
  subst hr
  cases ra with
  | error err => exact ⟨rfl, hv⟩
  | ok a => exact hf a va vb hv

theorem world_bind {fa fb : World → Session SetupError β}
    (hf : ∀ wa wb, Twin w₀ e wa wb → Lockstep w₀ e (fa wa) (fb wb)) :
    Lockstep w₀ e (Session.world >>= fa) (Session.world >>= fb) := by
  intro wa wb h
  rw [Session.exec_bind_ok (Session.exec_world wa), Session.exec_bind_ok (Session.exec_world wb)]
  exact hf wa wb h wa wb h

protected theorem tryCatch {ha hb : SetupError → Session SetupError α} (hx : Lockstep w₀ e xa xb)
    (hh : ∀ err, Lockstep w₀ e (ha err) (hb err)) :
    Lockstep w₀ e (tryCatch xa ha) (tryCatch xb hb) := by
  intro wa wb h
  have hx' := hx wa wb h
  rw [Session.exec_tryCatch, Session.exec_tryCatch]
  revert hx'
  rcases xa.exec wa with ⟨ra, va⟩
  rcases xb.exec wb with ⟨rb, vb⟩
  rintro ⟨hr, hv⟩
  dsimp only at hr hv
  subst hr
  cases ra with
  | error err => exact hh err va vb hv
  | ok a => exact ⟨rfl, hv⟩

protected theorem forIn {γ β : Type} (xs : List γ) (b : β)
    {fa fb : γ → β → Session SetupError (ForInStep β)} (hf : ∀ x b, Lockstep w₀ e (fa x b) (fb x b)) :
    Lockstep w₀ e (forIn xs b fa) (forIn xs b fb) := by
  induction xs generalizing b with
  | nil => exact Lockstep.pure b
  | cons x xs ih =>
    rw [List.forIn_cons, List.forIn_cons]
    refine (hf x b).bind fun step => ?_
    cases step with
    | done b' => exact Lockstep.pure b'
    | yield b' => exact ih b'

theorem throw_bind {fa fb : α → Session SetupError β} (err : SetupError) :
    Lockstep w₀ e (throw err >>= fa) (throw err >>= fb) :=
  fun wa wb h => by
    rw [Session.exec_bind_error (Session.exec_throw err wa),
      Session.exec_bind_error (Session.exec_throw err wb)]
    exact ⟨rfl, h⟩

protected theorem ite (c : Prop) [Decidable c] {ya yb : Session SetupError α}
    (ht : Lockstep w₀ e xa xb) (hf : Lockstep w₀ e ya yb) :
    Lockstep w₀ e (if c then xa else ya) (if c then xb else yb) := by
  by_cases hc : c
  · rw [if_pos hc, if_pos hc]
    exact ht
  · rw [if_neg hc, if_neg hc]
    exact hf

theorem log (l : Level) (msg : String) : Lockstep w₀ e (Session.log l msg) (Session.log l msg) :=
  fun _ _ h => ⟨rfl, h.log l msg⟩

theorem log_idle (l : Level) (msg : String) : Lockstep w₀ e (Session.log l msg) (pure ()) :=
  fun _ _ h => ⟨rfl, h.log_dry l msg⟩

/-- A change of the world that keeps the files, the calls, the working directory and the
logger, and changes the rest of twins alike. -/
protected theorem modify {g : World → World} (files : ∀ w, (g w).files = w.files)
    (calls : ∀ w, (g w).calls = w.calls) (cwd : ∀ w, (g w).cwd = w.cwd)
    (logger : ∀ w, (g w).logger = w.logger)
    (bare : ∀ wa wb, wa.bare = wb.bare → (g wa).bare = (g wb).bare) :
    Lockstep w₀ e (modify g) (modify g) :=
  fun _ _ h => ⟨rfl, h.of_files rfl rfl files calls cwd logger bare⟩

theorem say (line : String) : Lockstep w₀ e (Session.say line) (Session.say line) :=
  Lockstep.modify (fun _ => rfl) (fun _ => rfl) (fun _ => rfl) (fun _ => rfl) fun _ _ h => h

theorem answer (o : Oracle) (quiet : ∀ h c v, c.kind ≠ .run → (o.effect h c v).files = v.files)
    (kind : CallKind) (hk : kind ≠ .run) (reply : List Call → Command → Except SetupError α)
    (c : Command) : Lockstep w₀ e (o.answer kind reply c) (o.answer kind reply c) := by
  intro wa wb h
  rw [Oracle.exec_answer, Oracle.exec_answer, h.calls]
  have hb : ∀ w : World, (o.after ⟨kind, c.display, c.cwd⟩ w).bare =
      { w.bare with calls := w.calls ++ [⟨kind, c.display, c.cwd⟩] } := fun _ => rfl
  refine ⟨rfl, ⟨?_, ?_, ?_, ?_⟩⟩
  · dsimp only
    rw [hb, hb, h.bare, h.calls]
  · obtain ⟨t, ht, hrun⟩ := h.queries
    refine ⟨t ++ [⟨kind, c.display, c.cwd⟩], by rw [Oracle.after_calls, ht, List.append_assoc], ?_⟩
    intro x hx
    rcases List.mem_append.1 hx with hx | hx
    · exact hrun x hx
    · rw [List.mem_singleton.1 hx]
      exact hk
  · exact h.dry.of_files (quiet _ _ _ hk) rfl rfl
  · exact h.real.of_files (quiet _ _ _ hk) rfl rfl

end Lockstep

/-- Two runners whose calls go in lockstep. -/
structure Runner.Lockstep (ra rb : Runner) : Prop where
  run : ∀ c, BoardSetup.Lockstep w₀ e (ra.run c) (rb.run c)
  output : ∀ c, BoardSetup.Lockstep w₀ e (ra.output c) (rb.output c)
  probe : ∀ c, BoardSetup.Lockstep w₀ e (ra.probe c) (rb.probe c)

/-- The dry runner and the idle one over an oracle whose queries change no file go in
lockstep. -/
theorem Oracle.lockstep_dryRun_idleRuns (o : Oracle)
    (quiet : ∀ h c v, c.kind ≠ .run → (o.effect h c v).files = v.files) :
    Runner.Lockstep w₀ e o.runner.dryRun o.runner.idleRuns where
  run c := Lockstep.log_idle .info s!"[DRY-RUN] would run: {c.display}"
  output c := Lockstep.answer o quiet .output (by decide) o.output c
  probe c := Lockstep.answer o quiet .probe (by decide) o.probe c

end Lockstep

section Steps

variable {w₀ : World} {e : Option (List String)} {ra rb : Runner}

theorem exportEnvironment_lockstep (l : Layout) :
    Lockstep w₀ e (exportEnvironment l) (exportEnvironment l) := by
  unfold exportEnvironment
  refine Lockstep.world_bind fun wa wb h => ?_
  have hpath : wa.var? "PATH" = wb.var? "PATH" := by
    simp only [World.var?, h.env]
  rw [hpath]
  rcases prependToPath l.toolchainBin (wb.var? "PATH") with err | path
  · exact Lockstep.throw err
  · dsimp only
    refine Lockstep.bind ?_ fun _ =>
      (Lockstep.log _ _).bind fun _ => (Lockstep.log _ _).bind fun _ => Lockstep.log _ _
    exact Lockstep.modify (fun _ => rfl) (fun _ => rfl) (fun _ => rfl) (fun _ => rfl)
      fun va vb hv => by simp only [World.bare_setVar, hv]

theorem checkProject_lockstep (l : Layout) : Lockstep w₀ e (checkProject l) (checkProject l) := by
  unfold checkProject
  refine Lockstep.world_bind fun wa wb h => ?_
  rw [h.isDir, h.isFile, h.isFile]
  refine Lockstep.ite _ ((Lockstep.log _ _).bind fun _ => Lockstep.throw_bind _)
    ((Lockstep.log _ _).bind fun _ => ?_)
  refine Lockstep.ite _ ((Lockstep.log _ _).bind fun _ => Lockstep.throw_bind _)
    ((Lockstep.log _ _).bind fun _ => ?_)
  exact Lockstep.ite _ ((Lockstep.log _ _).bind fun _ => Lockstep.throw_bind _) (Lockstep.log _ _)

/-- The Makefile step of the two runs, when the session log is not kept in the Makefile: the dry
run reports the outcome of the real one as a dry run does, and the worlds stay twins, the real one
now differing also at the Makefile. -/
theorem ensureMakefileLine_lockstep {mf : String} (marker line : String) {wa wb : World}
    (apart : w₀.logLoc? ≠ some (FileTree.locate w₀.cwdLoc mf)) (h : Twin w₀ none wa wb) :
    ((ensureMakefileLine mf marker line true).exec wa).1 =
        ((ensureMakefileLine mf marker line false).exec wb).1.map PatchOutcome.dry ∧
      Twin w₀ (some (FileTree.locate w₀.cwdLoc mf))
        ((ensureMakefileLine mf marker line true).exec wa).2
        ((ensureMakefileLine mf marker line false).exec wb).2 := by
  have hmk : FileTree.locate wb.cwdLoc mf = FileTree.locate w₀.cwdLoc mf := by
    rw [h.real.cwdLoc]
  have hread : wa.files.read wa.cwdLoc mf = wb.files.read wb.cwdLoc mf := by
    rw [h.cwdLoc]
    refine FileTree.read_eq h.shape ?_
    rw [hmk, h.dry.files _ apart (by simp), h.real.files _ apart (by simp)]
  unfold ensureMakefileLine
  rw [Session.exec_bind_ok (Session.exec_world wa), Session.exec_bind_ok (Session.exec_world wb),
    hread]
  rcases hr : wb.files.read wb.cwdLoc mf with io | content
  · -- an unreadable Makefile stops both runs alike
    cases io <;> exact ⟨rfl, h.mono _⟩
  · dsimp only
    rcases planAppend content marker line with _ | tail
    · dsimp only
      rw [Session.exec_bind_ok (Session.exec_log _ _ wa), Session.exec_bind_ok (Session.exec_log _ _ wb)]
      exact ⟨rfl, (h.log _ _).mono _⟩
    · -- the dry run only logs; the real one logs, then appends to the file it read
      dsimp only
      rw [if_pos rfl, if_neg Bool.false_ne_true]
      rw [Session.exec_bind_ok (Session.exec_log _ _ wa), Session.exec_bind_ok (Session.exec_log _ _ wb)]
      have hlog : (wb.log .info "[Patch] Adding project path configuration to Makefile").files.read
          wb.cwdLoc mf = .ok content := by
        rw [← hr]
        refine FileTree.read_eq (World.log_sameShape wb _ _).symm (World.log_find? _ _ _ ?_)
        rw [hmk, h.real.logLoc]
        exact apart
      have happ := FileTree.append_of_read hlog tail
      unfold Session.onFiles
      rw [bind_assoc, Session.exec_bind_ok (Session.exec_world _), World.log_cwdLoc]
      dsimp only
      rw [happ]
      dsimp only
      rw [Session.exec_bind_ok (Session.exec_set _ _), Session.exec_pure, Session.exec_pure]
      refine ⟨rfl, ((h.log_dry _ _).log_real _ _).append mf tail ?_⟩
      rw [← h.real.cwdLoc]
      exact happ

variable (hr : Runner.Lockstep w₀ e ra rb)
include hr

theorem loggedRun_lockstep (c : Command) (l : Level) (msg : SetupError → String) :
    Lockstep w₀ e (tryCatch (ra.run c) fun err => do Session.log l (msg err); throw err)
      (tryCatch (rb.run c) fun err => do Session.log l (msg err); throw err) :=
  (hr.run c).tryCatch fun err => (Lockstep.log _ _).bind fun _ => Lockstep.throw err

theorem installDependencies_lockstep (packages : List String) (privilege : Option String) :
    Lockstep w₀ e (installDependencies ra packages privilege)
      (installDependencies rb packages privilege) := by
  unfold installDependencies
  refine (Lockstep.log _ _).bind fun _ => ?_
  rcases installCommands packages privilege with err | cmds
  · exact Lockstep.throw err
  · refine (Lockstep.forIn cmds _ fun c _ => ?_).bind fun _ => Lockstep.log _ _
    exact (loggedRun_lockstep hr c _ _).bind fun _ => Lockstep.pure _

theorem runBuild_lockstep (s : Settings) (project : String) (processors : Nat) :
    Lockstep w₀ e (runBuild ra s project processors) (runBuild rb s project processors) := by
  unfold runBuild
  exact (Lockstep.log _ _).bind fun _ => (Lockstep.log _ _).bind fun _ =>
    (loggedRun_lockstep hr _ _ _).bind fun _ => Lockstep.log _ _

theorem inspect_lockstep (sdk : String) : Lockstep w₀ e (Sdk.inspect ra sdk) (Sdk.inspect rb sdk) := by
  unfold Sdk.inspect
  refine Lockstep.world_bind fun wa wb h => ?_
  rw [h.isDir]
  refine Lockstep.ite _ (Lockstep.pure _) ((hr.probe _).bind fun b => ?_)
  exact Lockstep.ite _ (Lockstep.pure _) (Lockstep.pure _)

theorem revParse_lockstep (sdk rev : String) :
    Lockstep w₀ e (Sdk.revParse ra sdk rev) (Sdk.revParse rb sdk rev) :=
  (hr.output _).bind fun _ => Lockstep.pure _

theorem update_lockstep (sdk url : String) :
    Lockstep w₀ e (Sdk.update ra sdk url) (Sdk.update rb sdk url) := by
  unfold Sdk.update
  refine (hr.output _).bind fun remotes => ?_
  refine Lockstep.ite _ ((Lockstep.log _ _).bind fun _ => Lockstep.throw_bind _)
    ((Lockstep.log _ _).bind fun _ => (hr.run _).bind fun _ => ?_)
  refine (revParse_lockstep hr sdk _).bind fun here => (revParse_lockstep hr sdk _).bind
    fun tracked => (Lockstep.log _ _).bind fun _ => ?_
  exact Lockstep.ite _ ((Lockstep.log _ _).bind fun _ => Lockstep.pure _)
    ((Lockstep.log _ _).bind fun _ => (hr.run _).bind fun _ => Lockstep.pure _)

theorem ensure_lockstep (sdk url : String) :
    Lockstep w₀ e (Sdk.ensure ra sdk url) (Sdk.ensure rb sdk url) := by
  unfold Sdk.ensure
  refine (inspect_lockstep hr sdk).bind fun status => ?_
  cases status with
  | absent => exact (Lockstep.log _ _).bind fun _ => Lockstep.throw _
  | gitRepository => exact (Lockstep.log _ _).bind fun _ => update_lockstep hr sdk url
  | notGitRepository =>
    exact (Lockstep.log _ _).bind fun _ => (hr.run _).bind fun _ =>
      (Lockstep.log _ _).bind fun _ => Lockstep.pure _

end Steps

namespace Pipeline

/-- From every two twin states, the pipeline steps give the same outcome and leave twin states:
the dry run's progress is the real one's as a dry run reports it, and the real run's world may
differ from `w₀` at `e` before the steps and at `e'` after them. -/
def Lockstep (w₀ : World) (e e' : Option (List String)) (xa xb : Pipeline α) : Prop :=
  ∀ p wa wb, Twin w₀ e wa wb →
    (xa.exec p.dry wa).1.1 = (xb.exec p wb).1.1 ∧
      (xa.exec p.dry wa).1.2 = (xb.exec p wb).1.2.dry ∧
      Twin w₀ e' (xa.exec p.dry wa).2 (xb.exec p wb).2

namespace Lockstep

variable {w₀ : World} {e e₁ e₂ e₃ : Option (List String)} {xa xb ya yb : Pipeline α}

protected theorem bind {fa fb : α → Pipeline β} (hx : Lockstep w₀ e₁ e₂ xa xb)
    (hf : ∀ a, Lockstep w₀ e₂ e₃ (fa a) (fb a))
    (hle : ∀ {wa wb}, Twin w₀ e₂ wa wb → Twin w₀ e₃ wa wb) :
    Lockstep w₀ e₁ e₃ (xa >>= fa) (xb >>= fb) := by
  intro p wa wb h
  have hx' := hx p wa wb h
  rw [exec_bind, exec_bind]
  revert hx'
  rcases xa.exec p.dry wa with ⟨⟨ra, pa⟩, va⟩
  rcases xb.exec p wb with ⟨⟨rb, pb⟩, vb⟩
  rintro ⟨hr, hp, hv⟩
  dsimp only at hr hp hv
  subst hr hp
  cases ra with
  | error err => exact ⟨rfl, rfl, hle hv⟩
  | ok a => exact hf a pb va vb hv

protected theorem lift {xa xb : Session SetupError α} (h : BoardSetup.Lockstep w₀ e xa xb) :
    Lockstep w₀ e e (lift xa) (lift xb) := by
  intro p wa wb hw
  obtain ⟨hr, hv⟩ := h wa wb hw
  rw [exec_lift, exec_lift]
  exact ⟨hr, rfl, hv⟩

protected theorem moveTo (t : Phase) : Lockstep w₀ e e (moveTo t) (moveTo t) := by
  intro p wa wb h
  cases hc : p.phase.next.contains t
  · rw [exec_moveTo_refused (show p.dry.phase.next.contains t = false from hc) wa,
      exec_moveTo_refused hc wb]
    exact ⟨rfl, rfl, h⟩
  · rw [exec_moveTo (show p.dry.phase.next.contains t = true from hc) wa, exec_moveTo hc wb]
    exact ⟨rfl, rfl, h⟩

protected theorem modify {g : Progress → Progress} (hg : ∀ p, g p.dry = (g p).dry) :
    Lockstep w₀ e e (modifyThe Progress g) (modifyThe Progress g) := by
  intro p wa wb h
  rw [exec_modify, exec_modify]
  exact ⟨rfl, hg p, h⟩

protected theorem ite (c : Prop) [Decidable c] (ht : Lockstep w₀ e e' xa xb)
    (hf : Lockstep w₀ e e' ya yb) : Lockstep w₀ e e' (if c then xa else ya) (if c then xb else yb) := by
  by_cases hc : c
  · rw [if_pos hc, if_pos hc]
    exact ht
  · rw [if_neg hc, if_neg hc]
    exact hf

end Lockstep

section Stages

variable {w₀ : World} {e : Option (List String)} {ra rb : Runner}

theorem environment_lockstep (l : Layout) : Lockstep w₀ e e (environment l) (environment l) :=
  .lift ((exportEnvironment_lockstep l).bind fun _ => (BoardSetup.Lockstep.say _).bind fun _ =>
    (BoardSetup.Lockstep.say _).bind fun _ => BoardSetup.Lockstep.say _)

/-- The Makefile step, from twin states in which the real run has not appended to it: the dry
progress notes the append as one it would make. -/
theorem patch_lockstep (s : Settings) (l : Layout)
    (apart : w₀.logLoc? ≠ some (FileTree.locate w₀.cwdLoc l.makefile)) :
    Lockstep w₀ none (some (FileTree.locate w₀.cwdLoc l.makefile))
      (patch { s with dryRun := true } l) (patch { s with dryRun := false } l) := by
  intro p wa wb h
  have hstep := ensureMakefileLine_lockstep s.makefileMarker s.makefileLine apart h
  unfold patch
  rw [exec_bind, exec_bind, exec_lift, exec_lift]
  revert hstep
  rcases (ensureMakefileLine l.makefile s.makefileMarker s.makefileLine true).exec wa with ⟨ra, va⟩
  rcases (ensureMakefileLine l.makefile s.makefileMarker s.makefileLine false).exec wb with ⟨rb, vb⟩
  rintro ⟨hr, hv⟩
  dsimp only at hr hv ⊢
  subst hr
  cases rb with
  | error err => exact ⟨rfl, rfl, hv⟩
  | ok o =>
    dsimp only [Except.map]
    rw [exec_modify, exec_modify]
    exact ⟨rfl, rfl, hv⟩

variable (hr : Runner.Lockstep w₀ e ra rb)
include hr

theorem dependencies_lockstep (s : Settings) (privilege : Option String) :
    Lockstep w₀ e e (dependencies ra s privilege) (dependencies rb s privilege) := by
  unfold dependencies
  exact .ite _ ((Lockstep.lift (BoardSetup.Lockstep.log _ _)).bind (fun _ => .modify fun _ => rfl) id)
    (.lift (installDependencies_lockstep hr _ _))

theorem sdk_lockstep (s : Settings) (l : Layout) : Lockstep w₀ e e (sdk ra s l) (sdk rb s l) := by
  unfold sdk
  refine (Lockstep.lift ((ensure_lockstep hr _ _).bind fun o =>
    (BoardSetup.Lockstep.log _ _).bind fun _ => BoardSetup.Lockstep.pure o)).bind
      (fun _ => .modify fun _ => rfl) id

theorem build_lockstep (s : Settings) (l : Layout) :
    Lockstep w₀ e e (build ra s l) (build rb s l) := by
  unfold build
  refine .ite _ ((Lockstep.lift (BoardSetup.Lockstep.log _ _)).bind (fun _ => .modify fun _ => rfl) id)
    (.lift (BoardSetup.Lockstep.world_bind fun wa wb h => ?_))
  have hp : wa.processors = wb.processors := by
    have hb := congrArg World.processors h.bare
    exact hb
  rw [hp]
  exact runBuild_lockstep hr s l.project wb.processors

end Stages

section Phases

variable {w₀ : World} {ra rb : Runner}

/-- Every phase: up to the Makefile step the real run writes nothing but the session log, and
from there on it may also differ at the Makefile. -/
theorem phases_lockstep (hr : ∀ e, Runner.Lockstep w₀ e ra rb) (s : Settings) (l : Layout)
    (privilege : Option String)
    (apart : w₀.logLoc? ≠ some (FileTree.locate w₀.cwdLoc l.makefile)) :
    Lockstep w₀ none (some (FileTree.locate w₀.cwdLoc l.makefile))
      (phases ra { s with dryRun := true } l privilege)
      (phases rb { s with dryRun := false } l privilege) := by
  unfold phases
  refine (environment_lockstep l).bind (fun _ => ?_) (·.mono _)
  refine (Lockstep.moveTo _).bind (fun _ => ?_) (·.mono _)
  refine (dependencies_lockstep (hr none) s privilege).bind (fun _ => ?_) (·.mono _)
  refine (Lockstep.moveTo _).bind (fun _ => ?_) (·.mono _)
  refine (sdk_lockstep (hr none) s l).bind (fun _ => ?_) (·.mono _)
  refine (Lockstep.moveTo _).bind (fun _ => ?_) (·.mono _)
  refine (Lockstep.lift (checkProject_lockstep l)).bind (fun _ => ?_) (·.mono _)
  refine (Lockstep.moveTo _).bind (fun _ => ?_) (·.mono _)
  refine (patch_lockstep s l apart).bind (fun _ => ?_) id
  refine (Lockstep.moveTo _).bind (fun _ => ?_) id
  refine (build_lockstep (hr _) s l).bind (fun _ => ?_) id
  refine (Lockstep.moveTo _).bind (fun _ => ?_) id
  exact .lift (BoardSetup.Lockstep.say _)

end Phases

end Pipeline

open Pipeline in
/-- A dry run refines a run whose commands do nothing. Against an oracle whose queries change no
file, and with the session log kept elsewhere than in the project Makefile, set a dry run (the
dry runner, with `dryRun` on) beside a run whose runner answers every `run` at once with success
and starts nothing (with `dryRun` off). The oracle is asked the same calls in the same order in
both, and in the dry run only queries. Both end with the same result and environment, and with the
same progress but for an append to the Makefile, which the dry run reports as one it would make.
The dry run leaves every location but the session log as it was, and the two runs end with the
same files but at the session log and the Makefile. -/
theorem dryRun_refines_idleRuns (o : Oracle) (s : Settings) (l : Layout) (w : World)
    (quiet : ∀ h c v, c.kind ≠ .run → (o.effect h c v).files = v.files)
    (apart : w.logLoc? ≠ some (FileTree.locate w.cwdLoc l.makefile)) :
    let dry := (setup o.runner.dryRun { s with dryRun := true } l).run w
    let real := (setup o.runner.idleRuns { s with dryRun := false } l).run w
    dry.1.result = real.1.result ∧ dry.1.progress = real.1.progress.dry ∧
      dry.2.calls = real.2.calls ∧ dry.2.env = real.2.env ∧
      (∃ t, dry.2.calls = w.calls ++ t ∧ ∀ c ∈ t, c.kind ≠ .run) ∧
      (∀ x, w.logLoc? ≠ some x → dry.2.files.find? x = w.files.find? x) ∧
      (∀ x, w.logLoc? ≠ some x → x ≠ FileTree.locate w.cwdLoc l.makefile →
        real.2.files.find? x = dry.2.files.find? x) := by
  intro dry real
  have hstep := phases_lockstep (fun e => o.lockstep_dryRun_idleRuns w e quiet) s l
    (if w.superuser then none else s.privilegeCommand) apart {} w w (.start w)
  have hdry := setup_run_eq o.runner.dryRun { s with dryRun := true } l w
  have hreal := setup_run_eq o.runner.idleRuns { s with dryRun := false } l w
  have hfresh : ({} : Progress).dry = {} := rfl
  rw [hfresh] at hstep
  dsimp only at hdry hreal
  simp only [dry, real, hdry, hreal]
  revert hstep
  generalize (phases o.runner.dryRun { s with dryRun := true } l
    (if w.superuser then none else s.privilegeCommand)).exec {} w = ra
  generalize (phases o.runner.idleRuns { s with dryRun := false } l
    (if w.superuser then none else s.privilegeCommand)).exec {} w = rb
  obtain ⟨⟨resa, pa⟩, va⟩ := ra
  obtain ⟨⟨resb, pb⟩, vb⟩ := rb
  rintro ⟨hr, hp, hv⟩
  dsimp only at hr hp hv
  subst hr hp
  -- both runs log how they ended alike, so the worlds they end in are twins
  cases resa with
  | ok u =>
    have hclock : va.clock = vb.clock := by
      have hc := congrArg World.clock hv.bare
      exact hc
    have hend : Twin w (some (FileTree.locate w.cwdLoc l.makefile))
        (va.log .info s!"[Setup] Finished in {va.clock.elapsed}s")
        (vb.log .info s!"[Setup] Finished in {vb.clock.elapsed}s") := by
      rw [hclock]
      exact hv.log _ _
    exact ⟨rfl, rfl, hend.ends⟩
  | error err =>
    exact ⟨rfl, rfl, (hv.log .error
      s!"[Setup] Aborted during {pb.phase.name} phase: {err.message}").ends⟩

/-- A dry run of the stock settings beside an idle one, in a working directory that holds the SDK, a
git work tree tracking the stock remote, and a project whose Makefile lacks the SDK line, against
a runner whose queries change nothing. Both runs get through every phase, the real one appends to
the Makefile, and the Makefile is where the files they end with differ. -/
theorem dryRun_refines_idleRuns_stock :
    let o : Oracle := ⟨fun _ _ => .ok (),
      fun _ _ => .ok "origin https://github.com/bouffalolab/bl_iot_sdk.git (fetch)\n",
      fun _ _ => .ok true, fun _ _ v => v⟩
    let w : World := {
      cwd := "/work"
      clock := ⟨"00:00:00.000", "20260101-000000", "0.1"⟩
      logger := some ⟨some .info, some "logs/setup.log"⟩
      files := ⟨[(["work"], .dir), (["work", "logs"], .dir), (["work", "sdk"], .dir),
        (["work", "sdk", "make_scripts_riscv"], .dir),
        (["work", "sdk", "make_scripts_riscv", "project.mk"], .file []),
        (["work", "project"], .dir),
        (["work", "project", "Makefile"], .file (Text.encode "all:\n"))]⟩ }
    let l : Layout := ⟨"/work/sdk", "/work/toolchain", "/work/project"⟩
    let s := Settings.stock
    (∀ h c v, c.kind ≠ .run → (o.effect h c v).files = v.files) ∧
      w.logLoc? ≠ some (FileTree.locate w.cwdLoc l.makefile) ∧
      let dry := (setup o.runner.dryRun { s with dryRun := true } l).run w
      let real := (setup o.runner.idleRuns { s with dryRun := false } l).run w
      real.1.result = .ok () ∧ real.1.progress.patchOutcome = some .appended ∧
      real.2.files.find? (FileTree.locate w.cwdLoc l.makefile) ≠
        dry.2.files.find? (FileTree.locate w.cwdLoc l.makefile) ∧
      (dry.1.result = real.1.result ∧ dry.1.progress = real.1.progress.dry ∧
        dry.2.calls = real.2.calls ∧ dry.2.env = real.2.env ∧
        (∃ t, dry.2.calls = w.calls ++ t ∧ ∀ c ∈ t, c.kind ≠ .run) ∧
        (∀ x, w.logLoc? ≠ some x → dry.2.files.find? x = w.files.find? x) ∧
        (∀ x, w.logLoc? ≠ some x → x ≠ FileTree.locate w.cwdLoc l.makefile →
          real.2.files.find? x = dry.2.files.find? x)) :=
  -- the three facts about where the runs end are grouped so that one evaluation settles them
  ⟨fun _ _ _ _ => rfl, by decide, and_assoc.mp (and_assoc.mp
    ⟨by decide +kernel, dryRun_refines_idleRuns _ _ _ _ (fun _ _ _ _ => rfl) (by decide)⟩)⟩

end BoardSetup

import Mathlib.Data.List.Induction
import BoardSetup.Proofs.Setup

/-!
# The table of phases

A progress changes by three operations: a move to a phase, a recorded error and a recorded skip.
A move is allowed only along an edge of `Phase.next` (the chain from `environment` to
`completed`, and from every working phase to `failed`), and a refused move leaves the progress as
it was. A recorded error always ends in `failed`; it names the phase it happened in only when
that phase was a working one.

So every change of phase is an edge of the table but one: an error recorded after the run
completed moves `completed` to `failed`. `failed` is never left. A progress names the phase it
failed in only when it is `failed`, and that phase is a working one; a failed progress that names
none got there by a move to `failed` or by an error recorded after completion.

Main statements: `completed_left_by_recordError` (the end phases are not both absorbing) and
`ops_keep_phase_table`.
-/

namespace BoardSetup

namespace Phase

theorem next_contains_failed (ph : Phase) : ph.next.contains .failed = !ph.isTerminal := by
  cases ph <;> rfl

theorem next_of_terminal {ph : Phase} (h : ph.isTerminal = true) : ph.next = [] := by
  cases ph <;> simp_all [isTerminal, next]

end Phase

namespace Progress

/-- One operation on a progress. -/
inductive Op where
  | moveTo (target : Phase)
  | recordError (msg : String)
  | recordSkipped (ph : Phase)
  deriving DecidableEq, Repr

/-- The progress after an operation; a refused move leaves it as it was. -/
def apply (p : Progress) : Op → Progress
  | .moveTo t =>
    match p.moveTo t with
    | .ok p' => p'
    | .error _ => p
  | .recordError msg => p.recordError msg
  | .recordSkipped ph => p.recordSkipped ph

/-- The progress after a sequence of operations, one after another. -/
def applyAll (p : Progress) (ops : List Op) : Progress :=
  ops.foldl apply p

@[simp] theorem applyAll_nil (p : Progress) : p.applyAll [] = p := rfl

@[simp] theorem applyAll_append_singleton (p : Progress) (ops : List Op) (op : Op) :
    p.applyAll (ops ++ [op]) = (p.applyAll ops).apply op := by
  simp [applyAll]

theorem moveTo_of_contains {p : Progress} {t : Phase} (h : p.phase.next.contains t = true) :
    p.moveTo t = .ok { p with phase := t } := by
  unfold Progress.moveTo
  rw [if_pos h]

theorem moveTo_of_not_contains {p : Progress} {t : Phase} (h : p.phase.next.contains t = false) :
    p.moveTo t = .error (.invalidTransition p.phase.name t.name) := by
  unfold Progress.moveTo
  rw [if_neg (by rw [h]; exact Bool.false_ne_true)]

theorem apply_moveTo_of_contains {p : Progress} {t : Phase} (h : p.phase.next.contains t = true) :
    p.apply (.moveTo t) = { p with phase := t } := by
  simp only [apply, moveTo_of_contains h]

theorem apply_moveTo_of_not_contains {p : Progress} {t : Phase}
    (h : p.phase.next.contains t = false) : p.apply (.moveTo t) = p := by
  simp only [apply, moveTo_of_not_contains h]

@[simp] theorem apply_recordError (p : Progress) (msg : String) :
    p.apply (.recordError msg) = p.recordError msg := rfl

@[simp] theorem apply_recordSkipped (p : Progress) (ph : Phase) :
    p.apply (.recordSkipped ph) = p.recordSkipped ph := rfl

@[simp] theorem recordError_phase (p : Progress) (msg : String) :
    (p.recordError msg).phase = .failed := rfl

theorem recordError_failedIn (p : Progress) (msg : String) :
    (p.recordError msg).failedIn = if p.phase.isTerminal then p.failedIn else some p.phase := rfl

@[simp] theorem recordSkipped_phase (p : Progress) (ph : Phase) :
    (p.recordSkipped ph).phase = p.phase := rfl

@[simp] theorem recordSkipped_failedIn (p : Progress) (ph : Phase) :
    (p.recordSkipped ph).failedIn = p.failedIn := rfl

theorem apply_phase_edge (p : Progress) (op : Op) (h : (p.apply op).phase ≠ p.phase) :
    p.phase.next.contains (p.apply op).phase = true ∨
      (p.phase = .completed ∧ (p.apply op).phase = .failed ∧ ∃ msg, op = .recordError msg) := by
  cases op with
  | moveTo t =>
    cases hc : p.phase.next.contains t
    · rw [apply_moveTo_of_not_contains hc] at h
      exact absurd rfl h
    · rw [apply_moveTo_of_contains hc]
      exact .inl hc
  | recordError msg =>
    rw [apply_recordError, recordError_phase] at h ⊢
    -- a working phase may go to `failed`; of the end phases only `completed` is left
    cases hp : p.phase <;> simp_all [Phase.next]
  | recordSkipped ph => exact absurd rfl h

theorem apply_failed (p : Progress) (op : Op) (h : p.phase = .failed) :
    (p.apply op).phase = .failed := by
  cases op with
  | moveTo t =>
    have hc : p.phase.next.contains t = false := by simp [h, Phase.next]
    rw [apply_moveTo_of_not_contains hc, h]
  | recordError msg => rfl
  | recordSkipped ph => exact h

theorem apply_completed (p : Progress) (op : Op) (h : p.phase = .completed) :
    (p.apply op).phase = .completed ∨ ∃ msg, op = .recordError msg := by
  cases op with
  | moveTo t =>
    have hc : p.phase.next.contains t = false := by simp [h, Phase.next]
    rw [apply_moveTo_of_not_contains hc]
    exact .inl h
  | recordError msg => exact .inr ⟨msg, rfl⟩
  | recordSkipped ph => exact .inl h

/-- A progress names the phase it failed in only when it is `failed`, and that phase is a working
one. -/
def FailedInWorking (p : Progress) : Prop :=
  ∀ q, p.failedIn = some q → p.phase = .failed ∧ q.isTerminal = false

theorem apply_failedInWorking {p : Progress} (h : p.FailedInWorking) (op : Op) :
    (p.apply op).FailedInWorking := by
  intro q hq
  cases op with
  | moveTo t =>
    cases hc : p.phase.next.contains t
    · rw [apply_moveTo_of_not_contains hc] at hq ⊢
      exact h q hq
    · rw [apply_moveTo_of_contains hc] at hq ⊢
      have hf := (h q hq).1
      rw [hf, Phase.next_of_terminal rfl] at hc
      cases hc
  | recordError msg =>
    rw [apply_recordError] at hq ⊢
    refine ⟨rfl, ?_⟩
    rw [recordError_failedIn] at hq
    by_cases ht : p.phase.isTerminal = true
    · rw [if_pos ht] at hq
      exact (h q hq).2
    · rw [if_neg ht] at hq
      cases hq
      simpa using ht
  | recordSkipped ph => exact h q hq

theorem applyAll_failedInWorking {p : Progress} (h : p.FailedInWorking) (ops : List Op) :
    (p.applyAll ops).FailedInWorking := by
  induction ops using List.reverseRecOn with
  | nil => exact h
  | append_singleton ops op ih =>
    rw [applyAll_append_singleton]
    exact apply_failedInWorking ih op

/-- How an operation leaves a progress `failed` without naming a phase: it already was, or the
operation is a move to `failed` from a working phase, or an error recorded in a completed run. -/
theorem apply_failed_unnamed {p : Progress} {op : Op} (hf : (p.apply op).phase = .failed)
    (hn : (p.apply op).failedIn = none) :
    (p.phase = .failed ∧ p.failedIn = none) ∨ (op = .moveTo .failed ∧ p.phase.isTerminal = false) ∨
      (p.phase = .completed ∧ ∃ msg, op = .recordError msg) := by
  cases op with
  | moveTo t =>
    cases hc : p.phase.next.contains t
    · rw [apply_moveTo_of_not_contains hc] at hf hn
      exact .inl ⟨hf, hn⟩
    · rw [apply_moveTo_of_contains hc] at hf
      subst hf
      rw [Phase.next_contains_failed] at hc
      exact .inr (.inl ⟨rfl, by simpa using hc⟩)
  | recordError msg =>
    rw [apply_recordError, recordError_failedIn] at hn
    by_cases ht : p.phase.isTerminal = true
    · rw [if_pos ht] at hn
      cases hp : p.phase <;> simp_all [Phase.isTerminal]
    · rw [if_neg ht] at hn
      cases hn
  | recordSkipped ph => exact .inl ⟨hf, hn⟩

/-- A step of a sequence, with the progress it starts from. -/
def StepsAt (ops pre : List Op) (op : Op) : Prop :=
  ∃ post, ops = pre ++ op :: post

theorem stepsAt_append {ops pre : List Op} {op : Op} (h : StepsAt ops pre op) (last : Op) :
    StepsAt (ops ++ [last]) pre op := by
  obtain ⟨post, rfl⟩ := h
  exact ⟨post ++ [last], by simp⟩

/-- From the start, a `failed` progress that names no phase was made so by a move to `failed` from
a working phase, or by an error recorded in a completed run. -/
theorem applyAll_failed_unnamed (ops : List Op) (hf : (applyAll {} ops).phase = .failed)
    (hn : (applyAll {} ops).failedIn = none) :
    ∃ pre op, StepsAt ops pre op ∧
      ((op = .moveTo .failed ∧ (applyAll {} pre).phase.isTerminal = false) ∨
        ((applyAll {} pre).phase = .completed ∧ ∃ msg, op = .recordError msg)) := by
  induction ops using List.reverseRecOn with
  | nil => cases hf
  | append_singleton ops last ih =>
    rw [applyAll_append_singleton] at hf hn
    rcases apply_failed_unnamed hf hn with ⟨hf', hn'⟩ | hmove | herr
    · -- the progress was already so: the step that made it is earlier
      obtain ⟨pre, op, hs, how⟩ := ih hf' hn'
      exact ⟨pre, op, stepsAt_append hs last, how⟩
    · exact ⟨ops, last, ⟨[], rfl⟩, .inl hmove⟩
    · exact ⟨ops, last, ⟨[], rfl⟩, .inr herr⟩

end Progress

namespace Pipeline

theorem exec_moveTo_refused {p : Progress} {t : Phase} (h : p.phase.next.contains t = false)
    (w : World) :
    (moveTo t).exec p w = ((.error (.invalidTransition p.phase.name t.name), p), w) := by
  have hget : (getThe Progress : Pipeline Progress).exec p w = ((.ok p, p), w) := rfl
  unfold moveTo
  rw [exec_bind, hget]
  dsimp only
  rw [Progress.moveTo_of_not_contains h]
  rfl

end Pipeline

open Progress in
/-- The end phases are not both absorbing: an error recorded after a completed run moves it to
`failed`, naming no phase. -/
theorem completed_left_by_recordError :
    let done := applyAll {} [.moveTo .dependencies, .moveTo .sdk, .moveTo .validation,
      .moveTo .patching, .moveTo .building, .moveTo .completed]
    done.phase = .completed ∧ (done.apply (.recordError "late")).phase = .failed ∧
      (done.apply (.recordError "late")).failedIn = none := by
  decide

open Progress in
/-- For every progress and operation, a change of phase is an edge of the table or an error
recorded in a completed run; `failed` is never left and `completed` only by a recorded error; a
move the table refuses fails with the invalid transition and leaves the pipeline's progress as it
was. From the start, after any sequence of operations, a progress names the phase it failed in only
when it is `failed`, that phase being a working one; and a `failed` progress that names none got so
by a move to `failed` from a working phase, or by an error recorded in a completed run. -/
theorem ops_keep_phase_table :
    (∀ (p : Progress) (op : Op), (p.apply op).phase ≠ p.phase →
      p.phase.next.contains (p.apply op).phase = true ∨
        (p.phase = .completed ∧ (p.apply op).phase = .failed ∧ ∃ msg, op = .recordError msg)) ∧
    (∀ (p : Progress) (op : Op), p.phase = .failed → (p.apply op).phase = .failed) ∧
    (∀ (p : Progress) (op : Op), p.phase = .completed →
      (p.apply op).phase = .completed ∨ ∃ msg, op = .recordError msg) ∧
    (∀ (p : Progress) (t : Phase) (w : World), p.phase.next.contains t = false →
      p.apply (.moveTo t) = p ∧
      (Pipeline.moveTo t).exec p w = ((.error (.invalidTransition p.phase.name t.name), p), w)) ∧
    (∀ ops : List Op,
      (applyAll {} ops).FailedInWorking ∧
      ((applyAll {} ops).phase = .failed → (applyAll {} ops).failedIn = none →
        ∃ pre op, StepsAt ops pre op ∧
          ((op = .moveTo .failed ∧ (applyAll {} pre).phase.isTerminal = false) ∨
            ((applyAll {} pre).phase = .completed ∧ ∃ msg, op = .recordError msg)))) := by
  refine ⟨apply_phase_edge, apply_failed, apply_completed,
    fun p t w h => ⟨apply_moveTo_of_not_contains h, Pipeline.exec_moveTo_refused h w⟩,
    fun ops => ⟨applyAll_failedInWorking ?_ ops, applyAll_failed_unnamed ops⟩⟩
  intro q hq
  cases hq

end BoardSetup

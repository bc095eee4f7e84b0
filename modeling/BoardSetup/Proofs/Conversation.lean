import BoardSetup.Proofs.Session
import BoardSetup.Command.Runner

/-!
# Conversations with a runner

A runner may answer a call in any way: succeed, fail with any error, print anything, say yes or
no. An `Oracle` is such a runner, given by its answers: what it answers to a call may depend on
every call made before it, and a call may change the files and what was shown and logged, as a
program started by the run could. Over one run this is no restriction, since the world a call is
made in is fixed by the start of the run and by what the calls before it did.

An `Exchange` is one call with its answer. `o.Converses w w' t` says that between the worlds `w`
and `w'` the run made exactly the calls of `t`, in order, and that each got the oracle's answer.
`o.Within w w'` is what the run itself may do to the world: a location the runner spares changes
only where the session log lies. `o.Talks x w P` joins the two with a postcondition, and its
rules follow the code of an action step by step.
`StopsAtFailure t res` says that every call of `t` but the last succeeded, and that when the last
failed, its error is the outcome `res`.
-/

namespace BoardSetup

/-- One call with the answer it got. -/
inductive Exchange where
  | run (c : Command) (reply : Except SetupError Unit)
  | output (c : Command) (reply : Except SetupError String)
  | probe (c : Command) (reply : Except SetupError Bool)

namespace Exchange

/-- The command called. -/
def command : Exchange → Command
  | .run c _ | .output c _ | .probe c _ => c

/-- How the command was called. -/
def kind : Exchange → CallKind
  | .run .. => .run
  | .output .. => .output
  | .probe .. => .probe

/-- The call as a runner's list of calls notes it. -/
def call (x : Exchange) : Call :=
  ⟨x.kind, x.command.display, x.command.cwd⟩

/-- The error the call failed with, if it failed. -/
def failure? : Exchange → Option SetupError
  | .run _ (.error e) | .output _ (.error e) | .probe _ (.error e) => some e
  | _ => none

@[simp] theorem call_run (c : Command) (r : Except SetupError Unit) :
    (Exchange.run c r).call = ⟨.run, c.display, c.cwd⟩ := rfl

@[simp] theorem call_output (c : Command) (r : Except SetupError String) :
    (Exchange.output c r).call = ⟨.output, c.display, c.cwd⟩ := rfl

@[simp] theorem call_probe (c : Command) (r : Except SetupError Bool) :
    (Exchange.probe c r).call = ⟨.probe, c.display, c.cwd⟩ := rfl

end Exchange

/-- A runner given by its answers, which may depend on the calls made before, and by what each
call does to the files and to what was shown and logged. -/
structure Oracle where
  run : List Call → Command → Except SetupError Unit
  output : List Call → Command → Except SetupError String
  probe : List Call → Command → Except SetupError Bool
  effect : List Call → Call → World → World

namespace Oracle

variable (o : Oracle)

/-- The world after a call: what the program did to the files and to what was shown and logged,
and the call noted in the list of calls. -/
def after (c : Call) (w : World) : World :=
  let v := o.effect w.calls c w
  let w' := { w with files := v.files, stdout := v.stdout, stderr := v.stderr }
  { w' with logText := v.logText, calls := w.calls ++ [c] }

/-- Answers a call with the answer given to the calls before it. -/
def answer (kind : CallKind) (reply : List Call → Command → Except SetupError α)
    (c : Command) :
    Session SetupError α := do
  let w ← Session.world
  set (o.after ⟨kind, c.display, c.cwd⟩ w)
  match reply w.calls c with
  | .ok a => pure a
  | .error e => throw e

/-- The runner that answers as the oracle says. -/
def runner : Runner where
  run := o.answer .run o.run
  output := o.answer .output o.output
  probe := o.answer .probe o.probe

theorem exec_answer (kind : CallKind) (reply : List Call → Command → Except SetupError α)
    (c : Command) (w : World) :
    (o.answer kind reply c).exec w = (reply w.calls c, o.after ⟨kind, c.display, c.cwd⟩ w) := by
  simp only [answer]
  rw [Session.exec_bind_ok (Session.exec_world w), Session.exec_bind_ok (Session.exec_set _ _)]
  cases reply w.calls c <;> rfl

@[simp] theorem exec_run (c : Command) (w : World) :
    (o.runner.run c).exec w = (o.run w.calls c, o.after ⟨.run, c.display, c.cwd⟩ w) :=
  o.exec_answer .run o.run c w

@[simp] theorem exec_output (c : Command) (w : World) :
    (o.runner.output c).exec w = (o.output w.calls c, o.after ⟨.output, c.display, c.cwd⟩ w) :=
  o.exec_answer .output o.output c w

@[simp] theorem exec_probe (c : Command) (w : World) :
    (o.runner.probe c).exec w = (o.probe w.calls c, o.after ⟨.probe, c.display, c.cwd⟩ w) :=
  o.exec_answer .probe o.probe c w

@[simp] theorem after_calls (c : Call) (w : World) : (o.after c w).calls = w.calls ++ [c] := rfl

@[simp] theorem after_cwd (c : Call) (w : World) : (o.after c w).cwd = w.cwd := rfl

@[simp] theorem after_logger (c : Call) (w : World) : (o.after c w).logger = w.logger := rfl

@[simp] theorem after_processors (c : Call) (w : World) :
    (o.after c w).processors = w.processors := rfl

/-- The runner never changes what stands at `loc`. -/
def Spares (loc : List String) : Prop :=
  ∀ h c v, (o.effect h c v).files.find? loc = v.files.find? loc

/-- What a run promises about the world whatever the runner does: the working directory, the
logger and the number of processors stay, and a location changes only where the runner changes
it or where the session log lies. -/
structure Within (w w' : World) : Prop where
  cwd : w'.cwd = w.cwd
  logger : w'.logger = w.logger
  processors : w'.processors = w.processors
  files : ∀ x, o.Spares x → w.logLoc? ≠ some x → w'.files.find? x = w.files.find? x

namespace Within

variable {o} {w w₁ w₂ : World}

theorem logLoc?_eq (h : o.Within w w₁) : w₁.logLoc? = w.logLoc? := by
  simp only [World.logLoc?, World.cwdLoc, h.cwd, h.logger]

@[refl] theorem refl (w : World) : o.Within w w := ⟨rfl, rfl, rfl, fun _ _ _ => rfl⟩

theorem trans (h₁ : o.Within w w₁) (h₂ : o.Within w₁ w₂) : o.Within w w₂ where
  cwd := h₂.cwd.trans h₁.cwd
  logger := h₂.logger.trans h₁.logger
  processors := h₂.processors.trans h₁.processors
  files x hs hl := by
    have hl₁ : w₁.logLoc? ≠ some x := by rwa [h₁.logLoc?_eq]
    rw [h₂.files x hs hl₁, h₁.files x hs hl]

theorem log (w : World) (l : Level) (msg : String) : o.Within w (w.log l msg) :=
  ⟨World.log_cwd .., World.log_logger .., World.log_processors .., fun _ _ hx =>
    World.log_find? w l msg hx⟩

theorem stdout (w : World) (out : String) : o.Within w { w with stdout := out } :=
  ⟨rfl, rfl, rfl, fun _ _ _ => rfl⟩

theorem after (c : Call) (w : World) : o.Within w (o.after c w) :=
  ⟨rfl, rfl, rfl, fun _ hs _ => hs _ _ _⟩

end Within

/-- The exchange got the oracle's answer, given the calls before it. -/
def answers (h : List Call) : Exchange → Prop
  | .run c r => o.run h c = r
  | .output c r => o.output h c = r
  | .probe c r => o.probe h c = r

/-- Every exchange got the oracle's answer, given the calls before it. -/
def Answers : List Call → List Exchange → Prop
  | _, [] => True
  | h, x :: t => o.answers h x ∧ Answers (h ++ [x.call]) t

@[simp] theorem answers_run (h : List Call) (c : Command) (r : Except SetupError Unit) :
    o.answers h (.run c r) ↔ o.run h c = r := Iff.rfl

@[simp] theorem answers_output (h : List Call) (c : Command) (r : Except SetupError String) :
    o.answers h (.output c r) ↔ o.output h c = r := Iff.rfl

@[simp] theorem answers_probe (h : List Call) (c : Command) (r : Except SetupError Bool) :
    o.answers h (.probe c r) ↔ o.probe h c = r := Iff.rfl

@[simp] theorem answers_nil (h : List Call) : o.Answers h [] ↔ True := Iff.rfl

@[simp] theorem answers_cons (h : List Call) (x : Exchange) (t : List Exchange) :
    o.Answers h (x :: t) ↔ o.answers h x ∧ o.Answers (h ++ [x.call]) t := Iff.rfl

theorem answers_append (h : List Call) (t₁ t₂ : List Exchange) :
    o.Answers h (t₁ ++ t₂) ↔
      o.Answers h t₁ ∧ o.Answers (h ++ t₁.map Exchange.call) t₂ := by
  induction t₁ generalizing h with
  | nil => simp [Answers]
  | cons x t ih => simp [Answers, ih, and_assoc]

/-- From `w` to `w'` the run made exactly the calls of `t`, each answered as the oracle says. -/
def Converses (w w' : World) (t : List Exchange) : Prop :=
  w'.calls = w.calls ++ t.map Exchange.call ∧ o.Answers w.calls t

variable {o}

theorem Converses.nil {w w' : World} (h : w'.calls = w.calls) : o.Converses w w' [] :=
  ⟨by simpa using h, trivial⟩

theorem Converses.append {w₁ w₂ w₃ : World} {t₁ t₂ : List Exchange}
    (h₁ : o.Converses w₁ w₂ t₁) (h₂ : o.Converses w₂ w₃ t₂) :
    o.Converses w₁ w₃ (t₁ ++ t₂) := by
  obtain ⟨c₁, a₁⟩ := h₁
  obtain ⟨c₂, a₂⟩ := h₂
  refine ⟨by rw [c₂, c₁, List.map_append, List.append_assoc], ?_⟩
  rw [answers_append]
  exact ⟨a₁, c₁ ▸ a₂⟩

theorem Converses.single {w : World} {x : Exchange} (h : o.answers w.calls x) :
    o.Converses w (o.after x.call w) [x] :=
  ⟨rfl, h, trivial⟩

theorem Converses.run {w : World} {c : Command} {r : Except SetupError Unit}
    (h : o.run w.calls c = r) : o.Converses w (o.after ⟨.run, c.display, c.cwd⟩ w) [.run c r] :=
  ⟨rfl, h, trivial⟩

theorem Converses.output {w : World} {c : Command} {r : Except SetupError String}
    (h : o.output w.calls c = r) :
    o.Converses w (o.after ⟨.output, c.display, c.cwd⟩ w) [.output c r] :=
  ⟨rfl, h, trivial⟩

theorem Converses.probe {w : World} {c : Command} {r : Except SetupError Bool}
    (h : o.probe w.calls c = r) :
    o.Converses w (o.after ⟨.probe, c.display, c.cwd⟩ w) [.probe c r] :=
  ⟨rfl, h, trivial⟩

theorem Converses.of_eq {w w' w'' : World} {t : List Exchange} (h : o.Converses w w' t)
    (e : w''.calls = w'.calls) : o.Converses w w'' t :=
  ⟨e.trans h.1, h.2⟩

/-- Run from `w`, the action talks with the oracle in a conversation `t`, keeps within what a
run promises, and gives an outcome `res` such that `P t res`. -/
def Talks (o : Oracle) (x : Session SetupError α) (w : World)
    (P : List Exchange → Except SetupError α → Prop) : Prop :=
  ∃ t, o.Converses w (x.exec w).2 t ∧ o.Within w (x.exec w).2 ∧ P t (x.exec w).1

namespace Talks

variable {x : Session SetupError α} {w : World}
  {P Q : List Exchange → Except SetupError α → Prop}

theorem mono (h : o.Talks x w Q) (hQ : ∀ t r, Q t r → P t r) : o.Talks x w P := by
  obtain ⟨t, hc, hw, hq⟩ := h
  exact ⟨t, hc, hw, hQ t _ hq⟩

theorem quiet {r : Except SetupError α} {w' : World} (hx : x.exec w = (r, w'))
    (hc : w'.calls = w.calls) (hw : o.Within w w') (h : P [] r) : o.Talks x w P :=
  ⟨[], by rw [hx]; exact .nil hc, by rw [hx]; exact hw, by rw [hx]; exact h⟩

theorem pure {a : α} (h : P [] (.ok a)) : o.Talks (Pure.pure a) w P :=
  quiet (Session.exec_pure a w) rfl (.refl w) h

theorem throw {e : SetupError} (h : P [] (.error e)) : o.Talks (MonadExcept.throw e) w P :=
  quiet (Session.exec_throw e w) rfl (.refl w) h

theorem bind {f : α → Session SetupError β}
    {P : List Exchange → Except SetupError β → Prop}
    (h : o.Talks x w fun t₁ r₁ => match r₁ with
      | .ok a => o.Talks (f a) (x.exec w).2 fun t₂ r₂ => P (t₁ ++ t₂) r₂
      | .error e => P t₁ (.error e)) :
    o.Talks (x >>= f) w P := by
  obtain ⟨t₁, hc₁, hw₁, hp⟩ := h
  unfold Talks
  rw [Session.exec_bind]
  revert hc₁ hw₁ hp
  rcases x.exec w with ⟨_ | a, w₁⟩ <;> intro hc₁ hw₁ hp
  · exact ⟨t₁, hc₁, hw₁, hp⟩
  · obtain ⟨t₂, hc₂, hw₂, hp₂⟩ := hp
    exact ⟨t₁ ++ t₂, hc₁.append hc₂, hw₁.trans hw₂, hp₂⟩

theorem quiet_bind {f : α → Session SetupError β}
    {P : List Exchange → Except SetupError β → Prop}
    {a : α} {w' : World} (hx : x.exec w = (.ok a, w')) (hc : w'.calls = w.calls)
    (hw : o.Within w w') (h : o.Talks (f a) w' P) : o.Talks (x >>= f) w P := by
  obtain ⟨t, hct, hwt, hp⟩ := h
  refine ⟨t, ?_, ?_, ?_⟩ <;> rw [Session.exec_bind_ok hx]
  · exact ⟨by rw [hct.1, hc], hc ▸ hct.2⟩
  · exact hw.trans hwt
  · exact hp

theorem log_bind {f : Unit → Session SetupError β}
    {P : List Exchange → Except SetupError β → Prop}
    {l : Level} {msg : String} (h : o.Talks (f ()) (w.log l msg) P) :
    o.Talks (Session.log l msg >>= f) w P :=
  quiet_bind (Session.exec_log l msg w) (World.log_calls ..) (.log w l msg) h

theorem log {P : List Exchange → Except SetupError Unit → Prop} {l : Level} {msg : String}
    (h : P [] (.ok ())) : o.Talks (Session.log l msg) w P :=
  quiet (Session.exec_log l msg w) (World.log_calls ..) (.log w l msg) h

theorem world_bind {f : World → Session SetupError β}
    {P : List Exchange → Except SetupError β → Prop} (h : o.Talks (f w) w P) :
    o.Talks (Session.world >>= f) w P :=
  quiet_bind (Session.exec_world w) rfl (.refl w) h

theorem throw_bind {f : α → Session SetupError β}
    {P : List Exchange → Except SetupError β → Prop}
    {e : SetupError} (h : P [] (.error e)) : o.Talks (MonadExcept.throw e >>= f) w P :=
  quiet (Session.exec_bind_error (Session.exec_throw e w) f) rfl (.refl w) h

theorem answer_bind {kind : CallKind} {reply : List Call → Command → Except SetupError α}
    {c : Command} (mk : Except SetupError α → Exchange)
    (hmk : ∀ r, (mk r).call = ⟨kind, c.display, c.cwd⟩)
    (hans : o.answers w.calls (mk (reply w.calls c)))
    {f : α → Session SetupError β} {P : List Exchange → Except SetupError β → Prop}
    (hok : ∀ a, reply w.calls c = .ok a →
      o.Talks (f a) (o.after ⟨kind, c.display, c.cwd⟩ w) fun t r => P (mk (.ok a) :: t) r)
    (herr : ∀ e, reply w.calls c = .error e → P [mk (.error e)] (.error e)) :
    o.Talks (o.answer kind reply c >>= f) w P := by
  have hc : o.Converses w (o.after ⟨kind, c.display, c.cwd⟩ w) [mk (reply w.calls c)] :=
    ⟨by rw [after_calls, List.map_singleton, hmk], hans, trivial⟩
  have hw : o.Within w (o.after ⟨kind, c.display, c.cwd⟩ w) := .after _ w
  cases hr : reply w.calls c with
  | error e =>
    rw [hr] at hc
    refine ⟨[mk (.error e)], ?_, ?_, ?_⟩ <;>
      rw [Session.exec_bind_error (by rw [exec_answer, hr])]
    · exact hc
    · exact hw
    · exact herr e hr
  | ok a =>
    rw [hr] at hc
    obtain ⟨t, hct, hwt, hp⟩ := hok a hr
    refine ⟨mk (.ok a) :: t, ?_, ?_, ?_⟩ <;> rw [Session.exec_bind_ok (by rw [exec_answer, hr])]
    · exact hc.append hct
    · exact hw.trans hwt
    · exact hp

theorem run_bind {c : Command} {f : Unit → Session SetupError β}
    {P : List Exchange → Except SetupError β → Prop}
    (hok : o.run w.calls c = .ok () →
      o.Talks (f ()) (o.after ⟨.run, c.display, c.cwd⟩ w) fun t r => P (.run c (.ok ()) :: t) r)
    (herr : ∀ e, o.run w.calls c = .error e → P [.run c (.error e)] (.error e)) :
    o.Talks (o.runner.run c >>= f) w P :=
  answer_bind (Exchange.run c) (fun _ => rfl) rfl (fun _ h => hok h) herr

theorem output_bind {c : Command} {f : String → Session SetupError β}
    {P : List Exchange → Except SetupError β → Prop}
    (hok : ∀ s, o.output w.calls c = .ok s →
      o.Talks (f s) (o.after ⟨.output, c.display, c.cwd⟩ w)
        fun t r => P (.output c (.ok s) :: t) r)
    (herr : ∀ e, o.output w.calls c = .error e → P [.output c (.error e)] (.error e)) :
    o.Talks (o.runner.output c >>= f) w P :=
  answer_bind (Exchange.output c) (fun _ => rfl) rfl hok herr

theorem probe_bind {c : Command} {f : Bool → Session SetupError β}
    {P : List Exchange → Except SetupError β → Prop}
    (hok : ∀ b, o.probe w.calls c = .ok b →
      o.Talks (f b) (o.after ⟨.probe, c.display, c.cwd⟩ w)
        fun t r => P (.probe c (.ok b) :: t) r)
    (herr : ∀ e, o.probe w.calls c = .error e → P [.probe c (.error e)] (.error e)) :
    o.Talks (o.runner.probe c >>= f) w P :=
  answer_bind (Exchange.probe c) (fun _ => rfl) rfl hok herr

end Talks

end Oracle

/-- Every call but the last succeeded, and when the last failed, its error is the outcome. -/
def StopsAtFailure : List Exchange → Except SetupError α → Prop
  | [], _ => True
  | [x], res => ∀ e, x.failure? = some e → res = .error e
  | x :: y :: t, res => x.failure? = none ∧ StopsAtFailure (y :: t) res

namespace StopsAtFailure

theorem no_failure {a : α} : ∀ {t : List Exchange}, StopsAtFailure t (.ok a) →
    ∀ x ∈ t, x.failure? = none
  | [], _, _, hx => by cases hx
  | [x], h, y, hy => by
    rw [List.mem_singleton] at hy
    subst hy
    cases hf : y.failure? with
    | none => rfl
    | some e => cases h e hf
  | x :: y :: t, ⟨hx, h⟩, z, hz => by
    rcases List.mem_cons.1 hz with rfl | hz
    · exact hx
    · exact no_failure h z hz

theorem map {res : Except SetupError α} (f : α → β) :
    ∀ {t : List Exchange}, StopsAtFailure t res → StopsAtFailure t (res.map f)
  | [], _ => trivial
  | [_], h => fun e he => by rw [h e he]; rfl
  | _ :: _ :: _, ⟨hx, h⟩ => ⟨hx, map f h⟩

theorem of_no_failure {res : Except SetupError α} :
    ∀ {t : List Exchange}, (∀ x ∈ t, x.failure? = none) → StopsAtFailure t res
  | [], _ => trivial
  | [x], h => fun e he => by rw [h x List.mem_cons_self] at he; cases he
  | x :: y :: t, h => ⟨h x List.mem_cons_self,
      of_no_failure fun z hz => h z (List.mem_cons_of_mem x hz)⟩

theorem append {res : Except SetupError α} {t₂ : List Exchange}
    (h₂ : StopsAtFailure t₂ res) :
    ∀ {t₁ : List Exchange}, (∀ x ∈ t₁, x.failure? = none) → StopsAtFailure (t₁ ++ t₂) res
  | [], _ => h₂
  | x :: s, h₁ => by
    have ih : StopsAtFailure (s ++ t₂) res :=
      append h₂ fun y hy => h₁ y (List.mem_cons_of_mem x hy)
    have hx := h₁ x List.mem_cons_self
    rw [List.cons_append]
    rcases hs : s ++ t₂ with _ | ⟨y, u⟩
    · intro e he
      rw [hx] at he
      cases he
    · rw [hs] at ih
      exact ⟨hx, ih⟩

end StopsAtFailure

end BoardSetup

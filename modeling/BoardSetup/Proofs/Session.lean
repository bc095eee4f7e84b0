import BoardSetup.World
import BoardSetup.Proofs.Locations

/-!
# Running a session

`Session.exec x w` is what the action `x` gives from the world `w`, with the world it leaves.
The lemmas compute it through `bind`, `pure`, `throw`, reading and changing the world and
`try … catch`, so that a proof about a step of a run follows the step's own code.

A log record changes only standard error, the captured log and the session log file; the list of
calls, the working directory, the logger and the facts the machine is given stay as they were,
and so does every location of the file tree but the session log's.
-/

namespace BoardSetup

namespace Session

/-- What an action gives from a world, and the world it leaves. -/
def exec (x : Session ε α) (w : World) : Except ε α × World :=
  x.run.run w

theorem exec_bind (x : Session ε α) (f : α → Session ε β) (w : World) :
    (x >>= f).exec w = match x.exec w with
      | (.ok a, w') => (f a).exec w'
      | (.error e, w') => (.error e, w') := by
  simp only [exec, ExceptT.run_bind, StateT.run_bind]
  rcases x.run.run w with ⟨_ | _, w'⟩ <;> rfl

theorem exec_bind_ok {x : Session ε α} {w w' : World} {a : α} (h : x.exec w = (.ok a, w'))
    (f : α → Session ε β) : (x >>= f).exec w = (f a).exec w' := by
  rw [exec_bind, h]

theorem exec_bind_error {x : Session ε α} {w w' : World} {e : ε} (h : x.exec w = (.error e, w'))
    (f : α → Session ε β) : (x >>= f).exec w = (.error e, w') := by
  rw [exec_bind, h]

theorem exec_tryCatch (x : Session ε α) (handle : ε → Session ε α) (w : World) :
    (tryCatch x handle).exec w = match x.exec w with
      | (.ok a, w') => (.ok a, w')
      | (.error e, w') => (handle e).exec w' := by
  have h : (tryCatch x handle).exec w =
      (match (x.exec w).1 with
        | .ok a => pure (.ok a)
        | .error e => (handle e).run : StateM World (Except ε α)).run (x.exec w).2 := rfl
  rw [h]
  rcases x.exec w with ⟨_ | _, w'⟩ <;> rfl

@[simp] theorem exec_pure (a : α) (w : World) : (pure a : Session ε α).exec w = (.ok a, w) := rfl

@[simp] theorem exec_throw (e : ε) (w : World) :
    (throw e : Session ε α).exec w = (.error e, w) := rfl

@[simp] theorem exec_world (w : World) : (world : Session ε World).exec w = (.ok w, w) := rfl

@[simp] theorem exec_get (w : World) : (get : Session ε World).exec w = (.ok w, w) := rfl

@[simp] theorem exec_set (w w' : World) : (set w' : Session ε Unit).exec w = (.ok (), w') := rfl

@[simp] theorem exec_modify (f : World → World) (w : World) :
    (modify f : Session ε Unit).exec w = (.ok (), f w) := rfl

@[simp] theorem exec_log (l : Level) (msg : String) (w : World) :
    (log l msg : Session ε Unit).exec w = (.ok (), w.log l msg) := rfl

@[simp] theorem exec_say (line : String) (w : World) :
    (say line : Session ε Unit).exec w = (.ok (), { w with stdout := w.stdout ++ line ++ "\n" }) :=
  rfl

end Session

namespace World

theorem log_eq (w : World) (l : Level) (msg : String) :
    ∃ fs se lt, w.log l msg = { w with files := fs, stderr := se, logText := lt } := by
  unfold World.log
  split
  · rename_i lg _
    unfold Logger.emit
    split
    · exact ⟨w.files, w.stderr, w.logText, rfl⟩
    · dsimp only
      split
      · exact ⟨_, _, _, rfl⟩
      · split
        · exact ⟨_, _, _, rfl⟩
        · exact ⟨_, _, _, rfl⟩
  · exact ⟨w.files, w.stderr, w.logText, rfl⟩

/-- Where the session log lies, when the logger keeps one. -/
def logLoc? (w : World) : Option (List String) :=
  (w.logger.bind Logger.file).map (FileTree.locate w.cwdLoc)

theorem log_find? (w : World) (l : Level) (msg : String) {x : List String}
    (hx : w.logLoc? ≠ some x) : (w.log l msg).files.find? x = w.files.find? x := by
  unfold World.log
  split
  · rename_i lg hlg
    unfold Logger.emit
    split
    · rfl
    · dsimp only
      split
      · rfl
      · rename_i f hf
        split
        · rename_i t ht
          refine FileTree.append_find?_ne ht fun h => hx ?_
          rw [h]
          simp only [logLoc?, hlg, hf, Option.bind_some, Option.map_some]
          rfl
        · rfl
  · rfl

theorem log_sameShape (w : World) (l : Level) (msg : String) :
    FileTree.SameShape w.files (w.log l msg).files := by
  unfold World.log
  split
  · unfold Logger.emit
    split
    · rfl
    · dsimp only
      split
      · rfl
      · split
        · rename_i t ht
          exact FileTree.sameShape_append ht
        · rfl
  · rfl

@[simp] theorem log_calls (w : World) (l : Level) (msg : String) :
    (w.log l msg).calls = w.calls := by
  obtain ⟨_, _, _, h⟩ := w.log_eq l msg
  rw [h]

@[simp] theorem log_cwd (w : World) (l : Level) (msg : String) : (w.log l msg).cwd = w.cwd := by
  obtain ⟨_, _, _, h⟩ := w.log_eq l msg
  rw [h]

@[simp] theorem log_cwdLoc (w : World) (l : Level) (msg : String) :
    (w.log l msg).cwdLoc = w.cwdLoc := by
  simp only [cwdLoc, log_cwd]

@[simp] theorem log_logger (w : World) (l : Level) (msg : String) :
    (w.log l msg).logger = w.logger := by
  obtain ⟨_, _, _, h⟩ := w.log_eq l msg
  rw [h]

@[simp] theorem log_processors (w : World) (l : Level) (msg : String) :
    (w.log l msg).processors = w.processors := by
  obtain ⟨_, _, _, h⟩ := w.log_eq l msg
  rw [h]

@[simp] theorem log_logLoc? (w : World) (l : Level) (msg : String) :
    (w.log l msg).logLoc? = w.logLoc? := by
  simp only [logLoc?, log_cwdLoc, log_logger]

end World

end BoardSetup

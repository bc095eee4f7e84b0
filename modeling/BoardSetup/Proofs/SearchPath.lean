import BoardSetup.Proofs.Session
import BoardSetup.Orchestrator

/-!
# The search path and the exported environment

A search path is a list of directories joined by `:`. `SearchPath.split` reads one into its
entries, empty ones included, and `SearchPath.join` writes entries back, refusing one that holds
the separator; no entry read holds it, so writing what was read gives the text back.

Putting a directory in front of a search path joins it with the entries of the old one, an unset
or empty old path giving none. `prependToPath` is that join: it is refused exactly when the
directory holds `:`, and otherwise the new path reads as the directory followed by the old
entries, empty ones and their order kept.

Exporting the environment forms the new search path before it sets anything. So it either fails
with the world as it was, or sets `SDK_PATH`, `TOOLCHAIN_PATH` and `PATH` and leaves every other
variable alone. Setting a variable to a value with a NUL panics: a run panics at the first such
variable, before it has shown, logged or called anything, and otherwise every value it exports is
free of NUL.

Main statement: `prependToPath_and_export`.
-/

namespace BoardSetup

namespace SearchPath

/-- The entries of a search path: the texts between separators, empty ones included. -/
def split (s : String) : List String :=
  (s.toList.splitOn ':').map String.ofList

/-- Entries joined into a search path, refused when one of them holds the separator. -/
def join (entries : List String) : Except String String :=
  if entries.any (fun e => e.toList.contains ':') then .error "path segment contains separator `:`"
  else .ok (":".intercalate entries)

/-- The entries a directory is put in front of: those of the old search path, none when it is
unset or empty. -/
def entriesOf (current : Option String) : List String :=
  match current with
  | some c => if c.isEmpty then [] else split c
  | none => []

theorem not_mem_of_mem_splitOn {sep : Char} :
    ∀ {cs : List Char} {piece : List Char}, piece ∈ cs.splitOn sep → sep ∉ piece
  | [], piece, h => by
    rw [List.splitOn_nil, List.mem_singleton] at h
    simp [h]
  | c :: cs, piece, h => by
    obtain ⟨u, us, hu⟩ := List.exists_cons_of_ne_nil (List.splitOn_ne_nil sep cs)
    rw [List.splitOn_cons_eq_if_modifyHead, hu] at h
    by_cases hc : c = sep
    · -- the separator starts an empty piece, the rest are those of `cs`
      rw [if_pos (by simp [hc]), List.mem_cons] at h
      rcases h with rfl | h
      · simp
      · exact not_mem_of_mem_splitOn (by rw [hu]; exact h)
    · -- the first piece gains `c`, the rest are those of `cs`
      rw [if_neg (by simp [hc]), List.modifyHead_cons, List.mem_cons] at h
      rcases h with rfl | h
      · have hu' := not_mem_of_mem_splitOn (by rw [hu]; exact List.mem_cons_self)
        simp [hu', Ne.symm hc]
      · exact not_mem_of_mem_splitOn (by rw [hu]; exact List.mem_cons_of_mem u h)

theorem not_mem_of_mem_split {s e : String} (h : e ∈ split s) : ':' ∉ e.toList := by
  obtain ⟨piece, hp, rfl⟩ := List.mem_map.1 h
  rw [String.toList_ofList]
  exact not_mem_of_mem_splitOn hp

theorem not_mem_of_mem_entriesOf {c : Option String} {e : String} (h : e ∈ entriesOf c) :
    ':' ∉ e.toList := by
  unfold entriesOf at h
  split at h
  · split at h
    · cases h
    · exact not_mem_of_mem_split h
  · cases h

theorem intercalate_split (s : String) : ":".intercalate (split s) = s := by
  apply String.toList_inj.1
  rw [String.toList_intercalate, split, List.map_map]
  simp only [Function.comp_def, String.toList_ofList, List.map_id']
  exact List.intercalate_splitOn ':'

theorem split_append {d : String} (hd : ':' ∉ d.toList) (c : String) :
    split (d ++ ":" ++ c) = d :: split c := by
  have htext : (d ++ ":" ++ c).toList = d.toList ++ ':' :: c.toList := by simp
  rw [split, htext, List.splitOn_append_cons_self, List.splitOn_eq_singleton hd]
  simp [split]

theorem split_of_not_mem {d : String} (hd : ':' ∉ d.toList) : split d = [d] := by
  simp [split, List.splitOn_eq_singleton hd]

theorem join_of_not_mem {es : List String} (h : ∀ e ∈ es, ':' ∉ e.toList) :
    join es = .ok (":".intercalate es) := by
  rw [join, if_neg]
  simpa using h

theorem join_of_mem {es : List String} {e : String} (he : e ∈ es) (h : ':' ∈ e.toList) :
    join es = .error "path segment contains separator `:`" := by
  rw [join, if_pos]
  exact List.any_eq_true.2 ⟨e, he, by simpa using h⟩

end SearchPath

theorem prependToPath_of_mem {d : String} (hd : ':' ∈ d.toList) (c : Option String) :
    prependToPath d c = .error (.invalidInput
      s!"Toolchain path {d} cannot be placed on PATH: path segment contains separator `:`") := by
  unfold prependToPath
  rw [if_pos (List.contains_iff_mem.2 hd)]

/-- A directory without `:` is put in front of the search path, alone when the old one is unset
or empty. -/
theorem prependToPath_of_not_mem {d : String} (hd : ':' ∉ d.toList) (c : Option String) :
    prependToPath d c = .ok (match c with
      | some c' => if c'.isEmpty then d else d ++ ":" ++ c'
      | none => d) := by
  unfold prependToPath
  rw [if_neg (fun h => hd (List.contains_iff_mem.1 h))]
  cases c with
  | none => rfl
  | some c' => by_cases hc : c'.isEmpty <;> simp [hc]

open SearchPath in
/-- `prependToPath` joins the directory with the entries of the old search path, and words the
refusal of a directory that holds the separator. -/
theorem prependToPath_eq_join (d : String) (c : Option String) :
    prependToPath d c = (join (d :: entriesOf c)).mapError fun m =>
      .invalidInput s!"Toolchain path {d} cannot be placed on PATH: {m}" := by
  by_cases hd : ':' ∈ d.toList
  · rw [prependToPath_of_mem hd, join_of_mem List.mem_cons_self hd]
    show Except.error _ = Except.error _
    simp only [toString, String.append_assoc]
    congr 3
  · rw [prependToPath_of_not_mem hd]
    have hentries : ∀ e ∈ d :: entriesOf c, ':' ∉ e.toList := by
      intro e he
      rcases List.mem_cons.1 he with rfl | he
      · exact hd
      · exact not_mem_of_mem_entriesOf he
    rw [join_of_not_mem hentries]
    cases c with
    | none => rfl
    | some c =>
      by_cases hc : c.isEmpty
      · simp [entriesOf, hc]
        rfl
      · obtain ⟨e, es, hes⟩ := List.exists_cons_of_ne_nil
          (show split c ≠ [] by simp [split, List.splitOn_ne_nil])
        have hback := intercalate_split c
        rw [hes] at hback
        simp only [entriesOf, hc, if_false, Bool.false_eq_true, hes]
        rw [String.intercalate_cons_cons, hback]
        rfl

theorem prependToPath_error_iff (d : String) (c : Option String) :
    (∃ e, prependToPath d c = .error e) ↔ ':' ∈ d.toList := by
  constructor
  · rintro ⟨e, he⟩
    by_cases hd : ':' ∈ d.toList
    · exact hd
    · rw [prependToPath_of_not_mem hd] at he
      cases he
  · intro hd
    exact ⟨_, prependToPath_of_mem hd c⟩

theorem split_prependToPath {d p : String} {c : Option String} (h : prependToPath d c = .ok p) :
    SearchPath.split p = d :: SearchPath.entriesOf c := by
  have hd : ':' ∉ d.toList := fun hd => by
    obtain ⟨e, he⟩ := (prependToPath_error_iff d c).2 hd
    rw [h] at he
    cases he
  rw [prependToPath_of_not_mem hd] at h
  cases h
  cases c with
  | none => exact SearchPath.split_of_not_mem hd
  | some c =>
    by_cases hc : c.isEmpty
    · simp [SearchPath.split_of_not_mem hd, SearchPath.entriesOf, hc]
    · simp [SearchPath.split_append hd, SearchPath.entriesOf, hc]

namespace World

theorem lookup_filter_ne (env : List (String × String)) (k k' : String) :
    (env.filter (·.1 != k)).lookup k' = if k' = k then none else env.lookup k' := by
  induction env with
  | nil => split <;> rfl
  | cons e env ih =>
    obtain ⟨x, v⟩ := e
    by_cases hx : x = k
    · -- the entry is dropped, and the other variable never stood there
      subst hx
      rw [List.filter_cons_of_neg (by simp), ih]
      by_cases hk : k' = x
      · rw [if_pos hk, if_pos hk]
      · rw [if_neg hk, if_neg hk, List.lookup_cons, beq_eq_false_iff_ne.2 hk]
    · rw [List.filter_cons_of_pos (by simpa using hx), List.lookup_cons, List.lookup_cons, ih]
      by_cases hk : k' = k
      · subst hk
        rw [beq_eq_false_iff_ne.2 (Ne.symm hx)]
      · rw [if_neg hk, if_neg hk]

@[simp] theorem var?_setVar_self (w : World) (k v : String) : (w.setVar k v).var? k = some v := by
  simp [var?, setVar, List.lookup_append, lookup_filter_ne]

theorem var?_setVar_ne (w : World) {k k' : String} (v : String) (h : k' ≠ k) :
    (w.setVar k v).var? k' = w.var? k' := by
  simp [var?, setVar, List.lookup_append, lookup_filter_ne, h, List.lookup_cons,
    beq_eq_false_iff_ne.2 h]

@[simp] theorem log_env (w : World) (l : Level) (msg : String) : (w.log l msg).env = w.env := by
  obtain ⟨_, _, _, h⟩ := w.log_eq l msg
  rw [h]

end World

section Export

variable (l : Layout) (w : World)

theorem exportEnvironment_error {e : SetupError}
    (h : prependToPath l.toolchainBin (w.var? "PATH") = .error e) :
    (exportEnvironment l).exec w = (.error e, w) := by
  unfold exportEnvironment
  rw [Session.exec_bind_ok (Session.exec_world w)]
  simp only [h]
  rfl

/-- An export whose search path is formed sets the three variables, and its log records touch no
variable. -/
theorem exportEnvironment_ok {p : String} (h : prependToPath l.toolchainBin (w.var? "PATH") = .ok p) :
    ((exportEnvironment l).exec w).1 = .ok () ∧ ((exportEnvironment l).exec w).2.env =
      (((w.setVar "SDK_PATH" l.sdk).setVar "TOOLCHAIN_PATH" l.toolchain).setVar "PATH" p).env := by
  unfold exportEnvironment
  rw [Session.exec_bind_ok (Session.exec_world w)]
  simp only [h]
  rw [Session.exec_bind_ok (Session.exec_modify _ w), Session.exec_bind_ok (Session.exec_log _ _ _),
    Session.exec_bind_ok (Session.exec_log _ _ _), Session.exec_log]
  exact ⟨rfl, by simp⟩

end Export

section Panic

variable (l : Layout) (path : Option String)

/-- Exporting panics at the first variable, in the order they are set, whose value holds a NUL,
and names that variable and its value; it panics only once the search path is formed. -/
theorem exportPanic?_eq_some_iff (m : String) :
    exportPanic? l path = some m ↔ ∃ newPath pre kv post,
      prependToPath l.toolchainBin path = .ok newPath ∧
      exportedVars l newPath = pre ++ kv :: post ∧ (∀ x ∈ pre, '\x00' ∉ x.2.toList) ∧
      '\x00' ∈ kv.2.toList ∧ m = setVarPanic kv.1 kv.2 := by
  unfold exportPanic?
  cases hp : prependToPath l.toolchainBin path with
  | error e => simp
  | ok newPath =>
    simp only [Option.map_eq_some_iff, List.find?_eq_some_iff_append, Bool.not_eq_true',
      List.elem_eq_mem, decide_eq_true_eq, decide_eq_false_iff_not, Except.ok.injEq,
      exists_and_left, exists_eq_left']
    constructor
    · rintro ⟨kv, ⟨hkv, pre, post, heq, hpre⟩, rfl⟩
      exact ⟨pre, kv, post, heq, hpre, hkv, rfl⟩
    · rintro ⟨pre, kv, post, heq, hpre, hkv, rfl⟩
      exact ⟨kv, ⟨hkv, pre, post, heq, hpre⟩, rfl⟩

/-- Exporting raises no panic exactly when the search path cannot be formed or every value it
sets is free of NUL. -/
theorem exportPanic?_eq_none_iff :
    exportPanic? l path = none ↔ ∀ newPath, prependToPath l.toolchainBin path = .ok newPath →
      ∀ kv ∈ exportedVars l newPath, '\x00' ∉ kv.2.toList := by
  unfold exportPanic?
  cases hp : prependToPath l.toolchainBin path with
  | error e => simp
  | ok newPath =>
    simp only [Option.map_eq_none_iff, List.find?_eq_none, Except.ok.injEq, forall_eq',
      Bool.not_eq_true, List.elem_eq_mem, decide_eq_false_iff_not]

/-- A run either panics at once, in the world it started in, with the panic of a value that holds
a NUL, or runs the setup, every value it exports then free of NUL. -/
theorem orchestrate_panics_or_sets_up (r : Runner) (s : Settings) (w : World) :
    (∃ m, exportPanic? l (w.var? "PATH") = some m ∧ (orchestrate r s l).run w = (.panicked m, w)) ∨
      ((orchestrate r s l).run w = (.returned ((setup r s l).run w).1, ((setup r s l).run w).2) ∧
        ∀ newPath, prependToPath l.toolchainBin (w.var? "PATH") = .ok newPath →
          ∀ kv ∈ exportedVars l newPath, '\x00' ∉ kv.2.toList) := by
  cases hp : exportPanic? l (w.var? "PATH") with
  | some m =>
    refine .inl ⟨m, rfl, ?_⟩
    simp only [orchestrate, StateT.run_bind, StateT.run_get, pure_bind, hp]
    rfl
  | none =>
    refine .inr ⟨?_, (exportPanic?_eq_none_iff l _).1 hp⟩
    simp only [orchestrate, StateT.run_bind, StateT.run_get, pure_bind, hp]
    rfl

end Panic

open SearchPath in
/-- A directory is put in front of a search path by joining it with the old entries, none when
the old path is unset or empty; the join is refused exactly when the directory holds `:`, the
result is the directory alone or the directory, `:` and the old path, and it reads as the
directory followed by the old entries. Exporting the environment either fails and changes
nothing, exactly when the toolchain's program directory holds `:`, or sets `SDK_PATH`,
`TOOLCHAIN_PATH` and `PATH` to the SDK, the toolchain and the new search path, leaving every
other variable as it was. -/
theorem prependToPath_and_export (d : String) (c : Option String) (l : Layout) (w : World) :
    prependToPath d c = (join (d :: entriesOf c)).mapError (fun m =>
      .invalidInput s!"Toolchain path {d} cannot be placed on PATH: {m}") ∧
    ((∃ e, prependToPath d c = .error e) ↔ ':' ∈ d.toList) ∧
    (':' ∉ d.toList → prependToPath d c =
      .ok (match c with
        | some c' => if c' = "" then d else d ++ ":" ++ c'
        | none => d)) ∧
    (∀ p, prependToPath d c = .ok p → split p = d :: entriesOf c) ∧
    let run := (exportEnvironment l).exec w
    (∀ e, run.1 = .error e → run.2 = w) ∧
    ((∃ e, run.1 = .error e) ↔ ':' ∈ l.toolchainBin.toList) ∧
    (run.1 = .ok () → ∃ p, prependToPath l.toolchainBin (w.var? "PATH") = .ok p ∧
      run.2.var? "SDK_PATH" = some l.sdk ∧ run.2.var? "TOOLCHAIN_PATH" = some l.toolchain ∧
      run.2.var? "PATH" = some p ∧
      ∀ k, k ≠ "SDK_PATH" → k ≠ "TOOLCHAIN_PATH" → k ≠ "PATH" → run.2.var? k = w.var? k) := by
  refine ⟨prependToPath_eq_join d c, prependToPath_error_iff d c, fun hd => ?_,
    fun p hp => split_prependToPath hp, ?_⟩
  · rw [prependToPath_of_not_mem hd]
    cases c with
    | none => rfl
    | some c' => by_cases hc : c' = "" <;> simp [hc]
  · dsimp only
    cases hp : prependToPath l.toolchainBin (w.var? "PATH") with
    | error e =>
      rw [exportEnvironment_error l w hp]
      refine ⟨fun _ _ => rfl, iff_of_true ⟨e, rfl⟩ ?_, fun h => by cases h⟩
      exact (prependToPath_error_iff _ _).1 ⟨e, hp⟩
    | ok p =>
      obtain ⟨hr, henv⟩ := exportEnvironment_ok l w hp
      have hvar : ∀ k, ((exportEnvironment l).exec w).2.var? k =
          (((w.setVar "SDK_PATH" l.sdk).setVar "TOOLCHAIN_PATH" l.toolchain).setVar "PATH" p).var? k :=
        fun k => by simp only [World.var?, henv]
      rw [hr]
      refine ⟨fun _ => nofun, iff_of_false (fun ⟨_, h⟩ => nomatch h) (fun hd => ?_),
        fun _ => ⟨p, rfl, ?_, ?_, ?_, fun k h₁ h₂ h₃ => ?_⟩⟩
      · obtain ⟨e, he⟩ := (prependToPath_error_iff _ _).2 hd
        rw [hp] at he
        cases he
      · rw [hvar, World.var?_setVar_ne _ _ (by decide), World.var?_setVar_ne _ _ (by decide),
          World.var?_setVar_self]
      · rw [hvar, World.var?_setVar_ne _ _ (by decide), World.var?_setVar_self]
      · rw [hvar, World.var?_setVar_self]
      · rw [hvar, World.var?_setVar_ne _ _ h₃, World.var?_setVar_ne _ _ h₂,
          World.var?_setVar_ne _ _ h₁]

open SearchPath in
/-- The toolchain's programs put in front of `::/usr/bin:`, whose empty entries are kept. -/
theorem prependToPath_keeps_empty_entries :
    ':' ∉ "/opt/riscv/bin".toList ∧
      prependToPath "/opt/riscv/bin" (some "::/usr/bin:") = .ok "/opt/riscv/bin:::/usr/bin:" ∧
      split "/opt/riscv/bin:::/usr/bin:" = ["/opt/riscv/bin", "", "", "/usr/bin", ""] := by
  have hd : ':' ∉ "/opt/riscv/bin".toList := by decide
  have hp : prependToPath "/opt/riscv/bin" (some "::/usr/bin:") = .ok "/opt/riscv/bin:::/usr/bin:" :=
    (prependToPath_and_export "/opt/riscv/bin" (some "::/usr/bin:")
      { sdk := "", toolchain := "", project := "" } { clock := ⟨"", "", ""⟩ }).2.2.1 hd
  refine ⟨hd, hp, ?_⟩
  rw [(prependToPath_and_export "/opt/riscv/bin" (some "::/usr/bin:")
    { sdk := "", toolchain := "", project := "" } { clock := ⟨"", "", ""⟩ }).2.2.2.1 _ hp]
  decide

end BoardSetup

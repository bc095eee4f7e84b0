import BoardSetup.Proofs.MakefileLine

/-!
# What one run of the Makefile step changes

`MakefilePatch` lists the ways the step can go. Each of them leaves every location alone but the
Makefile's and the session log's. The Makefile itself changes only when the step appends, and
then it holds what was read followed by the planned tail. The outcome tells the cases apart: the
line was present exactly when the plan is empty, and a dry run with a plan only reports it. A
Makefile that cannot be read ends the step with the world as it was. A path that names nothing is
`makefileMissing`, and any other error, such as a directory in the Makefile's place, is passed on.

Where the step's own record could land in the Makefile, that is, when the session log is the
Makefile, the bytes the step read are not the bytes it appends to. So the statements about the
Makefile's bytes assume the session log lies elsewhere.

Main statement: `ensureMakefileLine_effects`.
-/

namespace BoardSetup

namespace FileTree

theorem read_of_isDir {t : FileTree} {cwd : List String} {p : String}
    (h : t.isDir cwd p = true) : t.read cwd p = .error .isADirectory := by
  unfold isDir stat at h
  unfold read
  cases hres : t.resolve cwd p with
  | error e =>
    rw [hres] at h
    cases h
  | ok tg =>
    simp only [hres, bind, Except.bind] at h ⊢
    cases hfind : t.find? tg.loc with
    | none => rw [hfind] at h; cases h
    | some n =>
      cases n with
      | dir => rfl
      | file data =>
        rw [hfind] at h
        by_cases hs : tg.slash = true <;> simp [hs] at h

end FileTree

namespace MakefilePatch

variable {mf marker line : String} {dry : Bool} {w w' : World} {r : Except SetupError PatchOutcome}

theorem find?_ne (h : MakefilePatch mf marker line dry w r w') {x : List String}
    (hx : x ≠ FileTree.locate w.cwdLoc mf) (hl : w.logLoc? ≠ some x) :
    w'.files.find? x = w.files.find? x := by
  cases h with
  | missing | unreadable => rfl
  | present _ _ _ msg | dryRun _ _ _ _ _ msg | refused _ _ _ _ _ msg =>
    exact World.log_find? w .info msg hl
  | appended _ _ _ _ _ msg t ha =>
    show t.find? x = _
    rw [FileTree.append_find?_ne ha hx]
    exact World.log_find? w .info msg hl

section Elsewhere

variable (hlog : w.logLoc? ≠ some (FileTree.locate w.cwdLoc mf))
include hlog

theorem find?_makefile (h : MakefilePatch mf marker line dry w r w') (hr : r ≠ .ok .appended) :
    w'.files.find? (FileTree.locate w.cwdLoc mf) = w.files.find? (FileTree.locate w.cwdLoc mf) := by
  cases h with
  | missing | unreadable => rfl
  | present _ _ _ msg | dryRun _ _ _ _ _ msg | refused _ _ _ _ _ msg =>
    exact World.log_find? w .info msg hlog
  | appended => exact absurd rfl hr

/-- With the session log elsewhere, the Makefile that was just read takes the append, so the
step that appends ends with the bytes read followed by the planned tail. -/
theorem appended_bytes (h : MakefilePatch mf marker line dry w r w') (hr : r = .ok .appended) :
    ∃ old tail, w.files.read w.cwdLoc mf = .ok old ∧ planAppend old marker line = some tail ∧
      w'.files.find? (FileTree.locate w.cwdLoc mf) = some (.file (old ++ tail)) := by
  cases h with
  | missing | unreadable | present | dryRun | refused => cases hr
  | appended old tail hread plan _ msg t ha =>
    rw [FileTree.append_of_read (read_after_log hread hlog .info msg)] at ha
    cases ha
    exact ⟨old, tail, hread, plan, FileTree.read_find? (read_after_append hread hlog .info msg tail)⟩

end Elsewhere

theorem alreadyPresent_iff (h : MakefilePatch mf marker line dry w r w') :
    r = .ok .alreadyPresent ↔
      ∃ old, w.files.read w.cwdLoc mf = .ok old ∧ planAppend old marker line = none := by
  constructor
  · intro hr
    cases h with
    | missing | unreadable | dryRun | refused | appended => cases hr
    | present old hread plan => exact ⟨old, hread, plan⟩
  · rintro ⟨old, hread, plan⟩
    cases h with
    | missing h' | unreadable _ h' => rw [hread] at h'; cases h'
    | present => rfl
    | dryRun _ _ h' plan' | refused _ _ h' plan' | appended _ _ h' plan' =>
      rw [hread] at h'
      cases h'
      rw [plan] at plan'
      cases plan'

theorem wouldAppend_iff (h : MakefilePatch mf marker line dry w r w') :
    r = .ok .wouldAppend ↔ dry = true ∧
      ∃ old tail, w.files.read w.cwdLoc mf = .ok old ∧ planAppend old marker line = some tail := by
  constructor
  · intro hr
    cases h with
    | missing | unreadable | present | refused | appended => cases hr
    | dryRun old tail hread plan isDry => exact ⟨isDry, old, tail, hread, plan⟩
  · rintro ⟨isDry, old, tail, hread, plan⟩
    cases h with
    | missing h' | unreadable _ h' => rw [hread] at h'; cases h'
    | present _ h' plan' =>
      rw [hread] at h'
      cases h'
      rw [plan] at plan'
      cases plan'
    | dryRun => rfl
    | refused _ _ _ _ notDry | appended _ _ _ _ notDry => rw [isDry] at notDry; cases notDry

/-- A Makefile that cannot be read ends the step at once, with the world as it was: a path that
names nothing is reported missing, and any other error is passed on. -/
theorem unreadable_eq (h : MakefilePatch mf marker line dry w r w') {io : IoError}
    (hread : w.files.read w.cwdLoc mf = .error io) :
    w' = w ∧ r = .error (if io = .notFound then .makefileMissing mf else .io io) := by
  cases h with
  | missing h' =>
    rw [hread] at h'
    cases h'
    exact ⟨rfl, rfl⟩
  | unreadable io' h' other =>
    rw [hread] at h'
    cases h'
    exact ⟨rfl, by rw [if_neg other]⟩
  | present _ h' | dryRun _ _ h' | refused _ _ h' | appended _ _ h' =>
    rw [hread] at h'
    cases h'

end MakefilePatch

/-- One run of the Makefile step, with the session log kept elsewhere, changes no location but the
Makefile's and the session log's. It changes the Makefile only when it reports the line appended,
and the Makefile then holds the bytes read followed by the tail `planAppend` gives for them. It
reports the line present exactly when the plan is empty, and the append only pretended exactly
in a dry run with a plan. A path that names nothing, or a Makefile that cannot be read for any
other reason, such as a directory in its place, fails the step and leaves the world as it was. -/
theorem ensureMakefileLine_effects (mf marker line : String) (dry : Bool) (w : World)
    (hlog : w.logLoc? ≠ some (FileTree.locate w.cwdLoc mf)) :
    let loc := FileTree.locate w.cwdLoc mf
    let run := (ensureMakefileLine mf marker line dry).exec w
    (∀ x, x ≠ loc → w.logLoc? ≠ some x → run.2.files.find? x = w.files.find? x) ∧
    (run.1 ≠ .ok .appended → run.2.files.find? loc = w.files.find? loc) ∧
    (run.1 = .ok .appended → ∃ old tail, w.files.read w.cwdLoc mf = .ok old ∧
      planAppend old marker line = some tail ∧ run.2.files.find? loc = some (.file (old ++ tail))) ∧
    (run.1 = .ok .alreadyPresent ↔
      ∃ old, w.files.read w.cwdLoc mf = .ok old ∧ planAppend old marker line = none) ∧
    (run.1 = .ok .wouldAppend ↔ dry = true ∧
      ∃ old tail, w.files.read w.cwdLoc mf = .ok old ∧ planAppend old marker line = some tail) ∧
    (w.files.read w.cwdLoc mf = .error .notFound → run = (.error (.makefileMissing mf), w)) ∧
    (∀ io, w.files.read w.cwdLoc mf = .error io → io ≠ .notFound → run = (.error (.io io), w)) ∧
    (w.files.isDir w.cwdLoc mf = true → run = (.error (.io .isADirectory), w)) := by
  dsimp only
  have h := ensureMakefileLine_patch mf marker line dry w
  generalize (ensureMakefileLine mf marker line dry).exec w = run at h ⊢
  obtain ⟨r, w'⟩ := run
  have failed : ∀ io, w.files.read w.cwdLoc mf = .error io →
      (r, w') = (.error (if io = .notFound then .makefileMissing mf else .io io), w) := by
    intro io hread
    obtain ⟨hw, hr⟩ := h.unreadable_eq hread
    exact Prod.ext hr hw
  refine ⟨fun x hx hl => h.find?_ne hx hl, h.find?_makefile hlog, h.appended_bytes hlog,
    h.alreadyPresent_iff, h.wouldAppend_iff, fun hread => ?_, fun io hread other => ?_,
    fun hdir => ?_⟩
  · simpa using failed .notFound hread
  · simpa [other] using failed io hread
  · simpa using failed .isADirectory (FileTree.read_of_isDir hdir)

/-- The stock line made sure of in a Makefile `all:` with no session log: the line is appended. -/
theorem ensureMakefileLine_effects_stock :
    let w : World := { files := ⟨[(["Makefile"], .file [97, 108, 108, 58, 10])]⟩, clock := ⟨"", "", ""⟩ }
    w.logLoc? ≠ some (FileTree.locate w.cwdLoc "Makefile") ∧
      let loc := FileTree.locate w.cwdLoc "Makefile"
      let run := (ensureMakefileLine "Makefile" Settings.stock.makefileMarker
        Settings.stock.makefileLine false).exec w
      (∀ x, x ≠ loc → w.logLoc? ≠ some x → run.2.files.find? x = w.files.find? x) ∧
      (run.1 ≠ .ok .appended → run.2.files.find? loc = w.files.find? loc) ∧
      (run.1 = .ok .appended → ∃ old tail, w.files.read w.cwdLoc "Makefile" = .ok old ∧
        planAppend old Settings.stock.makefileMarker Settings.stock.makefileLine = some tail ∧
        run.2.files.find? loc = some (.file (old ++ tail))) ∧
      (run.1 = .ok .alreadyPresent ↔ ∃ old, w.files.read w.cwdLoc "Makefile" = .ok old ∧
        planAppend old Settings.stock.makefileMarker Settings.stock.makefileLine = none) ∧
      (run.1 = .ok .wouldAppend ↔ false = true ∧ ∃ old tail,
        w.files.read w.cwdLoc "Makefile" = .ok old ∧
        planAppend old Settings.stock.makefileMarker Settings.stock.makefileLine = some tail) ∧
      (w.files.read w.cwdLoc "Makefile" = .error .notFound →
        run = (.error (.makefileMissing "Makefile"), w)) ∧
      (∀ io, w.files.read w.cwdLoc "Makefile" = .error io → io ≠ .notFound →
        run = (.error (.io io), w)) ∧
      (w.files.isDir w.cwdLoc "Makefile" = true → run = (.error (.io .isADirectory), w)) :=
  ⟨by decide, ensureMakefileLine_effects "Makefile" _ _ false _ (by decide)⟩

end BoardSetup

import BoardSetup.Proofs.Steps
import Mathlib.Tactic.SplitIfs

/-!
# The Makefile line, made sure of twice

Settings that pass their check have a marker that is not empty and occurs in the line. So the
tail `planAppend` gives holds the marker, and once it is appended the marker occurs in the
Makefile: the next plan appends nothing. Made sure of twice, a Makefile ends as one run leaves
it, and the second run finds the line present.
-/

namespace BoardSetup

namespace Settings

theorem infixOf_iff [BEq α] [LawfulBEq α] (needle : List α) :
    ∀ hay, infixOf needle hay = true ↔ needle <:+: hay
  | [] => by simp [infixOf, List.isEmpty_iff, List.infix_nil]
  | h :: t => by
    rw [infixOf, Bool.or_eq_true, List.isPrefixOf_iff_prefix, infixOf_iff needle t,
      List.infix_cons_iff]

theorem contains_iff (hay needle : String) :
    contains hay needle = true ↔ needle.toList <:+: hay.toList :=
  infixOf_iff _ _

theorem marker_of_check {s : Settings} (h : s.check = none) :
    s.makefileMarker ≠ "" ∧ contains s.makefileLine s.makefileMarker = true := by
  unfold check at h
  split_ifs at h with h₁ h₂ h₃ h₄ hempty hmissing
  refine ⟨fun he => hempty (by simp [he]), ?_⟩
  simpa using hmissing

end Settings

namespace Text

theorem encode_infix {a b : String} (h : a.toList <:+: b.toList) : encode a <:+: encode b := by
  obtain ⟨pre, post, hb⟩ := h
  unfold encode
  rw [← hb, List.flatMap_append, List.flatMap_append]
  exact List.infix_append _ _ _

theorem encode_ne_nil {a : String} (h : a ≠ "") : encode a ≠ [] := by
  unfold encode
  cases hc : a.toList with
  | nil => exact absurd (String.toList_eq_nil_iff.1 hc) h
  | cons c cs =>
    rw [List.flatMap_cons]
    exact List.append_ne_nil_of_left_ne_nil String.utf8EncodeChar_ne_nil _

end Text

section Plan

variable {content tail : List UInt8} {marker line : String}

theorem line_infix_of_planAppend (h : planAppend content marker line = some tail) :
    Text.encode line <:+: tail := by
  unfold planAppend at h
  dsimp only at h
  by_cases found : (!(Text.encode marker).isEmpty && Settings.infixOf (Text.encode marker) content)
  · rw [if_pos found] at h
    cases h
  · rw [if_neg found] at h
    cases h
    exact List.infix_append _ _ _

theorem planAppend_eq_none (hm : Text.encode marker ≠ [])
    (h : Text.encode marker <:+: content) : planAppend content marker line = none := by
  unfold planAppend
  rw [if_pos]
  simp [hm, (Settings.infixOf_iff _ _).2 h]

theorem planAppend_append_eq_none {s : Settings} (hs : s.check = none)
    (h : planAppend content s.makefileMarker s.makefileLine = some tail) :
    planAppend (content ++ tail) s.makefileMarker s.makefileLine = none := by
  obtain ⟨hne, hin⟩ := Settings.marker_of_check hs
  apply planAppend_eq_none (Text.encode_ne_nil hne)
  -- the marker is in the line, the line in the tail, the tail at the end of the Makefile
  have inLine := Text.encode_infix ((Settings.contains_iff _ _).1 hin)
  exact inLine.trans ((line_infix_of_planAppend h).trans (List.suffix_append content tail).isInfix)

end Plan

section Twice

variable {mf marker line : String} {w : World} {content : List UInt8}

theorem read_after_log (hr : w.files.read w.cwdLoc mf = .ok content)
    (hlog : w.logLoc? ≠ some (FileTree.locate w.cwdLoc mf)) (l : Level) (msg : String) :
    (w.log l msg).files.read w.cwdLoc mf = .ok content := by
  refine FileTree.read_of_sameShape (World.log_sameShape w l msg) hr ?_
  rw [World.log_find? w l msg hlog]
  exact FileTree.read_find? hr

/-- After a log record kept elsewhere, with a tail put after its contents, the Makefile reads as
before with the tail. -/
theorem read_after_append (hr : w.files.read w.cwdLoc mf = .ok content)
    (hlog : w.logLoc? ≠ some (FileTree.locate w.cwdLoc mf)) (l : Level) (msg : String)
    (tail : List UInt8) :
    ((w.log l msg).files.put (FileTree.locate w.cwdLoc mf) (.file (content ++ tail))).read
      w.cwdLoc mf = .ok (content ++ tail) := by
  have hfile := FileTree.read_find? hr
  have hloc : FileTree.locate w.cwdLoc mf ≠ [] := by
    intro hnil
    rw [hnil, FileTree.find?_nil] at hfile
    cases hfile
  have hlogged : (w.log l msg).files.find? (FileTree.locate w.cwdLoc mf) = some (.file content) := by
    rw [World.log_find? w _ _ hlog, hfile]
  have hshape : FileTree.SameShape w.files ((w.log l msg).files.put
      (FileTree.locate w.cwdLoc mf) (.file (content ++ tail))) :=
    (World.log_sameShape w _ _).trans (FileTree.sameShape_put_file hlogged _)
  exact FileTree.read_of_sameShape hshape hr (FileTree.find?_put_self hloc)

theorem ensureMakefileLine_present (dry : Bool) (hr : w.files.read w.cwdLoc mf = .ok content)
    (plan : planAppend content marker line = none) :
    ∃ msg, (ensureMakefileLine mf marker line dry).exec w = (.ok .alreadyPresent, w.log .info msg) := by
  have key := ensureMakefileLine_patch mf marker line dry w
  generalize (ensureMakefileLine mf marker line dry).exec w = res at key ⊢
  obtain ⟨r, w'⟩ := res
  cases key with
  | missing h => rw [hr] at h; cases h
  | unreadable _ h _ => rw [hr] at h; cases h
  | present _ _ _ msg => exact ⟨msg, rfl⟩
  | dryRun _ _ h plan' | refused _ _ h plan' | appended _ _ h plan' =>
    rw [hr] at h
    cases h
    rw [plan] at plan'
    cases plan'

/-- The first run on a Makefile that can be read: the line is found present, or its tail is
appended to the Makefile as read. -/
theorem ensureMakefileLine_first (hr : w.files.read w.cwdLoc mf = .ok content)
    (hlog : w.logLoc? ≠ some (FileTree.locate w.cwdLoc mf)) :
    (∃ msg, planAppend content marker line = none ∧
      (ensureMakefileLine mf marker line false).exec w = (.ok .alreadyPresent, w.log .info msg)) ∨
    (∃ msg tail, planAppend content marker line = some tail ∧
      (ensureMakefileLine mf marker line false).exec w = (.ok .appended,
        { w.log .info msg with
          files := (w.log .info msg).files.put (FileTree.locate w.cwdLoc mf)
            (.file (content ++ tail)) })) := by
  have key := ensureMakefileLine_patch mf marker line false w
  generalize (ensureMakefileLine mf marker line false).exec w = res at key ⊢
  obtain ⟨r, w'⟩ := res
  cases key with
  | missing h => rw [hr] at h; cases h
  | unreadable _ h _ => rw [hr] at h; cases h
  | present _ h plan msg =>
    rw [hr] at h
    cases h
    exact .inl ⟨msg, plan, rfl⟩
  | dryRun _ _ _ _ isDry => cases isDry
  | refused _ tail h _ _ msg io ha =>
    -- the log record left the Makefile readable, so the append cannot fail
    rw [hr] at h
    cases h
    rw [FileTree.append_of_read (read_after_log hr hlog .info msg)] at ha
    cases ha
  | appended _ tail h plan _ msg t ha =>
    rw [hr] at h
    cases h
    rw [FileTree.append_of_read (read_after_log hr hlog .info msg)] at ha
    cases ha
    exact .inr ⟨msg, tail, plan, rfl⟩

/-- Made sure of twice with settings that pass their check, a Makefile that can be read ends
as one run leaves it: the first run finds the line or appends it, the second finds it present,
and nothing but the session log differs after the second run from after the first. -/
theorem ensureMakefileLine_idempotent (s : Settings) (hs : s.check = none) (mf : String)
    (w : World) (hread : w.files.read w.cwdLoc mf = .ok content)
    (hlog : w.logLoc? ≠ some (FileTree.locate w.cwdLoc mf)) :
    let once := (ensureMakefileLine mf s.makefileMarker s.makefileLine false).exec w
    let twice := (ensureMakefileLine mf s.makefileMarker s.makefileLine false).exec once.2
    (once.1 = .ok .alreadyPresent ∨ once.1 = .ok .appended) ∧
      twice.1 = .ok .alreadyPresent ∧
      ∀ x, w.logLoc? ≠ some x → twice.2.files.find? x = once.2.files.find? x := by
  dsimp only
  rcases ensureMakefileLine_first hread hlog with ⟨msg, plan, hone⟩ | ⟨msg, tail, plan, hone⟩
  · -- the line was there: the second run finds it as the first did
    have hr₁ : (w.log .info msg).files.read (w.log .info msg).cwdLoc mf = .ok content := by
      rw [World.log_cwdLoc]
      exact read_after_log hread hlog .info msg
    obtain ⟨msg₂, htwo⟩ := ensureMakefileLine_present false hr₁ plan
    rw [hone]
    dsimp only
    rw [htwo]
    exact ⟨.inl rfl, rfl, fun x hx => World.log_find? _ _ _ (by simpa using hx)⟩
  · -- the tail was appended, and with it the marker
    obtain ⟨msg₂, htwo⟩ := ensureMakefileLine_present false
      (w := { w.log .info msg with
        files := (w.log .info msg).files.put (FileTree.locate w.cwdLoc mf)
          (.file (content ++ tail)) })
      (by simpa [World.cwdLoc] using read_after_append hread hlog .info msg tail)
      (planAppend_append_eq_none hs plan)
    rw [hone]
    dsimp only
    rw [htwo]
    exact ⟨.inr rfl, rfl, fun x hx =>
      World.log_find? _ _ _ (by simpa [World.logLoc?, World.cwdLoc] using hx)⟩

/-- A Makefile whose last line has no newline, made sure of twice with the stock settings. -/
theorem makefileLine_idempotent_unterminated :
    let w : World := { files := ⟨[(["Makefile"], .file [97, 108, 108, 58])]⟩, clock := ⟨"", "", ""⟩ }
    Settings.stock.check = none ∧ w.files.read w.cwdLoc "Makefile" = .ok [97, 108, 108, 58] ∧
      w.logLoc? ≠ some (FileTree.locate w.cwdLoc "Makefile") ∧
      let once := (ensureMakefileLine "Makefile" Settings.stock.makefileMarker
        Settings.stock.makefileLine false).exec w
      let twice := (ensureMakefileLine "Makefile" Settings.stock.makefileMarker
        Settings.stock.makefileLine false).exec once.2
      (once.1 = .ok .alreadyPresent ∨ once.1 = .ok .appended) ∧
        twice.1 = .ok .alreadyPresent ∧
        ∀ x, w.logLoc? ≠ some x → twice.2.files.find? x = once.2.files.find? x :=
  ⟨by decide, by rfl, by decide,
    ensureMakefileLine_idempotent Settings.stock (by decide) "Makefile" _ (by rfl) (by decide)⟩

end Twice

end BoardSetup

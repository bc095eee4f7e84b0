import BoardSetup.Settings.File

/-!
# Which paths name a settings file

A path names a settings file when it is not empty and its last component is a name made of a
stem that is not empty and `.json`. The check reads this off the path's extension, the text after
the last dot of its file name when something stands before that dot: a name splits at its last
dot into a stem and a dot-free rest (`exists_last_dot`), and the extension is that rest exactly
when the stem is not empty (`extension?_eq_some_iff`). Components drop repeated and trailing
separators and every `.` but a leading one, so `a.json/.` and `..json` pass while `.json`,
`x/..` and `/` do not.

Loading and saving check the path before anything else: a refused path fails both with the
check's refusal whatever the files hold, and saving then hands back the tree it was given. No
later step fails with `validationFailed`, so a path that passes is never refused.

Main statement: `settingsPath_checked`.
-/

namespace BoardSetup

theorem exists_last_dot {α : Type} {x : α} :
    ∀ {n : List α}, x ∈ n → ∃ stem rest, x ∉ rest ∧ n = stem ++ x :: rest
  | c :: n, h => by
    by_cases hn : x ∈ n
    · obtain ⟨stem, rest, hrest, rfl⟩ := exists_last_dot hn
      exact ⟨c :: stem, rest, hrest, rfl⟩
    · have hc : x = c := (List.mem_cons.1 h).resolve_right hn
      exact ⟨[], n, hn, by rw [hc]; rfl⟩

theorem splitOn_eq_nil_piece_iff {α : Type} [BEq α] [LawfulBEq α] {x : α} {l : List α} :
    l.splitOn x = [[]] ↔ l = [] := by
  constructor
  · intro h
    have hl : [x].intercalate (l.splitOn x) = l := List.intercalate_splitOn x
    rwa [h, List.intercalate_singleton, eq_comm] at hl
  · rintro rfl
    rfl

namespace Path

variable {p n : String}

theorem fileName?_eq_some_iff : fileName? p = some n ↔ (components p).getLast? = some (.name n) := by
  unfold fileName?
  cases (components p).getLast? with
  | none => simp
  | some c => cases c <;> simp

theorem extension?_of_fileName?_none (hf : fileName? p = none) : extension? p = none := by
  simp only [extension?, hf, Option.bind_none]

theorem extension?_of_no_dot (hf : fileName? p = some n) (hn : '.' ∉ n.toList) :
    extension? p = none := by
  simp only [extension?, hf, Option.bind_some, List.splitOn_eq_singleton hn,
    List.reverse_singleton]

/-- A file name split at its last dot has the text after it as extension, unless nothing stands
before it. -/
theorem extension?_of_last_dot {stem rest : List Char} (hf : fileName? p = some n)
    (hn : n.toList = stem ++ '.' :: rest) (hrest : '.' ∉ rest) :
    extension? p = if stem = [] then none else some (String.ofList rest) := by
  obtain ⟨b, bs, hb⟩ :=
    List.exists_cons_of_ne_nil (List.reverse_ne_nil_iff.2 (List.splitOn_ne_nil '.' stem))
  have hparts : (n.toList.splitOn '.').reverse = rest :: b :: bs := by
    rw [hn, List.splitOn_append_cons_self, List.splitOn_eq_singleton hrest, List.reverse_append,
      hb]
    rfl
  have hstem : (b :: bs).reverse = [[]] ↔ stem = [] := by
    rw [← hb, List.reverse_reverse]
    exact splitOn_eq_nil_piece_iff
  simp only [extension?, hf, Option.bind_some, hparts, hstem]

/-- The extension is the text after the last dot of the file name, when the stem before that dot
is not empty. -/
theorem extension?_eq_some_iff {e : String} :
    extension? p = some e ↔
      '.' ∉ e.toList ∧ ∃ stem, stem ≠ "" ∧ fileName? p = some (stem ++ "." ++ e) := by
  constructor
  · intro h
    cases hf : fileName? p with
    | none => rw [extension?_of_fileName?_none hf] at h; cases h
    | some n =>
      by_cases hd : '.' ∈ n.toList
      · obtain ⟨stem, rest, hrest, hn⟩ := exists_last_dot hd
        rw [extension?_of_last_dot hf hn hrest] at h
        by_cases hs : stem = []
        · rw [if_pos hs] at h
          cases h
        · rw [if_neg hs] at h
          obtain rfl := Option.some.inj h
          refine ⟨by simpa using hrest, String.ofList stem, by simpa using hs, ?_⟩
          congr 1
          apply String.toList_inj.1
          simp [hn]
      · rw [extension?_of_no_dot hf hd] at h
        cases h
  · rintro ⟨he, stem, hs, hf⟩
    have hn : (stem ++ "." ++ e).toList = stem.toList ++ '.' :: e.toList := by simp
    rw [extension?_of_last_dot hf hn he, if_neg (by simpa using hs), String.ofList_toList]

end Path

namespace Settings

/-- A path that names a settings file: not empty, with a last component that is a name made of a
stem that is not empty and `.json`. -/
def SettingsFile (p : String) : Prop :=
  p ≠ "" ∧ ∃ stem, stem ≠ "" ∧ (Path.components p).getLast? = some (.name (stem ++ ".json"))

/-- Why a path is refused as a settings file. -/
def pathRefusal (p : String) : String :=
  if p = "" then "Settings path is empty" else s!"Settings file {p} is not a .json file"

variable {p : String}

theorem checkPath_ok_iff : checkPath p = .ok () ↔ SettingsFile p := by
  have hjson : '.' ∉ "json".toList := by decide
  have hext : Path.extension? p = some "json" ↔
      ∃ stem, stem ≠ "" ∧ (Path.components p).getLast? = some (.name (stem ++ ".json")) := by
    simp only [Path.extension?_eq_some_iff, Path.fileName?_eq_some_iff, String.append_assoc]
    exact and_iff_right hjson
  unfold checkPath SettingsFile
  by_cases hp : p = ""
  · simp [hp]
  · rw [if_neg (by simpa using hp), ← hext, and_iff_right hp]
    by_cases hx : Path.extension? p = some "json" <;> simp [hx]

example : (checkPath "..json").toBool ∧ !(checkPath ".json").toBool ∧
    !(checkPath "a.JSON").toBool ∧ !(checkPath "a.json.bak").toBool ∧ !(checkPath "/").toBool := by
  decide

theorem checkPath_error {e : ConfigError} (h : checkPath p = .error e) :
    e = .validationFailed (pathRefusal p) := by
  unfold checkPath at h
  unfold pathRefusal
  by_cases hp : p = ""
  · rw [if_pos (by simpa using hp)] at h
    cases h
    rw [if_pos hp]
  · rw [if_neg (by simpa using hp)] at h
    rw [if_neg hp]
    by_cases hx : Path.extension? p = some "json"
    · rw [if_pos (by simp [hx])] at h
      cases h
    · rw [if_neg (by simp [hx])] at h
      cases h
      rfl

namespace Codec

variable (c : Codec) {t : FileTree} {cwd : List String} {s : Settings} {e : ConfigError}

theorem load_of_refused (h : checkPath p = .error e) : c.load t cwd p = .error e := by
  rw [Codec.load, h]
  rfl

theorem save_of_refused (h : checkPath p = .error e) : c.save t cwd s p = (t, .error e) := by
  rw [Codec.save, h]

/-- Past the path check, a load fails only for a missing file, a fault of the file system or a
text the format does not read. -/
theorem load_error_of_checked (hp : checkPath p = .ok ()) (h : c.load t cwd p = .error e) :
    e = .fileNotFound p ∨ (∃ fault, e = .io fault) ∨ ∃ detail, e = .invalidJson detail := by
  unfold Codec.load at h
  simp only [bind, Except.bind, hp] at h
  split at h
  · cases h
    exact .inl rfl
  · cases h
    exact .inr (.inl ⟨_, rfl⟩)
  · split at h
    · cases h
      exact .inr (.inl ⟨_, rfl⟩)
    · cases hx : c.read (String.ofList _) with
      | error d =>
        rw [hx] at h
        cases h
        exact .inr (.inr ⟨d, rfl⟩)
      | ok v =>
        rw [hx] at h
        cases h

theorem save_error_of_checked (hp : checkPath p = .ok ()) (h : (c.save t cwd s p).2 = .error e) :
    ∃ fault, e = .io fault := by
  unfold Codec.save at h
  split at h
  · rename_i hcheck
    rw [hp] at hcheck
    cases hcheck
  · split at h
    split at h
    · cases h
      exact ⟨_, rfl⟩
    · split at h
      · cases h
      · cases h
        exact ⟨_, rfl⟩

end Codec

/-- The check accepts exactly the paths that name a settings file. Loading and saving refuse every
other path with the check's refusal, reading no file and leaving the tree as it was, and never
refuse a path that passes. -/
theorem settingsPath_checked (p : String) :
    (checkPath p = .ok () ↔ SettingsFile p) ∧
    (¬ SettingsFile p → ∀ (t : FileTree) (cwd : List String) (s : Settings),
      load t cwd p = .error (.validationFailed (pathRefusal p)) ∧
      save t cwd s p = (t, .error (.validationFailed (pathRefusal p)))) ∧
    (SettingsFile p → ∀ (t : FileTree) (cwd : List String) (s : Settings) (m : String),
      load t cwd p ≠ .error (.validationFailed m) ∧
      (save t cwd s p).2 ≠ .error (.validationFailed m)) := by
  refine ⟨checkPath_ok_iff, fun hbad t cwd s => ?_, fun hgood t cwd s m => ?_⟩
  · -- the check fails, and its error is the refusal
    cases hc : checkPath p with
    | ok u => exact absurd (checkPath_ok_iff.1 hc) hbad
    | error e =>
      rw [checkPath_error hc] at hc
      exact ⟨json.load_of_refused hc, json.save_of_refused hc⟩
  · have hc := checkPath_ok_iff.2 hgood
    refine ⟨fun h => ?_, fun h => ?_⟩
    · rcases json.load_error_of_checked hc h with h | ⟨_, h⟩ | ⟨_, h⟩ <;> cases h
    · obtain ⟨_, h⟩ := json.save_error_of_checked hc h
      cases h

/-- `a.json/.` names a settings file, its trailing `.` carrying no component, while `x/..` ends in
no name and is refused by loading and saving alike. -/
theorem settingsPath_checked_dot_forms :
    SettingsFile "a.json/." ∧ ¬ SettingsFile "x/.." ∧
      ∀ (t : FileTree) (cwd : List String) (s : Settings),
        load t cwd "x/.." =
            .error (.validationFailed "Settings file x/.. is not a .json file") ∧
          save t cwd s "x/.." =
            (t, .error (.validationFailed "Settings file x/.. is not a .json file")) := by
  have hgood : SettingsFile "a.json/." := (settingsPath_checked "a.json/.").1.1 rfl
  have hbad : ¬ SettingsFile "x/.." := fun h => by
    have hc := (settingsPath_checked "x/..").1.2 h
    cases hc
  exact ⟨hgood, hbad, (settingsPath_checked "x/..").2.1 hbad⟩

end Settings

end BoardSetup

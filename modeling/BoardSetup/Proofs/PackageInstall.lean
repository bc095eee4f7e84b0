import BoardSetup.Proofs.Steps

/-!
# Installing host packages

A package name is what the pattern `^[a-z0-9][a-z0-9+.\-]+$` matches as a whole
(`MatchesNamePattern`): a lowercase ASCII letter or digit, then at least one more character, each
a lowercase ASCII letter, a digit, `+`, `.` or `-`. `isPackageName` decides exactly that.

Every name is checked before any command is built, so the first name that does not match is
refused with an error that quotes it, and no command is started. Otherwise the index update
runs, then the install of all the names when there are any, each behind the privilege command
when one is given, and the run stops at the first command that fails. An argument taken from a
package name therefore never starts with `-`, so it is never read as an option, and holds no
blank and no character a shell gives a meaning of its own.

Main statement: `install_checks_names_first`.
-/

namespace BoardSetup

/-- The names the pattern `^[a-z0-9][a-z0-9+.\-]+$` matches as a whole. -/
def MatchesNamePattern (n : String) : Prop :=
  ∃ c rest, n.toList = c :: rest ∧ rest ≠ [] ∧ (c.isLower ∨ c.isDigit) ∧
    ∀ d ∈ rest, d.isLower ∨ d.isDigit ∨ d = '+' ∨ d = '.' ∨ d = '-'

/-- The characters a POSIX shell gives a meaning of its own outside quotes: blanks and the
characters of control operators end a word, quotes, the backslash, the backquote and the dollar
sign quote or expand, and the rest make patterns, comments, tildes, assignments, negations and
groups. -/
def shellSpecial : List Char :=
  [' ', '\t', '\n', '|', '&', ';', '<', '>', '(', ')', '\\', '\x22', '\x27', '\x60', '$', '*',
    '?', '[', ']', '#', '~', '=', '%', '!', '\x7b', '\x7d']

/-- The error that refuses a package name, quoting it. -/
def nameRefusal (n : String) : SetupError :=
  .invalidInput s!"Package name contains invalid characters: '{n}'. Only lowercase alphanumerics, '+', '-' and '.' are allowed."

section Names

theorem isNameStart_iff (c : Char) : isNameStart c = true ↔ c.isLower ∨ c.isDigit := by
  show _ ↔ (c.val ≥ 97 && c.val ≤ 122) = true ∨ _
  simp [isNameStart, Char.isDigit, Char.le_def]

theorem isNameChar_iff (c : Char) :
    isNameChar c = true ↔ c.isLower ∨ c.isDigit ∨ c = '+' ∨ c = '.' ∨ c = '-' := by
  simp only [isNameChar, Bool.or_eq_true, isNameStart_iff, beq_iff_eq, or_assoc]

theorem isPackageName_iff (n : String) : isPackageName n = true ↔ MatchesNamePattern n := by
  unfold isPackageName MatchesNamePattern
  cases hn : n.toList with
  | nil => simp
  | cons c rest =>
    simp only [Bool.and_eq_true, Bool.not_eq_true', List.isEmpty_eq_false_iff, List.all_eq_true,
      isNameStart_iff, isNameChar_iff]
    constructor
    · rintro ⟨⟨hc, hne⟩, hall⟩
      exact ⟨c, rest, rfl, hne, hc, hall⟩
    · rintro ⟨c', rest', h, hne, hc, hall⟩
      cases h
      exact ⟨⟨hc, hne⟩, hall⟩

instance : DecidablePred MatchesNamePattern :=
  fun n => decidable_of_iff _ (isPackageName_iff n)

theorem checkPackageName_ok {n : String} (h : MatchesNamePattern n) : checkPackageName n = .ok () := by
  rw [checkPackageName, if_pos ((isPackageName_iff n).2 h)]

theorem checkPackageName_error {n : String} (h : ¬ MatchesNamePattern n) :
    checkPackageName n = .error (nameRefusal n) := by
  rw [checkPackageName, if_neg (fun h' => h ((isPackageName_iff n).1 h'))]
  rfl

theorem nameChar_safe {c : Char} (h : c.isLower ∨ c.isDigit ∨ c = '+' ∨ c = '.' ∨ c = '-') :
    Text.isBlank c = false ∧ c ∉ shellSpecial := by
  have hn : (97 ≤ c.toNat ∧ c.toNat ≤ 122) ∨ (48 ≤ c.toNat ∧ c.toNat ≤ 57) ∨ c.toNat = 43 ∨
      c.toNat = 46 ∨ c.toNat = 45 := by
    rcases h with h | h | rfl | rfl | rfl
    · change (c.val ≥ 97 && c.val ≤ 122) = true at h
      simp only [Bool.and_eq_true, decide_eq_true_eq] at h
      left
      exact ⟨h.1, h.2⟩
    · simp only [Char.isDigit, Bool.and_eq_true, decide_eq_true_eq] at h
      right; left
      exact ⟨h.1, h.2⟩
    all_goals simp
  refine ⟨?_, fun hmem => ?_⟩
  · simp only [Text.isBlank, Bool.or_eq_false_iff, Bool.and_eq_false_iff, decide_eq_false_iff_not,
      beq_eq_false_iff_ne, ne_eq]
    omega
  · -- every special character has a code outside the ranges of a name's characters
    have hcodes := List.mem_map_of_mem (f := Char.toNat) hmem
    simp only [shellSpecial, List.map_cons, List.map_nil, List.mem_cons, List.not_mem_nil,
      or_false] at hcodes
    simp at hcodes
    omega

end Names

section Checks

private theorem forM_check_cons (p : String) (ps : List String) :
    (p :: ps).forM checkPackageName = (checkPackageName p >>= fun _ => ps.forM checkPackageName) :=
  rfl

theorem forM_checkPackageName_ok (packages : List String) :
    packages.forM checkPackageName = .ok () ↔ ∀ p ∈ packages, MatchesNamePattern p := by
  induction packages with
  | nil => exact iff_of_true rfl fun _ h => nomatch h
  | cons p ps ih =>
    rw [forM_check_cons, List.forall_mem_cons, ← ih]
    by_cases hp : MatchesNamePattern p
    · rw [checkPackageName_ok hp]
      exact ⟨fun h => ⟨hp, h⟩, fun h => h.2⟩
    · rw [checkPackageName_error hp]
      constructor
      · intro h
        cases h
      · intro h
        exact absurd h.1 hp

theorem forM_checkPackageName_first {pre : List String} {n : String} (post : List String)
    (hpre : ∀ p ∈ pre, MatchesNamePattern p) (hn : ¬ MatchesNamePattern n) :
    (pre ++ n :: post).forM checkPackageName = .error (nameRefusal n) := by
  induction pre with
  | nil => rw [List.nil_append, forM_check_cons, checkPackageName_error hn]; rfl
  | cons p ps ih =>
    rw [List.cons_append, forM_check_cons, checkPackageName_ok (hpre p List.mem_cons_self)]
    exact ih fun q hq => hpre q (List.mem_cons_of_mem p hq)

variable (privilege : Option String)

theorem installCommands_first {pre : List String} {n : String} (post : List String)
    (hpre : ∀ p ∈ pre, MatchesNamePattern p) (hn : ¬ MatchesNamePattern n) :
    installCommands (pre ++ n :: post) privilege = .error (nameRefusal n) := by
  unfold installCommands
  rw [forM_checkPackageName_first post hpre hn]
  rfl

theorem installCommands_ok {packages : List String} (h : ∀ p ∈ packages, MatchesNamePattern p) :
    installCommands packages privilege =
      .ok (aptGet privilege ["update"] ::
        if packages = [] then [] else [aptGet privilege (["install", "-y"] ++ packages)]) := by
  unfold installCommands
  rw [(forM_checkPackageName_ok packages).2 h]
  cases packages <;> rfl

theorem matches_of_installCommands {packages : List String} {cmds : List Command}
    (h : installCommands packages privilege = .ok cmds) : ∀ p ∈ packages, MatchesNamePattern p := by
  rw [← forM_checkPackageName_ok]
  unfold installCommands at h
  cases hc : packages.forM checkPackageName with
  | error e => rw [hc] at h; cases h
  | ok u => rfl

theorem aptGet_eq (args : List String) :
    aptGet privilege args =
      { program := privilege.getD "apt-get", args := privilege.elim args fun _ => "apt-get" :: args } := by
  cases privilege <;> rfl

end Checks

/-- Every name is checked before any command is built, whatever the runner does. The first name
that does not match the package pattern is refused with the error that quotes it, and no command
is started. When every name matches, `apt-get update` runs, then `apt-get install -y` with the
names when there are any, both behind the privilege command when one is given; they run in order
and the first failure ends the run with its error. A name taken into a command then starts with
a lowercase letter or a digit, never `-`, and holds no blank and no character special to a
shell. -/
theorem install_checks_names_first (o : Oracle) (w : World) (packages : List String)
    (privilege : Option String) :
    let apt : List String → Command := fun args =>
      { program := privilege.getD "apt-get", args := privilege.elim args fun _ => "apt-get" :: args }
    let cmds := apt ["update"] :: if packages = [] then [] else [apt (["install", "-y"] ++ packages)]
    (∀ pre n post, packages = pre ++ n :: post → (∀ p ∈ pre, MatchesNamePattern p) →
        ¬ MatchesNamePattern n →
        installCommands packages privilege = .error (nameRefusal n) ∧
        o.Talks (installDependencies o.runner packages privilege) w
          fun t r => t = [] ∧ r = .error (nameRefusal n)) ∧
    ((∀ p ∈ packages, MatchesNamePattern p) →
        installCommands packages privilege = .ok cmds ∧
        o.Talks (installDependencies o.runner packages privilege) w (RunsInOrder cmds)) ∧
    (∀ cs, installCommands packages privilege = .ok cs → ∀ p ∈ packages,
        (∃ c rest, p.toList = c :: rest ∧ c ≠ '-' ∧ (c.isLower ∨ c.isDigit)) ∧
        ∀ ch ∈ p.toList, Text.isBlank ch = false ∧ ch ∉ shellSpecial) := by
  intro apt cmds
  have follows := installDependencies_follows o packages privilege w
  refine ⟨fun pre n post hsplit hpre hn => ?_, fun hall => ?_, fun cs hcs p hp => ?_⟩
  · -- the refusal comes before any command
    subst hsplit
    have hbad := installCommands_first privilege post hpre hn
    refine ⟨hbad, follows.mono fun t r run => ?_⟩
    cases run with
    | refused e bad =>
      rw [hbad] at bad
      cases bad
      exact ⟨rfl, rfl⟩
    | ran cs good => rw [hbad] at good; cases good
  · have hgood : installCommands packages privilege = .ok cmds := by
      rw [installCommands_ok privilege hall, aptGet_eq, aptGet_eq]
    refine ⟨hgood, follows.mono fun t r run => ?_⟩
    cases run with
    | refused e bad => rw [hgood] at bad; cases bad
    | ran cs good _ _ h =>
      rw [hgood] at good
      cases good
      exact h
  · obtain ⟨c, rest, hp, -, hc, hrest⟩ := matches_of_installCommands privilege hcs p hp
    refine ⟨⟨c, rest, hp, fun h => ?_, hc⟩, fun ch hch => ?_⟩
    · subst h
      revert hc
      decide
    · rw [hp, List.mem_cons] at hch
      rcases hch with rfl | hch
      · exact nameChar_safe (hc.elim Or.inl fun h => Or.inr (Or.inl h))
      · exact nameChar_safe (hrest ch hch)

/-- The names `make`, `g++` with a newline after it, and `-y`, behind `sudo`: `g++` followed by a
newline is the first that does not match, so it is refused and nothing is started. -/
theorem install_refuses_trailing_newline :
    let o : Oracle := ⟨fun _ _ => .ok (), fun _ _ => .ok "", fun _ _ => .ok true, fun _ _ v => v⟩
    let w : World := { clock := ⟨"", "", ""⟩ }
    ["make", "g++\n", "-y"] = ["make"] ++ "g++\n" :: ["-y"] ∧
      (∀ p ∈ ["make"], MatchesNamePattern p) ∧ ¬ MatchesNamePattern "g++\n" ∧
      installCommands ["make", "g++\n", "-y"] (some "sudo") = .error (nameRefusal "g++\n") ∧
      o.Talks (installDependencies o.runner ["make", "g++\n", "-y"] (some "sudo")) w
        fun t r => t = [] ∧ r = .error (nameRefusal "g++\n") := by
  intro o w
  have hpre : ∀ p ∈ ["make"], MatchesNamePattern p := by decide
  have hn : ¬ MatchesNamePattern "g++\n" := by decide
  exact ⟨rfl, hpre, hn,
    (install_checks_names_first o w ["make", "g++\n", "-y"] (some "sudo")).1 ["make"] "g++\n" ["-y"]
      rfl hpre hn⟩

end BoardSetup

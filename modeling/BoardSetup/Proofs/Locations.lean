import BoardSetup.FileTree

/-!
# Where a path leads

Resolving a path never follows anything but names: `.` stays, `..` goes up and a name goes
down, so when a path resolves at all, the location it reaches is `locate cwd p`, whatever the
tree holds. A write, an append or a read then concerns that one location: every other location
keeps what stands there.

Resolving asks of the tree only whether a location holds a directory, a file or nothing. Two trees
of the same shape (`SameShape`) resolve every path alike, and appending to a file keeps the shape.
-/

namespace BoardSetup

namespace FileTree

/-- One component of a path, taken by its name alone. -/
def stepLoc (at_ : List String) (c : String) : List String :=
  if c == "." then at_ else if c == ".." then at_.dropLast else at_ ++ [c]

/-- The location a path names from the working directory, by names alone. -/
def locate (cwd : List String) (p : String) : List String :=
  let start := if Path.isAbsolute p then [] else cwd
  let parts := (Path.segments p.toList).filter (· != "")
  match parts.getLast? with
  | none => []
  | some last => stepLoc (parts.dropLast.foldl stepLoc start) last

theorem walk_eq_foldl {t : FileTree} :
    ∀ {at_ d : List String} {cs : List String}, t.walk at_ cs = .ok d → d = cs.foldl stepLoc at_
  | at_, d, [], h => by
    simp only [walk, Except.ok.injEq] at h
    simp [h]
  | at_, d, c :: rest, h => by
    unfold walk at h
    rw [List.foldl_cons]
    split at h
    · rename_i hdot
      rw [walk_eq_foldl h, stepLoc, if_pos hdot]
    · split at h
      · rename_i hnd hup
        rw [walk_eq_foldl h, stepLoc, if_neg hnd, if_pos hup]
      · rename_i hnd hnu
        simp only [lookupName] at h
        split at h
        · cases h
        · simp only [bind, Except.bind] at h
          split at h
          · rw [walk_eq_foldl h, stepLoc, if_neg hnd, if_neg hnu]
          · cases h
          · cases h

theorem lookupName_eq {at_ loc : List String} {n : String} (h : lookupName at_ n = .ok loc) :
    loc = at_ ++ [n] := by
  unfold lookupName at h
  split at h
  · cases h
  · exact (Except.ok.inj h).symm

theorem resolve_loc {t : FileTree} {cwd : List String} {p : String} {tg : Target}
    (h : t.resolve cwd p = .ok tg) : tg.loc = locate cwd p := by
  unfold resolve at h
  simp only [bind, Except.bind, pure, Except.pure] at h
  split at h
  · cases h
  split at h
  · cases h
  unfold locate
  dsimp only
  cases hlast : ((Path.segments p.toList).filter (· != "")).getLast? with
  | none =>
    rw [hlast] at h
    cases h
    rfl
  | some last =>
    rw [hlast] at h
    dsimp only at h ⊢
    split at h
    · cases h
    · rename_i d hwalk
      rw [← walk_eq_foldl hwalk]
      unfold stepLoc
      split at h
      · rename_i hdot
        cases h
        simp [hdot]
      · split at h
        · rename_i hnd hup
          cases h
          simp [hnd, hup]
        · rename_i hnd hnu
          split at h
          · cases h
          · rename_i loc hname
            cases h
            simp [hnd, hnu, lookupName_eq hname]

theorem find?_nil (t : FileTree) : t.find? [] = some .dir := rfl

section Replace

variable {k x : List String} {n : Node}

theorem lookup_replace_ne (es : List (List String × Node)) (hx : x ≠ k) :
    (es.map fun e => if e.1 == k then (k, n) else e).lookup x = es.lookup x := by
  induction es with
  | nil => rfl
  | cons e es ih =>
    obtain ⟨k', v⟩ := e
    by_cases hk : k' = k
    · subst hk
      rw [List.map_cons, if_pos (beq_self_eq_true k'), List.lookup_cons, List.lookup_cons,
        beq_eq_false_iff_ne.2 hx]
      exact ih
    · rw [List.map_cons, if_neg (by simpa using hk), List.lookup_cons, List.lookup_cons, ih]

theorem lookup_replace_self (es : List (List String × Node)) (hk : es.any (·.1 == k)) :
    (es.map fun e => if e.1 == k then (k, n) else e).lookup k = some n := by
  induction es with
  | nil => cases hk
  | cons e es ih =>
    obtain ⟨k', v⟩ := e
    by_cases he : k' = k
    · subst he
      rw [List.map_cons, if_pos (beq_self_eq_true k'), List.lookup_cons, beq_self_eq_true]
    · have hrest : es.any (·.1 == k) := by simpa [he] using hk
      rw [List.map_cons, if_neg (by simpa using he), List.lookup_cons,
        beq_eq_false_iff_ne.2 (Ne.symm he)]
      exact ih hrest

end Replace

theorem find?_put_ne {t : FileTree} {loc x : List String} {n : Node} (hx : x ≠ loc) :
    (t.put loc n).find? x = t.find? x := by
  unfold find? put
  split
  · rfl
  · split
    · exact lookup_replace_ne t.nodes hx
    · simp [List.lookup_append, List.lookup_cons, beq_eq_false_iff_ne.2 hx]

theorem find?_put_self {t : FileTree} {loc : List String} {n : Node} (hloc : loc ≠ []) :
    (t.put loc n).find? loc = some n := by
  unfold find? put
  rw [if_neg (by simpa using hloc)]
  split
  · rename_i hany
    exact lookup_replace_self t.nodes hany
  · rename_i hany
    have hnone : t.nodes.lookup loc = none := by
      rw [List.lookup_eq_none_iff]
      intro e he
      have hne := List.any_eq_false.1 (Bool.eq_false_iff.2 hany) e he
      rw [bne_iff_ne]
      intro h
      rw [← h, beq_self_eq_true] at hne
      exact hne rfl
    rw [List.lookup_append, hnone, Option.none_or, List.lookup_cons, beq_self_eq_true]

theorem read_find? {t : FileTree} {cwd : List String} {p : String} {data : List UInt8}
    (h : t.read cwd p = .ok data) : t.find? (locate cwd p) = some (.file data) := by
  unfold read at h
  simp only [bind, Except.bind] at h
  split at h
  · cases h
  · rename_i tg hres
    rw [← resolve_loc hres]
    split at h
    · cases h
    · cases h
    · rename_i old hfind
      split at h
      · cases h
      · cases h
        exact hfind

/-- Appending to an existing file, without creating one, extends the file at the path's
location and leaves the rest of the tree as it was. -/
theorem append_eq_put {t t' : FileTree} {cwd : List String} {p : String} {data : List UInt8}
    (h : t.append cwd p data false = .ok t') :
    ∃ old, t.find? (locate cwd p) = some (.file old) ∧
      t' = t.put (locate cwd p) (.file (old ++ data)) := by
  unfold append at h
  simp only [Bool.not_false, ite_true, bind, Except.bind] at h
  split at h
  · cases h
  · rename_i tg hres
    rw [← resolve_loc hres]
    split at h
    · rename_i old hfind
      split at h
      · cases h
      · cases h
        exact ⟨old, hfind, rfl⟩
    · cases h
    · cases h

theorem openTarget_loc {t : FileTree} {cwd : List String} {p : String} {tg : Target}
    (h : t.openTarget cwd p = .ok tg) : tg.loc = locate cwd p := by
  unfold openTarget at h
  simp only [bind, Except.bind, pure, Except.pure] at h
  split at h
  · cases h
  · rename_i tg' hres
    split at h
    · cases h
    · split at h
      · cases h
      · cases h
        exact resolve_loc hres

theorem append_find?_ne {t t' : FileTree} {cwd : List String} {p : String}
    {data : List UInt8} {create : Bool} (h : t.append cwd p data create = .ok t')
    {x : List String} (hx : x ≠ locate cwd p) : t'.find? x = t.find? x := by
  cases create
  · obtain ⟨_, -, rfl⟩ := append_eq_put h
    exact find?_put_ne hx
  · unfold append at h
    simp only [Bool.not_true, Bool.false_eq_true, ite_false, bind, Except.bind] at h
    split at h
    · cases h
    · rename_i tg htg
      rw [← openTarget_loc htg] at hx
      split at h <;> (cases h; exact find?_put_ne hx)

/-- What an opening that may create a file requires: the path resolves, names no directory,
and ends in no separator. -/
theorem openTarget_ok {t : FileTree} {cwd : List String} {p : String} {tg : Target}
    (h : t.openTarget cwd p = .ok tg) :
    t.resolve cwd p = .ok tg ∧ tg.slash = false ∧ t.find? tg.loc ≠ some .dir := by
  unfold openTarget at h
  simp only [bind, Except.bind, pure, Except.pure] at h
  split at h
  · cases h
  · rename_i tg' hres
    split at h
    · cases h
    · rename_i hnamed
      split at h
      · cases h
      · rename_i hdir
        cases h
        refine ⟨hres, ?_, by simpa using hdir⟩
        simp only [Bool.or_eq_true, not_or] at hnamed
        exact Bool.eq_false_iff.2 hnamed.2

theorem walk_of_dirs {t t' : FileTree}
    (h : ∀ loc, t.find? loc = some .dir → t'.find? loc = some .dir) :
    ∀ {at_ d : List String} (cs : List String), t.walk at_ cs = .ok d → t'.walk at_ cs = .ok d
  | _, _, [], hw => hw
  | at_, d, c :: rest, hw => by
    unfold walk at hw ⊢
    by_cases hdot : (c == ".") = true
    · rw [if_pos hdot] at hw ⊢
      exact walk_of_dirs h rest hw
    rw [if_neg hdot] at hw ⊢
    by_cases hup : (c == "..") = true
    · rw [if_pos hup] at hw ⊢
      exact walk_of_dirs h rest hw
    rw [if_neg hup] at hw ⊢
    simp only [bind, Except.bind] at hw ⊢
    cases hname : lookupName at_ c with
    | error e => rw [hname] at hw; cases hw
    | ok next =>
      rw [hname] at hw
      simp only at hw ⊢
      -- the walk went on through a directory, which the other tree keeps
      cases hn : t.find? next with
      | none => rw [hn] at hw; cases hw
      | some n =>
        cases n with
        | file _ => rw [hn] at hw; cases hw
        | dir =>
          rw [hn] at hw
          rw [h next hn]
          exact walk_of_dirs h rest hw

theorem resolve_of_dirs {t t' : FileTree}
    (h : ∀ loc, t.find? loc = some .dir → t'.find? loc = some .dir) {cwd : List String}
    {p : String} {tg : Target} (hr : t.resolve cwd p = .ok tg) : t'.resolve cwd p = .ok tg := by
  unfold resolve at hr ⊢
  simp only [bind, Except.bind, pure, Except.pure] at hr ⊢
  split at hr
  · cases hr
  · rename_i hempty
    rw [if_neg hempty]
    split at hr
    · cases hr
    · rename_i hlong
      rw [if_neg hlong]
      split at hr
      · exact hr
      · rename_i last _
        split at hr
        · cases hr
        · rename_i d hwalk
          rw [walk_of_dirs h _ hwalk]
          exact hr

theorem read_write {t t' : FileTree} {cwd : List String} {p : String} {data : List UInt8}
    (h : t.write cwd p data = .ok t') : t'.read cwd p = .ok data := by
  unfold write at h
  simp only [bind, Except.bind, pure, Except.pure] at h
  split at h
  · cases h
  · rename_i tg htg
    cases h
    obtain ⟨hres, hslash, hdir⟩ := openTarget_ok htg
    have hloc : tg.loc ≠ [] := fun h0 => hdir (h0 ▸ find?_nil t)
    have hdirs : ∀ loc, t.find? loc = some .dir → (t.put tg.loc (.file data)).find? loc = some .dir := by
      intro loc hl
      have hne : loc ≠ tg.loc := fun he => hdir (he ▸ hl)
      rw [find?_put_ne hne, hl]
    unfold read
    simp only [bind, Except.bind]
    rw [resolve_of_dirs hdirs hres]
    simp only
    rw [find?_put_self hloc]
    simp [hslash]

/-- Whether a node is a directory. -/
def nodeIsDir : Node → Bool
  | .dir => true
  | .file _ => false

/-- Every location holds a directory in both trees, a file in both, or nothing in both. -/
def SameShape (t t' : FileTree) : Prop :=
  ∀ loc, (t.find? loc).map nodeIsDir = (t'.find? loc).map nodeIsDir

namespace SameShape

variable {t t₁ t₂ : FileTree}

@[refl] theorem refl (t : FileTree) : SameShape t t := fun _ => rfl

theorem trans (h₁ : SameShape t t₁) (h₂ : SameShape t₁ t₂) : SameShape t t₂ :=
  fun loc => (h₁ loc).trans (h₂ loc)

end SameShape

theorem sameShape_put_file {t : FileTree} {loc : List String} {a : List UInt8}
    (h : t.find? loc = some (.file a)) (b : List UInt8) : SameShape t (t.put loc (.file b)) := by
  intro x
  by_cases hx : x = loc
  · subst hx
    have hloc : x ≠ [] := by
      rintro rfl
      cases h
    rw [find?_put_self hloc, h]
    rfl
  · rw [find?_put_ne hx]

theorem sameShape_append {t t' : FileTree} {cwd : List String} {p : String} {data : List UInt8}
    (h : t.append cwd p data false = .ok t') : SameShape t t' := by
  obtain ⟨_, hold, rfl⟩ := append_eq_put h
  exact sameShape_put_file hold _

theorem walk_eq {t t' : FileTree} (h : SameShape t t') :
    ∀ (at_ cs : List String), t.walk at_ cs = t'.walk at_ cs
  | _, [] => rfl
  | at_, c :: rest => by
    unfold walk
    split
    · exact walk_eq h _ rest
    · split
      · exact walk_eq h _ rest
      · simp only [bind, Except.bind]
        split
        · rfl
        · rename_i next _
          have hn := h next
          cases h₁ : t.find? next with
          | none =>
            cases h₂ : t'.find? next with
            | none => rfl
            | some n => rw [h₁, h₂] at hn; cases hn
          | some n₁ =>
            cases h₂ : t'.find? next with
            | none => rw [h₁, h₂] at hn; cases hn
            | some n₂ =>
              rw [h₁, h₂] at hn
              cases n₁ <;> cases n₂ <;> simp only [Option.map_some, nodeIsDir, Option.some.injEq,
                Bool.true_eq_false, Bool.false_eq_true] at hn
              · exact walk_eq h next rest
              · rfl

theorem resolve_eq {t t' : FileTree} (h : SameShape t t') (cwd : List String) (p : String) :
    t.resolve cwd p = t'.resolve cwd p := by
  simp only [resolve, walk_eq h]

theorem read_of_sameShape {t t' : FileTree} {cwd : List String} {p : String}
    {d d' : List UInt8} (h : SameShape t t') (hr : t.read cwd p = .ok d)
    (hf : t'.find? (locate cwd p) = some (.file d')) : t'.read cwd p = .ok d' := by
  unfold read at hr ⊢
  rw [← resolve_eq h]
  simp only [bind, Except.bind] at hr ⊢
  split at hr
  · cases hr
  · rename_i tg hres
    rw [resolve_loc hres] at hr ⊢
    rw [hf]
    split at hr
    · cases hr
    · cases hr
    · split at hr
      · cases hr
      · rename_i hslash
        simp [hslash]

theorem append_of_read {t : FileTree} {cwd : List String} {p : String} {d : List UInt8}
    (hr : t.read cwd p = .ok d) (data : List UInt8) :
    t.append cwd p data false = .ok (t.put (locate cwd p) (.file (d ++ data))) := by
  unfold read at hr
  unfold append
  simp only [bind, Except.bind, Bool.not_false, ite_true] at hr ⊢
  split at hr
  · cases hr
  · rename_i tg hres
    rw [← resolve_loc hres]
    split at hr
    · cases hr
    · cases hr
    · rename_i old hfind
      split at hr
      · cases hr
      · rename_i hslash
        cases hr
        simp [hfind, hslash]

end FileTree

end BoardSetup

import BoardSetup.Proofs.JsonSkip
import BoardSetup.Proofs.SettingsReadBack

/-!
# Settings documents

A settings document is an object. Take one where each key that names a field holds a value of
that field's kind (`FieldsTyped`). Read as a parsed value (`ofValue`), with distinct keys it gives
the stock settings with each field it names set to its value (`entriesOfValue_ok`); a field named
twice is refused as a duplicate (`entriesOfValue_dup`).

Every JSON text of it (`Json.Document`), whatever the whitespace between its tokens, reads as the
parsed value does: the text reader goes through the entries in the same order and makes the same
choices, passing over the value of a key that names no field, and places its fault in the text
(`ofText_document`).
-/

namespace BoardSetup.Settings

open Json Json.Reader

/-- Each key of the entries that names a field holds a value of that field's kind. -/
def FieldsTyped (kvs : List (String × Value)) : Prop :=
  ∀ (k : Key) (v : Value), (k.name, v) ∈ kvs → ∃ d, k.shape.Holds d ∧ v = d.toValue

theorem FieldsTyped.tail {kv : String × Value} {kvs : List (String × Value)}
    (h : FieldsTyped (kv :: kvs)) : FieldsTyped kvs :=
  fun k v hk => h k v (List.mem_cons_of_mem _ hk)

/-! ## Fields and their values -/

section Fields

theorem Datum.toValue_inj {d d' : Datum} (h : d.toValue = d'.toValue) : d = d' := by
  cases d <;> cases d' <;> simp_all [Datum.toValue]
  exact (List.map_inj_right (fun _ _ h => by cases h; rfl)).1 h

theorem ofName?_eq_some {n : String} {k : Key} (h : Key.ofName? n = some k) : n = k.name := by
  have := List.find?_some h
  simp only [beq_iff_eq] at this
  exact this.symm

theorem name_inj {k k' : Key} (h : k.name = k'.name) : k = k' := by
  have h' := congrArg Key.ofName? h
  rwa [ofName?_name, ofName?_name, Option.some.injEq] at h'

theorem get_set_self {k : Key} {d : Datum} (hd : k.shape.Holds d) (s : Settings) :
    (s.set k d).get k = d := by
  cases k <;> cases hd <;> rfl

theorem get_set_ne {k k' : Key} (h : k' ≠ k) {d : Datum} (hd : k.shape.Holds d) (s : Settings) :
    (s.set k d).get k' = s.get k' := by
  cases k <;> cases hd <;> cases k' <;> first | rfl | exact absurd rfl h

theorem ext_get {s s' : Settings} (h : ∀ k, s.get k = s'.get k) : s = s' := by
  rw [← foldl_set_get s stock, ← foldl_set_get s' stock]
  simp only [h]

theorem mapM_textOfValue (xs : List String) : (xs.map Value.str).mapM textOfValue = .ok xs := by
  induction xs with
  | nil => rfl
  | cons x xs ih =>
    simp only [List.map_cons, List.mapM_cons, ih]
    rfl

theorem datumOfValue_toValue {shape : Shape} {d : Datum} (h : shape.Holds d) :
    datumOfValue shape d.toValue = .ok d := by
  cases h with
  | textList xs =>
    show ((xs.map Value.str).mapM textOfValue).map Datum.list = .ok (.list xs)
    rw [mapM_textOfValue]
    rfl
  | _ => rfl

end Fields

/-! ## Reading a parsed object -/

section Values

variable {seen : List Key}

theorem entriesOfValue_other {name : String} (hn : Key.ofName? name = none) (acc : Settings)
    (v : Value) (kvs : List (String × Value)) :
    entriesOfValue seen acc ((name, v) :: kvs) = entriesOfValue seen acc kvs := by
  rw [entriesOfValue, hn]

theorem entriesOfValue_seen {k : Key} (hs : k ∈ seen) (acc : Settings) (v : Value)
    (kvs : List (String × Value)) :
    entriesOfValue seen acc ((k.name, v) :: kvs) = .error (.duplicateField k.name) := by
  rw [entriesOfValue, ofName?_name]
  simp only
  rw [if_pos (by simpa using hs)]

theorem entriesOfValue_field {k : Key} (hs : k ∉ seen) {d : Datum} (hd : k.shape.Holds d)
    (acc : Settings) (kvs : List (String × Value)) :
    entriesOfValue seen acc ((k.name, d.toValue) :: kvs) =
      entriesOfValue (k :: seen) (acc.set k d) kvs := by
  rw [entriesOfValue, ofName?_name]
  simp only
  rw [if_neg (by simpa using hs), datumOfValue_toValue hd]
  rfl

/-- With distinct keys and none naming a field read before, the entries are read, and each field
ends with the value of its own entry if there is one, and as it was otherwise. -/
theorem entriesOfValue_ok : ∀ (kvs : List (String × Value)) (seen : List Key) (acc : Settings),
    FieldsTyped kvs → (kvs.map Prod.fst).Nodup → (∀ k ∈ seen, k.name ∉ kvs.map Prod.fst) →
    ∃ c, entriesOfValue seen acc kvs = .ok c ∧
      ∀ k, (c.get k).toValue = (kvs.lookup k.name).getD (acc.get k).toValue
  | [], _, acc, _, _, _ => ⟨acc, rfl, fun _ => rfl⟩
  | (name, v) :: kvs, seen, acc, htyped, hnd, hseen => by
    rw [List.map_cons, List.nodup_cons] at hnd
    cases hk : Key.ofName? name with
    | none =>
      have hne : ∀ k : Key, k.name ≠ name := fun k h => by rw [← h, ofName?_name] at hk; cases hk
      obtain ⟨c, hc, hget⟩ := entriesOfValue_ok kvs seen acc htyped.tail hnd.2
        (fun k hk' hmem => hseen k hk' (List.mem_cons_of_mem _ hmem))
      refine ⟨c, (entriesOfValue_other hk acc v kvs).trans hc, fun k => ?_⟩
      rw [hget k, List.lookup_cons, beq_eq_false_iff_ne.2 (hne k)]
    | some k0 =>
      obtain rfl := ofName?_eq_some hk
      obtain ⟨d, hd, rfl⟩ := htyped k0 v List.mem_cons_self
      have hnew : k0 ∉ seen := fun h => hseen k0 h List.mem_cons_self
      obtain ⟨c, hc, hget⟩ := entriesOfValue_ok kvs (k0 :: seen) (acc.set k0 d) htyped.tail hnd.2 (by
        intro k hk' hmem
        rcases List.mem_cons.1 hk' with rfl | hk'
        · exact hnd.1 hmem
        · exact hseen k hk' (List.mem_cons_of_mem _ hmem))
      refine ⟨c, (entriesOfValue_field hnew hd acc kvs).trans hc, fun k => ?_⟩
      rw [hget k]
      by_cases hkk : k = k0
      · -- the field of this entry: no later entry names it
        subst hkk
        have hlater : kvs.lookup k.name = none := List.lookup_eq_none_iff.2 fun p hp =>
          bne_iff_ne.2 fun h => hnd.1 (List.mem_map.2 ⟨p, hp, h.symm⟩)
        rw [hlater, get_set_self hd, List.lookup_cons, beq_self_eq_true]
        rfl
      · have hne : k.name ≠ k0.name := fun h => hkk (name_inj h)
        rw [get_set_ne hkk hd, List.lookup_cons, beq_eq_false_iff_ne.2 hne]

/-- Where a field is named twice, or named again after it was read, the entries are refused for
such a field. -/
theorem entriesOfValue_dup : ∀ (kvs : List (String × Value)) (seen : List Key) (acc : Settings),
    FieldsTyped kvs →
    (∃ k : Key, k ∈ seen ∧ k.name ∈ kvs.map Prod.fst ∨ 2 ≤ (kvs.map Prod.fst).count k.name) →
    ∃ k : Key, (k ∈ seen ∧ k.name ∈ kvs.map Prod.fst ∨ 2 ≤ (kvs.map Prod.fst).count k.name) ∧
      entriesOfValue seen acc kvs = .error (.duplicateField k.name)
  | [], _, _, _, ⟨k, hk⟩ => by simp at hk
  | (name, v) :: kvs, seen, acc, htyped, ⟨k, hk⟩ => by
    rw [List.map_cons] at hk ⊢
    cases hn : Key.ofName? name with
    | none =>
      have hne : ∀ k : Key, name ≠ k.name := fun k h => by rw [h, ofName?_name] at hn; cases hn
      have hnames : ∀ k : Key, (k.name ∈ name :: kvs.map Prod.fst ↔ k.name ∈ kvs.map Prod.fst) ∧
          (name :: kvs.map Prod.fst).count k.name = (kvs.map Prod.fst).count k.name := fun k =>
        ⟨by simp [(hne k).symm], List.count_cons_of_ne (hne k)⟩
      obtain ⟨k', hk', he⟩ := entriesOfValue_dup kvs seen acc htyped.tail
        ⟨k, by rwa [(hnames k).1, (hnames k).2] at hk⟩
      exact ⟨k', by rwa [(hnames k').1, (hnames k').2], (entriesOfValue_other hn acc v kvs).trans he⟩
    | some k0 =>
      obtain rfl := ofName?_eq_some hn
      by_cases hs : k0 ∈ seen
      · exact ⟨k0, Or.inl ⟨hs, List.mem_cons_self⟩, entriesOfValue_seen hs acc v kvs⟩
      · obtain ⟨d, hd, rfl⟩ := htyped k0 v List.mem_cons_self
        -- the repeated field is still to come, or was this one
        have hrest : ∃ k : Key, k ∈ k0 :: seen ∧ k.name ∈ kvs.map Prod.fst ∨
            2 ≤ (kvs.map Prod.fst).count k.name := by
          by_cases hkk : k = k0
          · subst hkk
            refine ⟨k, Or.inl ⟨List.mem_cons_self, ?_⟩⟩
            rcases hk with ⟨hs', _⟩ | hc
            · exact absurd hs' hs
            · rw [List.count_cons_self] at hc
              exact List.count_pos_iff.1 (by omega)
          · have hne : k0.name ≠ k.name := fun h => hkk (name_inj h).symm
            refine ⟨k, ?_⟩
            rcases hk with ⟨hs', hm⟩ | hc
            · exact Or.inl ⟨List.mem_cons_of_mem _ hs', by simpa [hne.symm] using hm⟩
            · exact Or.inr (by rwa [List.count_cons_of_ne hne] at hc)
        obtain ⟨k', hk', he⟩ := entriesOfValue_dup kvs (k0 :: seen) (acc.set k0 d) htyped.tail hrest
        refine ⟨k', ?_, (entriesOfValue_field hs hd acc kvs).trans he⟩
        rcases hk' with ⟨hs', hm⟩ | hc
        · rcases List.mem_cons.1 hs' with rfl | hs'
          · have := List.count_pos_iff.2 hm
            exact Or.inr (by rw [List.count_cons_self]; omega)
          · exact Or.inl ⟨hs', List.mem_cons_of_mem _ hm⟩
        · exact Or.inr (by rw [List.count_cons]; omega)

end Values

/-! ## Reading the text of an object -/

section Text

/-- A run of the text reader over entries agrees with the value reader over them: the same
settings with the closing brace left to read, or the same fault, not yet placed. -/
def ReadAgrees (rest : List Char) (run : Except Error Settings × List Char)
    (value : Except Fault Settings) : Prop :=
  run.1 = value.mapError (fun f => ⟨f, none⟩) ∧ ∀ c, value = .ok c → run.2 = '}' :: rest

variable {first : Bool} (seen : List Key) (acc : Settings) (f : Nat) {t u t' : List Char}

theorem run_objectEntries_skip {name : String} {v : Value} (hl : Leads first t u)
    (he : Entry u (name, v) t') (hn : Key.ofName? name = none) (hlen : u.length < t'.length + f) :
    (objectEntries first seen acc (f + 1)).run.run t =
      (objectEntries false seen acc f).run.run t' := by
  cases he with
  | @mk ws₁ ws₂ tv _ _ _ hws₁ hws₂ hv =>
    have htv : tv.length < t'.length + f := by
      simp only [List.length_append, List.length_cons] at hlen
      omega
    rw [List.append_assoc] at hl
    rw [objectEntries, run_bind (run_nextKey name _ hl hws₁)]
    simp only
    rw [hn]
    simp only
    rw [run_bind (run_colon hws₂ _), run_bind (run_skipValue f hv htv)]

theorem run_objectEntries_dup {k : Key} {v : Value} (hl : Leads first t u)
    (he : Entry u (k.name, v) t') (hk : k ∈ seen) :
    ((objectEntries first seen acc (f + 1)).run.run t).1 =
      .error ⟨.duplicateField k.name, none⟩ := by
  cases he with
  | @mk ws₁ ws₂ tv _ _ _ hws₁ hws₂ hv =>
    rw [List.append_assoc] at hl
    rw [objectEntries, run_bind (run_nextKey k.name _ hl hws₁)]
    simp only
    rw [ofName?_name]
    simp only
    rw [if_pos (by simpa using hk)]
    rfl

/-- The first of the entries is read as the value reader reads it, whichever of the three kinds of
key it has; the entries after it are then read as they would be on their own. -/
theorem run_objectEntries_first (rest : List Char) {name : String} {v : Value}
    (kvs : List (String × Value)) (hl : Leads first t u) (he : Entry u (name, v) t')
    (htyped : ∀ k : Key, name = k.name → ∃ d, k.shape.Holds d ∧ v = d.toValue)
    (hlen : u.length < t'.length + f)
    (hnext : ∀ seen' acc', ReadAgrees rest ((objectEntries false seen' acc' f).run.run t')
      (entriesOfValue seen' acc' kvs)) :
    ReadAgrees rest ((objectEntries first seen acc (f + 1)).run.run t)
      (entriesOfValue seen acc ((name, v) :: kvs)) := by
  cases hn : Key.ofName? name with
  | none =>
    rw [run_objectEntries_skip seen acc f hl he hn hlen, entriesOfValue_other hn]
    exact hnext seen acc
  | some k =>
    obtain rfl := ofName?_eq_some hn
    by_cases hs : k ∈ seen
    · rw [entriesOfValue_seen hs]
      exact ⟨by rw [run_objectEntries_dup seen acc f hl he hs]; rfl, fun c h => by cases h⟩
    · obtain ⟨d, hd, rfl⟩ := htyped k rfl
      rw [run_objectEntries_entry seen acc f hl he hs hd, entriesOfValue_field hs hd]
      exact hnext (k :: seen) (acc.set k d)

end Text

/-- The entries of an object are read as the value reader reads them, while the steps left
outnumber the characters left. -/
theorem run_objectEntries_agree (rest : List Char) :
    ∀ (kvs : List (String × Value)) (name : String) (v : Value) (first : Bool) (seen : List Key)
      (acc : Settings) (fuel : Nat) {t u t' : List Char},
      Leads first t u → Entry u (name, v) t' → EntriesAfter t' kvs rest →
      FieldsTyped ((name, v) :: kvs) → t.length < rest.length + fuel →
      ReadAgrees rest ((objectEntries first seen acc fuel).run.run t)
        (entriesOfValue seen acc ((name, v) :: kvs))
  | [], name, v, first, seen, acc, fuel, t, u, t', hl, he, hes, htyped, hlen => by
    have hu := he.length_lt
    have hlu := hl.length_le
    cases hes with
    | close hws =>
      obtain ⟨f, rfl⟩ : ∃ f, fuel = f + 2 := ⟨fuel - 2, by
        simp only [List.length_append, List.length_cons] at hu
        omega⟩
      refine run_objectEntries_first seen acc (f + 1) rest [] hl he
        (fun k h => htyped k v (h ▸ List.mem_cons_self)) (by
          simp only [List.length_append, List.length_cons]
          omega) (fun seen' acc' => ?_)
      rw [run_objectEntries_end seen' acc' f rest hws]
      exact ⟨rfl, fun _ _ => rfl⟩
  | (name', v') :: kvs, name, v, first, seen, acc, fuel, t, u, t', hl, he, hes, htyped, hlen => by
    have hu := he.length_lt
    have hlu := hl.length_le
    have ht' := hes.length_lt
    obtain ⟨f, rfl⟩ : ∃ f, fuel = f + 1 := ⟨fuel - 1, by omega⟩
    cases hes with
    | @next ws t₂ t₃ _ _ _ hws he' hes' =>
      exact run_objectEntries_first seen acc f rest ((name', v') :: kvs) hl he
        (fun k h => htyped k v (h ▸ List.mem_cons_self)) (by omega) (fun seen' acc' =>
          run_objectEntries_agree rest kvs name' v' false seen' acc' f (leads_comma hws) he' hes'
            htyped.tail (by omega))

/-! ## The whole document -/

section Document

theorem run_closeWith_error {α : Type} (f : Fault) (close : Except Error Unit) (cs : List Char) :
    (closeWith (α := α) (.error ⟨f, none⟩) close).run.run cs =
      (.error ⟨f, some (byteLength cs)⟩, cs) :=
  rfl

/-- Past its whitespace and its opening brace, an object is read by reading its entries and then
its closing brace. -/
theorem run_read_entries {ws t st st' : List Char} (hws : Blank ws) {res : Except Error Settings}
    {rc : Except Error Unit} (hrun : (objectEntries true [] stock (t.length + 1)).run.run t = (res, st))
    (hclose : closeObject.run.run st = (rc, st')) :
    read.run.run (ws ++ '{' :: t) = (closeWith res rc).run.run st' := by
  unfold read
  rw [run_bind (run_skipSpace_spaces hws (by decide))]
  simp only
  rw [run_bind (run_bump _ _), run_bind (run_getThe _), run_bind (run_attempt hrun),
    run_bind (run_attempt hclose)]

/-- A JSON text of an object whose keys that name fields hold values of their kinds is read as
the value reader reads the object: to the same settings, the reader stopping after the closing
brace, or to the same fault, placed in the text. -/
theorem run_read_obj {cs r : List Char} {kvs : List (String × Value)}
    (hsp : Spelled cs (.obj kvs) r) (htyped : FieldsTyped kvs) :
    (∀ c, entriesOfValue [] stock kvs = .ok c → read.run.run cs = (.ok c, r)) ∧
      ∀ f, entriesOfValue [] stock kvs = .error f →
        ∃ n rest, read.run.run cs = (.error ⟨f, some n⟩, rest) := by
  cases hsp with
  | @objEmpty ws ws' _ hws hws' =>
    refine ⟨fun c hc => ?_, fun f hf => by cases hf⟩
    cases hc
    rw [run_read_entries hws (run_objectEntries_end [] stock _ r hws') (run_closeObject r),
      closeWith_ok]
    rfl
  | @obj ws te t' _ kv kvs hws he hes =>
    obtain ⟨name, v⟩ := kv
    have hagree := run_objectEntries_agree r kvs name v true [] stock (te.length + 1) leads_first
      he hes htyped (by omega)
    generalize hrun : (objectEntries true [] stock (te.length + 1)).run.run te = run at hagree
    obtain ⟨res, st⟩ := run
    obtain ⟨hres, hst⟩ := hagree
    generalize hclose : closeObject.run.run st = close
    obtain ⟨rc, st'⟩ := close
    have hread := run_read_entries hws hrun hclose
    refine ⟨fun c hv => ?_, fun f hv => ?_⟩
    · rw [hv] at hres
      obtain rfl : st = '}' :: r := hst c hv
      rw [run_closeObject] at hclose
      cases hclose
      cases hres
      exact hread
    · rw [hv] at hres
      cases hres
      exact ⟨byteLength st', st', hread.trans (run_closeWith_error f rc st')⟩

/-- A JSON text of an object whose keys that name fields hold values of their kinds reads as the
object does, a fault placed in the text. -/
theorem ofText_document {src : String} {kvs : List (String × Value)}
    (hd : Document src.toList (.obj kvs)) (htyped : FieldsTyped kvs) :
    ∃ n, ofText src = (ofValue (.obj kvs)).mapError fun f => Error.message ⟨f, some n⟩ src := by
  obtain ⟨wsEnd, hsp, hend⟩ := hd
  obtain ⟨hok, herr⟩ := run_read_obj hsp htyped
  unfold ofText document
  cases hv : entriesOfValue [] stock kvs with
  | ok c =>
    refine ⟨0, ?_⟩
    rw [run_bind (hok c hv), run_bind (run_skipSpace_blank hend), ofValue, hv]
    rfl
  | error f =>
    obtain ⟨n, rest, hread⟩ := herr f hv
    refine ⟨n, ?_⟩
    rw [run_bind_error hread, ofValue, hv]
    rfl

/-- A JSON text of an object whose keys that name fields hold values of their kinds reads as
settings exactly when the object does, and as the same settings. -/
theorem ofText_document_ok {src : String} {kvs : List (String × Value)}
    (hd : Document src.toList (.obj kvs)) (htyped : FieldsTyped kvs) (c : Settings) :
    ofText src = .ok c ↔ ofValue (.obj kvs) = .ok c := by
  obtain ⟨n, hn⟩ := ofText_document hd htyped
  rw [hn]
  cases ofValue (.obj kvs) with
  | ok c' =>
    constructor <;> intro h <;> cases h <;> rfl
  | error f =>
    constructor <;> intro h <;> cases h

end Document

end BoardSetup.Settings

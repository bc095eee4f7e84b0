import BoardSetup.Proofs.JsonSkip
import BoardSetup.Settings.Json

/-!
# Settings entries read back

Each field holds a datum of the kind its shape takes (`Shape.Holds`), and each such datum reads
back from every JSON text of its value (`Json.Spelled`), whatever the whitespace around its
tokens. An object is read one entry at a time: an entry whose key names a field not read before
sets that field to the datum its value spells, and the closing brace ends the entries.
-/

namespace BoardSetup.Settings

open Json Json.Reader

/-! ## The data each shape holds -/

/-- The data a field of each shape holds; a count is one that fits the 64 bits a reader takes. -/
inductive Shape.Holds : Shape → Datum → Prop
  | path (s : String) : Shape.Holds .path (.text s)
  | optPath (s : String) : Shape.Holds .optPath (.text s)
  | optPathAbsent : Shape.Holds .optPath .absent
  | text (s : String) : Shape.Holds .text (.text s)
  | optText (s : String) : Shape.Holds .optText (.text s)
  | optTextAbsent : Shape.Holds .optText .absent
  | flag (b : Bool) : Shape.Holds .flag (.flag b)
  | textList (xs : List String) : Shape.Holds .textList (.list xs)
  | count (n : Nat) (h : n ≤ u64Max) : Shape.Holds .optCount (.count n)
  | countAbsent : Shape.Holds .optCount .absent

theorem holds_ofOption_path (o : Option String) : Shape.Holds .optPath (.ofOption o) := by
  cases o <;> constructor

theorem holds_ofOption_text (o : Option String) : Shape.Holds .optText (.ofOption o) := by
  cases o <;> constructor

theorem get_holds (s : Settings) (hj : ∀ n ∈ s.jobs, n ≤ u64Max) (k : Key) :
    k.shape.Holds (s.get k) := by
  cases k
  case baseDir | logDir => exact holds_ofOption_path _
  case privilegeCommand => exact holds_ofOption_text _
  case jobs =>
    simp only [get, Key.shape]
    cases h : s.jobs with
    | none => exact .countAbsent
    | some n => exact .count n (hj n h)
  all_goals constructor

/-! ## Runs of the field readers -/

section Readers

variable {α : Type} {ws rest : List Char}

theorem run_attempt {r : Reader α} {cs cs' : List Char} {res : Except Error α}
    (h : r.run.run cs = (res, cs')) : (attempt r).run.run cs = (.ok res, cs') := by
  unfold attempt
  simp only [ExceptT.run_lift, StateT.run_map, h]
  rfl

theorem run_getThe (cs : List Char) : (getThe (List Char) : Reader _).run.run cs = (.ok cs, cs) :=
  rfl

theorem closeWith_ok (a : α) : closeWith (.ok a) (.ok ()) = pure a := rfl

theorem run_skipSpace_blank (hws : Blank ws) : skipSpace.run.run ws = (.ok none, []) := by
  rw [← List.append_nil ws, run_skipSpace, List.dropWhile_append_of_pos hws]
  rfl

theorem run_readText (wanted s : String) (hws : Blank ws) :
    (readText wanted).run.run (ws ++ (quoteString s).toList ++ rest) = (.ok s, rest) := by
  unfold readText
  rw [List.append_assoc, quoteString_append, run_bind (run_skipSpace_spaces hws (by decide))]
  simp only
  rw [run_bind (run_bump _ _), run_string]

theorem run_readFlag (b : Bool) (hws : Blank ws) :
    readFlag.run.run (ws ++ (if b then "true" else "false").toList ++ rest) = (.ok b, rest) := by
  unfold readFlag
  cases b
  · rw [show ws ++ (if false = true then "true" else "false").toList ++ rest =
        ws ++ 'f' :: ("alse".toList ++ rest) from by simp, run_bind (run_skipSpace_spaces hws (by decide))]
    simp only
    rw [run_bind (run_bump _ _), run_bind (run_literal _ _)]
    rfl
  · rw [show ws ++ (if true = true then "true" else "false").toList ++ rest =
        ws ++ 't' :: ("rue".toList ++ rest) from by simp, run_bind (run_skipSpace_spaces hws (by decide))]
    simp only
    rw [run_bind (run_bump _ _), run_bind (run_literal _ _)]
    rfl

theorem run_readCount {n : Nat} (hn : n ≤ u64Max) (hws : Blank ws)
    (hrest : EndsNumber rest) :
    readCount.run.run (ws ++ Nat.toDigits 10 n ++ rest) = (.ok n, rest) := by
  obtain ⟨c, cs, heq, hd⟩ := toDigits_eq_cons n
  have hnum : (numberAfterSign true).run.run (c :: (cs ++ rest)) = (.ok (.unsigned n), rest) := by
    refine run_lift ?_
    rw [← List.cons_append, ← heq]
    exact number_toDigits hn hrest
  unfold readCount
  rw [heq, List.append_assoc, List.cons_append,
    run_bind (run_skipSpace_spaces hws (isSpace_of_isDigit hd))]
  split
  · next heq' => cases heq'
  · next heq' =>
    cases heq'
    exact absurd hd (by decide)
  · next c' _ heq' =>
    cases heq'
    rw [if_pos (by rw [digitValue_of_isDigit hd]; rfl), run_bind hnum]
    rfl

theorem run_orAbsent_null (inner : Reader Datum) (hws : Blank ws) :
    (orAbsent inner).run.run (ws ++ "null".toList ++ rest) = (.ok .absent, rest) := by
  unfold orAbsent
  rw [show ws ++ "null".toList ++ rest = ws ++ 'n' :: ("ull".toList ++ rest) from by simp,
    run_bind (run_skipSpace_spaces hws (by decide))]
  simp only
  rw [run_bind (run_bump _ _), run_bind (run_literal _ _)]
  rfl

theorem run_orAbsent_present (inner : Reader Datum) {c : Char} {cs : List Char}
    (hws : Blank ws) (hc : isSpace c = false) (hn : c ≠ 'n') :
    (orAbsent inner).run.run (ws ++ c :: cs) = inner.run.run (c :: cs) := by
  unfold orAbsent
  rw [run_bind (run_skipSpace_spaces hws hc)]
  split
  · next heq => exact absurd (Option.some.inj heq) hn
  · rfl

end Readers

/-! ## Lists -/

/-- The text before an item or an entry: nothing more than its own before the first, and
whitespace and a comma before each later one. -/
def Leads (first : Bool) (t u : List Char) : Prop :=
  if first then t = u else ∃ ws, Blank ws ∧ t = ws ++ ',' :: u

theorem leads_first {t : List Char} : Leads true t t := by
  simp [Leads]

theorem leads_comma {ws u : List Char} (hws : Blank ws) : Leads false (ws ++ ',' :: u) u :=
  ⟨ws, hws, rfl⟩

theorem Leads.length_le {first : Bool} {t u : List Char} (h : Leads first t u) :
    u.length ≤ t.length := by
  cases first
  · obtain ⟨ws, -, rfl⟩ := h
    simp only [List.length_append, List.length_cons]
    omega
  · obtain rfl : t = u := h
    exact Nat.le_refl _

section Lists

variable {ws rest : List Char}

theorem run_nextItem {first : Bool} {t cs : List Char} (hl : Leads first t (ws ++ '"' :: cs))
    (hws : Blank ws) : (nextItem first).run.run t = (.ok (some '"'), '"' :: cs) := by
  unfold nextItem
  cases first
  · obtain ⟨ws₀, hws₀, rfl⟩ := hl
    rw [run_bind (run_skipSpace_spaces hws₀ (by decide))]
    simp only [Bool.false_eq_true, ↓reduceIte]
    rw [run_bind (run_bump _ _), run_bind (run_skipSpace_spaces hws (by decide))]
    rfl
  · obtain rfl : t = ws ++ '"' :: cs := hl
    rw [run_bind (run_skipSpace_spaces hws (by decide))]
    rfl

theorem run_listItems_item {first : Bool} (acc : List String) (f : Nat) {t u t' : List Char}
    {x : String} (hl : Leads first t u) (hx : Spelled u (.str x) t') :
    (listItems first acc (f + 1)).run.run t = (listItems false (x :: acc) f).run.run t' := by
  cases hx with
  | @str ws _ _ hws =>
    rw [List.append_assoc, quoteString_append] at hl
    rw [listItems, run_bind (run_nextItem hl hws)]
    simp only
    rw [← quoteString_append, ← List.nil_append (quoteString x).toList,
      run_bind (run_readText "a string" x Blank.nil)]

theorem run_listItems_end {first : Bool} (acc : List String) (f : Nat) (hws : Blank ws) :
    (listItems first acc (f + 1)).run.run (ws ++ ']' :: rest) = (.ok acc.reverse, ']' :: rest) := by
  have hnext : (nextItem first).run.run (ws ++ ']' :: rest) = (.ok none, ']' :: rest) := by
    unfold nextItem
    rw [run_bind (run_skipSpace_spaces hws (by decide))]
    rfl
  rw [listItems, run_bind hnext]
  rfl

/-- The items of a list of texts after its opening bracket are read in order, while the steps
left outnumber the characters left: each item takes at least one. -/
theorem run_listItems (r : List Char) :
    ∀ (xs : List String) (x : String) (first : Bool) (acc : List String) (fuel : Nat)
      {t u t' : List Char}, Leads first t u → Spelled u (.str x) t' →
      ItemsAfter t' (xs.map .str) r → t.length < r.length + fuel →
      (listItems first acc fuel).run.run t = (.ok (acc.reverse ++ x :: xs), ']' :: r)
  | [], x, first, acc, fuel, t, u, t', hl, hx, hxs, hlen => by
    have hu := hx.length_lt
    have ht := hxs.length_lt
    have hlu := hl.length_le
    obtain ⟨f, rfl⟩ : ∃ f, fuel = f + 2 := ⟨fuel - 2, by omega⟩
    rw [List.map_nil] at hxs
    cases hxs with
    | close hws =>
      rw [run_listItems_item acc (f + 1) hl hx, run_listItems_end _ _ hws, List.reverse_cons]
  | y :: ys, x, first, acc, fuel, t, u, t', hl, hx, hxs, hlen => by
    have hu := hx.length_lt
    have hlu := hl.length_le
    obtain ⟨f, rfl⟩ : ∃ f, fuel = f + 1 := ⟨fuel - 1, by
      have := hxs.length_lt
      omega⟩
    rw [List.map_cons] at hxs
    cases hxs with
    | @next ws₁ t₂ t₃ _ _ _ hws hy hys =>
      have hy₁ := hy.length_lt
      rw [run_listItems_item acc f hl hx, run_listItems r ys y false (x :: acc) f (leads_comma hws)
        hy hys (by
          have := hys.length_lt
          simp only [List.length_append, List.length_cons] at hu hy₁ ⊢
          omega),
        List.reverse_cons, List.append_assoc, List.singleton_append]

theorem run_closeArray (rest : List Char) : closeArray.run.run (']' :: rest) = (.ok (), rest) := by
  unfold closeArray
  rw [run_bind (run_skipSpace_cons (by decide))]
  rfl

/-- Past its whitespace and its opening bracket, a list is read by reading its items and then
its closing bracket. -/
theorem run_readList_items {t r : List Char} {xs : List String} (hws : Blank ws)
    (hbody : (listItems true [] (t.length + 1)).run.run t = (.ok xs, ']' :: r)) :
    readList.run.run (ws ++ '[' :: t) = (.ok xs, r) := by
  unfold readList
  rw [run_bind (run_skipSpace_spaces hws (by decide))]
  simp only
  rw [run_bind (run_bump _ _), run_bind (run_getThe _), run_bind (run_attempt hbody),
    run_bind (run_attempt (run_closeArray r)), closeWith_ok]
  rfl

theorem run_readList {xs : List String} {t r : List Char} (hsp : Spelled t (.arr (xs.map .str)) r) :
    readList.run.run t = (.ok xs, r) := by
  cases xs with
  | nil =>
    rw [List.map_nil] at hsp
    cases hsp with
    | arrEmpty hws hws' => exact run_readList_items hws (run_listItems_end [] _ hws')
  | cons x xs =>
    rw [List.map_cons] at hsp
    cases hsp with
    | arr hws hx hxs =>
      exact run_readList_items hws (run_listItems r xs x true [] _ leads_first hx hxs (by omega))

end Lists

/-! ## Fields -/

/-- A field's datum is read from every JSON text of its value. -/
theorem run_readDatum {shape : Shape} {d : Datum} (h : shape.Holds d) {t r : List Char}
    (hsp : Spelled t d.toValue r) : (readDatum shape).run.run t = (.ok d, r) := by
  cases h with
  | path s | text s =>
    cases hsp with
    | str _ hws =>
      rw [readDatum, run_bind (run_readText _ s hws)]
      rfl
  | optPath s | optText s =>
    cases hsp with
    | @str ws _ _ hws =>
      rw [readDatum, List.append_assoc, quoteString_append,
        run_orAbsent_present _ hws (by decide) (by decide), ← quoteString_append,
        ← List.nil_append (quoteString s).toList, run_bind (run_readText _ s Blank.nil)]
      rfl
  | optPathAbsent | optTextAbsent | countAbsent =>
    cases hsp with
    | null hws => exact run_orAbsent_null _ hws
  | flag b =>
    cases hsp with
    | bool _ hws =>
      rw [readDatum, run_bind (run_readFlag b hws)]
      rfl
  | textList xs =>
    rw [readDatum, run_bind (run_readList hsp)]
    rfl
  | count n hn =>
    cases hsp with
    | @num ws _ _ hws _ hrest =>
      have htext : (Number.unsigned n).render.toList = Nat.toDigits 10 n := by
        simp [Number.render, Nat.toString_eq_repr, Nat.toList_repr]
      obtain ⟨c, cs, heq, hd⟩ := toDigits_eq_cons n
      have hcount : readCount.run.run (c :: (cs ++ r)) = (.ok n, r) := by
        rw [← List.cons_append, ← heq, ← List.nil_append (Nat.toDigits 10 n)]
        exact run_readCount hn Blank.nil hrest
      rw [readDatum, htext, heq, List.append_assoc, List.cons_append,
        run_orAbsent_present _ hws (isSpace_of_isDigit hd)
          (fun hn' => absurd hd (by rw [hn']; decide)),
        run_bind hcount]
      rfl

/-! ## The object -/

section Entries

variable {ws : List Char}

theorem ofName?_name (k : Key) : Key.ofName? k.name = some k := by
  cases k <;> rfl

theorem run_colon (hws : Blank ws) (cs : List Char) : colon.run.run (ws ++ ':' :: cs) = (.ok (), cs) := by
  unfold colon
  rw [run_bind (run_skipSpace_spaces hws (by decide))]
  rfl

theorem run_nextKey {first : Bool} {t : List Char} (name : String) (more : List Char)
    (hl : Leads first t (ws ++ (quoteString name).toList ++ more)) (hws : Blank ws) :
    (nextKey first).run.run t = (.ok (some name), more) := by
  have hkey : (keyStart (some '"')).run.run ('"' :: (name.toList.flatMap escapeChar ++ '"' :: more)) =
      (.ok (some name), more) := by
    unfold keyStart
    simp only
    rw [run_bind (run_bump _ _), run_bind (run_string name more)]
    rfl
  rw [List.append_assoc, quoteString_append] at hl
  unfold nextKey
  cases first
  · obtain ⟨ws₀, hws₀, rfl⟩ := hl
    rw [run_bind (run_skipSpace_spaces hws₀ (by decide))]
    simp only [Bool.false_eq_true, ↓reduceIte]
    rw [run_bind (run_bump _ _), run_bind (run_skipSpace_spaces hws (by decide))]
    exact hkey
  · obtain rfl : t = _ := hl
    rw [run_bind (run_skipSpace_spaces hws (by decide))]
    exact hkey

/-- An entry whose key names a field not read before sets the field to the datum its value
spells. -/
theorem run_objectEntries_entry {first : Bool} (seen : List Key) (acc : Settings) (f : Nat)
    {t u t' : List Char} {k : Key} {d : Datum} (hl : Leads first t u) (he : Entry u (k.name, d.toValue) t')
    (hk : k ∉ seen) (hd : k.shape.Holds d) :
    (objectEntries first seen acc (f + 1)).run.run t =
      (objectEntries false (k :: seen) (acc.set k d) f).run.run t' := by
  cases he with
  | @mk ws₁ ws₂ tv _ _ _ hws₁ hws₂ hv =>
    rw [List.append_assoc] at hl
    rw [objectEntries, run_bind (run_nextKey k.name _ hl hws₁)]
    simp only
    rw [ofName?_name]
    simp only
    rw [if_neg (by simpa using hk), run_bind (run_colon hws₂ _), run_bind (run_readDatum hd hv)]

theorem run_objectEntries_end {first : Bool} (seen : List Key) (acc : Settings) (f : Nat)
    (rest : List Char) (hws : Blank ws) :
    (objectEntries first seen acc (f + 1)).run.run (ws ++ '}' :: rest) = (.ok acc, '}' :: rest) := by
  have hnext : (nextKey first).run.run (ws ++ '}' :: rest) = (.ok none, '}' :: rest) := by
    unfold nextKey
    rw [run_bind (run_skipSpace_spaces hws (by decide))]
    rfl
  rw [objectEntries, run_bind hnext]
  rfl

theorem foldl_set_get (s acc : Settings) :
    Key.all.foldl (fun a x => a.set x (s.get x)) acc = s := by
  obtain ⟨baseDir, _, _, _, _, _, privilegeCommand, _, _, _, _, jobs, _, _, _, _, logDir⟩ := s
  cases baseDir <;> cases privilegeCommand <;> cases jobs <;> cases logDir <;> rfl

end Entries

theorem run_closeObject (rest : List Char) : closeObject.run.run ('}' :: rest) = (.ok (), rest) := by
  unfold closeObject
  rw [run_bind (run_skipSpace_cons (by decide))]
  rfl

end BoardSetup.Settings

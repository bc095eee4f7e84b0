import BoardSetup.Proofs.JsonReadBack

/-!
# JSON texts and skipping a value

`Spelled t v r` is the grammar of JSON texts: `t` starts with a text of the value `v`, with any
whitespace before each token, and goes on with `r`. Numbers follow JSON's own grammar
(`NumberText`): an optional minus, an integer part with no leading zero, an optional fraction
and an optional exponent. Integers are always written so; a double is written so when its
shortest digits make a number of that grammar. The pretty layout is one spelling among many
(`spelled_pretty`).

The reader passes over a value it does not need with `skipValue`, which checks the syntax and
keeps nothing: every spelled value is passed over whole (`run_skipValue`).
-/

namespace BoardSetup.Json

open Reader

/-! ## The grammar of a number -/

/-- The integer part of a number: `0`, or a digit other than `0` and more digits. -/
inductive IntText : List Char → Prop
  | zero : IntText ['0']
  | digits (d : Char) (ds : List Char) (hd : d.isDigit = true) (hz : d ≠ '0')
      (hds : ∀ c ∈ ds, c.isDigit = true) : IntText (d :: ds)

/-- The fraction of a number: nothing, or a point and at least one digit. -/
inductive FracText : List Char → Prop
  | none : FracText []
  | point (ds : List Char) (hne : ds ≠ []) (hds : ∀ c ∈ ds, c.isDigit = true) :
      FracText ('.' :: ds)

/-- The exponent of a number: nothing, or `e` or `E`, an optional sign and at least one digit. -/
inductive ExpText : List Char → Prop
  | none : ExpText []
  | exp (e : Char) (sign ds : List Char) (he : e = 'e' ∨ e = 'E')
      (hs : sign = [] ∨ sign = ['+'] ∨ sign = ['-']) (hne : ds ≠ [])
      (hds : ∀ c ∈ ds, c.isDigit = true) : ExpText (e :: (sign ++ ds))

/-- A JSON number: an optional minus, the integer part, the fraction and the exponent. -/
inductive NumberText : List Char → Prop
  | mk (sign int frac exp : List Char) (hs : sign = [] ∨ sign = ['-']) (hi : IntText int)
      (hf : FracText frac) (he : ExpText exp) : NumberText (sign ++ (int ++ (frac ++ exp)))

/-! ## Skipping a number -/

section Numbers

variable {rest : List Char}

theorem isSome_digitValue (c : Char) : (digitValue c).isSome = c.isDigit := by
  unfold digitValue Char.isDigit
  split
  · next h => simp [Char.le_def] at h ⊢; omega
  · next h => simp [Char.le_def] at h ⊢; omega

theorem ne_of_isDigit {c : Char} (hc : c.isDigit = true) {x : Char} (hx : x.isDigit = false) :
    c ≠ x := by
  rintro rfl
  rw [hc] at hx
  cases hx

theorem dropWhile_digits {ds : List Char} (hds : ∀ c ∈ ds, c.isDigit = true)
    (hr : ∀ c ∈ rest.head?, digitValue c = none) :
    (ds ++ rest).dropWhile (fun c => (digitValue c).isSome) = rest := by
  rw [List.dropWhile_append_of_pos (fun c hc => by rw [isSome_digitValue]; exact hds c hc)]
  cases rest with
  | nil => rfl
  | cons c r => rw [List.dropWhile_cons_of_neg (by simp [hr c rfl])]

theorem takeWhile_digits {ds : List Char} (hds : ∀ c ∈ ds, c.isDigit = true)
    (hr : ∀ c ∈ rest.head?, digitValue c = none) :
    (ds ++ rest).takeWhile (fun c => (digitValue c).isSome) = ds := by
  rw [List.takeWhile_append_of_pos (fun c hc => by rw [isSome_digitValue]; exact hds c hc)]
  cases rest with
  | nil => rw [List.takeWhile_nil, List.append_nil]
  | cons c r => rw [List.takeWhile_cons_of_neg (by simp [hr c rfl]), List.append_nil]

theorem skipExponent_digits (e : Char) {sign : List Char}
    (hs : sign = [] ∨ sign = ['+'] ∨ sign = ['-']) {d : Char} (hd : d.isDigit = true)
    (r : List Char) :
    skipExponent (e :: (sign ++ d :: r)) =
      .ok ((), r.dropWhile (fun c => (digitValue c).isSome)) := by
  have hd' : (digitValue d).isSome = true := by rw [isSome_digitValue]; exact hd
  unfold skipExponent
  simp only [List.drop_succ_cons, List.drop_zero]
  rcases hs with rfl | rfl | rfl
  · -- no sign: the digit is not taken for one
    rw [List.nil_append]
    split
    · next heq =>
      split at heq
      · next h => cases h; exact absurd hd (by decide)
      · next h => cases h; exact absurd hd (by decide)
      · cases heq
        rw [if_pos hd']
    · next heq =>
      split at heq <;> simp_all
  · simp only [List.cons_append, List.nil_append]
    rw [if_pos hd']
  · simp only [List.cons_append, List.nil_append]
    rw [if_pos hd']

theorem skip_exponent {exp : List Char} (he : ExpText exp) (hr : EndsNumber rest) :
    (if startsExponent (exp ++ rest) then skipExponent (exp ++ rest) else .ok ((), exp ++ rest)) =
      .ok ((), rest) := by
  cases he with
  | none =>
    have hstarts : startsExponent rest = false := by
      cases rest with
      | nil => rfl
      | cons c r =>
        obtain ⟨-, -, he, hE⟩ := hr c rfl
        unfold startsExponent
        split <;> simp_all
    rw [List.nil_append, if_neg (by rw [hstarts]; decide)]
  | exp e sign ds he hs hne hds =>
    obtain ⟨d, ds', rfl⟩ := List.exists_cons_of_ne_nil hne
    have hstarts : startsExponent (e :: (sign ++ d :: ds') ++ rest) = true := by
      rcases he with rfl | rfl <;> rfl
    rw [if_pos hstarts, List.cons_append, List.append_assoc, List.cons_append,
      skipExponent_digits e hs (hds d List.mem_cons_self),
      dropWhile_digits (fun c hc => hds c (List.mem_cons_of_mem d hc)) (fun c hc => (hr c hc).1)]

theorem headNotDigit {frac exp : List Char} (hf : FracText frac) (he : ExpText exp)
    (hr : EndsNumber rest) : ∀ c ∈ (frac ++ (exp ++ rest)).head?, digitValue c = none := by
  cases hf with
  | point => intro c hc; cases hc; rfl
  | none =>
    cases he with
    | none => exact fun c hc => (hr c hc).1
    | exp e _ _ he =>
      intro c hc
      cases hc
      rcases he with rfl | rfl <;> rfl

theorem headNotPoint {exp : List Char} (he : ExpText exp) (hr : EndsNumber rest) :
    ∀ c ∈ (exp ++ rest).head?, c ≠ '.' := by
  cases he with
  | none => exact fun c hc => (hr c hc).2.1
  | exp e _ _ he =>
    intro c hc
    cases hc
    rcases he with rfl | rfl <;> decide

theorem skipNumber_zero {frac exp : List Char} (hf : FracText frac) (he : ExpText exp)
    (hr : EndsNumber rest) : skipNumber ('0' :: (frac ++ (exp ++ rest))) = .ok ((), rest) := by
  have ht := headNotDigit hf he hr
  unfold skipNumber
  cases hf with
  | point ds hne hds =>
    -- the digits after the point are taken, and what follows them is the exponent
    have hds' : (ds ++ (exp ++ rest)).takeWhile (fun c => (digitValue c).isSome) = ds :=
      takeWhile_digits hds (headNotDigit .none he hr)
    have hempty : ds.isEmpty = false := List.isEmpty_eq_false_iff.2 hne
    simp only [List.cons_append, ht '.' rfl, Option.isSome_none, Bool.false_eq_true, ↓reduceIte,
      hds', hempty, List.drop_left]
    exact skip_exponent he hr
  | none =>
    rw [List.nil_append] at ht ⊢
    cases htail : exp ++ rest with
    | nil =>
      obtain ⟨rfl, rfl⟩ := List.append_eq_nil_iff.1 htail
      rfl
    | cons c r =>
      simp only [ht c (by rw [htail]; rfl), Option.isSome_none, Bool.false_eq_true, ↓reduceIte]
      split
      · next heq => exact absurd (List.cons.inj heq).1 (headNotPoint he hr c (by rw [htail]; rfl))
      · rw [← htail]
        exact skip_exponent he hr

/-- An integer part is passed over as `0` is: both leave the text after them, which starts with no
digit. -/
theorem skipNumber_int {int tail : List Char} (hi : IntText int)
    (ht : ∀ c ∈ tail.head?, digitValue c = none) :
    skipNumber (int ++ tail) = skipNumber ('0' :: tail) := by
  cases hi with
  | zero => rfl
  | digits d ds hd hz hds =>
    have hd' : (digitValue d).isSome = true := by rw [isSome_digitValue]; exact hd
    rw [List.cons_append]
    unfold skipNumber
    split
    · next heq => exact absurd (List.cons.inj heq).1 hz
    · next h =>
      cases h
      simp only [hd', dropWhile_digits hds ht, ↓reduceIte]
      cases tail with
      | nil => rfl
      | cons c r => simp only [ht c rfl, Option.isSome_none, Bool.false_eq_true, ↓reduceIte]
    · next h => cases h

theorem skipNumber_text {int frac exp : List Char} (hi : IntText int) (hf : FracText frac)
    (he : ExpText exp) (hr : EndsNumber rest) :
    skipNumber (int ++ (frac ++ (exp ++ rest))) = .ok ((), rest) := by
  rw [skipNumber_int hi (headNotDigit hf he hr)]
  exact skipNumber_zero hf he hr

end Numbers

/-! ## Skipping a string -/

section Strings

theorem skipStringBody_escapeChar (c : Char) (tail : List Char) :
    skipStringBody (escapeChar c ++ tail) = skipStringBody tail := by
  unfold escapeChar
  split
  case h_8 hq hb _ _ _ _ _ =>
    split
    · next hc =>
      simp only [List.cons_append, List.nil_append]
      rw [skipStringBody.eq_3, hex4_control hc]
    · next hc =>
      rw [List.singleton_append, skipStringBody.eq_7 _ _ hq (fun _ h => absurd h hb)
        (fun _ _ h => absurd h hb) (fun h => absurd h hb), if_neg hc]
  all_goals
    simp only [List.cons_append, List.nil_append]
    rw [skipStringBody.eq_5 _ _ (by decide)]
    rfl

theorem skipStringBody_escaped (cs rest : List Char) :
    skipStringBody (cs.flatMap escapeChar ++ '"' :: rest) = .ok ((), rest) := by
  induction cs with
  | nil => rw [List.flatMap_nil, List.nil_append, skipStringBody]
  | cons c cs ih => rw [List.flatMap_cons, List.append_assoc, skipStringBody_escapeChar, ih]

end Strings

/-! ## Values written as JSON -/

/-- Every number of the value is written in the grammar of JSON numbers. -/
inductive Value.Written : Value → Prop
  | null : Value.Written .null
  | bool (b : Bool) : Value.Written (.bool b)
  | num (n : Number) (h : NumberText n.render.toList) : Value.Written (.num n)
  | str (s : String) : Value.Written (.str s)
  | arr (xs : List Value) (h : ∀ x ∈ xs, Value.Written x) : Value.Written (.arr xs)
  | obj (kvs : List (String × Value)) (h : ∀ kv ∈ kvs, Value.Written kv.2) :
      Value.Written (.obj kvs)

section Written

theorem intText_toDigits (n : Nat) : IntText (Nat.toDigits 10 n) := by
  have hdigits : ∀ c ∈ Nat.toDigits 10 n, c.isDigit = true :=
    fun c hc => Nat.isDigit_of_mem_toDigits (by omega) (by omega) hc
  rcases Nat.eq_zero_or_pos n with rfl | hpos
  · exact .zero
  · obtain ⟨c, cs, heq, hc⟩ := toDigits_head n hpos
    rw [heq] at hdigits ⊢
    exact .digits c cs (hdigits c List.mem_cons_self) hc
      (fun x hx => hdigits x (List.mem_cons_of_mem c hx))

theorem numberText_toDigits {sign : List Char} (hs : sign = [] ∨ sign = ['-']) (n : Nat) :
    NumberText (sign ++ Nat.toDigits 10 n) := by
  have h := NumberText.mk sign _ [] [] hs (intText_toDigits n) .none .none
  rwa [List.nil_append, List.append_nil] at h

theorem numberText_unsigned (n : Nat) : NumberText (Number.unsigned n).render.toList := by
  have h := numberText_toDigits (Or.inl rfl) n
  rwa [List.nil_append, ← Nat.toList_repr, ← Nat.toString_eq_repr] at h

theorem numberText_negative (n : Int) : NumberText (Number.negative n).render.toList := by
  cases n with
  | ofNat m =>
    have h := numberText_toDigits (Or.inl rfl) m
    rw [List.nil_append] at h
    simpa [Number.render, toString, Int.repr] using h
  | negSucc m =>
    have h := numberText_toDigits (Or.inr rfl) (m + 1)
    simpa [Number.render, toString, Int.repr] using h

theorem NumberText.head {cs : List Char} (h : NumberText cs) :
    ∃ c rest, cs = c :: rest ∧ (c = '-' ∨ c.isDigit = true) := by
  cases h with
  | mk sign int frac exp hs hi =>
    rcases hs with rfl | rfl
    · cases hi with
      | zero => exact ⟨'0', _, rfl, Or.inr rfl⟩
      | digits d ds hd => exact ⟨d, _, rfl, Or.inr hd⟩
    · exact ⟨'-', _, rfl, Or.inl rfl⟩

end Written

/-! ## JSON texts -/

/-- The whitespace JSON allows around its tokens. -/
def Blank (ws : List Char) : Prop := ∀ c ∈ ws, isSpace c = true

theorem Blank.nil : Blank [] := fun _ h => nomatch h

theorem Blank.append {ws ws' : List Char} (h : Blank ws) (h' : Blank ws') : Blank (ws ++ ws') := by
  intro c hc
  rcases List.mem_append.1 hc with hc | hc
  · exact h c hc
  · exact h' c hc

theorem Blank.space : Blank [' '] := spaces_cons rfl Blank.nil

theorem blank_newline (level : Nat) : Blank ('\n' :: (indentation level).toList) :=
  spaces_cons rfl (toList_indentation level ▸ spaces_replicate _)

mutual

/-- `Spelled t v r`: the text `t` starts with a JSON text of `v`, after whitespace, and goes on
with `r`. Whitespace may stand before every token; strings and keys are spelled as JSON writes
them, and numbers in the grammar of JSON numbers, ending where no digit, point or exponent
follows. -/
inductive Spelled : List Char → Value → List Char → Prop
  | null {ws r : List Char} : Blank ws → Spelled (ws ++ "null".toList ++ r) .null r
  | bool {ws r : List Char} (b : Bool) : Blank ws →
      Spelled (ws ++ (if b then "true" else "false").toList ++ r) (.bool b) r
  | num {ws r : List Char} (n : Number) : Blank ws → NumberText n.render.toList → EndsNumber r →
      Spelled (ws ++ n.render.toList ++ r) (.num n) r
  | str {ws r : List Char} (s : String) : Blank ws →
      Spelled (ws ++ (quoteString s).toList ++ r) (.str s) r
  | arrEmpty {ws ws' r : List Char} : Blank ws → Blank ws' →
      Spelled (ws ++ '[' :: (ws' ++ ']' :: r)) (.arr []) r
  | arr {ws t t' r : List Char} {x : Value} {xs : List Value} : Blank ws → Spelled t x t' →
      ItemsAfter t' xs r → Spelled (ws ++ '[' :: t) (.arr (x :: xs)) r
  | objEmpty {ws ws' r : List Char} : Blank ws → Blank ws' →
      Spelled (ws ++ '{' :: (ws' ++ '}' :: r)) (.obj []) r
  | obj {ws t t' r : List Char} {kv : String × Value} {kvs : List (String × Value)} : Blank ws →
      Entry t kv t' → EntriesAfter t' kvs r → Spelled (ws ++ '{' :: t) (.obj (kv :: kvs)) r

/-- An entry of an object: its key, a colon and its value, with whitespace before each. -/
inductive Entry : List Char → String × Value → List Char → Prop
  | mk {ws ws' t r : List Char} {k : String} {v : Value} : Blank ws → Blank ws' → Spelled t v r →
      Entry (ws ++ (quoteString k).toList ++ ws' ++ ':' :: t) (k, v) r

/-- The items of an array after its first, each after a comma, and the closing bracket. -/
inductive ItemsAfter : List Char → List Value → List Char → Prop
  | close {ws r : List Char} : Blank ws → ItemsAfter (ws ++ ']' :: r) [] r
  | next {ws t t' r : List Char} {x : Value} {xs : List Value} : Blank ws → Spelled t x t' →
      ItemsAfter t' xs r → ItemsAfter (ws ++ ',' :: t) (x :: xs) r

/-- The entries of an object after its first, each after a comma, and the closing brace. -/
inductive EntriesAfter : List Char → List (String × Value) → List Char → Prop
  | close {ws r : List Char} : Blank ws → EntriesAfter (ws ++ '}' :: r) [] r
  | next {ws t t' r : List Char} {kv : String × Value} {kvs : List (String × Value)} : Blank ws →
      Entry t kv t' → EntriesAfter t' kvs r → EntriesAfter (ws ++ ',' :: t) (kv :: kvs) r

end

/-- A JSON document: a JSON text of the value, and nothing after it but whitespace. -/
def Document (t : List Char) (v : Value) : Prop :=
  ∃ ws, Spelled t v ws ∧ Blank ws

mutual

theorem Spelled.length_lt {t r : List Char} {v : Value} : Spelled t v r → r.length < t.length
  | .null _ => by simp; omega
  | .bool b _ => by cases b <;> simp <;> omega
  | .num _ _ hn _ => by
    obtain ⟨c, cs, heq, -⟩ := hn.head
    simp only [List.length_append, heq, List.length_cons]
    omega
  | .str _ _ => by
    simp only [List.length_append, toList_quoteString, List.length_cons]
    omega
  | .arrEmpty _ _ => by
    simp only [List.length_append, List.length_cons]
    omega
  | .arr _ hx hxs => by
    have := hx.length_lt
    have := hxs.length_lt
    simp only [List.length_append, List.length_cons]
    omega
  | .objEmpty _ _ => by
    simp only [List.length_append, List.length_cons]
    omega
  | .obj _ he hes => by
    have := he.length_lt
    have := hes.length_lt
    simp only [List.length_append, List.length_cons]
    omega

theorem Entry.length_lt {t r : List Char} {kv : String × Value} : Entry t kv r → r.length < t.length
  | .mk _ _ hv => by
    have := hv.length_lt
    simp only [List.length_append, List.length_cons]
    omega

theorem ItemsAfter.length_lt {t r : List Char} {xs : List Value} :
    ItemsAfter t xs r → r.length < t.length
  | .close _ => by
    simp only [List.length_append, List.length_cons]
    omega
  | .next _ hx hxs => by
    have := hx.length_lt
    have := hxs.length_lt
    simp only [List.length_append, List.length_cons]
    omega

theorem EntriesAfter.length_lt {t r : List Char} {kvs : List (String × Value)} :
    EntriesAfter t kvs r → r.length < t.length
  | .close _ => by
    simp only [List.length_append, List.length_cons]
    omega
  | .next _ he hes => by
    have := he.length_lt
    have := hes.length_lt
    simp only [List.length_append, List.length_cons]
    omega

end

section Texts

variable {t r : List Char} {v : Value}

theorem quoteString_append (s : String) (rest : List Char) :
    (quoteString s).toList ++ rest = '"' :: (s.toList.flatMap escapeChar ++ '"' :: rest) := by
  simp [toList_quoteString]

/-- Whitespace before a spelled value is part of its text. -/
theorem Spelled.blank {ws : List Char} (hws : Blank ws) (h : Spelled t v r) : Spelled (ws ++ t) v r := by
  cases h with
  | null h => simpa only [List.append_assoc] using @Spelled.null _ r (hws.append h)
  | bool b h => simpa only [List.append_assoc] using @Spelled.bool _ r b (hws.append h)
  | num n h hn hr => simpa only [List.append_assoc] using Spelled.num n (hws.append h) hn hr
  | str s h => simpa only [List.append_assoc] using @Spelled.str _ r s (hws.append h)
  | arrEmpty h h' => simpa only [List.append_assoc] using @Spelled.arrEmpty _ _ r (hws.append h) h'
  | arr h hx hxs => simpa only [List.append_assoc] using Spelled.arr (hws.append h) hx hxs
  | objEmpty h h' => simpa only [List.append_assoc] using @Spelled.objEmpty _ _ r (hws.append h) h'
  | obj h he hes => simpa only [List.append_assoc] using Spelled.obj (hws.append h) he hes

/-- A number starts with no whitespace and closes nothing. -/
theorem numberStart_plain {c : Char} (hc : c = '-' ∨ c.isDigit = true) :
    isSpace c = false ∧ c ≠ ']' ∧ c ≠ '}' := by
  rcases hc with rfl | hd
  · decide
  · exact ⟨isSpace_of_isDigit hd, ne_of_isDigit hd rfl, ne_of_isDigit hd rfl⟩

/-- A spelled value starts, after its whitespace, with a character that is no whitespace and
closes nothing, and the text from there spells it too. -/
theorem Spelled.strip (h : Spelled t v r) :
    ∃ ws c cs, t = ws ++ c :: cs ∧ Blank ws ∧ isSpace c = false ∧ c ≠ ']' ∧ c ≠ '}' ∧
      Spelled (c :: cs) v r := by
  cases h with
  | null h => exact ⟨_, 'n', "ull".toList ++ r, by simp, h, rfl, by decide, by decide, @Spelled.null [] r Blank.nil⟩
  | bool b h =>
    cases b
    · exact ⟨_, 'f', "alse".toList ++ r, by simp, h, rfl, by decide, by decide,
        @Spelled.bool [] r false Blank.nil⟩
    · exact ⟨_, 't', "rue".toList ++ r, by simp, h, rfl, by decide, by decide,
        @Spelled.bool [] r true Blank.nil⟩
  | num n h hn hr =>
    obtain ⟨c, cs, heq, hc⟩ := hn.head
    obtain ⟨hsp, hbr, hbc⟩ := numberStart_plain hc
    have hnum := @Spelled.num [] r n Blank.nil hn hr
    rw [List.nil_append, heq] at hnum
    exact ⟨_, c, cs ++ r, by rw [heq]; simp, h, hsp, hbr, hbc, hnum⟩
  | str s h =>
    have hstr := @Spelled.str [] r s Blank.nil
    rw [List.nil_append, quoteString_append] at hstr
    exact ⟨_, '"', _, by rw [List.append_assoc, quoteString_append], h, rfl, by decide, by decide,
      hstr⟩
  | arrEmpty h h' => exact ⟨_, '[', _, rfl, h, rfl, by decide, by decide, .arrEmpty Blank.nil h'⟩
  | arr h hx hxs => exact ⟨_, '[', _, rfl, h, rfl, by decide, by decide, .arr Blank.nil hx hxs⟩
  | objEmpty h h' => exact ⟨_, '{', _, rfl, h, rfl, by decide, by decide, .objEmpty Blank.nil h'⟩
  | obj h he hes => exact ⟨_, '{', _, rfl, h, rfl, by decide, by decide, .obj Blank.nil he hes⟩

/-- An entry starts, after its whitespace, with the quote of its key. -/
theorem Entry.strip {kv : String × Value} (h : Entry t kv r) :
    ∃ ws cs, t = ws ++ '"' :: cs ∧ Blank ws ∧ Entry ('"' :: cs) kv r := by
  cases h with
  | @mk ws ws' tv _ k _ h h' hv =>
    have he := @Entry.mk [] ws' tv _ k _ Blank.nil h' hv
    simp only [List.nil_append, List.append_assoc, List.cons_append, quoteString_append] at he
    exact ⟨ws, k.toList.flatMap escapeChar ++ '"' :: (ws' ++ ':' :: tv),
      by simp only [List.append_assoc, List.cons_append, quoteString_append], h, he⟩

end Texts

/-! ## Pretty texts -/

section Pretty

theorem prettyItems_cons (level : Nat) (x : Value) (xs : List Value) :
    Value.prettyItems level (x :: xs) = indentation level ++ x.pretty level ++
      (if xs = [] then "" else ",\n" ++ Value.prettyItems level xs) := by
  cases xs with
  | nil => simp [Value.prettyItems]
  | cons y ys => rw [Value.prettyItems.eq_3 _ _ _ (by simp), if_neg (by simp), String.append_assoc]

theorem prettyEntries_cons (level : Nat) (k : String) (v : Value) (kvs : List (String × Value)) :
    Value.prettyEntries level ((k, v) :: kvs) =
      indentation level ++ quoteString k ++ ": " ++ v.pretty level ++
        (if kvs = [] then "" else ",\n" ++ Value.prettyEntries level kvs) := by
  cases kvs with
  | nil => simp [Value.prettyEntries]
  | cons kv kvs =>
    rw [Value.prettyEntries.eq_3 _ _ _ _ (by simp), if_neg (by simp), String.append_assoc]

theorem endsNumber_after {α : Type} (xs : List α) (more : String) (cs : List Char) :
    EndsNumber ((if xs = [] then "" else ",\n" ++ more).toList ++ '\n' :: cs) := by
  cases xs with
  | nil =>
    rw [if_pos rfl]
    simpa using endsNumber_cons (c := '\n') (by decide) cs
  | cons =>
    rw [if_neg (List.cons_ne_nil _ _)]
    simpa using endsNumber_cons (c := ',') (by decide) ('\n' :: (more.toList ++ '\n' :: cs))

theorem spelled_pretty_items (level : Nat) (r : List Char) :
    ∀ xs : List Value, (∀ x ∈ xs, ∀ {r : List Char}, EndsNumber r →
        Spelled ((x.pretty (level + 1)).toList ++ r) x r) →
      ItemsAfter ((if xs = [] then "" else ",\n" ++ Value.prettyItems (level + 1) xs).toList ++
        '\n' :: ((indentation level).toList ++ ']' :: r)) xs r
  | [], _ => by
    rw [if_pos rfl, String.toList_empty, List.nil_append, ← List.cons_append]
    exact .close (blank_newline level)
  | y :: ys, hall => by
    have hys := spelled_pretty_items level r ys fun x hx => hall x (List.mem_cons_of_mem y hx)
    have hy := (hall y List.mem_cons_self (endsNumber_after ys (Value.prettyItems (level + 1) ys)
      ((indentation level).toList ++ ']' :: r))).blank (blank_newline (level + 1))
    rw [if_neg (List.cons_ne_nil _ _), prettyItems_cons]
    simpa [List.append_assoc] using ItemsAfter.next Blank.nil hy hys

theorem spelled_pretty_entries (level : Nat) (r : List Char) :
    ∀ kvs : List (String × Value), (∀ kv ∈ kvs, ∀ {r : List Char}, EndsNumber r →
        Spelled ((kv.2.pretty (level + 1)).toList ++ r) kv.2 r) →
      EntriesAfter ((if kvs = [] then "" else ",\n" ++ Value.prettyEntries (level + 1) kvs).toList ++
        '\n' :: ((indentation level).toList ++ '}' :: r)) kvs r
  | [], _ => by
    rw [if_pos rfl, String.toList_empty, List.nil_append, ← List.cons_append]
    exact .close (blank_newline level)
  | (k, v) :: kvs, hall => by
    have hkvs := spelled_pretty_entries level r kvs fun kv hkv => hall kv (List.mem_cons_of_mem _ hkv)
    have hv := (hall (k, v) List.mem_cons_self (endsNumber_after kvs
      (Value.prettyEntries (level + 1) kvs) ((indentation level).toList ++ '}' :: r))).blank
      Blank.space
    have he := Entry.mk (k := k) (blank_newline (level + 1)) Blank.nil hv
    rw [if_neg (List.cons_ne_nil _ _), prettyEntries_cons]
    simpa [List.append_assoc] using EntriesAfter.next Blank.nil he hkvs

/-- The pretty text of a value written as JSON is a JSON text of it. -/
theorem spelled_pretty {v : Value} (hv : v.Written) :
    ∀ (level : Nat) {r : List Char}, EndsNumber r → Spelled ((v.pretty level).toList ++ r) v r := by
  induction hv with
  | null =>
    intro level r _
    simpa [Value.pretty] using @Spelled.null [] r Blank.nil
  | bool b =>
    intro level r _
    simpa [Value.pretty] using @Spelled.bool [] r b Blank.nil
  | num n h =>
    intro level r hr
    simpa [Value.pretty] using @Spelled.num [] r n Blank.nil h hr
  | str s =>
    intro level r _
    simpa [Value.pretty] using @Spelled.str [] r s Blank.nil
  | arr xs _ ih =>
    intro level r _
    cases xs with
    | nil => simpa [Value.pretty] using @Spelled.arrEmpty [] [] r Blank.nil Blank.nil
    | cons x xs =>
      have hitems := spelled_pretty_items level r xs fun y hy => ih y (List.mem_cons_of_mem x hy) _
      have hx := (ih x List.mem_cons_self (level + 1) (endsNumber_after xs
        (Value.prettyItems (level + 1) xs) ((indentation level).toList ++ ']' :: r))).blank
        (blank_newline (level + 1))
      rw [Value.pretty.eq_6, prettyItems_cons]
      simpa [List.append_assoc] using Spelled.arr Blank.nil hx hitems
  | obj kvs _ ih =>
    intro level r _
    cases kvs with
    | nil => simpa [Value.pretty] using @Spelled.objEmpty [] [] r Blank.nil Blank.nil
    | cons kv kvs =>
      obtain ⟨k, v⟩ := kv
      have hentries := spelled_pretty_entries level r kvs
        fun kv hkv => ih kv (List.mem_cons_of_mem _ hkv) _
      have hv := (ih (k, v) List.mem_cons_self (level + 1) (endsNumber_after kvs
        (Value.prettyEntries (level + 1) kvs) ((indentation level).toList ++ '}' :: r))).blank
        Blank.space
      have he := Entry.mk (k := k) (blank_newline (level + 1)) Blank.nil hv
      rw [Value.pretty.eq_8, prettyEntries_cons]
      simpa [List.append_assoc] using Spelled.obj Blank.nil he hentries

theorem document_pretty {v : Value} (hv : v.Written) : Document (v.pretty 0).toList v :=
  ⟨[], by simpa using spelled_pretty hv 0 (r := []) (fun _ h => nomatch h), Blank.nil⟩

end Pretty

/-! ## Skipping a value -/

section Skip

variable {ws rest : List Char}

theorem run_skipValue_digit {c : Char} (hc : c.isDigit = true) (f : Nat) {cs : List Char}
    (hws : Blank ws) :
    (skipValue (f + 1)).run.run (ws ++ c :: cs) = (lift skipNumber).run.run (c :: cs) := by
  rw [skipValue, run_bind (run_skipSpace_spaces hws (isSpace_of_isDigit hc))]
  split
  case h_9 heq =>
    cases heq
    rw [if_pos (by rw [isSome_digitValue]; exact hc)]
  all_goals
    rename_i heq
    cases heq <;> exact absurd hc (by decide)

theorem run_skipValue_word (f : Nat) {c : Char} {w : String} (hws : Blank ws)
    (hw : (c, w) ∈ [('n', "ull"), ('t', "rue"), ('f', "alse")]) :
    (skipValue (f + 1)).run.run (ws ++ (c :: w.toList ++ rest)) = (.ok (), rest) := by
  simp only [List.mem_cons, Prod.mk.injEq, List.not_mem_nil, or_false] at hw
  rcases hw with ⟨rfl, rfl⟩ | ⟨rfl, rfl⟩ | ⟨rfl, rfl⟩ <;>
  · rw [List.cons_append, skipValue, run_bind (run_skipSpace_spaces hws rfl)]
    simp only
    rw [run_bind (run_bump _ _), run_literal]

theorem run_skipValue_number {cs : List Char} (h : NumberText cs) (f : Nat)
    (hws : Blank ws) (hr : EndsNumber rest) :
    (skipValue (f + 1)).run.run (ws ++ (cs ++ rest)) = (.ok (), rest) := by
  cases h with
  | mk sign int frac exp hs hi hf he =>
    have hnum := skipNumber_text hi hf he hr
    rcases hs with rfl | rfl
    · obtain ⟨d, ds, rfl, hd⟩ : ∃ d ds, int = d :: ds ∧ d.isDigit = true := by
        cases hi with
        | zero => exact ⟨'0', [], rfl, rfl⟩
        | digits d ds hd => exact ⟨d, ds, rfl, hd⟩
      simp only [List.nil_append, List.cons_append, List.append_assoc] at hnum ⊢
      rw [run_skipValue_digit hd f hws]
      exact run_lift hnum
    · simp only [List.cons_append, List.nil_append, List.append_assoc] at hnum ⊢
      rw [skipValue, run_bind (run_skipSpace_spaces hws rfl)]
      simp only
      rw [run_bind (run_bump _ _)]
      exact run_lift hnum

theorem run_skipValue_string (f : Nat) (s : String) (hws : Blank ws) :
    (skipValue (f + 1)).run.run (ws ++ (quoteString s).toList ++ rest) = (.ok (), rest) := by
  rw [List.append_assoc, quoteString_append, skipValue, run_bind (run_skipSpace_spaces hws rfl)]
  simp only
  rw [run_bind (run_bump _ _)]
  exact run_lift (skipStringBody_escaped _ _)

mutual

/-- A spelled value is passed over whole while the steps left outnumber the characters it
spans. -/
theorem run_skipValue : ∀ (fuel : Nat) {t : List Char} {v : Value} {r : List Char},
    Spelled t v r → t.length < r.length + fuel → (skipValue fuel).run.run t = (.ok (), r)
  | 0, _, _, _, h, hlen => absurd hlen (by have := h.length_lt; omega)
  | f + 1, _, _, r, h, hlen => by
    cases h with
    | null hws =>
      rw [List.append_assoc, show "null".toList = 'n' :: "ull".toList from rfl]
      exact run_skipValue_word f hws (by simp)
    | bool b hws =>
      rw [List.append_assoc]
      cases b
      · rw [show (if false = true then "true" else "false").toList = 'f' :: "alse".toList from rfl]
        exact run_skipValue_word f hws (by simp)
      · rw [show (if true = true then "true" else "false").toList = 't' :: "rue".toList from rfl]
        exact run_skipValue_word f hws (by simp)
    | num n hws hn hr =>
      rw [List.append_assoc]
      exact run_skipValue_number hn f hws hr
    | str s hws => exact run_skipValue_string f s hws
    | arrEmpty hws hws' =>
      rw [skipValue, run_bind (run_skipSpace_spaces hws rfl)]
      simp only
      rw [run_bind (run_bump _ _), run_bind (run_skipSpace_spaces hws' rfl)]
      rfl
    | arr hws hx hxs =>
      obtain ⟨ws₁, c, cs, rfl, hws₁, hc, hb, -, hx'⟩ := hx.strip
      have hitems : (c :: cs).length < r.length + f := by
        simp only [List.length_append, List.length_cons] at hlen ⊢
        omega
      rw [skipValue, run_bind (run_skipSpace_spaces hws rfl)]
      simp only
      rw [run_bind (run_bump _ _), run_bind (run_skipSpace_spaces hws₁ hc)]
      split
      · next heq => cases heq; exact absurd rfl hb
      · next heq => cases heq
      · exact run_skipItems f hx' hxs hitems
    | objEmpty hws hws' =>
      rw [skipValue, run_bind (run_skipSpace_spaces hws rfl)]
      simp only
      rw [run_bind (run_bump _ _), run_bind (run_skipSpace_spaces hws' rfl)]
      rfl
    | obj hws he hes =>
      obtain ⟨ws₁, cs, rfl, hws₁, he'⟩ := he.strip
      have hentries : ('"' :: cs).length < r.length + f := by
        simp only [List.length_append, List.length_cons] at hlen ⊢
        omega
      rw [skipValue, run_bind (run_skipSpace_spaces hws rfl)]
      simp only
      rw [run_bind (run_bump _ _), run_bind (run_skipSpace_spaces hws₁ rfl)]
      split
      · next heq => exact absurd heq (by decide)
      · next heq => cases heq
      · exact run_skipEntries f he' hes hentries

/-- The items of an array from its first on are passed over through the closing bracket while
the steps left outnumber the characters they span. -/
theorem run_skipItems : ∀ (fuel : Nat) {t t' : List Char} {x : Value} {xs : List Value}
    {r : List Char}, Spelled t x t' → ItemsAfter t' xs r → t.length < r.length + fuel →
    (skipItems fuel).run.run t = (.ok (), r)
  | 0, _, _, _, _, _, hx, hxs, hlen => absurd hlen (by
      have := hx.length_lt
      have := hxs.length_lt
      omega)
  | f + 1, _, _, _, _, r, hx, hxs, hlen => by
    have hx₁ := hx.length_lt
    have hxs₁ := hxs.length_lt
    rw [skipItems, run_bind (run_skipValue f hx (by omega))]
    cases hxs with
    | close hws =>
      rw [run_bind (run_skipSpace_spaces hws rfl)]
      rfl
    | next hws hy hys =>
      have hy₁ := hy.length_lt
      rw [run_bind (run_skipSpace_spaces hws rfl)]
      split
      · next heq =>
        cases heq
        rw [run_bind (run_bump _ _)]
        exact run_skipItems f hy hys (by
          simp only [List.length_append, List.length_cons] at hx₁ hxs₁ ⊢
          omega)
      · next heq => exact absurd heq (by decide)
      · next _ hc _ heq => cases heq; exact absurd rfl hc
      · next heq => cases heq

/-- The entries of an object from its first on are passed over through the closing brace while
the steps left outnumber the characters they span. -/
theorem run_skipEntries : ∀ (fuel : Nat) {t t' : List Char} {kv : String × Value}
    {kvs : List (String × Value)} {r : List Char}, Entry t kv t' → EntriesAfter t' kvs r →
    t.length < r.length + fuel → (skipEntries fuel).run.run t = (.ok (), r)
  | 0, _, _, _, _, _, he, hes, hlen => absurd hlen (by
      have := he.length_lt
      have := hes.length_lt
      omega)
  | f + 1, _, t', _, _, r, he, hes, hlen => by
    have hes₁ := hes.length_lt
    cases he with
    | @mk ws ws' tv _ k v hws hws' hv =>
      have hv₁ := hv.length_lt
      have hvalue : tv.length < t'.length + f := by
        simp only [List.length_append, List.length_cons] at hlen
        omega
      simp only [List.append_assoc, List.cons_append, quoteString_append]
      rw [skipEntries, run_bind (run_skipSpace_spaces hws rfl)]
      simp only
      rw [run_bind (run_bump _ _), run_bind (run_lift (skipStringBody_escaped _ _)),
        run_bind (run_skipSpace_spaces hws' rfl)]
      simp only
      rw [run_bind (run_bump _ _), run_bind (run_skipValue f hv hvalue)]
      cases hes with
      | close hws'' =>
        rw [run_bind (run_skipSpace_spaces hws'' rfl)]
        rfl
      | next hws'' he' hes' =>
        have he₁ := he'.length_lt
        rw [run_bind (run_skipSpace_spaces hws'' rfl)]
        split
        · next heq =>
          rw [run_bind (run_bump _ _)]
          exact run_skipEntries f he' hes' (by
            simp only [List.length_append, List.length_cons] at hlen hv₁ ⊢
            omega)
        · next heq => exact absurd heq (by decide)
        · next _ hc _ heq => cases heq; exact absurd rfl hc
        · next heq => cases heq

end

end Skip

end BoardSetup.Json

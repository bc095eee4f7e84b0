import BoardSetup.Json.Read
import BoardSetup.Json.Write

/-!
# JSON text read back

What the writer writes, the reader reads back. A string written by `quoteString` is read by
`stringBody` to the very text, each escape undone; a natural number written in decimal is read by
`number` as long as it fits 64 bits; a literal word reads as itself; whitespace before a value is
passed over. A run of a `Reader` is stated on its state, the unread text, and runs are chained by
`run_bind`.

Main statements: `run_string`, `number_toDigits`.
-/

namespace BoardSetup.Json

/-! ## Runs of a reader -/

namespace Reader

section Runs

variable {α β : Type}

theorem run_bind {x : Reader α} {f : α → Reader β} {cs mid : List Char} {a : α}
    (h : x.run.run cs = (.ok a, mid)) : (x >>= f).run.run cs = (f a).run.run mid := by
  simp only [ExceptT.run_bind, StateT.run_bind, h]
  rfl

theorem run_bind_error {x : Reader α} {f : α → Reader β} {cs mid : List Char} {e : Error}
    (h : x.run.run cs = (.error e, mid)) : (x >>= f).run.run cs = (.error e, mid) := by
  simp only [ExceptT.run_bind, StateT.run_bind, h]
  rfl

@[simp] theorem run_pure (a : α) (cs : List Char) :
    (pure a : Reader α).run.run cs = (.ok a, cs) := rfl

@[simp] theorem run_bump (c : Char) (cs : List Char) : bump.run.run (c :: cs) = (.ok (), cs) :=
  rfl

theorem run_skipSpace (cs : List Char) :
    skipSpace.run.run cs = (.ok (cs.dropWhile isSpace).head?, cs.dropWhile isSpace) := rfl

theorem run_lift {f : List Char → Except Error (α × List Char)} {cs rest : List Char} {a : α}
    (h : f cs = .ok (a, rest)) : (lift f).run.run cs = (.ok a, rest) := by
  unfold lift
  rw [run_bind (show (get : Reader (List Char)).run.run cs = (.ok cs, cs) from rfl), h]
  rfl

theorem run_skipSpace_spaces {ws cs : List Char} {c : Char} (hws : ∀ x ∈ ws, isSpace x = true)
    (hc : isSpace c = false) : skipSpace.run.run (ws ++ c :: cs) = (.ok (some c), c :: cs) := by
  have hdrop : (ws ++ c :: cs).dropWhile isSpace = c :: cs := by
    rw [List.dropWhile_append_of_pos hws, List.dropWhile_cons_of_neg (by simp [hc])]
  rw [run_skipSpace, hdrop, List.head?_cons]

theorem run_skipSpace_cons {cs : List Char} {c : Char} (hc : isSpace c = false) :
    skipSpace.run.run (c :: cs) = (.ok (some c), c :: cs) :=
  run_skipSpace_spaces (show ∀ x ∈ ([] : List Char), isSpace x = true by simp) hc

theorem spaces_cons {ws : List Char} {c : Char} (hc : isSpace c = true)
    (hws : ∀ x ∈ ws, isSpace x = true) :
    ∀ x ∈ c :: ws, isSpace x = true := by
  intro x hx
  rcases List.mem_cons.1 hx with rfl | hx
  · exact hc
  · exact hws x hx

theorem spaces_replicate (n : Nat) : ∀ x ∈ List.replicate n ' ', isSpace x = true := by
  intro x hx
  rw [List.eq_of_mem_replicate hx]
  rfl

theorem toList_indentation (level : Nat) :
    (indentation level).toList = List.replicate (2 * level) ' ' := by
  simp [indentation]

end Runs

end Reader

/-! ## Strings -/

section Strings

theorem stringBody_plain {c : Char} (hq : c ≠ '"') (hb : c ≠ '\\') (hc : ¬ c.toNat < 0x20)
    (acc tail : List Char) : stringBody acc (c :: tail) = stringBody (c :: acc) tail := by
  rw [stringBody.eq_7 _ _ _ hq (fun _ h => absurd h hb) (fun _ _ h => absurd h hb)
    (fun h => absurd h hb), if_neg hc]

theorem stringBody_simple {e c : Char} (hu : e ≠ 'u') (he : simpleEscape e = some c)
    (acc tail : List Char) : stringBody acc ('\\' :: e :: tail) = stringBody (c :: acc) tail := by
  rw [stringBody.eq_5 _ _ _ hu, he]

theorem hexValue_hexDigit : ∀ d, d < 16 → hexValue (hexDigit d) = some d := by
  decide

theorem hex4_control {c : Char} (hc : c.toNat < 0x20) :
    hex4 '0' '0' (hexDigit (c.toNat / 16)) (hexDigit (c.toNat % 16)) = some c.toNat := by
  simp only [hex4, hexValue_hexDigit _ (show c.toNat / 16 < 16 by omega),
    hexValue_hexDigit _ (Nat.mod_lt _ (show 16 > 0 by omega))]
  simp only [hexValue]
  simp
  omega

theorem stringBody_control {c : Char} (hc : c.toNat < 0x20) (acc tail : List Char) :
    stringBody acc (['\\', 'u', '0', '0', hexDigit (c.toNat / 16), hexDigit (c.toNat % 16)] ++
      tail) = stringBody (c :: acc) tail := by
  rw [List.cons_append, List.cons_append, List.cons_append, List.cons_append, List.cons_append,
    List.cons_append, List.nil_append, stringBody.eq_3, hex4_control hc]
  simp only
  rw [if_neg (by omega), if_neg (by omega), Char.ofNat_toNat]

theorem stringBody_escapeChar (c : Char) (acc tail : List Char) :
    stringBody acc (escapeChar c ++ tail) = stringBody (c :: acc) tail := by
  unfold escapeChar
  split
  case h_1 => exact stringBody_simple (by decide) rfl acc tail
  case h_2 => exact stringBody_simple (by decide) rfl acc tail
  case h_3 => exact stringBody_simple (by decide) rfl acc tail
  case h_4 => exact stringBody_simple (by decide) rfl acc tail
  case h_5 => exact stringBody_simple (by decide) rfl acc tail
  case h_6 => exact stringBody_simple (by decide) rfl acc tail
  case h_7 => exact stringBody_simple (by decide) rfl acc tail
  case h_8 hq hb _ _ _ _ _ =>
    split
    · next hc => exact stringBody_control hc acc tail
    · next hc => exact stringBody_plain hq hb hc acc tail

theorem stringBody_escaped (cs acc rest : List Char) :
    stringBody acc (cs.flatMap escapeChar ++ '"' :: rest) =
      .ok (String.ofList (acc.reverse ++ cs), rest) := by
  induction cs generalizing acc with
  | nil => rw [List.flatMap_nil, List.nil_append, stringBody, List.append_nil]
  | cons c cs ih =>
    rw [List.flatMap_cons, List.append_assoc, stringBody_escapeChar, ih, List.reverse_cons,
      List.append_assoc, List.singleton_append]

theorem toList_quoteString (s : String) :
    (quoteString s).toList = '"' :: (s.toList.flatMap escapeChar ++ ['"']) := by
  simp [quoteString]

theorem run_string (s : String) (rest : List Char) :
    Reader.string.run.run (s.toList.flatMap escapeChar ++ '"' :: rest) = (.ok s, rest) := by
  refine Reader.run_lift ?_
  rw [stringBody_escaped, List.reverse_nil, List.nil_append, String.ofList_toList]

end Strings

/-! ## Words -/

theorem word_self (w rest : List Char) : word w (w ++ rest) = .ok ((), rest) := by
  induction w with
  | nil => rw [word.eq_1, List.nil_append]
  | cons e es ih => rw [word.eq_def, List.cons_append]; simp only; rw [if_pos trivial, ih]

theorem run_literal (w : String) (rest : List Char) :
    (Reader.literal w).run.run (w.toList ++ rest) = (.ok (), rest) :=
  Reader.run_lift (word_self _ rest)

/-! ## Numbers -/

section Numbers

/-- Text a number ends before: it starts with no digit, no point and no exponent letter. -/
def EndsNumber (rest : List Char) : Prop :=
  ∀ c ∈ rest.head?, digitValue c = none ∧ c ≠ '.' ∧ c ≠ 'e' ∧ c ≠ 'E'

theorem endsNumber_cons {c : Char} (h : digitValue c = none ∧ c ≠ '.' ∧ c ≠ 'e' ∧ c ≠ 'E')
    (cs : List Char) : EndsNumber (c :: cs) := by
  intro x hx
  cases hx
  exact h

theorem isSpace_of_isDigit {c : Char} (h : c.isDigit = true) : isSpace c = false := by
  cases hs : isSpace c
  · rfl
  · simp only [isSpace, Bool.or_eq_true, beq_iff_eq] at hs
    rcases hs with ((rfl | rfl) | rfl) | rfl <;> exact absurd h (by decide)

theorem digitValue_of_isDigit {c : Char} (h : c.isDigit = true) :
    digitValue c = some (c.toNat - '0'.toNat) := by
  simp only [Char.isDigit, Bool.and_eq_true, decide_eq_true_eq] at h
  rw [digitValue, if_pos (show '0' ≤ c ∧ c ≤ '9' from ⟨h.1, h.2⟩)]

/-- Digits read past a value add to it as `Nat.ofDigitChars` says, while it fits 64 bits: every
value on the way is at most the last. -/
theorem integerDigits_append (positive : Bool) (rest : List Char) :
    ∀ (ds : List Char) (acc : Nat), (∀ c ∈ ds, c.isDigit = true) →
      Nat.ofDigitChars 10 ds acc ≤ u64Max →
      integerDigits positive acc (ds ++ rest) =
        integerDigits positive (Nat.ofDigitChars 10 ds acc) rest
  | [], acc, _, _ => by rw [List.nil_append, Nat.ofDigitChars_nil]
  | c :: ds, acc, hds, hv => by
    have hc := digitValue_of_isDigit (hds c List.mem_cons_self)
    rw [Nat.ofDigitChars_cons] at hv ⊢
    have hle : 10 * acc + (c.toNat - '0'.toNat) ≤ Nat.ofDigitChars 10 ds
        (10 * acc + (c.toNat - '0'.toNat)) := by
      rw [Nat.ofDigitChars_eq_ofDigitChars_zero (l := ds)]
      exact Nat.le_add_right_of_le (Nat.le_mul_of_pos_left _ (Nat.pow_pos (by omega)))
    rw [List.cons_append, integerDigits, hc]
    simp only
    rw [if_neg (by omega), Nat.mul_comm acc 10]
    exact integerDigits_append positive rest ds _ (fun x hx => hds x (List.mem_cons_of_mem c hx))
      hv

theorem numberTail_end {v : Nat} {rest : List Char} (h : EndsNumber rest) :
    numberTail true v rest = .ok (.unsigned v, rest) := by
  cases rest with
  | nil => rfl
  | cons c r =>
    obtain ⟨-, hp, he, hE⟩ := h c rfl
    have hexp : startsExponent (c :: r) = false := by
      simp only [startsExponent]
      split <;> simp_all
    simp only [numberTail]
    split
    · next heq => exact absurd (List.cons.inj heq).1 hp
    · rw [if_neg (by rw [hexp]; decide), if_pos trivial]

theorem integerDigits_end {v : Nat} {rest : List Char} (h : EndsNumber rest) :
    integerDigits true v rest = .ok (.unsigned v, rest) := by
  cases rest with
  | nil => exact numberTail_end h
  | cons c r =>
    rw [integerDigits, (h c rfl).1]
    exact numberTail_end h

theorem toDigits_eq_cons (n : Nat) : ∃ c cs, Nat.toDigits 10 n = c :: cs ∧ c.isDigit = true := by
  obtain ⟨c, cs, heq⟩ := List.exists_cons_of_ne_nil (Nat.toDigits_ne_nil (b := 10) (n := n))
  refine ⟨c, cs, heq, Nat.isDigit_of_mem_toDigits (b := 10) (n := n) (by omega) (by omega) ?_⟩
  rw [heq]
  exact List.mem_cons_self

theorem toDigits_head (n : Nat) (hn : 0 < n) : ∃ c cs, Nat.toDigits 10 n = c :: cs ∧ c ≠ '0' := by
  induction n using Nat.strongRecOn with
  | _ n ih =>
    rw [Nat.toDigits_eq_if (by omega)]
    split
    · next hlt =>
      have hd : ∀ d, d < 10 → 0 < d → Nat.digitChar d ≠ '0' := by decide
      exact ⟨_, _, rfl, hd n hlt hn⟩
    · next hge =>
      obtain ⟨c, cs, heq, hc⟩ := ih (n / 10) (by omega) (by omega)
      exact ⟨c, cs ++ [Nat.digitChar (n % 10)], by rw [heq, List.cons_append], hc⟩

theorem number_toDigits {n : Nat} (hn : n ≤ u64Max) {rest : List Char} (h : EndsNumber rest) :
    number true (Nat.toDigits 10 n ++ rest) = .ok (.unsigned n, rest) := by
  have hdigits : ∀ c ∈ Nat.toDigits 10 n, c.isDigit = true :=
    fun c hc => Nat.isDigit_of_mem_toDigits (by omega) (by omega) hc
  rcases Nat.eq_zero_or_pos n with rfl | hpos
  · -- zero is the one number written with a leading `0`
    rw [Nat.toDigits_zero, List.singleton_append]
    cases rest with
    | nil => exact numberTail_end h
    | cons c r =>
      rw [number.eq_2, if_neg (by simp [(h c rfl).1])]
      exact numberTail_end h
  · obtain ⟨c, cs, heq, hc⟩ := toDigits_head n hpos
    have hcd := digitValue_of_isDigit (hdigits c (by rw [heq]; exact List.mem_cons_self))
    have hval : Nat.ofDigitChars 10 cs (c.toNat - '0'.toNat) = n := by
      have := Nat.ofDigitChars_ten_toDigits (n := n)
      rwa [heq, Nat.ofDigitChars_cons, Nat.mul_zero, Nat.zero_add] at this
    rw [heq, List.cons_append, number.eq_4 _ _ _ hc, hcd]
    simp only
    rw [integerDigits_append true rest cs _
      (fun x hx => hdigits x (by rw [heq]; exact List.mem_cons_of_mem c hx)) (by omega),
      hval, integerDigits_end h]

end Numbers

end BoardSetup.Json

import BoardSetup.Text.Utf8

/-!
# UTF-8 read back

The bytes `encode` writes for a character are one well-formed sequence of RFC 3629 §4: a lead
byte whose `leadShape` owes as many continuation bytes as follow it, the first of them within
the range that lead allows. Started between characters, the reading machine takes them back to
the character and stands between characters again.

Main statement: `decode?_encode`, every text reads back from its bytes.
-/

namespace BoardSetup.Text

theorem toNat_byte {n : Nat} (h : n < 256) : (UInt8.ofNat n).toNat = n := by
  rw [UInt8.toNat_ofNat', Nat.mod_eq_of_lt h]

/-! ## One byte at a time

The encoder writes each byte as the number below 256 it computes, so the steps are stated for
such a byte.
-/

section Steps

variable (bs : List UInt8) {n : Nat}

theorem run_between_ascii (h : n < 0x80) :
    Pending.run .between (UInt8.ofNat n :: bs) = .char (Char.ofNat n) :: Pending.run .between bs := by
  have hb := toNat_byte (show n < 256 by omega)
  simp only [Pending.run, Pending.step, Pending.start, hb, h, ↓reduceIte, List.cons_append,
    List.nil_append]

theorem run_between_lead {need lo hi : Nat} (h : 0x80 ≤ n) (h' : n < 256)
    (hs : leadShape n = some (need, lo, hi)) :
    Pending.run .between (UInt8.ofNat n :: bs) =
      Pending.run (.inside need lo hi (n % 2 ^ (6 - need))) bs := by
  have hb := toNat_byte h'
  have hlt : ¬ n < 0x80 := by omega
  simp only [Pending.run, Pending.step, Pending.start, hb, hlt, ↓reduceIte, hs, List.nil_append]

theorem run_inside_last {lo hi acc : Nat} (h' : n < 256) (h : lo ≤ n ∧ n ≤ hi) :
    Pending.run (.inside 1 lo hi acc) (UInt8.ofNat n :: bs) =
      .char (Char.ofNat (acc * 64 + n % 64)) :: Pending.run .between bs := by
  have hb := toNat_byte h'
  simp only [Pending.run, Pending.step, hb, h, and_self, ↓reduceIte, Std.le_refl, List.cons_append,
    List.nil_append]

theorem run_inside_more (need : Nat) {lo hi acc : Nat} (h' : n < 256) (h : lo ≤ n ∧ n ≤ hi) :
    Pending.run (.inside (need + 2) lo hi acc) (UInt8.ofNat n :: bs) =
      Pending.run (.inside (need + 1) 0x80 0xBF (acc * 64 + n % 64)) bs := by
  have hb := toNat_byte h'
  simp only [Pending.run, Pending.step, hb, h, and_self, ↓reduceIte, Nat.reduceLeDiff,
    Nat.add_one_sub_one, List.nil_append]

end Steps

/-! ## The lead byte of each length -/

section Leads

variable {v : Nat}

theorem leadShape_two (h₁ : 0x7F < v) (h₂ : v ≤ 0x7FF) :
    leadShape (v / 64 % 0x20 + 0xC0) = some (1, 0x80, 0xBF) := by
  have hb : 0xC2 ≤ v / 64 % 0x20 + 0xC0 ∧ v / 64 % 0x20 + 0xC0 ≤ 0xDF := by omega
  simp only [leadShape, hb, and_self, ↓reduceIte]

/-- The lead byte of a three-byte character admits its second byte: above 0x9F after `E0`, where
a shorter form would do, and below 0xA0 after `ED`, where the surrogates would lie. -/
theorem leadShape_three (h₁ : 0x7FF < v) (h₂ : v ≤ 0xFFFF) (hs : v < 0xD800 ∨ 0xDFFF < v) :
    ∃ lo hi, leadShape (v / 4096 % 0x10 + 0xE0) = some (2, lo, hi) ∧
      lo ≤ v / 64 % 0x40 + 0x80 ∧ v / 64 % 0x40 + 0x80 ≤ hi := by
  unfold leadShape
  rw [if_neg (by omega)]
  by_cases e0 : v / 4096 % 0x10 + 0xE0 = 0xE0
  · exact ⟨_, _, if_pos e0, by omega, by omega⟩
  rw [if_neg e0]
  by_cases e1 : 0xE1 ≤ v / 4096 % 0x10 + 0xE0 ∧ v / 4096 % 0x10 + 0xE0 ≤ 0xEC
  · exact ⟨_, _, if_pos e1, by omega, by omega⟩
  rw [if_neg e1]
  by_cases ed : v / 4096 % 0x10 + 0xE0 = 0xED
  · exact ⟨_, _, if_pos ed, by omega, by omega⟩
  rw [if_neg ed, if_pos (by omega)]
  exact ⟨_, _, rfl, by omega, by omega⟩

/-- The lead byte of a four-byte character admits its second byte: above 0x8F after `F0`, where a
shorter form would do, and below 0x90 after `F4`, past which no code point lies. -/
theorem leadShape_four (h₁ : 0xFFFF < v) (h₂ : v < 0x110000) :
    ∃ lo hi, leadShape (v / 262144 % 0x08 + 0xF0) = some (3, lo, hi) ∧
      lo ≤ v / 4096 % 0x40 + 0x80 ∧ v / 4096 % 0x40 + 0x80 ≤ hi := by
  unfold leadShape
  rw [if_neg (by omega), if_neg (by omega), if_neg (by omega), if_neg (by omega), if_neg (by omega)]
  by_cases f0 : v / 262144 % 0x08 + 0xF0 = 0xF0
  · exact ⟨_, _, if_pos f0, by omega, by omega⟩
  rw [if_neg f0]
  by_cases f1 : 0xF1 ≤ v / 262144 % 0x08 + 0xF0 ∧ v / 262144 % 0x08 + 0xF0 ≤ 0xF3
  · exact ⟨_, _, if_pos f1, by omega, by omega⟩
  rw [if_neg f1, if_pos (by omega)]
  exact ⟨_, _, rfl, by omega, by omega⟩

end Leads

/-! ## One character -/

theorem run_utf8EncodeChar (c : Char) (bs : List UInt8) :
    Pending.run .between (String.utf8EncodeChar c ++ bs) = .char c :: Pending.run .between bs := by
  obtain ⟨v, hv, hc⟩ : ∃ v, v = c.val.toNat ∧ Char.ofNat v = c := ⟨_, rfl, Char.ofNat_toNat c⟩
  have hvalid : v < 0xD800 ∨ (0xDFFF < v ∧ v < 0x110000) := by
    have := c.valid
    simp only [UInt32.isValidChar, Nat.isValidChar] at this
    omega
  simp only [String.utf8EncodeChar, ← hv]
  by_cases h₁ : v ≤ 0x7F
  · rw [if_pos h₁, List.singleton_append, run_between_ascii _ (by omega), hc]
  rw [if_neg h₁]
  by_cases h₂ : v ≤ 0x7FF
  · rw [if_pos h₂]
    simp only [List.cons_append, List.nil_append]
    rw [run_between_lead _ (by omega) (by omega) (leadShape_two (by omega) h₂),
      run_inside_last _ (by omega) (by omega)]
    have hsum : (v / 64 % 0x20 + 0xC0) % 2 ^ (6 - 1) * 64 + (v % 0x40 + 0x80) % 64 = v := by
      omega
    rw [hsum, hc]
  rw [if_neg h₂]
  by_cases h₃ : v ≤ 0xFFFF
  · rw [if_pos h₃]
    obtain ⟨lo, hi, lead, hlo, hhi⟩ := leadShape_three (by omega) h₃ (by omega)
    simp only [List.cons_append, List.nil_append]
    rw [run_between_lead _ (by omega) (by omega) lead, run_inside_more _ 0 (by omega) (by omega),
      run_inside_last _ (by omega) (by omega)]
    have hsum : ((v / 4096 % 0x10 + 0xE0) % 2 ^ (6 - 2) * 64 + (v / 64 % 0x40 + 0x80) % 64) * 64 +
        (v % 0x40 + 0x80) % 64 = v := by
      omega
    rw [hsum, hc]
  rw [if_neg h₃]
  obtain ⟨lo, hi, lead, hlo, hhi⟩ := leadShape_four (v := v) (by omega) (by omega)
  simp only [List.cons_append, List.nil_append]
  rw [run_between_lead _ (by omega) (by omega) lead, run_inside_more _ 1 (by omega) (by omega),
    run_inside_more _ 0 (by omega) (by omega), run_inside_last _ (by omega) (by omega)]
  have hsum : (((v / 262144 % 0x08 + 0xF0) % 2 ^ (6 - 3) * 64 + (v / 4096 % 0x40 + 0x80) % 64) * 64 +
      (v / 64 % 0x40 + 0x80) % 64) * 64 + (v % 0x40 + 0x80) % 64 = v := by
    omega
  rw [hsum, hc]

/-! ## Whole texts -/

theorem pieces_flatMap (cs : List Char) :
    pieces (cs.flatMap String.utf8EncodeChar) = cs.map .char := by
  induction cs with
  | nil => rfl
  | cons c cs ih =>
    rw [List.flatMap_cons, pieces, run_utf8EncodeChar, ← pieces, ih, List.map_cons]

theorem allChars_map_char (cs : List Char) : Piece.allChars (cs.map .char) = some cs := by
  induction cs with
  | nil => rfl
  | cons c cs ih => rw [List.map_cons, Piece.allChars, ih, Option.map_some]

theorem decode?_encode (s : String) : decode? (encode s) = some s.toList := by
  rw [decode?, encode, pieces_flatMap, allChars_map_char]

end BoardSetup.Text

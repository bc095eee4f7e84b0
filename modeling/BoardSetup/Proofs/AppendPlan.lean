import BoardSetup.Proofs.MakefileLine
import BoardSetup.Proofs.Utf8

/-!
# What a Makefile plan appends

The plan appends nothing exactly when the marker is not empty and its bytes occur in the Makefile.
Otherwise the Makefile with the tail ends in the line and a newline, and its lines are the old
ones followed by the line: a newline comes first only when the last line lacks one, so no line is
changed or merged with the new one, whether the Makefile is empty, ends in a newline, ends
without one, or ends its lines in CR LF.
-/

namespace BoardSetup

namespace Text

theorem byte_ne_newline {n : Nat} (h₁ : 0x80 ≤ n) (h₂ : n < 256) : UInt8.ofNat n ≠ 10 := by
  intro h
  have := congrArg UInt8.toNat h
  rw [toNat_byte h₂] at this
  exact absurd this (by simp; omega)

/-- Only the newline character is written with the newline byte: every other character is one
byte below `0x80` other than 10, or bytes at or above `0x80`. -/
theorem newline_not_mem_utf8EncodeChar {c : Char} (hc : c ≠ '\n') :
    (10 : UInt8) ∉ String.utf8EncodeChar c := by
  have hvalid := c.valid
  simp only [UInt32.isValidChar, Nat.isValidChar] at hvalid
  simp only [String.utf8EncodeChar]
  split_ifs with h₁ h₂ h₃
  · rw [List.mem_singleton]
    intro h
    apply hc
    have hv := congrArg UInt8.toNat h
    rw [toNat_byte (by omega)] at hv
    exact Char.ext (UInt32.toNat_inj.1 hv.symm)
  · intro h
    simp only [List.mem_cons, List.not_mem_nil, or_false] at h
    rcases h with h | h <;> exact byte_ne_newline (by omega) (by omega) h.symm
  · intro h
    simp only [List.mem_cons, List.not_mem_nil, or_false] at h
    rcases h with h | h | h <;> exact byte_ne_newline (by omega) (by omega) h.symm
  · intro h
    simp only [List.mem_cons, List.not_mem_nil, or_false] at h
    rcases h with h | h | h | h <;> exact byte_ne_newline (by omega) (by omega) h.symm

theorem newline_not_mem_encode {l : String} (h : '\n' ∉ l.toList) :
    (10 : UInt8) ∉ encode l := by
  simp only [encode, List.mem_flatMap, not_exists, not_and]
  intro c hc
  exact newline_not_mem_utf8EncodeChar fun e => h (e ▸ hc)

theorem encode_eq_nil_iff {a : String} : encode a = [] ↔ a = "" := by
  refine ⟨fun h => Decidable.byContradiction fun ha => encode_ne_nil ha h, ?_⟩
  rintro rfl
  rfl

/-- The lines of a text: the parts between newlines, a newline at the very end closing the last
line rather than opening an empty one. -/
def lines (bs : List UInt8) : List (List UInt8) :=
  if bs = [] then []
  else if bs.getLast? = some 10 then (bs.splitOn 10).dropLast
  else bs.splitOn 10

theorem lines_of_terminated (bs : List UInt8) : lines (bs ++ [10]) = bs.splitOn 10 := by
  rw [lines, if_neg (by simp), if_pos (by simp), List.splitOn_append_cons_self, List.splitOn_nil,
    List.dropLast_concat]

theorem lines_of_unterminated {bs : List UInt8} (hne : bs ≠ []) (hend : bs.getLast? ≠ some 10) :
    lines bs = bs.splitOn 10 := by
  rw [lines, if_neg hne, if_neg hend]

theorem lines_append_line {bs e : List UInt8} (he : (10 : UInt8) ∉ e)
    (hbs : ∃ pre, bs = pre ++ [10]) : lines (bs ++ (e ++ [10])) = lines bs ++ [e] := by
  obtain ⟨pre, rfl⟩ := hbs
  rw [show pre ++ [10] ++ (e ++ [10]) = pre ++ 10 :: e ++ [10] by simp, lines_of_terminated,
    lines_of_terminated, List.splitOn_append_cons_self, List.splitOn_eq_singleton he]

end Text

section Plan

variable {m : List UInt8} {marker line : String}

theorem planAppend_eq_none_iff :
    planAppend m marker line = none ↔ marker ≠ "" ∧ Text.encode marker <:+: m := by
  refine ⟨fun h => ?_, fun ⟨hne, hin⟩ => planAppend_eq_none (Text.encode_ne_nil hne) hin⟩
  unfold planAppend at h
  dsimp only at h
  split at h
  · rename_i found
    simp only [Bool.and_eq_true, Bool.not_eq_true', List.isEmpty_eq_false_iff] at found
    exact ⟨fun he => found.1 (Text.encode_eq_nil_iff.2 he),
      (Settings.infixOf_iff _ _).1 found.2⟩
  · cases h

theorem planAppend_eq_some {tail : List UInt8} (h : planAppend m marker line = some tail) :
    tail = (if !m.isEmpty && m.getLast? != some 10 then [10] else []) ++
      (Text.encode line ++ [10]) := by
  unfold planAppend at h
  dsimp only at h
  split at h
  · cases h
  · rw [← Option.some.inj h, List.append_assoc]

theorem lines_append_planned (hline : '\n' ∉ line.toList) {tail : List UInt8}
    (h : planAppend m marker line = some tail) :
    Text.lines (m ++ tail) = Text.lines m ++ [Text.encode line] := by
  have he := Text.newline_not_mem_encode hline
  rw [planAppend_eq_some h]
  by_cases hm : m = []
  · subst hm
    rw [if_neg (by simp), List.nil_append, List.nil_append, Text.lines_of_terminated,
      List.splitOn_eq_singleton he]
    rfl
  by_cases hend : m.getLast? = some 10
  · -- the last line is ended: nothing comes before the line
    obtain ⟨pre, hpre⟩ := List.getLast?_eq_some_iff.1 hend
    rw [if_neg (by simp [hend]), List.nil_append]
    exact Text.lines_append_line he ⟨pre, hpre⟩
  · -- the last line is ended first, so it stays whole
    rw [if_pos (by simp [hm, hend]), ← List.append_assoc,
      Text.lines_append_line he ⟨m, rfl⟩, Text.lines_of_terminated,
      Text.lines_of_unterminated hm hend]

end Plan

/-- For a line with no newline, the plan appends nothing exactly when the marker is not empty and
its bytes occur in the Makefile; otherwise the Makefile with the tail starts with the Makefile,
ends in the line and a newline, and its lines are the Makefile's lines followed by the line. -/
theorem planAppend_adds_one_line (m : List UInt8) (marker line : String)
    (hline : '\n' ∉ line.toList) :
    (planAppend m marker line = none ↔ marker ≠ "" ∧ Text.encode marker <:+: m) ∧
    ∀ tail, planAppend m marker line = some tail →
      m <+: m ++ tail ∧ Text.encode line ++ [10] <:+ m ++ tail ∧
      Text.lines (m ++ tail) = Text.lines m ++ [Text.encode line] := by
  refine ⟨planAppend_eq_none_iff, fun tail h => ⟨List.prefix_append m tail, ?_, ?_⟩⟩
  · rw [planAppend_eq_some h]
    exact (List.suffix_append _ _).trans (List.suffix_append m _)
  · exact lines_append_planned hline h

/-- A Makefile whose last line ends in CR LF and lacks the marker gets one more line. -/
theorem planAppend_adds_one_line_crlf :
    '\n' ∉ "X = 1".toList ∧
    (planAppend [97, 13, 10] "X" "X = 1" = none ↔
      "X" ≠ "" ∧ Text.encode "X" <:+: [97, 13, 10]) ∧
    ∀ tail, planAppend [97, 13, 10] "X" "X = 1" = some tail →
      [97, 13, 10] <+: [97, 13, 10] ++ tail ∧
      Text.encode "X = 1" ++ [10] <:+ [97, 13, 10] ++ tail ∧
      Text.lines ([97, 13, 10] ++ tail) = Text.lines [97, 13, 10] ++ [Text.encode "X = 1"] :=
  ⟨by decide, planAppend_adds_one_line [97, 13, 10] "X" "X = 1" (by decide)⟩

end BoardSetup

import BoardSetup.Numbers

/-!
# Integers in text

How the shell and its tools read an integer from text, as the C library's `strtoimax` and
`strtoumax` do: leading white space, an optional sign, and digits of the base; in base 0 a
leading `0x` means hexadecimal and a leading `0` octal. Reading stops at the first byte that is
no digit. A value out of range is replaced by the nearest bound and flagged. With no digit at
all, nothing is read and the whole text is left.

On top of that sit the shell's own rules: a number that must be all of its text, up to trailing
white space, and the number of a command such as `exit` or `shift`, which must also lie between
0 and 2³¹ - 1.
-/

namespace BoardSetup.Shell

def isSpaceC (b : UInt8) : Bool := b == 32 || (9 ≤ b && b ≤ 13)

def digitIn (base : Nat) (b : UInt8) : Option Nat :=
  let v := if 48 ≤ b && b ≤ 57 then b.toNat - 48
    else if 97 ≤ b && b ≤ 122 then b.toNat - 87
    else if 65 ≤ b && b ≤ 90 then b.toNat - 55
    else 99
  if v < base then some v else none

def readDigits (base acc : Nat) : List UInt8 → Nat × List UInt8 × Nat
  | [] => (acc, [], 0)
  | b :: bs =>
    match digitIn base b with
    | some v =>
      let (n, rest, k) := readDigits base (acc * base + v) bs
      (n, rest, k + 1)
    | none => (acc, b :: bs, 0)

/-- An integer read from the front of a text: its sign and magnitude, the bytes after it, and
whether any digit was read (when none was, the rest is the whole text). -/
structure Scanned where
  negative : Bool
  magnitude : Nat
  rest : List UInt8
  converted : Bool
  deriving DecidableEq, Repr

def scanInteger (bs : List UInt8) (base : Nat) : Scanned :=
  let s := bs.dropWhile isSpaceC
  let (negative, s) := match s with
    | 45 :: r => (true, r)
    | 43 :: r => (false, r)
    | _ => (false, s)
  let hexPrefix := match s with
    | 48 :: x :: d :: _ => (x == 120 || x == 88) && (digitIn 16 d).isSome
    | _ => false
  let (base, s) :=
    if (base == 0 || base == 16) && hexPrefix then (16, s.drop 2)
    else if base == 0 then (if s.head? == some 48 then 8 else 10, s)
    else (base, s)
  let (mag, rest, count) := readDigits base 0 s
  if count == 0 then ⟨false, 0, bs, false⟩ else ⟨negative, mag, rest, true⟩

def intMax : Int := 2 ^ 63 - 1

def intMin : Int := -(2 ^ 63)

/-- An integer as a signed 64-bit value: the value, clamped to the range, and whether it was out
of range. -/
def Scanned.signed (s : Scanned) : Int × Bool :=
  let v : Int := if s.negative then -(s.magnitude : Int) else s.magnitude
  if v > intMax then (intMax, true) else if v < intMin then (intMin, true) else (v, false)

/-- An integer as an unsigned 64-bit value, a negative one taken modulo 2⁶⁴: the value, clamped
to the range, and whether it was out of range. -/
def Scanned.unsigned (s : Scanned) : Nat × Bool :=
  if s.magnitude ≥ 2 ^ 64 then (2 ^ 64 - 1, true)
  else if s.negative then ((2 ^ 64 - s.magnitude) % 2 ^ 64, false)
  else (s.magnitude, false)

/-- A text that must be a number: the value when the text is one, up to trailing white space and
within range. In base 10 a text with no digit is refused; in base 0 it is 0. -/
def wholeInteger (bs : List UInt8) (base : Nat) : Option Int :=
  let s := scanInteger bs base
  let (v, overflowed) := s.signed
  if overflowed then none
  else if !s.converted && base != 0 then none
  else if !(s.rest.dropWhile isSpaceC).isEmpty then none
  else some v

def commandNumber (bs : List UInt8) : Option Nat :=
  match wholeInteger bs 10 with
  | some v => if 0 ≤ v && v ≤ 2 ^ 31 - 1 then some v.toNat else none
  | none => none

end BoardSetup.Shell

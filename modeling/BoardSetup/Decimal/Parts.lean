import BoardSetup.Numbers

/-!
# Doubles from decimal parts

A decimal `sig · 10^exp` multiplied out in double arithmetic: the significand is rounded to the
nearest double, then scaled once by the double nearest `10^|exp|`. Powers past `10^308` are taken
in steps of `10^308` downwards; upwards they overflow. This is the fast reading of a number,
which can be one unit in the last place off the correctly rounded double.
-/

namespace BoardSetup.Decimal

def nearest (n : Nat) : Float :=
  if n < 2 ^ 53 then Float.ofBits (n.toUInt64.toFloat.toBits)
  else
    let shift := Nat.log2 n - 52
    let q := n / 2 ^ shift
    let r := n % 2 ^ shift
    let half := 2 ^ (shift - 1)
    let q := if r > half ∨ (r = half ∧ q % 2 = 1) then q + 1 else q
    let (q, shift) := if q = 2 ^ 53 then (q / 2, shift + 1) else (q, shift)
    if shift + 52 > 1023 then Float.ofBits 0x7FF0000000000000
    else Float.ofBits ((((shift + 52 + 1023) * 2 ^ 52) + (q - 2 ^ 52)).toUInt64)

def pow10 (k : Nat) : Float :=
  nearest (10 ^ k)

def scale (sig : Nat) (exp : Int) : Option Float :=
  go (nearest sig) exp 4
where
  /-- At most `fuel` steps of `10^308` before the last scaling. -/
  go (f : Float) (exp : Int) : Nat → Option Float
    | 0 => some f
    | fuel + 1 =>
      if exp.natAbs ≤ 308 then
        if exp ≥ 0 then
          let g := f * pow10 exp.natAbs
          if g.isInf then none else some g
        else some (f / pow10 exp.natAbs)
      else if f == 0.0 then some f
      else if exp ≥ 0 then none
      else go (f / pow10 308) (exp + 308) fuel

end BoardSetup.Decimal

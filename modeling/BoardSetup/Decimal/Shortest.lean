import BoardSetup.Numbers

/-!
# Shortest decimal text of a double

A finite double is `m · 2^e`. Every real strictly between it and the midpoints to its two
neighbours reads back as the same double, and so do the midpoints themselves when `m` is even.
`Binary.shortest` picks the decimal with the fewest significant digits in that interval, and of
two such the one nearer the double, an exact tie going to the even one. All of it is exact
arithmetic on naturals.

`Style` says where positional notation gives way to an exponent.
-/

namespace BoardSetup.Decimal

/-- A finite nonzero double without its sign: `mant · 2^exp`. `narrow` says the gap to the
neighbour below is half the gap above, as at a power of two. -/
structure Binary where
  mant : Nat
  exp : Int
  narrow : Bool
  deriving DecidableEq, Repr

def Binary.ofBits (bits : UInt64) : Option Binary :=
  let b := bits.toNat
  let frac : Nat := b % 2 ^ 52
  let e : Nat := b / 2 ^ 52 % 2 ^ 11
  if e = 0x7FF then none
  else if e = 0 then
    if frac = 0 then none else some ⟨frac, -1074, false⟩
  else some ⟨frac + 2 ^ 52, (e : Int) - 1075, decide (frac = 0 ∧ 1 < e)⟩

def cross (c : Nat) (k : Int) (x : Nat) (e : Int) : Nat × Nat :=
  (c * 10 ^ k.toNat * 2 ^ (2 - e).toNat, x * 2 ^ (e - 2).toNat * 10 ^ (-k).toNat)

namespace Binary

def pow10Le (v : Binary) (p : Int) : Bool :=
  let s := cross 1 p (4 * v.mant) v.exp
  s.1 ≤ s.2

def leadExponent (v : Binary) : Int :=
  let t : Int := (Nat.log2 v.mant : Int) + v.exp
  let p := Int.fdiv (t * 30103) 100000
  if v.pow10Le (p + 2) then p + 2 else if v.pow10Le (p + 1) then p + 1
  else if v.pow10Le p then p else p - 1

def reads (v : Binary) (c : Nat) (k : Int) : Bool :=
  let lo := 4 * v.mant - (if v.narrow then 1 else 2)
  let hi := 4 * v.mant + 2
  let a := cross c k lo v.exp
  let b := cross c k hi v.exp
  if v.mant % 2 = 0 then a.2 ≤ a.1 && b.1 ≤ b.2 else a.2 < a.1 && b.1 < b.2

def distance (v : Binary) (c : Nat) (k : Int) : Nat :=
  let s := cross c k (4 * v.mant) v.exp
  if s.1 ≤ s.2 then s.2 - s.1 else s.1 - s.2

def floorAt (v : Binary) (k : Int) : Nat :=
  let s := cross 1 k (4 * v.mant) v.exp
  s.2 / s.1

def withDigits (v : Binary) (n : Nat) : Option (Nat × Int) :=
  let k := v.leadExponent - n + 1
  let c := v.floorAt k
  match v.reads c k, v.reads (c + 1) k with
  | true, true =>
    let d₁ := v.distance c k
    let d₂ := v.distance (c + 1) k
    if d₁ < d₂ || (d₁ = d₂ && c % 2 = 0) then some (c, k) else some (c + 1, k)
  | true, false => some (c, k)
  | false, true => some (c + 1, k)
  | false, false => none

def trim (c : Nat) (k : Int) : Nat → Nat × Int
  | 0 => (c, k)
  | fuel + 1 => if c ≠ 0 ∧ c % 10 = 0 then trim (c / 10) (k + 1) fuel else (c, k)

def shortest (v : Binary) : Nat × Int :=
  let found := (List.range 17).findSome? fun i => v.withDigits (i + 1)
  let (c, k) := found.getD (v.floorAt (v.leadExponent - 16), v.leadExponent - 16)
  trim c k 20

end Binary

/-- Where positional notation ends. With the decimal point after `point` digits, a number is
written positionally when `minPoint < point ≤ maxPoint`, and with an exponent otherwise. -/
structure Style where
  maxPoint : Int
  minPoint : Int
  plusExponent : Bool
  deriving DecidableEq, Repr

def zeros (n : Nat) : String :=
  String.ofList (List.replicate n '0')

def Style.layout (st : Style) (ds : List Char) (k : Int) : String :=
  let len : Int := ds.length
  let point := k + len
  if 0 ≤ k ∧ point ≤ st.maxPoint then
    String.ofList ds ++ zeros k.toNat ++ ".0"
  else if 0 < point ∧ point ≤ st.maxPoint then
    String.ofList (ds.take point.toNat) ++ "." ++ String.ofList (ds.drop point.toNat)
  else if st.minPoint < point ∧ point ≤ 0 then
    "0." ++ zeros (-point).toNat ++ String.ofList ds
  else
    let e := point - 1
    let sign := if e < 0 then "-" else if st.plusExponent then "+" else ""
    let mant := match ds with
      | d :: rest@(_ :: _) => String.ofList (d :: '.' :: rest)
      | _ => String.ofList ds
    mant ++ "e" ++ sign ++ toString e.natAbs

def Style.render (st : Style) (f : Float) : String :=
  let bits := f.toBits
  let sign := if bits.toNat ≥ 2 ^ 63 then "-" else ""
  match Binary.ofBits bits with
  | none => sign ++ "0.0"
  | some v =>
    let (c, k) := v.shortest
    sign ++ st.layout (Nat.toDigits 10 c) k

end BoardSetup.Decimal

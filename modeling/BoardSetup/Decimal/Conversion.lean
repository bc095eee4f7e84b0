import BoardSetup.Numbers

/-!
# Floating-point numbers in text, both ways

Reading a number as the C library's `strtod` does, into a binary floating-point format of a given
precision, and writing one with a fixed number of digits as `printf`'s `%f`, `%e`, `%g` and `%a`
do. Everything is exact arithmetic on naturals: a finite value is `mant · 2^exp`, read text is
rounded to the nearest value of the format (a tie to an even significand), and written digits are
rounded the same way from the exact binary value.

A format has `bits` significant bits and a least exponent `minExp` for its smallest step;
values from `2^maxExp` on overflow to infinity. Doubles have 53 bits, steps down to `2^-1074` and
overflow at `2^1024`; the x87 extended format has 64 bits, `2^-16445` and `2^16384`.
-/

namespace BoardSetup.Decimal

/-- A binary floating-point format. -/
structure FloatFormat where
  bits : Nat
  minExp : Int
  maxExp : Int
  deriving DecidableEq, Repr

def FloatFormat.double : FloatFormat := ⟨53, -1074, 1024⟩

def FloatFormat.extended : FloatFormat := ⟨64, -16445, 16384⟩

/-- A floating-point value: finite `(-1)^neg · mant · 2^exp` (zero when `mant` is 0), infinite,
or not a number. -/
inductive FloatValue where
  | finite (neg : Bool) (mant : Nat) (exp : Int)
  | infinite (neg : Bool)
  | nan (neg : Bool)
  deriving DecidableEq, Repr

def scaled (m : Nat) (e : Int) : Nat × Nat :=
  if 0 ≤ e then (m * 2 ^ e.toNat, 1) else (m, 2 ^ (-e).toNat)

def roundHalfEven (num den : Nat) : Nat :=
  let q := num / den
  let r := num % den
  if 2 * r > den then q + 1 else if 2 * r == den && q % 2 == 1 then q + 1 else q

def floorLog2 (num den : Nat) : Int :=
  let t : Int := (Nat.log2 num : Int) - (Nat.log2 den : Int)
  let (a, b) := if 0 ≤ t then (num, den * 2 ^ t.toNat) else (num * 2 ^ (-t).toNat, den)
  if b ≤ a then t else t - 1

/-- The value of the format nearest a positive fraction: its significand and exponent, or
nothing when it overflows. -/
def FloatFormat.round (f : FloatFormat) (num den : Nat) : Option (Nat × Int) :=
  let t := floorLog2 num den
  let e := max f.minExp (t - (f.bits - 1 : Nat))
  let (n, d) := if 0 ≤ e then (num, den * 2 ^ e.toNat) else (num * 2 ^ (-e).toNat, den)
  let m := roundHalfEven n d
  let (m, e) := if m == 2 ^ f.bits then (2 ^ (f.bits - 1), e + 1) else (m, e)
  if m == 0 then some (0, 0)
  else if (Nat.log2 m : Int) + e ≥ f.maxExp then none
  else some (m, e)

def isSpaceByte (b : UInt8) : Bool := b == 32 || (9 ≤ b && b ≤ 13)

def isDecimalDigit (b : UInt8) : Bool := 48 ≤ b && b ≤ 57

def hexValue (b : UInt8) : Option Nat :=
  if 48 ≤ b && b ≤ 57 then some (b.toNat - 48)
  else if 97 ≤ b && b ≤ 102 then some (b.toNat - 87)
  else if 65 ≤ b && b ≤ 70 then some (b.toNat - 55)
  else none

def lowerByte (b : UInt8) : UInt8 := if 65 ≤ b && b ≤ 90 then b + 32 else b

def startsWithWord (bs : List UInt8) (w : String) : Bool :=
  let ws := w.toUTF8.toList
  (bs.take ws.length).map lowerByte == ws

/-- Digits of a base with an optional point among them: the digits as one natural, how many came
after the point, how many there were in all, and the bytes after them (the point is taken even
with no digit after it). -/
def digitsWithPoint (base : Nat) (digit : UInt8 → Option Nat) :
    List UInt8 → Bool → Nat × Nat × Nat × List UInt8
  | [], _ => (0, 0, 0, [])
  | b :: bs, seenPoint =>
    if b == 46 && !seenPoint then digitsWithPoint base digit bs true
    else match digit b with
      | some d =>
        let (v, after, count, rest) := digitsWithPoint base digit bs seenPoint
        (d * base ^ count + v, after + (if seenPoint then 1 else 0), count + 1, rest)
      | none => (0, 0, 0, b :: bs)

def exponentPart (mark : UInt8) (bs : List UInt8) : Int × List UInt8 :=
  match bs with
  | c :: rest =>
    if lowerByte c != mark then (0, bs)
    else
      let (neg, r) := match rest with
        | 45 :: r => (true, r)
        | 43 :: r => (false, r)
        | _ => (false, rest)
      let ds := r.takeWhile isDecimalDigit
      if ds.isEmpty then (0, bs)
      else
        let v : Nat := ds.foldl (fun acc d => acc * 10 + (d.toNat - 48)) 0
        ((if neg then -(v : Int) else v), r.drop ds.length)
  | [] => (0, [])

/-- A number read from text: its value, the bytes after it, whether anything was read, and
whether it lay out of the format's range. -/
structure ReadFloat where
  value : FloatValue
  rest : List UInt8
  converted : Bool
  outOfRange : Bool
  deriving DecidableEq, Repr

/-- Whether a positive fraction is tiny for the format: below its least normal number even once
rounded to the format's precision with no bound on the exponent. -/
def FloatFormat.isTiny (f : FloatFormat) (num den : Nat) : Bool :=
  let normal := f.minExp + (f.bits - 1 : Nat)
  let t := floorLog2 num den
  if t ≥ normal then false
  else if t + 1 < normal then true
  else
    let e := t - (f.bits - 1 : Nat)
    let (n, d) := if 0 ≤ e then (num, den * 2 ^ e.toNat) else (num * 2 ^ (-e).toNat, den)
    roundHalfEven n d != 2 ^ f.bits

/-- A positive fraction, signed, as a value of the format, and whether it lies out of range: too
large, or tiny and not exactly a value of the format. -/
def FloatFormat.ofFraction (f : FloatFormat) (neg : Bool) (num den : Nat) : FloatValue × Bool :=
  if num == 0 then (.finite neg 0 0, false)
  else match f.round num den with
    | none => (.infinite neg, true)
    | some (m, e) =>
      let exact := if 0 ≤ e then num == m * 2 ^ e.toNat * den else num * 2 ^ (-e).toNat == m * den
      (.finite neg m e, f.isTiny num den && !exact)

/-- Reads a number as `strtod` does: white space, a sign, then `inf`, `infinity`, `nan`, a
hexadecimal number `0x…p…` or a decimal one with an optional exponent. -/
def FloatFormat.read (f : FloatFormat) (bs : List UInt8) : ReadFloat :=
  let s := bs.dropWhile isSpaceByte
  let (neg, s) := match s with
    | 45 :: r => (true, r)
    | 43 :: r => (false, r)
    | _ => (false, s)
  if startsWithWord s "infinity" then ⟨.infinite neg, s.drop 8, true, false⟩
  else if startsWithWord s "inf" then ⟨.infinite neg, s.drop 3, true, false⟩
  else if startsWithWord s "nan" then
    let after := s.drop 3
    let after := match after with
      | 40 :: r =>
        let inner := r.takeWhile fun c => isDecimalDigit c || (hexValue c).isSome || c == 95 ||
          (97 ≤ lowerByte c && lowerByte c ≤ 122)
        match r.drop inner.length with
        | 41 :: r' => r'
        | _ => after
      | _ => after
    ⟨.nan neg, after, true, false⟩
  else
    let hex := match s with
      | 48 :: x :: r => (x == 120 || x == 88) &&
        (match r with
         | c :: c2 :: _ => (hexValue c).isSome || (c == 46 && (hexValue c2).isSome)
         | [c] => (hexValue c).isSome
         | [] => false)
      | _ => false
    if hex then
      let (v, after, count, rest) := digitsWithPoint 16 hexValue (s.drop 2) false
      let _ := count
      let (e, rest) := exponentPart 112 rest
      let (num, den) := scaled v (e - 4 * (after : Int))
      let (value, range) := f.ofFraction neg num den
      ⟨value, rest, true, range⟩
    else
      let (v, after, count, rest) := digitsWithPoint 10 (fun c =>
        if isDecimalDigit c then some (c.toNat - 48) else none) s false
      if count == 0 then ⟨.finite false 0 0, bs, false, false⟩
      else
        let (e, rest) := exponentPart 101 rest
        let k := e - (after : Int)
        let (num, den) := if 0 ≤ k then (v * 10 ^ k.toNat, 1) else (v, 10 ^ (-k).toNat)
        let (value, range) := f.ofFraction neg num den
        ⟨value, rest, true, range⟩

/-! ## Writing -/

def digitsOf (n width : Nat) : List Char :=
  let ds := Nat.toDigits 10 n
  List.replicate (width - ds.length) '0' ++ ds

def fixedText (m : Nat) (e : Int) (prec : Nat) (alt : Bool) : String :=
  let (num, den) := scaled m e
  let n := roundHalfEven (num * 10 ^ prec) den
  let ds := digitsOf n (prec + 1)
  let whole := ds.take (ds.length - prec)
  let frac := ds.drop (ds.length - prec)
  String.ofList whole ++ (if prec > 0 || alt then "." else "") ++ String.ofList frac

/-- The decimal exponent and `prec + 1` significant digits of a finite nonzero magnitude,
rounded. -/
def scientificDigits (m : Nat) (e : Int) (prec : Nat) : Int × Nat :=
  let (num, den) := scaled m e
  let x : Int := (Nat.log2 num : Int) - (Nat.log2 den : Int)
  let guess : Int := (x * 30103) / 100000
  let fits := fun (k : Int) =>
    if 0 ≤ k then 10 ^ k.toNat * den ≤ num else den ≤ num * 10 ^ (-k).toNat
  let k := if fits (guess + 1) then (if fits (guess + 2) then guess + 2 else guess + 1)
    else if fits guess then guess else if fits (guess - 1) then guess - 1 else guess - 2
  let shift : Int := (prec : Int) - k
  let n := if 0 ≤ shift then roundHalfEven (num * 10 ^ shift.toNat) den
    else roundHalfEven num (den * 10 ^ (-shift).toNat)
  if n == 10 ^ (prec + 1) then (k + 1, 10 ^ prec) else (k, n)

/-- The exponent part of a number in scientific notation: the letter, the sign and at least two
digits. -/
def exponentText (upper : Bool) (x : Int) : String :=
  (if upper then "E" else "e") ++ (if x < 0 then "-" else "+") ++ String.ofList (digitsOf x.natAbs 2)

def scientificText (m : Nat) (e : Int) (prec : Nat) (alt upper : Bool) : String :=
  let (x, n) := if m == 0 then (0, 0) else scientificDigits m e prec
  let ds := digitsOf n (prec + 1)
  String.ofList (ds.take 1) ++ (if prec > 0 || alt then "." else "") ++
    String.ofList (ds.drop 1) ++ exponentText upper x

def dropFractionZeros (s : String) : String :=
  if !s.toList.contains '.' then s
  else
    let cs := s.toList.reverse.dropWhile (· == '0')
    let cs := match cs with
      | '.' :: rest => rest
      | _ => cs
    String.ofList cs.reverse

/-- A finite magnitude in the shortest of the two notations for `prec` significant digits, as
`%g` writes it. -/
def generalText (m : Nat) (e : Int) (prec : Nat) (alt upper : Bool) : String :=
  let p := if prec == 0 then 1 else prec
  let x := if m == 0 then 0 else (scientificDigits m e (p - 1)).1
  if x < (p : Int) && x ≥ -4 then
    let s := fixedText m e (p - 1 - x).toNat alt
    if alt then s else dropFractionZeros s
  else
    let s := scientificText m e (p - 1) alt upper
    if alt then s
    else
      let body := s.toList.takeWhile (fun c => c != 'e' && c != 'E')
      dropFractionZeros (String.ofList body) ++ String.ofList (s.toList.drop body.length)

def hexDigits (n : Nat) (upper : Bool) : String :=
  let s := String.ofList (Nat.toDigits 16 n)
  if upper then s.toUpper else s

def hexDigitList (count n : Nat) : List Nat :=
  (List.range count).reverse.map fun i => n / 16 ^ i % 16

/-- Hexadecimal digits plus one in the last place: the new digits, and whether a carry left the
first. -/
def incrementDigits (ds : List Nat) : List Nat × Bool :=
  ds.foldr (fun d (acc : List Nat × Bool) =>
    if !acc.2 then (d :: acc.1, false)
    else if d == 15 then (0 :: acc.1, true) else ((d + 1) :: acc.1, false)) ([], true)

/-- The stored form of a finite magnitude `m · 2^e` that `%a` writes: its leading hexadecimal
digit, the digits after it, the exponent written, and whether the digits after the lead are all
zero. A double leads with its hidden bit (`0` below the normal numbers, where the exponent stays
`-1022`) and has 13 digits after it; the x87 extended format leads with the top four bits of its
64-bit significand, the exponent lowered by 3 for them (staying `-16385` below the normal
numbers), and has 15 digits after it. -/
def hexParts (extended : Bool) (m : Nat) (e : Int) : Nat × List Nat × Int × Bool :=
  let width := if extended then 15 else 13
  if m == 0 then (0, List.replicate width 0, 0, true)
  else
    let top := Nat.log2 m
    let power : Int := e + top
    let shiftTo := fun (bit : Nat) =>
      if top ≤ bit then m * 2 ^ (bit - top) else m / 2 ^ (top - bit)
    if extended then
      let normal := power ≥ -16382
      let mant := if normal then shiftTo 63 else m * 2 ^ (e + 16445).toNat
      let ds := hexDigitList 16 mant
      (ds.headD 0, ds.drop 1, if normal then power - 3 else -16385, false)
    else if power ≥ -1022 then
      let frac := shiftTo 52 - 2 ^ 52
      (1, hexDigitList 13 frac, power, frac == 0)
    else (0, hexDigitList 13 (m * 2 ^ (e + 1074).toNat), -1022, false)

/-- A finite magnitude as `%a` writes it, for a double or (`extended`) an x87 extended value:
`0x`, the leading digit, the digits after it without their trailing zeros, and the exponent of
two. With a precision, the digits are cut there and rounded to nearest, a tie to an even last
digit; a carry out of the digits raises the leading one, and a lead of `f` becomes `1` with the
exponent raised by 4. -/
def hexText (extended : Bool) (m : Nat) (e : Int) (prec : Option Nat) (alt upper : Bool) :
    String :=
  let (lead, digits, x, zero) := hexParts extended m e
  let sig := if zero then [] else (digits.reverse.dropWhile (· == 0)).reverse
  let (lead, shown, x) : Nat × List Nat × Int := match prec with
    | none => (lead, sig, x)
    | some p =>
      if p ≥ sig.length then (lead, sig ++ List.replicate (p - sig.length) 0, x)
      else
        let last := if p > 0 then sig.getD (p - 1) 0 else lead
        let next := sig.getD p 0
        let more := next % 8 != 0 || p + 1 < sig.length
        let kept := sig.take p
        if !(next ≥ 8 && (last % 2 == 1 || more)) then (lead, kept, x)
        else
          let (kept, carry) := incrementDigits kept
          if !carry then (lead, kept, x)
          else if lead < 15 then (lead + 1, kept, x)
          else (1, kept, x + 4)
  let hex := fun (d : Nat) => (Nat.toDigits 16 d).headD '0'
  let s := "0x" ++ String.ofList [hex lead] ++ (if !shown.isEmpty || alt then "." else "") ++
    String.ofList (shown.map hex) ++ "p" ++ (if x < 0 then "-" else "+") ++ toString x.natAbs
  if upper then s.toUpper else s

example : hexText false 1 (-1074) none false false = "0x0.0000000000001p-1022" := by decide
example : hexText true 31 (-1) (some 0) false false = "0x1p+4" := by decide

end BoardSetup.Decimal

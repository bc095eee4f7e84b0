import BoardSetup.Numbers

/-!
# UTF-8 bytes

Reading bytes as UTF-8 text (RFC 3629 §4), strictly or with replacement, by one machine that
takes a byte at a time. The replacing reader puts one U+FFFD in place of each maximal prefix of
a character that cannot be completed, and reads the byte that broke it afresh; a byte that can
start no character is replaced alone.

Names of files are bytes that need not be UTF-8. To hold them in text and get the very bytes
back, a third reader keeps each byte that is no part of a well-formed character as one of the
last 128 code points, U+10FF80 to U+10FFFF, and the matching writer turns those back into the
bytes they stand for.
-/

namespace BoardSetup.Text

def replacement : Char := Char.ofNat 0xFFFD

def leadShape (b : Nat) : Option (Nat × Nat × Nat) :=
  if 0xC2 ≤ b ∧ b ≤ 0xDF then some (1, 0x80, 0xBF)
  else if b = 0xE0 then some (2, 0xA0, 0xBF)
  else if 0xE1 ≤ b ∧ b ≤ 0xEC then some (2, 0x80, 0xBF)
  else if b = 0xED then some (2, 0x80, 0x9F)
  else if 0xEE ≤ b ∧ b ≤ 0xEF then some (2, 0x80, 0xBF)
  else if b = 0xF0 then some (3, 0x90, 0xBF)
  else if 0xF1 ≤ b ∧ b ≤ 0xF3 then some (3, 0x80, 0xBF)
  else if b = 0xF4 then some (3, 0x80, 0x8F)
  else none

/-- Where the reader stands between bytes: inside a character, `need` more bytes are owed, the
next within `lo..hi`, with the code point so far in `acc`. -/
inductive Pending where
  | between
  | inside (need lo hi acc : Nat)
  deriving DecidableEq, Repr

/-- What a byte gives: a finished character, or a part that is no text. -/
inductive Piece where
  | char (c : Char)
  | bad
  deriving DecidableEq, Repr

def Pending.start (b : UInt8) : List Piece × Pending :=
  if b.toNat < 0x80 then ([.char (Char.ofNat b.toNat)], .between)
  else match leadShape b.toNat with
    | some (n, lo, hi) => ([], .inside n lo hi (b.toNat % 2 ^ (6 - n)))
    | none => ([.bad], .between)

def Pending.step : Pending → UInt8 → List Piece × Pending
  | .between, b => Pending.start b
  | .inside need lo hi acc, b =>
    if lo ≤ b.toNat ∧ b.toNat ≤ hi then
      let acc := acc * 64 + b.toNat % 64
      if need ≤ 1 then ([.char (Char.ofNat acc)], .between)
      else ([], .inside (need - 1) 0x80 0xBF acc)
    else
      let r := Pending.start b
      (.bad :: r.1, r.2)

def Pending.run : Pending → List UInt8 → List Piece
  | .between, [] => []
  | .inside .., [] => [.bad]
  | p, b :: bs =>
    let r := p.step b
    r.1 ++ Pending.run r.2 bs

def pieces (bs : List UInt8) : List Piece :=
  Pending.between.run bs

/-- Reads bytes as UTF-8, replacing each ill-formed part by U+FFFD. -/
def decodeLossy (bs : List UInt8) : List Char :=
  (pieces bs).map fun
    | .char c => c
    | .bad => replacement

def Piece.allChars : List Piece → Option (List Char)
  | [] => some []
  | .char c :: ps => (allChars ps).map (c :: ·)
  | .bad :: _ => none

def decode? (bs : List UInt8) : Option (List Char) :=
  Piece.allChars (pieces bs)

/-- The UTF-8 bytes of text. -/
def encode (s : String) : List UInt8 :=
  s.toList.flatMap String.utf8EncodeChar

def ofBytesLossy (bs : List UInt8) : String :=
  String.ofList (decodeLossy bs)

def rawByteChar (b : UInt8) : Char :=
  Char.ofNat (0x10FF00 + b.toNat)

def isRawByteChar (c : Char) : Bool :=
  c.val ≥ 0x10FF80

/-- The well-formed character at the front of bytes, with the bytes after it. The characters
that stand for raw bytes do not count, so that their own encodings come back byte by byte. -/
def charAt : List UInt8 → Option (Char × List UInt8)
  | [] => none
  | b :: rest =>
    if b.toNat < 0x80 then some (Char.ofNat b.toNat, rest)
    else match leadShape b.toNat with
      | none => none
      | some (n, lo, hi) =>
        let tail := rest.take n
        match tail with
        | [] => none
        | c1 :: cs =>
          let fits := tail.length == n && lo ≤ c1.toNat && c1.toNat ≤ hi &&
            cs.all fun c => 0x80 ≤ c.toNat && c.toNat ≤ 0xBF
          let v := tail.foldl (fun acc c => acc * 64 + c.toNat % 64) (b.toNat % 2 ^ (6 - n))
          if fits && v < 0x10FF80 then some (Char.ofNat v, rest.drop n) else none

/-- Reads bytes as UTF-8, keeping each byte that is no part of a well-formed character as the
character that stands for it. -/
def decodeKeeping : Nat → List UInt8 → List Char
  | 0, _ => []
  | _ + 1, [] => []
  | fuel + 1, b :: rest =>
    match charAt (b :: rest) with
    | some (c, after) => c :: decodeKeeping fuel after
    | none => rawByteChar b :: decodeKeeping fuel rest

def encodeKeeping (s : String) : List UInt8 :=
  if s.any isRawByteChar then
    s.toList.flatMap fun c =>
      if isRawByteChar c then [(c.val - 0x10FF00).toUInt8] else String.utf8EncodeChar c
  else s.toUTF8.toList

def ofBytesKeeping (bs : List UInt8) : String :=
  match String.fromUTF8? (ByteArray.mk bs.toArray) with
  | some s => if s.any isRawByteChar then String.ofList (decodeKeeping (bs.length + 1) bs) else s
  | none => String.ofList (decodeKeeping (bs.length + 1) bs)

/-- Text that may hold raw bytes as it reads once those bytes are written out and read back with
replacement. -/
def shownLossy (s : String) : String :=
  if s.any isRawByteChar then ofBytesLossy (encodeKeeping s) else s

example : decodeKeeping 4 [0x61, 0xFF, 0xC3] = ['a', rawByteChar 0xFF, rawByteChar 0xC3] := by
  decide
example : decodeKeeping 4 [0x68, 0xC3, 0xA9] = ['h', 'é'] := by decide

example : decodeLossy [0xFF, 0xFE] = [replacement, replacement] := by decide
example : decodeLossy [0x61, 0xE2, 0x82] = ['a', replacement] := by decide
example : decodeLossy [0xE2, 0x41] = [replacement, 'A'] := by decide
example : decode? [0x68, 0xC3, 0xA9] = some ['h', 'é'] := by decide

end BoardSetup.Text

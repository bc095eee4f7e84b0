import BoardSetup.Shell.Number
import BoardSetup.Decimal.Conversion
import BoardSetup.Text.Quoted
import BoardSetup.Text.Utf8
import BoardSetup.Numbers

/-!
# `printf`

`printf FORMAT ARG...` writes the format, its escapes read and each conversion replaced by the
next argument: `%s` and `%b` (the argument's escapes read, `\c` ending all output) write text,
`%c` its first byte, `%d` and `%i` a signed number, `%o`, `%u`, `%x` and `%X` an unsigned one, and
`%f`, `%e`, `%g` and `%a` (and their capitals) a floating-point one. A conversion may carry
flags (`#`, `-`, `+`, space, `0`), a width and a precision, either of which may be `*` to take it
from the next argument (a negative width meaning `-`, a negative precision none). The format is
run again while it took arguments and some are left; a missing argument is the empty text or
zero.

A number argument is read as the C library reads it: white space, a sign, then digits of the base
its prefix gives (`0x` hexadecimal, `0` octal); a leading quote gives the value of the byte after
it, or for the stand-alone program of the UTF-8 character after it, with a warning about any
bytes after that. An argument that is no number, or not wholly one, or out of range, is complained about, read
as far as it goes, and makes the status 1; the empty argument is zero without complaint. Unsigned
conversions take a negative number modulo 2⁶⁴.

There are two of them. The shell's own takes doubles, reads the escapes `\\ \a \b \e \f \n \r
\t \v` and up to three octal digits, fails at once on a conversion it does not know, and a `%b`
argument may put `0` before its octal digits. The stand-alone program takes the x87 extended
format, also reads `\" \xHH \uHHHH \UHHHHHHHH` (refusing a universal character name of a
control character, of a character of the basic set or of a surrogate), ends all output at `\c`
anywhere, skips the length modifiers `h l L j t z`, takes the grouping flags `'` and `I`,
refuses flags that make no sense for a conversion, names the argument it complains about in
curly quotes, and writes a bare `%q` as its argument quoted for the shell to read back.
-/

namespace BoardSetup.Shell

open BoardSetup.Decimal

/-- Which `printf` runs. -/
inductive PrintfDialect where
  /-- The shell's built-in command. -/
  | builtin
  /-- The stand-alone program. -/
  | program
  deriving DecidableEq, Repr

/-- What `printf` does, in order. -/
inductive PrintfStep where
  /-- Bytes for the standard output. -/
  | out (bs : List UInt8)
  /-- A complaint that does not stop it. -/
  | complain (msg : List UInt8)
  deriving DecidableEq, Repr

/-- How a run of `printf` ended: its steps, its status, and the complaint that stopped it, if
one did. -/
structure PrintfResult where
  steps : List PrintfStep
  status : Nat
  fatal : Option (List UInt8)
  deriving DecidableEq, Repr

def isOctalDigit (b : UInt8) : Bool := 48 ≤ b && b ≤ 55

def isDecimalByte (b : UInt8) : Bool := 48 ≤ b && b ≤ 57

def octalDigits (acc : Nat) : Nat → List UInt8 → Nat × List UInt8
  | 0, bs => (acc, bs)
  | _ + 1, [] => (acc, [])
  | n + 1, b :: bs =>
    if isOctalDigit b then octalDigits (acc * 8 + (b.toNat - 48)) n bs else (acc, b :: bs)

def hexDigitsRun (acc : Nat) : Nat → List UInt8 → Nat × List UInt8 × Nat
  | 0, bs => (acc, bs, 0)
  | _ + 1, [] => (acc, [], 0)
  | n + 1, b :: bs =>
    match hexValue b with
    | some v =>
      let (x, rest, k) := hexDigitsRun (acc * 16 + v) n bs
      (x, rest, k + 1)
    | none => (acc, b :: bs, 0)

def codePointBytes (c : Nat) : List UInt8 :=
  if c < 0x80 then [c.toUInt8]
  else if c < 0x800 then [(0xC0 + c / 64).toUInt8, (0x80 + c % 64).toUInt8]
  else if c < 0x10000 then
    [(0xE0 + c / 4096).toUInt8, (0x80 + c / 64 % 64).toUInt8, (0x80 + c % 64).toUInt8]
  else
    [(0xF0 + c / 262144).toUInt8, (0x80 + c / 4096 % 64).toUInt8, (0x80 + c / 64 % 64).toUInt8,
     (0x80 + c % 64).toUInt8]

/-- What an escape stands for. -/
inductive Escape where
  /-- These bytes. -/
  | bytes (bs : List UInt8)
  /-- `\c`: the end of all output. -/
  | stop
  /-- An escape that cannot be read, with the complaint. -/
  | bad (msg : String)
  deriving DecidableEq, Repr

/-- Reads the escape after a backslash: what it stands for and the bytes after it. With
`inArgument` it is the escape of a `%b` argument or of `echo`, where `\0` may come before the
octal digits and `\c` ends the output. -/
def readEscape (d : PrintfDialect) (inArgument : Bool) (bs : List UInt8) : Escape × List UInt8 :=
  let simple : List (UInt8 × UInt8) :=
    [(92, 92), (97, 7), (98, 8), (101, 27), (102, 12), (110, 10), (114, 13), (116, 9), (118, 11)]
  match bs with
  | [] => (.bytes [92], [])
  | b :: r =>
    match simple.lookup b with
    | some v => (.bytes [v], r)
    | none =>
      if b == 99 && (inArgument || d == .program) then (.stop, r)
      else if isOctalDigit b then
        let digits := if inArgument && b == 48 then r else b :: r
        let digits := if inArgument && b == 48 && !(r.head?.map isOctalDigit).getD false
          then b :: r else digits
        let (v, rest) := octalDigits 0 3 digits
        (.bytes [(v % 256).toUInt8], rest)
      else if d == .program then
        if b == 34 then (.bytes [34], r)
        else if b == 120 then
          let (v, rest, k) := hexDigitsRun 0 2 r
          if k == 0 then (.bad "missing hexadecimal number in escape", rest)
          else (.bytes [v.toUInt8], rest)
        else if b == 117 || b == 85 then
          let want := if b == 117 then 4 else 8
          let (v, rest, k) := hexDigitsRun 0 want r
          if k < want then (.bad "missing hexadecimal number in escape", rest)
          else if (v ≤ 0x9F && v != 0x24 && v != 0x40 && v != 0x60) || (0xD800 ≤ v && v ≤ 0xDFFF)
          then
            let hex := Nat.toDigits 16 v
            (.bad ("invalid universal character name \\" ++ String.ofList [Char.ofNat b.toNat] ++
              String.ofList (List.replicate (want - hex.length) '0' ++ hex)), rest)
          else if v ≥ 0x110000 then
            let hex := (Nat.toDigits 16 v).map Char.toUpper
            (.bytes ("\\U".toUTF8.toList ++ (String.ofList (List.replicate (8 - hex.length) '0' ++
              hex)).toUTF8.toList), rest)
          else (.bytes (codePointBytes v), rest)
        else (.bytes [92, b], r)
      else (.bytes [92], b :: r)

/-- Text with its escapes read, as `%b` and `echo` read them: the bytes, and whether `\c` ended
it (or the complaint of an escape that could not be read). -/
def expandText (d : PrintfDialect) (acc : List UInt8) : Nat → List UInt8 → List UInt8 × Escape
  | 0, _ => (acc, .bytes [])
  | _ + 1, [] => (acc, .bytes [])
  | fuel + 1, b :: bs =>
    if b != 92 then expandText d (acc ++ [b]) fuel bs
    else match readEscape d true bs with
      | (.bytes out, rest) => expandText d (acc ++ out) fuel rest
      | (.stop, _) => (acc, .stop)
      | (.bad m, _) => (acc, .bad m)

/-! ## Conversions -/

/-- A conversion of the format: its flags, width (negative meaning flush left), precision and
letter. -/
structure Conversion where
  flags : List UInt8
  width : Int
  precision : Option Nat
  letter : UInt8
  deriving DecidableEq, Repr

namespace Conversion

def has (c : Conversion) (flag : Char) : Bool := c.flags.contains flag.toNat.toUInt8

def left (c : Conversion) : Bool := c.has '-' || c.width < 0

def pad (c : Conversion) (body : List UInt8) : List UInt8 :=
  let fill := List.replicate (c.width.natAbs - body.length) (32 : UInt8)
  if c.left then body ++ fill else fill ++ body

/-- A number's sign, prefix and digits filled to the width: with spaces, or with zeros after
the prefix when `zeros` allows. -/
def fill (c : Conversion) (sign pre digits : List UInt8) (zeros : Bool) : List UInt8 :=
  let body := sign ++ pre ++ digits
  let gap := c.width.natAbs - body.length
  if c.left then body ++ List.replicate gap 32
  else if zeros && c.has '0' then sign ++ pre ++ List.replicate gap 48 ++ digits
  else List.replicate gap 32 ++ body

def sign (c : Conversion) (negative : Bool) : List UInt8 :=
  if negative then [45] else if c.has '+' then [43] else if c.has ' ' then [32] else []

end Conversion

def digitBytes (base : Nat) (upper : Bool) (n : Nat) : List UInt8 :=
  (Nat.toDigits base n).map fun ch =>
    let b := ch.toNat.toUInt8
    if upper && 97 ≤ b && b ≤ 122 then b - 32 else b

def formatSigned (c : Conversion) (v : Int) : List UInt8 :=
  let raw := if c.precision == some 0 && v == 0 then [] else digitBytes 10 false v.natAbs
  let digits := List.replicate (c.precision.getD 0 - raw.length) 48 ++ raw
  c.fill (c.sign (v < 0)) [] digits c.precision.isNone

def formatUnsigned (c : Conversion) (v : Nat) : List UInt8 :=
  let base := if c.letter == 111 then 8 else if c.letter == 117 then 10 else 16
  let raw := if c.precision == some 0 && v == 0 then [] else digitBytes base (c.letter == 88) v
  let digits := List.replicate (c.precision.getD 0 - raw.length) 48 ++ raw
  let digits := if c.letter == 111 && c.has '#' && digits.head? != some 48 then 48 :: digits
    else digits
  let pre : List UInt8 :=
    if (c.letter == 120 || c.letter == 88) && c.has '#' && v != 0 then [48, c.letter] else []
  c.fill [] pre digits c.precision.isNone

def formatFloat (d : PrintfDialect) (c : Conversion) (v : FloatValue) : List UInt8 :=
  let upper := c.letter == 70 || c.letter == 69 || c.letter == 71 || c.letter == 65
  let lower := if upper then c.letter + 32 else c.letter
  let alt := c.has '#'
  let special := fun (neg : Bool) (word : String) =>
    c.fill (c.sign neg) [] (if upper then word.toUpper else word).toUTF8.toList false
  match v with
  | .infinite neg => special neg "inf"
  | .nan neg => special neg "nan"
  | .finite neg m e =>
    let prec := c.precision.getD 6
    let text :=
      if lower == 102 then fixedText m e prec alt
      else if lower == 101 then scientificText m e prec alt upper
      else if lower == 103 then generalText m e prec alt upper
      else hexText (d != .builtin) m e c.precision alt upper
    let bytes := text.toUTF8.toList
    if lower == 97 then c.fill (c.sign neg) (bytes.take 2) (bytes.drop 2) true
    else c.fill (c.sign neg) [] bytes true

/-! ## Arguments -/

/-- The state of a run: the steps so far (latest first), the arguments left, whether any was
taken, and whether a complaint makes the status 1. -/
structure PrintfState where
  steps : List PrintfStep := []
  args : List (List UInt8)
  took : Bool := false
  failed : Bool := false
  /-- Whether `POSIXLY_CORRECT` is in the environment, which silences the warning about text
  after a character constant. -/
  posix : Bool := false
  deriving DecidableEq, Repr

namespace PrintfState

def put (s : PrintfState) (bs : List UInt8) : PrintfState :=
  { s with steps := .out bs :: s.steps }

def complain (s : PrintfState) (msg : List UInt8) : PrintfState :=
  { s with steps := .complain msg :: s.steps, failed := true }

def warn (s : PrintfState) (msg : List UInt8) : PrintfState :=
  { s with steps := .complain msg :: s.steps }

def next (s : PrintfState) : Option (List UInt8) × PrintfState :=
  match s.args with
  | a :: rest => (some a, { s with args := rest, took := true })
  | [] => (none, s)

end PrintfState

def shownArgument (d : PrintfDialect) (a : List UInt8) : List UInt8 :=
  if d == .program then Text.curlyQuote a else a

def firstCharLength (bs : List UInt8) : Option Nat :=
  match bs with
  | [] => none
  | b :: rest =>
    if b < 0x80 then some 1
    else match Text.leadShape b.toNat with
      | some (n, lo, hi) =>
        let tail := rest.take n
        if tail.length == n && tail.all (fun c => 0x80 ≤ c && c ≤ 0xBF) &&
            (tail.head?.map fun c => lo ≤ c.toNat && c.toNat ≤ hi).getD false then some (n + 1)
        else none
      | none => none

/-- The value of a character constant, the bytes after its quote. The shell's own `printf` takes
the first byte. The stand-alone program takes the code point of the first character, when more
than one byte follows the quote and they begin with a well-formed character, and warns about the
bytes after that character. -/
def quotedValue (d : PrintfDialect) (s : PrintfState) (r : List UInt8) : Nat × PrintfState :=
  let first := (r.head?.getD 0).toNat
  if d == .builtin then (first, s)
  else
    let (v, after) := match r, firstCharLength r with
      | _ :: _ :: _, some n =>
        ((Text.decodeLossy (r.take n)).head?.map Char.toNat |>.getD first, r.drop n)
      | _, _ => (first, r.drop 1)
    if after.isEmpty || s.posix then (v, s)
    else (v, s.warn ("warning: ".toUTF8.toList ++ after ++
      ": character(s) following character constant have been ignored".toUTF8.toList))

/-- Whether an argument is a character constant: a quote, and for the stand-alone program
something after it. -/
def isCharConstant (d : PrintfDialect) (a : List UInt8) : Bool :=
  match a with
  | q :: r => (q == 39 || q == 34) && (d == .builtin || !r.isEmpty)
  | [] => false

/-- The complaint about a number argument, if it deserves one: it was not a number at all, not
wholly one, or out of range. -/
def numberComplaint (d : PrintfDialect) (a : List UInt8) (converted : Bool) (rest : List UInt8)
    (outOfRange : Bool) : Option (List UInt8) :=
  let shown := shownArgument d a
  let text := fun (builtinText programText : String) =>
    some (shown ++ (if d == .builtin then builtinText else programText).toUTF8.toList)
  if !rest.isEmpty then
    if !converted then text ": expected numeric value" ": expected a numeric value"
    else text ": not completely converted" ": value not completely converted"
  else if outOfRange then text ": Numerical result out of range" ": Numerical result out of range"
  else none

def readSigned (d : PrintfDialect) (s : PrintfState) : Int × PrintfState :=
  match s.next with
  | (none, s) => (0, s)
  | (some a, s) =>
    if isCharConstant d a then
      let (v, s) := quotedValue d s (a.drop 1)
      (v, s)
    else readPlain a s
where
  /-- Reads a number argument with no leading quote. -/
  readPlain (a : List UInt8) (s : PrintfState) : Int × PrintfState :=
    let sc := scanInteger a 0
    let (v, overflowed) := sc.signed
    match numberComplaint d a sc.converted sc.rest overflowed with
    | some m => (v, s.complain m)
    | none => (v, s)

def readUnsigned (d : PrintfDialect) (s : PrintfState) : Nat × PrintfState :=
  match s.next with
  | (none, s) => (0, s)
  | (some a, s) =>
    if isCharConstant d a then quotedValue d s (a.drop 1)
    else readPlain a s
where
  /-- Reads a number argument with no leading quote. -/
  readPlain (a : List UInt8) (s : PrintfState) : Nat × PrintfState :=
    let sc := scanInteger a 0
    let (v, overflowed) := sc.unsigned
    match numberComplaint d a sc.converted sc.rest overflowed with
    | some m => (v, s.complain m)
    | none => (v, s)

def readFloatArg (d : PrintfDialect) (s : PrintfState) : FloatValue × PrintfState :=
  let fmt := if d == .builtin then FloatFormat.double else FloatFormat.extended
  match s.next with
  | (none, s) => (.finite false 0 0, s)
  | (some a, s) =>
    if isCharConstant d a then
      let (v, s) := quotedValue d s (a.drop 1)
      (.finite false v 0, s)
    else readPlain fmt a s
where
  /-- Reads a number argument with no leading quote. -/
  readPlain (fmt : FloatFormat) (a : List UInt8) (s : PrintfState) : FloatValue × PrintfState :=
    let r := fmt.read a
    match numberComplaint d a r.converted r.rest r.outOfRange with
    | some m => (r.value, s.complain m)
    | none => (r.value, s)

def truncate32 (v : Int) : Int :=
  let m := v % 2 ^ 32
  if m ≥ 2 ^ 31 then m - 2 ^ 32 else m

/-! ## The format -/

/-- How a pass over the format ended. -/
inductive PassEnd where
  /-- The format is used up. -/
  | done
  /-- `\c` ended all output. -/
  | stop
  /-- A complaint that ends `printf`. -/
  | fatal (msg : List UInt8)
  deriving DecidableEq, Repr

/-- The flags of a conversion; the stand-alone program also takes the grouping flags `'` and
`I`, which group nothing in its locale. -/
def isFlagByte (d : PrintfDialect) (b : UInt8) : Bool :=
  b == 35 || b == 45 || b == 43 || b == 32 || b == 48 || (d == .program && (b == 39 || b == 73))

def programAllows (flags : List UInt8) (hasPrecision : Bool) (letter : UInt8) : Bool :=
  let known := [97, 65, 99, 100, 101, 69, 102, 70, 103, 71, 105, 111, 115, 117, 120, 88]
  known.contains letter &&
    !(flags.contains 35 && [99, 100, 105, 115, 117].contains letter) &&
    !(flags.contains 48 && [99, 115].contains letter) &&
    !((flags.contains 39 || flags.contains 73) &&
      [97, 65, 99, 101, 69, 111, 115, 120, 88].contains letter) &&
    !(hasPrecision && letter == 99)

/-- Reads a width or precision of digits, or `*` taking an argument: its value, if any, the state,
the bytes after it, and the complaint that ends `printf` when the stand-alone program finds the
value out of range. -/
def readCount (d : PrintfDialect) (s : PrintfState) (bs : List UInt8) (precise : Bool) :
    Option Int × PrintfState × List UInt8 × Option (List UInt8) :=
  match bs with
  | 42 :: r =>
    let arg := s.args.head?
    let (v, s) := readSigned d s
    if d == .builtin then (some (truncate32 v), s, r, none)
    else
      let shown := shownArgument d (arg.getD [])
      if precise then
        if v < 0 then (some (-1), s, r, none)
        else if v > 2 ^ 31 - 1 then
          (none, s, r, some ("invalid precision: ".toUTF8.toList ++ shown))
        else (some v, s, r, none)
      else if v < -(2 ^ 31) || v > 2 ^ 31 - 1 then
        (none, s, r, some ("invalid field width: ".toUTF8.toList ++ shown))
      else (some v, s, r, none)
  | _ =>
    let ds := bs.takeWhile isDecimalByte
    if ds.isEmpty then (if precise then some 0 else none, s, bs, none)
    else (some (ds.foldl (fun acc b => acc * 10 + (b.toNat - 48 : Nat)) 0 : Nat), s,
      bs.drop ds.length, none)

def convert (d : PrintfDialect) (s : PrintfState) (c : Conversion) : PrintfState × Option PassEnd :=
  let letter := c.letter
  if letter == 115 then
    let (a, s) := s.next
    let a := a.getD []
    let body := match c.precision with
      | some n => a.take n
      | none => a
    (s.put (c.pad body), none)
  else if letter == 98 then
    let (a, s) := s.next
    let a := a.getD []
    match expandText d [] (a.length + 1) a with
    | (out, .bad m) => (s.put out, some (.fatal m.toUTF8.toList))
    | (out, e) =>
      let body := match c.precision with
        | some n => out.take n
        | none => out
      (s.put (c.pad body), if e == .stop then some .stop else none)
  else if letter == 99 then
    let (a, s) := s.next
    (s.put (c.pad [(a.getD []).head?.getD 0]), none)
  else if letter == 100 || letter == 105 then
    let (v, s) := readSigned d s
    (s.put (formatSigned c v), none)
  else if letter == 111 || letter == 117 || letter == 120 || letter == 88 then
    let (v, s) := readUnsigned d s
    (s.put (formatUnsigned c v), none)
  else
    let (v, s) := readFloatArg d s
    (s.put (formatFloat d c v), none)

mutual

def formatPass (d : PrintfDialect) (s : PrintfState) : Nat → List UInt8 → PrintfState × PassEnd
  | 0, _ => (s, .done)
  | _ + 1, [] => (s, .done)
  | fuel + 1, b :: bs =>
    if b == 92 then
      match readEscape d false bs with
      | (.bytes out, rest) => formatPass d (s.put out) fuel rest
      | (.stop, _) => (s, .stop)
      | (.bad m, _) => (s, .fatal m.toUTF8.toList)
    else if b != 37 then formatPass d (s.put [b]) fuel bs
    else match bs with
      | 37 :: rest => formatPass d (s.put [37]) fuel rest
      | 98 :: rest =>
        if d == .program then
          let (a, s) := s.next
          match a with
          | none => formatPass d s fuel rest
          | some a =>
            match expandText d [] (a.length + 1) a with
            | (out, .stop) => (s.put out, .stop)
            | (out, .bad m) => (s.put out, .fatal m.toUTF8.toList)
            | (out, _) => formatPass d (s.put out) fuel rest
        else directive d s bs fuel
      | 113 :: rest =>
        if d == .program then
          let (a, s) := s.next
          match a with
          | none => formatPass d s fuel rest
          | some a => formatPass d (s.put (Text.shellQuote false true a)) fuel rest
        else directive d s bs fuel
      | _ => directive d s bs fuel

def directive (d : PrintfDialect) (s : PrintfState) (bs : List UInt8) : Nat → PrintfState × PassEnd
  | 0 => (s, .done)
  | fuel + 1 =>
  let flags := bs.takeWhile (isFlagByte d)
  let r := bs.drop flags.length
  let (width, s, r, bad) := readCount d s r false
  let r := if d == PrintfDialect.builtin then r.dropWhile (fun b => isDecimalByte b || b == 42) else r
  let (precision, s, r, bad) := match r, bad with
    | 46 :: r', none =>
      let (p, s, r', bad) := readCount d s r' true
      let r' := if d == PrintfDialect.builtin then r'.dropWhile (fun b => isDecimalByte b || b == 42) else r'
      (some p, s, r', bad)
    | _, _ => (none, s, r, bad)
  let r := if d == PrintfDialect.program then r.dropWhile (fun b => [104, 108, 76, 106, 116, 122].contains b)
    else r
  let spec := 37 :: bs.take (bs.length - r.length + 1)
  match bad, r with
  | some m, _ => (s, .fatal m)
  | none, [] =>
    if d == PrintfDialect.builtin then (s, .fatal "missing format character".toUTF8.toList)
    else (s, .fatal (37 :: bs ++ ": invalid conversion specification".toUTF8.toList))
  | none, letter :: after =>
    let known := [98, 99, 115, 100, 105, 111, 117, 120, 88, 97, 65, 101, 69, 102, 70, 103, 71]
    let allowed := if d == PrintfDialect.builtin then known.contains letter
      else programAllows flags precision.isSome letter
    if !allowed then
      (s, .fatal (spec ++ (if d == PrintfDialect.builtin then ": invalid directive" else
        ": invalid conversion specification").toUTF8.toList))
    else
      let precision := match precision with
        | some (some p) => if p < 0 then none else some p.toNat
        | _ => none
      let c : Conversion := ⟨flags, width.getD 0, precision, letter⟩
      match convert d s c with
      | (s, some e) => (s, e)
      | (s, none) => formatPass d s fuel after

end

def formatPasses (d : PrintfDialect) (format : List UInt8) : Nat → PrintfState →
    PrintfState × PassEnd
  | 0, s => (s, .done)
  | fuel + 1, s =>
    let (s, e) := formatPass d s (format.length + 1) format
    match e with
    | .done => if s.took && !s.args.isEmpty then formatPasses d format fuel s else (s, .done)
    | e => (s, e)

/-- What `printf` does with a format and its arguments. -/
def runPrintf (d : PrintfDialect) (posix : Bool) (format : List UInt8) (args : List (List UInt8)) :
    PrintfResult :=
  let (s, e) := formatPasses d format (args.length + 1) { args, posix }
  let steps := s.steps.reverse
  match e with
  | .fatal m => ⟨steps, 1, some m⟩
  | .stop => ⟨steps, if d == .program then 0 else (if s.failed then 1 else 0), none⟩
  | .done =>
    let extra := if d == .program && !s.took && !s.args.isEmpty then
        [PrintfStep.complain ("warning: ignoring excess arguments, starting with ".toUTF8.toList ++
          shownArgument d (s.args.headD []))]
      else []
    ⟨steps ++ extra, if s.failed then 1 else 0, none⟩

/-- What `echo` writes for its arguments: they are joined by spaces and their escapes read; a
first argument `-n` drops the final newline, and `\c` ends the output. -/
def echoBytes (args : List (List UInt8)) : List UInt8 :=
  let (newline, words) := match args with
    | w :: rest => if w == [45, 110] then (false, rest) else (true, args)
    | [] => (true, [])
  let joined := (words.intersperse [32]).flatten
  match expandText .builtin [] (joined.length + 1) joined with
  | (out, .stop) => out
  | (out, _) => if newline then out ++ [10] else out

end BoardSetup.Shell

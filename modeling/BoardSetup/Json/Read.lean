import BoardSetup.Json.Basic
import BoardSetup.Decimal.Parts
import BoardSetup.Numbers

/-!
# Reading JSON text

The pieces a typed reader is built from. The state is the text still unread; a fault records how
many bytes remained where it was found. Two places are used: *here*, the next unread byte, and
*ahead*, one byte further (the end of the text at most), which is where a fault about the next
character is reported.

Strings, numbers and skipped values follow RFC 8259, with these decisions: an escape `\u` takes
the next four bytes; a high surrogate must be followed by a `\u` low surrogate; an integer beyond
64 bits is read as a double; a double is multiplied out from its digits (`Decimal.scale`); a value
that is skipped is only checked for its syntax.
-/

namespace BoardSetup.Json

/-- Reading with the unread text as state; the state stays as it was at a fault. -/
abbrev Reader := ExceptT Error (StateM (List Char))

def isSpace (c : Char) : Bool :=
  c == ' ' || c == '\n' || c == '\t' || c == '\r'

def faultAt (f : Fault) (rest : List Char) : Error :=
  ⟨f, some (byteLength rest)⟩

def faultAhead (f : Fault) (rest : List Char) : Error :=
  ⟨f, some (byteLength rest - 1)⟩

namespace Reader

def peek : Reader (Option Char) := do
  return (← get).head?

def bump : Reader Unit :=
  modify List.tail

def skipSpace : Reader (Option Char) := do
  modify (List.dropWhile isSpace)
  peek

def failHere (f : Fault) : Reader α := do
  throw (faultAt f (← get))

def failAhead (f : Fault) : Reader α := do
  throw (faultAhead f (← get))

def place (e : Error) : Reader Error := do
  match e.fromEnd with
  | some _ => return e
  | none => return { e with fromEnd := some (byteLength (← get)) }

def lift (f : List Char → Except Error (α × List Char)) : Reader α := do
  match f (← get) with
  | .ok (a, rest) => set rest; return a
  | .error e => throw e

end Reader

def hexValue (c : Char) : Option Nat :=
  if '0' ≤ c ∧ c ≤ '9' then some (c.toNat - '0'.toNat)
  else if 'a' ≤ c ∧ c ≤ 'f' then some (c.toNat - 'a'.toNat + 10)
  else if 'A' ≤ c ∧ c ≤ 'F' then some (c.toNat - 'A'.toNat + 10)
  else none

def hex4 (a b c d : Char) : Option Nat := do
  return (← hexValue a) * 4096 + (← hexValue b) * 256 + (← hexValue c) * 16 + (← hexValue d)

/-- The fault where fewer than four hexadecimal digits follow `\u`: the text ends within four
bytes, or the four bytes are not all digits. -/
def hexFault (rest : List Char) : Error :=
  if byteLength rest < 4 then faultAt .eofString []
  else ⟨.invalidEscape, some (byteLength rest - 4)⟩

def simpleEscape : Char → Option Char
  | '"' => some '"'
  | '\\' => some '\\'
  | '/' => some '/'
  | 'b' => some '\x08'
  | 'f' => some '\x0c'
  | 'n' => some '\n'
  | 'r' => some '\r'
  | 't' => some '\t'
  | _ => none

/-- The fault after a high surrogate that no `\u` escape follows; the byte that is not part of
one is passed. -/
def surrogateFault : List Char → Error
  | [] => faultAt .eofString []
  | ['\\'] => faultAt .eofString []
  | '\\' :: rest@(_ :: _) => faultAhead .unexpectedEndOfHexEscape rest
  | rest => faultAhead .unexpectedEndOfHexEscape rest

/-- The body of a string after its opening quote, with the characters so far (last first);
gives the text and what follows the closing quote. -/
def stringBody (acc : List Char) : List Char → Except Error (String × List Char)
  | [] => .error (faultAt .eofString [])
  | '"' :: rest => .ok (String.ofList acc.reverse, rest)
  | '\\' :: 'u' :: rest =>
    match rest with
    | a :: b :: c :: d :: rest' =>
      match hex4 a b c d with
      | none => .error (hexFault rest)
      | some n =>
        if 0xDC00 ≤ n ∧ n ≤ 0xDFFF then .error (faultAt .loneLeadingSurrogate rest')
        else if 0xD800 ≤ n ∧ n ≤ 0xDBFF then
          match rest' with
          | '\\' :: 'u' :: a₂ :: b₂ :: c₂ :: d₂ :: rest'' =>
            match hex4 a₂ b₂ c₂ d₂ with
            | none => .error (hexFault (a₂ :: b₂ :: c₂ :: d₂ :: rest''))
            | some m =>
              if 0xDC00 ≤ m ∧ m ≤ 0xDFFF then
                let cp := ((n - 0xD800) * 1024 + (m - 0xDC00)) + 0x10000
                stringBody (Char.ofNat cp :: acc) rest''
              else .error (faultAt .loneLeadingSurrogate rest'')
          | '\\' :: 'u' :: short => .error (hexFault short)
          | other => .error (surrogateFault other)
        else stringBody (Char.ofNat n :: acc) rest'
    | short => .error (hexFault short)
  | '\\' :: e :: rest =>
    match simpleEscape e with
    | some c => stringBody (c :: acc) rest
    | none => .error (faultAhead .invalidEscape (e :: rest))
  | ['\\'] => .error (faultAt .eofString [])
  | c :: rest =>
    if c.toNat < 0x20 then .error (faultAt .controlCharacter rest)
    else stringBody (c :: acc) rest

def skipStringBody : List Char → Except Error (Unit × List Char)
  | [] => .error (faultAt .eofString [])
  | '"' :: rest => .ok ((), rest)
  | '\\' :: 'u' :: rest =>
    match rest with
    | a :: b :: c :: d :: rest' =>
      match hex4 a b c d with
      | none => .error (hexFault rest)
      | some _ => skipStringBody rest'
    | short => .error (hexFault short)
  | '\\' :: e :: rest =>
    match simpleEscape e with
    | some _ => skipStringBody rest
    | none => .error (faultAhead .invalidEscape (e :: rest))
  | ['\\'] => .error (faultAt .eofString [])
  | c :: rest =>
    if c.toNat < 0x20 then .error (faultAt .controlCharacter (c :: rest))
    else skipStringBody rest

def u64Max : Nat := 2 ^ 64 - 1

def i32Max : Nat := 2 ^ 31 - 1

def clampExp (e : Int) : Int :=
  max (-(2 ^ 31 : Int)) (min (2 ^ 31 - 1) e)

def digitValue (c : Char) : Option Nat :=
  if '0' ≤ c ∧ c ≤ '9' then some (c.toNat - '0'.toNat) else none

def fromParts (positive : Bool) (sig : Nat) (exp : Int) (rest : List Char) :
    Except Error (Float × List Char) :=
  match Decimal.scale sig exp with
  | some f => .ok (if positive then f else -f, rest)
  | none => .error (faultAt .numberOutOfRange rest)

/-- Passes the digits of an exponent that is past the 32-bit range: zero when the exponent is
negative or the significand zero, else a fault. -/
def exponentOverflow (positive zeroSig positiveExp : Bool) (rest : List Char) :
    Except Error (Float × List Char) :=
  if !zeroSig && positiveExp then .error (faultAt .numberOutOfRange rest)
  else .ok (if positive then 0.0 else -0.0, rest.dropWhile (fun c => (digitValue c).isSome))

def exponentDigits (positive : Bool) (sig : Nat) (start : Int) (positiveExp : Bool) (e : Nat) :
    List Char → Except Error (Float × List Char)
  | c :: rest =>
    match digitValue c with
    | some d =>
      if e * 10 + d > i32Max then exponentOverflow positive (sig == 0) positiveExp rest
      else exponentDigits positive sig start positiveExp (e * 10 + d) rest
    | none =>
      let final := clampExp (if positiveExp then start + e else start - e)
      fromParts positive sig final (c :: rest)
  | [] =>
    let final := clampExp (if positiveExp then start + e else start - e)
    fromParts positive sig final []

def exponentPart (positive : Bool) (sig : Nat) (start : Int) (rest : List Char) :
    Except Error (Float × List Char) :=
  let rest := rest.drop 1
  let (positiveExp, rest) := match rest with
    | '+' :: r => (true, r)
    | '-' :: r => (false, r)
    | r => (true, r)
  match rest with
  | [] => .error (faultAt .eofValue [])
  | c :: r =>
    match digitValue c with
    | some d => exponentDigits positive sig start positiveExp d r
    | none => .error (faultAhead .invalidNumber (c :: r))

def startsExponent : List Char → Bool
  | 'e' :: _ | 'E' :: _ => true
  | _ => false

def decimalOverflow (positive : Bool) (sig : Nat) (exp : Int) (rest : List Char) :
    Except Error (Float × List Char) :=
  let rest := rest.dropWhile (fun c => (digitValue c).isSome)
  if startsExponent rest then exponentPart positive sig exp rest
  else fromParts positive sig exp rest

def fractionDigits (positive : Bool) (sig : Nat) (before : Int) (count : Nat) :
    List Char → Except Error (Float × List Char)
  | c :: rest =>
    match digitValue c with
    | some d =>
      if sig * 10 + d > u64Max then decimalOverflow positive sig (before - count) (c :: rest)
      else fractionDigits positive (sig * 10 + d) before (count + 1) rest
    | none =>
      if count = 0 then .error (faultAhead .invalidNumber (c :: rest))
      else if startsExponent (c :: rest) then
        exponentPart positive sig (before - count) (c :: rest)
      else fromParts positive sig (before - count) (c :: rest)
  | [] =>
    if count = 0 then .error (faultAhead .eofValue [])
    else fromParts positive sig (before - count) []

def fractionPart (positive : Bool) (sig : Nat) (before : Int) (rest : List Char) :
    Except Error (Float × List Char) :=
  fractionDigits positive sig before 0 (rest.drop 1)

/-- Digits of an integer past 64 bits: each raises the exponent; a fraction or exponent may
follow. -/
def longInteger (positive : Bool) (sig : Nat) (rest : List Char) :
    Except Error (Float × List Char) :=
  let extra := (rest.takeWhile (fun c => (digitValue c).isSome)).length
  let rest := rest.drop extra
  match rest with
  | '.' :: _ => fractionPart positive sig extra rest
  | _ =>
    if startsExponent rest then exponentPart positive sig extra rest
    else fromParts positive sig extra rest

def numberTail (positive : Bool) (sig : Nat) (rest : List Char) :
    Except Error (Number × List Char) :=
  let asFloat (r : Except Error (Float × List Char)) := r.map fun (f, rest) => (Number.float f, rest)
  match rest with
  | '.' :: _ => asFloat (fractionPart positive sig 0 rest)
  | _ =>
    if startsExponent rest then asFloat (exponentPart positive sig 0 rest)
    else if positive then .ok (.unsigned sig, rest)
    else if 1 ≤ sig ∧ sig ≤ 2 ^ 63 then .ok (.negative (-(sig : Int)), rest)
    else .ok (.float (-(Decimal.nearest sig)), rest)

def integerDigits (positive : Bool) (sig : Nat) : List Char → Except Error (Number × List Char)
  | c :: rest =>
    match digitValue c with
    | some d =>
      if sig * 10 + d > u64Max then
        (longInteger positive sig (c :: rest)).map fun (f, r) => (.float f, r)
      else integerDigits positive (sig * 10 + d) rest
    | none => numberTail positive sig (c :: rest)
  | [] => numberTail positive sig []

def number (positive : Bool) : List Char → Except Error (Number × List Char)
  | [] => .error (faultAt .eofValue [])
  | '0' :: rest =>
    match rest with
    | c :: _ =>
      if (digitValue c).isSome then .error (faultAhead .invalidNumber rest)
      else numberTail positive 0 rest
    | [] => numberTail positive 0 rest
  | c :: rest =>
    match digitValue c with
    | some d => integerDigits positive d rest
    | none => .error (faultAhead .invalidNumber (c :: rest))

def skipExponent (rest : List Char) : Except Error (Unit × List Char) :=
  let rest := rest.drop 1
  let rest := match rest with
    | '+' :: r | '-' :: r => r
    | r => r
  match rest with
  | c :: r =>
    if (digitValue c).isSome then .ok ((), r.dropWhile (fun c => (digitValue c).isSome))
    else .error (faultAhead .invalidNumber (c :: r))
  | [] => .error (faultAt .invalidNumber [])

def skipNumber (rest : List Char) : Except Error (Unit × List Char) :=
  let afterInt : Except Error (List Char) := match rest with
    | '0' :: r =>
      match r with
      | c :: _ => if (digitValue c).isSome then .error (faultAhead .invalidNumber r) else .ok r
      | [] => .ok r
    | c :: r =>
      if (digitValue c).isSome then .ok (r.dropWhile (fun c => (digitValue c).isSome))
      else .error (faultAhead .invalidNumber (c :: r))
    | [] => .error (faultAt .invalidNumber [])
  match afterInt with
  | .error e => .error e
  | .ok r =>
    match r with
    | '.' :: r' =>
      let ds := r'.takeWhile (fun c => (digitValue c).isSome)
      if ds.isEmpty then .error (faultAhead .invalidNumber r')
      else
        let r'' := r'.drop ds.length
        if startsExponent r'' then skipExponent r'' else .ok ((), r'')
    | _ => if startsExponent r then skipExponent r else .ok ((), r)

def word (expected : List Char) : List Char → Except Error (Unit × List Char)
  | rest =>
    match expected, rest with
    | [], r => .ok ((), r)
    | _ :: _, [] => .error (faultAt .eofValue [])
    | e :: es, c :: r =>
      if c = e then word es r else .error (faultAhead .expectedIdent (c :: r))

namespace Reader

def string : Reader String :=
  lift (stringBody [])

def literal (w : String) : Reader Unit :=
  lift (word w.toList)

def numberAfterSign (positive : Bool) : Reader Number :=
  lift (number positive)

mutual

def skipValue : Nat → Reader Unit
  | 0 => failHere .eofValue
  | fuel + 1 => do
    match ← skipSpace with
    | none => failAhead .eofValue
    | some 'n' => bump; literal "ull"
    | some 't' => bump; literal "rue"
    | some 'f' => bump; literal "alse"
    | some '-' => bump; lift skipNumber
    | some '"' => bump; lift skipStringBody
    | some '[' =>
      bump
      match ← skipSpace with
      | some ']' => bump
      | none => failAhead .eofList
      | some _ => skipItems fuel
    | some '{' =>
      bump
      match ← skipSpace with
      | some '}' => bump
      | none => failAhead .eofObject
      | some _ => skipEntries fuel
    | some c =>
      if (digitValue c).isSome then lift skipNumber else failAhead .expectedValue

def skipItems : Nat → Reader Unit
  | 0 => failHere .eofList
  | fuel + 1 => do
    skipValue fuel
    match ← skipSpace with
    | some ',' => bump; skipItems fuel
    | some ']' => bump
    | some _ => failAhead .expectedListCommaOrEnd
    | none => failAhead .eofList

def skipEntries : Nat → Reader Unit
  | 0 => failHere .eofObject
  | fuel + 1 => do
    match ← skipSpace with
    | some '"' => bump; lift skipStringBody
    | some _ => failAhead .keyMustBeString
    | none => failAhead .eofObject
    match ← skipSpace with
    | some ':' => bump
    | some _ => failAhead .expectedColon
    | none => failAhead .eofObject
    skipValue fuel
    match ← skipSpace with
    | some ',' => bump; skipEntries fuel
    | some '}' => bump
    | some _ => failAhead .expectedObjectCommaOrEnd
    | none => failAhead .eofObject

end

/-- What a value is, read just far enough to say so, for a fault about its kind: words, numbers
and strings are read whole, brackets are not entered. -/
def unexpected : Reader (Except Error Unexpected) := do
  match ← peek with
  | some 'n' => bump; literal "ull"; return .ok .unit
  | some 't' => bump; literal "rue"; return .ok (.bool true)
  | some 'f' => bump; literal "alse"; return .ok (.bool false)
  | some '-' => bump; return .ok (← numberAfterSign false).unexpected
  | some '"' => bump; return .ok (.str (← string))
  | some '[' => return .ok .seq
  | some '{' => return .ok .map
  | some c =>
    if (digitValue c).isSome then return .ok (← numberAfterSign true).unexpected
    else return .error (faultAhead .expectedValue (← get))
  | none => return .error (faultAhead .expectedValue (← get))

def wrongKind (wanted : String) : Reader α := do
  match ← unexpected with
  | .ok found => throw (← place ⟨.invalidType found wanted, none⟩)
  | .error e => throw e

end Reader

end BoardSetup.Json

import BoardSetup.Decimal.Shortest
import BoardSetup.Text.Printable
import BoardSetup.Text.Utf8

/-!
# JSON values and reading faults

A JSON number is kept as what it fits: an unsigned 64-bit integer, a negative 64-bit integer, or
a double. `Value` is a whole JSON document. A reader that expects one kind of value and meets
another reports what it met (`Unexpected`) and what it wanted; a fault of the text itself is
located by line and column, the column counted in bytes from the last newline.
-/

namespace BoardSetup.Json

/-- A JSON number, as it fits. -/
inductive Number where
  | unsigned (n : Nat)
  | negative (n : Int)
  | float (f : Float)

/-- A JSON document. -/
inductive Value where
  | null
  | bool (b : Bool)
  | num (n : Number)
  | str (s : String)
  | arr (xs : List Value)
  | obj (kvs : List (String × Value))

/-- What a reader met where it wanted something else. -/
inductive Unexpected where
  | unit
  | bool (b : Bool)
  | unsigned (n : Nat)
  | signed (n : Int)
  | float (f : Float)
  | str (s : String)
  | seq
  | map

/-- Doubles in messages are positional while the point stands after at most 16 digits and no more
than four zeros follow it, and otherwise take an exponent with its sign. -/
def floatStyle : Decimal.Style := ⟨16, -5, true⟩

def Unexpected.describe : Unexpected → String
  | .unit => "null"
  | .bool b => s!"boolean `{b}`"
  | .unsigned n => s!"integer `{n}`"
  | .signed n => s!"integer `{n}`"
  | .float f => "floating point `" ++ floatStyle.render f ++ "`"
  | .str s => "string " ++ Text.quote false s
  | .seq => "sequence"
  | .map => "map"

def Number.unexpected : Number → Unexpected
  | .unsigned n => .unsigned n
  | .negative n => .signed n
  | .float f => .float f

def Value.unexpected : Value → Unexpected
  | .null => .unit
  | .bool b => .bool b
  | .num n => n.unexpected
  | .str s => .str s
  | .arr _ => .seq
  | .obj _ => .map

/-- Why reading stopped. -/
inductive Fault where
  | eofList
  | eofObject
  | eofString
  | eofValue
  | expectedColon
  | expectedListCommaOrEnd
  | expectedObjectCommaOrEnd
  | expectedIdent
  | expectedValue
  | invalidEscape
  | invalidNumber
  | numberOutOfRange
  | controlCharacter
  | keyMustBeString
  | loneLeadingSurrogate
  | trailingComma
  | trailingCharacters
  | unexpectedEndOfHexEscape
  | invalidType (found : Unexpected) (wanted : String)
  | invalidValue (found : Unexpected) (wanted : String)
  | invalidLength (n : Nat) (wanted : String)
  | duplicateField (name : String)

def Fault.text : Fault → String
  | .eofList => "EOF while parsing a list"
  | .eofObject => "EOF while parsing an object"
  | .eofString => "EOF while parsing a string"
  | .eofValue => "EOF while parsing a value"
  | .expectedColon => "expected `:`"
  | .expectedListCommaOrEnd => "expected `,` or `]`"
  | .expectedObjectCommaOrEnd => "expected `,` or `\x7D`"
  | .expectedIdent => "expected ident"
  | .expectedValue => "expected value"
  | .invalidEscape => "invalid escape"
  | .invalidNumber => "invalid number"
  | .numberOutOfRange => "number out of range"
  | .controlCharacter => "control character (\\u0000-\\u001F) found while parsing a string"
  | .keyMustBeString => "key must be a string"
  | .loneLeadingSurrogate => "lone leading surrogate in hex escape"
  | .trailingComma => "trailing comma"
  | .trailingCharacters => "trailing characters"
  | .unexpectedEndOfHexEscape => "unexpected end of hex escape"
  | .invalidType found wanted => s!"invalid type: {found.describe}, expected {wanted}"
  | .invalidValue found wanted => s!"invalid value: {found.describe}, expected {wanted}"
  | .invalidLength n wanted => s!"invalid length {n}, expected {wanted}"
  | .duplicateField name => s!"duplicate field `{name}`"

/-- A fault, and where in the text it was found: so many bytes before the end. A fault about a
value rather than the text has no place. -/
structure Error where
  fault : Fault
  fromEnd : Option Nat

def byteLength (cs : List Char) : Nat :=
  cs.foldl (fun n c => n + c.utf8Size) 0

/-- Line and column of a byte offset: lines count from one, columns are bytes after the last
newline before the offset. -/
def locate (bytes : List UInt8) (i : Nat) : Nat × Nat :=
  let before := bytes.take i
  let line := 1 + before.count 10
  let tail := (before.reverse.takeWhile (· != 10)).length
  (line, tail)

def Error.message (e : Error) (src : String) : String :=
  match e.fromEnd with
  | none => e.fault.text
  | some k =>
    let bytes := Text.encode src
    let (line, col) := locate bytes (bytes.length - k)
    s!"{e.fault.text} at line {line} column {col}"

end BoardSetup.Json

import BoardSetup.Text.Utf8
import BoardSetup.Text.CharWidth
import BoardSetup.Numbers

/-!
# Naming an argument in a message

The GNU programs name an argument in a message between curly single quotes, as they do in a UTF-8
locale. Inside the quotes a backslash is doubled, the control characters that C has escapes for
are written as those escapes (`\n`, `\t`, …), and any other control byte as a backslash and three
octal digits; the rest, UTF-8 text included, stands for itself, but for bytes that are no UTF-8,
each written in octal too.

A listing measures a name by the places it takes on a terminal, and may write each character of
it that does not show as a `?`.
-/

namespace BoardSetup.Text

def openingQuote : List UInt8 := [0xE2, 0x80, 0x98]

def closingQuote : List UInt8 := [0xE2, 0x80, 0x99]

def quotedByte (b : UInt8) : List UInt8 :=
  let named : List (UInt8 × UInt8) :=
    [(7, 97), (8, 98), (9, 116), (10, 110), (11, 118), (12, 102), (13, 114), (92, 92)]
  match named.lookup b with
  | some c => [92, c]
  | none =>
    if b < 32 || b == 127 then
      [92, 48 + b / 64, 48 + b / 8 % 8, 48 + b % 8]
    else [b]

/-! ## Quoting for the shell

A word is written so that the shell reads it back as it is. A word that needs no quoting stays as
it is, unless quotes are asked for always. Otherwise it goes between single quotes, a single
quote inside written `'\''`, or, when it holds a single quote and nothing that double quotes
would change, between double quotes. With escapes, a character that does not show is written
inside `$'…'` as a C escape or in octal. -/

/-- What a unit of bytes in a text is: a character that shows, with its code point; a control
character or a line or paragraph separator, which does not; a code point that no character is
assigned to; a byte that begins no character; or the start of a character that the end of the
text cuts off. -/
inductive CharKind where
  | shows (code : Nat)
  | control
  | unassigned
  | invalid
  | cutOff
  deriving DecidableEq, Repr

def CharKind.isShown : CharKind → Bool
  | .shows _ => true
  | _ => false

/-- Whether the bytes after a lead byte are the continuation bytes it asks for, the first within
`lo..hi`. -/
def continues (lo hi : Nat) (tail : List UInt8) : Bool :=
  (tail.head?.all fun c => lo ≤ c.toNat && c.toNat ≤ hi) &&
    (tail.drop 1).all fun c => 0x80 ≤ c && c ≤ 0xBF

def codeKind (code : Nat) : CharKind :=
  if code < 0xA0 || code == 0x2028 || code == 0x2029 then .control
  else if showsAsChar code then .shows code
  else .unassigned

/-- The characters of a text as units of bytes, each with its kind. An ASCII byte shows unless
it is a control; a well-formed UTF-8 sequence is of the kind of its code point. A byte
that starts no such sequence is a unit alone, and the start of a sequence that the text ends
before its last byte is one unit with all that is left. -/
def charUnits : Nat → List UInt8 → List (List UInt8 × CharKind)
  | 0, _ => []
  | _ + 1, [] => []
  | fuel + 1, b :: bs =>
    if b < 0x80 then
      ([b], if 32 ≤ b && b < 127 then .shows b.toNat else .control) :: charUnits fuel bs
    else match leadShape b.toNat with
      | some (n, lo, hi) =>
        let tail := bs.take n
        if tail.length == n && continues lo hi tail then
          let code := tail.foldl (fun acc c => acc * 64 + c.toNat % 64) (b.toNat % 2 ^ (6 - n))
          (b :: tail, codeKind code) :: charUnits fuel (bs.drop n)
        else if bs.length < n && continues lo hi bs then [(b :: bs, .cutOff)]
        else ([b], .invalid) :: charUnits fuel bs
      | none => ([b], .invalid) :: charUnits fuel bs

example : charUnits 4 [97, 0xC3, 0xBC] = [([97], .shows 97), ([0xC3, 0xBC], .shows 0xFC)] := by
  decide +kernel
example : charUnits 4 [0xCD, 0xB8, 0xE2, 0x80, 0xA8] =
    [([0xCD, 0xB8], .unassigned), ([0xE2, 0x80, 0xA8], .control)] := by
  decide +kernel
example : charUnits 4 [0xFF, 0xE2, 0x80] = [([0xFF], .invalid), ([0xE2, 0x80], .cutOff)] := by
  decide

/-- The places a unit takes on a terminal: a character that shows its width, a control none,
and an unassigned code point, a byte that begins no character, or a cut-off character, one. -/
def CharKind.width : CharKind → Nat
  | .shows c => charWidth c
  | .control => 0
  | .unassigned | .invalid | .cutOff => 1

def displayWidth (bs : List UInt8) : Nat :=
  ((charUnits (bs.length + 1) bs).map (·.2.width)).sum

def questionMarks (bs : List UInt8) : List UInt8 :=
  (charUnits (bs.length + 1) bs).flatMap fun (u, k) => if k.isShown then u else [63]

example : displayWidth [97, 1, 0xFF, 0xE4, 0xB8, 0x80] = 4 := by decide +kernel
example : displayWidth [0xCC, 0x80, 0xEF, 0xB8, 0x90] = 2 := by decide +kernel
example : questionMarks [97, 10, 0xFF, 0xE2, 0x80] = [97, 63, 63, 63] := by decide

/-- Whether a byte, at a place in a word of a length, makes the shell read the word otherwise
than as it is: blanks, quotes, the backslash and the shell's operators and pattern characters
anywhere, `#` and `~` at the start, and `{` or `}` alone. -/
def shellSpecial (b : UInt8) (place length : Nat) : Bool :=
  [9, 10, 32, 33, 34, 36, 38, 39, 40, 41, 42, 59, 60, 61, 62, 63, 91, 92, 94, 96, 124].contains b ||
    ((b == 35 || b == 126) && place == 0) || ((b == 123 || b == 125) && length == 1)

/-- Whether a byte that shows, at a place in a word of a length, means the same between double
quotes in C and in the shell: all but the shell's operators, quotes other than the single one,
the backslash and the pattern characters, `#` and `~` only at the start, `{` and `}` only alone. -/
def quoteCompatible (b : UInt8) (place length : Nat) : Bool :=
  !([33, 34, 36, 38, 40, 41, 42, 59, 60, 61, 62, 63, 91, 92, 94, 96, 124].contains b) &&
    !((b == 35 || b == 126) && place != 0) && !((b == 123 || b == 125) && length != 1)

/-- A byte as a C escape: the named ones for the controls that have them, three octal digits
otherwise. -/
def octalEscape (b : UInt8) : List UInt8 :=
  let named : List (UInt8 × UInt8) :=
    [(7, 97), (8, 98), (9, 116), (10, 110), (11, 118), (12, 102), (13, 114)]
  match named.lookup b with
  | some c => [92, c]
  | none => [92, 48 + b / 64, 48 + b / 8 % 8, 48 + b % 8]

/-- An argument between curly quotes, escaped as the GNU programs write it in messages: what does
not show, byte by byte as C escapes. -/
def curlyQuote (bs : List UInt8) : List UInt8 :=
  openingQuote ++ (charUnits (bs.length + 1) bs).flatMap (fun (u, k) =>
    if k.isShown then u.flatMap quotedByte else u.flatMap octalEscape) ++ closingQuote

/-- A word written for the shell to read back: left as it is when nothing in it needs quoting
and quotes are not asked for `always`; with `escapes`, the characters that do not show are
written as escapes inside `$'…'`. -/
def shellQuote (always escapes : Bool) (word : List UInt8) : List UInt8 :=
  let units := charUnits (word.length + 1) word
  let placed := (units.foldl (fun (acc : List (List UInt8 × Bool × Nat) × Nat) (u, k) =>
    (acc.1 ++ [(u, k.isShown, acc.2)], acc.2 + u.length)) ([], 0)).1
  let single := fun (u : List UInt8) => match u with
    | [b] => some b
    | _ => none
  let needs := word.isEmpty || placed.any fun (u, shows, at_) =>
    !shows || (single u).any (shellSpecial · at_ word.length)
  let compatible := placed.all fun (u, shows, at_) =>
    shows && (single u).all (quoteCompatible · at_ word.length)
  if !always && !needs then word
  else if word.contains 39 && compatible then [34] ++ word ++ [34]
  else
    let body := (units.foldl (fun (acc : List UInt8 × Bool) (u, k) =>
      let (out, pending) := acc
      if !k.isShown && escapes then
        ((if pending then out else out ++ [39, 36, 39]) ++ u.flatMap octalEscape, true)
      else
        let out := if pending then out ++ [39, 39] else out
        (if u == [39] then out ++ [39, 92, 39, 39] else out ++ u, false)) ([39], false)).1
    body ++ [39]

example : shellQuote false true [97, 32, 98] = [39, 97, 32, 98, 39] := by decide
example : shellQuote false true [105, 39, 115] = [34, 105, 39, 115, 34] := by decide
example : shellQuote false true [97, 10, 98] =
    [39, 97, 39, 36, 39, 92, 110, 39, 39, 98, 39] := by decide

example : curlyQuote [97, 10] = [0xE2, 0x80, 0x98, 97, 92, 110, 0xE2, 0x80, 0x99] := by decide
example : curlyQuote [0xFF] = [0xE2, 0x80, 0x98, 92, 51, 55, 55, 0xE2, 0x80, 0x99] := by decide
example : quotedByte 1 = [92, 48, 48, 49] := by decide

end BoardSetup.Text

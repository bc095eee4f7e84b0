/-!
# Shell patterns

The patterns of `case`, of the trimming expansions `${x#p}` and `${x%p}`, and of file names.
A pattern is a list of bytes, each marked when it was quoted: a quoted byte stands for itself. Of
the unquoted ones, `?` matches any one byte, `*` any run of bytes, and `[...]` one byte of a set:
single bytes, ranges `a-z`, classes such as `[:digit:]`, all negated after a leading `!`; a `]`
right after the opening bracket (or its `!`) belongs to the set, and a `[` with no closing `]`
stands for itself. An unquoted backslash, which only the value of an expansion can bring, makes
the byte after it stand for itself, also inside brackets, where it keeps a `]` from closing the
set and a `-` from making a range. Matching is by bytes, in the C locale, and the ends of a range
compare as signed characters, so a range reaching a byte from 128 up holds no byte above its
start.
-/

namespace BoardSetup.Shell

/-- A byte of a pattern and whether it was quoted. -/
abbrev PatByte := UInt8 × Bool

/-- A pattern. -/
abbrev Pattern := List PatByte

def inClass (name : List UInt8) (b : UInt8) : Option Bool :=
  let upper := 65 ≤ b && b ≤ 90
  let lower := 97 ≤ b && b ≤ 122
  let digit := 48 ≤ b && b ≤ 57
  let alpha := upper || lower
  let print := 32 ≤ b && b ≤ 126
  let space := b == 32 || (9 ≤ b && b ≤ 13)
  match String.ofList (name.map fun c => Char.ofNat c.toNat) with
  | "alnum" => some (alpha || digit)
  | "alpha" => some alpha
  | "blank" => some (b == 32 || b == 9)
  | "cntrl" => some (b < 32 || b == 127)
  | "digit" => some digit
  | "graph" => some (print && b != 32)
  | "lower" => some lower
  | "print" => some print
  | "punct" => some (print && b != 32 && !alpha && !digit)
  | "space" => some space
  | "upper" => some upper
  | "xdigit" => some (digit || (65 ≤ b && b ≤ 70) || (97 ≤ b && b ≤ 102))
  | _ => none

/-- A pattern written out as bytes, each quoted byte behind a backslash: the form the matcher
reads, where a backslash always makes the byte after it stand for itself. -/
def Pattern.escaped (p : Pattern) : List UInt8 :=
  p.flatMap fun (b, q) => if q then [92, b] else [b]

def signedByte (b : UInt8) : Int :=
  if b < 128 then b.toNat else (b.toNat : Int) - 256

/-- A class name `name:]` at the start of an escaped pattern after `[:`: the name and the pattern
after. -/
def className : List UInt8 → Nat → Option (List UInt8 × List UInt8)
  | _, 0 => none
  | 58 :: 93 :: rest, _ => some ([], rest)
  | c :: rest, n + 1 =>
    match className rest n with
    | some (name, after) => some (c :: name, after)
    | none => none
  | [], _ => none

/-- A class `[:name:]` whose `[` has been read, tested on a byte: whether the byte is in it and
the pattern after it, when the name is one of the classes. -/
def classMember (b : UInt8) : List UInt8 → Option (Bool × List UInt8)
  | 58 :: rest =>
    match className rest (rest.length + 1) with
    | some (name, after) => (inClass name b).map fun hit => (hit, after)
    | none => none
  | _ => none

mutual

/-- The members of a bracket expression after one: whether the byte is in the set, and the
pattern after the closing `]`, or nothing when no `]` closes it. -/
def bracketFrom (b : UInt8) (found : Bool) : List UInt8 → Nat → Option (Bool × List UInt8)
  | _, 0 => none
  | [], _ => none
  | 93 :: rest, _ => some (found, rest)
  | c :: rest, n + 1 => bracketMember b found c rest n

def bracketMember (b : UInt8) (found : Bool) (c : UInt8) :
    List UInt8 → Nat → Option (Bool × List UInt8)
  | _, 0 => none
  | rest, n + 1 =>
    if c == 91 then
      match classMember b rest with
      | some (hit, after) => bracketFrom b (found || hit) after n
      | none => rangeOrByte b found c rest n
    else if c == 92 then
      match rest with
      | [] => none
      | c' :: rest' => rangeOrByte b found c' rest' n
    else rangeOrByte b found c rest n

/-- A member that is a single byte `c` or a range from `c`: a `-` makes a range unless a bare `]`
follows it, and the range's end may stand behind a backslash. Range ends compare as signed
characters. -/
def rangeOrByte (b : UInt8) (found : Bool) (c : UInt8) :
    List UInt8 → Nat → Option (Bool × List UInt8)
  | _, 0 => none
  | 45 :: hi :: rest, n + 1 =>
    if hi == 93 then bracketFrom b (found || b == c) (45 :: hi :: rest) n
    else
      let ends : Option (UInt8 × List UInt8) :=
        if hi == 92 then
          match rest with
          | [] => none
          | h :: rest' => some (h, rest')
        else some (hi, rest)
      match ends with
      | none => none
      | some (top, after) =>
        let inRange := signedByte c ≤ signedByte b && signedByte b ≤ signedByte top
        bracketFrom b (found || inRange) after n
  | [45], _ + 1 => none
  | rest, n + 1 => bracketFrom b (found || b == c) rest n

end

/-- A bracket expression after its `[` against a byte: whether the byte matches, and the escaped
pattern after it; nothing when no `]` closes it. A `]` first in the set (after the `!` that negates
it) is a member. -/
def bracket (b : UInt8) (pat : List UInt8) : Option (Bool × List UInt8) :=
  let (invert, pat) := match pat with
    | 33 :: rest => (true, rest)
    | _ => (false, pat)
  match pat with
  | [] => none
  | c :: rest =>
    -- each byte of the set takes at most three steps
    let steps := 3 * pat.length + 3
    (bracketMember b false c rest steps).map fun (hit, after) => (hit != invert, after)

def matchesWithin : Nat → List UInt8 → List UInt8 → Bool
  | 0, _, _ => false
  | _ + 1, [], s => s.isEmpty
  | n + 1, 42 :: ps, s => matchStar n ps s
  | n + 1, 63 :: ps, s =>
    match s with
    | [] => false
    | _ :: s' => matchesWithin n ps s'
  | n + 1, 91 :: ps, s =>
    match s with
    | [] => false
    | b :: s' =>
      match bracket b ps with
      | some (hit, after) => hit && matchesWithin n after s'
      | none => b == 91 && matchesWithin n ps s'
  | n + 1, 92 :: c :: ps, s =>
    match s with
    | [] => false
    | b :: s' => b == c && matchesWithin n ps s'
  | n + 1, c :: ps, s =>
    match s with
    | [] => false
    | b :: s' => b == c && matchesWithin n ps s'
where
  /-- Whether `*` followed by a pattern matches a string: the rest matches some suffix. -/
  matchStar : Nat → List UInt8 → List UInt8 → Bool
    | 0, _, _ => false
    | n + 1, ps, s =>
      matchesWithin n ps s ||
        match s with
        | [] => false
        | _ :: s' => matchStar n ps s'

/-- Whether a pattern matches all of a string. -/
def Pattern.matches (p : Pattern) (s : List UInt8) : Bool :=
  let e := p.escaped
  matchesWithin (2 * (e.length + s.length) + 2) e s

def Pattern.literal (bs : List UInt8) : Pattern :=
  bs.map fun b => (b, true)

def Pattern.hasMagic (p : Pattern) : Bool :=
  p.any fun (b, q) => !q && (b == 42 || b == 63 || b == 91)

def Pattern.bytes (p : Pattern) : List UInt8 :=
  p.map (·.1)

/-- A string without its shortest (or longest) prefix that the pattern matches; the string itself
when no prefix matches. -/
def dropPrefixMatch (p : Pattern) (longest : Bool) (s : List UInt8) : List UInt8 :=
  let lengths := List.range (s.length + 1)
  let order := if longest then lengths.reverse else lengths
  match order.find? (fun k => p.matches (s.take k)) with
  | some k => s.drop k
  | none => s

/-- A string without its shortest (or longest) suffix that the pattern matches; the string itself
when no suffix matches. -/
def dropSuffixMatch (p : Pattern) (longest : Bool) (s : List UInt8) : List UInt8 :=
  let lengths := List.range (s.length + 1)
  let order := if longest then lengths.reverse else lengths
  match order.find? (fun k => p.matches (s.drop (s.length - k))) with
  | some k => s.take (s.length - k)
  | none => s

end BoardSetup.Shell

import BoardSetup.Shell.Tools
import BoardSetup.Shell.Tools.Help

/-!
# `tr`

`tr SET1 [SET2]` copies its standard input to its standard output, translating the bytes of the
first set to those at the same places in the second, deleting those of the first set (`-d`), or
squeezing each run of one byte of the last set given to one (`-s`); `-d` and `-s` together delete
by the first set and squeeze by the second. `-c` takes the bytes that are not in the first set
instead, in increasing order, and `-t` cuts the first set to the length of the second. Its
options end at its first operand.

A set is written with the escapes `\\`, `\a`, `\b`, `\f`, `\n`, `\r`, `\t`, `\v` and up to three
octal digits (a backslash before any other byte keeps that byte, and one at the end stands for
itself, with a warning), and of members: single bytes, ranges `a-z`, classes `[:alpha:]`,
equivalence classes `[=c=]` that are the byte `c`, and in the second set repeats `[c*n]`, `n`
octal when it starts with `0` (blanks and a `+` may come before it), and `[c*]`, which repeats
`c` until the second set is as long as the first. A bracket `[:…:]` or `[=…=]` that names no
class but has `*`, digits and `]` after its `:` or `=` is a repeat of that byte. A second set
shorter than the first is lengthened by repeating its last byte, which a class cannot give.

A set that cannot be read, or that breaks the rules of the sets, is complained about and makes
the status 1 without any output; so do a wrong number of operands, with the hint at `--help`.
-/

namespace BoardSetup.Shell

/-- What `tr` was asked for. -/
structure TrOptions where
  complement : Bool := false
  delete : Bool := false
  squeeze : Bool := false
  truncate : Bool := false
  deriving DecidableEq, Repr

def trOptions : List OptionSpec :=
  letterOptions "AcCdst" ++
  [{ key := "c", long := some "complement" }, { key := "d", long := some "delete" },
   { key := "s", long := some "squeeze-repeats" }, { key := "t", long := some "truncate-set1" },
   { key := "help", long := some "help" }, { key := "version", long := some "version" }]

def TrOptions.apply (o : TrOptions) (key : String) : TrOptions :=
  match key with
  | "c" | "C" => { o with complement := true }
  | "d" => { o with delete := true }
  | "s" => { o with squeeze := true }
  | "t" => { o with truncate := true }
  | _ => o

def splitAtOperand : List (List UInt8) → List (List UInt8) × List (List UInt8)
  | [] => ([], [])
  | [45, 45] :: rest => ([], rest)
  | a :: rest =>
    if a.head? == some 45 && a.length > 1 then
      let (opts, ops) := splitAtOperand rest
      (a :: opts, ops)
    else ([], a :: rest)

/-! ## Reading a set -/

/-- A byte of a set once its escapes are read, and whether an escape wrote it: such a byte is
never part of a bracket, a range or a repeat. -/
abbrev TrByte := UInt8 × Bool

def octalDigit? (b : UInt8) : Option Nat :=
  if 48 ≤ b && b ≤ 55 then some (b.toNat - 48) else none

/-- The bytes of a set with its escapes read, and the warnings reading them gives. An octal
escape takes a third digit only while the value stays below 256. -/
def trUnescape : Nat → List UInt8 → List TrByte × List String
  | 0, _ => ([], [])
  | _ + 1, [] => ([], [])
  | fuel + 1, 92 :: rest =>
    match rest with
    | [] => ([(92, false)], ["warning: an unescaped backslash at end of string is not portable"])
    | c :: more =>
      let named : List (UInt8 × UInt8) :=
        [(92, 92), (97, 7), (98, 8), (102, 12), (110, 10), (114, 13), (116, 9), (118, 11)]
      match named.lookup c, octalDigit? c with
      | some v, _ =>
        let (bs, ws) := trUnescape fuel more
        ((v, true) :: bs, ws)
      | none, some d1 =>
        match more with
        | c2 :: more2 =>
          match octalDigit? c2 with
          | some d2 =>
            let v := 8 * d1 + d2
            match more2 with
            | c3 :: more3 =>
              match octalDigit? c3 with
              | some d3 =>
                if 8 * v + d3 < 256 then
                  let (bs, ws) := trUnescape fuel more3
                  (((8 * v + d3).toUInt8, true) :: bs, ws)
                else
                  let digits := String.ofList ([c, c2, c3].map fun b => Char.ofNat b.toNat)
                  let d12 := String.ofList ([c, c2].map fun b => Char.ofNat b.toNat)
                  let warning := "warning: the ambiguous octal escape \\" ++ digits ++
                    " is being\n\tinterpreted as the 2-byte sequence \\0" ++ d12 ++ ", " ++
                    String.ofList [Char.ofNat c3.toNat]
                  let (bs, ws) := trUnescape fuel more2
                  ((v.toUInt8, true) :: bs, warning :: ws)
              | none =>
                let (bs, ws) := trUnescape fuel more2
                ((v.toUInt8, true) :: bs, ws)
            | [] => ([(v.toUInt8, true)], [])
          | none =>
            let (bs, ws) := trUnescape fuel more
            ((d1.toUInt8, true) :: bs, ws)
        | [] => ([(d1.toUInt8, true)], [])
      | none, none =>
        let (bs, ws) := trUnescape fuel more
        ((c, true) :: bs, ws)
  | fuel + 1, b :: rest =>
    let (bs, ws) := trUnescape fuel rest
    ((b, false) :: bs, ws)

/-- A member of a set. -/
inductive TrMember where
  /-- A single byte. -/
  | single (b : UInt8)
  /-- The bytes from one to another. -/
  | range (lo hi : UInt8)
  /-- The bytes of a class of the C locale, by its name. -/
  | charClass (name : List UInt8)
  /-- `[=c=]`, the byte `c`. -/
  | equiv (b : UInt8)
  /-- `[c*n]`: `n` times the byte, or, when `n` is zero, as many as make the second set as long
  as the first. -/
  | repeated (b : UInt8) (n : Nat)
  deriving DecidableEq, Repr

/-- A set's bytes as `tr` names them in a message: a backslash and the C escapes for the
controls that have them, three octal digits for the other bytes that do not print. -/
def printableBytes (bs : List UInt8) : List UInt8 :=
  bs.flatMap fun b =>
    let named : List (UInt8 × UInt8) :=
      [(7, 97), (8, 98), (12, 102), (10, 110), (13, 114), (9, 116), (11, 118)]
    if b == 92 then [92]
    else match named.lookup b with
      | some c => [92, c]
      | none =>
        if 32 ≤ b && b < 127 then [b]
        else [92, 48 + b / 64, 48 + b / 8 % 8, 48 + b % 8]

/-- Where the closing `c]` of a bracket opened by `[c` stands in what follows it: the bytes
before it and those after it, both unescaped. -/
def closingDelim (delim : UInt8) : List TrByte → Option (List TrByte × List TrByte)
  | [] => none
  | [_] => none
  | (a, ea) :: (b, eb) :: rest =>
    if a == delim && b == 93 && !ea && !eb then some ([], rest)
    else (closingDelim delim ((b, eb) :: rest)).map fun (before, after) =>
      ((a, ea) :: before, after)

/-- The bytes up to the `]` of a repeat, and those after it; nothing when an escaped byte or the
end comes first. -/
def repeatClose : List TrByte → Option (List UInt8 × List TrByte)
  | [] => none
  | (b, e) :: rest =>
    if e then none
    else if b == 93 then some ([], rest)
    else (repeatClose rest).map fun (digits, after) => (b :: digits, after)

/-- The count of a repeat from its text, read as the C library reads an unsigned number: blanks
and a `+` may come first, then digits, octal when the text starts with `0`, up to its end. No
text is a count of zero; a `-`, no digits, another byte or a count past the largest is none. -/
def repeatCount (digits : List UInt8) : Option Nat :=
  if digits.isEmpty then some 0
  else
    let base := if digits.head? == some 48 then 8 else 10
    let unsigned := match digits.dropWhile isCSpace with
      | 43 :: more => some more
      | 45 :: _ => none
      | more => some more
    match unsigned with
    | some ds@(_ :: _) =>
      if ds.all (fun b => 48 ≤ b && b.toNat < 48 + base) then
        let n := ds.foldl (fun acc b => acc * base + (b.toNat - 48)) 0
        if n ≤ countMax then some n else none
      else none
    | _ => none

def singleOrRange : List TrByte → Except (List UInt8) (List TrMember × List TrByte)
  | (a, _) :: (45, false) :: (b, _) :: rest =>
    if b < a then
      .error (textBytes "range-endpoints of '" ++ printableBytes [a] ++ [45] ++
        printableBytes [b] ++ textBytes "' are in reverse collating sequence order")
    else .ok ([.range a b], rest)
  | (a, _) :: rest => .ok ([.single a], rest)
  | [] => .ok ([], [])

def bracketedRepeat (rest : List TrByte) :
    Option (Except (List UInt8) (List TrMember × List TrByte)) :=
  match rest with
  | (c, _) :: (42, false) :: more =>
    (repeatClose more).map fun (digits, after) =>
      match repeatCount digits with
      | some n => .ok ([.repeated c n], after)
      | none =>
        .error (textBytes "invalid repeat count " ++ Text.curlyQuote (printableBytes digits) ++
          textBytes " in [c*n] construct")
  | _ => none

def starDigitsClose : List TrByte → Bool
  | (42, false) :: more =>
    match more.dropWhile (fun (b, e) => !e && 48 ≤ b && b ≤ 57) with
    | (93, false) :: _ => true
    | _ => false
  | _ => false

/-- The member at the front of a set of at least three bytes, and the rest. After `[:` or `[=`
up to the matching `:]` or `=]` comes a class or an equivalence class; when the name there is
none, but `*`, digits and `]` follow the `:` or `=`, the bracket is a repeat of that byte. -/
def trMember (es : List TrByte) : Except (List UInt8) (List TrMember × List TrByte) :=
  match es with
  | (91, false) :: rest =>
    let repeatOr := fun (_ : Unit) =>
      match bracketedRepeat rest with
      | some r => r
      | none => singleOrRange es
    match rest with
    | (d, false) :: body =>
      if d == 58 || d == 61 then
        match closingDelim d body with
        | none => repeatOr ()
        | some (inside, after) =>
          let name := inside.map (·.1)
          if name.isEmpty then
            .error (textBytes (if d == 58 then "missing character class name '[::]'"
              else "missing equivalence class character '[==]'"))
          else if d == 58 && (inClass name 0).isSome then .ok ([.charClass name], after)
          else if d == 61 && name.length == 1 then .ok ([.equiv (name.headD 0)], after)
          else if starDigitsClose body then repeatOr ()
          else if d == 58 then
            .error (textBytes "invalid character class " ++ Text.curlyQuote (printableBytes name))
          else
            .error (printableBytes name ++
              textBytes ": equivalence class operand must be a single character")
      else repeatOr ()
    | _ => repeatOr ()
  | _ => singleOrRange es

def trMembers : Nat → List TrByte → Except (List UInt8) (List TrMember)
  | 0, _ => .ok []
  | fuel + 1, es =>
    if es.length < 3 then .ok (es.map fun (b, _) => .single b)
    else do
      let (ms, rest) ← trMember es
      if rest.length < es.length then
        let more ← trMembers fuel rest
        return ms ++ more
      else return ms

def classBytes (name : List UInt8) : List UInt8 :=
  (List.range 256).filterMap fun n =>
    if (inClass name n.toUInt8).getD false then some n.toUInt8 else none

def TrMember.bytes (fill : Nat) : TrMember → List UInt8
  | .single b | .equiv b => [b]
  | .range lo hi => (List.range (hi.toNat + 1 - lo.toNat)).map fun i => (lo.toNat + i).toUInt8
  | .charClass name => classBytes name
  | .repeated b n => List.replicate (if n == 0 then fill else n) b

def TrMember.isCase : TrMember → Bool
  | .charClass name => name == textBytes "upper" || name == textBytes "lower"
  | _ => false

def TrMember.fills : TrMember → Bool
  | .repeated _ n => n == 0
  | _ => false

def memberStarts (fill : Nat) (ms : List TrMember) : List (Nat × TrMember) :=
  (ms.foldl (fun (acc : List (Nat × TrMember) × Nat) m =>
    (acc.1 ++ [(acc.2, m)], acc.2 + (m.bytes fill).length)) ([], 0)).1

/-! ## Running -/

def setBytes (complement : Bool) (ms : List TrMember) : List UInt8 :=
  let bs := ms.flatMap (TrMember.bytes 0)
  if complement then (List.range 256).filterMap fun n =>
    if bs.contains n.toUInt8 then none else some n.toUInt8
  else bs

def squeezeBytes (set : List UInt8) : Option UInt8 → List UInt8 → List UInt8
  | _, [] => []
  | last, b :: bs =>
    if set.contains b && last == some b then squeezeBytes set last bs
    else b :: squeezeBytes set (some b) bs

/-- The table that translates each byte, from the pairs of bytes of the two sets in order; a
later pair wins. -/
def translation (pairs : List (UInt8 × UInt8)) : Array UInt8 :=
  pairs.foldl (fun (t : Array UInt8) (a, b) => t.set! a.toNat b)
    ((List.range 256).map (·.toUInt8)).toArray

/-- How `tr` treats its input, once its sets are read and checked. -/
inductive TrPlan where
  | squeezeOnly (set : List UInt8)
  | deleteOnly (set : List UInt8)
  | deleteSqueeze (del squeeze : List UInt8)
  | translate (table : Array UInt8) (squeeze : Option (List UInt8))

def TrPlan.run (p : TrPlan) (input : List UInt8) : List UInt8 :=
  match p with
  | .squeezeOnly set => squeezeBytes set none input
  | .deleteOnly set => input.filter (!set.contains ·)
  | .deleteSqueeze del sq => squeezeBytes sq none (input.filter (!del.contains ·))
  | .translate table sq =>
    let out := input.map fun b => table.getD b.toNat b
    match sq with
    | some set => squeezeBytes set none out
    | none => out

def trPlan (o : TrOptions) (s1 : List TrMember) (s2 : Option (List TrMember)) :
    Except String TrPlan := do
  if s1.any TrMember.fills then throw "the [c*] repeat construct may not appear in string1"
  match s2 with
  | none =>
    let set := setBytes o.complement s1
    return if o.delete then .deleteOnly set else .squeezeOnly set
  | some s2 =>
    if (s2.filter TrMember.fills).length > 1 then
      throw "only one [c*] repeat construct may appear in string2"
    let translating := !o.delete
    if !translating then
      if s2.any TrMember.fills then
        throw "the [c*] construct may appear in string2 only when translating"
      return .deleteSqueeze (setBytes o.complement s1) (setBytes false s2)
    if s2.any (fun m => match m with | .equiv _ => true | _ => false) then
      throw "[=c=] expressions may not appear in string2 when translating"
    if s2.any (fun m => match m with | .charClass _ => !m.isCase | _ => false) then
      throw ("when translating, the only character classes that may appear in\n" ++
        "string2 are 'upper' and 'lower'")
    let domain := setBytes o.complement s1
    let plain := (s2.flatMap (TrMember.bytes 0)).length
    let fill := domain.length - plain
    if !o.complement && s2.any TrMember.isCase then
      let starts1 := memberStarts 0 s1
      for (k, m) in memberStarts fill s2 do
        if m.isCase && !starts1.any (fun (j, m1) => j == k && m1.isCase) then
          throw "misaligned [:upper:] and/or [:lower:] construct"
    let image := s2.flatMap (TrMember.bytes fill)
    let image ←
      if domain.length > image.length && !o.truncate then
        match image.getLast? with
        | none => throw "when not truncating set1, string2 must be non-empty"
        | some last =>
          if s2.getLast?.any (fun m => match m with | .charClass _ => true | _ => false) then
            throw ("when translating with string1 longer than string2,\n" ++
              "the latter string must not end with a character class")
          pure (image ++ List.replicate (domain.length - image.length) last)
      else pure image
    if o.complement && s1.any (fun m => match m with | .charClass _ => true | _ => false) &&
        !(image.length == domain.length && image.all (· == image.headD 0)) then
      throw ("when translating with complemented character classes,\n" ++
        "string2 must map all characters in the domain to one")
    let table := translation (domain.zip image)
    return .translate table (if o.squeeze then some (setBytes false s2) else none)

def readSet (set : List UInt8) : List String × Except (List UInt8) (List TrMember) :=
  let (es, warnings) := trUnescape (set.length + 1) set
  (warnings, trMembers (es.length + 1) es)

/-- Runs `tr`. -/
def runTr (t : ToolInput) : ToolResult :=
  let (optArgs, operands) := splitAtOperand t.args
  let usageFail := fun (lines : List UInt8) =>
    ({ writes := [(2, lines ++ t.tryHelp)], status := 1 } : ToolResult)
  let read := readGnuOptions trOptions (optArgs.length + 1) optArgs
  match read.stop with
  | some stop => t.stopped (trHelp t.name) (versionText "tr") stop
  | none =>
    let o := read.options.foldl (fun (o : TrOptions) (k, _) => o.apply k) {}
    let least := if o.delete == o.squeeze then 2 else 1
    let most := if o.delete && !o.squeeze then 1 else 2
    if operands.length < least then
      match operands.getLast? with
      | none => usageFail (t.complaint (textBytes "missing operand"))
      | some last =>
        usageFail (t.complaint (textBytes "missing operand after " ++ Text.curlyQuote last) ++
          textBytes (if o.squeeze then
            "Two strings must be given when both deleting and squeezing repeats.\n"
          else "Two strings must be given when translating.\n"))
    else if operands.length > most then
      usageFail (t.complaint (textBytes "extra operand " ++
          Text.curlyQuote (operands.getD most [])) ++
        (if operands.length == 2 then
          textBytes "Only one string may be given when deleting without squeezing repeats.\n"
        else []))
    else
    let warn := fun (ws : List String) => ws.map fun w => (2, t.complaint (textBytes w))
    let (w1, r1) := readSet (operands.getD 0 [])
    match r1 with
    | .error e => { writes := warn w1 ++ [(2, t.complaint e)], status := 1 }
    | .ok s1 =>
    let (w2, r2) : List String × Except (List UInt8) (Option (List TrMember)) :=
      match operands[1]? with
      | some set =>
        let (w, r) := readSet set
        (w, r.map some)
      | none => ([], .ok none)
    let warnings := warn (w1 ++ w2)
    match r2 with
    | .error e => { writes := warnings ++ [(2, t.complaint e)], status := 1 }
    | .ok s2 =>
    match trPlan o s1 s2 with
    | .error msg => { writes := warnings ++ [(2, t.complaint (textBytes msg))], status := 1 }
    | .ok plan =>
      match t.stdin with
      | .error e =>
        { writes := warnings ++ [(2, t.complaint (textBytes ("read error: " ++ e.message)))],
          status := 1 }
      | .ok input =>
        let out := plan.run input
        { writes := warnings ++ (if out.isEmpty then [] else [(1, out)]),
          stdinRead := input.length }

example : squeezeBytes [97] none [97, 97, 98, 97] = [97, 98, 97] := by decide
example : (trUnescape 5 [92, 49, 50, 110]).1 = [(10, true), (110, false)] := by decide

end BoardSetup.Shell

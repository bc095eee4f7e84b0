import BoardSetup.Shell.Tools
import BoardSetup.Shell.Tools.Help
import BoardSetup.Numbers

/-!
# `head`

`head` writes the first lines of each operand, ten unless `-n` says how many, or its first bytes
with `-c`; a count after a `-` keeps all but that many at the end instead. Counts take the size
suffixes (`K`, `M`, `kB`, …). The first argument may also be the old form, a `-`, digits and
letters: `c` for bytes, `b`, `k` or `m` for bytes in blocks of 512, 1024 or 1048576, `l` for
lines, and `q`, `v`, `z` as the options of those letters.

With more than one operand, or `-v`, the output of each comes after a heading `==> name <==`,
the standard input named `standard input`, and every heading but the first after an empty line;
`-q` leaves them out. `-z` ends lines with NUL bytes instead of newlines. `-` or no operand is
the standard input, which a second `-` finds at its end; but a file there `head` leaves just
past what it wrote, where the next reader of it goes on, unless it kept all but some at the end.

An operand that cannot be opened is complained about, with no heading, and one that cannot be
read after its heading; either makes the status 1. A count that is no number, or a digit left
as an option, ends `head` at once, with status 1, as soon as the options reach it.
-/

namespace BoardSetup.Shell

/-- What `head` was asked for: lines or bytes, how many, whether all but that many at the end,
whether to write headings (`none`: when there is more than one operand), and the byte that ends
a line. -/
structure HeadOptions where
  lines : Bool := true
  count : Nat := 10
  allBut : Bool := false
  headings : Option Bool := none
  lineEnd : UInt8 := 10
  deriving DecidableEq, Repr

/-- The options of `head`. Digits are options too, which are complained about as left over from
the old form. -/
def headOptions : List OptionSpec :=
  [{ key := "c", letter := some 99, long := some "bytes", arg := .required },
   { key := "n", letter := some 110, long := some "lines", arg := .required },
   { key := "q", letter := some 113, long := some "quiet" },
   { key := "q", long := some "silent" },
   { key := "v", letter := some 118, long := some "verbose" },
   { key := "z", letter := some 122, long := some "zero-terminated" },
   { key := "help", long := some "help" }, { key := "version", long := some "version" }] ++
  (List.range 10).map fun d => { key := toString d, letter := some (48 + d).toUInt8 }

/-- A complaint that ends `head`: its lines, and whether the hint at `--help` follows. -/
structure HeadComplaint where
  text : List UInt8
  hint : Bool := false
  deriving DecidableEq, Repr

def countComplaint (lines : Bool) (text : List UInt8) (fault : CountFault) : HeadComplaint :=
  let what := if lines then "invalid number of lines: " else "invalid number of bytes: "
  let why := match fault with
    | .tooLarge => ": Value too large for defined data type"
    | .invalid => ""
  { text := textBytes what ++ Text.curlyQuote text ++ textBytes why }

def HeadOptions.withCount (o : HeadOptions) (lines : Bool) (arg : List UInt8) :
    Except HeadComplaint HeadOptions :=
  let allBut := arg.head? == some 45
  let text := if allBut then arg.drop 1 else arg
  match readSizeCount text with
  | .ok n => .ok { o with lines, count := n, allBut }
  | .error f => .error (countComplaint lines text f)

def HeadOptions.apply (o : HeadOptions) (opt : String × List UInt8) :
    Except HeadComplaint HeadOptions :=
  match opt with
  | ("c", arg) => o.withCount false arg
  | ("n", arg) => o.withCount true arg
  | ("q", _) => .ok { o with headings := some false }
  | ("v", _) => .ok { o with headings := some true }
  | ("z", _) => .ok { o with lineEnd := 0 }
  | (key, _) =>
    if !key.isEmpty && key.all Char.isDigit then
      .error ⟨textBytes ("invalid trailing option -- " ++ key), true⟩
    else .ok o

def HeadOptions.ofOldForm (digits letters : List UInt8) : Except HeadComplaint HeadOptions := do
  let start : HeadOptions × Option UInt8 := ({}, none)
  let (o, multiplier) ← letters.foldlM (fun (acc : HeadOptions × Option UInt8) c =>
    let (o, m) := acc
    if c == 99 then .ok ({ o with lines := false }, none)
    else if c == 98 || c == 107 || c == 109 then .ok ({ o with lines := false }, some c)
    else if c == 108 then .ok ({ o with lines := true }, m)
    else if c == 113 then .ok ({ o with headings := some false }, m)
    else if c == 118 then .ok ({ o with headings := some true }, m)
    else if c == 122 then .ok ({ o with lineEnd := 0 }, m)
    else .error ⟨textBytes "invalid trailing option -- " ++ [c], true⟩) start
  o.withCount o.lines (digits ++ multiplier.toList)

def splitLines (lineEnd : UInt8) : List UInt8 → List (List UInt8)
  | [] => []
  | b :: bs =>
    if b == lineEnd then [b] :: splitLines lineEnd bs
    else match splitLines lineEnd bs with
      | [] => [[b]]
      | l :: ls => (b :: l) :: ls

example : splitLines 10 [97, 10, 98] = [[97, 10], [98]] := by decide

def HeadOptions.select (o : HeadOptions) (bs : List UInt8) : List UInt8 :=
  match o.lines, o.allBut with
  | false, false => bs.take o.count
  | false, true => bs.take (bs.length - o.count)
  | true, false => ((splitLines o.lineEnd bs).take o.count).flatten
  | true, true =>
    let ls := splitLines o.lineEnd bs
    (ls.take (ls.length - o.count)).flatten

/-- Where `head` stands between operands: its writes, whether one failed, whether it has
written a heading, whether it has read its standard input, and how far. -/
structure HeadRun where
  writes : List (Nat × List UInt8) := []
  failed : Bool := false
  headed : Bool := false
  readStdin : Bool := false
  stdinPos : Nat := 0
  deriving Repr

def HeadRun.operand (t : ToolInput) (o : HeadOptions) (headings : Bool) (r : HeadRun)
    (op : List UInt8) : HeadRun :=
  let stdin := namesStdin op
  let shown := if op == [45] then textBytes "standard input" else op
  let source : Except ReadFault (List UInt8) :=
    if stdin then
      match t.stdin with
      | .ok bs => .ok (if t.stdinSeekable || !r.readStdin then bs.drop r.stdinPos else [])
      | .error e => .error (.readFailed (ReadError.message e))
    else t.readFile op
  let r := if stdin then { r with readStdin := true } else r
  let heading := if headings then
      [(1, (if r.headed then [10] else []) ++ textBytes "==> " ++ shown ++ textBytes " <==\n")]
    else []
  let headed := r.headed || headings
  match source with
  | .error (.openFailed why) =>
    { r with writes := r.writes ++ [(2, t.complaint (textBytes "cannot open " ++
        Text.shellQuote true true op ++ textBytes (" for reading: " ++ why)))], failed := true }
  | .error (.readFailed why) =>
    { r with writes := r.writes ++ heading ++ [(2, t.complaint (textBytes "error reading " ++
        Text.shellQuote true true shown ++ textBytes (": " ++ why)))], failed := true, headed }
  | .ok bs =>
    let out := o.select bs
    let stdinPos := if !stdin then r.stdinPos
      else if t.stdinSeekable && !o.allBut then r.stdinPos + out.length else t.stdinSize
    { r with writes := r.writes ++ heading ++ (if out.isEmpty then [] else [(1, out)]), headed,
             stdinPos }

/-- Runs `head`. -/
def runHead (t : ToolInput) : ToolResult :=
  let complain := fun (c : HeadComplaint) =>
    ({ writes := [(2, t.complaint c.text ++ (if c.hint then t.tryHelp else []))], status := 1 } :
      ToolResult)
  let (old, args) : Except HeadComplaint HeadOptions × List (List UInt8) :=
    match t.args with
    | (45 :: d :: rest) :: more =>
      if 48 ≤ d && d ≤ 57 then
        let digits := (d :: rest).takeWhile fun b => 48 ≤ b && b ≤ 57
        (HeadOptions.ofOldForm digits ((d :: rest).drop digits.length), more)
      else (.ok {}, t.args)
    | _ => (.ok {}, t.args)
  match old with
  | .error c => complain c
  | .ok start =>
  let read := readGnuOptions headOptions (args.length + 1) args
  match read.actOn HeadOptions.apply start with
  | .error (.inl c) => complain c
  | .error (.inr stop) => t.stopped (headHelp t.name) (versionText "head") stop
  | .ok o =>
      let operands := read.operands
      if !o.lines && o.allBut && o.count ≥ 2 ^ 63 then
        complain (countComplaint false (textBytes (toString o.count)) .tooLarge)
      else
      let operands := if operands.isEmpty then [[45]] else operands
      let headings := o.headings.getD (operands.length > 1)
      let r := operands.foldl (HeadRun.operand t o headings) {}
      let closing := match t.stdin with
        | .error e => if r.readStdin then [(2, t.complaint (textBytes ("-: " ++ e.message)))]
          else []
        | _ => []
      { writes := r.writes ++ closing, status := if r.failed || !closing.isEmpty then 1 else 0,
        stdinRead := r.stdinPos }

example : HeadOptions.select { count := 1 } [97, 10, 98, 10] = [97, 10] := by decide
example : HeadOptions.select { count := 1, allBut := true } [97, 10, 98] = [97, 10] := by decide

end BoardSetup.Shell

import BoardSetup.Shell.Tools
import BoardSetup.Shell.Tools.Help

/-!
# `cut`

`cut` writes parts of each line of its operands: the bytes at the positions of a list (`-b`, or
`-c`, which counts bytes too), or the fields of a list (`-f`), fields being separated by a
delimiter byte, a tab unless `-d` names another. A list is made of numbers and ranges `m-n`,
`-n` and `m-`, counting from 1, separated by commas or blanks; the parts are written in their
order in the line, each once, whatever the order of the list. `--complement` takes the parts the
list leaves out.

The fields of a line are joined by the output delimiter, the input delimiter unless
`--output-delimiter` gives another; a line without the delimiter is written whole, unless `-s`
leaves it out. With bytes, the output delimiter is written only when given, between the bytes of
ranges that do not touch. Every line written ends with a newline, or a NUL byte with `-z`, which
also ends the lines read. When the delimiter is the byte that ends lines, the whole input is one
line whose fields are its lines.

A list that cannot be read, no list, two lists, and a delimiter or `-s` where there are no
fields, are complained about with the hint at `--help`, and end `cut` with status 1; a second
list or a delimiter longer than a byte is complained about as soon as the options reach it. An operand
that cannot be read is complained about and makes the status 1.
-/

namespace BoardSetup.Shell

/-- What `cut` cuts by. -/
inductive CutMode where
  | bytes
  | fields
  deriving DecidableEq, Repr

/-- What `cut` was asked for: how it cuts and by what list, the delimiters, whether lines without
the delimiter are left out, the byte that ends lines, and whether the list is complemented. -/
structure CutOptions where
  mode : Option CutMode := none
  list : List UInt8 := []
  delim : Option UInt8 := none
  outDelim : Option (List UInt8) := none
  suppress : Bool := false
  lineEnd : UInt8 := 10
  complement : Bool := false
  deriving DecidableEq, Repr

def cutOptions : List OptionSpec :=
  [{ key := "b", letter := some 98, long := some "bytes", arg := .required },
   { key := "b", letter := some 99, long := some "characters", arg := .required },
   { key := "d", letter := some 100, long := some "delimiter", arg := .required },
   { key := "f", letter := some 102, long := some "fields", arg := .required },
   { key := "n", letter := some 110 },
   { key := "s", letter := some 115, long := some "only-delimited" },
   { key := "z", letter := some 122, long := some "zero-terminated" },
   { key := "output-delimiter", long := some "output-delimiter", arg := .required },
   { key := "complement", long := some "complement" },
   { key := "help", long := some "help" }, { key := "version", long := some "version" }]

def CutOptions.apply (o : CutOptions) (opt : String × List UInt8) : Except String CutOptions :=
  match opt with
  | ("b", arg) =>
    if o.mode.isSome then .error "only one list may be specified"
    else .ok { o with mode := some .bytes, list := arg }
  | ("f", arg) =>
    if o.mode.isSome then .error "only one list may be specified"
    else .ok { o with mode := some .fields, list := arg }
  | ("d", arg) =>
    if arg.length > 1 then .error "the delimiter must be a single character"
    else .ok { o with delim := some (arg.headD 0) }
  | ("output-delimiter", arg) =>
    -- an empty output delimiter writes a NUL byte
    .ok { o with outDelim := some (if arg.isEmpty then [0] else arg) }
  | ("s", _) => .ok { o with suppress := true }
  | ("z", _) => .ok { o with lineEnd := 0 }
  | ("complement", _) => .ok { o with complement := true }
  | _ => .ok o

/-! ## Lists -/

/-- Where the reading of a list stands: the start of the range being read, the number being
read, whether a number came before and after its `-`, whether a `-` came, the text from the
start of the number being read, and the ranges read so far. -/
structure ListState where
  initial : Nat := 1
  value : Nat := 0
  lhs : Bool := false
  rhs : Bool := false
  dash : Bool := false
  inDigits : Bool := false
  numStart : List UInt8 := []
  ranges : List (Nat × Nat) := []
  deriving DecidableEq, Repr

/-- A complaint about a list: its message. -/
abbrev ListComplaint := List UInt8

def ListState.endItem (s : ListState) (positions : Bool) : Except ListComplaint ListState :=
  let fromOne := textBytes (if positions then "byte/character positions are numbered from 1"
    else "fields are numbered from 1")
  if s.dash then
    if !s.lhs && !s.rhs then .error (textBytes "invalid range with no endpoint: -")
    else if !s.rhs then
      .ok { s with dash := false, value := 0, ranges := s.ranges ++ [(s.initial, countMax)] }
    else if s.value < s.initial then .error (textBytes "invalid decreasing range")
    else .ok { s with dash := false, value := 0, ranges := s.ranges ++ [(s.initial, s.value)] }
  else if s.value == 0 then .error fromOne
  else .ok { s with value := 0, ranges := s.ranges ++ [(s.value, s.value)] }

def readListFrom (positions : Bool) : Nat → ListState → List UInt8 →
    Except ListComplaint (List (Nat × Nat))
  | 0, s, _ => .ok s.ranges
  | _ + 1, s, [] => do
    let s ← s.endItem positions
    return s.ranges
  | fuel + 1, s, c :: rest =>
    if c == 45 then
      let s := { s with inDigits := false }
      if s.dash then
        .error (textBytes (if positions then "invalid byte or character range"
          else "invalid field range"))
      else if s.lhs && s.value == 0 then
        .error (textBytes (if positions then "byte/character positions are numbered from 1"
          else "fields are numbered from 1"))
      else readListFrom positions fuel
        { s with dash := true, initial := if s.lhs then s.value else 1, value := 0 } rest
    else if c == 44 || c == 32 || c == 9 then do
      let s ← { s with inDigits := false }.endItem positions
      readListFrom positions fuel { s with lhs := false, rhs := false } rest
    else if 48 ≤ c && c ≤ 57 then
      let numStart := if s.inDigits then s.numStart else c :: rest
      let value := s.value * 10 + (c.toNat - 48)
      if value ≥ countMax then
        let digits := numStart.takeWhile fun b => 48 ≤ b && b ≤ 57
        .error (textBytes (if positions then "byte/character offset " else "field number ") ++
          Text.curlyQuote digits ++ textBytes " is too large")
      else
        let s := if s.dash then { s with rhs := true } else { s with lhs := true }
        readListFrom positions fuel { s with value, inDigits := true, numStart } rest
    else
      .error (textBytes (if positions then "invalid byte/character position "
        else "invalid field value ") ++ Text.curlyQuote (c :: rest))

/-- Sorted ranges with those that overlap merged, from the first on: a range that starts
within the one before it joins it. -/
def mergeRanges (rs : List (Nat × Nat)) : List (Nat × Nat) :=
  (rs.foldl (fun (acc : List (Nat × Nat)) (lo, hi) =>
    match acc with
    | (plo, phi) :: more => if lo ≤ phi then (plo, max phi hi) :: more else (lo, hi) :: acc
    | [] => [(lo, hi)]) []).reverse

def complementRanges (rs : List (Nat × Nat)) : List (Nat × Nat) :=
  let first := match rs.head? with
    | some (lo, _) => if lo > 1 then [(1, lo - 1)] else []
    | none => []
  let gaps := (rs.zip rs.tail).filterMap fun ((_, hi), (lo, _)) =>
    if hi + 1 == lo then none else some (hi + 1, lo - 1)
  let last := match rs.getLast? with
    | some (_, hi) => if hi < countMax then [(hi + 1, countMax)] else []
    | none => []
  first ++ gaps ++ last

def readCutList (positions complement : Bool) (text : List UInt8) :
    Except ListComplaint (List (Nat × Nat)) := do
  let ranges ← readListFrom positions (text.length + 1) {} text
  if ranges.isEmpty then
    throw (textBytes (if positions then "missing list of byte/character positions"
      else "missing list of fields"))
  let merged := mergeRanges (ranges.mergeSort fun a b => a.1 ≤ b.1)
  return if complement then complementRanges merged else merged

example : mergeRanges [(1, 5), (2, 3), (4, 10), (12, 12)] = [(1, 10), (12, 12)] := by decide
example : complementRanges [(2, 3)] = [(1, 1), (4, countMax)] := by decide

/-! ## Cutting -/

def inRanges (rs : List (Nat × Nat)) (k : Nat) : Bool :=
  rs.any fun (lo, hi) => lo ≤ k && k ≤ hi

def cutLines (lineEnd : UInt8) (bs : List UInt8) : List (List UInt8 × Bool) :=
  let pieces := splitOn lineEnd bs
  match pieces.getLast? with
  | some [] => (pieces.dropLast).map (·, true)
  | _ => (pieces.dropLast.map (·, true)) ++ (pieces.getLast?.toList.map (·, false))
where
  /-- The pieces between the line ends. -/
  splitOn (sep : UInt8) : List UInt8 → List (List UInt8)
    | [] => [[]]
    | b :: rest =>
      if b == sep then [] :: splitOn sep rest
      else match splitOn sep rest with
        | [] => [[b]]
        | p :: ps => (b :: p) :: ps

def cutLineBytes (rs : List (Nat × Nat)) (outDelim : Option (List UInt8)) (line : List UInt8) :
    List UInt8 :=
  let starts := rs.map (·.1)
  (line.zipIdx.foldl (fun (acc : List UInt8 × Bool) (b, i) =>
    let (out, printed) := acc
    let k := i + 1
    if inRanges rs k then
      let sep := match outDelim with
        | some d => if printed && starts.contains k then d else []
        | none => []
      (out ++ sep ++ [b], true)
    else acc) ([], false)).1

/-- The bytes before the first delimiter or line end, that byte if one comes, and the bytes
after it. -/
def takeField (delim lineEnd : UInt8) (bs : List UInt8) : List UInt8 × Option UInt8 × List UInt8 :=
  let body := bs.takeWhile fun b => b != delim && b != lineEnd
  match bs.drop body.length with
  | c :: rest => (body, some c, rest)
  | [] => (body, none, [])

/-- What `cut -f` writes as it reads the rest of its input, field by field. `index` is the number
of the field it is at, `written` whether it has written a field of this line, and `last` the
last delimiter or line end it read (`0` at the start of the input and after a first field read
whole).

The first field of a line is read whole, up to its delimiter, when `whole` says so (when lines
without the delimiter are kept and the first field is not selected, or the other way round):
a line without the delimiter is then written as it is, or left out with `-s`. A line ends with
the line end when it has a field written or is not left out, unless it is the end of the
input right after a line end. When the delimiter is the line end, the whole input is one line
whose fields are its lines; its last line end ends it, and a field is written before a
delimiter there only when more bytes follow. -/
def CutOptions.scanFields (o : CutOptions) (rs : List (Nat × Nat)) (delim : UInt8)
    (outDelim : List UInt8) (whole : Bool) :
    Nat → Nat → Bool → UInt8 → List UInt8 → List UInt8
  | 0, _, _, _, _ => []
  | fuel + 1, index, written, last, input =>
    let lineEnd := o.lineEnd
    -- the first field of a line, read whole when asked
    let first : Option (List UInt8 × Nat × Bool × UInt8 × List UInt8) ⊕ List UInt8 :=
      if index == 1 && whole then
        if input.isEmpty then .inl none
        else
          let (body, stop, rest) := takeField delim lineEnd input
          if stop != some delim then
            if o.suppress then .inr (o.scanFields rs delim outDelim whole fuel 1 written 0 rest)
            else
              let field := body ++ stop.toList ++ (if stop == some lineEnd then [] else [lineEnd])
              .inr (field ++ o.scanFields rs delim outDelim whole fuel 1 written lineEnd rest)
          else if inRanges rs 1 then
            .inl (some (body, 2, if delim == lineEnd then !rest.isEmpty else true, 0, rest))
          else .inl (some ([], 2, written, 0, rest))
      else .inl (some ([], index, written, last, input))
    match first with
    | .inr out => out
    | .inl none => []
    | .inl (some (before, index, written, last, input)) =>
      let (body, stop, rest) := takeField delim lineEnd input
      let selected := inRanges rs index
      let out := before ++ (if selected then (if written then outDelim else []) ++ body else [])
      let written := written || selected
      let previous := body.getLast?.getD last
      let atEnd := stop.isNone || (delim == lineEnd && rest.isEmpty)
      if !atEnd && stop == some delim then
        out ++ o.scanFields rs delim outDelim whole fuel (index + 1) written delim rest
      else
        let ends := (written || !(o.suppress && index == 1)) &&
          ((stop == some lineEnd && !atEnd) || previous != lineEnd || delim == lineEnd)
        let out := out ++ (if ends then [lineEnd] else [])
        if atEnd then out else out ++ o.scanFields rs delim outDelim whole fuel 1 false lineEnd rest

def CutOptions.cut (o : CutOptions) (rs : List (Nat × Nat)) (bs : List UInt8) : List UInt8 :=
  match o.mode with
  | some .fields =>
    let delim := o.delim.getD 9
    let whole := o.suppress != !inRanges rs 1
    if bs.isEmpty then []
    else o.scanFields rs delim (o.outDelim.getD [delim]) whole (bs.length + 2) 1 false 0 bs
  | _ =>
    (cutLines o.lineEnd bs).flatMap fun (line, ended) =>
      if !ended && line.isEmpty then [] else cutLineBytes rs o.outDelim line ++ [o.lineEnd]

/-- Where `cut` stands between operands: its writes, whether one failed, and whether it has read
its standard input. -/
structure CutRun where
  writes : List (Nat × List UInt8) := []
  failed : Bool := false
  readStdin : Bool := false
  deriving Repr

def CutRun.operand (t : ToolInput) (o : CutOptions) (rs : List (Nat × Nat)) (r : CutRun)
    (op : List UInt8) : CutRun :=
  let stdin := op == [45]
  let source : Except String (List UInt8) :=
    if stdin then
      match t.stdin with
      | .ok bs => .ok (if r.readStdin then [] else bs)
      | .error e => .error (ReadError.message e)
    else match t.readFile op with
      | .ok bs => .ok bs
      | .error (.openFailed why) | .error (.readFailed why) => .error why
  let r := if stdin then { r with readStdin := true } else r
  match source with
  | .error why =>
    { r with writes := r.writes ++ [(2, t.complaint (Text.shellQuote false true op ++
        textBytes (": " ++ why)))], failed := true }
  | .ok bs =>
    let out := o.cut rs bs
    { r with writes := r.writes ++ (if out.isEmpty then [] else [(1, out)]) }

/-- Runs `cut`. -/
def runCut (t : ToolInput) : ToolResult :=
  let usageFail := fun (msg : List UInt8) =>
    ({ writes := [(2, t.complaint msg ++ t.tryHelp)], status := 1 } : ToolResult)
  let read := readGnuOptions cutOptions (t.args.length + 1) t.args
  match read.actOn CutOptions.apply {} with
  | .error (.inl msg) => usageFail (textBytes msg)
  | .error (.inr stop) => t.stopped (cutHelp t.name) (versionText "cut") stop
  | .ok o =>
    let operands := read.operands
    match o.mode with
    | none => usageFail (textBytes "you must specify a list of bytes, characters, or fields")
    | some mode =>
    if o.delim.isSome && mode != .fields then
      usageFail (textBytes "an input delimiter may be specified only when operating on fields")
    else if o.suppress && mode != .fields then
      usageFail (textBytes
        "suppressing non-delimited lines makes sense\n\tonly when operating on fields")
    else
    match readCutList (mode == .bytes) o.complement o.list with
    | .error msg => usageFail msg
    | .ok rs =>
      let operands := if operands.isEmpty then [[45]] else operands
      let r := operands.foldl (CutRun.operand t o rs) {}
      let closing := match t.stdin with
        | .error e => if r.readStdin then [(2, t.complaint (textBytes ("-: " ++ e.message)))]
          else []
        | _ => []
      { writes := r.writes ++ closing, status := if r.failed || !closing.isEmpty then 1 else 0,
        stdinRead := if r.readStdin then t.stdinSize else 0 }

example : cutLineBytes [(1, 1), (3, 3)] (some [58]) [97, 98, 99] = [97, 58, 99] := by decide

end BoardSetup.Shell

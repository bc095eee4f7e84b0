import BoardSetup.Shell.Tools
import BoardSetup.Shell.Pattern
import BoardSetup.Shell.Tools.Help
import BoardSetup.Numbers

/-!
# `ls`

`ls` lists directories and names files: the operands that are not directories first, then each
directory, with a heading when there is more than one operand or `-R` asks for the directories
below. Names are sorted by their bytes (`-S` by size, largest first, `-X` by extension, `-U` and
`-f` not at all), reversed by `-r`, with the directories first for `--group-directories-first`. `-a` and `-A` show the names that begin with `.`, `-d` lists a directory
itself, `-p`, `--file-type` and `-F` mark directories with `/` (and `-F` programs with `*`), `-I`
and `--hide` leave out names that match a pattern and `-B` those that end in `~`.

Its standard output is no terminal, so it writes one name a line unless asked otherwise: `-C` in
columns filled downwards, `-x` in columns filled across, `-m` as a list separated by commas, and
`-l` (or `-g`, `-o`, `-n`) at length. Columns fit a line of 80 places (`-w`, or `COLUMNS` in the
environment; `0` is no limit), separated by at least two places, the gaps filled with tabs at
every eighth place (`-T`, or `TABSIZE`) and spaces; a name takes the places its characters take
on a terminal. `-Q` quotes names as C strings, `-b` writes what does not show in them as escapes,
`-q` as `?`, and `--quoting-style` (or `QUOTING_STYLE`) picks among these and the quoting of the
shell; `--zero` ends each line with a NUL byte instead of a newline, one name a line unless a
format comes after it, the names as they are; in columns, when the style quotes only some names, the others get a blank before them to
line up. `--color` paints directories and programs, and then fills gaps with
spaces alone. The words an option takes may be cut to any start that is not ambiguous. `-s` puts
the size of each file before it, in blocks of 1024 bytes or scaled to units (`-h`, `--si`), and a
total before each directory.

An operand that does not exist is complained about and makes the status 2; a bad option does too.
-/

namespace BoardSetup.Shell

/-- How `ls` lays out names. -/
inductive LsFormat where
  | onePerLine
  | columns
  | across
  | commas
  | long
  deriving DecidableEq, Repr

/-- Which names of a directory `ls` shows. -/
inductive LsHidden where
  /-- Not those that begin with `.`. -/
  | visible
  /-- Those that begin with `.` but for `.` and `..`. -/
  | almostAll
  /-- All, `.` and `..` too. -/
  | all
  deriving DecidableEq, Repr

/-- What mark `ls` puts after a name. -/
inductive LsIndicator where
  | none
  | slash
  | fileType
  | classify
  deriving DecidableEq, Repr

/-- How `ls` orders names. Times order the names here as their bytes do, since every file has
the same times. -/
inductive LsSort where
  | name
  | size
  | extension
  /-- Numbers within names compare by their values. -/
  | version
  /-- By the width of the name as written. -/
  | width
  | unsorted
  deriving DecidableEq, Repr

/-- How `ls` writes a name. -/
inductive LsQuoting where
  | literal
  /-- In single quotes when the shell would read it otherwise (`always`: in any case), or
  with the escapes `$'...'` as well (`escapes`). -/
  | shell (always escapes : Bool)
  /-- In double quotes, with C escapes; `maybe` leaves out the quotes when nothing needs them. -/
  | c (maybe : Bool)
  | escape
  /-- Between curly quotes; `clocale` names the style as well, and quotes the same way here. -/
  | locale (clocale : Bool)
  deriving DecidableEq, Repr

/-- How `ls -s` counts the room a file takes: in blocks of 1024 bytes, or in bytes scaled to a
unit of powers of 1024 (`K`, `M`, …) or of 1000 (`k`, `M`, …). -/
inductive LsBlocks where
  | kibibytes
  | binary
  | decimal
  deriving DecidableEq, Repr

/-- What `ls` was asked for. The width of a line and of a tab and the quoting may also come from
the environment, when no option gave them. -/
structure LsConfig where
  hidden : LsHidden := .visible
  directory : Bool := false
  recursive : Bool := false
  reverse : Bool := false
  indicator : LsIndicator := .none
  format : LsFormat := .onePerLine
  sort : LsSort := .name
  quoting : LsQuoting := .literal
  dirsFirst : Bool := false
  color : Bool := false
  sizes : Bool := false
  owner : Bool := true
  group : Bool := true
  width : Nat := 80
  tabsize : Nat := 8
  ignored : List (List UInt8) := []
  hides : List (List UInt8) := []
  ignoreBackups : Bool := false
  blocks : LsBlocks := .kibibytes
  widthGiven : Bool := false
  tabsGiven : Bool := false
  quotingGiven : Bool := false
  hideControl : Bool := false
  numericIds : Bool := false
  /-- The byte that ends each line of names: a newline, or a NUL with `--zero`. -/
  lineEnd : UInt8 := 10
  deriving DecidableEq, Repr

def lsOptions : List OptionSpec :=
  letterOptions "abcdfghiklmnopqrstuvxABCDFGHLNQRSUXZ1" ++
  [{ key := "w", letter := some 119, arg := .required },
   { key := "T", letter := some 84, arg := .required },
   { key := "I", letter := some 73, arg := .required },
   { key := "a", long := some "all" }, { key := "b", long := some "escape" },
   { key := "d", long := some "directory" }, { key := "D", long := some "dired" },
   { key := "full-time", long := some "full-time" },
   { key := "group-directories-first", long := some "group-directories-first" },
   { key := "h", long := some "human-readable" }, { key := "i", long := some "inode" },
   { key := "k", long := some "kibibytes" }, { key := "n", long := some "numeric-uid-gid" },
   { key := "G", long := some "no-group" }, { key := "q", long := some "hide-control-chars" },
   { key := "r", long := some "reverse" }, { key := "s", long := some "size" },
   { key := "w", long := some "width", arg := .required },
   { key := "A", long := some "almost-all" }, { key := "B", long := some "ignore-backups" },
   { key := "F", long := some "classify", arg := .optional },
   { key := "file-type", long := some "file-type" }, { key := "si", long := some "si" },
   { key := "H", long := some "dereference-command-line" },
   { key := "H", long := some "dereference-command-line-symlink-to-dir" },
   { key := "hide", long := some "hide", arg := .required },
   { key := "I", long := some "ignore", arg := .required },
   { key := "indicator-style", long := some "indicator-style", arg := .required },
   { key := "L", long := some "dereference" }, { key := "N", long := some "literal" },
   { key := "Q", long := some "quote-name" },
   { key := "quoting-style", long := some "quoting-style", arg := .required },
   { key := "R", long := some "recursive" },
   { key := "format", long := some "format", arg := .required },
   { key := "show-control-chars", long := some "show-control-chars" },
   { key := "sort", long := some "sort", arg := .required },
   { key := "T", long := some "tabsize", arg := .required },
   { key := "time", long := some "time", arg := .required },
   { key := "time-style", long := some "time-style", arg := .required },
   { key := "zero", long := some "zero" },
   { key := "color", long := some "color", arg := .optional },
   { key := "hyperlink", long := some "hyperlink", arg := .optional },
   { key := "block-size", long := some "block-size", arg := .required },
   { key := "Z", long := some "context" }, { key := "author", long := some "author" },
   { key := "help", long := some "help" }, { key := "version", long := some "version" }]

def largestCount : Nat := 2 ^ 63 - 1

/-- The width of a line given as text: none when the text is no number; a width past what a
signed word holds stands for no limit, as `0` does. -/
def lineWidthOf (w : List UInt8) : Option Nat :=
  (wholeNumber w).map fun n => if n > largestCount then 0 else n

def formatWords : List (String × LsFormat) :=
  [("verbose", .long), ("long", .long), ("commas", .commas), ("horizontal", .across),
   ("across", .across), ("vertical", .columns), ("single-column", .onePerLine)]

def quotingWords : List (String × LsQuoting) :=
  [("literal", .literal), ("shell", .shell false false), ("shell-always", .shell true false),
   ("shell-escape", .shell false true), ("shell-escape-always", .shell true true),
   ("c", .c false), ("c-maybe", .c true), ("escape", .escape), ("locale", .locale false),
   ("clocale", .locale true)]

def indicatorWords : List (String × LsIndicator) :=
  [("none", .none), ("slash", .slash), ("file-type", .fileType), ("classify", .classify)]

def sortWords : List (String × LsSort) :=
  [("none", .unsorted), ("time", .name), ("size", .size), ("extension", .extension),
   ("version", .version), ("width", .width)]

/-- The words `--color`, `--classify` and `--hyperlink` take: always, never, or when the output
is a terminal, which it is not here. -/
def whenWords : List (String × Nat) :=
  [("always", 0), ("yes", 0), ("force", 0), ("never", 1), ("no", 1), ("none", 1), ("auto", 2),
   ("tty", 2), ("if-tty", 2)]

def timeWords : List (String × Nat) :=
  [("atime", 0), ("access", 0), ("use", 0), ("ctime", 1), ("status", 1), ("birth", 2),
   ("creation", 2), ("mtime", 3), ("modification", 3)]

def LsConfig.apply (o : LsConfig) (opt : String × List UInt8) : Except ArgComplaint LsConfig :=
  let (key, arg) := opt
  match key with
  | "a" => .ok { o with hidden := .all }
  | "A" => .ok { o with hidden := .almostAll }
  | "f" => .ok { o with hidden := .all, sort := .unsorted }
  | "U" => .ok { o with sort := .unsorted }
  | "S" => .ok { o with sort := .size }
  | "X" => .ok { o with sort := .extension }
  | "t" => .ok { o with sort := .name }
  | "v" => .ok { o with sort := .version }
  | "group-directories-first" => .ok { o with dirsFirst := true }
  | "color" =>
    if arg.isEmpty then .ok { o with color := true }
    else do
      let w ← pickArgument "--color" whenWords arg
      .ok { o with color := w == 0 }
  | "hyperlink" => if arg.isEmpty then .ok o else do
      let _ ← pickArgument "--hyperlink" whenWords arg
      .ok o
  | "time" => do
      let _ ← pickArgument "--time" timeWords arg
      .ok o
  | "d" => .ok { o with directory := true }
  | "R" => .ok { o with recursive := true }
  | "r" => .ok { o with reverse := true }
  | "p" => .ok { o with indicator := .slash }
  | "file-type" => .ok { o with indicator := .fileType }
  | "F" =>
    if arg.isEmpty then .ok { o with indicator := .classify }
    else do
      let w ← pickArgument "--classify" whenWords arg
      .ok (if w == 0 then { o with indicator := .classify } else o)
  | "1" => .ok (if o.format == .long then o else { o with format := .onePerLine })
  | "zero" =>
    let o := if o.format == .long then o else { o with format := .onePerLine }
    let o := { o with lineEnd := 0, hideControl := false, color := false }
    .ok { o with quoting := .literal, quotingGiven := true }
  | "C" => .ok { o with format := .columns }
  | "x" => .ok { o with format := .across }
  | "m" => .ok { o with format := .commas }
  | "l" => .ok { o with format := .long }
  | "n" => .ok { o with format := .long, numericIds := true }
  | "g" => .ok { o with format := .long, owner := false }
  | "o" => .ok { o with format := .long, group := false }
  | "G" => .ok { o with group := false }
  | "s" => .ok { o with sizes := true }
  | "h" => .ok { o with blocks := .binary }
  | "si" => .ok { o with blocks := .decimal }
  | "Q" => .ok { o with quoting := .c false, quotingGiven := true }
  | "b" => .ok { o with quoting := .escape, quotingGiven := true }
  | "N" => .ok { o with quoting := .literal, quotingGiven := true }
  | "q" => .ok { o with hideControl := true }
  | "show-control-chars" => .ok { o with hideControl := false }
  | "B" => .ok { o with ignoreBackups := true }
  | "I" => .ok { o with ignored := o.ignored ++ [arg] }
  | "hide" => .ok { o with hides := o.hides ++ [arg] }
  | "w" =>
    match lineWidthOf arg with
    | some n => .ok { o with width := n, widthGiven := true }
    | none => .error { line := textBytes "invalid line width: " ++ Text.curlyQuote arg }
  | "T" =>
    match wholeNumber arg with
    | some n =>
      if n ≤ largestCount then .ok { o with tabsize := n, tabsGiven := true }
      else
        let line := textBytes "invalid tab size: " ++ Text.curlyQuote arg ++
          textBytes ": Value too large for defined data type"
        .error { line }
    | none => .error { line := textBytes "invalid tab size: " ++ Text.curlyQuote arg }
  | "format" => do
    let f ← pickArgument "--format" formatWords arg
    .ok { o with format := f }
  | "quoting-style" => do
    let q ← pickArgument "--quoting-style" quotingWords arg
    .ok { o with quoting := q, quotingGiven := true }
  | "indicator-style" => do
    let i ← pickArgument "--indicator-style" indicatorWords arg
    .ok { o with indicator := i }
  | "sort" => do
    let k ← pickArgument "--sort" sortWords arg
    .ok { o with sort := k }
  | _ => .ok o

/-- The configuration with what the environment gives where no option decided, and the warnings
about values there that mean nothing: the width of a line from `COLUMNS` when names go in lines
or in colour, the width of a tab from `TABSIZE` when they go in lines, and the quoting from
`QUOTING_STYLE`. Colours are never mixed with tabs. -/
def LsConfig.settle (o : LsConfig) (t : ToolInput) : LsConfig × List (List UInt8) :=
  let lines := o.format == .columns || o.format == .across || o.format == .commas
  let warn := fun (what : String) (v : List UInt8) =>
    [t.complaint (textBytes ("ignoring invalid " ++ what) ++ Text.curlyQuote v)]
  let (o, wide) := match t.getenv "COLUMNS" with
    | some v@(_ :: _) =>
      if (lines || o.color) && !o.widthGiven then
        match lineWidthOf v with
        | some n => ({ o with width := n }, [])
        | none => (o, warn "width in environment variable COLUMNS: " v)
      else (o, [])
    | _ => (o, [])
  let (o, tabs) := match t.getenv "TABSIZE" with
    | some v =>
      if lines && !o.tabsGiven then
        match wholeNumber v with
        | some n =>
          if n < 2 ^ 64 then ({ o with tabsize := n }, [])
          else (o, warn "tab size in environment variable TABSIZE: " v)
        | none => (o, warn "tab size in environment variable TABSIZE: " v)
      else (o, [])
    | none => (o, [])
  let (o, quoting) := match t.getenv "QUOTING_STYLE" with
    | some v =>
      if o.quotingGiven then (o, [])
      else match pickArgument "" quotingWords v with
        | .ok q => ({ o with quoting := q }, [])
        | .error _ => (o, warn "value of environment variable QUOTING_STYLE: " v)
    | none => (o, [])
  ({ o with tabsize := if o.color then 0 else o.tabsize }, wide ++ tabs ++ quoting)

/-- A count of bytes as `ls -h` (base 1024) or `ls --si` (base 1000) writes it: as it is below
one unit, else in the largest unit that is a power of the base it reaches, rounded up to a tenth
below ten units and to a whole from there. -/
def humanSize (base bytes : Nat) : String :=
  let suffix := fun (k : Nat) =>
    (if base == 1000 then ["k", "M", "G", "T", "P", "E", "Z", "Y"]
      else ["K", "M", "G", "T", "P", "E", "Z", "Y"]).getD k ""
  if bytes < base then toString bytes
  else
    let e := ((List.range 7).find? fun i => bytes < base ^ (i + 2)).getD 7
    let unit := base ^ (e + 1)
    if bytes < 10 * unit then
      let tenths := (bytes * 10 + unit - 1) / unit
      if tenths < 100 then toString (tenths / 10) ++ "." ++ toString (tenths % 10) ++ suffix e
      else "10" ++ suffix e
    else
      let whole := (bytes + unit - 1) / unit
      if whole ≥ base && e < 7 then "1.0" ++ suffix (e + 1) else toString whole ++ suffix e

example : humanSize 1024 4096 = "4.0K" := by decide
example : humanSize 1000 4096 = "4.1k" := by decide
example : humanSize 1000 12288 = "13k" := by decide

def LsConfig.blockText (o : LsConfig) (blocks : Nat) : String :=
  match o.blocks with
  | .kibibytes => toString blocks
  | .binary => humanSize 1024 (blocks * 1024)
  | .decimal => humanSize 1000 (blocks * 1024)

/-- Whether names that need no quotes get a blank before them, to line up with the quoted ones
in the same listing: in columns and at length, with the quoting styles that quote only some
names. -/
def LsConfig.alignsQuotes (o : LsConfig) : Bool :=
  (o.format == .long || ((o.format == .columns || o.format == .across) && o.width != 0)) &&
    match o.quoting with
    | .shell false _ | .c true => true
    | _ => false

def LsConfig.quote (o : LsConfig) (name : List UInt8) : List UInt8 :=
  let units := Text.charUnits (name.length + 1) name
  let escaped := fun (quote : Option UInt8) => units.flatMap fun (u, k) =>
    if !k.isShown then u.flatMap Text.octalEscape
    else match u with
      | [b] =>
        if b == 92 then [92, 92]
        else if some b == quote then [92, b]
        else if b == 32 && quote.isNone then [92, 32]
        else [b]
      | _ => u
  let hide := fun (bs : List UInt8) => if o.hideControl then Text.questionMarks bs else bs
  match o.quoting with
  | .literal => hide name
  | .c maybe =>
    if maybe && units.all (fun (u, k) => k.isShown && u != [34] && u != [92]) then name
    else [34] ++ escaped (some 34) ++ [34]
  | .escape => escaped none
  | .locale _ => Text.openingQuote ++ escaped (some 0) ++ Text.closingQuote
  | .shell always escapes => hide (Text.shellQuote always escapes name)

/-- What `ls` knows of a file it lists: the name it shows, the path it stands at, whether it is
a directory, a program, and its size in bytes. -/
structure LsEntry where
  name : List UInt8
  path : List UInt8
  isDir : Bool
  runnable : Bool
  size : Nat
  deriving DecidableEq, Repr

def LsEntry.blocks (e : LsEntry) : Nat :=
  (e.size + 4095) / 4096 * 4

def ToolInput.lsEntry (t : ToolInput) (name path : List UInt8) : Option LsEntry :=
  match t.files.stat t.cwd (pathText path) with
  | .ok .dir => some ⟨name, path, true, false, 4096⟩
  | .ok (.file _) =>
    let size := match t.files.read t.cwd (pathText path) with
      | .ok bs => bs.length
      | .error _ => 0
    let runnable := match t.files.resolve t.cwd (pathText path) with
      | .ok tg => t.runnable tg.loc
      | .error _ => false
    some ⟨name, path, false, runnable, size⟩
  | .error _ => none

def LsConfig.mark (o : LsConfig) (e : LsEntry) : List UInt8 :=
  match o.indicator with
  | .none => []
  | .slash | .fileType => if e.isDir then [47] else []
  | .classify => if e.isDir then [47] else if e.runnable then [42] else []

def extensionOf (name : List UInt8) : List UInt8 :=
  match name.reverse.findIdx? (· == 46) with
  | some i => name.drop (name.length - 1 - i)
  | none => []

def isLetterByte (b : UInt8) : Bool :=
  (65 ≤ b && b ≤ 90) || (97 ≤ b && b ≤ 122)

def isDigitByte (b : UInt8) : Bool :=
  48 ≤ b && b ≤ 57

/-- The name after the suffixes at its front: parts that are a `.`, a letter or `~`, then any
letters, digits and `~`. -/
def dropVersionSuffixes : Nat → List UInt8 → List UInt8
  | 0, s => s
  | fuel + 1, 46 :: c :: rest =>
    if isLetterByte c || c == 126 then
      dropVersionSuffixes fuel
        (rest.dropWhile fun b => isLetterByte b || isDigitByte b || b == 126)
    else 46 :: c :: rest
  | _, s => s

/-- The length of a name without its file suffix, the longest run of suffix parts (`.tar.gz`)
that ends it; its first byte always belongs to the stem. `pos` is the place of `s` in the name
and `stem` the length of the stem found so far. -/
def versionStemFrom : Nat → List UInt8 → Nat → Nat → Nat
  | 0, _, _, stem => stem
  | _ + 1, [], _, stem => stem
  | fuel + 1, _ :: rest, pos, _ =>
    let after := dropVersionSuffixes (rest.length + 1) rest
    versionStemFrom fuel after (pos + 1 + (rest.length - after.length)) (pos + 1)

/-- How a byte of a name ranks between numbers: the end of the name and `~` before everything
else, `~` first, then letters by their codes, then other bytes. -/
def versionRank : Option UInt8 → Int
  | none => -1
  | some c =>
    if isDigitByte c then 0
    else if isLetterByte c then c.toNat
    else if c == 126 then -2
    else c.toNat + 256

/-- The texts before the next digits compared by rank: the first difference, or the rests once
both reach a digit or the end. -/
def versionTextCompare : Nat → List UInt8 → List UInt8 → Int ⊕ (List UInt8 × List UInt8)
  | 0, a, b => .inr (a, b)
  | fuel + 1, a, b =>
    let aText := a.head?.any fun c => !isDigitByte c
    let bText := b.head?.any fun c => !isDigitByte c
    if !aText && !bText then .inr (a, b)
    else
      let d := versionRank a.head? - versionRank b.head?
      if d != 0 then .inl d
      else versionTextCompare fuel a.tail b.tail

/-- Two names compared as versions: runs of text by rank, runs of digits by their values without
their leading zeros, in turn. Negative when the first comes first. -/
def versionCompareWithin : Nat → List UInt8 → List UInt8 → Int
  | 0, _, _ => 0
  | fuel + 1, a, b =>
    if a.isEmpty && b.isEmpty then 0
    else match versionTextCompare (a.length + b.length) a b with
      | .inl d => d
      | .inr (a, b) =>
        let a := a.dropWhile (· == 48)
        let b := b.dropWhile (· == 48)
        let aDigits := a.takeWhile isDigitByte
        let bDigits := b.takeWhile isDigitByte
        if aDigits.length > bDigits.length then 1
        else if bDigits.length > aDigits.length then -1
        else
          let firstDiff := (aDigits.zip bDigits).find? (fun (x, y) => x != y)
          match firstDiff with
          | some (x, y) => (x.toNat : Int) - y.toNat
          | none => versionCompareWithin fuel (a.drop aDigits.length) (b.drop bDigits.length)

/-- Two names compared as versions, as `ls -v` orders them: `.` first, then `..`, then other
names that begin with a `.`, then the rest; names compare without their file suffixes first,
and with them when that finds no difference. Negative when the first comes first. -/
def versionCompare (a b : List UInt8) : Int :=
  let rest : Unit → Int := fun _ =>
    let aStem := versionStemFrom (a.length + 1) a 0 0
    let bStem := versionStemFrom (b.length + 1) b 0 0
    let fuel := a.length + b.length + 1
    let first := versionCompareWithin fuel (a.take aStem) (b.take bStem)
    if first != 0 || (aStem == a.length && bStem == b.length) then first
    else versionCompareWithin fuel a b
  if a.isEmpty then (if b.isEmpty then 0 else -1)
  else if b.isEmpty then 1
  else if a.head? == some 46 then
    if b.head? != some 46 then -1
    else if a == [46] then (if b == [46] then 0 else -1)
    else if b == [46] then 1
    else if a == [46, 46] then (if b == [46, 46] then 0 else -1)
    else if b == [46, 46] then 1
    else rest ()
  else if b.head? == some 46 then 1
  else rest ()


example : versionCompare [97, 57] [97, 49, 48] < 0 := by decide
example : versionCompare [97, 126] [97] < 0 := by decide
example : versionCompare [97, 46, 116, 97, 114] [97, 50, 97] < 0 := by decide

def LsConfig.order (o : LsConfig) (es : List LsEntry) : List LsEntry :=
  let someQuoted := o.alignsQuotes && es.any fun e => o.quote e.name != e.name
  let width := fun (e : LsEntry) =>
    let quoted := o.quote e.name
    Text.displayWidth quoted + (if someQuoted && quoted == e.name then 1 else 0)
  let sorted := match o.sort with
    | .name => es.mergeSort fun a b => compareBytes a.name b.name != .gt
    | .version => es.mergeSort fun a b =>
      let d := versionCompare a.name b.name
      d < 0 || (d == 0 && compareBytes a.name b.name != .gt)
    | .width => es.mergeSort fun a b =>
      width a < width b || (width a == width b && compareBytes a.name b.name != .gt)
    | .size => es.mergeSort fun a b =>
      a.size > b.size || (a.size == b.size && compareBytes a.name b.name != .gt)
    | .extension => es.mergeSort fun a b =>
      match compareBytes (extensionOf a.name) (extensionOf b.name) with
      | .lt => true
      | .gt => false
      | .eq => compareBytes a.name b.name != .gt
    | .unsorted => es
  let sorted := if o.reverse && o.sort != .unsorted then sorted.reverse else sorted
  if o.dirsFirst && o.sort != .unsorted then sorted.filter (·.isDir) ++ sorted.filter (!·.isDir)
  else sorted

/-- Whether a name matches a pattern of `-I` or `--hide`: a `.` that begins the name matches only
a `.` written in the pattern, never a wildcard. -/
def ignoreMatches (pat name : List UInt8) : Bool :=
  let explicitDot := match pat with
    | 46 :: _ | 92 :: 46 :: _ => true
    | _ => false
  (name.head? != some 46 || explicitDot) && Pattern.matches (pat.map (·, false)) name

/-- Whether `ls` shows a name it found in a directory: `--hide` counts only while the names that
begin with a `.` are hidden. -/
def LsConfig.shows (o : LsConfig) (name : List UInt8) : Bool :=
  (o.hidden != .visible || name.head? != some 46) &&
    !(o.ignoreBackups && name.getLast? == some 126) &&
    !o.ignored.any (fun p => ignoreMatches p name) &&
    !(o.hidden == .visible && o.hides.any (fun p => ignoreMatches p name))

def LsConfig.entries (o : LsConfig) (t : ToolInput) (dir : List UInt8) : List LsEntry :=
  let names := match t.files.list t.cwd (pathText dir) with
    | .ok ns => ns.map textBytes
    | .error _ => []
  let names := (if o.hidden == .all then [[46], [46, 46]] else []) ++ names.filter o.shows
  o.order (names.filterMap fun n => t.lsEntry n (joinPath dir n))

/-- The colour `ls --color` gives an entry's name: bold blue for a directory and bold green for
a program. -/
def LsEntry.color (e : LsEntry) : Option String :=
  if e.isDir then some "01;34" else if e.runnable then some "01;32" else none

def LsConfig.shownName (o : LsConfig) (e : LsEntry) : List UInt8 :=
  match o.color, e.color with
  | true, some c => [27, 91] ++ textBytes c ++ [109] ++ o.quote e.name ++ [27, 91, 48, 109]
  | _, _ => o.quote e.name

/-- The blank before an entry's name that lines it up with quoted names, when some are quoted
and this one is not. -/
def LsConfig.lead (o : LsConfig) (someQuoted : Bool) (e : LsEntry) : List UInt8 :=
  if someQuoted && o.quote e.name == e.name then [32] else []

/-- The count of blocks before an entry's name, right-aligned in a field of a width, and a blank
after it; nothing when sizes are not asked for. -/
def LsConfig.sizeField (o : LsConfig) (width : Nat) (e : LsEntry) : List UInt8 :=
  if o.sizes then
    let text := o.blockText e.blocks
    textBytes (String.ofList (List.replicate (width - text.length) ' ') ++ text ++ " ")
  else []

def LsConfig.cell (o : LsConfig) (sizeWidth : Nat) (someQuoted : Bool) (e : LsEntry) :
    List UInt8 × Nat :=
  let size := o.sizeField sizeWidth e ++ o.lead someQuoted e
  let plain := size ++ o.quote e.name ++ o.mark e
  (size ++ o.shownName e ++ o.mark e, Text.displayWidth plain)

/-- Blanks from one place of a line to another: tabs to each tab stop on the way when they fit,
then spaces. -/
def LsConfig.gap (o : LsConfig) : Nat → Nat → Nat → List UInt8
  | 0, _, _ => []
  | fuel + 1, here, there =>
    if here ≥ there then []
    else if o.tabsize != 0 && there / o.tabsize > (here + 1) / o.tabsize then
      9 :: o.gap fuel (here + o.tabsize - here % o.tabsize) there
    else 32 :: o.gap fuel (here + 1) there

/-- The widths of the columns when cells of these widths are laid out in `cols` columns, down
the columns or across the rows: each as wide as its widest cell and two places more, but the
last, and never less than three places. -/
def columnWidths (widths : List Nat) (cols : Nat) (down : Bool) : List Nat :=
  let rows := (widths.length + cols - 1) / cols
  (List.range cols).map fun c =>
    widths.zipIdx.foldl (fun m (w, i) =>
      let col := if down then i / rows else i % cols
      if col == c then max m (w + if c + 1 == cols then 0 else 2) else m) 3

/-- The number of columns `ls` uses: the most, up to one per cell, whose line stays shorter than
the width. -/
def LsConfig.columnCount (o : LsConfig) (widths : List Nat) (down : Bool) : Nat :=
  let n := widths.length
  let most := o.width / 3 + (if o.width % 3 != 0 then 1 else 0)
  let most := if 0 < most && most < n then most else n
  let fits := fun (c : Nat) =>
    let ws := columnWidths widths c down
    ws.sum < o.width || ws.all (· == 3)
  ((List.range most).reverse.find? fun i => fits (i + 1)).map (· + 1) |>.getD 1

def LsConfig.downwards (o : LsConfig) (cells : List (List UInt8 × Nat)) : List UInt8 :=
  if cells.isEmpty then [] else
  let cols := o.columnCount (cells.map (·.2)) true
  let widths := columnWidths (cells.map (·.2)) cols true
  let rows := (cells.length + cols - 1) / cols
  (List.range rows).flatMap fun r =>
    let line := (List.range cols).filterMap fun c => (cells[c * rows + r]?).map (c, ·)
    let (text, _) := line.foldl (fun (acc : List UInt8 × Nat) (c, cell) =>
      let (out, pos) := acc
      let (body, width) := cell
      let last := (c + 1) * rows + r ≥ cells.length
      let colWidth := widths.getD c 0
      if last then (out ++ body, pos)
      else (out ++ body ++ o.gap (colWidth + 1) (pos + width) (pos + colWidth), pos + colWidth))
      ([], 0)
    text ++ [o.lineEnd]

def LsConfig.acrossRows (o : LsConfig) (cells : List (List UInt8 × Nat)) : List UInt8 :=
  if cells.isEmpty then [] else
  let cols := o.columnCount (cells.map (·.2)) false
  let widths := columnWidths (cells.map (·.2)) cols false
  let (text, _) := cells.zipIdx.foldl (fun (acc : List UInt8 × Nat) ((body, width), i) =>
    let (out, pos) := acc
    let c := i % cols
    let lastInRow := c + 1 == cols || i + 1 == cells.length
    let colWidth := widths.getD c 0
    if lastInRow then (out ++ body ++ [o.lineEnd], 0)
    else (out ++ body ++ o.gap (colWidth + 1) (pos + width) (pos + colWidth), pos + colWidth))
    ([], 0)
  text

/-- Cells as a list separated by commas, a line broken before a cell that would reach the
width. -/
def LsConfig.commaList (o : LsConfig) (cells : List (List UInt8 × Nat)) : List UInt8 :=
  if cells.isEmpty then [] else
  let (text, _) := cells.zipIdx.foldl (fun (acc : List UInt8 × Nat) ((body, width), i) =>
    let (out, pos) := acc
    if i == 0 then (body, width)
    else if o.width == 0 || pos + width + 2 < o.width then (out ++ [44, 32] ++ body, pos + 2 + width)
    else (out ++ [44, o.lineEnd] ++ body, width)) ([], 0)
  text ++ [o.lineEnd]

def LsEntry.mode (e : LsEntry) : String :=
  if e.isDir then "drwxr-xr-x" else if e.runnable then "-rwxr-xr-x" else "-rw-r--r--"

/-- The size of an entry in bytes as the long format writes it: scaled to units with `-h` and
`--si`. -/
def LsConfig.sizeText (o : LsConfig) (e : LsEntry) : String :=
  match o.blocks with
  | .kibibytes => toString e.size
  | .binary => humanSize 1024 e.size
  | .decimal => humanSize 1000 e.size

/-- Entries at length: mode, links, owner, group (by name, or by number with `-n`), size, time
and name, the columns aligned. -/
def LsConfig.longLines (o : LsConfig) (blockWidth : Nat) (someQuoted : Bool)
    (es : List LsEntry) : List UInt8 :=
  let sizeWidth := es.foldl (fun m e => max m (o.sizeText e).length) 0
  let owner := if o.numericIds then " 0" else " root"
  es.flatMap fun e =>
    let blocks := o.sizeField blockWidth e
    let size := o.sizeText e
    let pad := String.ofList (List.replicate (sizeWidth - size.length) ' ')
    blocks ++ textBytes (e.mode ++ " " ++ (if e.isDir then "2" else "1") ++
      (if o.owner then owner else "") ++ (if o.group then owner else "") ++ " " ++ pad ++
      size ++ " Jan  1 00:00 ") ++ o.lead someQuoted e ++ o.shownName e ++ o.mark e ++ [o.lineEnd]

/-- Entries laid out in the format asked for. Sizes are aligned but in a list with commas; with
no limit to a line, columns become one line with two blanks between names. -/
def LsConfig.layout (o : LsConfig) (es : List LsEntry) : List UInt8 :=
  let sizeWidth := if o.format == .commas then 0
    else es.foldl (fun m e => max m (o.blockText e.blocks).length) 0
  let someQuoted := o.alignsQuotes && es.any fun e => o.quote e.name != e.name
  let cells := es.map (o.cell sizeWidth someQuoted)
  let oneLine := if cells.isEmpty then [] else ((cells.map (·.1)).intersperse [32, 32]).flatten ++
    [o.lineEnd]
  match o.format with
  | .onePerLine => cells.flatMap fun (body, _) => body ++ [o.lineEnd]
  | .columns => if o.width == 0 then oneLine else o.downwards cells
  | .across => if o.width == 0 then oneLine else o.acrossRows cells
  | .commas => o.commaList cells
  | .long => o.longLines sizeWidth someQuoted es

/-- The listing of directories, each with its heading when asked, and with `-R` those below
them. -/
def LsConfig.listDirs (o : LsConfig) (t : ToolInput) (headings : Bool) :
    Nat → List (List UInt8) → Bool → List UInt8
  | 0, _, _ => []
  | _ + 1, [], _ => []
  | fuel + 1, d :: rest, first =>
    let entries := o.entries t d
    let heading := if headings || o.recursive then
        (if first then [] else [10]) ++ o.quote d ++ textBytes ":\n"
      else []
    let total := if o.sizes || o.format == .long then
        textBytes ("total " ++ o.blockText (entries.foldl (· + ·.blocks) 0)) ++ [o.lineEnd]
      else []
    let below := if o.recursive then
        (entries.filter fun e => e.isDir && e.name != [46] && e.name != [46, 46]).map (·.path)
      else []
    heading ++ total ++ o.layout entries ++ o.listDirs t headings fuel (below ++ rest) false

/-- Output with the sequence that resets the colours put before the first colour in it, as `ls`
does when it first changes the colour. -/
def resetBeforeColor : Nat → List UInt8 → List UInt8
  | 0, bs => bs
  | _ + 1, [] => []
  | fuel + 1, b :: bs =>
    if b == 27 && bs.head? == some 91 then [27, 91, 48, 109, b] ++ bs
    else b :: resetBeforeColor fuel bs

/-- Runs `ls`. -/
def runLs (t : ToolInput) : ToolResult :=
  let failed := fun (msg : List UInt8) => ({ writes := [(2, msg)], status := 2 } : ToolResult)
  let read := readGnuOptions lsOptions (t.args.length + 1) t.args
  match read.actOn LsConfig.apply {} with
  | .error (.inl c) => { writes := [(2, t.argComplaint c)], status := c.status }
  | .error (.inr (.failure e)) => failed (e.message t.name ++ t.tryHelp)
  | .error (.inr stop) => t.stopped (lsHelp t.name) (versionText "ls") stop
  | .ok o =>
      let operands := read.operands
      let (o, warnings) := o.settle t
      let given := operands.length
      let operands := if operands.isEmpty then [[46]] else operands
      let found := operands.map fun op => (op, t.lsEntry op op)
      let missing := found.filterMap fun (op, e) =>
        match e with
        | none =>
          let why := match t.files.stat t.cwd (pathText op) with
            | .error .notADirectory => "Not a directory"
            | _ => "No such file or directory"
          some (t.complaint (textBytes "cannot access " ++ Text.shellQuote true true op ++
            textBytes (": " ++ why)))
        | some _ => none
      let listed := fun (e : LsEntry) => e.isDir && !o.directory
      let plain := o.order (found.filterMap fun (_, e) => e.filter (!listed ·))
      let dirs := o.order (found.filterMap fun (_, e) => e.filter listed)
      let headings := !plain.isEmpty || given > 1 || dirs.length > 1
      let sep : List UInt8 := if !plain.isEmpty && !dirs.isEmpty then [10] else []
      let out := o.layout plain ++ sep ++
        o.listDirs t headings (16 * (t.files.nodes.length + 2)) (dirs.map (·.path)) true
      let out := if o.color then resetBeforeColor out.length out else out
      { writes := (warnings ++ missing).map (2, ·) ++ (if out.isEmpty then [] else [(1, out)]),
        status := if missing.isEmpty then 0 else 2, writeFailure := 2 }

end BoardSetup.Shell

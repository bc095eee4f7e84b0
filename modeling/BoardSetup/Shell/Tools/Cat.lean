import BoardSetup.Shell.Tools
import BoardSetup.Shell.Tools.Help

/-!
# `cat`

`cat` writes its operands one after another, `-` or none meaning the standard input, which is
read once: a second `-` finds it at its end. `-n` numbers the lines, `-b` only those that are not
empty, `-s` squeezes runs of empty lines, `-E` marks line ends with `$` (and a carriage return
before one with `^M`, also when the newline begins the next operand), `-T` shows tabs as `^I` and `-v` other control bytes in `^` and `M-`
notation; the long options name them too.

A missing file, a directory, or a file that is also its standard output and has bytes left to
read is complained about and makes the status 1. With its standard output closed it does nothing
but say so; with its standard input closed, a `-` fails and, at the end, so does closing it.
-/

namespace BoardSetup.Shell

/-- What `cat` was asked for. -/
structure CatOptions where
  number : Bool := false
  numberNonBlank : Bool := false
  squeeze : Bool := false
  ends : Bool := false
  tabs : Bool := false
  nonPrinting : Bool := false
  deriving DecidableEq, Repr

def catOptions : List OptionSpec :=
  letterOptions "benstuvAET" ++
  [{ key := "b", long := some "number-nonblank" }, { key := "n", long := some "number" },
   { key := "s", long := some "squeeze-blank" }, { key := "v", long := some "show-nonprinting" },
   { key := "E", long := some "show-ends" }, { key := "T", long := some "show-tabs" },
   { key := "A", long := some "show-all" }, { key := "help", long := some "help" },
   { key := "version", long := some "version" }]

def CatOptions.apply (o : CatOptions) (key : String) : CatOptions :=
  match key with
  | "n" => { o with number := true }
  | "b" => { o with numberNonBlank := true }
  | "s" => { o with squeeze := true }
  | "E" => { o with ends := true }
  | "T" => { o with tabs := true }
  | "v" => { o with nonPrinting := true }
  | "A" => { o with nonPrinting := true, ends := true, tabs := true }
  | "e" => { o with nonPrinting := true, ends := true }
  | "t" => { o with nonPrinting := true, tabs := true }
  | _ => o

def CatOptions.plain (o : CatOptions) : Bool :=
  !(o.number || o.numberNonBlank || o.squeeze || o.ends || o.tabs || o.nonPrinting)

/-- Where `cat` stands in its output across files: the last line number, whether it is at the
start of a line, how many empty lines it has just seen, and whether a carriage return that ended
the last operand waits for the byte after it. -/
structure CatState where
  line : Nat := 0
  atStart : Bool := true
  blanks : Nat := 0
  pendingReturn : Bool := false
  deriving DecidableEq, Repr

def showByte (o : CatOptions) (b : UInt8) : List UInt8 :=
  if b == 9 then (if o.tabs then [94, 73] else [9])
  else if !o.nonPrinting then [b]
  else if b < 32 then [94, b + 64]
  else if b < 127 then [b]
  else if b == 127 then [94, 63]
  else
    let low := b - 128
    [77, 45] ++ (if low < 32 then [94, low + 64] else if low == 127 then [94, 63] else [low])

def lineNumber (n : Nat) : List UInt8 :=
  let ds := textBytes (toString n)
  List.replicate (6 - ds.length) 32 ++ ds ++ [9]

/-- Copies bytes with `cat`'s options. With `-E` and not `-v`, a carriage return right before
a newline shows as `^M`, also when the newline begins the next operand: one that ends an operand
waits, and is written as it is when the next byte is no newline or no byte comes. -/
def catBytes (o : CatOptions) : CatState → List UInt8 → List UInt8 × CatState
  | st, [] => ([], st)
  | st, b :: bs =>
    if b == 10 then
      let blankLine := st.atStart
      let blanks := if blankLine then st.blanks + 1 else 0
      if o.squeeze && blanks > 1 then catBytes o { st with blanks } bs
      else
        let (num, line) := if st.atStart && o.number && !o.numberNonBlank then
            (lineNumber (st.line + 1), st.line + 1)
          else ([], st.line)
        let mark : List UInt8 := if st.pendingReturn then [94, 77, 36] else [36]
        let here := num ++ (if o.ends then mark ++ [10] else [10])
        let (rest, st') := catBytes o { line, atStart := true, blanks } bs
        (here ++ rest, st')
    else
      let (num, line) := if st.atStart && (o.number || o.numberNonBlank) then
          (lineNumber (st.line + 1), st.line + 1)
        else ([], st.line)
      let waiting : List UInt8 := if st.pendingReturn then [13] else []
      let ending := b == 13 && o.ends && !o.nonPrinting
      let shown := if ending && bs.head? == some 10 then [94, 77]
        else if ending && bs.isEmpty then []
        else showByte o b
      let pendingReturn := ending && bs.isEmpty
      let (rest, st') := catBytes o { line, atStart := false, blanks := 0, pendingReturn } bs
      (waiting ++ num ++ shown ++ rest, st')

/-- Where `cat` stands between operands: its writes so far, whether one failed, its place in the
output, and whether it has read its standard input. -/
structure CatRun where
  writes : List (Nat × List UInt8) := []
  failed : Bool := false
  state : CatState := {}
  readStdin : Bool := false
  deriving Repr

def ToolInput.catSource (t : ToolInput) (r : CatRun) (op : List UInt8) :
    Except String (List UInt8) :=
  if namesStdin op then
    match t.stdin with
    | .ok bs => .ok (if r.readStdin then [] else bs)
    | .error e => .error (ReadError.message e)
  else if pathText op == "/dev/null" then .ok []
  else if pathText op == "/dev/tty" then .error "No such device or address"
  else match t.files.read t.cwd (pathText op) with
    | .ok bs =>
      let same := match t.files.resolve t.cwd (pathText op) with
        | .ok tg => t.stdoutFile == some tg.loc
        | .error _ => false
      if same && !bs.isEmpty then .error "input file is output file" else .ok bs
    | .error .isADirectory => .error "Is a directory"
    | .error .notADirectory => .error "Not a directory"
    | .error .nameTooLong => .error "File name too long"
    | .error _ => .error "No such file or directory"

/-- Runs `cat`. -/
def runCat (t : ToolInput) : ToolResult :=
  let read := readGnuOptions catOptions (t.args.length + 1) t.args
  match read.stop with
  | some stop => t.stopped (catHelp t.name) (versionText "cat") stop
  | none =>
    let (opts, operands) := (read.options, read.operands)
    if t.stdoutClosed then
      { writes := [(2, t.complaint (textBytes "standard output: Bad file descriptor"))],
        status := 1 }
    else
    let o := opts.foldl (fun (o : CatOptions) (k, _) => o.apply k) {}
    let operands : List (List UInt8) := if operands.isEmpty then [[45]] else operands
    let r := operands.foldl (fun (r : CatRun) op =>
      let source := t.catSource r op
      let r := if namesStdin op then { r with readStdin := true } else r
      match source with
      | .error why =>
        { r with writes := r.writes ++ [(2, t.complaint (op ++ textBytes (": " ++ why)))],
                 failed := true }
      | .ok bs =>
        let (out, state) := if o.plain then (bs, r.state) else catBytes o r.state bs
        { r with writes := if out.isEmpty then r.writes else r.writes ++ [(1, out)], state })
      ({} : CatRun)
    let r := if r.state.pendingReturn then { r with writes := r.writes ++ [(1, [13])] } else r
    let closing := match t.stdin with
      | .error .badDescriptor =>
        if r.readStdin then
          [(2, t.complaint (textBytes "closing standard input: Bad file descriptor"))]
        else []
      | _ => []
    { writes := r.writes ++ closing, status := if r.failed || !closing.isEmpty then 1 else 0,
      stopsAtWriteError := true, stdinRead := if r.readStdin then t.stdinSize else 0 }

end BoardSetup.Shell

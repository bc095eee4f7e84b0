import BoardSetup.Shell.Tools
import BoardSetup.Shell.Printf
import BoardSetup.Decimal.Conversion
import BoardSetup.Shell.Tools.Help
import BoardSetup.Numbers

/-!
# `echo`, `true`, `false`, `printf` and `sleep`

The stand-alone `echo` writes its arguments with spaces between them and a newline after them.
Leading arguments made of a `-` and the letters `n`, `e` and `E` alone are options: `-n` drops
the newline, `-e` reads escapes and `-E` stops reading them. The escapes are `\\ \a \b \e \f \n
\r \t \v`, `\0` and up to three octal digits, up to three octal digits alone, `\x` and one or two
hexadecimal digits, and `\c`, which ends all output; any other backslash stands for itself. A
lone `--help` or `--version` asks for help or the version. With `POSIXLY_CORRECT` in the
environment, escapes are always read and options are taken only after a first `-n`.

The stand-alone `true` and `false` end with their status, answering only a lone `--help` or
`--version` first.

The stand-alone `printf` formats its arguments (see `BoardSetup.Shell.Printf`) after an optional
`--`, and complains when it has no format.

`sleep` takes intervals, each a number as the C library reads it, not negative, with `s`, `m`,
`h` or `d` after it, and returns at once, as no time passes here. Each bad interval is complained
about, and the status is then 1.
-/

namespace BoardSetup.Shell

/-! ## echo -/

/-- Text with the escapes of the stand-alone `echo` read: the bytes, and whether `\c` ended all
output. -/
def echoEscapes : Nat → List UInt8 → List UInt8 × Bool
  | 0, _ => ([], false)
  | _ + 1, [] => ([], false)
  | fuel + 1, b :: bs =>
    let more := fun (out : List UInt8) (rest : List UInt8) =>
      let (tail, stopped) := echoEscapes fuel rest
      (out ++ tail, stopped)
    if b != 92 then more [b] bs
    else match bs with
      | [] => ([92], false)
      | c :: rest =>
        let simple : List (UInt8 × UInt8) :=
          [(97, 7), (98, 8), (101, 27), (102, 12), (110, 10), (114, 13), (116, 9), (118, 11),
           (92, 92)]
        match simple.lookup c with
        | some v => more [v] rest
        | none =>
          if c == 99 then ([], true)
          else if c == 120 then
            let (v, after, k) := hexDigitsRun 0 2 rest
            if k == 0 then more [92, 120] rest else more [(v % 256).toUInt8] after
          else if c == 48 then
            let (v, after) := octalDigits 0 3 rest
            more [(v % 256).toUInt8] after
          else if isOctalDigit c then
            let (v, after) := octalDigits (c.toNat - 48) 2 rest
            more [(v % 256).toUInt8] after
          else more [92, c] rest

/-- Runs the stand-alone `echo`. With `POSIXLY_CORRECT` in its environment it always reads
escapes, and takes options only when the first argument is `-n`. -/
def runEcho (t : ToolInput) : ToolResult :=
  let posix := (t.getenv "POSIXLY_CORRECT").isSome
  let options := !posix || t.args.head? == some (textBytes "-n")
  if options && t.args == [textBytes "--help"] then { writes := [(1, echoHelp t.name)] }
  else if options && t.args == [textBytes "--version"] then { writes := [(1, versionText "echo")] }
  else
  let isOpt := fun (a : List UInt8) => match a with
    | 45 :: rest@(_ :: _) => rest.all fun b => b == 110 || b == 101 || b == 69
    | _ => false
  let opts := if options then t.args.takeWhile isOpt else []
  let words := t.args.drop opts.length
  let letters := opts.flatMap (·.drop 1)
  let newline := !letters.contains 110
  let escapes := posix ||
    letters.foldl (fun e b => if b == 101 then true else if b == 69 then false else e) false
  let joined := (words.intersperse [32]).flatten
  if escapes then
    match echoEscapes (joined.length + 1) joined with
    | (out, true) => { writes := [(1, out)] }
    | (out, false) => { writes := [(1, if newline then out ++ [10] else out)] }
  else { writes := [(1, if newline then joined ++ [10] else joined)] }

/-! ## true and false -/

/-- Runs the stand-alone `true` (`success`) or `false`: it ends with its status whatever its
arguments, but a lone `--help` or `--version` is answered first. -/
def runExitTool (success : Bool) (t : ToolInput) : ToolResult :=
  let status := if success then 0 else 1
  let which := if success then "true" else "false"
  if t.args == [textBytes "--help"] then
    { writes := [(1, exitHelp success t.name)], status }
  else if t.args == [textBytes "--version"] then { writes := [(1, versionText which)], status }
  else { status }

/-! ## printf -/

/-- Runs the stand-alone `printf`. -/
def runPrintfTool (t : ToolInput) : ToolResult :=
  if t.args == [textBytes "--help"] then
    { writes := [(1, printfHelp t.name)] }
  else if t.args == [textBytes "--version"] then { writes := [(1, versionText "printf")] }
  else
  let args := match t.args with
    | [45, 45] :: rest => rest
    | args => args
  match args with
  | [] => { writes := [(2, t.complaint (textBytes "missing operand") ++ t.tryHelp)], status := 1 }
  | fmt :: rest =>
    let r := runPrintf .program (t.getenv "POSIXLY_CORRECT").isSome fmt rest
    let writes := r.steps.map fun
      | .out bs => (1, bs)
      | .complain m => (2, t.complaint m)
    match r.fatal with
    | some m => { writes := writes ++ [(2, t.complaint m)], status := 1 }
    | none => { writes, status := r.status }

/-! ## sleep -/

/-- Whether a word is a time interval: a number the C library reads, not negative, with at most
one more byte after it, one of `s`, `m`, `h` and `d`. -/
def isInterval (w : List UInt8) : Bool :=
  let r := Decimal.FloatFormat.double.read w
  let nonNegative := match r.value with
    | .finite neg m _ => !neg || m == 0
    | .infinite neg => !neg
    | .nan _ => false
  r.converted && nonNegative &&
    match r.rest with
    | [] => true
    | [c] => [115, 109, 104, 100].contains c
    | _ => false

def foreverNanos : Nat := 10 ^ 30

/-- The nanoseconds an interval asks for, rounded up, at most `foreverNanos`: its number times the
seconds of its unit. -/
def intervalNanos (w : List UInt8) : Nat :=
  let r := Decimal.FloatFormat.double.read w
  let unit := match r.rest with
    | [109] => 60
    | [104] => 3600
    | [100] => 86400
    | _ => 1
  match r.value with
  | .finite _ m e =>
    if e > 128 then foreverNanos
    else
      let (num, den) := Decimal.scaled m e
      min foreverNanos ((num * unit * 10 ^ 9 + den - 1) / den)
  | _ => foreverNanos

def sleepOptions : List OptionSpec :=
  [{ key := "help", long := some "help" }, { key := "version", long := some "version" }]

/-- Runs `sleep`. -/
def runSleep (t : ToolInput) : ToolResult :=
  let r := readGnuOptions sleepOptions (t.args.length + 1) t.args
  match r.stop with
  | some stop => t.stopped (sleepHelp t.name) (versionText "sleep") stop
  | none =>
    let operands := r.operands
    if t.args.isEmpty then
      { writes := [(2, t.complaint (textBytes "missing operand") ++ t.tryHelp)], status := 1 }
    else
      let bad := operands.filter (!isInterval ·)
      if bad.isEmpty then { sleeps := (operands.map intervalNanos).sum }
      else
        let complaints := bad.map fun w =>
          (2, t.complaint (textBytes "invalid time interval " ++ Text.curlyQuote w))
        { writes := complaints ++ [(2, t.tryHelp)], status := 1 }

end BoardSetup.Shell

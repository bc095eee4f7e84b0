import BoardSetup.Shell.Expand
import BoardSetup.Shell.Signals
import BoardSetup.Shell.Printf
import BoardSetup.Shell.Test
import BoardSetup.Shell.Tools
import BoardSetup.Numbers

/-!
# Built-in commands

The commands the shell runs itself and that run no other command. Each takes its arguments (the
command's name left out) and gives its exit status; it writes its standard output through the
shell's buffer, which is flushed when the command is over, and complains on descriptor 2 with its
own name. An error fails the command with status 2: a special built-in then ends the shell, a
regular one does not (the evaluator decides which).

- Values and variables: `export`, `readonly`, `unset`, `local`, `read`, `set`, `shift`,
  `getopts`.
- Control: `exit`, `return`, `break`, `continue` (these leave the normal path through `Stop`),
  `true`, `false`, `:`.
- Text: `echo`, `printf`, `test` and `[`.
- The process: `cd`, `pwd`, `umask`, `kill`, `trap`, `wait`, `hash`, `type`, `alias`,
  `unalias`, `times`, `ulimit`, `jobs`, `fg`, `bg`.

Options are read the shell's way: letters after a `-`, up to `--` or the first word that is no
option, an unknown letter being an error.
-/

namespace BoardSetup.Shell

/-- The special built-in commands: an error in one ends the shell, and assignments before one
stay. -/
def specialBuiltins : List String :=
  [".", ":", "break", "continue", "eval", "exec", "exit", "export", "local", "readonly", "return",
   "set", "shift", "times", "trap", "unset"]

def regularBuiltins : List String :=
  ["[", "alias", "bg", "cd", "chdir", "command", "echo", "false", "fg", "getopts", "hash", "jobs",
   "kill", "printf", "pwd", "read", "test", "true", "type", "ulimit", "umask", "unalias", "wait"]

def keywords : List String :=
  ["!", "case", "do", "done", "elif", "else", "esac", "fi", "for", "if", "in", "then", "until",
   "while", "\x7b", "\x7d"]

def nameText (bs : Bytes) : String :=
  (String.fromUTF8? (ByteArray.mk bs.toArray)).getD ""

def bytesIn (bs : Bytes) (names : List String) : Bool :=
  !bs.isEmpty && names.contains (nameText bs)

def splitAt (sep : UInt8) (bs : Bytes) : List Bytes :=
  bs.foldr (fun b acc =>
    if b == sep then [] :: acc
    else match acc with
      | first :: rest => (b :: first) :: rest
      | [] => [[b]]) [[]]

/-- Text quoted for the shell to read back: in single quotes, a single quote written as `'"'"'`
in effect. -/
def singleQuote (bs : Bytes) : Bytes :=
  let rec go : Nat → Bytes → Bytes
    | 0, _ => []
    | _ + 1, [] => []
    | n + 1, rest =>
      let plain := rest.takeWhile (· != 39)
      let after := rest.drop plain.length
      let quotes := after.takeWhile (· == 39)
      let more := after.drop quotes.length
      let piece := [39] ++ plain ++ [39]
      if quotes.isEmpty then piece
      else piece ++ [34] ++ quotes ++ [34] ++ (if more.isEmpty then [] else go n more)
  if bs.isEmpty then [39, 39] else go (bs.length + 1) bs

namespace Builtin

/-- Reads the options of a command: the letters given, each with its argument when `spec` says
it takes one, and the words after the options. -/
def readOptions (spec : List (UInt8 × Bool)) : Nat → List Bytes →
    Run (List (UInt8 × Bytes) × List Bytes)
  | 0, args => return ([], args)
  | _ + 1, [] => return ([], [])
  | fuel + 1, a :: rest =>
    match a with
    | [45, 45] => return ([], rest)
    | 45 :: letters@(_ :: _) => do
      let (found, rest) ← lettersOf letters rest letters.length
      let (more, words) ← readOptions spec fuel rest
      return (found ++ more, words)
    | _ => return ([], a :: rest)
where
  /-- The letters of one word of options. -/
  lettersOf : Bytes → List Bytes → Nat → Run (List (UInt8 × Bytes) × List Bytes)
    | [], rest, _ => return ([], rest)
    | _, rest, 0 => return ([], rest)
    | c :: cs, rest, n + 1 => do
      match spec.lookup c with
      | none => Run.fail (utf8 "Illegal option -" ++ [c])
      | some false =>
        let (found, rest) ← lettersOf cs rest n
        return ((c, []) :: found, rest)
      | some true =>
        if !cs.isEmpty then return ([(c, cs)], rest)
        else match rest with
          | arg :: more => return ([(c, arg)], more)
          | [] => Run.fail (utf8 "No arg for -" ++ [c] ++ utf8 " option")

def noOptions (args : List Bytes) : Run (List Bytes) := do
  return (← readOptions [] (args.length + 1) args).2

def number (arg : Bytes) : Run Nat := do
  match commandNumber arg with
  | some n => return n
  | none => Run.fail (utf8 "Illegal number: " ++ arg)

def setChecked (name value : Bytes) : Run Unit := do
  if !isName name then Run.fail (name ++ utf8 ": bad variable name")
  Run.assign name value

/-! ## Variables -/

def listVars (prefix_ : String) (keep : Var → Bool) : Run Unit := do
  let vs := (← Run.proc).vars.filter fun (_, v) => keep v
  let sorted := vs.mergeSort fun a b => Shell.compareBytes a.1 b.1 != .gt
  for (n, v) in sorted do
    let lead := if prefix_.isEmpty then [] else utf8 (prefix_ ++ " ")
    match v.value with
    | some val => Run.out (lead ++ n ++ [61] ++ singleQuote val ++ [10])
    | none => Run.out (lead ++ n ++ [10])

/-- `export` and `readonly`: give variables the attribute, setting those given a value; with no
names or `-p`, list the variables that have it. -/
def exportLike (readonly : Bool) (args : List Bytes) : Run Nat := do
  let (opts, names) ← readOptions [(112, false)] (args.length + 1) args
  let has := fun (v : Var) => if readonly then v.readOnly else v.exported
  if !opts.isEmpty || names.isEmpty then
    listVars (if readonly then "readonly" else "export") has
    return 0
  for w in names do
    let name := w.takeWhile (· != 61)
    let value := if name.length < w.length then some (w.drop (name.length + 1)) else none
    match value with
    | some val =>
      setChecked name val
      let v := ((← Run.var? name).getD { value := some val })
      Run.putVar name (if readonly then { v with readOnly := true } else { v with exported := true })
    | none =>
      match ← Run.var? name with
      | some v =>
        Run.putVar name (if readonly then { v with readOnly := true } else { v with exported := true })
      | none =>
        if !isName name then Run.fail (name ++ utf8 ": bad variable name")
        Run.putVar name (if readonly then { value := none, readOnly := true }
          else { value := none, exported := true })
  return 0

def unset (args : List Bytes) : Run Nat := do
  let (opts, names) ← readOptions [(118, false), (102, false)] (args.length + 1) args
  let funcs := (opts.getLast?.map (·.1)) == some 102
  for n in names do
    if funcs then
      Run.modifyProc fun p => { p with funcs := p.funcs.filter (·.1 != n) }
    else
      if !isName n then Run.fail (n ++ utf8 ": bad variable name")
      Run.unset n
  return 0

/-- `local`: makes variables local to the running function, saving their values for its end;
`local -` saves the options in the same way. -/
def «local» (args : List Bytes) : Run Nat := do
  let p ← Run.proc
  if p.locals.isEmpty then Run.fail (utf8 "not in a function")
  for w in args do
    if w == [45] then
      Run.modifyProc fun p =>
        match p.locals with
        | frame :: rest =>
          if frame.opts.isSome then p else { p with locals := { frame with opts := some p.opts } :: rest }
        | [] => p
      continue
    let name := w.takeWhile (· != 61)
    let value := if name.length < w.length then some (w.drop (name.length + 1)) else none
    let old ← Run.var? name
    Run.modifyProc fun p =>
      match p.locals with
      | frame :: rest =>
        if frame.vars.any (·.1 == name) then p
        else { p with locals := { frame with vars := (name, old) :: frame.vars } :: rest }
      | [] => p
    match value, old with
    | some v, _ => Run.assign name v
    | none, none => Run.putVar name { value := none }
    | none, some _ => pure ()
  return 0

def isBlankSep (b : UInt8) : Bool := b == 32 || b == 9 || b == 10

def readField (ifs : Bytes) (line : List (UInt8 × Bool)) : Bytes × List (UInt8 × Bool) :=
  let f := line.takeWhile fun (b, esc) => esc || !ifs.contains b
  (f.map (·.1), line.drop f.length)

def dropSeparators (ifs : Bytes) (line : List (UInt8 × Bool)) : List (UInt8 × Bool) :=
  let isSep := fun (e : UInt8 × Bool) => !e.2 && ifs.contains e.1
  let isBlank := fun (e : UInt8 × Bool) => isSep e && isBlankSep e.1
  let line := line.dropWhile isBlank
  match line with
  | e :: rest => if isSep e then rest.dropWhile isBlank else line
  | [] => []

def splitLine (ifs : Bytes) : List Bytes → List (UInt8 × Bool) → List (Bytes × Bytes)
  | [], _ => []
  | [v], line =>
    let isBlank := fun (e : UInt8 × Bool) => !e.2 && ifs.contains e.1 && isBlankSep e.1
    let (f, after) := readField ifs line
    let value := if (dropSeparators ifs after).isEmpty then f
      else ((line.reverse.dropWhile isBlank).reverse).map (·.1)
    [(v, value)]
  | v :: vs, line =>
    let (f, after) := readField ifs line
    (v, f) :: splitLine ifs vs (dropSeparators ifs after)

/-- Reads one line of the standard input: its bytes, each marked when a backslash escaped it,
and whether the input ended first. -/
def readLine (raw : Bool) : Nat → List (UInt8 × Bool) → Run (List (UInt8 × Bool) × Bool)
  | 0, acc => return (acc, true)
  | fuel + 1, acc => do
    let next : Run (Option UInt8) := do
      match ← Run.channel 0 with
      | none => return none
      | some ch =>
        match (← Run.sys).readByte ch with
        | .ok (b, s) =>
          Run.modifySys fun _ => s
          return b
        | .error _ => return none
    match ← next with
    | none => return (acc, true)
    | some 0 => readLine raw fuel acc
    | some 10 => return (acc, false)
    | some 92 =>
      if raw then readLine raw fuel (acc ++ [(92, false)])
      else match ← next with
        | none => return (acc, true)
        | some 10 => readLine raw fuel acc
        | some b => readLine raw fuel (acc ++ [(b, true)])
    | some b => readLine raw fuel (acc ++ [(b, false)])

def read (args : List Bytes) : Run Nat := do
  let (opts, names) ← readOptions [(112, true), (114, false)] (args.length + 1) args
  let raw := opts.any (·.1 == 114)
  if names.isEmpty then Run.fail (utf8 "arg count")
  let sys ← Run.sys
  let left := match ← Run.channel 0 with
    | some ch => ((sys.unread ch).toOption.map List.length).getD 0
    | none => 0
  let (line, ended) ← readLine raw (left + 2) []
  let ifs ← Run.ifs
  let isBlank := fun (e : UInt8 × Bool) => !e.2 && ifs.contains e.1 && isBlankSep e.1
  for (n, v) in splitLine ifs names (line.dropWhile isBlank) do
    setChecked n v
  return if ended then 1 else 0

/-! ## Options and parameters -/

def showOptions (asCommands : Bool) (value : String → Bool) : Run Unit := do
  if !asCommands then Run.out (utf8 "Current option settings\n")
  for (name, _) in optionTable do
    if asCommands then
      Run.out (utf8 ("set " ++ (if value name then "-o " else "+o ") ++ name ++ "\n"))
    else
      let pad := String.ofList (List.replicate (16 - name.length) ' ')
      Run.out (utf8 (name ++ pad ++ (if value name then "on" else "off") ++ "\n"))

/-- Turns job control off again once asked for: the shell has no terminal to control, and its
own process says so; a subshell keeps the option and does nothing with it. -/
def settleMonitor : Run Unit := do
  let p ← Run.proc
  if p.opts.monitor && p.selfPid == p.pid then
    Run.complain (utf8 "can't access tty; job control turned off")
    Run.modifyProc fun p => { p with opts := { p.opts with monitor := false } }

/-- Sets options from words such as `-eu`, `+x` and `-o name`, as `set` and the shell's own
command line read them: the positional parameters that follow, if any were given (`--` alone
giving none). -/
def setOptions (onCommandLine : Bool) : Nat → List Bytes → Run (Option (List Bytes))
  | 0, _ => return none
  | _ + 1, [] => return none
  | fuel + 1, a :: rest => do
    match a with
    | [45] =>
      if !onCommandLine then
        Run.modifyProc fun p => { p with opts := { p.opts with xtrace := false, verbose := false } }
      return if rest.isEmpty then none else some rest
    | [45, 45] => return some rest
    | c :: letters =>
      if c != 45 && c != 43 then return some (a :: rest)
      let on := c == 45
      let rest ← applyLetters on letters rest letters.length
      setOptions onCommandLine fuel rest
    | [] => return some (a :: rest)
where
  /-- Applies the letters of one word of options. -/
  applyLetters (on : Bool) : Bytes → List Bytes → Nat → Run (List Bytes)
    | [], rest, _ => return rest
    | _, rest, 0 => return rest
    | l :: ls, rest, n + 1 => do
      if l == 111 then
        match rest with
        | name :: more =>
          let known := optionTable.any fun (n, _) => utf8 n == name
          if !known then Run.fail (utf8 "Illegal option -o " ++ name)
          Run.modifyProc fun p => { p with opts := p.opts.set (Text.ofBytesLossy name) on }
          applyLetters on ls more n
        | [] =>
          showOptions (!on) (← Run.proc).opts.get
          applyLetters on ls [] n
      else
        match Options.nameOfLetter (Char.ofNat l.toNat) with
        | some name =>
          Run.modifyProc fun p => { p with opts := p.opts.set name on }
          applyLetters on ls rest n
        | none => Run.fail (utf8 "Illegal option -" ++ [l])

/-- `set`: with no arguments lists the variables; otherwise sets options and the positional
parameters. -/
def set (args : List Bytes) : Run Nat := do
  if args.isEmpty then
    listVars "" fun v => v.value.isSome
    return 0
  let params ← setOptions false (args.length + 1) args
  settleMonitor
  match params with
  | some params => Run.modifyProc fun p => { p with params }
  | none => pure ()
  return 0

def shift (args : List Bytes) : Run Nat := do
  let n ← match args with
    | a :: _ => number a
    | [] => pure 1
  let p ← Run.proc
  if n > p.params.length then Run.fail (utf8 "can't shift that many")
  Run.modifyProc fun p => { p with params := p.params.drop n }
  return 0

/-- Whether an option letter is in the option string of `getopts`, and whether it takes an
argument: the string is walked from letter to letter, each step also passing over one `:` after
the letter left, so a `:` can itself be found as a letter. -/
def optionSpecOf (c : UInt8) : Nat → Bytes → Option Bool
  | 0, _ => none
  | _ + 1, [] => none
  | fuel + 1, q :: rest =>
    if q == c then some (rest.head? == some 58)
    else match rest with
      | 58 :: after => optionSpecOf c fuel after
      | _ => optionSpecOf c fuel rest

example : optionSpecOf 58 5 [97, 58, 58, 98] = some false := by decide
example : optionSpecOf 58 3 [58, 58] = some true := by decide

def getopts (args : List Bytes) : Run Nat := do
  match args with
  | optstr :: var :: given =>
    let p ← Run.proc
    let words := if given.isEmpty then p.params else given
    let (index, offset) :=
      if p.optIndex > words.length + 1 then (1, none) else (p.optIndex, p.optOffset)
    let current := words[index - 2]?
    let inWord : Option Bytes := match offset, current with
      | some off, some w => if index > 1 && off ≤ w.length then some (w.drop off) else none
      | _, _ => none
    let silent := optstr.head? == some 58
    let setVarOf := fun (c : Bytes) => setChecked var c
    let finish := fun (idx : Nat) (off : Option Nat) (c : Bytes) (done : Bool) => do
      Run.assign (utf8 "OPTIND") (Run.numberText idx)
      Run.modifyProc fun p => { p with optIndex := idx, optOffset := off }
      setVarOf c
      return (if done then 1 else 0)
    let (letters, idx) ← match inWord with
      | some rest@(_ :: _) => pure (some rest, index)
      | _ =>
        match words[index - 1]? with
        | some (45 :: rest@(_ :: _)) =>
          if rest == [45] then pure (none, index + 1) else pure (some rest, index + 1)
        | _ => pure (none, index)
    match letters with
    | none => finish idx none [63] true
    | some [] => finish idx none [63] true
    | some (c :: more) =>
      let spec := optionSpecOf c (optstr.length + 1) optstr
      if spec.isNone then
        if silent then Run.assign (utf8 "OPTARG") [c]
        else
          Run.put 2 (utf8 "Illegal option -" ++ [c, 10])
          Run.unset (utf8 "OPTARG")
        let off := if more.isEmpty then none else some ((words[idx - 2]?.getD []).length - more.length)
        finish idx off [63] false
      else if spec == some true then
        if !more.isEmpty then
          Run.assign (utf8 "OPTARG") more
          finish idx none [c] false
        else match words[idx - 1]? with
          | some arg =>
            Run.assign (utf8 "OPTARG") arg
            finish (idx + 1) none [c] false
          | none =>
            if silent then
              Run.assign (utf8 "OPTARG") [c]
              finish idx none [58] false
            else
              Run.put 2 (utf8 "No arg for -" ++ [c] ++ utf8 " option\n")
              Run.unset (utf8 "OPTARG")
              finish idx none [63] false
      else
        Run.assign (utf8 "OPTARG") []
        let off := if more.isEmpty then none else some ((words[idx - 2]?.getD []).length - more.length)
        finish idx off [c] false
  | _ => Run.fail (utf8 "Usage: getopts optstring var [arg]")

/-! ## Control -/

def exit (args : List Bytes) : Run Nat := do
  match args with
  | a :: _ =>
    let n ← number a
    Run.modifyProc fun p => { p with savedStatus := some n }
  | [] => pure ()
  throw .exit

def «return» (args : List Bytes) : Run Nat := do
  match args with
  | a :: _ => Run.setStatus (← number a)
  | [] => pure ()
  throw .returnFn

def loopControl (isBreak : Bool) (args : List Bytes) : Run Nat := do
  let n ← match args with
    | a :: _ =>
      let n ← number a
      if n == 0 then Run.fail (utf8 "Illegal number: " ++ a)
      pure n
    | [] => pure 1
  let depth := (← Run.proc).loopDepth
  let n := min n depth
  if n > 0 then
    Run.setStatus 0
    throw (if isBreak then .breakLoop n else .continueLoop n)
  return 0

/-! ## Text -/

def echo (args : List Bytes) : Run Nat := do
  Run.out (echoBytes args)
  return 0

def printf (args : List Bytes) : Run Nat := do
  let args ← noOptions args
  match args with
  | [] => Run.fail (utf8 "usage: printf format [arg ...]")
  | fmt :: rest =>
    let r := runPrintf .builtin false fmt rest
    for s in r.steps do
      match s with
      | .out bs => Run.out bs
      | .complain m => Run.complain m
    match r.fatal with
    | some m => Run.fail m
    | none => return r.status

def runnableAt : Run (List String → Bool) := do
  let programs := (← Run.sys).programs
  return fun loc => programs.any (·.1 == loc)

def fileFacts : Run FileFacts := do
  return fileFactsOf (← Run.sys).files (← Run.proc).cwd (← runnableAt)

def test (bracket : Bool) (args : List Bytes) : Run Nat := do
  let args ← if bracket then
      match args.getLast? with
      | some last =>
        if last.head? == some 93 then pure args.dropLast else Run.fail (utf8 "missing ]")
      | none => Run.fail (utf8 "missing ]")
    else pure args
  match evalTest (← fileFacts) args with
  | .ok v => return if v then 0 else 1
  | .error e => Run.fail e.text

/-! ## The process -/

def locText (loc : List String) : Bytes :=
  utf8 ("/" ++ "/".intercalate loc)

def isDotPath (path : Bytes) : Bool :=
  match path with
  | [46] | 46 :: 47 :: _ | [46, 46] | 46 :: 46 :: 47 :: _ => true
  | _ => false

/-- The name the shell gives a directory: its path, after one more slash when it was reached by
a path that begins with exactly two. -/
def logicalText (doubleRoot : Bool) (loc : List String) : Bytes :=
  (if doubleRoot then [47] else []) ++ locText loc

/-- Whether the last of the options `-L` and `-P` is `-P`, which asks for the directory as the
system names it. -/
def physicalAsked (opts : List (UInt8 × Bytes)) : Bool :=
  (opts.reverse.find? fun (c, _) => c == 76 || c == 80).any (·.1 == 80)

/-- `cd`: changes the working directory, to `HOME` by default and `OLDPWD` for `-`. A relative
path that does not start at `.` or `..` is looked for under each directory of `CDPATH` first
(an empty entry being the working directory), an empty path as `.`; when one that is not empty
holds it, as for `-`, the new directory is written. The name kept for the new directory starts
with two slashes when the path did, or when the path is relative and the old name did. -/
def cd (args : List Bytes) : Run Nat := do
  let (opts, args) ← readOptions [(76, false), (80, false)] (args.length + 1) args
  let (given, show_) ← match args with
    | [45] :: _ => pure ((← Run.value? (utf8 "OLDPWD")).getD [], true)
    | d :: _ => pure (d, false)
    | [] => pure ((← Run.value? (utf8 "HOME")).getD [], false)
  let dest := if given.isEmpty then [46] else given
  let files := (← Run.sys).files
  let p ← Run.proc
  let dirAt := fun (path : Bytes) => match files.resolve p.cwd (pathText path) with
    | .ok tg => if files.isDirAt tg.loc then some tg.loc else none
    | .error _ => none
  let searched ← if given.head? == some 47 || isDotPath given then pure []
    else pure (((← Run.value? (utf8 "CDPATH")).map (splitAt 58)).getD [])
  let found := searched.findSome? fun entry =>
    let path := if entry.isEmpty then dest else entry ++ [47] ++ dest
    (dirAt path).map (·, !entry.isEmpty, path)
  let found := match found with
    | some f => some f
    | none => (dirAt dest).map (·, false, dest)
  match found with
  | some (loc, printed, path) =>
    let double := match path with
      | 47 :: 47 :: rest => rest.head? != some 47
      | 47 :: _ => false
      | _ => p.doubleRoot
    let double := double && !physicalAsked opts
    let old := (← Run.value? (utf8 "PWD")).getD (logicalText p.doubleRoot p.cwd)
    Run.modifyProc fun p => { p with cwd := loc, doubleRoot := double }
    Run.assign (utf8 "OLDPWD") old
    Run.assign (utf8 "PWD") (logicalText double loc)
    if show_ || printed then Run.out (logicalText double loc ++ [10])
    return 0
  | none => Run.fail (utf8 "can't cd to " ++ dest)

/-- `pwd`: writes the working directory, by the name the shell keeps for it unless `-P` asks
for the system's. -/
def pwd (args : List Bytes) : Run Nat := do
  let (opts, _) ← readOptions [(76, false), (80, false)] (args.length + 1) args
  let p ← Run.proc
  Run.out (logicalText (p.doubleRoot && !physicalAsked opts) p.cwd ++ [10])
  return 0

def octalText (n : Nat) : Bytes :=
  let ds := (Nat.toDigits 8 n).map fun c => c.toNat.toUInt8
  List.replicate (4 - ds.length) 48 ++ ds

/-- Applies a symbolic mode such as `u=rwx,g+r` to permission bits: the new bits, or nothing when
the text is no mode. Clauses are separated by `,` (one may end the text); each names whom it is
for (`u`, `g`, `o` or `a`, all when none is named) and then operators (`=`, `+`, `-`), each with
permissions: `r`, `w`, `x`, `X` (`x` when anyone could run before), `s` (which counts for
nothing), or the bits `u`, `g` or `o` had before the mode was applied. -/
def applySymbolicMode (perms : Nat) (text : Bytes) : Option Nat :=
  go (text.length + 1) perms 0 text
where
  /-- Applies the clauses from here on, for whom the current clause is. -/
  go : Nat → Nat → Nat → Bytes → Option Nat
    | 0, _, _, _ => none
    | _ + 1, now, 0, [] => some now
    | fuel + 1, now, who, bs =>
      let whoBytes := bs.takeWhile fun b => (utf8 "augo").contains b
      let who := whoBytes.foldl (fun w b =>
        w ||| (if b == 97 then 0o111 else if b == 117 then 0o100 else if b == 103 then 0o010
          else 0o001)) who
      let who := if who == 0 then 0o111 else who
      match bs.drop whoBytes.length with
      | op :: rest =>
        if !(utf8 "=+-").contains op then none
        else
          let permBytes := rest.takeWhile fun b => (utf8 "rwxugoXs").contains b
          let val := permBytes.foldl (fun v b =>
            v ||| (if b == 114 then 4 else if b == 119 then 2 else if b == 120 then 1
              else if b == 117 then perms / 64 else if b == 103 then perms / 8
              else if b == 111 then perms else if b == 88 then (if perms &&& 0o111 != 0 then 1 else 0)
              else 0)) 0
          let val := (val &&& 7) * who
          let now :=
            if op == 45 then now &&& (511 - val)
            else if op == 61 then val ||| (now &&& (511 - who * 7))
            else now ||| val
          match rest.drop permBytes.length with
          | [] => some now
          | 44 :: more => go fuel now 0 more
          | after@(c :: _) => if (utf8 "=+-").contains c then go fuel now who after else none
      | [] => none

example : applySymbolicMode 0o700 (utf8 "u=rwx,g=rx,o=") = some 0o750 := by cbv
example : applySymbolicMode 0 (utf8 "a+r") = some 0o444 := by cbv
example : applySymbolicMode 0o755 (utf8 "u=r,g=u,") = some 0o475 := by cbv

/-- `umask`: writes or sets the file creation mask, in octal or as a symbolic mode applied to the
permissions the mask leaves. -/
def umask (args : List Bytes) : Run Nat := do
  let (opts, args) ← readOptions [(83, false)] (args.length + 1) args
  let mask := (← Run.proc).umask
  match args with
  | [] =>
    if opts.isEmpty then Run.out (octalText mask ++ [10])
    else
      let perms := fun (shift : Nat) =>
        let bits := (511 - mask) / 2 ^ shift % 8
        (if bits / 4 % 2 == 1 then [114] else []) ++ (if bits / 2 % 2 == 1 then [119] else []) ++
          (if bits % 2 == 1 then [120] else [])
      Run.out (utf8 "u=" ++ perms 6 ++ utf8 ",g=" ++ perms 3 ++ utf8 ",o=" ++ perms 0 ++ [10])
    return 0
  | a :: _ =>
    if (a.head?.map isDigitAscii).getD false then
      if !a.all isOctalDigit then Run.fail (utf8 "Illegal number: " ++ a)
      let v := a.foldl (fun acc b => acc * 8 + (b.toNat - 48)) 0
      Run.modifyProc fun p => { p with umask := v % 512 }
      return 0
    else
      match applySymbolicMode (511 - mask) a with
      | some perms =>
        Run.modifyProc fun p => { p with umask := 511 - perms }
        return 0
      | none => Run.fail (utf8 "Illegal mode: " ++ a)

/-- Sends a signal to a process of the shell: itself, or a process waiting for it; whether there
is such a process. -/
def sendSignal (pid sig : Nat) : Run Bool := do
  let p ← Run.proc
  if pid == p.selfPid then
    if sig == 0 || (p.hardIgnored.contains sig && sig != 9 && sig != 19) then return true
    let trapped := if sig == 9 || sig == 19 then none else p.traps.lookup sig
    match trapped with
    | some action =>
      if !action.isEmpty && !p.caught.contains sig then
        Run.modifyProc fun p => { p with caught := (p.caught ++ [sig]).mergeSort }
      return true
    | none =>
      if signalEffect sig == .terminate then throw (.signal sig)
      return true
  else if p.ancestors.contains pid then
    if sig != 0 then Run.modifySys fun s => { s with pending := s.pending ++ [(pid, sig)] }
    return true
  else
    match (← get).waiting.find? (·.proc.selfPid == pid) with
    | some w =>
      let ignored := sig != 9 &&
        (w.proc.hardIgnored.contains sig || (w.proc.traps.lookup sig).isSome)
      if sig != 0 && !ignored && signalEffect sig == .terminate then
        modify fun s => { s with waiting := s.waiting.filter (·.proc.selfPid != pid) }
        Run.modifyProc fun p => { p with jobs := p.jobs.map fun j =>
          if j.pid == pid then { j with ended := some (.signal sig) } else j }
      return true
    | none => return false

/-- The job a word names, or the current job when there is no word: `%`, `%%` and `%+` the
current job, the one started last; `%-` the one before; `%N` the job numbered `N`; `%?` the only
job. Jobs started here show no command to match, so no other word names a job. -/
def findJob (word : Option Bytes) : Run Job := do
  let jobs := (← Run.proc).jobs
  let current := match jobs.getLast? with
    | some j => pure j
    | none => Run.fail (utf8 "No current job")
  match word with
  | none => current
  | some w =>
    let noSuch : Run Job := Run.fail (utf8 "No such job: " ++ w)
    match w with
    | [37] | [37, 37] | [37, 43] => current
    | [37, 45] =>
      match jobs.reverse[1]? with
      | some j => return j
      | none => Run.fail (utf8 "No previous job")
    | [37, 63] =>
      match jobs with
      | [j] => return j
      | [] => noSuch
      | _ => Run.fail (w ++ utf8 ": ambiguous")
    | 37 :: spec =>
      match commandNumber spec with
      | some n =>
        match jobs.find? (·.number == n) with
        | some j => return j
        | none => noSuch
      | none => noSuch
    | _ => noSuch

/-- What `jobs` writes for a job: its number, `+` for the current job and `-` for the one before,
with `-l` its process number, then whether it runs or how it ended; the command it runs is not
kept, so blanks stand where it would go. -/
def jobLine (mark : Char) (withPid : Bool) (j : Job) : Bytes :=
  let head := "[" ++ toString j.number ++ "] " ++ toString mark ++ " " ++
    (if withPid then toString j.pid ++ " " else "")
  let state := match j.ended with
    | none => "Running"
    | some (.code 0) => "Done"
    | some (.code n) => "Done(" ++ toString n ++ ")"
    | some (.signal n) => signalDescription n
  let text := head ++ state
  utf8 (text ++ String.ofList (List.replicate (33 - text.length - 1) ' ') ++ " \n")

/-- `jobs`: lists the jobs started in the background, the last started first, or those named;
`-p` writes their process numbers alone and `-l` adds them to each line. A job listed that has
ended is forgotten. -/
def jobs (args : List Bytes) : Run Nat := do
  let (opts, names) ← readOptions [(108, false), (112, false)] (args.length + 1) args
  let mode := opts.foldl (fun _ (c, _) => if c == 108 then 1 else 2) 0
  let all := (← Run.proc).jobs
  let marked := all.reverse.zipIdx.map fun (j, i) =>
    (j, if i == 0 then '+' else if i == 1 then '-' else ' ')
  let chosen ← if names.isEmpty then pure marked else names.mapM fun n => do
    let j ← findJob (some n)
    pure (j, ((marked.find? (·.1.pid == j.pid)).map (·.2)).getD ' ')
  for (j, mark) in chosen do
    if mode == 2 then Run.out (utf8 (toString j.pid ++ "\n"))
    else Run.out (jobLine mark (mode == 1) j)
    if j.ended.isSome then
      Run.modifyProc fun p => { p with jobs := p.jobs.filter (·.pid != j.pid) }
  return 0

/-- `fg` and `bg`: would move a job to the foreground or the background, but the shell runs no
job control, so every job named is refused. -/
def foreground (args : List Bytes) : Run Nat := do
  let names ← noOptions args
  let _ ← findJob names.head?
  Run.fail (utf8 "job " ++ (names.head?.getD (utf8 "(null)")) ++
    utf8 " not created under job control")

def kill (args : List Bytes) : Run Nat := do
  let usage := utf8 ("Usage: kill [-s sigspec | -signum | -sigspec] [pid | job]... or\n" ++
    "kill -l [exitstatus]")
  if args.isEmpty then Run.fail usage
  let (sig, list, rest) ← match args with
    | (45 :: spec) :: rest =>
      match decodeSignal spec 1 with
      | some n => pure (some n, false, rest)
      | none =>
        let (opts, rest) ← readOptions [(108, false), (115, true)] (args.length + 1) args
        let sig ← opts.foldlM (fun (acc : Option Nat) (c, arg) =>
          if c == 115 then
            match decodeSignal arg 1 with
            | some n => pure (some n)
            | none => Run.fail (utf8 "invalid signal number or name: " ++ arg)
          else pure acc) none
        pure (sig, opts.any (·.1 == 108), rest)
    | _ => pure (none, false, args)
  let sig := if !list && sig.isNone then some 15 else sig
  if (sig.isNone || rest.isEmpty) != list then Run.fail usage
  if list then
    match rest with
    | [] =>
      Run.out (utf8 "0\n")
      for n in List.range (signalCount - 1) do
        Run.out (utf8 (signalName (n + 1) ++ "\n"))
      return 0
    | a :: _ =>
      let n ← number a
      let n := if n > 128 then n - 128 else n
      if 0 < n && n < signalCount then
        Run.out (utf8 (signalName n ++ "\n"))
        return 0
      else Run.fail (utf8 "invalid signal number or exit status: " ++ a)
  let sig := sig.getD 15
  let mut status := 0
  for a in rest do
    let pid ← match a with
      | 45 :: digits => do
        let _ ← number digits
        pure none
      | 37 :: _ => do
        let _ ← findJob (some a)
        pure none
      | _ => pure (some (← number a))
    let ok ← match pid with
      | some n => sendSignal n sig
      | none => pure false
    if !ok then
      Run.complain (utf8 "No such process\n")
      status := 1
  return status

def trap (args : List Bytes) : Run Nat := do
  let args ← noOptions args
  match args with
  | [] =>
    let traps := ((← Run.proc).traps.mergeSort fun a b => a.1 ≤ b.1)
    for (n, action) in traps do
      Run.out (utf8 "trap -- " ++ singleQuote action ++ [32] ++ utf8 (signalName n) ++ [10])
    return 0
  | first :: rest =>
    let (action, sigs) :=
      if rest.isEmpty || (signalNumber? first).isSome then (none, args) else (some first, rest)
    for s in sigs do
      match decodeSignal s 0 with
      | none =>
        Run.put 2 (utf8 "trap: " ++ s ++ utf8 ": bad trap\n")
        return 1
      | some n =>
        Run.modifyProc fun p =>
          let others := p.traps.filter (·.1 != n)
          match action with
          | some a => if a == [45] then { p with traps := others }
            else { p with traps := others ++ [(n, a)] }
          | none => { p with traps := others }
    return 0

/-- `wait`: waits for the jobs started in the background, all of them with status 0, or those
named, giving the status of the last one found (127 when none is). The jobs waited for are
reported. -/
def wait (args : List Bytes) : Run Nat := do
  let args ← noOptions args
  let report := fun (pid : Nat) => Run.modifyProc fun p =>
    { p with jobs := p.jobs.map fun j => if j.pid == pid then { j with waited := true } else j }
  if args.isEmpty then
    Run.modifyProc fun p => { p with jobs := p.jobs.map fun j => { j with waited := true } }
    return 0
  let mut status := 127
  for a in args do
    let found ← if a.head? == some 37 then some <$> findJob (some a)
      else do
        let pid ← number a
        pure ((← Run.proc).jobs.find? (·.pid == pid))
    match found with
    | some j =>
      report j.pid
      status := ((j.ended.map (·.status)).getD 0)
    | none => pure ()
  return status

/-- The bucket of the shell's table of 39 that an alias's name falls in: its first byte times
16 and all its bytes added up. The aliases are listed bucket by bucket, each bucket in the
order its aliases were first defined. -/
def aliasBucket (name : Bytes) : Nat :=
  ((name.headD 0).toNat * 16 + (name.map (·.toNat)).sum) % 39

/-- `alias`: defines aliases, or writes them. The name of a definition ends at the first `=`
after its first byte. -/
def «alias» (args : List Bytes) : Run Nat := do
  let p ← Run.proc
  if args.isEmpty then
    for (n, v) in p.aliases.mergeSort (fun a b => aliasBucket a.1 ≤ aliasBucket b.1) do
      Run.out (n ++ [61] ++ singleQuote v ++ [10])
    return 0
  let mut status := 0
  for a in args do
    let name := a.take 1 ++ (a.drop 1).takeWhile (· != 61)
    if name.length < a.length then
      let v := a.drop (name.length + 1)
      Run.modifyProc fun p =>
        if (p.aliases.lookup name).isSome then
          { p with aliases := p.aliases.map fun (n, old) => (n, if n == name then v else old) }
        else { p with aliases := p.aliases ++ [(name, v)] }
    else
      match (← Run.proc).aliases.lookup a with
      | some v => Run.out (a ++ [61] ++ singleQuote v ++ [10])
      | none =>
        Run.put 2 (utf8 "alias: " ++ a ++ utf8 " not found\n")
        status := 1
  return status

def unalias (args : List Bytes) : Run Nat := do
  let (opts, names) ← readOptions [(97, false)] (args.length + 1) args
  if !opts.isEmpty then
    Run.modifyProc fun p => { p with aliases := [] }
    return 0
  let mut status := 0
  for n in names do
    if ((← Run.proc).aliases.lookup n).isSome then
      Run.modifyProc fun p => { p with aliases := p.aliases.filter (·.1 != n) }
    else
      Run.put 2 (utf8 "unalias: " ++ n ++ utf8 " not found\n")
      status := 1
  return status

def times (_ : List Bytes) : Run Nat := do
  Run.out (utf8 "0m0.000000s 0m0.000000s\n0m0.000000s 0m0.000000s\n")
  return 0

def limitText (l : Limit) (v : Option Nat) : Bytes :=
  match v with
  | some n => utf8 (toString (n / l.unit))
  | none => utf8 "unlimited"

/-- `ulimit`: writes or sets a limit of the process, the size of the files it writes unless a
letter picks another; `-H` and `-S` pick the hard or the soft limit (to write, the soft one by
default; to set, both), and `-a` writes them all. A value is `unlimited` or decimal digits in
the limit's unit; a soft limit cannot pass the hard one. -/
def ulimit (args : List Bytes) : Run Nat := do
  let letters := utf8 "tfdscmlpnvwr"
  let (opts, rest) ← readOptions ((utf8 "HSa" ++ letters).map (·, false)) (args.length + 1) args
  let (hard, soft) := opts.foldl (fun (acc : Bool × Bool) (c, _) =>
    if c == 72 then (true, false) else if c == 83 then (false, true) else acc) (true, true)
  let all := opts.any (·.1 == 97)
  let what := opts.foldl (fun w (c, _) => if letters.contains c then c else w) 102
  let limits := (← Run.proc).limits
  let some l := limits.find? (·.letter == what) | return 0
  let value ← match rest with
    | [] => pure none
    | [v] =>
      if all then Run.fail (utf8 "too many arguments")
      if v == utf8 "unlimited" then pure (some none)
      else
        let digits := v.takeWhile isDigitAscii
        if digits.length < v.length then Run.fail (utf8 "bad number")
        pure (some (some (digits.foldl (fun acc b => acc * 10 + (b.toNat - 48)) 0 * l.unit)))
    | _ => Run.fail (utf8 "too many arguments")
  if all then
    for l in limits do
      let name := utf8 l.name
      Run.out (name ++ List.replicate (20 - name.length) 32 ++ [32] ++
        limitText l (if soft then l.soft else l.hard) ++ [10])
    return 0
  match value with
  | none =>
    Run.out (limitText l (if soft then l.soft else l.hard) ++ [10])
    return 0
  | some v =>
    let newSoft := if soft then v else l.soft
    let newHard := if hard then v else l.hard
    let above := match newSoft, newHard with
      | _, none => false
      | none, some _ => true
      | some a, some b => a > b
    if above then Run.fail (utf8 "error setting limit (Invalid argument)")
    if l.letter == 110 && (newHard.map (decide <| · > 1048576)).getD true then
      Run.fail (utf8 "error setting limit (Operation not permitted)")
    Run.modifyProc fun p => { p with limits := p.limits.map fun k =>
      if k.letter == what then { k with soft := newSoft, hard := newHard } else k }
    return 0

end Builtin

end BoardSetup.Shell

import BoardSetup.Shell.Builtins
import BoardSetup.Shell.Parser
import BoardSetup.Shell.Tools.Ls
import BoardSetup.Shell.Tools.Cat
import BoardSetup.Shell.Tools.Test
import BoardSetup.Shell.Tools.Echo
import BoardSetup.Shell.Tools.Head
import BoardSetup.Shell.Tools.Tr
import BoardSetup.Shell.Tools.Cut
import BoardSetup.Numbers

/-!
# Running scripts

A script runs one complete command at a time. A command's status is tested when it is the
condition of `if`, `while` or `until`, the left side of `&&` or `||`, or stands after `!`; with
`set -e`, an untested simple command, pipeline or subshell that fails ends the shell, and so
does a compound command whose redirections fail.

A simple command runs in this order: its words are expanded, then the targets of its
redirections, then the redirections are opened (a failure is complained about and gives status
2), then the assignments before it are expanded and made. With no words left, the assignments
stay and the status is that of the redirections, or of the last command substitution. Otherwise
the name is looked up: a function, then a built-in command, then a program in the directories of
`PATH` (a name with a `/` is a path). The assignments stay for special built-in commands and
functions and last only as long as the command for the others, exported to programs. An error in
a special built-in command ends the shell; in a regular one it only fails the command.

Subshells, pipeline stages, command substitutions and background jobs run as child processes: a
copy of the process with a new number, whose changes are lost when it ends. Stages of a pipeline
run one after another, each reading what the one before it wrote. A child runs its own exit trap,
and a signal it sends to a process waiting for it reaches that process when the child is done,
as does `SIGCHLD`, which only a trap heeds. A background job runs whole, at the first moment its
parent starts or ends a child after it, unless it would sleep longer than the processes in front
have slept since it started: then it waits for a later moment, for its parent to wait for it, or
for its parent to end.

Functions and scripts read by `.` run inside one another only so deep: past that the shell has
run out of stack and dies of a segmentation fault.

A shell that ends runs its exit trap first, unless a signal killed it or a program replaced it;
its status is that of `exit`, or of its last command, kept through the trap unless the trap
calls `exit` itself.

Every step takes fuel, so that evaluation is a total function; fuel runs out only on a script
that would not end.
-/

namespace BoardSetup.Shell

/-! ## Steps that run no command -/

/-- What the shell says when a command it waited for was killed by a signal: the signal's
description, unless it was an interrupt or a broken pipe. -/
def reportDeath (ex : Exit) : Run Unit := do
  match ex with
  | .signal n => if n != 2 && n != 13 then Run.put 2 (utf8 (signalDescription n ++ "\n"))
  | .code _ => pure ()

def Run.protect {α : Type} (x : Run α) (cleanup : Run Unit) : Run α := do
  let r ← try (Except.ok <$> x) catch e => pure (Except.error e)
  cleanup
  match r with
  | .ok v => return v
  | .error e => throw e

/-- How deep functions and scripts read by `.` may run inside one another before the shell runs
out of stack. -/
def nestingLimit : Nat := 12000

/-- Runs the commands of a function or of a script read by `.` one level deeper. Past the limit
the shell has run out of stack and is killed by a segmentation fault, which no trap sees. -/
def Run.nested {α : Type} (x : Run α) : Run α := do
  let depth := (← Run.proc).nesting
  if depth ≥ nestingLimit then throw (.signal 11)
  Run.modifyProc fun q => { q with nesting := depth + 1 }
  Run.protect x (Run.modifyProc fun q => { q with nesting := depth })

/-- Runs a part of a command after which the process has more to do, so that no program run in
it takes the process's place. -/
def notLast {α : Type} (x : Run α) : Run α := do
  let last := (← Run.proc).endsAfter
  Run.modifyProc fun p => { p with endsAfter := false }
  Run.protect x (Run.modifyProc fun p => { p with endsAfter := last })

def setLine (line : Nat) : Run Unit :=
  Run.modifyProc fun p => { p with line }

/-- The descriptors a command changed, with what each led to before. -/
abbrev Saved := List (Nat × Option Channel)

def setFd (fd : Nat) (ch : Option Channel) : Run Unit :=
  Run.modifyProc fun p =>
    let rest := p.fds.filter (·.1 != fd)
    { p with fds := match ch with
      | some c => (fd, c) :: rest
      | none => rest }

def saveFd (saved : Saved) (fd : Nat) : Run Saved := do
  if saved.any (·.1 == fd) then return saved
  return saved ++ [(fd, ← Run.channel fd)]

def restoreFds (saved : Saved) : Run Unit := do
  for (fd, ch) in saved do
    setFd fd ch

/-! ## Redirections -/

/-- A redirection with its target expanded; a here-document keeps its body to expand when it is
opened. -/
structure Opened where
  fd : Nat
  op : RedirOp
  target : Bytes
  body : Word

/-- Expands the targets of redirections. A descriptor to copy must be a single digit or `-`;
anything else is a syntax error. -/
def expandRedirs (sub : Cmd → Run Bytes) (fuel : Nat) (rs : List Redir) : Run (List Opened) :=
  rs.mapM fun r => do
    match r with
    | .mk fd op w =>
      match op with
      | .here _ _ => return ⟨fd, op, [], w⟩
      | .copyInput | .copyOutput =>
        let t ← Expand.text sub fuel w
        if t.length == 1 && (t.all isDigitAscii || t == [45]) then return ⟨fd, op, t, []⟩
        else Run.fail (utf8 "Syntax error: Bad fd number")
      | _ => return ⟨fd, op, ← Expand.text sub fuel w, []⟩

/-- The channel a device path opens, when the path names a device: `/dev/full`, `/dev/null` and
the other devices that hold nothing, or a copy of a descriptor for `/dev/stdin`, `/dev/stdout`,
`/dev/stderr` and `/dev/fd/N` (none when that descriptor is closed). -/
def deviceChannel (path : Bytes) : Run (Option (Option Channel)) := do
  let text := pathText path
  if text == "/dev/full" then return some (some .full)
  else if devicePaths.contains text then return some (some .null)
  else if text == "/dev/stdin" then return some (← Run.channel 0)
  else if text == "/dev/stdout" then return some (← Run.channel 1)
  else if text == "/dev/stderr" then return some (← Run.channel 2)
  else if path.take 8 == utf8 "/dev/fd/" && !(path.drop 8).isEmpty &&
      (path.drop 8).all isDigitAscii then
    let n := (path.drop 8).foldl (fun acc b => acc * 10 + (b.toNat - 48)) 0
    return some (← Run.channel n)
  else return none

def openRead (path : Bytes) : Run Channel := do
  let cannot := fun (why : String) =>
    (Run.fail (utf8 "cannot open " ++ path ++ utf8 (": " ++ why)) : Run Channel)
  if pathText path == "/dev/tty" then return ← cannot "No such device or address"
  match ← deviceChannel path with
  | some (some ch) => return ch
  | some none => cannot "No such file"
  | none =>
    let sys ← Run.sys
    match sys.files.resolve (← Run.proc).cwd (pathText path) with
    | .error .nameTooLong => cannot "File name too long"
    | .error _ => cannot "No such file"
    | .ok tg =>
      match sys.files.find? tg.loc with
      | none => cannot "No such file"
      | some .dir => return .directory
      | some (.file _) =>
        if tg.slash then cannot "No such file"
        else
          let (d, sys) := sys.openFile { readable := true, writable := false }
          Run.modifySys fun _ => sys
          return .file tg.loc d

/-- Opens a file to write, creating it: emptied for `>` and `>|` (which `set -C` refuses when
the file exists), kept for `>>`, which writes at its end, and for `<>`, which may also read it,
both from its start. A path that ends in `/` cannot be created. -/
def openWrite (op : RedirOp) (path : Bytes) : Run Channel := do
  let cannot := fun (why : String) =>
    (Run.fail (utf8 "cannot create " ++ path ++ utf8 (": " ++ why)) : Run Channel)
  let openDesc := fun (loc : List String) => do
    let (d, sys) := (← Run.sys).openFile { append := op == .append, readable := op == .readWrite }
    Run.modifySys fun _ => sys
    return Channel.file loc d
  if pathText path == "/dev/tty" then return ← cannot "No such device or address"
  match ← deviceChannel path with
  | some (some ch) => return ch
  | some none => cannot "Directory nonexistent"
  | none =>
    let p ← Run.proc
    let sys ← Run.sys
    match sys.files.resolve p.cwd (pathText path) with
    | .error .nameTooLong => cannot "File name too long"
    | .error _ => cannot "Directory nonexistent"
    | .ok tg =>
      match sys.files.find? tg.loc with
      | some .dir => cannot "Is a directory"
      | some (.file old) =>
        if tg.slash then
          cannot (if op == .output && p.opts.noclobber then "Directory nonexistent"
            else "Is a directory")
        else if op == .output && p.opts.noclobber then cannot "File exists"
        else
          let kept := if op == .output || op == .clobber then [] else old
          Run.modifySys fun s => { s with files := s.files.put tg.loc (.file kept) }
          openDesc tg.loc
      | none =>
        if tg.slash then cannot "Is a directory"
        else
          Run.modifySys fun s => { s with files := s.files.put tg.loc (.file []) }
          openDesc tg.loc

def openRedir (sub : Cmd → Run Bytes) (fuel : Nat) (r : Opened) : Run Unit := do
  match r.op with
  | .copyInput | .copyOutput =>
    if r.target == [45] then setFd r.fd none
    else
      let n := (r.target.headD 48).toNat - 48
      match ← Run.channel n with
      | none => Run.fail (Run.numberText n ++ utf8 ": Bad file descriptor")
      | some ch => setFd r.fd (some ch)
  | .here _ _ =>
    let text ← Expand.joinChunks (← Expand.parts sub fuel true false r.body)
    let (id, sys) := (← Run.sys).openInput text
    Run.modifySys fun _ => sys
    setFd r.fd (some (.input id))
  | .input => setFd r.fd (some (← openRead r.target))
  | op => setFd r.fd (some (← openWrite op r.target))

/-- Opens redirections in order, up to the first that fails: the descriptors changed, and status
2 when one failed (it was complained about). -/
def openRedirs (sub : Cmd → Run Bytes) (fuel : Nat) (rs : List Opened) : Run (Saved × Nat) := do
  let mut saved : Saved := []
  for r in rs do
    saved ← saveFd saved r.fd
    let failed ← try
        openRedir sub fuel r
        pure false
      catch e =>
        match e with
        | .error => pure true
        | e =>
          restoreFds saved
          throw e
    if failed then return (saved, 2)
  return (saved, 0)

/-! ## Variables for one command -/

def assignTemporary (vals : List (Bytes × Bytes)) : Run (List (Bytes × Option Var)) := do
  let mut old : List (Bytes × Option Var) := []
  for (n, v) in vals do
    let prev ← Run.var? n
    if !old.any (·.1 == n) then old := old ++ [(n, prev)]
    Run.assign n v
    let cur := (← Run.var? n).getD { value := some v }
    Run.putVar n { cur with exported := true }
  return old

def restoreVars (old : List (Bytes × Option Var)) : Run Unit := do
  for (n, prev) in old do
    match prev with
    | some v => Run.putVar n v
    | none => Run.modifyProc fun p => { p with vars := p.vars.filter (·.1 != n) }

def keepVars (old : List (Bytes × Option Var)) : Run Unit := do
  let all := (← Run.proc).opts.allexport
  for (n, prev) in old do
    match ← Run.var? n with
    | some v =>
      Run.putVar n { v with exported := all || (prev.map (·.exported)).getD false }
    | none => pure ()

def restoreLocals (frame : Frame) : Run Unit := do
  restoreVars frame.vars
  if let some opts := frame.opts then Run.modifyProc fun p => { p with opts }

/-- Writes a command as `set -x` shows it, `PS4` first, expanded, on standard error as it was
before the command's redirections. -/
def trace (sub : Cmd → Run Bytes) (fuel : Nat) (saved : Saved) (vals : List (Bytes × Bytes))
    (args : List Bytes) : Run Unit := do
  if !(← Run.proc).opts.xtrace then return
  let ps4 := (← Run.value? (utf8 "PS4")).getD []
  let ps4 ← match promptWord ps4 with
    | .ok w => Expand.joinChunks (← Expand.parts sub fuel true false w)
    | .error _ => pure ps4
  let words := vals.map (fun (n, v) => n ++ [61] ++ v) ++ args
  let line := ps4 ++ [32].intercalate words ++ [10]
  let ch ← match saved.lookup 2 with
    | some ch => pure ch
    | none => Run.channel 2
  match ch with
  | some c =>
    match (← Run.sys).write c line with
    | .ok s => Run.modifySys fun _ => s
    | .error _ => pure ()
  | none => pure ()

/-- Expands the words of a simple command. After `export`, `readonly` or `local`, a word that is
an assignment is expanded as one: without field splitting or file names. -/
def expandArgs (sub : Cmd → Run Bytes) (fuel : Nat) (words : List Word) : Run (List Bytes) := do
  let mut out : List Bytes := []
  let mut declaring := false
  for w in words do
    match (if declaring then w.assignment? else none) with
    | some (n, v) => out := out ++ [n ++ [61] ++ (← Expand.assignment sub fuel v)]
    | none =>
      let fs ← Expand.fields sub fuel w
      if out.isEmpty then
        declaring := match fs.head? with
          | some f => bytesIn f ["export", "readonly", "local"]
          | none => false
      out := out ++ fs
  return out

/-! ## Finding commands -/

/-- What a command name stands for. -/
inductive Found where
  | function (defn : Cmd)
  | builtin (special : Bool)
  | program (path : Bytes)
  /-- Nothing; `denied` when a directory of that name stood in the way. -/
  | missing (denied : Bool)

def pathCandidates (name : Bytes) : Run (List Bytes) := do
  let dirs := splitAt 58 ((← Run.value? (utf8 "PATH")).getD [])
  return dirs.map fun d => if d.isEmpty then name else d ++ [47] ++ name

/-- Finds a program in the directories of `PATH`: its path, or whether a directory of that name
stood in the way. -/
def searchProgram (name : Bytes) : Run (Except Bool Bytes) := do
  let files := (← Run.sys).files
  let cwd := (← Run.proc).cwd
  let mut denied := false
  for full in ← pathCandidates name do
    match files.stat cwd (pathText full) with
    | .ok (.file _) => return .ok full
    | .ok .dir => denied := true
    | .error _ => pure ()
  return .error denied

/-- Looks a command name up: a function (unless `functions` is off), a built-in command, a
program found before, or a program in `PATH`, which is noted for next time. -/
def lookup (name : Bytes) (functions : Bool) : Run Found := do
  if name.contains 47 then return .program name
  let p ← Run.proc
  match (if functions then p.funcs.lookup name else none) with
  | some d => return .function d
  | none =>
    if bytesIn name specialBuiltins then return .builtin true
    if bytesIn name regularBuiltins then return .builtin false
    match p.hashed.lookup name with
    | some path => return .program path
    | none =>
      match ← searchProgram name with
      | .ok path =>
        Run.modifyProc fun p => { p with hashed := p.hashed ++ [(name, path)] }
        return .program path
      | .error denied => return .missing denied

/-- What a simple command runs. -/
inductive Target where
  | function (defn : Cmd)
  | builtin (name : Bytes) (special : Bool)
  | program (path : Bytes)
  | missing

/-- The words after `command` that name the command to run, its options (`-p`) dropped; none
when `command` itself has to run, to describe a command or do nothing. -/
def commandWords : List Bytes → Option (List Bytes)
  | [] => none
  | a :: rest =>
    match a with
    | 45 :: cs =>
      if cs.isEmpty then some (a :: rest)
      else if cs == [45] then (if rest.isEmpty then none else some rest)
      else if cs.all (· == 112) then commandWords rest
      else none
    | _ => some (a :: rest)

/-- Finds what a simple command's words run. `command` before a name looks the name up again
without functions, and a special built-in command found so is regular. A name that stands for
nothing is complained about. -/
def resolveCommand : Nat → List Bytes → Bool → Option Bool → Run (Target × List Bytes)
  | 0, argv, _, _ => return (.missing, argv)
  | _ + 1, [], _, _ => return (.missing, [])
  | fuel + 1, name :: rest, functions, special => do
    match ← lookup name functions with
    | .function d => return (.function d, name :: rest)
    | .builtin sp =>
      let sp := special.getD sp
      if name == utf8 "command" then
        match commandWords rest with
        | some argv => resolveCommand fuel argv false (some sp)
        | none => return (.builtin name sp, name :: rest)
      else return (.builtin name sp, name :: rest)
    | .program path => return (.program path, name :: rest)
    | .missing denied =>
      Run.complain (name ++ utf8 (if denied then ": Permission denied" else ": not found"))
      return (.missing, name :: rest)

/-- Why a path cannot be run. -/
inductive ExecError where
  | missing
  | notDirectory
  | denied
  | tooLong

def ExecError.describe : ExecError → String × Nat
  | .missing => ("not found", 127)
  | .notDirectory => ("not found", 127)
  | .denied => ("Permission denied", 126)
  | .tooLong => ("File name too long", 127)

/-- The program a path names, or why it cannot be run: a directory, or a file that is no
program, cannot be run. -/
def programAt (path : Bytes) : Run (Except ExecError Tool) := do
  let sys ← Run.sys
  match sys.files.resolve (← Run.proc).cwd (pathText path) with
  | .error .nameTooLong => return .error .tooLong
  | .error .notADirectory => return .error .notDirectory
  | .error _ => return .error .missing
  | .ok tg =>
    match sys.files.find? tg.loc with
    | none => return .error .missing
    | some .dir => return .error .denied
    | some (.file _) =>
      if tg.slash then return .error .notDirectory
      match sys.programs.lookup tg.loc with
      | some t => return .ok t
      | none => return .error .denied

/-- Describes what a name stands for, as `type` does (`verbose`) and `command -v`: a keyword, an
alias, a function, a built-in command, or the path of a program; status 127 when it stands for
nothing. -/
def describe (name : Bytes) (verbose : Bool) : Run Nat := do
  let p ← Run.proc
  let say := fun (long short : Bytes) => Run.out ((if verbose then name ++ long else short) ++ [10])
  if bytesIn name keywords then
    say (utf8 " is a shell keyword") name
    return 0
  match p.aliases.lookup name with
  | some v =>
    if verbose then Run.out (name ++ utf8 " is an alias for " ++ v ++ [10])
    else Run.out (utf8 "alias " ++ name ++ [61] ++ singleQuote v ++ [10])
    return 0
  | none =>
    if name.contains 47 then
      match (← Run.sys).files.stat p.cwd (pathText name) with
      | .ok _ =>
        say (utf8 " is " ++ name) name
        return 0
      | .error _ =>
        if verbose then Run.out (name ++ utf8 ": not found\n")
        return 127
    match p.funcs.lookup name with
    | some _ =>
      say (utf8 " is a shell function") name
      return 0
    | none =>
      if bytesIn name specialBuiltins then
        say (utf8 " is a special shell builtin") name
        return 0
      if bytesIn name regularBuiltins then
        say (utf8 " is a shell builtin") name
        return 0
      match p.hashed.lookup name with
      | some path =>
        say (utf8 " is a tracked alias for " ++ path) path
        return 0
      | none =>
        match ← searchProgram name with
        | .ok path =>
          Run.modifyProc fun p => { p with hashed := p.hashed ++ [(name, path)] }
          say (utf8 " is " ++ path) path
          return 0
        | .error _ =>
          if verbose then Run.out (name ++ utf8 ": not found\n")
          return 127

/-! ## Built-in commands that run no other command -/

def typeNames (args : List Bytes) : Run Nat := do
  let mut status := 0
  for a in args do
    if (← describe a true) != 0 then status := 127
  return status

def commandDescribe (args : List Bytes) : Run Nat := do
  let (opts, names) ← Builtin.readOptions [(112, false), (118, false), (86, false)]
    (args.length + 1) args
  let verbose := opts.any (·.1 == 86)
  let brief := opts.any (·.1 == 118)
  match names with
  | name :: _ => if verbose || brief then describe name verbose else return 0
  | [] => return 0

/-- The bucket a name falls in, of the 31 of the table where the shell keeps the commands it
found: sixteen times its first byte and the sum of its bytes, kept to 15 bits. -/
def commandBucket (name : Bytes) : Nat :=
  ((name.headD 0).toNat * 16 + (name.map (·.toNat)).sum) % 32768 % 31

example : commandBucket [99, 97, 116] = 5 ∧ commandBucket [108, 115] = 29 := by decide

/-- `hash`: lists the programs found so far, bucket by bucket of the table and in the order they
were found within one, forgets them with `-r`, or looks names up. -/
def hashNames (args : List Bytes) : Run Nat := do
  let (opts, names) ← Builtin.readOptions [(114, false)] (args.length + 1) args
  if !opts.isEmpty then
    Run.modifyProc fun p => { p with hashed := [] }
    return 0
  if names.isEmpty then
    let listed := (← Run.proc).hashed.mergeSort fun a b => commandBucket a.1 ≤ commandBucket b.1
    for (_, path) in listed do
      Run.out (path ++ [10])
    return 0
  let mut status := 0
  for n in names do
    Run.modifyProc fun p => { p with hashed := p.hashed.filter (·.1 != n) }
    match ← lookup n true with
    | .missing denied =>
      Run.complain (n ++ utf8 (if denied then ": Permission denied" else ": not found"))
      status := 1
    | _ => pure ()
  return status

def simpleBuiltin (name : Bytes) (args : List Bytes) : Run Nat := do
  match nameText name with
  | ":" | "true" => return 0
  | "false" => return 1
  | "echo" => Builtin.echo args
  | "printf" => Builtin.printf args
  | "test" => Builtin.test false args
  | "[" => Builtin.test true args
  | "exit" => Builtin.exit args
  | "return" => Builtin.«return» args
  | "break" => Builtin.loopControl true args
  | "continue" => Builtin.loopControl false args
  | "export" => Builtin.exportLike false args
  | "readonly" => Builtin.exportLike true args
  | "unset" => Builtin.unset args
  | "local" => Builtin.«local» args
  | "read" => Builtin.read args
  | "set" => Builtin.set args
  | "shift" => Builtin.shift args
  | "getopts" => Builtin.getopts args
  | "cd" | "chdir" => Builtin.cd args
  | "pwd" => Builtin.pwd args
  | "umask" => Builtin.umask args
  | "kill" => Builtin.kill args
  | "trap" => Builtin.trap args
  | "wait" => Builtin.wait args
  | "jobs" => Builtin.jobs args
  | "fg" | "bg" => Builtin.foreground args
  | "alias" => Builtin.«alias» args
  | "unalias" => Builtin.unalias args
  | "times" => Builtin.times args
  | "ulimit" => Builtin.ulimit args
  | "type" => typeNames args
  | "hash" => hashNames args
  | "command" => commandDescribe args
  | _ => return 0

/-! ## Processes -/

def childOf (p : Proc) (pid : Nat) : Proc :=
  { p with selfPid := pid, ancestors := p.selfPid :: p.ancestors,
           traps := p.traps.filter (·.2.isEmpty), savedStatus := none, pendingOut := [],
           caught := [], endsAfter := true }

def takePending : Run Unit := do
  let me := (← Run.proc).selfPid
  let mine := (← Run.sys).pending.filter (·.1 == me)
  if mine.isEmpty then return
  Run.modifySys fun s => { s with pending := s.pending.filter (·.1 != me) }
  for (_, sig) in mine do
    let _ ← Builtin.sendSignal me sig

def childEnded : Run Unit := do
  let _ ← Builtin.sendSignal (← Run.proc).selfPid 17

/-- Notes that a program slept so long: a background job being tried may sleep only as long as
has passed since it started, and is put back to wait otherwise; outside a tried job the time
passes for all. -/
def slept (ns : Nat) : Run Unit := do
  if ns == 0 then return
  match (← get).trialLeft with
  | some left =>
    if ns > left then throw .deferred
    modify fun s => { s with trialLeft := some (left - ns) }
  | none => modify fun s => { s with clock := s.clock + ns }

def defaultPath : Bytes :=
  utf8 "/usr/local/sbin:/usr/local/bin:/usr/sbin:/usr/bin:/sbin:/bin"

def cwdText (cwd : List String) : Bytes := Builtin.locText cwd

/-- A new shell process called by the name `arg0`: its environment as exported variables, and
the variables a shell sets for itself; the signals ignored when it starts stay ignored. -/
def freshProc (arg0 : Bytes) (env : List (Bytes × Bytes)) (cwd : List String)
    (fds : List (Nat × Channel)) (pid : Nat) (ancestors : List Nat) (umask : Nat)
    (hardIgnored : List Nat) : Proc :=
  let exported := env.map fun (n, v) => (n, ({ value := some v, exported := true } : Var))
  let own : List (Bytes × Var) :=
    [(utf8 "IFS", { value := some [32, 9, 10] }), (utf8 "PS1", { value := some (utf8 "$ ") }),
     (utf8 "PS2", { value := some (utf8 "> ") }), (utf8 "PS4", { value := some (utf8 "+ ") }),
     (utf8 "OPTIND", { value := some (utf8 "1") }),
     (utf8 "PPID", { value := some (Run.numberText (ancestors.headD 1)) }),
     (utf8 "PWD", { value := some (cwdText cwd), exported := true })]
  let path : List (Bytes × Var) :=
    if env.any (·.1 == utf8 "PATH") then [] else [(utf8 "PATH", { value := some defaultPath })]
  let names := own.map (·.1)
  { vars := exported.filter (fun e => !names.contains e.1) ++ own ++ path, arg0, cwd, fds, pid,
    selfPid := pid, ancestors, umask, line := 0, hardIgnored }

def readsStdin (tool : Tool) : Bool :=
  [Tool.cat, .head, .tr, .cut].contains tool

/-- What a program is given: its input is there only for those that read it, and is taken from
the channel only as far as the program says it read. -/
def toolInput (tool : Tool) (argv0 : Bytes) (args : List Bytes) : Run ToolInput := do
  let ch ← Run.channel 0
  let sys ← Run.sys
  let stdin := if readsStdin tool then
      match ch with
      | none => .error .badDescriptor
      | some ch => sys.unread ch
    else .ok []
  let stdinSeekable := match ch with
    | some (.file _ _) => true
    | _ => false
  let programs := (← Run.sys).programs
  let out ← Run.channel 1
  let stdoutFile := match out with
    | some (.file loc _) => some loc
    | _ => none
  return { name := argv0, args, files := (← Run.sys).files, cwd := (← Run.proc).cwd, stdin,
           stdinSeekable, stdoutClosed := out.isNone, stdoutFile,
           runnable := fun loc => programs.any (·.1 == loc), env := ← Run.environment }

/-- Reads the shell's options from its command line: whether `-c` was given, and the words after
the options. An interactive shell asks for job control unless the command line decides it. -/
def readShellOptions (fuel : Nat) (c : Bool) (args : List Bytes) : Run (Bool × List Bytes) := do
  let (c, decided, rest) ← go fuel c [] args
  if (← Run.proc).opts.interactive && !decided.contains "monitor" then
    Run.modifyProc fun p => { p with opts := { p.opts with monitor := true } }
  return (c, rest)
where
  /-- Reads the words of options, noting the options they decide. -/
  go : Nat → Bool → List String → List Bytes → Run (Bool × List String × List Bytes)
    | 0, c, d, args => return (c, d, args)
    | _ + 1, c, d, [] => return (c, d, [])
    | fuel + 1, c, d, a :: rest => do
      match a with
      | [45] | [45, 45] => return (c, d, rest)
      | s :: letters =>
        if s != 45 && s != 43 then return (c, d, a :: rest)
        let (c, d, rest) ← shellLetters (s == 45) c d letters rest letters.length
        go fuel c d rest
      | [] => return (c, d, a :: rest)
  /-- Applies the letters of one word of options. -/
  shellLetters (on : Bool) (c : Bool) (d : List String) :
      Bytes → List Bytes → Nat → Run (Bool × List String × List Bytes)
    | [], rest, _ => return (c, d, rest)
    | _, rest, 0 => return (c, d, rest)
    | l :: ls, rest, n + 1 => do
      if l == 99 then shellLetters on true d ls rest n
      else if l == 108 then shellLetters on c d ls rest n
      else if l == 111 then
        match rest with
        | name :: more =>
          if !optionTable.any (fun (o, _) => utf8 o == name) then
            Run.fail (utf8 "Illegal option -o " ++ name)
          let o := Text.ofBytesLossy name
          Run.modifyProc fun p => { p with opts := p.opts.set o on }
          shellLetters on c (o :: d) ls more n
        | [] =>
          let opts := (← Run.proc).opts
          Builtin.showOptions (!on) fun o => !d.contains o || opts.get o
          let _ ← Run.flush
          shellLetters on c d ls [] n
      else
        match Options.nameOfLetter (Char.ofNat l.toNat) with
        | some o =>
          Run.modifyProc fun p => { p with opts := p.opts.set o on }
          shellLetters on c (o :: d) ls rest n
        | none => Run.fail (utf8 "Illegal option -" ++ [l])

/-- How a step of a loop ended. -/
inductive LoopEnd where
  | normal
  | broke
  | continued

/-- Runs a step of a loop, catching the `break` or `continue` aimed at this loop and passing one
aimed further out on, a level nearer. -/
def loopStep (x : Run Unit) : Run LoopEnd := do
  try
    x
    return .normal
  catch e =>
    match e with
    | .breakLoop 0 | .breakLoop 1 => return .broke
    | .breakLoop (n + 1) => throw (.breakLoop n)
    | .continueLoop 0 | .continueLoop 1 => return .continued
    | .continueLoop (n + 1) => throw (.continueLoop n)
    | e => throw e

/-! ## Evaluation -/

mutual

/-- Runs a command; `tested` when its status is tested, which keeps `set -e` from ending the
shell when it fails. Trapped signals are acted on before and after. -/
def evalCmd : Nat → Bool → Cmd → Run Unit
  | 0, _, _ => throw .exhausted
  | fuel + 1, tested, c => do
    if (← Run.proc).opts.noexec then return
    runTraps fuel
    let exitOnFailure ← evalNode fuel tested c
    runTraps fuel
    let p ← Run.proc
    if exitOnFailure && p.opts.errexit && p.status != 0 then throw .exit

/-- Runs the node of a command: whether `set -e` ends the shell when it failed. -/
def evalNode : Nat → Bool → Cmd → Run Bool
  | 0, _, _ => throw .exhausted
  | fuel + 1, tested, c => do
    match c with
    | .empty => return false
    | .simple line assigns words redirs =>
      evalSimple fuel tested line assigns words redirs
      return !tested
    | .pipeline true [single] =>
      notLast (evalCmd fuel true single)
      Run.setStatus (if (← Run.proc).status == 0 then 1 else 0)
      return false
    | .pipeline false [single] =>
      evalCmd fuel tested single
      return false
    | .pipeline negate stages =>
      let st ← evalPipe fuel stages none 0
      if negate then
        Run.setStatus (if st == 0 then 1 else 0)
        return false
      Run.setStatus st
      return !tested
    | .andThen a b =>
      notLast (evalCmd fuel true a)
      if (← Run.proc).status == 0 then evalCmd fuel tested b
      return false
    | .orElse a b =>
      notLast (evalCmd fuel true a)
      if (← Run.proc).status != 0 then evalCmd fuel tested b
      return false
    | .seq a b =>
      notLast (evalCmd fuel tested a)
      evalCmd fuel tested b
      return false
    | .background body =>
      let parent ← Run.proc
      let (pid, sys) := (← Run.sys).newPid
      Run.modifySys fun _ => sys
      Run.modifyProc fun p =>
        { childOf p pid with hardIgnored := p.hardIgnored ++ [2, 3] }
      setFd 0 (some .null)
      let job ← Run.proc
      Run.modifyProc fun _ => parent.addJob pid
      modify fun s => { s with waiting := s.waiting ++
        [{ parent := parent.selfPid, proc := job, body, startedAt := s.clock }] }
      Run.setStatus 0
      return !tested
    | .subshell line body redirs =>
      setLine line
      let opened ← expandRedirs (substitute fuel) fuel redirs
      let st ← inChild fuel true (do
        for r in opened do
          openRedir (substitute fuel) fuel r
        evalCmd fuel tested body)
      Run.setStatus st
      return !tested
    | .redirected line body redirs =>
      setLine line
      let opened ← expandRedirs (substitute fuel) fuel redirs
      let (saved, failed) ← openRedirs (substitute fuel) fuel opened
      if failed != 0 then
        restoreFds saved
        Run.setStatus failed
        return true
      Run.protect (notLast (evalCmd fuel tested body)) (restoreFds saved)
      return false
    | .ifThen cond thenPart elsePart =>
      notLast (evalCmd fuel true cond)
      if (← Run.proc).status == 0 then evalCmd fuel tested thenPart
      else match elsePart with
        | some e => evalCmd fuel tested e
        | none => Run.setStatus 0
      return false
    | .loop negated cond body =>
      let depth := (← Run.proc).loopDepth
      Run.modifyProc fun p => { p with loopDepth := depth + 1 }
      let st ← Run.protect (notLast (evalLoop fuel tested negated cond body 0))
        (Run.modifyProc fun p => { p with loopDepth := depth })
      Run.setStatus st
      return false
    | .forEach line name items body =>
      setLine line
      let words ← match items with
        | some ws => do
          let mut out : List Bytes := []
          for w in ws do
            out := out ++ (← Expand.fields (substitute fuel) fuel w)
          pure out
        | none => pure (← Run.proc).params
      let depth := (← Run.proc).loopDepth
      Run.modifyProc fun p => { p with loopDepth := depth + 1 }
      let st ← Run.protect (notLast (evalFor fuel tested name words body 0))
        (Run.modifyProc fun p => { p with loopDepth := depth })
      Run.setStatus st
      return false
    | .caseOf line subject arms =>
      setLine line
      let s ← Expand.text (substitute fuel) fuel subject
      let st ← evalCase fuel tested s arms
      Run.setStatus st
      return false
    | .function _ name _ =>
      Run.modifyProc fun p => { p with funcs := p.funcs.filter (·.1 != name) ++ [(name, c)] }
      Run.setStatus 0
      return false

/-- Runs the stages of a pipeline one after another, each as a child reading what the one
before wrote: the status of the last. -/
def evalPipe : Nat → List Cmd → Option Nat → Nat → Run Nat
  | 0, _, _, _ => throw .exhausted
  | _ + 1, [], _, last => return last
  | fuel + 1, stage :: rest, input, _ => do
    let pipe ← if rest.isEmpty then pure none else do
      let (id, sys) := (← Run.sys).openPipe
      Run.modifySys fun _ => sys
      pure (some id)
    let st ← inChild fuel true (do
      match input with
      | some i => setFd 0 (some (.input i))
      | none => pure ()
      match pipe with
      | some id => setFd 1 (some (.pipe id))
      | none => pure ()
      evalCmd fuel false stage)
    match pipe with
    | some _ =>
      let (out, sys) := (← Run.sys).closePipe
      let (i, sys) := sys.openInput out
      Run.modifySys fun _ => sys
      evalPipe fuel rest (some i) st
    | none => return st

/-- Runs a `while` loop, or an `until` loop when `negated`, from its next test: the status of
the last body run. -/
def evalLoop : Nat → Bool → Bool → Cmd → Cmd → Nat → Run Nat
  | 0, _, _, _, _, _ => throw .exhausted
  | fuel + 1, tested, negated, cond, body, last => do
    match ← loopStep (evalCmd fuel true cond) with
    | .broke => return last
    | .continued => evalLoop fuel tested negated cond body last
    | .normal =>
      let st := (← Run.proc).status
      if (st == 0) == negated then return last
      match ← loopStep (evalCmd fuel tested body) with
      | .broke => return (← Run.proc).status
      | _ => evalLoop fuel tested negated cond body (← Run.proc).status

def evalFor : Nat → Bool → Bytes → List Bytes → Cmd → Nat → Run Nat
  | 0, _, _, _, _, _ => throw .exhausted
  | _ + 1, _, _, [], _, last => return last
  | fuel + 1, tested, name, w :: ws, body, _ => do
    Run.assign name w
    match ← loopStep (evalCmd fuel tested body) with
    | .broke => return (← Run.proc).status
    | _ => evalFor fuel tested name ws body (← Run.proc).status

/-- Runs the first arm of a `case` with a pattern that matches: its status, 0 when no arm
matches or the arm is empty. -/
def evalCase : Nat → Bool → Bytes → List (List Word × Cmd) → Run Nat
  | 0, _, _, _ => throw .exhausted
  | _ + 1, _, _, [] => return 0
  | fuel + 1, tested, s, (pats, body) :: rest => do
    for pw in pats do
      let pat ← Expand.pattern (substitute fuel) fuel pw
      if pat.matches s then
        match body with
        | .empty => return 0
        | _ =>
          evalCmd fuel tested body
          return (← Run.proc).status
    evalCase fuel tested s rest

/-- Runs a simple command. -/
def evalSimple :
    Nat → Bool → Nat → List (Bytes × Word) → List Word → List Redir → Run Unit
  | 0, _, _, _, _, _ => throw .exhausted
  | fuel + 1, tested, line, assigns, words, redirs => do
    setLine line
    Run.modifyProc fun p => { p with substStatus := 0 }
    let sub := substitute fuel
    let args ← expandArgs sub fuel words
    let opened ← expandRedirs sub fuel redirs
    let (saved, redirStatus) ← openRedirs sub fuel opened
    let keepFds := args == [utf8 "exec"]
    Run.protect (do
        let mut vals : List (Bytes × Bytes) := []
        for (n, w) in assigns do
          vals := vals ++ [(n, ← Expand.assignment sub fuel w)]
        match args with
        | [] =>
          for (n, v) in vals do
            Run.assign n v
          trace sub fuel saved vals []
          let substStatus := (← Run.proc).substStatus
          Run.setStatus (if redirStatus != 0 then redirStatus else substStatus)
        | _ =>
          let old ← assignTemporary vals
          trace sub fuel saved vals args
          let (target, argv) ← resolveCommand (args.length + 1) args true none
          let keep := match target with
            | .builtin _ true => true
            | .function _ => true
            | _ => false
          Run.protect (runTarget fuel tested target redirStatus argv)
            (if keep then keepVars old else restoreVars old))
      (if keepFds then pure () else restoreFds saved)

/-- Runs what a simple command found, unless its redirections failed. -/
def runTarget : Nat → Bool → Target → Nat → List Bytes → Run Unit
  | 0, _, _, _, _ => throw .exhausted
  | fuel + 1, tested, target, redirStatus, argv => do
    match target with
    | .missing => Run.setStatus 127
    | _ =>
      if redirStatus != 0 then
        Run.setStatus redirStatus
        match target with
        | .builtin _ true => throw .error
        | _ => return
      match target with
      | .function d => callFunction fuel tested d (argv.drop 1)
      | .builtin name special =>
        try runBuiltin fuel tested name (argv.drop 1)
        catch e =>
          match e with
          | .error => if special then throw .error
          | e => throw e
      | .program path =>
        let p ← Run.proc
        if p.endsAfter && p.traps.isEmpty then
          match ← runProgram fuel (argv.headD []) path (argv.drop 1) with
          | .code c => Run.setStatus c
          | .signal n => throw (.signal n)
        else
          let st ← inChild fuel true (do
            match ← runProgram fuel (argv.headD []) path (argv.drop 1) with
            | .code c => Run.setStatus c
            | .signal n => throw (.signal n))
          Run.setStatus st
      | .missing => Run.setStatus 127

/-- Calls a function: its own positional parameters and local variables, its lines counted from
its definition, and `return` ending it. -/
def callFunction : Nat → Bool → Cmd → List Bytes → Run Unit
  | 0, _, _, _ => throw .exhausted
  | fuel + 1, tested, defn, args => do
    match defn with
    | .function _ _ body =>
      let p ← Run.proc
      Run.modifyProc fun q =>
        { q with params := args, loopDepth := 0, locals := {} :: q.locals }
      Run.modifyProc fun q =>
        { q with optIndex := 1, optOffset := none }
      let r ← try
          Run.nested (notLast (evalCmd fuel tested body))
          pure none
        catch e => pure (some e)
      restoreLocals ((← Run.proc).locals.headD {})
      Run.modifyProc fun q =>
        { q with params := p.params, loopDepth := p.loopDepth }
      Run.modifyProc fun q =>
        { q with locals := q.locals.drop 1, optIndex := p.optIndex }
      Run.modifyProc fun q => { q with optOffset := p.optOffset }
      match r with
      | none | some .returnFn => pure ()
      | some e => throw e
    | _ => pure ()

/-- Runs a built-in command with its name on its complaints; its output is flushed at its end,
and a failure to write it is complained about. -/
def runBuiltin : Nat → Bool → Bytes → List Bytes → Run Unit
  | 0, _, _, _ => throw .exhausted
  | fuel + 1, tested, name, args => do
    let status ← Run.asCommand name (builtinBody fuel tested name args)
    if ← Run.flush then Run.setStatus status
    else
      Run.asCommand name (Run.complain (name ++ utf8 ": I/O error"))
      Run.setStatus (status ||| 1)

/-- The work of a built-in command: `eval`, `.` and `exec` run other commands, the others are
simple. -/
def builtinBody : Nat → Bool → Bytes → List Bytes → Run Nat
  | 0, _, _, _ => throw .exhausted
  | fuel + 1, tested, name, args => do
    if name == utf8 "eval" then
      if args.isEmpty then return 0
      evalString fuel tested ([32].intercalate args)
    else if name == utf8 "." then dotScript fuel args
    else if name == utf8 "exec" then
      execProgram fuel args
      return 0
    else
      if name == utf8 "wait" then runWaiting fuel
      simpleBuiltin name args

/-- `.`: runs the commands of a file, found in `PATH` when its name has no `/`, in this
process; `return` ends it. -/
def dotScript : Nat → List Bytes → Run Nat
  | 0, _ => throw .exhausted
  | fuel + 1, args => do
    let args ← Builtin.noOptions args
    match args with
    | [] => return 0
    | name :: _ =>
      let path ← if name.contains 47 then pure name else do
        let files := (← Run.sys).files
        let cwd := (← Run.proc).cwd
        let found := (← pathCandidates name).find? fun c =>
          match files.stat cwd (pathText c) with
          | .ok (.file _) => true
          | _ => false
        match found with
        | some c => pure c
        | none => Run.fail (name ++ utf8 ": not found")
      let text ← match (← Run.sys).files.read (← Run.proc).cwd (pathText path) with
        | .ok bs => pure bs
        | .error .isADirectory => pure []
        | .error _ => Run.fail (utf8 "cannot open " ++ path ++ utf8 ": No such file")
      Run.modifyProc fun p => { p with cmdName := some path }
      try Run.nested (notLast (runCommands fuel false false (Source.ofBytes text) 0))
      catch e =>
        match e with
        | .returnFn => return (← Run.proc).status
        | e => throw e

/-- `exec` with a command: the program replaces the shell, which ends with its status. A program
not found ends the shell with status 127, one that cannot be run with 126. -/
def execProgram : Nat → List Bytes → Run Unit
  | 0, _ => throw .exhausted
  | fuel + 1, args => do
    let args ← Builtin.noOptions args
    match args with
    | [] => pure ()
    | name :: rest =>
      let candidates ← if name.contains 47 then pure [name] else pathCandidates name
      let mut err : ExecError := .missing
      for c in candidates do
        match ← programAt c with
        | .ok tool =>
          match ← runTool fuel tool name rest with
          | .code st => throw (.replaced st)
          | .signal n => throw (.signal n)
        | .error e =>
          match e with
          | .missing => pure ()
          | .notDirectory => if name.contains 47 then err := e
          | e => err := e
      let (msg, st) := err.describe
      Run.complain (name ++ utf8 (": " ++ msg))
      Run.modifyProc fun p => { p with status := st, savedStatus := some st }
      throw .exit

/-- Runs a program by its path in this process: how it ended. A path that names no program is
complained about. -/
def runProgram : Nat → Bytes → Bytes → List Bytes → Run Exit
  | 0, _, _, _ => throw .exhausted
  | fuel + 1, argv0, path, args => do
    tryWaiting fuel
    match ← programAt path with
    | .ok tool => runTool fuel tool argv0 args
    | .error e =>
      let (msg, st) := e.describe
      Run.complain (path ++ utf8 (": " ++ msg))
      return .code st

/-- Runs a program of the host: its status. When its standard output cannot be written, it
complains of a write error and fails, at once or when it ends, as the program does. -/
def runTool : Nat → Tool → Bytes → List Bytes → Run Exit
  | 0, _, _, _ => throw .exhausted
  | fuel + 1, tool, argv0, args => do
    match tool with
    | .shell => runNestedShell fuel argv0 args
    | t =>
      let input ← toolInput t argv0 args
      let r := match t with
        | .succeed => runExitTool true input
        | .fail => runExitTool false input
        | .ls => runLs input
        | .cat => runCat input
        | .echo => runEcho input
        | .printf => runPrintfTool input
        | .sleep => runSleep input
        | .head => runHead input
        | .tr => runTr input
        | .cut => runCut input
        | _ => runTestTool input
      match ← Run.channel 0 with
      | some ch => Run.modifySys fun s => s.consume ch r.stdinRead
      | none => pure ()
      slept r.sleeps
      let mut failed : Option WriteError := none
      for (fd, bs) in r.writes do
        if fd != 1 then Run.put fd bs
        else if failed.isNone then
          failed ← Run.tryWrite 1 bs
          if failed.isSome && r.stopsAtWriteError then break
      match failed with
      | some e =>
        Run.put 2 (argv0 ++ utf8 (": write error: " ++ e.message ++ "\n"))
        return .code r.writeFailure
      | none => return .code r.status

/-- Runs the shell as the program of this process, called by the name `argv0`, with its number,
environment, working directory and descriptors: how it ended. -/
def runNestedShell : Nat → Bytes → List Bytes → Run Exit
  | 0, _, _ => throw .exhausted
  | fuel + 1, argv0, args => do
    let parent ← Run.proc
    let env ← Run.environment
    Run.modifyProc fun _ =>
      freshProc argv0 env parent.cwd parent.fds parent.selfPid parent.ancestors
        parent.umask (parent.hardIgnored ++ (parent.traps.filter (·.2.isEmpty)).map (·.1))
    Run.modifyProc fun p => { p with limits := parent.limits }
    let ex ← shellMain fuel args
    Run.modifyProc fun _ => parent
    takePending
    return ex

/-- The output of a command substitution: the command runs as a child writing into a pipe, and
its status is noted. -/
def substitute : Nat → Cmd → Run Bytes
  | 0, _ => throw .exhausted
  | fuel + 1, c => do
    match c with
    | .empty => return []
    | _ =>
      let (id, sys) := (← Run.sys).openPipe
      Run.modifySys fun _ => sys
      let st ← inChild fuel true (do
        setFd 1 (some (.pipe id))
        evalCmd fuel false c)
      let (out, sys) := (← Run.sys).closePipe
      Run.modifySys fun _ => sys
      Run.modifyProc fun p => { p with substStatus := st }
      return out

/-- Runs a step as a child process and waits for it: the child's status. The jobs this process
started in the background run first, as they end while it waits; those the child started run
when it ends. Signals the child sent to this process are received when it is done. -/
def inChild : Nat → Bool → Run Unit → Run Nat
  | 0, _, _ => throw .exhausted
  | fuel + 1, foreground, body => do
    if foreground then
      Run.modifyProc Proc.forkedJob
      tryWaiting fuel
    let parent ← Run.proc
    let (pid, sys) := (← Run.sys).newPid
    Run.modifySys fun _ => sys
    Run.modifyProc fun p => childOf p pid
    let ex ← endProcess fuel body
    Run.modifyProc fun _ => parent
    if foreground then reportDeath ex
    takePending
    childEnded
    if foreground then tryWaiting fuel
    return ex.status

/-- Runs the running process to its end: the step, then its exit trap, then the jobs it started
in the background that have not run yet. -/
def endProcess : Nat → Run Unit → Run Exit
  | 0, _ => throw .exhausted
  | fuel + 1, body => do
    let r ← try
        body
        pure none
      catch e => pure (some e)
    let ex ← finishProcess fuel r
    runWaiting fuel
    return ex

/-- Runs the jobs this process started in the background that have not run yet, in the order it
started them, each as the process it was started as; each job's end is noted. -/
def runWaiting : Nat → Run Unit
  | 0 => throw .exhausted
  | fuel + 1 => do
    let me := (← Run.proc).selfPid
    let mine := (← get).waiting.filter (·.parent == me)
    if mine.isEmpty then return
    modify fun s => { s with waiting := s.waiting.filter (·.parent != me) }
    for w in mine do
      let parent ← Run.proc
      Run.modifyProc fun _ => w.proc
      let ex ← endProcess fuel (evalCmd fuel false w.body)
      Run.modifyProc fun _ => parent
      takePending
      childEnded
      Run.modifyProc fun p => { p with jobs := p.jobs.map fun j =>
        if j.pid == w.proc.selfPid then { j with ended := some ex } else j }

/-- Tries the jobs this process started in the background, in the order it started them, each
from its start with the time that has passed since then: one that would sleep longer is put back
to wait as it was, and the others run to their end, each as the process it was started as. While
a job is tried, the jobs it starts wait for it to wait for them or end. -/
def tryWaiting : Nat → Run Unit
  | 0 => throw .exhausted
  | fuel + 1 => do
    if (← get).trialLeft.isSome then return
    let me := (← Run.proc).selfPid
    let mine := (← get).waiting.filter (·.parent == me)
    for w in mine do
      let before ← get
      modify fun s => { s with waiting := s.waiting.filter (·.proc.selfPid != w.proc.selfPid),
                               trialLeft := some (s.clock - w.startedAt) }
      let parent ← Run.proc
      Run.modifyProc fun _ => w.proc
      let r ← try
          let ex ← endProcess fuel (evalCmd fuel false w.body)
          pure (some ex)
        catch e =>
          match e with
          | .deferred => pure none
          | e => throw e
      match r with
      | none => set before
      | some ex =>
        modify fun s => { s with trialLeft := none }
        Run.modifyProc fun _ => parent
        takePending
        childEnded
        Run.modifyProc fun p => { p with jobs := p.jobs.map fun j =>
          if j.pid == w.proc.selfPid then { j with ended := some ex } else j }

/-- Ends a process that stopped as `stop` says: its exit trap runs unless a signal killed it or
a program replaced it. The status is that of `exit` or of the last command, unless the trap
calls `exit`. -/
def finishProcess : Nat → Option Stop → Run Exit
  | 0, _ => return .code 2
  | fuel + 1, stop => do
    match stop with
    | some .deferred => throw .deferred
    | some (.signal n) => return .signal n
    | some (.replaced st) => return .code (st % 256)
    | _ =>
      let p ← Run.proc
      let status := match stop with
        | some .exit => p.savedStatus.getD p.status
        | _ => p.status
      match p.traps.lookup 0 with
      | some action =>
        Run.modifyProc fun p => { p with traps := p.traps.filter (·.1 != 0) }
        Run.modifyProc fun p => { p with savedStatus := some status, status }
        let r ← try
            let _ ← evalString fuel false action
            pure none
          catch e => pure (some e)
        match r with
        | some .deferred => throw .deferred
        | some (.signal n) => return .signal n
        | some (.replaced st) => return .code (st % 256)
        | _ => return .code (((← Run.proc).savedStatus.getD status) % 256)
      | none => return .code (status % 256)

def runTraps : Nat → Run Unit
  | 0 => pure ()
  | fuel + 1 => do
    let p ← Run.proc
    if p.caught.isEmpty then return
    let status := p.status
    let saved := p.savedStatus
    Run.modifyProc fun p => { p with caught := [], savedStatus := some (saved.getD status) }
    for sig in p.caught do
      match (← Run.proc).traps.lookup sig with
      | some action =>
        let _ ← evalString fuel false action
        Run.setStatus status
      | none => pure ()
    Run.modifyProc fun p => { p with savedStatus := saved }

/-- Runs a string as a script, as `eval` and traps do, its lines counted from 1: the status of
its last command that is not empty, 0 when there is none. -/
def evalString : Nat → Bool → Bytes → Run Nat
  | 0, _, _ => throw .exhausted
  | fuel + 1, tested, text => notLast (runCommands fuel tested false (Source.ofBytes text) 0)

/-- Runs the commands of a script one after another, each read when the one before is done: the
status of the last command that is not empty. A syntax error is complained about and fails. With
`ends`, a command that the text ends right after is the last the process runs, so that a program
it runs takes the process's place. -/
def runCommands : Nat → Bool → Bool → Source → Nat → Run Nat
  | 0, _, _, _, _ => throw .exhausted
  | fuel + 1, tested, ends, src, last => do
    match src.next (← Run.proc).aliases with
    | .error e =>
      setLine e.line
      Run.fail (utf8 ("Syntax error: " ++ e.message))
    | .ok (.done, _) => return last
    | .ok (.run c, src') =>
      let atEnd := match src'.back with
        | some .eof => ends
        | _ => false
      Run.modifyProc fun p => { p with endsAfter := atEnd }
      evalCmd fuel tested c
      let last ← match c with
        | .empty => pure last
        | _ => pure (← Run.proc).status
      runCommands fuel tested ends src' last

/-- Runs the shell on its command line in a fresh process: its options, then the script given
with `-c` (the words after it being `$0` and the positional parameters), the script file named,
or the standard input (with `-s` or no words left, those words being the positional
parameters). How the process ended. -/
def shellMain : Nat → List Bytes → Run Exit
  | 0, _ => return .code 2
  | fuel + 1, args => do
    let r ← try
        let (minusC, rest) ← readShellOptions (args.length + 1) false args
        let text ← if minusC then
            match rest with
            | [] => Run.fail (utf8 "-c requires an argument")
            | script :: more =>
              match more with
              | zero :: params =>
                Run.modifyProc fun p => { p with arg0 := zero, cmdName := some zero, params }
              | [] => pure ()
              pure script
          else
            match (if (← Run.proc).opts.stdin then [] else rest) with
            | file :: params =>
              let text ← match (← Run.sys).files.read (← Run.proc).cwd (pathText file) with
                | .ok bs => pure bs
                | .error .isADirectory => pure []
                | .error _ => Run.fail (utf8 "cannot open " ++ file ++ utf8 ": No such file")
              Run.modifyProc fun p => { p with arg0 := file, cmdName := some file, params }
              pure text
            | [] =>
              Run.modifyProc fun p => { p with opts := { p.opts with stdin := true }, params := rest }
              match ← Run.channel 0 with
              | some ch =>
                match (← Run.sys).readAll ch with
                | .ok (bs, s) =>
                  Run.modifySys fun _ => s
                  pure bs
                | .error _ => pure []
              | none => pure []
        let ends := minusC && !(← Run.proc).opts.stdin
        Builtin.settleMonitor
        let _ ← runCommands fuel false ends (Source.ofBytes text) 0
        pure none
      catch e => pure (some e)
    let ex ← finishProcess fuel r
    runWaiting fuel
    return ex

end

def shellFuel : Nat := 100000000

/-- Runs a program of the host as a new process in a system, from a working directory with an
environment: how it ended, and the system it left. -/
def runHostProgram (sys : System) (cwd : List String) (env : List (Bytes × Bytes)) (tool : Tool)
    (argv0 : Bytes) (args : List Bytes) : Exit × System :=
  let proc := freshProc argv0 env cwd [(0, .null), (1, .stdout), (2, .stderr)] 4242 [] 18 []
  let step : Run Exit := match tool with
    | .shell => shellMain shellFuel args
    | t => do
      match ← runTool shellFuel t argv0 args with
      | .code st => return .code (st % 256)
      | ex => return ex
  match (step.run).run { sys, proc } with
  | (.ok ex, s) => (ex, s.sys)
  | (.error (.signal n), s) => (.signal n, s.sys)
  | (.error _, s) => (.code 2, s.sys)

end BoardSetup.Shell

import BoardSetup.FileTree
import BoardSetup.Command.Basic
import BoardSetup.Shell.Syntax
import BoardSetup.Text.Utf8
import BoardSetup.Shell.Number

/-!
# The state of a shell

A shell runs in a system that all its processes share: the file system, what was written on the
standard output and standard error the shell started with, the contents of open pipes, the bytes
left in each input being read, and the next process number. A process of its own has variables,
functions, positional parameters, options, traps, open descriptors, a working directory and the
status of its last command; a subshell or a child starts with a copy and its changes are lost
when it ends.

A descriptor leads to a channel: one of the two outputs, a file, a pipe (collected for the command
that reads it), an input, or `/dev/null`. A file is open through a description that the processes
share, as they do after a fork: reads and writes go where it stands and move it on, but a file
opened to append is written at its end, and one written past its end is filled with zero bytes up
to there. Writing to a descriptor that is closed, or open only to read, fails, as does reading one
open only to write.

Complaints go to descriptor 2 as the shell writes them: its name, the line, the command that
complains when there is one, and the message. An error ends the command and sets status 2;
`Stop` says why evaluation leaves the normal path.
-/

namespace BoardSetup.Shell

/-- Bytes, the shell's text. -/
abbrev Bytes := List UInt8

def utf8 (s : String) : Bytes := Text.encodeKeeping s

/-- How a process ended: with an exit status, or by a signal. -/
inductive Exit where
  | code (n : Nat)
  | signal (n : Nat)
  deriving DecidableEq, Repr

def Exit.status : Exit → Nat
  | .code n => n
  | .signal n => 128 + n

/-- Where a descriptor leads. -/
inductive Channel where
  /-- The standard output the shell started with. -/
  | stdout
  /-- The standard error the shell started with. -/
  | stderr
  /-- A file, through the open description of that number. -/
  | file (loc : List String) (desc : Nat)
  /-- A pipe, its bytes collected for the reader. -/
  | pipe (id : Nat)
  /-- An input being read. -/
  | input (id : Nat)
  /-- A directory opened for reading, which cannot be read as a file. -/
  | directory
  /-- `/dev/null`: writes vanish, reads find nothing. -/
  | null
  /-- `/dev/full`: writes fail for want of space, reads find nothing. -/
  | full
  deriving DecidableEq, Repr

/-- Why a descriptor cannot be read. -/
inductive ReadError where
  /-- It is not open for reading. -/
  | badDescriptor
  /-- It is a directory. -/
  | isDirectory
  deriving DecidableEq, Repr

def ReadError.message : ReadError → String
  | .badDescriptor => "Bad file descriptor"
  | .isDirectory => "Is a directory"

/-- Why a descriptor cannot be written. -/
inductive WriteError where
  /-- It is not open for writing. -/
  | badDescriptor
  /-- The device has no room left. -/
  | noSpace
  deriving DecidableEq, Repr

def WriteError.message : WriteError → String
  | .badDescriptor => "Bad file descriptor"
  | .noSpace => "No space left on device"

/-- An open file description: where the next read or write goes, whether every write goes to the
end of the file instead, and whether it may be read and written. -/
structure FileDesc where
  offset : Nat := 0
  append : Bool := false
  readable : Bool := false
  writable : Bool := true
  deriving DecidableEq, Repr

def overwrite (old : List UInt8) (pos : Nat) (bs : List UInt8) : List UInt8 :=
  old.take pos ++ List.replicate (pos - old.length) 0 ++ bs ++ old.drop (pos + bs.length)

example : overwrite [97, 98, 99] 1 [120] = [97, 120, 99] := by decide
example : overwrite [97] 2 [120] = [97, 0, 120] := by decide

/-- What every process of the shell shares. -/
structure System where
  files : FileTree
  stdout : Bytes := []
  stderr : Bytes := []
  /-- The bytes written into each open pipe, by number. -/
  pipes : List Bytes := []
  /-- The bytes not yet read of each input, by number. -/
  inputs : List Bytes := []
  /-- The open file descriptions, by number. -/
  descs : List FileDesc := []
  nextPid : Nat := 4243
  /-- Signals sent to processes that wait for a child, by process number. -/
  pending : List (Nat × Nat) := []
  /-- The programs installed, by location. -/
  programs : List (List String × Tool) := []

namespace System

def write (s : System) (ch : Channel) (bs : Bytes) : Except WriteError System :=
  match ch with
  | .stdout => .ok { s with stdout := s.stdout ++ bs }
  | .stderr => .ok { s with stderr := s.stderr ++ bs }
  | .null => .ok s
  | .full => if bs.isEmpty then .ok s else .error .noSpace
  | .pipe i => .ok { s with pipes := s.pipes.modify i (· ++ bs) }
  | .input _ | .directory => .error .badDescriptor
  | .file loc d =>
    let desc := s.descs.getD d {}
    if !desc.writable then .error .badDescriptor
    else match s.files.find? loc with
      | some (.file old) =>
        let pos := if desc.append then old.length else desc.offset
        .ok { s with files := s.files.put loc (.file (overwrite old pos bs)),
                     descs := s.descs.set d { desc with offset := pos + bs.length } }
      | _ => .ok s

def fileBytes (s : System) (loc : List String) : Bytes :=
  match s.files.find? loc with
  | some (.file bs) => bs
  | _ => []

def openFile (s : System) (d : FileDesc) : Nat × System :=
  (s.descs.length, { s with descs := s.descs ++ [d] })

def openInput (s : System) (bs : Bytes) : Nat × System :=
  (s.inputs.length, { s with inputs := s.inputs ++ [bs] })

def openPipe (s : System) : Nat × System :=
  (s.pipes.length, { s with pipes := s.pipes ++ [[]] })

def closePipe (s : System) : Bytes × System :=
  (s.pipes.getLastD [], { s with pipes := s.pipes.dropLast })

def unread (s : System) : Channel → Except ReadError Bytes
  | .null | .full => .ok []
  | .input i => .ok (s.inputs.getD i [])
  | .file loc d =>
    let desc := s.descs.getD d {}
    if desc.readable then .ok ((s.fileBytes loc).drop desc.offset) else .error .badDescriptor
  | .directory => .error .isDirectory
  | _ => .error .badDescriptor

def consume (s : System) (ch : Channel) (n : Nat) : System :=
  match ch with
  | .input i => { s with inputs := s.inputs.modify i (·.drop n) }
  | .file _ d => { s with descs := s.descs.modify d fun desc => { desc with offset := desc.offset + n } }
  | _ => s

def readAll (s : System) (ch : Channel) : Except ReadError (Bytes × System) := do
  let left ← s.unread ch
  return (left, s.consume ch left.length)

def readByte (s : System) (ch : Channel) : Except ReadError (Option UInt8 × System) := do
  match ← s.unread ch with
  | [] => return (none, s)
  | b :: _ => return (some b, s.consume ch 1)

def newPid (s : System) : Nat × System :=
  (s.nextPid, { s with nextPid := s.nextPid + 1 })

end System

/-- A variable: its value (none when declared but unset), and whether it is exported and read
only. -/
structure Var where
  value : Option Bytes
  exported : Bool := false
  readOnly : Bool := false
  deriving DecidableEq, Repr

/-- The shell's options. -/
structure Options where
  errexit : Bool := false
  noglob : Bool := false
  ignoreeof : Bool := false
  interactive : Bool := false
  monitor : Bool := false
  noexec : Bool := false
  stdin : Bool := false
  xtrace : Bool := false
  verbose : Bool := false
  vi : Bool := false
  emacs : Bool := false
  noclobber : Bool := false
  allexport : Bool := false
  notify : Bool := false
  nounset : Bool := false
  privileged : Bool := false
  nolog : Bool := false
  debug : Bool := false
  deriving DecidableEq, Repr

/-- The options by name and letter, in the order the shell lists them; `nolog` and `debug`
have no letter. -/
def optionTable : List (String × Option Char) :=
  [("errexit", some 'e'), ("noglob", some 'f'), ("ignoreeof", some 'I'),
   ("interactive", some 'i'), ("monitor", some 'm'), ("noexec", some 'n'), ("stdin", some 's'),
   ("xtrace", some 'x'), ("verbose", some 'v'), ("vi", some 'V'), ("emacs", some 'E'),
   ("noclobber", some 'C'), ("allexport", some 'a'), ("notify", some 'b'),
   ("nounset", some 'u'), ("privileged", some 'p'), ("nolog", none), ("debug", none)]

namespace Options

def get (o : Options) (name : String) : Bool :=
  match name with
  | "errexit" => o.errexit
  | "noglob" => o.noglob
  | "ignoreeof" => o.ignoreeof
  | "interactive" => o.interactive
  | "monitor" => o.monitor
  | "noexec" => o.noexec
  | "stdin" => o.stdin
  | "xtrace" => o.xtrace
  | "verbose" => o.verbose
  | "vi" => o.vi
  | "emacs" => o.emacs
  | "noclobber" => o.noclobber
  | "allexport" => o.allexport
  | "notify" => o.notify
  | "nounset" => o.nounset
  | "privileged" => o.privileged
  | "nolog" => o.nolog
  | "debug" => o.debug
  | _ => false

def set (o : Options) (name : String) (v : Bool) : Options :=
  match name with
  | "errexit" => { o with errexit := v }
  | "noglob" => { o with noglob := v }
  | "ignoreeof" => { o with ignoreeof := v }
  | "interactive" => { o with interactive := v }
  | "monitor" => { o with monitor := v }
  | "noexec" => { o with noexec := v }
  | "stdin" => { o with stdin := v }
  | "xtrace" => { o with xtrace := v }
  | "verbose" => { o with verbose := v }
  | "vi" => { o with vi := v, emacs := if v then false else o.emacs }
  | "emacs" => { o with emacs := v, vi := if v then false else o.vi }
  | "noclobber" => { o with noclobber := v }
  | "allexport" => { o with allexport := v }
  | "notify" => { o with notify := v }
  | "nounset" => { o with nounset := v }
  | "privileged" => { o with privileged := v }
  | "nolog" => { o with nolog := v }
  | "debug" => { o with debug := v }
  | _ => o

def nameOfLetter (c : Char) : Option String :=
  (optionTable.find? (·.2 == some c)).map (·.1)

/-- The letters of the options that are on, as `$-` shows them: from the end of the table to its
start. -/
def letters (o : Options) : List Char :=
  optionTable.reverse.filterMap fun (n, c) => if o.get n then c else none

end Options

/-- A job started in the background: its number, its process number, how it ended once it has,
and whether `wait` has reported it. A job that ended and was reported gives up its number to the
next job that needs one. -/
structure Job where
  number : Nat
  pid : Nat
  ended : Option Exit := none
  waited : Bool := false
  deriving DecidableEq, Repr

/-- A limit on a resource of a process, as `ulimit` knows it: the letter that picks it, the name
`ulimit -a` shows, the unit its values are counted in (in bytes or plain), and its soft and hard
values in that unit's base, none being no limit. -/
structure Limit where
  letter : UInt8
  name : String
  unit : Nat
  soft : Option Nat
  hard : Option Nat
  deriving DecidableEq, Repr

def startLimits : List Limit :=
  [⟨116, "time(seconds)", 1, none, none⟩, ⟨102, "file(blocks)", 512, none, none⟩,
   ⟨100, "data(kbytes)", 1024, none, none⟩, ⟨115, "stack(kbytes)", 1024, some 8388608, none⟩,
   ⟨99, "coredump(blocks)", 512, none, none⟩, ⟨109, "memory(kbytes)", 1024, none, none⟩,
   ⟨108, "locked memory(kbytes)", 1024, some 8388608, some 8388608⟩,
   ⟨112, "process", 1, none, none⟩, ⟨110, "nofiles", 1, some 1048576, some 1048576⟩,
   ⟨118, "vmemory(kbytes)", 1024, none, none⟩, ⟨119, "locks", 1, none, none⟩,
   ⟨114, "rtprio", 1, some 0, some 0⟩]

/-- What a running function saved with `local`, put back when it returns: variables with their
values before, and the options, when `local -` saved them. -/
structure Frame where
  vars : List (Bytes × Option Var) := []
  opts : Option Options := none

/-- A process of the shell. -/
structure Proc where
  vars : List (Bytes × Var) := []
  funcs : List (Bytes × Cmd) := []
  arg0 : Bytes := utf8 "sh"
  params : List Bytes := []
  status : Nat := 0
  /-- The process number of the shell, `$$`, which its subshells share. -/
  pid : Nat := 4242
  /-- The number of this very process. -/
  selfPid : Nat := 4242
  /-- The processes waiting for this one, the nearest first. -/
  ancestors : List Nat := []
  /-- The number of the last command run in the background. -/
  lastJob : Option Nat := none
  jobs : List Job := []
  opts : Options := {}
  /-- The action of each trapped signal, 0 standing for the shell's exit. -/
  traps : List (Nat × Bytes) := []
  /-- The signals that were ignored when the shell started, which it can neither trap nor stop
  ignoring. -/
  hardIgnored : List Nat := []
  /-- Whether the process ends with the command being run, so that a program it runs takes the
  process's place instead of running as a child. -/
  endsAfter : Bool := false
  fds : List (Nat × Channel) := [(0, .null), (1, .stdout), (2, .stderr)]
  cwd : List String := []
  /-- Whether the working directory was last reached by a path that begins with exactly two
  slashes, which the shell keeps in the name it gives the directory. -/
  doubleRoot : Bool := false
  /-- The line of the command being run, for complaints. -/
  line : Nat := 1

  /-- The built-in command running, whose name complaints carry. -/
  cmdName : Option Bytes := none
  loopDepth : Nat := 0
  /-- How many functions and scripts read by `.` are running inside one another. -/
  nesting : Nat := 0
  /-- The variables each running function saved with `local`, innermost first. -/
  locals : List Frame := []
  /-- The paths found for commands run so far, in the order the shell lists them. -/
  hashed : List (Bytes × Bytes) := []
  /-- The status of the last command substitution of the command being expanded. -/
  substStatus : Nat := 0
  umask : Nat := 18
  /-- The status `exit` asked for, kept while the exit trap runs. -/
  savedStatus : Option Nat := none
  /-- What a built-in command wrote on its standard output and has not yet flushed. -/
  pendingOut : Bytes := []
  /-- Signals received and trapped, not yet acted on: each once however often it came, in
  increasing order, the order their actions run in. -/
  caught : List Nat := []
  /-- The aliases defined. -/
  aliases : List (Bytes × Bytes) := []
  /-- The limits on its resources. -/
  limits : List Limit := startLimits
  /-- Where `getopts` stands: the index of the next argument and the offset in it. -/
  optIndex : Nat := 1
  optOffset : Option Nat := none

/-- The lowest job number a new job can take: one that no job holds, or that a job holds which
ended and was reported; and the jobs with that one given up. -/
def Proc.freeJobNumber (p : Proc) : Nat × List Job :=
  let held := fun (n : Nat) => p.jobs.find? (·.number == n)
  let usable := fun (n : Nat) => match held n with
    | some j => j.ended.isSome && j.waited
    | none => true
  let n := (((List.range (p.jobs.length + 1)).find? fun i => usable (i + 1)).map (· + 1)).getD 1
  (n, p.jobs.filter (·.number != n))

/-- The process with a new job started in the background as process `pid`, which becomes the
current job. -/
def Proc.addJob (p : Proc) (pid : Nat) : Proc :=
  let (n, jobs) := p.freeJobNumber
  { p with jobs := jobs ++ [{ number := n, pid }], lastJob := some pid }

/-- The process as it is after it started a child and waited for it: the child took a job number
for the while, so a job that ended and was reported may have given its number up. -/
def Proc.forkedJob (p : Proc) : Proc :=
  { p with jobs := p.freeJobNumber.2 }

/-- A job started in the background that has not run yet: the process that started it, the
process the job runs as, with its command, and the time it started. It runs when the process that
started it next starts or ends a child, unless it would sleep longer than the time since it
started; it runs in any case when that process waits for it or ends. Until then it counts as
running. -/
structure WaitingJob where
  parent : Nat
  proc : Proc
  body : Cmd
  startedAt : Nat := 0

/-- The state of a shell: the system, the running process, the jobs started in the background that
have not run yet, the time the processes not in the background have slept, in nanoseconds, and,
while a background job is being tried, how much longer it may sleep. -/
structure State where
  sys : System
  proc : Proc
  waiting : List WaitingJob := []
  clock : Nat := 0
  trialLeft : Option Nat := none

/-- Why evaluation leaves the normal path. -/
inductive Stop where
  /-- An error, already reported, with status 2. -/
  | error
  /-- The shell exits with the status of the process. -/
  | exit
  /-- `break` out of this many more loops. -/
  | breakLoop (n : Nat)
  /-- `continue` the loop this many levels out. -/
  | continueLoop (n : Nat)
  /-- `return` from a function. -/
  | returnFn
  /-- The shell was killed by a signal. -/
  | signal (n : Nat)
  /-- The process became a program, which ended with this status. -/
  | replaced (status : Nat)
  /-- The evaluation ran out of steps. -/
  | exhausted
  /-- A background job being tried would sleep longer than the time since it started, so it is
  put back to wait, as if not tried. -/
  | deferred
  deriving DecidableEq, Repr

/-- A step of running a shell. -/
abbrev Run := ExceptT Stop (StateM State)

namespace Run

def proc : Run Proc := do
  return (← get).proc

def modifyProc (f : Proc → Proc) : Run Unit :=
  modify fun s => { s with proc := f s.proc }

def sys : Run System := do
  return (← get).sys

def modifySys (f : System → System) : Run Unit :=
  modify fun s => { s with sys := f s.sys }

def setStatus (n : Nat) : Run Unit :=
  modifyProc fun p => { p with status := n }

def channel (fd : Nat) : Run (Option Channel) := do
  return (← proc).fds.lookup fd

def tryWrite (fd : Nat) (bs : Bytes) : Run (Option WriteError) := do
  match ← channel fd with
  | none => return some .badDescriptor
  | some ch =>
    match (← sys).write ch bs with
    | .ok s =>
      modifySys fun _ => s
      return none
    | .error e => return some e

def write (fd : Nat) (bs : Bytes) : Run Bool := do
  return (← tryWrite fd bs).isNone

def put (fd : Nat) (bs : Bytes) : Run Unit := do
  let _ ← write fd bs

def numberText (n : Nat) : Bytes := utf8 (toString n)

def lead : Run Bytes := do
  let p ← proc
  let cmd := match p.cmdName with
    | some c => c ++ utf8 ": "
    | none => []
  return p.arg0 ++ utf8 ": " ++ numberText p.line ++ utf8 ": " ++ cmd

def complain (msg : Bytes) : Run Unit := do
  put 2 ((← lead) ++ msg ++ [10])

def flush : Run Bool := do
  let p ← proc
  if p.pendingOut.isEmpty then return true
  modifyProc fun p => { p with pendingOut := [] }
  write 1 p.pendingOut

def out (bs : Bytes) : Run Unit :=
  modifyProc fun p => { p with pendingOut := p.pendingOut ++ bs }

/-- Reports an error: the complaint, the output so far flushed, status 2, and the command is
over. -/
def fail {α : Type} (msg : Bytes) : Run α := do
  complain msg
  let _ ← flush
  setStatus 2
  throw .error

def asCommand {α : Type} (name : Bytes) (x : Run α) : Run α := do
  let saved := (← proc).cmdName
  modifyProc fun p => { p with cmdName := some name }
  try
    let v ← x
    modifyProc fun p => { p with cmdName := saved }
    return v
  catch e =>
    modifyProc fun p => { p with cmdName := saved }
    throw e

/-! ## Variables -/

def var? (name : Bytes) : Run (Option Var) := do
  return (← proc).vars.lookup name

def value? (name : Bytes) : Run (Option Bytes) := do
  return (← var? name).bind (·.value)

def putVar (name : Bytes) (v : Var) : Run Unit :=
  modifyProc fun p =>
    if p.vars.any (·.1 == name) then
      { p with vars := p.vars.map fun e => if e.1 == name then (name, v) else e }
    else { p with vars := p.vars ++ [(name, v)] }

/-- Assigns a variable; a read-only one is an error. Assigning `OPTIND` starts `getopts` over
from the argument it names (0 meaning 1). -/
def assign (name value : Bytes) : Run Unit := do
  match ← var? name with
  | some v =>
    if v.readOnly then fail (name ++ utf8 ": is read only")
    putVar name { v with value := some value,
                         exported := v.exported || (← proc).opts.allexport }
  | none => putVar name { value := some value, exported := (← proc).opts.allexport }
  if name == utf8 "OPTIND" then
    match commandNumber value with
    | some n => modifyProc fun p => { p with optIndex := if n == 0 then 1 else n, optOffset := none }
    | none => fail (utf8 "Illegal number: " ++ value)

def unset (name : Bytes) : Run Unit := do
  match ← var? name with
  | some v =>
    if v.readOnly then fail (name ++ utf8 ": is read only")
    modifyProc fun p => { p with vars := p.vars.filter (·.1 != name) }
  | none => return

def environment : Run (List (Bytes × Bytes)) := do
  return (← proc).vars.filterMap fun (n, v) =>
    if v.exported then v.value.map fun val => (n, val) else none

def ifs : Run Bytes := do
  return (← value? (utf8 "IFS")).getD [32, 9, 10]

end Run

end BoardSetup.Shell

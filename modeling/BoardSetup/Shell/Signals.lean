import BoardSetup.Numbers

/-!
# Signals

The signals a shell can send and trap, numbered as on Linux from 1 to 64, with 0 standing for
the shell's own exit in `trap`. A signal is named without the `SIG` prefix, and a name matches
whatever its case; signals that have no name of their own (16, 32 and 33) are named by their
number. `RTMIN` is 34 and `RTMAX` 64; the real-time signals between them are counted from the
nearer end.

What a signal does to a process that does not trap it: most end it; `CHLD`, `CONT`, `URG` and
`WINCH` are ignored; `STOP`, `TSTP`, `TTIN` and `TTOU` would only stop it, which a shell run to
its end never notices, so they are taken as ignored too.
-/

namespace BoardSetup.Shell

def signalCount : Nat := 65

def baseSignalNames : List String :=
  ["HUP", "INT", "QUIT", "ILL", "TRAP", "ABRT", "BUS", "FPE", "KILL", "USR1", "SEGV", "USR2",
   "PIPE", "ALRM", "TERM", "16", "CHLD", "CONT", "STOP", "TSTP", "TTIN", "TTOU", "URG", "XCPU",
   "XFSZ", "VTALRM", "PROF", "WINCH", "IO", "PWR", "SYS"]

def signalName (n : Nat) : String :=
  if n == 0 then "EXIT"
  else if n ≤ 31 then baseSignalNames.getD (n - 1) ""
  else if n ≤ 33 then toString n
  else if n == 34 then "RTMIN"
  else if n ≤ 49 then "RTMIN+" ++ toString (n - 34)
  else if n < 64 then "RTMAX-" ++ toString (64 - n)
  else "RTMAX"

def baseSignalDescriptions : List String :=
  ["Hangup", "Interrupt", "Quit", "Illegal instruction", "Trace/breakpoint trap", "Aborted",
   "Bus error", "Floating point exception", "Killed", "User defined signal 1",
   "Segmentation fault", "User defined signal 2", "Broken pipe", "Alarm clock", "Terminated",
   "Stack fault", "Child exited", "Continued", "Stopped (signal)", "Stopped",
   "Stopped (tty input)", "Stopped (tty output)", "Urgent I/O condition",
   "CPU time limit exceeded", "File size limit exceeded", "Virtual timer expired",
   "Profiling timer expired", "Window changed", "I/O possible", "Power failure",
   "Bad system call"]

def signalDescription (n : Nat) : String :=
  if 1 ≤ n && n ≤ 31 then baseSignalDescriptions.getD (n - 1) ""
  else if n == 32 || n == 33 then "Unknown signal " ++ toString n
  else "Real-time signal " ++ toString (n - 34)

def lowerBytes (bs : List UInt8) : List UInt8 :=
  bs.map fun b => if 65 ≤ b && b ≤ 90 then b + 32 else b

/-- A signal given by number: digits only, read as a C int is read, below the number of
signals. The number saturates at the largest 64-bit value and then keeps its low 32 bits, so
`4294967297` is signal 1 and a number past the 64-bit range is none. -/
def signalNumber? (s : List UInt8) : Option Nat :=
  if s.isEmpty || !s.all (fun b => 48 ≤ b && b ≤ 57) then none
  else
    let n := s.foldl (fun acc b => acc * 10 + (b.toNat - 48)) 0
    let n := if n < 2 ^ 63 then n % 2 ^ 32 else 2 ^ 32 - 1
    if n < signalCount then some n else none

example : signalNumber? [52, 50, 57, 52, 57, 54, 55, 50, 57, 55] = some 1 := by decide

/-- The signal a number or name stands for, names counted from `least`. -/
def decodeSignal (s : List UInt8) (least : Nat) : Option Nat :=
  match signalNumber? s with
  | some n => some n
  | none =>
    let want := lowerBytes s
    ((List.range signalCount).filter (least ≤ ·)).find? fun n =>
      lowerBytes (signalName n).toUTF8.toList == want

/-- What a signal does to a process that does not trap it. -/
inductive SignalEffect where
  /-- The process ends, killed by the signal. -/
  | terminate
  /-- Nothing the script can see. -/
  | none
  deriving DecidableEq, Repr

def signalEffect (n : Nat) : SignalEffect :=
  if n == 0 || n == 17 || n == 18 || n == 23 || n == 28 || (19 ≤ n && n ≤ 22) then .none
  else .terminate

end BoardSetup.Shell

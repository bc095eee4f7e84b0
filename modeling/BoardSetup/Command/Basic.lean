/-!
# Commands

A command is a program, its arguments and, optionally, the directory it runs in. Arguments
reach the program as they are, never through a shell. A command is shown as the program followed
by each argument after one space.
-/

namespace BoardSetup

/-- One program to start. -/
structure Command where
  program : String
  args : List String := []
  cwd : Option String := none
  deriving DecidableEq, Repr

def Command.display (c : Command) : String :=
  c.program ++ String.join (c.args.map (" " ++ ·))

/-- How a command was asked for: run with its output shown, run for its output, or run only to
see whether it succeeds. -/
inductive CallKind where
  | run
  | output
  | probe
  deriving DecidableEq, Repr

/-- One command as a runner was asked for it. -/
structure Call where
  kind : CallKind
  cmd : String
  cwd : Option String
  deriving DecidableEq, Repr

/-- A program installed on the host: the POSIX shell, programs that only succeed or only fail,
and the GNU tools `ls`, `cat`, `echo`, `printf`, `test` (also called as `[`), `sleep`, `head`,
`tr` and `cut`. -/
inductive Tool where
  | shell
  | succeed
  | fail
  | ls
  | cat
  | echo
  | printf
  | test
  | sleep
  | head
  | tr
  | cut
  deriving DecidableEq, Repr

end BoardSetup

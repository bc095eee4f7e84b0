/-!
# The shell language

The abstract syntax of POSIX shell scripts. Text is kept as bytes, as the shell keeps it: a
parameter's length and a pattern's `?` count bytes.

A word is a list of parts: text outside quotes, which patterns and field splitting may act on;
quoted text, which stands for itself; parameter expansions with their operator and operand word;
command substitutions, which hold a parsed command; and arithmetic expansions. Each expansion
records whether it stands inside double quotes, where its result is one field and no pattern.

Commands are simple commands (assignments, words, redirections, and the line they start on),
pipelines, the lists `&&`, `||`, `;` and `&`, subshells, groups with redirections, `if`, the
loops `while`, `until` and `for`, `case`, and function definitions.
-/

namespace BoardSetup.Shell

/-- The operator of a parameter expansion. A `colon` operator treats a parameter that is set to
the empty string as unset. -/
inductive ParamOp where
  /-- `$x` or `${x}`: the value. -/
  | value
  /-- `${#x}`: the length of the value in bytes. -/
  | length
  /-- `${x-w}`: the word when the parameter is unset. -/
  | orDefault (colon : Bool)
  /-- `${x=w}`: the word, also assigned, when the parameter is unset. -/
  | orAssign (colon : Bool)
  /-- `${x?w}`: an error with the word when the parameter is unset. -/
  | orError (colon : Bool)
  /-- `${x+w}`: the word when the parameter is set. -/
  | ifSet (colon : Bool)
  /-- `${x#w}` and `${x##w}`: the value without its shortest or longest prefix matching the
  pattern. -/
  | dropPrefix (longest : Bool)
  /-- `${x%w}` and `${x%%w}`: the value without its shortest or longest suffix matching the
  pattern. -/
  | dropSuffix (longest : Bool)
  /-- A braced form the shell does not know, which fails when it is expanded. -/
  | bad
  deriving DecidableEq, Repr

def ParamOp.isPattern : ParamOp → Bool
  | .dropPrefix _ | .dropSuffix _ => true
  | _ => false

/-- The kind of a redirection. -/
inductive RedirOp where
  /-- `<`: read a file. -/
  | input
  /-- `>`: write a file, created or emptied. -/
  | output
  /-- `>|`: as `>`. -/
  | clobber
  /-- `>>`: append to a file. -/
  | append
  /-- `<>`: open a file to read and write, creating it. -/
  | readWrite
  /-- `<&`: copy a descriptor to read from. -/
  | copyInput
  /-- `>&`: copy a descriptor to write to. -/
  | copyOutput
  /-- `<<` and `<<-`: a here-document, numbered in the order the script announces them; its
  body is the target word. -/
  | here (id : Nat) (stripTabs : Bool)
  deriving DecidableEq, Repr

mutual

/-- A piece of a word. -/
inductive Part where
  /-- Text outside quotes. -/
  | text (bytes : List UInt8)
  /-- Text inside quotes or after a backslash. -/
  | quoted (bytes : List UInt8)
  /-- A parameter expansion: the parameter's name, the operator and its word. -/
  | param (name : List UInt8) (op : ParamOp) (word : List Part) (inQuotes : Bool)
  /-- A command substitution. -/
  | command (body : Cmd) (inQuotes : Bool)
  /-- An arithmetic expansion of the expression the word expands to. -/
  | arith (expr : List Part) (inQuotes : Bool)

/-- A redirection of a descriptor. -/
inductive Redir where
  | mk (fd : Nat) (op : RedirOp) (target : List Part)

/-- A command. -/
inductive Cmd where
  /-- A simple command on a line: assignments, words and redirections. -/
  | simple (line : Nat) (assigns : List (List UInt8 × List Part)) (words : List (List Part))
      (redirs : List Redir)
  /-- Commands joined by pipes, the status negated after `!`. -/
  | pipeline (negate : Bool) (stages : List Cmd)
  /-- `a && b`. -/
  | andThen (first second : Cmd)
  /-- `a || b`. -/
  | orElse (first second : Cmd)
  /-- `a ; b`. -/
  | seq (first second : Cmd)
  /-- `a &`. -/
  | background (body : Cmd)
  /-- `( list )` with redirections. -/
  | subshell (line : Nat) (body : Cmd) (redirs : List Redir)
  /-- A compound command with redirections. -/
  | redirected (line : Nat) (body : Cmd) (redirs : List Redir)
  /-- `if`, with the `else` part, if any (an `elif` is an `if` there). -/
  | ifThen (cond thenPart : Cmd) (elsePart : Option Cmd)
  /-- `while` (or `until` when `negated`) with its condition and body. -/
  | loop (negated : Bool) (cond body : Cmd)
  /-- `for`, with its words, or the positional parameters when there are none. -/
  | forEach (line : Nat) (name : List UInt8) (items : Option (List (List Part))) (body : Cmd)
  /-- `case`, with the patterns and body of each arm. -/
  | caseOf (line : Nat) (subject : List Part) (arms : List (List (List Part) × Cmd))
  /-- A function definition. -/
  | function (line : Nat) (name : List UInt8) (body : Cmd)
  /-- Nothing to do: an empty list. -/
  | empty

end

/-- A word: the parts it is made of. -/
abbrev Word := List Part

def Word.ofBytes (bs : List UInt8) : Word := [.text bs]

end BoardSetup.Shell

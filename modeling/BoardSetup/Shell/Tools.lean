import BoardSetup.FileTree
import BoardSetup.Shell.State
import BoardSetup.Shell.Test
import BoardSetup.Shell.Glob
import BoardSetup.Text.Quoted
import BoardSetup.Numbers

/-!
# Programs of the host

The programs a script can start besides the shell itself behave as the GNU tools do on a Linux
host, working on the file tree. Each gets its name as it was called, its arguments, the file
tree, its working directory and its standard input (or why it cannot be read), and gives back
what it wrote on its standard output and standard error, in order, and its exit status. The
programs themselves are in the modules below this one; here is what they share.

A GNU program reads its options wherever they stand among its arguments, up to `--`: letters
after a `-`, one of which may take the rest of its word or the next word as its argument, and
long options after `--`, which may be shortened to any prefix that names one option alone and
take an argument after `=` or in the next word. An option it does not know, or one that lacks
its argument, is complained about in the words of the C library, with a hint to ask for help.
It acts on its options in the order given, so `--help`, `--version`, or an option whose argument
it cannot use, ends it before a later word that cannot be read is complained about. Its
complaints start with its name as it was called.

A program whose standard output cannot be written says so, `write error` and the reason, and
fails; `cat` does so at its first write, the others when they end.

The devices under `/dev` are character devices that can be read and written, whatever the file
tree holds there.
-/

namespace BoardSetup.Shell

/-- What a program did: its writes on descriptors 1 and 2, in order, and its exit status; how it
fails when its standard output cannot be written: with which status, and whether at once; how
many bytes of its standard input it read, or, on a file, left it past; and how many nanoseconds it
slept. -/
structure ToolResult where
  writes : List (Nat × List UInt8) := []
  status : Nat := 0
  writeFailure : Nat := 1
  stopsAtWriteError : Bool := false
  stdinRead : Nat := 0
  sleeps : Nat := 0
  deriving Repr

/-- What a program is given. -/
structure ToolInput where
  /-- The program's name as it was called. -/
  name : List UInt8
  args : List (List UInt8)
  files : FileTree
  cwd : List String
  /-- Its standard input, or why it cannot be read. -/
  stdin : Except ReadError (List UInt8)
  /-- Whether its standard input is a file, which a program may leave at a place of its choice. -/
  stdinSeekable : Bool := false
  /-- Whether its standard output is closed. -/
  stdoutClosed : Bool := false
  /-- The file its standard output writes, when it writes one. -/
  stdoutFile : Option (List String) := none
  /-- Whether a path names a program that can be run. -/
  runnable : List String → Bool
  /-- Its environment: the names and values of the variables exported to it. -/
  env : List (List UInt8 × List UInt8) := []

def ToolInput.stdinSize (t : ToolInput) : Nat :=
  match t.stdin with
  | .ok bs => bs.length
  | .error _ => 0

def ToolInput.getenv (t : ToolInput) (name : String) : Option (List UInt8) :=
  t.env.lookup (name.toUTF8.toList)

/-- Whether a byte is a blank to the C library: space, tab, newline, vertical tab, form feed or
carriage return. -/
def isCSpace (b : UInt8) : Bool := b == 32 || (9 ≤ b && b ≤ 13)

def hexValue (b : UInt8) : Option Nat :=
  if 48 ≤ b && b ≤ 57 then some (b.toNat - 48)
  else if 97 ≤ b && b ≤ 102 then some (b.toNat - 87)
  else if 65 ≤ b && b ≤ 70 then some (b.toNat - 55)
  else none

def leadingDigits (base : Nat) (bs : List UInt8) : Nat × Nat :=
  let digits := bs.takeWhile fun b => ((hexValue b).map (decide <| · < base)).getD false
  (digits.foldl (fun acc b => acc * base + (hexValue b).getD 0) 0, digits.length)

/-- An unsigned number as the GNU tools read one whole, in the base its text shows: blanks, an
optional `+`, then `0x` and hexadecimal digits, `0` and octal digits, or decimal digits, with
nothing after them. A `-` makes it no number, as does a text with no digits. -/
def wholeNumber (w : List UInt8) : Option Nat :=
  let body := w.dropWhile isCSpace
  let body := if body.head? == some 43 then body.drop 1 else body
  if w.dropWhile isCSpace |>.head? |>.any (· == 45) then none
  else
    let (base, digits) := match body with
      | 48 :: x :: rest =>
        if (x == 120 || x == 88) && (rest.head?.bind hexValue).isSome then (16, rest)
        else (8, body)
      | _ => (10, body)
    let (value, count) := leadingDigits base digits
    if count == 0 || count < digits.length then none else some value

example : wholeNumber [32, 43, 49, 50] = some 12 := by decide
example : wholeNumber [48, 120, 49, 48] = some 16 := by decide
example : wholeNumber [48, 56] = none := by decide

/-! ## Counts with size suffixes -/

/-- Why a count cannot be read: it is no number, or it is past what 64 bits hold. -/
inductive CountFault where
  | invalid
  | tooLarge
  deriving DecidableEq, Repr

def countMax : Nat := 2 ^ 64 - 1

def suffixPower (c : UInt8) : Option Nat :=
  if c == 107 || c == 75 then some 1
  else if c == 109 || c == 77 then some 2
  else if c == 71 then some 3
  else if c == 84 then some 4
  else if c == 80 then some 5
  else if c == 69 then some 6
  else if c == 90 then some 7
  else if c == 89 then some 8
  else none

/-- A count as the GNU tools read one with a size suffix: blanks, an optional `+` and decimal
digits, then at most one suffix: `b` for 512, or `K` (also `k`), `M` (also `m`), `G`, `T`, `P`,
`E`, `Z`, `Y` for the powers of 1024, or of 1000 when `B` follows them (`iB` keeps 1024). A
suffix with no digits before it counts one. A `-` makes it no number; a count past 64 bits is too
large, unless something else is wrong with it too. -/
def readSizeCount (w : List UInt8) : Except CountFault Nat :=
  let body := w.dropWhile isCSpace
  let afterSign := if body.head? == some 43 then body.drop 1 else body
  let digits := afterSign.takeWhile fun b => 48 ≤ b && b ≤ 57
  let value := digits.foldl (fun acc b => acc * 10 + (b.toNat - 48)) 0
  -- without digits the suffix is looked for at the very start, and the number is one
  let (value, rest) := if digits.isEmpty then (1, w) else (value, afterSign.drop digits.length)
  let overflow := value > countMax
  let value := min value countMax
  let known := [98, 107, 75, 109, 77, 71, 84, 80, 69, 90, 89]
  if body.head? == some 45 then .error .invalid
  else match rest with
    | [] =>
      if digits.isEmpty then .error .invalid
      else if overflow then .error .tooLarge
      else .ok value
    | c :: more =>
      if !known.contains c then .error .invalid
      else
        let (scale, used) := match suffixPower c with
          | some n =>
            match more with
            | 105 :: 66 :: _ => (1024 ^ n, 3)
            | 66 :: _ | 68 :: _ => (1000 ^ n, 2)
            | _ => (1024 ^ n, 1)
          | none => (512, 1)
        let scaled := value * scale
        if rest.length > used then .error .invalid
        else if overflow || scaled > countMax then .error .tooLarge
        else .ok scaled

example : (readSizeCount [49, 48]).toOption = some 10 := by decide
example : (readSizeCount [50, 75]).toOption = some 2048 := by decide
example : (readSizeCount [50, 107, 66]).toOption = some 2000 := by decide
example : (readSizeCount [75]).toOption = some 1024 := by decide
example : (readSizeCount [45, 49]).toOption = none := by decide

def textBytes (s : String) : List UInt8 := Text.encodeKeeping s

def baseName (name : List UInt8) : List UInt8 :=
  (name.reverse.takeWhile (· != 47)).reverse

def joinPath (dir name : List UInt8) : List UInt8 :=
  if dir.getLast? == some 47 then dir ++ name else dir ++ [47] ++ name

def ToolInput.complaint (t : ToolInput) (msg : List UInt8) : List UInt8 :=
  t.name ++ textBytes ": " ++ msg ++ [10]

def ToolInput.tryHelp (t : ToolInput) : List UInt8 :=
  textBytes "Try '" ++ t.name ++ textBytes " --help' for more information.\n"

/-- A complaint about the argument of an option: its first line, which names the program, the
lines after it, and whether the hint at `--help` follows them. -/
structure ArgComplaint where
  line : List UInt8
  more : List UInt8 := []
  hint : Bool := false
  /-- The status the program ends with. -/
  status : Nat := 2
  deriving DecidableEq, Repr

def ToolInput.argComplaint (t : ToolInput) (c : ArgComplaint) : List UInt8 :=
  t.complaint c.line ++ c.more ++ (if c.hint then t.tryHelp else [])

/-- The words an option takes, listed one line for each meaning, the words of one meaning that
stand next to each other in the table on the same line. -/
def validArguments {α : Type} [BEq α] (table : List (String × α)) : List UInt8 :=
  let (text, _) := table.foldl (fun (acc : List UInt8 × Option α) (w, v) =>
    let (out, last) := acc
    if last == some v then (out ++ textBytes ", " ++ Text.curlyQuote (textBytes w), last)
    else (out ++ textBytes "\n  - " ++ Text.curlyQuote (textBytes w), some v))
    (textBytes "Valid arguments are:", none)
  text ++ [10]

/-- The meaning of an option's argument, one of the words of a table or the start of words that
all mean the same; a complaint, with the words it may be, otherwise, which ends the program with
status 1. -/
def pickArgument {α : Type} [BEq α] (option : String) (table : List (String × α))
    (arg : List UInt8) : Except ArgComplaint α :=
  let text := pathText arg
  let fail := fun (what : String) => Except.error
    { line := textBytes (what ++ " argument ") ++ Text.curlyQuote arg ++ textBytes " for " ++
        Text.curlyQuote (textBytes option),
      more := validArguments table, hint := true, status := 1 }
  match table.find? (·.1 == text) with
  | some (_, v) => .ok v
  | none =>
    match table.filter (fun (w, _) => text.isPrefixOf w) with
    | (_, v) :: rest => if rest.all (·.2 == v) then .ok v else fail "ambiguous"
    | [] => fail "invalid"

/-! ## Options -/

/-- Whether an option takes an argument. -/
inductive ArgNeed where
  | noArgument
  | required
  | optional
  deriving DecidableEq, Repr

/-- An option of a GNU program: the name the program knows it by, its letter and its long name
(either may be missing), and whether it takes an argument. -/
structure OptionSpec where
  key : String
  letter : Option UInt8 := none
  long : Option String := none
  arg : ArgNeed := .noArgument
  deriving DecidableEq, Repr

/-- Why the options of a GNU program cannot be read. -/
inductive OptionError where
  /-- A letter it does not know. -/
  | invalidLetter (c : UInt8)
  /-- A letter that needs an argument and has none. -/
  | letterNeedsArgument (c : UInt8)
  /-- A long option it does not know, the whole word. -/
  | unrecognized (word : List UInt8)
  /-- A shortened long option that fits several, with their names. -/
  | ambiguous (word : List UInt8) (names : List String)
  /-- A long option that needs an argument and has none. -/
  | needsArgument (name : String)
  /-- A long option given an argument it does not take. -/
  | takesNoArgument (name : String)
  deriving DecidableEq, Repr

def OptionError.message (prog : List UInt8) : OptionError → List UInt8
  | .invalidLetter c => prog ++ textBytes ": invalid option -- '" ++ [c] ++ textBytes "'\n"
  | .letterNeedsArgument c =>
    prog ++ textBytes ": option requires an argument -- '" ++ [c] ++ textBytes "'\n"
  | .unrecognized w => prog ++ textBytes ": unrecognized option '" ++ w ++ textBytes "'\n"
  | .ambiguous w names =>
    prog ++ textBytes ": option '" ++ w ++ textBytes "' is ambiguous; possibilities:" ++
      names.flatMap (fun n => textBytes (" '--" ++ n ++ "'")) ++ [10]
  | .needsArgument n => prog ++ textBytes (": option '--" ++ n ++ "' requires an argument\n")
  | .takesNoArgument n =>
    prog ++ textBytes (": option '--" ++ n ++ "' doesn't allow an argument\n")

/-- The options a long option word may name: the one of that very name, or else all those whose
name it begins; options that act alike count once. -/
def longCandidates (specs : List OptionSpec) (name : List UInt8) : List OptionSpec :=
  let withLong := specs.filter (·.long.isSome)
  match withLong.find? (fun s => s.long.map textBytes == some name) with
  | some s => [s]
  | none =>
    let fits := withLong.filter fun s => (s.long.map fun l => (textBytes l).take name.length == name)
      |>.getD false
    fits.foldl (fun acc s => if acc.any (fun a => a.key == s.key && a.arg == s.arg) then acc
      else acc ++ [s]) []

/-- What reading the options of a GNU program found: the options before the first word it could
not read, in the order given, each with its argument (empty when it has none); the operands; and
why it could not read that word, which ends the reading. A program acts on its options in the
order given, so one read before the failure, such as `--help`, may end it first. -/
structure OptionsRead where
  options : List (String × List UInt8) := []
  operands : List (List UInt8) := []
  failure : Option OptionError := none
  deriving DecidableEq, Repr

def OptionsRead.withOption (r : OptionsRead) (o : String × List UInt8) : OptionsRead :=
  { r with options := o :: r.options }

/-- Reads the options of a GNU program, which may come before, between and after the operands,
up to `--` or to the first word it cannot read. -/
def readGnuOptions (specs : List OptionSpec) : Nat → List (List UInt8) → OptionsRead
  | 0, args => { operands := args }
  | _ + 1, [] => {}
  | fuel + 1, a :: rest =>
    match a with
    | [45, 45] => { operands := rest }
    | 45 :: 45 :: body =>
      let name := body.takeWhile (· != 61)
      let value := if name.length < body.length then some (body.drop (name.length + 1)) else none
      match longCandidates specs name with
      | [] => { failure := some (.unrecognized a) }
      | [s] =>
        let long := s.long.getD ""
        let found : Except OptionError ((String × List UInt8) × List (List UInt8)) :=
          match s.arg, value, rest with
          | .noArgument, some _, _ => .error (.takesNoArgument long)
          | .noArgument, none, _ => .ok ((s.key, []), rest)
          | .required, some v, _ => .ok ((s.key, v), rest)
          | .required, none, w :: more => .ok ((s.key, w), more)
          | .required, none, [] => .error (.needsArgument long)
          | .optional, v, _ => .ok ((s.key, v.getD []), rest)
        match found with
        | .error e => { failure := some e }
        | .ok (o, rest) => (readGnuOptions specs fuel rest).withOption o
      | many => { failure := some (.ambiguous a (many.map fun s => s.long.getD "")) }
    | 45 :: letters@(_ :: _) =>
      let (found, rest, failure) := lettersOf letters rest letters.length
      let after := match failure with
        | some e => { failure := some e }
        | none => readGnuOptions specs fuel rest
      found.foldr (fun o r => r.withOption o) after
    | _ =>
      let r := readGnuOptions specs fuel rest
      { r with operands := a :: r.operands }
where
  /-- The options of one word of letters, the words after it, and the letter that could not be
  read, if one could not. -/
  lettersOf : List UInt8 → List (List UInt8) → Nat →
      List (String × List UInt8) × List (List UInt8) × Option OptionError
    | [], rest, _ => ([], rest, none)
    | _, rest, 0 => ([], rest, none)
    | c :: cs, rest, n + 1 =>
      match specs.find? (·.letter == some c) with
      | none => ([], rest, some (.invalidLetter c))
      | some s =>
        match s.arg with
        | .noArgument =>
          let (more, rest, failure) := lettersOf cs rest n
          ((s.key, []) :: more, rest, failure)
        | .optional => ([(s.key, cs)], rest, none)
        | .required =>
          if !cs.isEmpty then ([(s.key, cs)], rest, none)
          else match rest with
            | w :: more => ([(s.key, w)], more, none)
            | [] => ([], rest, some (.letterNeedsArgument c))

/-- How the options of a GNU program that only sets what it was asked for end it before it runs:
at the first `--help` or `--version`, or at the word that could not be read. -/
inductive OptionsStop where
  | help
  | version
  | failure (e : OptionError)
  deriving DecidableEq, Repr

/-- Where reading the options stops a program whose options only set what it was asked for, if
it does. -/
def OptionsRead.stop (r : OptionsRead) : Option OptionsStop :=
  match r.options.find? (fun o => o.1 == "help" || o.1 == "version") with
  | some ("help", _) => some .help
  | some _ => some .version
  | none => r.failure.map .failure

/-- Acts on the options read in order with `step`, which may end the program with a complaint.
The first complaint, `--help`, `--version` or word that could not be read ends it there;
otherwise the result is what acting on all of them gives. -/
def OptionsRead.actOn {σ ε : Type} (r : OptionsRead) (step : σ → String × List UInt8 → Except ε σ)
    (init : σ) : Except (ε ⊕ OptionsStop) σ :=
  let upTo := r.options.takeWhile fun o => o.1 != "help" && o.1 != "version"
  match upTo.foldlM step init with
  | .error e => .error (.inl e)
  | .ok s =>
    match r.options.drop upTo.length with
    | ("help", _) :: _ => .error (.inr .help)
    | _ :: _ => .error (.inr .version)
    | [] =>
      match r.failure with
      | some f => .error (.inr (.failure f))
      | none => .ok s

/-- What a GNU program does when reading its options stops it: writes its help or its version,
or complains about the word it could not read. -/
def ToolInput.stopped (t : ToolInput) (help version : List UInt8) : OptionsStop → ToolResult
  | .help => { writes := [(1, help)] }
  | .version => { writes := [(1, version)] }
  | .failure e => { writes := [(2, e.message t.name ++ t.tryHelp)], status := 1 }

def letterOptions (letters : String) : List OptionSpec :=
  letters.toList.map fun c => { key := String.ofList [c], letter := some c.toNat.toUInt8 }

/-! ## Files -/

def devicePaths : List String :=
  ["/dev/null", "/dev/zero", "/dev/full", "/dev/random", "/dev/urandom", "/dev/tty"]

/-- What `test` may ask about the files of a tree, from a working directory, given which
locations hold programs. -/
def fileFactsOf (files : FileTree) (cwd : List String) (runnable : List String → Bool) :
    FileFacts :=
  let holds := fun (t : FileTest) (path : List UInt8) =>
    let text := pathText path
    if devicePaths.contains text then
      match t with
      | .exists | .readable | .writable | .charDevice | .ownUser | .ownGroup => true
      | _ => false
    else match files.stat cwd text with
      | .error _ => false
      | .ok node =>
        match t, node with
        | .exists, _ | .readable, _ | .writable, _ | .ownUser, _ | .ownGroup, _ => true
        | .regular, .file _ => true
        | .directory, .dir => true
        | .executable, .dir => true
        | .executable, .file _ =>
          match files.resolve cwd text with
          | .ok tg => runnable tg.loc
          | .error _ => false
        | .nonEmpty, .dir => true
        | .nonEmpty, .file _ =>
          match files.read cwd text with
          | .ok bs => !bs.isEmpty
          | .error _ => false
        | _, _ => false
  let same := fun (a b : List UInt8) =>
    match files.stat cwd (pathText a), files.stat cwd (pathText b),
      files.resolve cwd (pathText a), files.resolve cwd (pathText b) with
    | .ok _, .ok _, .ok ta, .ok tb => ta.loc == tb.loc
    | _, _, _, _ => false
  ⟨holds, same⟩

example : readGnuOptions (letterOptions "ab") 4 [[45, 97], [120], [45, 98]] =
    { options := [("a", []), ("b", [])], operands := [[120]] } := by decide
example : readGnuOptions (letterOptions "ab") 4 [[45, 98, 99], [45, 97]] =
    { options := [("b", [])], failure := some (.invalidLetter 99) } := by decide

/-! ## Reading operands -/

def namesStdin (op : List UInt8) : Bool :=
  op == [45] || pathText op == "/dev/stdin" || pathText op == "/dev/fd/0"

/-- Why a program cannot read a file it was given: it cannot open it, or it opens it and cannot
read it; each with the message of the C library. -/
inductive ReadFault where
  | openFailed (why : String)
  | readFailed (why : String)
  deriving DecidableEq, Repr

/-- The bytes of a file a program opens and reads to its end. The devices read as empty, but
the terminal, which cannot be opened here; a directory opens and cannot be read. -/
def ToolInput.readFile (t : ToolInput) (op : List UInt8) : Except ReadFault (List UInt8) :=
  let path := pathText op
  if path == "/dev/tty" then .error (.openFailed "No such device or address")
  else if devicePaths.contains path then .ok []
  else match t.files.read t.cwd path with
    | .ok bs => .ok bs
    | .error .isADirectory => .error (.readFailed "Is a directory")
    | .error .notADirectory => .error (.openFailed "Not a directory")
    | .error .nameTooLong => .error (.openFailed "File name too long")
    | .error _ => .error (.openFailed "No such file or directory")

end BoardSetup.Shell

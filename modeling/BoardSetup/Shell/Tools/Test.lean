import BoardSetup.Shell.Tools
import BoardSetup.Shell.Tools.Help

/-!
# The stand-alone `test` and `[`

The stand-alone `test` reads its expression by the standard's rules for one to four words, and
by this grammar for more, or where those rules defer to it:

    or   ::= and | and "-o" or
    and  ::= term | term "-a" and
    term ::= "!"* ( "(" words ")" | "-l" string binary-operator operand
                  | operand binary-operator operand | unary-operator operand | operand )

With one word, the expression is whether it is not empty. With two, `!` negates the one word
after it, and a word of a `-` and one letter must be a unary operator. With three, a binary
operator in the middle is a comparison; else `!` negates the two words after it, parentheses
hold one word, and `-a` or `-o` in the middle join the two. With four, `!` negates the three
after it and parentheses hold two. The words between parentheses inside a term are read by the
same rules, by their number when there are at most four.

The binary operators compare strings (`=`, `==`, `!=`), integers (`-eq`, `-ne`, `-lt`, `-le`,
`-gt`, `-ge`), any of them as long as they are, blanks around them and a `+` allowed, and files
(`-nt`, `-ot`, `-ef`); `-l string` stands for the length of the string. The unary operators ask
about a string (`-n`, `-z`), a terminal (`-t`, never true here) or a file.

A word missing after the last, one left over, an operator where none is expected and an integer
that is no number are errors, each named in curly quotes: the status is then 2, else 0 for true
and 1 for false. `[` wants `]` as its last word.
-/

namespace BoardSetup.Shell

/-- The words of an expression and what the files can tell. -/
structure TestWords where
  words : Array (List UInt8)
  facts : FileFacts

namespace TestWords

def at? (t : TestWords) (i : Nat) : Option (List UInt8) := t.words[i]?

def isAt (t : TestWords) (i : Nat) (s : String) : Bool := t.at? i == some (textBytes s)

def size (t : TestWords) : Nat := t.words.size

def beyond {α : Type} (t : TestWords) : Except (List UInt8) α :=
  .error (textBytes "missing argument after " ++ Text.curlyQuote (t.words.back?.getD []))

end TestWords

def gnuBinaryOps : List String :=
  ["=", "!=", "==", "-nt", "-ot", "-ef", "-eq", "-ne", "-lt", "-le", "-gt", "-ge"]

def isGnuBinary (w : Option (List UInt8)) : Bool :=
  gnuBinaryOps.any fun o => w == some (textBytes o)

def isDashLetter (w : List UInt8) : Bool :=
  match w with
  | [45, c] => c != 0
  | _ => false

def isGnuUnary (w : List UInt8) : Bool :=
  match w with
  | [45, c] => (textBytes "abcdefghknoprstuwxzGLOSN").contains c
  | _ => false

def testInteger (w : List UInt8) : Except (List UInt8) Int :=
  let blank := fun (b : UInt8) => b == 32 || b == 9
  let digit := fun (b : UInt8) => 48 ≤ b && b ≤ 57
  let s := w.dropWhile blank
  let (neg, s) := match s with
    | 43 :: r => (false, r)
    | 45 :: r => (true, r)
    | _ => (false, s)
  let ds := s.takeWhile digit
  if !ds.isEmpty && (s.drop ds.length).all blank then
    let v : Nat := ds.foldl (fun acc b => acc * 10 + (b.toNat - 48)) 0
    .ok (if neg then -(v : Int) else v)
  else .error (textBytes "invalid integer " ++ Text.curlyQuote w)

def gnuFileTest (c : UInt8) : Option FileTest :=
  match Char.ofNat c.toNat with
  | 'e' => some .exists | 'r' => some .readable | 'w' => some .writable
  | 'x' => some .executable | 'O' => some .ownUser | 'G' => some .ownGroup
  | 'f' => some .regular | 'd' => some .directory | 's' => some .nonEmpty
  | 'S' => some .socket | 'c' => some .charDevice | 'b' => some .blockDevice
  | 'p' => some .fifo | 'u' => some .setUser | 'g' => some .setGroup | 'k' => some .sticky
  | 'h' | 'L' => some .symlink
  | _ => none

namespace TestWords

def unary (t : TestWords) (pos : Nat) : Except (List UInt8) (Bool × Nat) := do
  let w := (t.at? pos).getD []
  let c := w.getD 1 0
  let bad : Except (List UInt8) (Bool × Nat) :=
    .error (Text.curlyQuote w ++ textBytes ": unary operator expected")
  if !(textBytes "erwxOGNfdsScbpugkhLtnz").contains c then bad
  else
    match t.at? (pos + 1) with
    | none => t.beyond
    | some arg =>
      if c == 116 then
        let _ ← testInteger arg
        return (false, pos + 2)
      else if c == 110 then return (!arg.isEmpty, pos + 2)
      else if c == 122 then return (arg.isEmpty, pos + 2)
      else match gnuFileTest c with
        | some ft => return (t.facts.holds ft arg, pos + 2)
        | none => return (false, pos + 2)

/-- A binary operator after the word at a position, or after `-l` and its string: the value
and the position after them. -/
def binary (t : TestWords) (pos : Nat) (leftLength : Bool) : Except (List UInt8) (Bool × Nat) := do
  let pos := if leftLength then pos + 1 else pos
  let op := pos + 1
  let rightLength := op + 2 < t.size && t.isAt (op + 1) "-l"
  let pos := if rightLength then pos + 1 else pos
  let word := fun i => (t.at? i).getD []
  let opWord := pathText (word op)
  if ["-eq", "-ne", "-lt", "-le", "-gt", "-ge"].contains opWord then
    let l ← if leftLength then pure ((word (op - 1)).length : Int) else testInteger (word (op - 1))
    let r ← if rightLength then pure ((word (op + 2)).length : Int) else testInteger (word (op + 1))
    let v := match opWord with
      | "-eq" => l == r | "-ne" => l != r | "-lt" => l < r
      | "-le" => l ≤ r | "-gt" => l > r | _ => l ≥ r
    return (v, pos + 3)
  else if ["-nt", "-ot", "-ef"].contains opWord then
    if leftLength || rightLength then
      .error (textBytes (opWord ++ " does not accept -l"))
    let le := t.facts.holds .exists (word (op - 1))
    let re := t.facts.holds .exists (word (op + 1))
    let v := match opWord with
      | "-nt" => le && !re
      | "-ot" => re && !le
      | _ => t.facts.same (word (op - 1)) (word (op + 1))
    return (v, pos + 3)
  else if opWord == "!=" then return (word pos != word (pos + 2), pos + 3)
  else return (word pos == word (pos + 2), pos + 3)

/-- The number of words a parenthesis at a position holds before its `)`, counting at most four;
past four, all the words left. -/
def parenWords (t : TestWords) (pos : Nat) : Nat :=
  match (List.range 4).find? fun i => !(pos + i + 1 < t.size && !t.isAt (pos + i + 1) ")") with
  | some i => i + 1
  | none => t.size - pos

mutual

def term (t : TestWords) : Nat → Nat → Except (List UInt8) (Bool × Nat)
  | 0, pos => .ok (false, pos)
  | fuel + 1, pos => do
    if t.isAt pos "!" then
      if pos + 1 ≥ t.size then t.beyond
      let (v, after) ← term t fuel (pos + 1)
      return (!v, after)
    if pos ≥ t.size then t.beyond
    if t.isAt pos "(" then
      let pos := pos + 1
      if pos ≥ t.size then t.beyond
      let (v, after) ← byCount t fuel pos (t.parenWords pos)
      match t.at? after with
      | none => .error (Text.curlyQuote [41] ++ textBytes " expected")
      | some w =>
        if w != [41] then
          .error (Text.curlyQuote [41] ++ textBytes " expected, found " ++ Text.curlyQuote w)
        return (v, after + 1)
    else if 4 ≤ t.size - pos && t.isAt pos "-l" && isGnuBinary (t.at? (pos + 2)) then
      t.binary pos true
    else if 3 ≤ t.size - pos && isGnuBinary (t.at? (pos + 1)) then t.binary pos false
    else
      let w := (t.at? pos).getD []
      if isDashLetter w then t.unary pos
      else return (!w.isEmpty, pos + 1)

def conj (t : TestWords) : Nat → Nat → Except (List UInt8) (Bool × Nat)
  | 0, pos => .ok (false, pos)
  | fuel + 1, pos => do
    let (v, after) ← term t fuel pos
    if t.isAt after "-a" then
      let (w, rest) ← conj t fuel (after + 1)
      return (v && w, rest)
    return (v, after)

def disj (t : TestWords) : Nat → Nat → Except (List UInt8) (Bool × Nat)
  | 0, pos => .ok (false, pos)
  | fuel + 1, pos => do
    let (v, after) ← conj t fuel pos
    if t.isAt after "-o" then
      let (w, rest) ← disj t fuel (after + 1)
      return (v || w, rest)
    return (v, after)

def expr (t : TestWords) : Nat → Nat → Except (List UInt8) (Bool × Nat)
  | 0, pos => .ok (false, pos)
  | fuel + 1, pos => if pos ≥ t.size then t.beyond else disj t fuel pos

def twoWords (t : TestWords) : Nat → Nat → Except (List UInt8) (Bool × Nat)
  | 0, pos => .ok (false, pos)
  | _ + 1, pos => do
    if t.isAt pos "!" then return (((t.at? (pos + 1)).getD []).isEmpty, pos + 2)
    let w := (t.at? pos).getD []
    if isDashLetter w then
      if isGnuUnary w then t.unary pos
      else .error (Text.curlyQuote w ++ textBytes ": unary operator expected")
    else t.beyond

def threeWords (t : TestWords) : Nat → Nat → Except (List UInt8) (Bool × Nat)
  | 0, pos => .ok (false, pos)
  | fuel + 1, pos => do
    if isGnuBinary (t.at? (pos + 1)) then t.binary pos false
    else if t.isAt pos "!" then
      if pos + 1 ≥ t.size then t.beyond
      let (v, after) ← twoWords t fuel (pos + 1)
      return (!v, after)
    else if t.isAt pos "(" && t.isAt (pos + 2) ")" then
      return (!((t.at? (pos + 1)).getD []).isEmpty, pos + 3)
    else if t.isAt (pos + 1) "-a" || t.isAt (pos + 1) "-o" then expr t fuel pos
    else .error (Text.curlyQuote ((t.at? (pos + 1)).getD []) ++
      textBytes ": binary operator expected")

/-- An expression of a number of words from a position, by the standard's rules for up to four
words and by the grammar past them. -/
def byCount (t : TestWords) : Nat → Nat → Nat → Except (List UInt8) (Bool × Nat)
  | 0, pos, _ => .ok (false, pos)
  | fuel + 1, pos, n =>
    match n with
    | 1 => return (!((t.at? pos).getD []).isEmpty, pos + 1)
    | 2 => twoWords t fuel pos
    | 3 => threeWords t fuel pos
    | 4 => do
      if t.isAt pos "!" then
        if pos + 1 ≥ t.size then t.beyond
        let (v, after) ← threeWords t fuel (pos + 1)
        return (!v, after)
      else if t.isAt pos "(" && t.isAt (pos + 3) ")" then
        let (v, after) ← twoWords t fuel (pos + 1)
        return (v, after + 1)
      else expr t fuel pos
    | _ => expr t fuel pos

end

end TestWords

def evalGnuTest (facts : FileFacts) (words : List (List UInt8)) : Except (List UInt8) Bool := do
  if words.isEmpty then return false
  let t : TestWords := ⟨words.toArray, facts⟩
  let (v, pos) ← t.byCount (4 * words.length + 8) 0 words.length
  if pos != words.length then
    .error (textBytes "extra argument " ++ Text.curlyQuote ((t.at? pos).getD []))
  return v

/-- Runs the stand-alone `test`, or `[`, which wants `]` as its last argument. -/
def runTestTool (t : ToolInput) : ToolResult :=
  let bracket := baseName t.name == [91]
  let fail := fun (msg : List UInt8) => ({ writes := [(2, t.complaint msg)], status := 2 } : ToolResult)
  if bracket && t.args == [textBytes "--help"] then
    { writes := [(1, bracketHelp)] }
  else if bracket && t.args == [textBytes "--version"] then { writes := [(1, versionText "[")] }
  else if bracket && t.args.getLast? != some [93] then
    fail (textBytes "missing " ++ Text.curlyQuote [93])
  else
    let args := if bracket then t.args.dropLast else t.args
    match evalGnuTest (fileFactsOf t.files t.cwd t.runnable) args with
    | .ok v => { status := if v then 0 else 1 }
    | .error m => fail m

end BoardSetup.Shell

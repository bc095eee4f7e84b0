import BoardSetup.Shell.Number

/-!
# `test` and `[`

The expressions of `test`, read by this grammar:

    or      ::= and | and "-o" or
    and     ::= not | not "-a" and
    not     ::= primary | "!" not
    primary ::= unary-operator operand | operand binary-operator operand | operand
              | "(" or ")"

A unary operator is a string test (`-z`, `-n`), `-t` (whether a descriptor is a terminal, which
none is here) or a file test; a binary operator compares strings (`=`, `!=`, `<`, `>`), integers
(`-eq`, `-ne`, `-lt`, `-le`, `-gt`, `-ge`) or files (`-nt`, `-ot`, `-ef`). A word that looks like
a unary operator is an operand when it is the last word, or when the word after it is a binary
operator with a word after that; `(` alone at the end is an operand too. A lone operand is true
when it is not empty.

Before that grammar, the standard's rules by the number of words: with three words whose middle
one is a binary operator, the comparison; with three or four words in parentheses, what is
between them; with three or four words after `!`, the negation of the rest. A missing expression
(after a last `!`) is false. Words left over, a missing operand of an operator, a missing `)`
and an integer that is no number are errors.
-/

namespace BoardSetup.Shell

/-- A question about the file a path names. -/
inductive FileTest where
  | readable | writable | executable | exists | regular | directory | charDevice | blockDevice
  | fifo | socket | symlink | setUser | setGroup | sticky | nonEmpty | ownUser | ownGroup
  deriving DecidableEq, Repr

/-- What an operator word means. -/
inductive TestOp where
  | file (t : FileTest)
  | emptyString
  | nonEmptyString
  | terminal
  | strEq | strNe | strLt | strGt
  | intEq | intNe | intGe | intGt | intLe | intLt
  | newer | older | sameFile
  | not
  | and
  | or
  | lparen
  | rparen
  deriving DecidableEq, Repr

/-- The kind of an operator word. -/
inductive OpKind where
  | unary
  | binary
  | bangUnary
  | bangBinary
  | paren
  deriving DecidableEq, Repr

def testOps : List (String × TestOp × OpKind) :=
  [("-r", .file .readable, .unary), ("-w", .file .writable, .unary),
   ("-x", .file .executable, .unary), ("-e", .file .exists, .unary),
   ("-f", .file .regular, .unary), ("-d", .file .directory, .unary),
   ("-c", .file .charDevice, .unary), ("-b", .file .blockDevice, .unary),
   ("-p", .file .fifo, .unary), ("-u", .file .setUser, .unary), ("-g", .file .setGroup, .unary),
   ("-k", .file .sticky, .unary), ("-s", .file .nonEmpty, .unary), ("-t", .terminal, .unary),
   ("-z", .emptyString, .unary), ("-n", .nonEmptyString, .unary), ("-h", .file .symlink, .unary),
   ("-O", .file .ownUser, .unary), ("-G", .file .ownGroup, .unary),
   ("-L", .file .symlink, .unary), ("-S", .file .socket, .unary),
   ("=", .strEq, .binary), ("!=", .strNe, .binary), ("<", .strLt, .binary),
   (">", .strGt, .binary), ("-eq", .intEq, .binary), ("-ne", .intNe, .binary),
   ("-ge", .intGe, .binary), ("-gt", .intGt, .binary), ("-le", .intLe, .binary),
   ("-lt", .intLt, .binary), ("-nt", .newer, .binary), ("-ot", .older, .binary),
   ("-ef", .sameFile, .binary), ("!", .not, .bangUnary), ("-a", .and, .bangBinary),
   ("-o", .or, .bangBinary), ("(", .lparen, .paren), (")", .rparen, .paren)]

def testOpTable : List (List UInt8 × TestOp × OpKind) :=
  testOps.map fun (w, v) => (w.toUTF8.toList, v)

def testOp? (w : List UInt8) : Option (TestOp × OpKind) :=
  (testOpTable.find? fun e => e.1 == w).map (·.2)

/-- What `test` may ask about files: a file test on a path, and whether two paths name the same
file. -/
structure FileFacts where
  holds : FileTest → List UInt8 → Bool
  same : List UInt8 → List UInt8 → Bool

/-- A token: an operator with its kind, the end of the words, or an operand. -/
inductive TestToken where
  | op (o : TestOp) (k : OpKind)
  | eoi
  | operand
  deriving DecidableEq, Repr

/-- Whether the word at a position is an operand although it looks like a unary operator: it is
the last word, or a binary operator follows it with a word after that. -/
def isOperandAt (ws : List (List UInt8)) (i : Nat) : Bool :=
  match ws[i + 1]? with
  | none => true
  | some next =>
    match ws[i + 2]? with
    | none => false
    | some _ =>
      match testOp? next with
      | some (_, .binary) => true
      | _ => false

def lexAt (ws : List (List UInt8)) (i : Nat) : TestToken :=
  match ws[i]? with
  | none => .eoi
  | some w =>
    match testOp? w with
    | some (o, k) =>
      if k == .unary && isOperandAt ws i then .operand
      else if o == .lparen && ws[i + 1]?.isNone then .operand
      else .op o k
    | none => .operand

/-- An error of `test`: the word it names, if any, and the message. -/
structure TestError where
  word : Option (List UInt8)
  message : List UInt8
  deriving DecidableEq, Repr

def TestError.of (word : Option (List UInt8)) (msg : String) : TestError :=
  ⟨word, msg.toUTF8.toList⟩

def TestError.text (e : TestError) : List UInt8 :=
  match e.word with
  | some w => if w.isEmpty then e.message else w ++ [58, 32] ++ e.message
  | none => e.message

/-- A step of evaluating: the position of the word last read. -/
abbrev TestM := StateT Nat (Except TestError)

def testNumber (w : List UInt8) : TestM Int :=
  match wholeInteger w 10 with
  | some v => pure v
  | none => throw ⟨none, "Illegal number: ".toUTF8.toList ++ w⟩

def compareBytes : List UInt8 → List UInt8 → Ordering
  | [], [] => .eq
  | [], _ :: _ => .lt
  | _ :: _, [] => .gt
  | a :: as, b :: bs => if a < b then .lt else if b < a then .gt else compareBytes as bs

def binaryTest (facts : FileFacts) (o : TestOp) (a b : List UInt8) : TestM Bool := do
  match o with
  | .strEq => return a == b
  | .strNe => return a != b
  | .strLt => return compareBytes a b == .lt
  | .strGt => return compareBytes a b == .gt
  | .intEq => return (← testNumber a) == (← testNumber b)
  | .intNe => return (← testNumber a) != (← testNumber b)
  | .intGe => return (← testNumber a) ≥ (← testNumber b)
  | .intGt => return (← testNumber a) > (← testNumber b)
  | .intLe => return (← testNumber a) ≤ (← testNumber b)
  | .intLt => return (← testNumber a) < (← testNumber b)
  | .sameFile => return facts.same a b
  | _ => return false

def unaryTest (facts : FileFacts) (o : TestOp) (a : List UInt8) : TestM Bool := do
  match o with
  | .emptyString => return a.isEmpty
  | .nonEmptyString => return !a.isEmpty
  | .terminal =>
    let _ ← testNumber a
    return false
  | .file t => return facts.holds t a
  | _ => return false

def opOfKind (w : Option (List UInt8)) (k : OpKind) : Option TestOp :=
  match w.bind testOp? with
  | some (o, k') => if k' == k then some o else none
  | none => none

mutual

def testOr (facts : FileFacts) (ws : List (List UInt8)) : Nat → TestToken → TestM Bool
  | 0, _ => throw (.of none "argument expected")
  | fuel + 1, t => do
    let a ← testAnd facts ws fuel t
    let i ← get
    if lexAt ws (i + 1) == .op .or .bangBinary then
      set (i + 2)
      let b ← testOr facts ws fuel (lexAt ws (i + 2))
      return a || b
    else return a

def testAnd (facts : FileFacts) (ws : List (List UInt8)) : Nat → TestToken → TestM Bool
  | 0, _ => throw (.of none "argument expected")
  | fuel + 1, t => do
    let a ← testNot facts ws fuel t
    let i ← get
    if lexAt ws (i + 1) == .op .and .bangBinary then
      set (i + 2)
      let b ← testAnd facts ws fuel (lexAt ws (i + 2))
      return a && b
    else return a

def testNot (facts : FileFacts) (ws : List (List UInt8)) : Nat → TestToken → TestM Bool
  | 0, _ => throw (.of none "argument expected")
  | fuel + 1, t => do
    if t == .op .not .bangUnary then
      let i ← get
      set (i + 1)
      return !(← testNot facts ws fuel (lexAt ws (i + 1)))
    else testPrimary facts ws fuel t

def testPrimary (facts : FileFacts) (ws : List (List UInt8)) : Nat → TestToken → TestM Bool
  | 0, _ => throw (.of none "argument expected")
  | fuel + 1, t => do
    let i ← get
    match t with
    -- a missing expression, as after a last `!`, is false
    | .eoi => return false
    | .op .lparen _ =>
      set (i + 1)
      let nt := lexAt ws (i + 1)
      if nt == .op .rparen .paren then return false
      let v ← testOr facts ws fuel nt
      let j ← get
      set (j + 1)
      if lexAt ws (j + 1) != .op .rparen .paren then throw (.of none "closing paren expected")
      return v
    | .op o .unary =>
      set (i + 1)
      match ws[i + 1]? with
      | none => throw (.of ws[i]? "argument expected")
      | some a => unaryTest facts o a
    | _ =>
      match opOfKind ws[i + 1]? .binary, lexAt ws (i + 1) with
      | some o, .op _ .binary =>
        set (i + 2)
        match ws[i + 2]? with
        | none => throw (.of ws[i + 1]? "argument expected")
        | some b => binaryTest facts o (ws[i]?.getD []) b
      | _, _ => return !(ws[i]?.getD []).isEmpty

end

def evalFrom (facts : FileFacts) (ws : List (List UInt8)) (first : TestToken) :
    Except TestError Bool :=
  match (testOr facts ws (4 * ws.length + 8) first).run 0 with
  | .error e => .error e
  | .ok (v, i) =>
    match ws[i]?, ws[i + 1]? with
    | some w, some _ => .error (.of (some w) "unexpected operator")
    | _, _ => .ok v

/-- Evaluates the words of `test` by the rules for their number, a leading `!` before three or
four words negating the rest: whether the expression holds, or why it is malformed. -/
def evalTestFrom (facts : FileFacts) : Nat → List (List UInt8) → Bool → Except TestError Bool
  | 0, _, _ => .ok false
  | fuel + 1, ws, negated =>
    let finish := fun (r : Except TestError Bool) => r.map fun v => if negated then !v else v
    let paren := ws.head? == some [40] && ws.getLast? == some [41]
    if ws.isEmpty then .ok false
    else if ws.length == 3 && (opOfKind ws[1]? .binary).isSome then finish (evalFrom facts ws .operand)
    else if ws.length == 3 || ws.length == 4 then
      if paren then
        let inner := (ws.drop 1).dropLast
        finish (evalFrom facts inner (lexAt inner 0))
      else if ws.head? == some [33] then evalTestFrom facts fuel (ws.drop 1) true
      else finish (evalFrom facts ws (lexAt ws 0))
    else finish (evalFrom facts ws (lexAt ws 0))

/-- Evaluates the words of `test`: whether the expression holds, or why it is malformed. -/
def evalTest (facts : FileFacts) (words : List (List UInt8)) : Except TestError Bool :=
  evalTestFrom facts (words.length + 1) words false

end BoardSetup.Shell

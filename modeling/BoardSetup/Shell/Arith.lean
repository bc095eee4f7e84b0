import BoardSetup.Shell.Number

/-!
# Shell arithmetic

The expressions of `$(( ))`: signed 64-bit integers that wrap around, with C's operators and
precedence. Numbers are decimal, octal after a leading `0` or hexadecimal after `0x`; a name
stands for the value of that variable, read as such a number (unset or empty is 0). The
operators are, from the tightest: unary `+ - ! ~`; `* / %`; `+ -`; `<< >>`; `< <= > >=`;
`== !=`; `&`; `^`; `|`; `&&`; `||`; `? :`; and the assignments `=`, `*=`, `/=`, `%=`, `+=`,
`-=`, `<<=`, `>>=`, `&=`, `^=`, `|=`, which set the variable. The right side of `&&`, `||` and
the branch of `? :` not taken are read but not evaluated.

A shift takes its count modulo 64, and division truncates toward zero. Dividing by zero is an
error; dividing the smallest value by -1 traps, as the processor does. Other errors name what
was expected where the expression went wrong.
-/

namespace BoardSetup.Shell

/-- A binary operator, which takes operands from the left. -/
inductive BinOp where
  | mul | div | rem | add | sub | shl | shr | lt | le | gt | ge | eq | ne | band | bxor | bor
  deriving DecidableEq, Repr

def BinOp.level : BinOp → Nat
  | .mul | .div | .rem => 0
  | .add | .sub => 1
  | .shl | .shr => 2
  | .lt | .le | .gt | .ge => 3
  | .eq | .ne => 4
  | .band => 5
  | .bxor => 6
  | .bor => 7

/-- A token of an arithmetic expression. -/
inductive ArithToken where
  | num (v : Int64)
  | var (name : List UInt8)
  | bin (op : BinOp)
  /-- `=`, or an operator followed by `=`. -/
  | assign (op : Option BinOp)
  | andAnd
  | orOr
  | not
  | bnot
  | lparen
  | rparen
  | qmark
  | colon
  | bad
  | eof
  deriving DecidableEq, Repr

def withAssign (op : BinOp) : List UInt8 → ArithToken × List UInt8
  | 61 :: rest => (.assign (some op), rest)
  | rest => (.bin op, rest)

def arithTokens : Nat → List UInt8 → List ArithToken
  | 0, _ => [.eof]
  | _ + 1, [] => [.eof]
  | n + 1, b :: bs =>
    if b == 32 || b == 9 || b == 10 then arithTokens n bs
    else if 48 ≤ b && b ≤ 57 then
      let s := scanInteger (b :: bs) 0
      let (v, _) := s.signed
      .num (Int64.ofInt v) :: arithTokens n s.rest
    else if isArithName b then
      let name := (b :: bs).takeWhile isArithNameByte
      .var name :: arithTokens n (bs.dropWhile isArithNameByte)
    else
      let (t, rest) : ArithToken × List UInt8 := match b, bs with
        | 61, 61 :: r => (.bin .eq, r)
        | 61, r => (.assign none, r)
        | 62, 61 :: r => (.bin .ge, r)
        | 62, 62 :: r => withAssign .shr r
        | 62, r => (.bin .gt, r)
        | 60, 61 :: r => (.bin .le, r)
        | 60, 60 :: r => withAssign .shl r
        | 60, r => (.bin .lt, r)
        | 124, 124 :: r => (.orOr, r)
        | 124, r => withAssign .bor r
        | 38, 38 :: r => (.andAnd, r)
        | 38, r => withAssign .band r
        | 33, 61 :: r => (.bin .ne, r)
        | 33, r => (.not, r)
        | 40, r => (.lparen, r)
        | 41, r => (.rparen, r)
        | 42, r => withAssign .mul r
        | 47, r => withAssign .div r
        | 37, r => withAssign .rem r
        | 43, r => withAssign .add r
        | 45, r => withAssign .sub r
        | 126, r => (.bnot, r)
        | 94, r => withAssign .bxor r
        | 63, r => (.qmark, r)
        | 58, r => (.colon, r)
        | _, r => (.bad, r)
      t :: arithTokens n rest
where
  /-- Whether a byte begins a name. -/
  isArithName (b : UInt8) : Bool := (65 ≤ b && b ≤ 90) || (97 ≤ b && b ≤ 122) || b == 95
  /-- Whether a byte stands in a name. -/
  isArithNameByte (b : UInt8) : Bool := isArithName b || (48 ≤ b && b ≤ 57)

/-- Why an arithmetic expression fails. -/
inductive ArithError where
  /-- The expression does not parse: what was expected. -/
  | expecting (what : String)
  | divisionByZero
  /-- Dividing the smallest value by -1, which the processor traps. -/
  | overflowTrap
  /-- A variable's value is no number. -/
  | illegalNumber (value : List UInt8)
  /-- An assignment to a read-only variable. -/
  | readOnly (name : List UInt8)
  deriving DecidableEq, Repr

/-- The variables an expression reads and the assignments it made so far. -/
structure ArithState where
  tokens : List ArithToken
  lookup : List UInt8 → Option (List UInt8)
  isReadOnly : List UInt8 → Bool
  assigned : List (List UInt8 × List UInt8) := []

/-- A step of evaluating an expression. -/
abbrev ArithM := StateT ArithState (Except ArithError)

def decimalBytes (v : Int64) : List UInt8 :=
  (toString v.toInt).toUTF8.toList

namespace ArithM

def peek : ArithM ArithToken := do
  return (← get).tokens.headD .eof

def advance : ArithM Unit :=
  modify fun s => { s with tokens := s.tokens.drop 1 }

def value (name : List UInt8) : ArithM Int64 := do
  let s ← get
  let text := match s.assigned.lookup name with
    | some v => some v
    | none => s.lookup name
  match text with
  | none => return 0
  | some t =>
    match wholeInteger t 0 with
    | some v => return Int64.ofInt v
    | none => throw (.illegalNumber t)

def assign (name : List UInt8) (v : Int64) : ArithM Unit := do
  let s ← get
  if s.isReadOnly name then throw (.readOnly name)
  set { s with assigned := (name, decimalBytes v) :: s.assigned.filter (·.1 != name) }

def apply (op : BinOp) (a b : Int64) : ArithM Int64 :=
  let truth := fun (p : Bool) => if p then (1 : Int64) else 0
  match op with
  | .mul => return a * b
  | .div | .rem =>
    if b == 0 then throw .divisionByZero
    else if a == Int64.ofInt intMin && b == -1 then throw .overflowTrap
    else return (if op == .div then a / b else a % b)
  | .add => return a + b
  | .sub => return a - b
  | .shl => return a <<< b
  | .shr => return a >>> b
  | .lt => return truth (a < b)
  | .le => return truth (a ≤ b)
  | .gt => return truth (a > b)
  | .ge => return truth (a ≥ b)
  | .eq => return truth (a == b)
  | .ne => return truth (a != b)
  | .band => return a &&& b
  | .bxor => return a ^^^ b
  | .bor => return a ||| b

end ArithM

open ArithM in
mutual

def assignment : Nat → Bool → ArithM Int64
  | 0, _ => throw (.expecting "primary")
  | fuel + 1, skip => do
    let s ← get
    match s.tokens with
    | .var name :: .assign op :: _ =>
      advance
      advance
      let rhs ← assignment fuel skip
      if skip then return rhs
      let v ← match op with
        | none => pure rhs
        | some o => do apply o (← value name) rhs
      assign name v
      return v
    | _ => conditional fuel skip

def conditional : Nat → Bool → ArithM Int64
  | 0, _ => throw (.expecting "primary")
  | fuel + 1, skip => do
    let a ← orList fuel skip
    if (← peek) != .qmark then return a
    advance
    let b ← assignment fuel (skip || a == 0)
    if (← peek) != .colon then throw (.expecting "':'")
    advance
    let c ← conditional fuel (skip || a != 0)
    return if a != 0 then b else c

def orList : Nat → Bool → ArithM Int64
  | 0, _ => throw (.expecting "primary")
  | fuel + 1, skip => do
    let a ← andList fuel skip
    if (← peek) != .orOr then return a
    advance
    let b ← orList fuel (skip || a != 0)
    return if a != 0 || b != 0 then 1 else 0

def andList : Nat → Bool → ArithM Int64
  | 0, _ => throw (.expecting "primary")
  | fuel + 1, skip => do
    let a ← binary fuel skip 8
    if (← peek) != .andAnd then return a
    advance
    let b ← andList fuel (skip || a == 0)
    return if a != 0 && b != 0 then 1 else 0

def binary : Nat → Bool → Nat → ArithM Int64
  | 0, _, _ => throw (.expecting "primary")
  | fuel + 1, skip, bound => do
    let a ← primary fuel skip
    binaryFrom fuel skip bound a

def binaryFrom : Nat → Bool → Nat → Int64 → ArithM Int64
  | 0, _, _, a => return a
  | fuel + 1, skip, bound, a => do
    match ← peek with
    | .bin op =>
      if op.level < bound then
        advance
        let b ← binary fuel skip op.level
        let v ← if skip then pure b else apply op a b
        binaryFrom fuel skip bound v
      else return a
    | _ => return a

def primary : Nat → Bool → ArithM Int64
  | 0, _ => throw (.expecting "primary")
  | fuel + 1, skip => do
    match ← peek with
    | .lparen =>
      advance
      let v ← assignment fuel skip
      if (← peek) != .rparen then throw (.expecting "')'")
      advance
      return v
    | .num v =>
      advance
      return v
    | .var name =>
      advance
      if skip then return 0 else value name
    | .bin .add =>
      advance
      primary fuel skip
    | .bin .sub =>
      advance
      return -(← primary fuel skip)
    | .not =>
      advance
      return if (← primary fuel skip) == 0 then 1 else 0
    | .bnot =>
      advance
      return ~~~(← primary fuel skip)
    | _ => throw (.expecting "primary")

end

/-- Evaluates an expression: its value and the assignments it made, latest first. -/
def evalArith (expr : List UInt8) (lookup : List UInt8 → Option (List UInt8))
    (isReadOnly : List UInt8 → Bool) :
    Except ArithError (Int64 × List (List UInt8 × List UInt8)) := do
  let tokens := arithTokens (expr.length + 1) expr
  let fuel := 4 * tokens.length + 8
  let whole : ArithM Int64 := do
    let v ← assignment fuel false
    if (← ArithM.peek) != ArithToken.eof then throw (ArithError.expecting "EOF")
    return v
  let (v, s) ← whole.run ⟨tokens, lookup, isReadOnly, []⟩
  return (v, s.assigned)

end BoardSetup.Shell

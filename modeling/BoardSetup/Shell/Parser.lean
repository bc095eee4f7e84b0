import BoardSetup.Shell.Syntax
import BoardSetup.Numbers

/-!
# Reading shell scripts

A script is read one complete command at a time, so that a command runs before the text after it
is read, and a syntax error stops the script only where it stands. Reading is in two layers.

Tokens are the operators (`;`, `;;`, `&`, `&&`, `|`, `||`, `(`, `)`, newline, the end of the
text), redirection operators with the descriptor before them (a single digit written right before
`<` or `>`), and words. A backslash before a newline joins the lines everywhere but inside single
quotes, and `#` at the start of a token begins a comment. Inside a word, single quotes keep
everything, double quotes keep all but `$`, a backquote and the backslash before one of
`$ ` \ "`, and `$` begins a parameter expansion (`$name`, `$1`, `$?`, `${...}`), a command
substitution `$( )` or an arithmetic expansion `$(( ))`. A word is a reserved word (`if`, `then`,
`{`, …) only where a command may begin and only if no character of it is quoted.

Commands follow the grammar of lists, `&&` and `||`, pipelines with an optional `!`, and simple
or compound commands with redirections. A here-document's body is read from the lines after the
next newline token and put into its redirection once the command is complete.

Errors carry the text after `Syntax error: ` and the line on which they were found: a token where
none of its kind may stand (`"fi" unexpected`, `end of file unexpected (expecting "\x7d")`), an
unterminated quote, `${` or `$((`, a bad `for` variable or function name.
-/

namespace BoardSetup.Shell

/-- Why a script cannot be read: the message, which follows `Syntax error: ` when it is shown,
and the line on which it was found. -/
structure SyntaxError where
  line : Nat
  message : String
  deriving DecidableEq, Repr

/-- A token of a script. -/
inductive Token where
  | eof
  | newline
  | semi
  | amp
  | andIf
  | orIf
  | pipe
  | lparen
  | rparen
  | dsemi
  /-- A redirection operator with the descriptor it redirects. -/
  | redir (fd : Nat) (op : RedirOp)
  | word (w : Word)
  /-- A reserved word, where one is recognized. -/
  | reserved (name : String)

def Token.describe : Token → String
  | .eof => "end of file"
  | .newline => "newline"
  | .semi => "\";\""
  | .amp => "\"&\""
  | .andIf => "\"&&\""
  | .orIf => "\"||\""
  | .pipe => "\"|\""
  | .lparen => "\"(\""
  | .rparen => "\")\""
  | .dsemi => "\";;\""
  | .redir _ _ => "redirection"
  | .word _ => "word"
  | .reserved n => "\"" ++ n ++ "\""

def reservedWords : List String :=
  ["!", "case", "do", "done", "elif", "else", "esac", "fi", "for", "if", "in", "then", "until",
   "while", "\x7b", "\x7d"]

def bytesText (bs : List UInt8) : String :=
  String.ofList (bs.map fun b => Char.ofNat b.toNat)

def Word.plain? : Word → Option (List UInt8)
  | [.text bs] => some bs
  | _ => none

def Token.classify : Token → Token
  | .word w =>
    match w.plain? with
    | some bs => if reservedWords.contains (bytesText bs) then .reserved (bytesText bs) else .word w
    | none => .word w
  | t => t

def Token.endsList : Token → Bool
  | .eof | .rparen | .dsemi => true
  | .reserved n => ["do", "done", "elif", "else", "esac", "fi", "then", "\x7d"].contains n
  | _ => false

def Token.isReserved (t : Token) (n : String) : Bool :=
  match t with
  | .reserved m => m == n
  | _ => false

/-! ## Bytes -/

def isBlankByte (b : UInt8) : Bool := b == 32 || b == 9

def endsWord (b : UInt8) : Bool :=
  isBlankByte b || b == 10 || b == 59 || b == 38 || b == 124 || b == 60 || b == 62 ||
    b == 40 || b == 41

def isDigitAscii (b : UInt8) : Bool := 48 ≤ b && b ≤ 57

def isNameStart (b : UInt8) : Bool := (65 ≤ b && b ≤ 90) || (97 ≤ b && b ≤ 122) || b == 95

def isNameByte (b : UInt8) : Bool := isNameStart b || isDigitAscii b

def isSpecialParam (b : UInt8) : Bool :=
  b == 35 || b == 63 || b == 36 || b == 33 || b == 45 || b == 42 || b == 64 || isDigitAscii b

def isName (bs : List UInt8) : Bool :=
  match bs with
  | b :: rest => isNameStart b && rest.all isNameByte
  | [] => false

/-! ## Words -/

def Word.addText (w : Word) (bs : List UInt8) : Word :=
  match w.getLast? with
  | some (.text old) => w.dropLast ++ [.text (old ++ bs)]
  | _ => w ++ [.text bs]

def Word.addQuoted (w : Word) (bs : List UInt8) : Word :=
  match w.getLast? with
  | some (.quoted old) => w.dropLast ++ [.quoted (old ++ bs)]
  | _ => w ++ [.quoted bs]

/-- Adds the parts of a quoted stretch, or an empty quoted piece when it has none, so that the
word keeps the mark of its quotes. -/
def Word.addQuotedParts (w : Word) (ps : Word) : Word :=
  match ps with
  | [] => w.addQuoted []
  | p :: rest =>
    match p with
    | .quoted bs => (w.addQuoted bs) ++ rest
    | _ => w ++ ps

def Word.hasQuotes (w : Word) : Bool :=
  w.any fun
    | .quoted _ => true
    | _ => false

def Word.unquoted (w : Word) : List UInt8 :=
  w.flatMap fun
    | .text bs | .quoted bs => bs
    | _ => []

/-- A word as an assignment: the name before `=` and the value word after it, when the word
begins with a name and `=` outside quotes. -/
def Word.assignment? (w : Word) : Option (List UInt8 × Word) :=
  match w with
  | .text bs :: rest =>
    let name := bs.takeWhile (· != 61)
    if isName name && name.length < bs.length then
      let value := bs.drop (name.length + 1)
      some (name, if value.isEmpty then rest else .text value :: rest)
    else none
  | _ => none

/-! ## Here-documents in place -/

mutual

def Part.withDocs (docs : List (Nat × Word)) : Part → Part
  | .text bs => .text bs
  | .quoted bs => .quoted bs
  | .param n op w q => .param n op (wordWithDocs docs w) q
  | .command c q => .command (c.withDocs docs) q
  | .arith e q => .arith (wordWithDocs docs e) q

def wordWithDocs (docs : List (Nat × Word)) : List Part → List Part
  | [] => []
  | p :: ps => p.withDocs docs :: wordWithDocs docs ps

def wordsWithDocs (docs : List (Nat × Word)) : List (List Part) → List (List Part)
  | [] => []
  | w :: ws => wordWithDocs docs w :: wordsWithDocs docs ws

def assignsWithDocs (docs : List (Nat × Word)) :
    List (List UInt8 × List Part) → List (List UInt8 × List Part)
  | [] => []
  | (n, w) :: rest => (n, wordWithDocs docs w) :: assignsWithDocs docs rest

def Redir.withDocs (docs : List (Nat × Word)) : Redir → Redir
  | .mk fd (.here id strip) _ => .mk fd (.here id strip) ((docs.lookup id).getD [])
  | .mk fd op w => .mk fd op (wordWithDocs docs w)

def redirsWithDocs (docs : List (Nat × Word)) : List Redir → List Redir
  | [] => []
  | r :: rs => r.withDocs docs :: redirsWithDocs docs rs

def Cmd.withDocs (docs : List (Nat × Word)) : Cmd → Cmd
  | .simple l a w r => .simple l (assignsWithDocs docs a) (wordsWithDocs docs w) (redirsWithDocs docs r)
  | .pipeline n cs => .pipeline n (cmdsWithDocs docs cs)
  | .andThen a b => .andThen (a.withDocs docs) (b.withDocs docs)
  | .orElse a b => .orElse (a.withDocs docs) (b.withDocs docs)
  | .seq a b => .seq (a.withDocs docs) (b.withDocs docs)
  | .background c => .background (c.withDocs docs)
  | .subshell l c r => .subshell l (c.withDocs docs) (redirsWithDocs docs r)
  | .redirected l c r => .redirected l (c.withDocs docs) (redirsWithDocs docs r)
  | .ifThen c t e => .ifThen (c.withDocs docs) (t.withDocs docs) (optWithDocs docs e)
  | .loop n c b => .loop n (c.withDocs docs) (b.withDocs docs)
  | .forEach l n ws b =>
    .forEach l n (match ws with
      | some ws => some (wordsWithDocs docs ws)
      | none => none) (b.withDocs docs)
  | .caseOf l w arms => .caseOf l (wordWithDocs docs w) (armsWithDocs docs arms)
  | .function l n b => .function l n (b.withDocs docs)
  | .empty => .empty

def cmdsWithDocs (docs : List (Nat × Word)) : List Cmd → List Cmd
  | [] => []
  | c :: cs => c.withDocs docs :: cmdsWithDocs docs cs

def optWithDocs (docs : List (Nat × Word)) : Option Cmd → Option Cmd
  | some c => some (c.withDocs docs)
  | none => none

def armsWithDocs (docs : List (Nat × Word)) :
    List (List (List Part) × Cmd) → List (List (List Part) × Cmd)
  | [] => []
  | (ps, c) :: rest => (wordsWithDocs docs ps, c.withDocs docs) :: armsWithDocs docs rest

end

/-! ## The reader -/

/-- A here-document announced on the current line: read after its next newline. -/
structure PendingDoc where
  id : Nat
  delim : List UInt8
  literal : Bool
  stripTabs : Bool
  deriving DecidableEq, Repr

/-- The text left to read, the line it is on, a token read and given back, the here-documents
waiting for their bodies, the bodies read, and the number of the next here-document; with the
aliases defined, those whose text is being read (each with the length of what is left to read
after it), the ends of alias texts that end in a blank, and where the last token began, each
place counted as the length of the text left from it. -/
structure Source where
  rest : List UInt8
  line : Nat := 1
  back : Option Token := none
  pending : List PendingDoc := []
  docs : List (Nat × Word) := []
  nextDoc : Nat := 0
  aliases : List (List UInt8 × List UInt8) := []
  busy : List (List UInt8 × Nat) := []
  blankEnds : List Nat := []
  tokenStart : Nat := 0

/-- A step of reading: a value, or a syntax error. -/
abbrev Reader := StateT Source (Except SyntaxError)

namespace Reader

def fail {α : Type} (msg : String) : Reader α := do
  throw ⟨(← get).line, msg⟩

def unexpected {α : Type} (t : Token) (expecting : Option Token) : Reader α :=
  fail (t.describe ++ " unexpected" ++
    (match expecting with
     | some e => " (expecting " ++ e.describe ++ ")"
     | none => ""))

def skipJoins : List UInt8 → Nat → List UInt8 × Nat
  | 92 :: 10 :: r, n => skipJoins r (n + 1)
  | r, n => (r, n)

def dropJoins : Reader Unit :=
  modify fun s => let (r, n) := skipJoins s.rest s.line; { s with rest := r, line := n }

def peek : Reader (Option UInt8) := do
  return (← get).rest.head?

def take : Reader (Option UInt8) := do
  let s ← get
  match s.rest with
  | [] => return none
  | b :: r =>
    set { s with rest := r, line := if b == 10 then s.line + 1 else s.line }
    return some b

def peekJoined : Reader (Option UInt8) := do
  dropJoins
  peek

def takeJoined : Reader (Option UInt8) := do
  dropJoins
  take

def untake (b : UInt8) : Reader Unit :=
  modify fun s => { s with rest := b :: s.rest, line := if b == 10 then s.line - 1 else s.line }

def pushBack (t : Token) : Reader Unit :=
  modify fun s => { s with back := some t }

def takeWhileJoined (p : UInt8 → Bool) : Nat → Reader (List UInt8)
  | 0 => return []
  | n + 1 => do
    match ← peekJoined with
    | some b =>
      if p b then
        let _ ← take
        return b :: (← takeWhileJoined p n)
      else return []
    | none => return []

def singleQuoted : Nat → Reader (List UInt8)
  | 0 => return []
  | n + 1 => do
    match ← take with
    | none => fail "Unterminated quoted string"
    | some 39 => return []
    | some b => return b :: (← singleQuoted n)

def skipComment : Nat → Reader Unit
  | 0 => return
  | n + 1 => do
    match ← peek with
    | none | some 10 => return
    | some _ =>
      let _ ← take
      skipComment n

def hereLine : Nat → Reader (List UInt8 × Bool)
  | 0 => return ([], false)
  | n + 1 => do
    match ← take with
    | none => return ([], false)
    | some 10 => return ([], true)
    | some b =>
      let (rest, nl) ← hereLine n
      return (b :: rest, nl)

def endsInJoin (line : List UInt8) : Bool :=
  (line.reverse.takeWhile (· == 92)).length % 2 == 1

/-- The body of a here-document up to the line that is its delimiter, leading tabs stripped
when asked; the end of the text ends it too. When the body is expanded (`joins`), a line that
ends in a backslash goes on on the next one, which is then no line of its own: it is never the
delimiter and keeps its tabs. `fresh` says whether a line of its own starts here. -/
def hereText (delim : List UInt8) (strip joins : Bool) : Nat → Bool → Reader (List UInt8)
  | 0, _ => return []
  | n + 1, fresh => do
    if (← get).rest.isEmpty then return []
    let (line, nl) ← hereLine ((← get).rest.length + 1)
    let line := if strip && fresh then line.dropWhile (· == 9) else line
    if fresh && line == delim then return []
    let rest ← hereText delim strip joins n !(joins && nl && endsInJoin line)
    return line ++ (if nl then [10] else []) ++ rest

def redirOp (first : UInt8) (fd : Option Nat) : Reader Token := do
  if first == 62 then
    let fd := fd.getD 1
    match ← peekJoined with
    | some 62 => let _ ← take; return .redir fd .append
    | some 124 => let _ ← take; return .redir fd .clobber
    | some 38 => let _ ← take; return .redir fd .copyOutput
    | _ => return .redir fd .output
  else
    let fd := fd.getD 0
    match ← peekJoined with
    | some 60 =>
      let _ ← take
      match ← peekJoined with
      | some 45 => let _ ← take; return .redir fd (.here 0 true)
      | _ => return .redir fd (.here 0 false)
    | some 38 => let _ ← take; return .redir fd .copyInput
    | some 62 => let _ ← take; return .redir fd .readWrite
    | _ => return .redir fd .input

end Reader

/-- Where a word being read stands, which decides what ends it and what its characters mean. -/
inductive WordMode where
  /-- A word of a command, ended by a blank, a newline or an operator character. -/
  | plain
  /-- The word after `<<`, where `$` and backquotes stand for themselves. -/
  | delimiter
  /-- Inside double quotes, ended by `"`. -/
  | dquote
  /-- The word of `${name op word}`, ended by `}`; `inQuotes` when the expansion stands inside
  double quotes, where its plain text is kept as text so that a trimming pattern can use it, and
  the expansion quotes it otherwise. -/
  | braced (inQuotes : Bool)
  /-- The expression of `$(( ))`, ended by `))` outside inner parentheses; quote characters
  stand for themselves there. -/
  | arith (depth : Nat)
  /-- The body of a here-document whose delimiter was not quoted. -/
  | hereBody
  deriving DecidableEq, Repr

/-- Whether a list ends at a newline (the script's top level), may be empty (a `case` arm and a
command substitution), or is a compound command's body. -/
inductive ListKind where
  | top
  | body
  | arm
  deriving DecidableEq, Repr

def specialBuiltinNames : List String :=
  [".", ":", "break", "continue", "eval", "exec", "exit", "export", "readonly", "return", "set",
   "shift", "times", "trap", "unset", "local"]

open Reader in
mutual

def readWord : Nat → WordMode → Word → Reader Word
  | 0, _, acc => return acc
  | fuel + 1, mode, acc => do
    dropJoins
    match ← peek with
    | none =>
      match mode with
      | .plain | .delimiter | .hereBody => return acc
      | .dquote => fail "Unterminated quoted string"
      | .braced q => fail (if q then "Unterminated quoted string" else "Missing '\x7d'")
      | .arith _ => fail "Missing '))'"
    | some b =>
      match mode with
      | .plain | .delimiter =>
        if endsWord b then return acc
        let _ ← take
        let acc ← bareByte fuel mode b acc
        readWord fuel mode acc
      | .braced false =>
        let _ ← take
        if b == 125 then return acc
        let acc ← bareByte fuel mode b acc
        readWord fuel mode acc
      | .arith depth =>
        let _ ← take
        if b == 40 then readWord fuel (.arith (depth + 1)) (acc.addText [b])
        else if b == 41 then
          if depth > 0 then readWord fuel (.arith (depth - 1)) (acc.addText [b])
          else
            match ← peekJoined with
            | some 41 => let _ ← take; return acc
            | _ => readWord fuel mode (acc.addText [b])
        else if b == 34 || b == 39 then readWord fuel mode (acc.addText [b])
        else
          let acc ← bareByte fuel mode b acc
          readWord fuel mode acc
      | .dquote =>
        let _ ← take
        if b == 34 then return acc
        let acc ← quotedByte fuel mode b acc
        readWord fuel mode acc
      | .braced true =>
        let _ ← take
        if b == 125 then return acc
        if b == 34 then
          let inner ← readWord fuel .dquote []
          readWord fuel mode (acc.addQuotedParts inner)
        else
          let acc ← quotedByte fuel mode b acc
          readWord fuel mode acc
      | .hereBody =>
        let _ ← take
        let acc ← quotedByte fuel mode b acc
        readWord fuel mode acc

def bareByte : Nat → WordMode → UInt8 → Word → Reader Word
  | 0, _, _, acc => return acc
  | fuel + 1, mode, b, acc => do
    if b == 92 then
      match ← take with
      | none => return acc.addQuoted [92]
      | some c => return acc.addQuoted [c]
    else if b == 39 then
      let bs ← singleQuoted ((← get).rest.length + 1)
      return acc.addQuoted bs
    else if b == 34 then
      let inner ← readWord fuel .dquote []
      return acc.addQuotedParts inner
    else if b == 36 && mode != .delimiter then
      let parts ← dollar fuel false
      return parts.foldl (fun w p =>
        match p with
        | .text bs => w.addText bs
        | _ => w ++ [p]) acc
    else if b == 96 && mode != .delimiter then
      let p ← backquote fuel false
      return acc ++ [p]
    else return acc.addText [b]

def quotedByte : Nat → WordMode → UInt8 → Word → Reader Word
  | 0, _, _, acc => return acc
  | fuel + 1, mode, b, acc => do
    if b == 92 then
      match ← take with
      | none => return acc.addQuoted [92]
      | some c =>
        let escapes := c == 92 || c == 96 || c == 36 || (c == 34 && mode != .hereBody) ||
          (c == 125 && mode == .braced true)
        if escapes then return acc.addQuoted [c] else return acc.addQuoted [92, c]
    else if b == 36 then
      let parts ← dollar fuel true
      return parts.foldl (fun w p =>
        match p with
        | .quoted bs => w.addQuoted bs
        | _ => w ++ [p]) acc
    else if b == 96 then
      let p ← backquote fuel true
      return acc ++ [p]
    else if mode == .braced true then return acc.addText [b]
    else return acc.addQuoted [b]

def dollar : Nat → Bool → Reader Word
  | 0, _ => return []
  | fuel + 1, q => do
    let lit : Word := if q then [.quoted [36]] else [.text [36]]
    match ← peekJoined with
    | some 123 =>
      let _ ← take
      braced fuel q
    | some 40 =>
      let _ ← take
      match ← peekJoined with
      | some 40 =>
        let _ ← take
        let e ← readWord fuel (.arith 0) []
        return [.arith e q]
      | _ =>
        let body ← substitution fuel
        return [.command body q]
    | some b =>
      if isNameStart b then
        let name ← takeWhileJoined isNameByte ((← get).rest.length + 1)
        return [.param name .value [] q]
      else if isSpecialParam b then
        let _ ← take
        return [.param [b] .value [] q]
      else return lit
    | none => return lit

def braced : Nat → Bool → Reader Word
  | 0, _ => return []
  | fuel + 1, q => do
    let bad := fun (name : List UInt8) => do
      let w ← readWord fuel (.braced q) []
      return ([.param name .bad w q] : Word)
    match ← takeJoined with
    | none => bad []
    | some c =>
      if isNameStart c then
        let rest ← takeWhileJoined isNameByte ((← get).rest.length + 1)
        operator fuel q (c :: rest) false
      else if isDigitAscii c then
        let rest ← takeWhileJoined isDigitAscii ((← get).rest.length + 1)
        operator fuel q (c :: rest) false
      else if c == 125 then
        untake c
        bad []
      else if c == 35 then
        match ← peekJoined with
        | some d =>
          if isNameByte d then
            let _ ← take
            let rest ← takeWhileJoined (if isDigitAscii d then isDigitAscii else isNameByte)
              ((← get).rest.length + 1)
            operator fuel q (d :: rest) true
          else
            let _ ← take
            match ← peekJoined with
            | some 125 =>
              if d == 125 then
                -- `${#}` is the count of parameters; the second brace stands for itself
                untake d
                operator fuel q [35] false
              else if isSpecialParam d then operator fuel q [d] true
              else bad []
            | _ =>
              untake d
              operator fuel q [35] false
        | none => operator fuel q [35] false
      else if isSpecialParam c then operator fuel q [c] false
      else
        untake c
        bad []

def operator : Nat → Bool → List UInt8 → Bool → Reader Word
  | 0, _, _, _ => return []
  | fuel + 1, q, name, isLength => do
    let withWord := fun (op : ParamOp) => do
      -- a trimming pattern is read as outside double quotes, wherever the expansion stands
      let w ← readWord fuel (.braced (q && !op.isPattern)) []
      return ([.param name op w q] : Word)
    match ← takeJoined with
    | some 125 => return [.param name (if isLength then .length else .value) [] q]
    | none => withWord .bad
    | some c =>
      if isLength then
        untake c
        withWord .bad
      else if c == 58 then
        match ← takeJoined with
        | some 45 => withWord (.orDefault true)
        | some 61 => withWord (.orAssign true)
        | some 63 => withWord (.orError true)
        | some 43 => withWord (.ifSet true)
        | _ => withWord .bad
      else if c == 45 then withWord (.orDefault false)
      else if c == 61 then withWord (.orAssign false)
      else if c == 63 then withWord (.orError false)
      else if c == 43 then withWord (.ifSet false)
      else if c == 35 || c == 37 then
        let longest ← do
          match ← peekJoined with
          | some d => if d == c then let _ ← take; pure true else pure false
          | none => pure false
        withWord (if c == 35 then .dropPrefix longest else .dropSuffix longest)
      else withWord .bad

def backquote : Nat → Bool → Reader Part
  | 0, _ => return .command .empty false
  | fuel + 1, q => do
    let text ← backquoteText fuel q
    let s ← get
    let sub : Source := { rest := text, line := s.line, nextDoc := s.nextDoc }
    match (readList fuel .arm).run sub with
    | .error e => throw e
    | .ok (body, sub') =>
      set { s with nextDoc := sub'.nextDoc }
      return .command (body.withDocs sub'.docs) q

/-- The text between backquotes, with the backslashes before `\`, a backquote and `$` (and `"`
inside double quotes) removed. -/
def backquoteText : Nat → Bool → Reader (List UInt8)
  | 0, _ => return []
  | fuel + 1, q => do
    match ← takeJoined with
    | none => fail "EOF in backquote substitution"
    | some 96 => return []
    | some 92 =>
      match ← take with
      | none => fail "EOF in backquote substitution"
      | some c =>
        let keep := c != 92 && c != 96 && c != 36 && !(q && c == 34)
        let rest ← backquoteText fuel q
        return (if keep then [92, c] else [c]) ++ rest
    | some b => return b :: (← backquoteText fuel q)

def substitution : Nat → Reader Cmd
  | 0 => return .empty
  | fuel + 1 => do
    let body ← readList fuel .arm
    let t ← readToken fuel false false false
    match t with
    | .rparen => return body
    | _ => unexpected t (some .rparen)

def readDocs : Nat → Reader Unit
  | 0 => return
  | fuel + 1 => do
    let s ← get
    match s.pending with
    | [] => return
    | d :: rest =>
      set { s with pending := rest }
      let startLine := s.line
      let text ← hereText d.delim d.stripTabs (!d.literal) ((← get).rest.length + 1) true
      let body ← if d.literal then pure [Part.quoted text] else do
        let s ← get
        let sub : Source := { rest := text, line := startLine, nextDoc := s.nextDoc }
        match (readWord fuel .hereBody []).run sub with
        | .error e => throw e
        | .ok (w, sub) =>
          set { s with nextDoc := sub.nextDoc }
          pure (wordWithDocs sub.docs w)
      modify fun s => { s with docs := s.docs ++ [(d.id, body)] }
      readDocs fuel

def lexToken : Nat → Bool → Reader Token
  | 0, _ => return .eof
  | fuel + 1, delim => do
    dropJoins
    modify fun s => { s with tokenStart := s.rest.length }
    match ← peek with
    | none =>
      readDocs fuel
      return .eof
    | some b =>
      if isBlankByte b then
        let _ ← take
        lexToken fuel delim
      else if b == 35 then
        skipComment ((← get).rest.length + 1)
        lexToken fuel delim
      else if b == 10 then
        let _ ← take
        readDocs fuel
        return .newline
      else if b == 38 then
        let _ ← take
        match ← peekJoined with
        | some 38 => let _ ← take; return .andIf
        | _ => return .amp
      else if b == 124 then
        let _ ← take
        match ← peekJoined with
        | some 124 => let _ ← take; return .orIf
        | _ => return .pipe
      else if b == 59 then
        let _ ← take
        match ← peekJoined with
        | some 59 => let _ ← take; return .dsemi
        | _ => return .semi
      else if b == 40 then
        let _ ← take
        return .lparen
      else if b == 41 then
        let _ ← take
        return .rparen
      else
        let w ← readWord fuel (if delim then .delimiter else .plain) []
        match ← peekJoined with
        | some c =>
          if c == 60 || c == 62 then
            match w with
            | [] => let _ ← take; redirOp c none
            | [.text [d]] =>
              if isDigitAscii d then
                let _ ← take
                redirOp c (some (d.toNat - 48))
              else return .word w
            | _ => return .word w
          else return .word w
        | none => return .word w

def skipNewlines : Nat → Token → Reader Token
  | 0, t => return t
  | fuel + 1, t =>
    match t with
    | .newline => do skipNewlines fuel (← lexToken fuel false)
    | _ => return t

/-- Reads a token: the one given back, if any, else the next one; newlines skipped when asked,
and a word recognized as a reserved word when it stands where one may. A word read afresh that
names an alias, where one may stand or right after the text of an alias that ends in a blank,
is replaced by the alias's text, unless it is a reserved word there or lies in the text of that
same alias, which keeps an alias from standing for itself. -/
def readToken : Nat → Bool → Bool → Bool → Reader Token
  | 0, _, _, _ => return .eof
  | fuel + 1, reserved, aliasable, skipNl => do
    let s ← get
    match s.back with
    | some t =>
      set { s with back := none }
      let t ← if skipNl then skipNewlines fuel t else pure t
      return if reserved then t.classify else t
    | none =>
      let t ← lexToken fuel false
      let t ← if skipNl then skipNewlines fuel t else pure t
      let t := if reserved then t.classify else t
      let s ← get
      let start := s.tokenStart
      let afterBlank := s.blankEnds.any (start ≤ ·)
      let busy := s.busy.filter (·.2 < start)
      set { s with blankEnds := s.blankEnds.filter (· < start), busy }
      let name? := match t with
        | .word w => if aliasable || afterBlank then w.plain? else none
        | _ => none
      match name? with
      | none => return t
      | some name =>
        match s.aliases.lookup name with
        | none => return t
        | some text =>
          if busy.any (·.1 == name) then return t
          let here := s.rest.length
          let blankEnd := text.getLast? == some 32 || text.getLast? == some 9
          modify fun s => { s with rest := text ++ s.rest, busy := (name, here) :: s.busy }
          if blankEnd then modify fun s => { s with blankEnds := here :: s.blankEnds }
          readToken fuel reserved aliasable skipNl

def readList : Nat → ListKind → Reader Cmd
  | 0, _ => return .empty
  | fuel + 1, kind => listFrom fuel kind none true

def listFrom : Nat → ListKind → Option Cmd → Bool → Reader Cmd
  | 0, _, acc, _ => return acc.getD .empty
  | fuel + 1, kind, acc, first => do
    let t ← readToken fuel true true (kind != .top)
    match t with
    | .newline => return acc.getD .empty
    | .eof =>
      pushBack .eof
      return acc.getD .empty
    | _ =>
      pushBack t
      if (kind == .arm || (kind == .body && !first)) && t.endsList then
        return acc.getD .empty
      let c ← andOr fuel false
      let t2 ← readToken fuel false false false
      let c := match t2 with
        | .amp => Cmd.background c
        | _ => c
      let acc := some (match acc with
        | some a => Cmd.seq a c
        | none => c)
      match t2 with
      | .eof =>
        pushBack .eof
        return acc.getD .empty
      | .newline =>
        pushBack .newline
        listFrom fuel kind acc false
      | .amp | .semi => listFrom fuel kind acc false
      | _ =>
        if kind == .top then unexpected t2 none
        pushBack t2
        return acc.getD .empty

def andOr : Nat → Bool → Reader Cmd
  | 0, _ => return .empty
  | fuel + 1, skipNl => do
    let first ← pipeline fuel skipNl
    andOrFrom fuel first

def andOrFrom : Nat → Cmd → Reader Cmd
  | 0, acc => return acc
  | fuel + 1, acc => do
    let t ← readToken fuel false false false
    match t with
    | .andIf =>
      let next ← pipeline fuel true
      andOrFrom fuel (.andThen acc next)
    | .orIf =>
      let next ← pipeline fuel true
      andOrFrom fuel (.orElse acc next)
    | _ =>
      pushBack t
      return acc

def pipeline : Nat → Bool → Reader Cmd
  | 0, _ => return .empty
  | fuel + 1, skipNl => do
    let t ← readToken fuel true true skipNl
    let negate := t.isReserved "!"
    if !negate then pushBack t
    let first ← command fuel false
    let t ← readToken fuel false false false
    match t with
    | .pipe =>
      let rest ← pipeStages fuel
      return .pipeline negate (first :: rest)
    | _ =>
      pushBack t
      return if negate then .pipeline true [first] else first

def pipeStages : Nat → Reader (List Cmd)
  | 0 => return []
  | fuel + 1 => do
    let c ← command fuel true
    let t ← readToken fuel false false false
    match t with
    | .pipe => return c :: (← pipeStages fuel)
    | _ =>
      pushBack t
      return [c]

def expect : Nat → Token → Reader Unit
  | 0, _ => return
  | fuel + 1, want => do
    let t ← readToken fuel true true false
    let ok := match t, want with
      | .reserved a, .reserved b => a == b
      | .rparen, .rparen => true
      | .dsemi, .dsemi => true
      | _, _ => false
    if !ok then unexpected t (some want)

def command : Nat → Bool → Reader Cmd
  | 0, _ => return .empty
  | fuel + 1, skipNl => do
    let line := (← get).line
    let t ← readToken fuel true true skipNl
    match t with
    | .reserved "if" =>
      let c ← readList fuel .body
      expect fuel (.reserved "then")
      let body ← readList fuel .body
      let rest ← elseParts fuel
      expect fuel (.reserved "fi")
      redirected fuel line (.ifThen c body rest)
    | .reserved "while" =>
      let c ← readList fuel .body
      expect fuel (.reserved "do")
      let body ← readList fuel .body
      expect fuel (.reserved "done")
      redirected fuel line (.loop false c body)
    | .reserved "until" =>
      let c ← readList fuel .body
      expect fuel (.reserved "do")
      let body ← readList fuel .body
      expect fuel (.reserved "done")
      redirected fuel line (.loop true c body)
    | .reserved "for" =>
      let name ← match ← readToken fuel false false false with
        | .word w =>
          match w.plain? with
          | some n => if isName n then pure n else fail "Bad for loop variable"
          | none => fail "Bad for loop variable"
        | _ => fail "Bad for loop variable"
      let t ← readToken fuel true true true
      let items ← if t.isReserved "in" then do
          let ws ← forWords fuel
          pure (some ws)
        else do
          match t with
          | .semi => pure ()
          | _ => pushBack t
          pure none
      let t ← readToken fuel true true true
      if !t.isReserved "do" then unexpected t (some (.reserved "do"))
      let body ← readList fuel .body
      expect fuel (.reserved "done")
      redirected fuel line (.forEach line name items body)
    | .reserved "case" =>
      let subject ← match ← readToken fuel false false false with
        | .word w => pure w
        | t => unexpected t (some (.word []))
      let t ← readToken fuel true false true
      if !t.isReserved "in" then unexpected t (some (.reserved "in"))
      let arms ← caseArms fuel
      redirected fuel line (.caseOf line subject arms)
    | .lparen =>
      let body ← readList fuel .body
      expect fuel .rparen
      let rs ← redirections fuel
      return .subshell line body rs
    | .reserved "\x7b" =>
      let body ← readList fuel .body
      expect fuel (.reserved "\x7d")
      redirected fuel line body
    | .word _ | .redir _ _ =>
      pushBack t
      simple fuel
    | _ => unexpected t none

def elseParts : Nat → Reader (Option Cmd)
  | 0 => return none
  | fuel + 1 => do
    let t ← readToken fuel true true false
    if t.isReserved "elif" then
      let c ← readList fuel .body
      expect fuel (.reserved "then")
      let body ← readList fuel .body
      let rest ← elseParts fuel
      return some (.ifThen c body rest)
    else if t.isReserved "else" then
      return some (← readList fuel .body)
    else
      pushBack t
      return none

def forWords : Nat → Reader (List Word)
  | 0 => return []
  | fuel + 1 => do
    let t ← readToken fuel false false false
    match t with
    | .word w => return w :: (← forWords fuel)
    | .newline | .semi => return []
    | _ => unexpected t none

def caseArms : Nat → Reader (List (List Word × Cmd))
  | 0 => return []
  | fuel + 1 => do
    let t ← readToken fuel true false true
    if t.isReserved "esac" then return []
    let t ← match t with
      | .lparen => readToken fuel false false false
      | _ => pure t
    let pats ← patterns fuel t
    let body ← readList fuel .arm
    let t ← readToken fuel true false true
    if t.isReserved "esac" then return [(pats, body)]
    match t with
    | .dsemi => return (pats, body) :: (← caseArms fuel)
    | _ => unexpected t (some .dsemi)

/-- Reads the patterns of a `case` arm, from its first token, with the closing `)`. A token that
is no word stands for the empty pattern, and the token after it must still be `|` or `)`. -/
def patterns : Nat → Token → Reader (List Word)
  | 0, _ => return []
  | fuel + 1, t => do
    let pat ← match t with
      | .word w => pure w
      | .reserved n => pure (Word.ofBytes n.toUTF8.toList)
      | _ => pure (Word.ofBytes [])
    let t2 ← readToken fuel false false false
    match t2 with
    | .pipe =>
      let t3 ← readToken fuel false false false
      return pat :: (← patterns fuel t3)
    | .rparen => return [pat]
    | _ => unexpected t2 (some .rparen)

def redirections : Nat → Reader (List Redir)
  | 0 => return []
  | fuel + 1 => do
    let t ← readToken fuel true true false
    match t with
    | .redir fd op =>
      let r ← redirTarget fuel fd op
      return r :: (← redirections fuel)
    | _ =>
      pushBack t
      return []

def redirected : Nat → Nat → Cmd → Reader Cmd
  | 0, _, c => return c
  | fuel + 1, line, c => do
    let rs ← redirections fuel
    return if rs.isEmpty then c else .redirected line c rs

/-- Reads the target of a redirection: a file name, a descriptor, or for a here-document the
word that ends it. -/
def redirTarget : Nat → Nat → RedirOp → Reader Redir
  | 0, fd, op => return .mk fd op []
  | fuel + 1, fd, op => do
    match op with
    | .here _ strip =>
      let t ← lexToken fuel true
      match t with
      | .word w =>
        let s ← get
        let doc : PendingDoc := ⟨s.nextDoc, w.unquoted, w.hasQuotes, strip⟩
        set { s with nextDoc := s.nextDoc + 1, pending := s.pending ++ [doc] }
        return .mk fd (.here s.nextDoc strip) []
      | _ => unexpected t none
    | _ =>
      let t ← readToken fuel false false false
      match t with
      | .word w => return .mk fd op w
      | _ => unexpected t none

def simple : Nat → Reader Cmd
  | 0 => return .empty
  | fuel + 1 => do
    let line := (← get).line
    simpleFrom fuel line [] [] [] true

def simpleFrom : Nat → Nat → List (List UInt8 × Word) → List Word → List Redir → Bool →
    Reader Cmd
  | 0, line, a, w, r, _ => return .simple line a w r
  | fuel + 1, line, assigns, words, redirs, assigning => do
    let t ← readToken fuel false assigning false
    match t with
    | .word w =>
      match (if assigning then w.assignment? else none) with
      | some a => simpleFrom fuel line (assigns ++ [a]) words redirs true
      | none => simpleFrom fuel line assigns (words ++ [w]) redirs false
    | .redir fd op =>
      let r ← redirTarget fuel fd op
      simpleFrom fuel line assigns words (redirs ++ [r]) assigning
    | .lparen =>
      match words, assigns, redirs with
      | [w], [], [] =>
        let t2 ← readToken fuel false false false
        match t2 with
        | .rparen => pure ()
        | _ => unexpected t2 (some .rparen)
        let name ← match w.plain? with
          | some n =>
            if isName n && !specialBuiltinNames.contains (bytesText n) then pure n
            else fail "Bad function name"
          | none => fail "Bad function name"
        let bodyLine := (← get).line
        let body ← command fuel true
        return .function bodyLine name body
      | _, _, _ =>
        pushBack t
        return .simple line assigns words redirs
    | _ =>
      pushBack t
      return .simple line assigns words redirs

end

/-- A prompt's text read as the shell reads it before expanding it: as the body of a
here-document, where parameters, command substitutions and arithmetic are expanded. -/
def promptWord (text : List UInt8) : Except SyntaxError Word :=
  match (readWord (16 * (text.length + 16)) .hereBody []).run { rest := text } with
  | .ok (w, _) => .ok w
  | .error e => .error e

/-- What reading the next command of a script gives: the end of the script, or a command. -/
inductive Step where
  | done
  | run (c : Cmd)

namespace Source

/-- A source for a script's text. -/
def ofBytes (bs : List UInt8) : Source := { rest := bs }

/-- Reads the next complete command of a script, with its here-documents in place, under the
aliases defined. -/
def next (aliases : List (List UInt8 × List UInt8)) (s : Source) :
    Except SyntaxError (Step × Source) :=
  let fuel := 16 * (s.rest.length + 16) * ((aliases.map (·.2.length + 1)).sum + 1)
  match (readList fuel .top).run { s with docs := [], aliases } with
  | .error e => .error e
  | .ok (c, s') =>
    match c, s'.back with
    | .empty, some .eof => .ok (.done, s')
    | c, _ => .ok (.run (c.withDocs s'.docs), s')

end Source

end BoardSetup.Shell

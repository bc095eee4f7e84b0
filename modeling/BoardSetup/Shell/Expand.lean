import BoardSetup.Shell.State
import BoardSetup.Shell.Arith
import BoardSetup.Shell.Glob
import BoardSetup.Shell.Parser

/-!
# Expanding words

A word becomes fields in four steps. Tilde expansion replaces a leading `~` by `HOME` and
`~name` by the home directory of that account; in an assignment, a `~` after a `:` expands too.
Parameter expansion, command substitution and arithmetic expansion replace each expansion by its
text. Field splitting cuts the text that came from expansions outside double quotes at the
bytes of `IFS`: a run of blank separators (space, tab, newline) counts once and is dropped at the
ends of a field, while every other separator ends a field, empty or not. The word of `${x-w}`
and the like counts as text from an expansion, so its unquoted text is split too. Pathname
expansion then replaces a field with a pattern by the file names it matches. A word that comes
to nothing, with no quotes in it, gives no field; `"$@"` gives one field for each positional
parameter.

Expansions run commands (command substitution), so the expander takes the runner of a command
substitution from the evaluator, which also counts the steps it may take.

Parameters are the positional ones (`$1`, `${10}`), the special ones (`$#`, `$?`, `$$`, `$!`,
`$-`, `$0`, `$@`, `$*`) and variables. The errors are those of `${x?}`, of an unset parameter
with `set -u`, of `${` forms the shell does not know, and of arithmetic.
-/

namespace BoardSetup.Shell

/-- A piece of an expanded word. -/
inductive Chunk where
  /-- Bytes: quoted ones stand for themselves; those that came from an expansion outside quotes
  are split at field separators. -/
  | bytes (bs : Bytes) (quoted : Bool) (split : Bool)
  /-- The end of a field between positional parameters, kept even when empty inside quotes. -/
  | fieldBreak (keepEmpty : Bool)
  deriving DecidableEq, Repr

/-- The value of a parameter. -/
inductive ParamValue where
  | unset
  | text (bs : Bytes)
  /-- The positional parameters, as `$@` (`atSign`) or `$*`. -/
  | params (items : List Bytes) (atSign : Bool)
  deriving DecidableEq, Repr

def ParamValue.present (v : ParamValue) (colon : Bool) : Bool :=
  match v with
  | .unset => false
  | .text bs => !colon || !bs.isEmpty
  | .params items _ => !items.isEmpty && (!colon || items.any (!·.isEmpty))

/-- The positional parameters with a pattern trimmed off, when the shell joins them with a NUL
byte between each two and then trims the joined string with searches that stop at the first NUL
they meet. A prefix is then looked for in the first parameter alone, and a longest one that is
all of it takes every parameter away. A longest suffix is looked for in the first parameter
too, and when one is found the parameters after it go. A shortest suffix is looked for in the
last parameter and then in the ones before it, and the parameters after the one it is found in
go. -/
def trimFields (p : Pattern) (fromFront longest : Bool) : List Bytes → List Bytes
  | [] => []
  | first :: rest =>
    if fromFront then
      if longest && p.matches first then [[]]
      else dropPrefixMatch p longest first :: rest
    else if longest then
      if rest.isEmpty || (List.range (first.length + 1)).any (fun k => p.matches (first.drop k))
      then [dropSuffixMatch p true first]
      else first :: rest
    else
      let hasSuffix := fun (item : Bytes) =>
        (List.range (item.length + 1)).any fun k => p.matches (item.drop k)
      let items := first :: rest
      match (List.range items.length).reverse.find? (fun k => hasSuffix (items.getD k [])) with
      | some k => items.take k ++ [dropSuffixMatch p false (items.getD k [])]
      | none => items

def optionLetters (o : Options) : Bytes :=
  utf8 (String.ofList o.letters)

/-- The separator that joins positional parameters in `"$*"`: the first byte of `IFS`, a blank
when `IFS` is unset, none when it is empty. -/
def joinSeparator : Run Bytes := do
  match ← Run.value? (utf8 "IFS") with
  | none => return [32]
  | some v => return v.take 1

def dropTrailingNewlines (bs : Bytes) : Bytes :=
  (bs.reverse.dropWhile (· == 10)).reverse

namespace Expand

def paramValue (name : Bytes) : Run ParamValue := do
  let p ← Run.proc
  match name with
  | [64] => return .params p.params true
  | [42] => return .params p.params false
  | [35] => return .text (Run.numberText p.params.length)
  | [63] => return .text (Run.numberText p.status)
  | [36] => return .text (Run.numberText p.pid)
  | [33] => return match p.lastJob with
    | some j => .text (Run.numberText j)
    | none => .unset
  | [45] => return .text (optionLetters p.opts)
  | [48] => return .text p.arg0
  | _ =>
    if name.all isDigitAscii && !name.isEmpty then
      let n := name.foldl (fun acc b => acc * 10 + (b.toNat - 48)) 0
      if n == 0 then return .text p.arg0
      return match p.params[n - 1]? with
        | some v => .text v
        | none => .unset
    else
      return match (← Run.var? name).bind (·.value) with
        | some bs => .text bs
        | none => .unset

def valueChunks (v : ParamValue) (q : Bool) : Run (List Chunk) := do
  match v with
  | .unset => return if q then [.bytes [] true false] else []
  | .text bs => return [.bytes bs q (!q)]
  | .params items atSign =>
    if q && !atSign then
      let sep ← joinSeparator
      return [.bytes (sep.intercalate items) true false]
    else
      return [Chunk.fieldBreak q].intercalate (items.map fun i => [Chunk.bytes i q (!q)])

/-- A parameter's value with a pattern trimmed off its start or end. The positional parameters
are joined with NUL bytes inside double quotes as `$@`, and outside them while `IFS` is set;
otherwise they are joined into one string as `$*` joins them, and that string is trimmed. -/
def trimValue (v : ParamValue) (q : Bool) (pat : Pattern) (fromFront longest : Bool) :
    Run ParamValue := do
  let cut := if fromFront then dropPrefixMatch pat longest else dropSuffixMatch pat longest
  match v with
  | .unset => return .text (cut [])
  | .text bs => return .text (cut bs)
  | .params items atSign =>
    let ifsSet := (← Run.value? (utf8 "IFS")).isSome
    if (q && atSign) || (!q && ifsSet) then
      return .params (trimFields pat fromFront longest items) atSign
    else return .text (cut ((← joinSeparator).intercalate items))

def valueBytes (v : ParamValue) : Run Bytes := do
  match v with
  | .unset => return []
  | .text bs => return bs
  | .params items _ => return (← joinSeparator).intercalate items

def arith (expr : Bytes) : Run Bytes := do
  let p ← Run.proc
  let lookup := fun (n : Bytes) => (p.vars.lookup n).bind (·.value)
  let readOnly := fun (n : Bytes) => match p.vars.lookup n with
    | some v => v.readOnly
    | none => false
  let quotedExpr := [34] ++ expr ++ [34]
  match evalArith expr lookup readOnly with
  | .ok (v, assigned) =>
    for (n, val) in assigned.reverse do
      Run.assign n val
    return decimalBytes v
  | .error (.expecting what) =>
    Run.fail (utf8 ("arithmetic expression: expecting " ++ what ++ ": ") ++ quotedExpr)
  | .error .divisionByZero =>
    Run.fail (utf8 "arithmetic expression: division by zero: " ++ quotedExpr)
  | .error (.illegalNumber t) => Run.fail (utf8 "Illegal number: " ++ t)
  | .error (.readOnly n) => Run.fail (n ++ utf8 ": is read only")
  | .error .overflowTrap => throw (.signal 8)

def joinChunks (cs : List Chunk) : Run Bytes := do
  let sep ← joinSeparator
  return cs.flatMap fun
    | .bytes bs _ _ => bs
    | .fieldBreak _ => sep

def chunksPattern (cs : List Chunk) : Pattern :=
  cs.flatMap fun
    | .bytes bs q _ => bs.map fun b => (b, q)
    | .fieldBreak _ => [(32, true)]

def homeDirectories : List (String × String) :=
  [("root", "/root"), ("daemon", "/usr/sbin"), ("bin", "/bin"), ("sys", "/dev"),
   ("sync", "/bin"), ("games", "/usr/games"), ("man", "/var/cache/man"), ("lp", "/var/spool/lpd"),
   ("mail", "/var/mail"), ("news", "/var/spool/news"), ("uucp", "/var/spool/uucp"),
   ("proxy", "/bin"), ("www-data", "/var/www"), ("backup", "/var/backups"), ("list", "/var/list"),
   ("irc", "/run/ircd"), ("_apt", "/nonexistent"), ("nobody", "/nonexistent")]

/-- The chunks of a leading `~` or `~name` and the rest of the word, when the word begins with
one that expands. The name ends at a `/`, and in an assignment (`inAssignment`) also at a `:`;
a quote or an expansion right after it, or an unknown name, keeps the text as it is. -/
def tilde (inAssignment : Bool) (w : Word) : Run (Option (List Chunk × Word)) := do
  match w with
  | .text (126 :: bs) :: rest =>
    let name := bs.takeWhile fun b => b != 47 && !(inAssignment && b == 58)
    let after := bs.drop name.length
    if after.isEmpty && !rest.isEmpty then return none
    let home ← if name.isEmpty then Run.value? (utf8 "HOME")
      else pure ((homeDirectories.lookup (pathText name)).map utf8)
    match home with
    | some h => return some ([.bytes h true false], if after.isEmpty then rest else .text after :: rest)
    | none => return none
  | _ => return none

mutual

/-- Expands the parts of a word into chunks; `dq` when the word stands inside double quotes,
which quote its plain text, and `split` when its plain text came from an expansion outside
quotes, so that field splitting acts on it. -/
def parts (sub : Cmd → Run Bytes) : Nat → Bool → Bool → Word → Run (List Chunk)
  | 0, _, _, _ => throw .exhausted
  | _ + 1, _, _, [] => return []
  | fuel + 1, dq, split, p :: ps => do
    let first ← part sub fuel dq split p
    return first ++ (← parts sub fuel dq split ps)

def part (sub : Cmd → Run Bytes) : Nat → Bool → Bool → Part → Run (List Chunk)
  | 0, _, _, _ => throw .exhausted
  | _ + 1, dq, split, .text bs => return [.bytes bs dq (split && !dq)]
  | _ + 1, _, _, .quoted bs => return [.bytes bs true false]
  | fuel + 1, _, _, .param name op w q => param sub fuel name op w q
  | _ + 1, _, _, .command body q => do
    let out ← sub body
    return [.bytes (dropTrailingNewlines out) q (!q)]
  | fuel + 1, _, _, .arith e q => do
    let text ← joinChunks (← parts sub fuel true false e)
    return [.bytes (← arith text) q (!q)]

/-- Expands the word of a parameter expansion, inside double quotes (`q`) or not: outside
them a leading tilde expands and the plain text is split. -/
def operand (sub : Cmd → Run Bytes) : Nat → Bool → Word → Run (List Chunk)
  | 0, _, _ => throw .exhausted
  | fuel + 1, q, w => do
    if q then parts sub fuel true false w
    else match ← tilde false w with
      | some (home, rest) => return home ++ (← parts sub fuel false true rest)
      | none => parts sub fuel false true w

/-- Expands a parameter expansion. The length of the positional parameters is that of their
values joined as `"$*"` joins them. -/
def param (sub : Cmd → Run Bytes) : Nat → Bytes → ParamOp → Word → Bool → Run (List Chunk)
  | 0, _, _, _, _ => throw .exhausted
  | fuel + 1, name, op, w, q => do
    if op == .bad then Run.fail (utf8 "Bad substitution")
    let v ← paramValue name
    let nounset := (← Run.proc).opts.nounset
    let checkSet : Run Unit := do
      if v == .unset && nounset then Run.fail (name ++ utf8 ": parameter not set")
    match op with
    | .value =>
      checkSet
      valueChunks v q
    | .length =>
      checkSet
      return [.bytes (Run.numberText (← valueBytes v).length) q (!q)]
    | .orDefault colon =>
      if v.present colon then valueChunks v q else operand sub fuel q w
    | .ifSet colon =>
      if v.present colon then operand sub fuel q w else return []
    | .orAssign colon =>
      if v.present colon then valueChunks v q
      else
        let value ← joinChunks (← operand sub fuel true w)
        if !isName name then Run.fail (name ++ utf8 ": bad variable name")
        Run.assign name value
        valueChunks (.text value) q
    | .orError colon =>
      if v.present colon then valueChunks v q
      else
        let msg ← if w.isEmpty then
            pure (utf8 ("parameter not set" ++ if colon then " or null" else ""))
          else joinChunks (← operand sub fuel true w)
        Run.fail (name ++ utf8 ": " ++ msg)
    | .dropPrefix longest =>
      checkSet
      let pat := chunksPattern (← patternParts sub fuel w)
      valueChunks (← trimValue v q pat true longest) q
    | .dropSuffix longest =>
      checkSet
      let pat := chunksPattern (← patternParts sub fuel w)
      valueChunks (← trimValue v q pat false longest) q
    | .bad => Run.fail (utf8 "Bad substitution")

def patternParts (sub : Cmd → Run Bytes) : Nat → Word → Run (List Chunk)
  | 0, _ => throw .exhausted
  | fuel + 1, w => operand sub fuel false w

end

def wordChunks (sub : Cmd → Run Bytes) (fuel : Nat) (w : Word) : Run (List Chunk) := do
  match ← tilde false w with
  | some (home, rest) => return home ++ (← parts sub fuel false false rest)
  | none => parts sub fuel false false w

def splitAfterColons (bs : Bytes) : List Bytes :=
  bs.foldr (fun b acc =>
    if b == 58 then [b] :: acc
    else match acc with
      | first :: rest => (b :: first) :: rest
      | [] => [[b]]) [[]]

/-- The word cut after each `:` of its plain text, the `:` kept at the end of the piece before:
in an assignment, each piece may begin with a tilde. -/
def colonPieces (w : Word) : List Word :=
  w.foldl (fun acc p =>
    match p with
    | .text bs =>
      match splitAfterColons bs with
      | first :: more => acc.dropLast ++ [acc.getLast?.getD [] ++ [.text first]] ++
          more.map fun piece => [.text piece]
      | [] => acc
    | other => acc.dropLast ++ [acc.getLast?.getD [] ++ [other]]) [[]]

/-- Expands the value of an assignment into one string: tildes expand at its start and after
each `:`, and nothing is split. -/
def assignment (sub : Cmd → Run Bytes) (fuel : Nat) (w : Word) : Run Bytes := do
  let pieces ← (colonPieces w).mapM fun piece => do
    match ← tilde true piece with
    | some (home, rest) => return home ++ (← parts sub fuel false false rest)
    | none => parts sub fuel false false piece
  joinChunks pieces.flatten

def isBlankSeparator (b : UInt8) : Bool := b == 32 || b == 9 || b == 10

/-- Fields being split: those done, last first, the one being built, its last byte first, and
whether it has begun. -/
structure Splitter where
  doneRev : List Pattern := []
  curRev : Pattern := []
  begun : Bool := false

def Splitter.emit (s : Splitter) : Splitter :=
  { doneRev := s.curRev.reverse :: s.doneRev, curRev := [], begun := false }

def Splitter.add (s : Splitter) (bs : Bytes) (q : Bool) : Pattern :=
  bs.foldl (fun acc b => (b, q) :: acc) s.curRev

def Splitter.fields (s : Splitter) : List Pattern :=
  (if s.begun then s.emit else s).doneRev.reverse

/-- The separators after one that ended a field: blank ones, and after a blank one, at most one
other. -/
def skipSeparators (ifs : Bytes) (blank : Bool) : Bytes → Bytes
  | [] => []
  | c :: cs =>
    if !ifs.contains c then c :: cs
    else if !isBlankSeparator c then (if blank then skipSeparators ifs false cs else c :: cs)
    else skipSeparators ifs blank cs

def splitBytes (ifs : Bytes) : Nat → Splitter → Bytes → Splitter
  | 0, s, _ => s
  | _ + 1, s, [] => s
  | n + 1, s, b :: bs =>
    if !ifs.contains b then
      splitBytes ifs n { s with curRev := (b, false) :: s.curRev, begun := true } bs
    else
      let blank := isBlankSeparator b
      if !s.begun && blank then splitBytes ifs n s bs
      else splitBytes ifs n s.emit (skipSeparators ifs blank bs)

def splitFields (ifs : Bytes) (cs : List Chunk) : List Pattern :=
  let s := cs.foldl (fun (s : Splitter) c =>
    match c with
    | .bytes bs true _ => { s with curRev := s.add bs true, begun := true }
    | .bytes bs false false =>
      { s with curRev := s.add bs false, begun := s.begun || !bs.isEmpty }
    | .bytes bs false true => splitBytes ifs (bs.length + 1) s bs
    | .fieldBreak keep => if keep || s.begun then s.emit else s) {}
  s.fields

/-- Expands a word into fields: split, and file name patterns expanded unless `set -f`. -/
def fields (sub : Cmd → Run Bytes) (fuel : Nat) (w : Word) : Run (List Bytes) := do
  let cs ← wordChunks sub fuel w
  let fs := splitFields (← Run.ifs) cs
  let p ← Run.proc
  if p.opts.noglob then return fs.map Pattern.bytes
  let files := (← Run.sys).files
  return fs.flatMap fun f =>
    match globField files p.cwd f with
    | some names => names
    | none => [f.bytes]

/-- Expands a word into one string, without field splitting or file names: for assignments,
redirections and `case`. -/
def text (sub : Cmd → Run Bytes) (fuel : Nat) (w : Word) : Run Bytes := do
  joinChunks (← wordChunks sub fuel w)

def pattern (sub : Cmd → Run Bytes) (fuel : Nat) (w : Word) : Run Pattern := do
  return chunksPattern (← wordChunks sub fuel w)

end Expand

end BoardSetup.Shell

import BoardSetup.Json.Basic

/-!
# Writing JSON text

A string is written between double quotes with `"` and `\` escaped, the five short escapes for
backspace, form feed, newline, carriage return and tab, `\u00xx` in lowercase hex for the other
control characters, and everything else as it is. The pretty layout puts each item of a
non-empty array or object on its own line, two spaces deeper than its brackets, with `": "`
after a key.
-/

namespace BoardSetup.Json

def hexDigit (n : Nat) : Char :=
  if n < 10 then Char.ofNat ('0'.toNat + n) else Char.ofNat ('a'.toNat + n - 10)

def escapeChar (c : Char) : List Char :=
  match c with
  | '"' => ['\\', '"']
  | '\\' => ['\\', '\\']
  | '\x08' => ['\\', 'b']
  | '\x0c' => ['\\', 'f']
  | '\n' => ['\\', 'n']
  | '\r' => ['\\', 'r']
  | '\t' => ['\\', 't']
  | c =>
    if c.toNat < 0x20 then ['\\', 'u', '0', '0', hexDigit (c.toNat / 16), hexDigit (c.toNat % 16)]
    else [c]

def quoteString (s : String) : String :=
  String.ofList ('"' :: s.toList.flatMap escapeChar ++ ['"'])

def Number.render : Number → String
  | .unsigned n => toString n
  | .negative n => toString n
  | .float f => floatStyle.render f

def indentation (level : Nat) : String :=
  String.ofList (List.replicate (2 * level) ' ')

mutual

/-- A value in the pretty layout, its brackets at depth `level`. -/
def Value.pretty (level : Nat) : Value → String
  | .null => "null"
  | .bool b => if b then "true" else "false"
  | .num n => n.render
  | .str s => quoteString s
  | .arr [] => "[]"
  | .arr (x :: xs) => "[\n" ++ Value.prettyItems (level + 1) (x :: xs) ++ "\n" ++ indentation level ++ "]"
  | .obj [] => "\x7B\x7D"
  | .obj (kv :: kvs) =>
    "\x7B\n" ++ Value.prettyEntries (level + 1) (kv :: kvs) ++ "\n" ++ indentation level ++ "\x7D"

def Value.prettyItems (level : Nat) : List Value → String
  | [] => ""
  | [x] => indentation level ++ x.pretty level
  | x :: xs => indentation level ++ x.pretty level ++ ",\n" ++ Value.prettyItems level xs

def Value.prettyEntries (level : Nat) : List (String × Value) → String
  | [] => ""
  | [(k, v)] => indentation level ++ quoteString k ++ ": " ++ v.pretty level
  | (k, v) :: kvs =>
    indentation level ++ quoteString k ++ ": " ++ v.pretty level ++ ",\n" ++
      Value.prettyEntries level kvs

end

end BoardSetup.Json

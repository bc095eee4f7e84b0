import BoardSetup.Path.Basic
import BoardSetup.Error

/-!
# The file system

A file system is the set of paths that exist, each a directory or a file of bytes; the root
always exists and is a directory. A path is found from the root, or from the working directory
when it is relative: every component before the last must name a directory that exists, `.`
stays, `..` goes up (and stays at the root), and a trailing separator asks for a directory. A
name longer than 255 bytes, or a path of 4096 bytes or more, is refused.

The operations give the errors the system gives: a missing directory on the way is `notFound`, a
file on the way is `notADirectory`, reading or writing a directory as a file is `isADirectory`,
making what exists is `alreadyExists`, and a name too long is `nameTooLong`.
-/

namespace BoardSetup

/-- What stands at a path. -/
inductive Node where
  | dir
  | file (data : List UInt8)
  deriving DecidableEq, Repr

/-- Every path that exists, as names from the root, with what stands there. -/
structure FileTree where
  nodes : List (List String × Node) := []
  deriving Repr

namespace FileTree

def find? (t : FileTree) (loc : List String) : Option Node :=
  if loc.isEmpty then some .dir else t.nodes.lookup loc

def put (t : FileTree) (loc : List String) (n : Node) : FileTree :=
  if t.nodes.any (·.1 == loc) then
    ⟨t.nodes.map fun e => if e.1 == loc then (loc, n) else e⟩
  else ⟨t.nodes ++ [(loc, n)]⟩

def isDirAt (t : FileTree) (loc : List String) : Bool :=
  t.find? loc == some .dir

def nameMax : Nat := 255

def pathMax : Nat := 4096

/-- A path resolved from a working directory: the location it names, whether its last
component is a name to be looked up there (rather than `.`, `..` or the root, which name a
directory reached on the way), and whether it ends in a separator. -/
structure Target where
  loc : List String
  named : Bool
  slash : Bool
  deriving DecidableEq, Repr

def lookupName (at_ : List String) (n : String) : Except IoError (List String) :=
  if n.utf8ByteSize > nameMax then .error .nameTooLong else .ok (at_ ++ [n])

def walk (t : FileTree) (at_ : List String) : List String → Except IoError (List String)
  | [] => .ok at_
  | c :: rest =>
    if c == "." then walk t at_ rest
    else if c == ".." then walk t at_.dropLast rest
    else do
      let next ← lookupName at_ c
      match t.find? next with
      | some .dir => walk t next rest
      | some (.file _) => .error .notADirectory
      | none => .error .notFound

/-- Resolves a path from the working directory. Every component but the last must lead through
a directory that exists; the last is looked up by the operation. The empty path names nothing,
and a name or path that is too long is refused. -/
def resolve (t : FileTree) (cwd : List String) (p : String) : Except IoError Target := do
  if p.isEmpty then throw .notFound
  if p.utf8ByteSize + 1 > pathMax then throw .nameTooLong
  let start := if Path.isAbsolute p then [] else cwd
  let parts := (Path.segments p.toList).filter (· != "")
  match parts.getLast? with
  | none => return ⟨[], false, true⟩
  | some last =>
    let dir ← walk t start parts.dropLast
    if last == "." then return ⟨dir, false, false⟩
    else if last == ".." then return ⟨dir.dropLast, false, false⟩
    else return ⟨← lookupName dir last, true, Path.endsInSeparator p⟩

/-- What a path names, or why it names nothing. -/
def stat (t : FileTree) (cwd : List String) (p : String) : Except IoError Node := do
  let tg ← t.resolve cwd p
  match t.find? tg.loc with
  | none => .error .notFound
  | some (.file _) => if tg.slash then .error .notADirectory else .ok (.file [])
  | some .dir => .ok .dir

def isDir (t : FileTree) (cwd : List String) (p : String) : Bool :=
  match t.stat cwd p with
  | .ok .dir => true
  | _ => false

def isFile (t : FileTree) (cwd : List String) (p : String) : Bool :=
  match t.stat cwd p with
  | .ok (.file _) => true
  | _ => false

/-- The bytes of a file. -/
def read (t : FileTree) (cwd : List String) (p : String) : Except IoError (List UInt8) := do
  let tg ← t.resolve cwd p
  match t.find? tg.loc with
  | none => .error .notFound
  | some .dir => .error .isADirectory
  | some (.file data) => if tg.slash then .error .notADirectory else .ok data

/-- The location an opening that may create a file reaches: a path that names a directory, or
ends in a separator, is refused. -/
def openTarget (t : FileTree) (cwd : List String) (p : String) : Except IoError Target := do
  let tg ← t.resolve cwd p
  if !tg.named || tg.slash then throw .isADirectory
  if t.find? tg.loc == some .dir then throw .isADirectory
  return tg

/-- Writes a file, creating it or replacing its bytes. -/
def write (t : FileTree) (cwd : List String) (p : String) (data : List UInt8) :
    Except IoError FileTree := do
  let tg ← t.openTarget cwd p
  return t.put tg.loc (.file data)

/-- Appends bytes to a file, creating it when `create` allows. -/
def append (t : FileTree) (cwd : List String) (p : String) (data : List UInt8) (create : Bool) :
    Except IoError FileTree := do
  if !create then
    let tg ← t.resolve cwd p
    match t.find? tg.loc with
    | some (.file old) =>
      if tg.slash then .error .notADirectory else .ok (t.put tg.loc (.file (old ++ data)))
    | some .dir => .error .isADirectory
    | none => .error .notFound
  else
    let tg ← t.openTarget cwd p
    match t.find? tg.loc with
    | some (.file old) => .ok (t.put tg.loc (.file (old ++ data)))
    | _ => .ok (t.put tg.loc (.file data))

def mkdir (t : FileTree) (cwd : List String) (p : String) : Except IoError FileTree := do
  let tg ← t.resolve cwd p
  if !tg.named then throw .alreadyExists
  match t.find? tg.loc with
  | some _ => .error .alreadyExists
  | none => .ok (t.put tg.loc .dir)

/-- Makes a directory and every missing directory above it: each is made from the top down, and
one that exists as a directory is fine. The directories made stay made when a later one fails,
so the result is the tree reached and the failure, if any. -/
def mkdirAll (t : FileTree) (cwd : List String) (p : String) : Nat → FileTree × Option IoError
  | 0 => (t, some .notFound)
  | fuel + 1 =>
    if p.isEmpty then (t, none)
    else match t.mkdir cwd p with
      | .ok t' => (t', none)
      | .error .notFound =>
        match Path.parent? p with
        | none => (t, some .notFound)
        | some q =>
          match t.mkdirAll cwd q fuel with
          | (t', some e) => (t', some e)
          | (t', none) =>
            match t'.mkdir cwd p with
            | .ok t'' => (t'', none)
            | .error e => if t'.isDir cwd p then (t', none) else (t', some e)
      | .error e => if t.isDir cwd p then (t, none) else (t, some e)

def createDirAll (t : FileTree) (cwd : List String) (p : String) : FileTree × Option IoError :=
  t.mkdirAll cwd p ((Path.components p).length + 1)

def list (t : FileTree) (cwd : List String) (p : String) : Except IoError (List String) := do
  let tg ← t.resolve cwd p
  match t.find? tg.loc with
  | none => .error .notFound
  | some (.file _) => .error .notADirectory
  | some .dir =>
    let names := t.nodes.filterMap fun (loc, _) =>
      if loc.dropLast == tg.loc ∧ loc.length == tg.loc.length + 1 then loc.getLast? else none
    .ok (names.mergeSort (fun a b => decide (a ≤ b)))

/-- Everything below a location, as paths relative to it: the directories sorted, and the
files with their bytes, sorted by path. -/
def below (t : FileTree) (loc : List String) : List String × List (String × List UInt8) :=
  let inside := t.nodes.filterMap fun (l, n) =>
    if loc.isPrefixOf l ∧ l.length > loc.length then some ("/".intercalate (l.drop loc.length), n)
    else none
  let dirs := inside.filterMap fun (p, n) => if n == .dir then some p else none
  let files := inside.filterMap fun
    | (p, .file data) => some (p, data)
    | _ => none
  (dirs.mergeSort (fun a b => decide (a ≤ b)), files.mergeSort (fun a b => decide (a.1 ≤ b.1)))

end FileTree

end BoardSetup

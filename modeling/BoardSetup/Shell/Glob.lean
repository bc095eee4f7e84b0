import BoardSetup.FileTree
import BoardSetup.Shell.Pattern
import BoardSetup.Text.Utf8

/-!
# File name patterns

A field with an unquoted `*`, `?` or `[` is replaced by the names of the files it matches. The
field is cut at each `/`; a component with no pattern character is taken as it is, and one with
them is matched against the names in the directory reached so far. A name that begins with `.`
(the directory's own `.` and `..` among them) matches only a component that begins with `.`.
What follows a matched name continues below it when it is a directory. A path with no pattern
left at the end must exist (with a final `/`, as a directory). The names found are sorted by
their bytes; when there are none, the field stays as it was.
-/

namespace BoardSetup.Shell

def splitComponents (p : Pattern) : List Pattern :=
  p.foldr (fun b acc =>
    if b.1 == 47 then [] :: acc
    else match acc with
      | c :: cs => (b :: c) :: cs
      | [] => [[b]]) [[]]

def pathText (bs : List UInt8) : String :=
  Text.ofBytesKeeping bs

def dirNames (files : FileTree) (cwd : List String) (dir : List UInt8) (dots : Bool) :
    List (List UInt8) :=
  let path := if dir.isEmpty then "." else pathText dir
  match files.list cwd path with
  | .ok names => (if dots then [utf8Of ".", utf8Of ".."] else []) ++ names.map utf8Of
  | .error _ => []
where
  /-- The bytes of a name. -/
  utf8Of (s : String) : List UInt8 := Text.encodeKeeping s

def pathExists (files : FileTree) (cwd : List String) (path : List UInt8) : Bool :=
  match files.stat cwd (pathText path) with
  | .ok _ => true
  | .error _ => false

/-- The paths that components match below a directory reached as `dir` (written with its
final `/`, or empty for the working directory). -/
def globBelow (files : FileTree) (cwd : List String) : Nat → List UInt8 → List Pattern →
    List (List UInt8)
  | 0, _, _ => []
  | _ + 1, _, [] => []
  | _ + 1, dir, [c] =>
    if !c.hasMagic then
      let path := dir ++ c.bytes
      if pathExists files cwd path then [path] else []
    else
      let dots := c.head?.map (·.1 == 46) == some true
      let names := (dirNames files cwd dir dots).filter fun n =>
        (dots || n.head? != some 46) && c.matches n
      names.map (dir ++ ·)
  | n + 1, dir, c :: rest =>
    if !c.hasMagic then globBelow files cwd n (dir ++ c.bytes ++ [47]) rest
    else
      let dots := c.head?.map (·.1 == 46) == some true
      let names := (dirNames files cwd dir dots).filter fun n =>
        (dots || n.head? != some 46) && c.matches n
      names.flatMap fun name => globBelow files cwd n (dir ++ name ++ [47]) rest

/-- The file names a field with pattern characters stands for, sorted; nothing when it has no
pattern character or matches no file. -/
def globField (files : FileTree) (cwd : List String) (field : Pattern) : Option (List (List UInt8)) :=
  if !field.hasMagic then none
  else
    let comps := splitComponents field
    let found := match comps with
      | [] :: rest => globBelow files cwd (rest.length + 1) [47] rest
      | _ => globBelow files cwd (comps.length + 1) [] comps
    if found.isEmpty then none
    else some (found.mergeSort lexLe)
where
  /-- Byte order of two paths. -/
  lexLe : List UInt8 → List UInt8 → Bool
    | [], _ => true
    | _ :: _, [] => false
    | a :: as, b :: bs => if a < b then true else if b < a then false else lexLe as bs

end BoardSetup.Shell

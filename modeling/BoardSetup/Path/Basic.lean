/-!
# Paths

A path is text; its meaning is the list of components read off it. A leading `/` is the root,
a leading `.` stands for the current directory, `..` for the parent, and every other name
between separators is a name. Repeated separators, a trailing separator and any `.` after the
first component carry no component.

Joining follows the usual rule: an absolute path replaces the base, and a relative one is
appended after one separator.
-/

namespace BoardSetup

/-- One component of a path. -/
inductive Component where
  | root
  | here
  | up
  | name (s : String)
  deriving DecidableEq, Repr

def Component.text : Component → String
  | .root => "/"
  | .here => "."
  | .up => ".."
  | .name s => s

namespace Path

def segments (cs : List Char) : List String :=
  (cs.splitOn '/').map String.ofList

def ofSegment (s : String) : Option Component :=
  if s = "" ∨ s = "." then none
  else if s = ".." then some .up
  else some (.name s)

def components (p : String) : List Component :=
  match p.toList with
  | '/' :: rest => .root :: (segments rest).filterMap ofSegment
  | '.' :: rest =>
    if rest = [] ∨ rest.head? = some '/' then .here :: (segments rest).filterMap ofSegment
    else (segments ('.' :: rest)).filterMap ofSegment
  | cs => (segments cs).filterMap ofSegment

def isAbsolute (p : String) : Bool :=
  p.toList.head? == some '/'

def endsInSeparator (p : String) : Bool :=
  p.toList.getLast? == some '/'

/-- `base` followed by `rel`: `rel` itself when it is absolute or `base` is empty, else the two
with one separator between them. -/
def join (base rel : String) : String :=
  if isAbsolute rel || base.isEmpty then rel
  else if endsInSeparator base then base ++ rel
  else base ++ "/" ++ rel

def ofComponents (cs : List Component) : String :=
  cs.foldl (fun acc c => join acc c.text) ""

def fileName? (p : String) : Option String :=
  match (components p).getLast? with
  | some (.name s) => some s
  | _ => none

/-- The extension of the file name: the text after its last dot, when something other than a
dot at the very front stands before that dot. -/
def extension? (p : String) : Option String :=
  (fileName? p).bind fun n =>
    let parts := n.toList.splitOn '.'
    match parts.reverse with
    | after :: beforeRev@(_ :: _) =>
      if beforeRev.reverse = [[]] then none else some (String.ofList after)
    | _ => none

def parent? (p : String) : Option String :=
  match (components p).reverse with
  | (.name _) :: rest | .here :: rest | .up :: rest => some (ofComponents rest.reverse)
  | _ => none

example : components "//a//b/./" = [.root, .name "a", .name "b"] := by decide
example : components "./.." = [.here, .up] := by decide
example : extension? "a.json/." = some "json" ∧ extension? ".json" = none ∧
    extension? "..json" = some "json" := by decide

end Path

end BoardSetup

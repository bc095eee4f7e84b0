import BoardSetup.Path.Basic

/-!
# Lexical normal form

Collapsing `.` and `..` in a path by its text alone, with no file system at hand. The
components are evaluated on a stack: a name is pushed, `..` pops the last entry (a pushed `..`
included), and with nothing to pop it is pushed onto a relative path and dropped at the root.
-/

namespace BoardSetup.Path

/-- A path being collapsed: whether it starts at the root, and its entries, last first. -/
structure Stack where
  rooted : Bool
  entries : List String
  deriving DecidableEq, Repr

def Stack.empty : Stack := ⟨false, []⟩

def Stack.push (s : Stack) : Component → Stack
  | .root => ⟨true, []⟩
  | .here => s
  | .up =>
    match s.entries with
    | _ :: rest => { s with entries := rest }
    | [] => if s.rooted then s else { s with entries := [".."] }
  | .name n => { s with entries := n :: s.entries }

def Stack.render (s : Stack) : String :=
  (if s.rooted then "/" else "") ++ "/".intercalate s.entries.reverse

def collapse (cs : List Component) : Stack :=
  cs.foldl Stack.push Stack.empty

/-- The lexical normal form of a path. -/
def normalize (p : String) : String :=
  (collapse (components p)).render

example : normalize "../.." = "" ∧ normalize "a/../.." = ".." ∧ normalize "/../b" = "/b" := by
  decide
example : normalize "//a//b//" = "/a/b" ∧ normalize "./.." = ".." := by decide

end BoardSetup.Path

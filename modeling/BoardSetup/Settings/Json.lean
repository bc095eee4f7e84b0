import BoardSetup.Settings.Basic
import BoardSetup.Json.Read
import BoardSetup.Json.Write

/-!
# Settings as JSON

A settings document is an object whose keys name fields; a key that names no field is skipped,
a field named twice is refused, and a field left out keeps its stock value. An array is read as
the fields in order, as many as it has. `null` is accepted only where a field may be absent.

Reading text (`Settings.ofText`) and reading a parsed document (`Settings.ofValue`) refuse the
same documents with the same faults; reading text also places each fault in the text.
`Settings.toValue` writes every field, in order.
-/

namespace BoardSetup.Settings

open Json Json.Reader

def Shape.wanted : Shape → String
  | .path | .optPath => "path string"
  | .text | .optText => "a string"
  | .flag => "a boolean"
  | .textList => "a sequence"
  | .optCount => "usize"

def wantedWhole : String := "struct SetupConfig"

def Datum.toValue : Datum → Value
  | .absent => .null
  | .text s => .str s
  | .flag b => .bool b
  | .list xs => .arr (xs.map Value.str)
  | .count n => .num (.unsigned n)

def toValue (s : Settings) : Value :=
  .obj (Key.all.map fun k => (k.name, (s.get k).toValue))

/-- The settings as pretty JSON text. -/
def render (s : Settings) : String :=
  s.toValue.pretty 0

/-! ## Reading a parsed document -/

def textOfValue : Value → Except Fault String
  | .str s => .ok s
  | v => .error (.invalidType v.unexpected "a string")

def datumOfValue : Shape → Value → Except Fault Datum
  | .optPath, .null | .optText, .null | .optCount, .null => .ok .absent
  | .path, .str s | .optPath, .str s | .text, .str s | .optText, .str s => .ok (.text s)
  | .flag, .bool b => .ok (.flag b)
  | .textList, .arr xs =>
    (xs.mapM textOfValue).map Datum.list
  | .optCount, .num (.unsigned n) => .ok (.count n)
  | .optCount, .num (.negative n) => .error (.invalidValue (.signed n) "usize")
  | .optCount, .num (.float f) => .error (.invalidType (.float f) "usize")
  | shape, v => .error (.invalidType v.unexpected shape.wanted)

def entriesOfValue (seen : List Key) (s : Settings) :
    List (String × Value) → Except Fault Settings
  | [] => .ok s
  | (name, v) :: rest =>
    match Key.ofName? name with
    | none => entriesOfValue seen s rest
    | some k =>
      if seen.contains k then .error (.duplicateField k.name)
      else do
        let d ← datumOfValue k.shape v
        entriesOfValue (k :: seen) (s.set k d) rest

def itemsOfValue (s : Settings) : List Key → List Value → Except Fault Settings
  | k :: ks, v :: vs => do itemsOfValue (s.set k (← datumOfValue k.shape v)) ks vs
  | _, _ => .ok s

/-- Settings read from a parsed document. -/
def ofValue (v : Value) : Except Fault Settings :=
  match v with
  | .obj kvs => entriesOfValue [] stock kvs
  | .arr xs => do
    let s ← itemsOfValue stock Key.all xs
    if xs.length > Key.all.length then .error (.invalidLength xs.length "fewer elements in array")
    else .ok s
  | v => .error (.invalidType v.unexpected wantedWhole)

/-! ## Reading text -/

def attempt (r : Reader α) : Reader (Except Error α) :=
  ExceptT.lift r.run

def closeWith (body : Except Error α) (close : Except Error Unit) : Reader α := do
  match body, close with
  | .error e, _ => throw (← place e)
  | .ok _, .error e => throw (← place e)
  | .ok a, .ok () => return a

def readText (wanted : String) : Reader String := do
  match ← skipSpace with
  | none => failAhead .eofValue
  | some '"' => bump; string
  | some _ => wrongKind wanted

def readFlag : Reader Bool := do
  match ← skipSpace with
  | none => failAhead .eofValue
  | some 't' => bump; literal "rue"; return true
  | some 'f' => bump; literal "alse"; return false
  | some _ => wrongKind "a boolean"

def countOf : Number → Reader Nat
  | .unsigned n => return n
  | .negative n => do throw (← place ⟨.invalidValue (.signed n) "usize", none⟩)
  | .float f => do throw (← place ⟨.invalidType (.float f) "usize", none⟩)

def readCount : Reader Nat := do
  match ← skipSpace with
  | none => failAhead .eofValue
  | some '-' => bump; countOf (← numberAfterSign false)
  | some c =>
    if (digitValue c).isSome then countOf (← numberAfterSign true) else wrongKind "usize"

def itemStart : Option Char → Reader (Option Char)
  | some ']' => failAhead .trailingComma
  | some c => return some c
  | none => failAhead .eofValue

/-- Steps to the next array item: `none` at the closing bracket, else the character the item
starts with. -/
def nextItem (first : Bool) : Reader (Option Char) := do
  match ← skipSpace with
  | some ']' => return none
  | some ',' =>
    if first then itemStart (some ',')
    else do bump; itemStart (← skipSpace)
  | some c => if first then itemStart (some c) else failAhead .expectedListCommaOrEnd
  | none => failAhead .eofList

def listItems (first : Bool) (acc : List String) : Nat → Reader (List String)
  | 0 => failHere .eofList
  | fuel + 1 => do
    match ← nextItem first with
    | none => return acc.reverse
    | some _ => listItems false ((← readText "a string") :: acc) fuel

def closeArray : Reader Unit := do
  match ← skipSpace with
  | some ']' => bump
  | some ',' =>
    bump
    match ← skipSpace with
    | some ']' => failAhead .trailingComma
    | _ => failAhead .trailingCharacters
  | some _ => failAhead .trailingCharacters
  | none => failAhead .eofList

def closeObject : Reader Unit := do
  match ← skipSpace with
  | some '}' => bump
  | some ',' => failAhead .trailingComma
  | some _ => failAhead .trailingCharacters
  | none => failAhead .eofObject

def readList : Reader (List String) := do
  match ← skipSpace with
  | none => failAhead .eofValue
  | some '[' =>
    bump
    let body ← attempt (listItems true [] ((← getThe (List Char)).length + 1))
    closeWith body (← attempt closeArray)
  | some _ => wrongKind "a sequence"

def orAbsent (inner : Reader Datum) : Reader Datum := do
  match ← skipSpace with
  | some 'n' => bump; literal "ull"; return .absent
  | _ => inner

def readDatum : Shape → Reader Datum
  | .path => return .text (← readText "path string")
  | .text => return .text (← readText "a string")
  | .flag => return .flag (← readFlag)
  | .textList => return .list (← readList)
  | .optPath => orAbsent (return .text (← readText "path string"))
  | .optText => orAbsent (return .text (← readText "a string"))
  | .optCount => orAbsent (return .count (← readCount))

def keyStart : Option Char → Reader (Option String)
  | some '"' => do bump; return some (← string)
  | some '}' => failAhead .trailingComma
  | some _ => failAhead .keyMustBeString
  | none => failAhead .eofValue

def nextKey (first : Bool) : Reader (Option String) := do
  match ← skipSpace with
  | some '}' => return none
  | some ',' =>
    if first then keyStart (some ',')
    else do bump; keyStart (← skipSpace)
  | some c => if first then keyStart (some c) else failAhead .expectedObjectCommaOrEnd
  | none => failAhead .eofObject

def colon : Reader Unit := do
  match ← skipSpace with
  | some ':' => bump
  | some _ => failAhead .expectedColon
  | none => failAhead .eofObject

def objectEntries (first : Bool) (seen : List Key) (s : Settings) : Nat → Reader Settings
  | 0 => failHere .eofObject
  | fuel + 1 => do
    match ← nextKey first with
    | none => return s
    | some name =>
      match Key.ofName? name with
      | none =>
        colon
        skipValue fuel
        objectEntries false seen s fuel
      | some k =>
        if seen.contains k then throw ⟨.duplicateField k.name, none⟩
        colon
        let d ← readDatum k.shape
        objectEntries false (k :: seen) (s.set k d) fuel

def arrayItems (first : Bool) (s : Settings) : List Key → Reader Settings
  | [] => return s
  | k :: ks => do
    match ← nextItem first with
    | none => return s
    | some _ => arrayItems false (s.set k (← readDatum k.shape)) ks

def read : Reader Settings := do
  match ← skipSpace with
  | none => failAhead .eofValue
  | some '{' =>
    bump
    let body ← attempt (objectEntries true [] stock ((← getThe (List Char)).length + 1))
    closeWith body (← attempt closeObject)
  | some '[' =>
    bump
    let body ← attempt (arrayItems true stock Key.all)
    closeWith body (← attempt closeArray)
  | some _ => wrongKind wantedWhole

def document : Reader Settings := do
  let s ← read
  match ← skipSpace with
  | some _ => failAhead .trailingCharacters
  | none => return s

/-- Settings read from text, or the fault with its message. -/
def ofText (src : String) : Except String Settings :=
  match (document.run).run src.toList with
  | (.ok s, _) => .ok s
  | (.error e, _) => .error (e.message src)

end BoardSetup.Settings

import BoardSetup.Settings.Basic
import BoardSetup.Numbers

/-!
# The command line

The options of `bl602_setup`, and how a command line is read: from left to right, with values
given as the next argument, after `=` (`--jobs=4`, `-j=4`) or attached to a short option
(`-j4`); several short flags may share one dash (`-vj4`), and `--` ends the options.

An option waiting for its value receives it from the next argument unless that argument looks
like an option itself. The value is checked only when the option is settled: at the next known
option or at the end. A directory or file must not be empty, a job count must be a whole number
that fits in 64 bits, and no option may be given twice. `--help` and `--version` answer at once,
once what came before them is settled.

A refused command line gets a message, sometimes a tip, sometimes a usage line built from the
options given so far, and always a pointer to `--help`. The tip for an unknown long option names
the most similar option by Jaro similarity, when that is above 0.7.
-/

namespace BoardSetup.CommandLine

/-- The options. -/
inductive Flag where
  | baseDir
  | config
  | sdkRemote
  | skipInstall
  | skipBuild
  | jobs
  | dryRun
  | logDir
  | printConfig
  | verbose
  | help
  | version
  deriving DecidableEq, Repr

/-- What an option's value must be. -/
inductive ValueKind where
  | path
  | text
  | count
  deriving DecidableEq, Repr

namespace Flag

def all : List Flag :=
  [.baseDir, .config, .sdkRemote, .skipInstall, .skipBuild, .jobs, .dryRun, .logDir, .printConfig,
   .verbose, .help, .version]

def long : Flag → String
  | .baseDir => "base-dir"
  | .config => "config"
  | .sdkRemote => "sdk-remote"
  | .skipInstall => "skip-install"
  | .skipBuild => "skip-build"
  | .jobs => "jobs"
  | .dryRun => "dry-run"
  | .logDir => "log-dir"
  | .printConfig => "print-config"
  | .verbose => "verbose"
  | .help => "help"
  | .version => "version"

def short : Flag → Option Char
  | .jobs => some 'j'
  | .verbose => some 'v'
  | .help => some 'h'
  | .version => some 'V'
  | _ => none

def kind : Flag → Option ValueKind
  | .baseDir | .config | .logDir => some .path
  | .sdkRemote => some .text
  | .jobs => some .count
  | _ => none

def valueName : Flag → String
  | .baseDir | .logDir => "DIR"
  | .config => "FILE"
  | .sdkRemote => "URL"
  | .jobs => "N"
  | _ => ""

def isOwn : Flag → Bool
  | .help | .version => false
  | _ => true

def shown (f : Flag) : String :=
  if f.kind.isSome then s!"--{f.long} <{f.valueName}>" else s!"--{f.long}"

def ofLong? (n : String) : Option Flag :=
  all.find? (·.long == n)

def ofShort? (c : Char) : Option Flag :=
  all.find? (·.short == some c)

end Flag

/-- What the command line asks for. -/
structure Options where
  baseDir : Option String := none
  config : Option String := none
  sdkRemote : Option String := none
  skipInstall : Bool := false
  skipBuild : Bool := false
  jobs : Option Nat := none
  dryRun : Bool := false
  logDir : Option String := none
  printConfig : Bool := false
  verbose : Bool := false
  deriving DecidableEq, Repr

def Options.applyTo (o : Options) (s : Settings) : Settings :=
  { s with
    baseDir := o.baseDir.orElse fun _ => s.baseDir
    sdkRemoteUrl := o.sdkRemote.getD s.sdkRemoteUrl
    jobs := o.jobs.orElse fun _ => s.jobs
    logDir := o.logDir.orElse fun _ => s.logDir
    skipInstall := s.skipInstall || o.skipInstall
    skipBuild := s.skipBuild || o.skipBuild
    dryRun := s.dryRun || o.dryRun }

/-- What has been seen: an option, or, through any of the program's own options, their group. -/
inductive Seen where
  | flag (f : Flag)
  | group
  deriving DecidableEq, Repr

/-- Why a command line is refused. -/
inductive Fault where
  | unknown (arg : String) (tip : Option Flag) (seen : List Seen)
  | repeated (f : Flag)
  | noValue (f : Flag)
  | badValue (f : Flag) (value reason : String)
  | extraValue (f : Flag) (value : String) (seen : List Seen)
  deriving DecidableEq, Repr

/-- How reading a command line ends early. -/
inductive Stop where
  | help
  | version
  | fault (f : Fault)
  deriving DecidableEq, Repr

/-- Where reading stands: what has been seen, in order, the options so far, the option waiting to
be settled with its value once given, and whether `--` has been passed. -/
structure Reading where
  seen : List Seen := []
  opts : Options := {}
  pending : Option (Flag × Option String) := none
  trailing : Bool := false
  deriving DecidableEq, Repr

/-- A step of reading; what it did before it stopped stays done. -/
abbrev Read := ExceptT Stop (StateM Reading)

/-! ## Values -/

def parseCount (s : String) : Except String Nat :=
  let digits := match s.toList with
    | ['+'] => none
    | '+' :: rest => some rest
    | cs => some cs
  if s.isEmpty then .error "cannot parse integer from empty string"
  else match digits with
    | none => .error "invalid digit found in string"
    | some ds =>
      ds.foldlM (fun n c =>
        if !c.isDigit then .error "invalid digit found in string"
        else
          let m := n * 10 + (c.toNat - '0'.toNat)
          if m < 2 ^ 64 then .ok m else .error "number too large to fit in target type") 0

def Options.set (o : Options) (f : Flag) (v : String) (n : Nat) : Options :=
  match f with
  | .baseDir => { o with baseDir := some v }
  | .config => { o with config := some v }
  | .sdkRemote => { o with sdkRemote := some v }
  | .jobs => { o with jobs := some n }
  | .logDir => { o with logDir := some v }
  | .skipInstall => { o with skipInstall := true }
  | .skipBuild => { o with skipBuild := true }
  | .dryRun => { o with dryRun := true }
  | .printConfig => { o with printConfig := true }
  | .verbose => { o with verbose := true }
  | .help | .version => o

/-! ## Reading -/

def note (f : Flag) : Read Unit :=
  modify fun r =>
    let seen := if r.seen.contains (.flag f) then r.seen else r.seen ++ [.flag f]
    let seen := if f.isOwn && !seen.contains .group then seen ++ [.group] else seen
    { r with seen := seen }

def once (f : Flag) : Read Unit := do
  let r ← get
  if r.seen.contains (.flag f) then
    set { r with seen := r.seen.erase (.flag f) }
    throw (.fault (.repeated f))

def take (f : Flag) (values : List String) : Read Unit := do
  match f.kind with
  | none =>
    if f == .help then throw .help
    if f == .version then throw .version
    once f
    note f
    modify fun r => { r with opts := r.opts.set f "" 0 }
  | some k =>
    match values with
    | [] => throw (.fault (.noValue f))
    | v :: _ =>
      once f
      note f
      match k with
      | .path =>
        if v.isEmpty then throw (.fault (.noValue f))
        modify fun r => { r with opts := r.opts.set f v 0 }
      | .text => modify fun r => { r with opts := r.opts.set f v 0 }
      | .count =>
        match parseCount v with
        | .ok n => modify fun r => { r with opts := r.opts.set f v n }
        | .error why => throw (.fault (.badValue f v why))

def settle : Read Unit := do
  match (← get).pending with
  | none => pure ()
  | some (f, v) =>
    modify fun r => { r with pending := none }
    take f v.toList

def settleQuietly : Read Unit :=
  tryCatch settle fun _ => pure ()

def react (f : Flag) (values : List String) : Read Unit := do
  settle
  take f values

def await (f : Flag) : Read Unit := do
  settle
  modify fun r => { r with pending := some (f, none) }

/-! ## Similar names -/

def jaro (a b : String) : Float := Id.run do
  let a := a.toList.toArray
  let b := b.toList.toArray
  if a.isEmpty && b.isEmpty then return 1.0
  if a.isEmpty || b.isEmpty then return 0.0
  let range := (max a.size b.size) / 2 - 1
  let mut aFlags := Array.replicate a.size false
  let mut bFlags := Array.replicate b.size false
  let mut hits := 0
  for i in [0:a.size] do
    let lo := i - range
    let hi := min b.size (i + range + 1)
    let mut found := false
    for j in [lo:hi] do
      if !found && a.getD i ' ' == b.getD j ' ' && !bFlags.getD j true then
        aFlags := aFlags.setIfInBounds i true
        bFlags := bFlags.setIfInBounds j true
        hits := hits + 1
        found := true
  if hits == 0 then return 0.0
  let aMatched := (a.toList.zip aFlags.toList).filterMap fun (c, f) => if f then some c else none
  let bMatched := (b.toList.zip bFlags.toList).filterMap fun (c, f) => if f then some c else none
  let transpositions := ((aMatched.zip bMatched).filter fun (x, y) => x != y).length / 2
  let m := hits.toFloat
  return (m / a.size.toFloat + m / b.size.toFloat + (hits - transpositions).toFloat / m) / 3.0

/-- The long option most similar to a name, when one is similar enough; of equally similar
ones the last. -/
def similar (name : String) : Option Flag :=
  let best := Flag.all.foldl (fun (best : Option (Float × Flag)) f =>
    let c := jaro name f.long
    if c > 0.7 then
      match best with
      | some (b, _) => if c ≥ b then some (c, f) else best
      | none => some (c, f)
    else best) none
  best.map (·.2)

def seenOptions (seen : List Seen) : List Seen :=
  seen.filter (· != .group)

/-! ## Arguments -/

def longArg (body : String) : Read Unit := do
  let name := String.ofList (body.toList.takeWhile (· != '='))
  let value := if body.toList.contains '=' then
      some (String.ofList ((body.toList.dropWhile (· != '=')).drop 1))
    else none
  match Flag.ofLong? name, value with
  | some f, some v =>
    if f.kind.isSome then react f [v]
    else
      let seen := (← get).seen ++ [.flag f]
      settleQuietly
      throw (.fault (.extraValue f v seen))
  | some f, none => if f.kind.isSome then await f else react f []
  | none, _ =>
    settleQuietly
    let tip := similar name
    match tip with
    | some f => note f
    | none => pure ()
    throw (.fault (.unknown ("--" ++ name) tip (seenOptions (← get).seen)))

def shortArg : List Char → Read Unit
  | [] => pure ()
  | c :: rest =>
    match Flag.ofShort? c with
    | none => do
      settleQuietly
      throw (.fault (.unknown ("-" ++ String.singleton c) none []))
    | some f =>
      if f.kind.isNone then do
        react f []
        shortArg rest
      else
        match rest with
        | [] => await f
        | '=' :: v => react f [String.ofList v]
        | v => react f [String.ofList v]

def arg (a : String) : Read Unit := do
  let r ← get
  if r.trailing then throw (.fault (.unknown a none []))
  if a == "--" then
    settle
    modify fun r => { r with trailing := true }
  else if a.startsWith "--" then longArg (String.ofList (a.toList.drop 2))
  else if a.startsWith "-" && a.length > 1 then shortArg (a.toList.drop 1)
  else
    match r.pending with
    | some (f, none) => set { r with pending := some (f, some a) }
    | _ => throw (.fault (.unknown a none []))

/-- What a command line asks for. -/
inductive Request where
  | run (o : Options)
  | help
  | version
  | refused (f : Fault)
  deriving DecidableEq, Repr

/-- Reads a command line. -/
def parse (args : List String) : Request :=
  let steps : Read Unit := do
    args.forM arg
    settle
  match (steps.run.run {}) with
  | (.ok (), r) => .run r.opts
  | (.error .help, _) => .help
  | (.error .version, _) => .version
  | (.error (.fault f), _) => .refused f

/-! ## Messages -/

def programName : String := "bl602_setup"

/-- The usage line after what was seen: every option in the order seen, the group of the
program's own options in place of its members. -/
def usage (seen : List Seen) : String :=
  if seen.isEmpty then programName ++ " [OPTIONS]"
  else
    let grouped := seen.contains .group
    let group := "<" ++ "|".intercalate ((Flag.all.filter Flag.isOwn).map Flag.shown) ++ ">"
    let opts := seen.foldl (fun acc s =>
      match s with
      | .flag f => if (grouped && f.isOwn) || acc.contains f.shown then acc else acc ++ [f.shown]
      | .group => acc) []
    programName ++ String.join ((opts ++ if grouped then [group] else []).map (" " ++ ·))

def Fault.render (f : Fault) : String :=
  let (msg, tip, seen) : String × Option String × Option (List Seen) := match f with
    | .unknown a tip seen =>
      (s!"unexpected argument '{a}' found",
        tip.map fun t => s!"a similar argument exists: '--{t.long}'", some seen)
    | .repeated f => (s!"the argument '{f.shown}' cannot be used multiple times", none, some [])
    | .noValue f => (s!"a value is required for '{f.shown}' but none was supplied", none, none)
    | .badValue f v why => (s!"invalid value '{v}' for '{f.shown}': {why}", none, none)
    | .extraValue f v seen =>
      (s!"unexpected value '{v}' for '{f.shown}' found; no more were expected", none, some seen)
  let tipText := match tip with
    | some t => "\n  tip: " ++ t ++ "\n"
    | none => ""
  let usageText := match seen with
    | some s => "\nUsage: " ++ usage s ++ "\n"
    | none => ""
  "error: " ++ msg ++ "\n" ++ tipText ++ usageText ++ "\nFor more information, try '--help'.\n"

def helpText : String :=
  "BL602 build environment setup - SDK sync, Makefile fixup and make invocation\n\n" ++
  "Usage: bl602_setup [OPTIONS]\n\n" ++
  "Options:\n" ++
  "      --base-dir <DIR>    Directory the SDK/toolchain/project offsets are resolved against\n" ++
  "      --config <FILE>     Settings file (JSON); defaults to ~/.config/bl602-setup/settings.json if present\n" ++
  "      --sdk-remote <URL>  Override the SDK clone URL\n" ++
  "      --skip-install      Do not install host packages\n" ++
  "      --skip-build        Stop after patching the Makefile\n" ++
  "  -j, --jobs <N>          Parallel build jobs (default: logical CPU count)\n" ++
  "      --dry-run           Log mutating commands instead of running them\n" ++
  "      --log-dir <DIR>     Also write a session log file into this directory\n" ++
  "      --print-config      Print the effective settings as JSON and exit\n" ++
  "  -v, --verbose           Enable debug logging\n" ++
  "  -h, --help              Print help\n" ++
  "  -V, --version           Print version\n"

def versionText : String :=
  programName ++ " 0.1.0\n"

end BoardSetup.CommandLine

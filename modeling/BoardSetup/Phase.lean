import BoardSetup.Error

/-!
# Phases of a run

A run goes through six working phases in a fixed order and ends completed or failed. From each
working phase it may move to the next one or to `failed`; the two end phases go nowhere.

`Progress` is what a run has reached: its phase, where it failed and why, what the SDK and
Makefile steps ended with, and which phases the settings skipped. A refused move leaves it as it
was.
-/

namespace BoardSetup

/-- The phases of a run. -/
inductive Phase where
  | environment
  | dependencies
  | sdk
  | validation
  | patching
  | building
  | completed
  | failed
  deriving DecidableEq, Repr

namespace Phase

def all : List Phase :=
  [.environment, .dependencies, .sdk, .validation, .patching, .building, .completed, .failed]

def name : Phase → String
  | .environment => "environment"
  | .dependencies => "dependencies"
  | .sdk => "sdk"
  | .validation => "validation"
  | .patching => "patching"
  | .building => "building"
  | .completed => "completed"
  | .failed => "failed"

def ofName? (n : String) : Option Phase :=
  all.find? (·.name == n)

def next : Phase → List Phase
  | .environment => [.dependencies, .failed]
  | .dependencies => [.sdk, .failed]
  | .sdk => [.validation, .failed]
  | .validation => [.patching, .failed]
  | .patching => [.building, .failed]
  | .building => [.completed, .failed]
  | .completed => []
  | .failed => []

def isTerminal : Phase → Bool
  | .completed | .failed => true
  | _ => false

end Phase

/-- How the SDK step ended. -/
inductive SdkOutcome where
  | upToDate
  | pulled
  | cloned
  deriving DecidableEq, Repr

def SdkOutcome.name : SdkOutcome → String
  | .upToDate => "up-to-date"
  | .pulled => "pulled"
  | .cloned => "cloned"

/-- How the Makefile step ended. -/
inductive PatchOutcome where
  | alreadyPresent
  | appended
  | wouldAppend
  deriving DecidableEq, Repr

/-- What a run has reached. -/
structure Progress where
  phase : Phase := .environment
  failedIn : Option Phase := none
  sdkOutcome : Option SdkOutcome := none
  patchOutcome : Option PatchOutcome := none
  skipped : List Phase := []
  error : Option String := none
  deriving DecidableEq, Repr

namespace Progress

def moveTo (p : Progress) (target : Phase) : Except SetupError Progress :=
  if p.phase.next.contains target then .ok { p with phase := target }
  else .error (.invalidTransition p.phase.name target.name)

/-- Records a failure: the phase it happened in, unless the run had ended, and its message. -/
def recordError (p : Progress) (msg : String) : Progress :=
  { p with
    failedIn := if p.phase.isTerminal then p.failedIn else some p.phase
    error := some msg
    phase := .failed }

def recordSkipped (p : Progress) (ph : Phase) : Progress :=
  { p with skipped := p.skipped ++ [ph] }

end Progress

end BoardSetup

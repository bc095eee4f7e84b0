import BoardSetup.Text.Blank

/-!
# Settings of a setup run

Everything a run can be told: where the SDK, the toolchain and the project lie relative to a base
directory, where the SDK is cloned from, which host packages to install and how, how to build,
which line the project Makefile must hold, and whether to only pretend. The defaults are the stock
setup of the board.

Each field has a `Key`, its name in a settings file, and a `Shape`, the kind of value it holds.
`Settings.check` gives the first reason a run refuses the settings, if there is one.
-/

namespace BoardSetup

/-- The settings of one run. -/
structure Settings where
  baseDir : Option String := none
  sdkRelative : String := "../../bsp/bl_iot_sdk"
  toolchainRelative : String := "../../bsp/bl_iot_sdk/toolchain/riscv/Linux"
  projectRelative : String := "../../bsp/bl_iot_sdk/customer_app/get-start/helloworld"
  sdkRemoteUrl : String := "https://github.com/bouffalolab/bl_iot_sdk.git"
  packages : List String := ["make", "gtkterm"]
  privilegeCommand : Option String := some "sudo"
  skipInstall : Bool := false
  buildTool : String := "make"
  chipName : String := "BL602"
  linkRom : Bool := true
  jobs : Option Nat := none
  skipBuild : Bool := false
  makefileMarker : String := "PROJECT_MK_PATH"
  makefileLine : String := "PROJECT_MK_PATH = $(SDK_PATH)/make_scripts_riscv"
  dryRun : Bool := false
  logDir : Option String := none
  deriving DecidableEq, Repr

namespace Settings

/-- The stock settings. -/
def stock : Settings := {}

/-- The kind of value a field holds. -/
inductive Shape where
  | path
  | optPath
  | text
  | optText
  | flag
  | textList
  | optCount
  deriving DecidableEq, Repr

/-- The fields, in the order they are written. -/
inductive Key where
  | baseDir
  | sdkRelative
  | toolchainRelative
  | projectRelative
  | sdkRemoteUrl
  | packages
  | privilegeCommand
  | skipInstall
  | buildTool
  | chipName
  | linkRom
  | jobs
  | skipBuild
  | makefileMarker
  | makefileLine
  | dryRun
  | logDir
  deriving DecidableEq, Repr

def Key.all : List Key :=
  [.baseDir, .sdkRelative, .toolchainRelative, .projectRelative, .sdkRemoteUrl, .packages,
   .privilegeCommand, .skipInstall, .buildTool, .chipName, .linkRom, .jobs, .skipBuild,
   .makefileMarker, .makefileLine, .dryRun, .logDir]

def Key.name : Key → String
  | .baseDir => "base_dir"
  | .sdkRelative => "sdk_relative"
  | .toolchainRelative => "toolchain_relative"
  | .projectRelative => "project_relative"
  | .sdkRemoteUrl => "sdk_remote_url"
  | .packages => "packages"
  | .privilegeCommand => "privilege_command"
  | .skipInstall => "skip_install"
  | .buildTool => "build_tool"
  | .chipName => "chip_name"
  | .linkRom => "link_rom"
  | .jobs => "jobs"
  | .skipBuild => "skip_build"
  | .makefileMarker => "makefile_marker"
  | .makefileLine => "makefile_line"
  | .dryRun => "dry_run"
  | .logDir => "log_dir"

def Key.ofName? (n : String) : Option Key :=
  Key.all.find? (·.name == n)

def Key.shape : Key → Shape
  | .baseDir | .logDir => .optPath
  | .sdkRelative | .toolchainRelative | .projectRelative => .path
  | .sdkRemoteUrl | .buildTool | .chipName | .makefileMarker | .makefileLine => .text
  | .packages => .textList
  | .privilegeCommand => .optText
  | .skipInstall | .linkRom | .skipBuild | .dryRun => .flag
  | .jobs => .optCount

/-- The value of one field. -/
inductive Datum where
  | absent
  | text (s : String)
  | flag (b : Bool)
  | list (xs : List String)
  | count (n : Nat)
  deriving DecidableEq, Repr

def Datum.ofOption : Option String → Datum
  | some s => .text s
  | none => .absent

def get (s : Settings) : Key → Datum
  | .baseDir => .ofOption s.baseDir
  | .sdkRelative => .text s.sdkRelative
  | .toolchainRelative => .text s.toolchainRelative
  | .projectRelative => .text s.projectRelative
  | .sdkRemoteUrl => .text s.sdkRemoteUrl
  | .packages => .list s.packages
  | .privilegeCommand => .ofOption s.privilegeCommand
  | .skipInstall => .flag s.skipInstall
  | .buildTool => .text s.buildTool
  | .chipName => .text s.chipName
  | .linkRom => .flag s.linkRom
  | .jobs => match s.jobs with | some n => .count n | none => .absent
  | .skipBuild => .flag s.skipBuild
  | .makefileMarker => .text s.makefileMarker
  | .makefileLine => .text s.makefileLine
  | .dryRun => .flag s.dryRun
  | .logDir => .ofOption s.logDir

def Datum.text? : Datum → Option String
  | .text s => some s
  | _ => none

def set (s : Settings) (k : Key) (d : Datum) : Settings :=
  match k, d with
  | .baseDir, d => { s with baseDir := d.text? }
  | .sdkRelative, .text t => { s with sdkRelative := t }
  | .toolchainRelative, .text t => { s with toolchainRelative := t }
  | .projectRelative, .text t => { s with projectRelative := t }
  | .sdkRemoteUrl, .text t => { s with sdkRemoteUrl := t }
  | .packages, .list xs => { s with packages := xs }
  | .privilegeCommand, d => { s with privilegeCommand := d.text? }
  | .skipInstall, .flag b => { s with skipInstall := b }
  | .buildTool, .text t => { s with buildTool := t }
  | .chipName, .text t => { s with chipName := t }
  | .linkRom, .flag b => { s with linkRom := b }
  | .jobs, .count n => { s with jobs := some n }
  | .jobs, .absent => { s with jobs := none }
  | .skipBuild, .flag b => { s with skipBuild := b }
  | .makefileMarker, .text t => { s with makefileMarker := t }
  | .makefileLine, .text t => { s with makefileLine := t }
  | .dryRun, .flag b => { s with dryRun := b }
  | .logDir, d => { s with logDir := d.text? }
  | _, _ => s

def infixOf [BEq α] (needle : List α) : List α → Bool
  | [] => needle.isEmpty
  | h :: t => needle.isPrefixOf (h :: t) || infixOf needle t

def contains (hay needle : String) : Bool :=
  infixOf needle.toList hay.toList

/-- The first reason to refuse the settings, if any. -/
def check (s : Settings) : Option String :=
  if Text.isBlankText s.sdkRemoteUrl then some "SDK remote URL cannot be empty"
  else if Text.isBlankText s.buildTool then some "Build tool cannot be empty"
  else if Text.isBlankText s.chipName then some "Chip name cannot be empty"
  else if s.jobs = some 0 then some "Job count must be at least 1"
  else if s.makefileMarker.isEmpty then some "Makefile marker cannot be empty"
  else if !contains s.makefileLine s.makefileMarker then
    some s!"Makefile line '{s.makefileLine}' does not contain marker '{s.makefileMarker}'"
  else if s.makefileLine.toList.contains '\n' then some "Makefile line must be a single line"
  else if s.privilegeCommand.any Text.isBlankText then
    some "Privilege command cannot be blank (omit it instead)"
  else none

/-- The job count asked for, at least one. -/
def effectiveJobs (s : Settings) : Option Nat :=
  s.jobs.map (max 1)

end Settings

end BoardSetup

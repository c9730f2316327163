/- # Upgrade.Machine -- the checks of an upgrade, and what it acts on

What `wist-upgrader` decides without touching the machine: whether the request is admissible, which
binaries an artifact carries, and which version it is. Digests and version numbers are read by
another crate and are parameters here (`Artifacts`). Then the directory of the binaries, the
upgrader's record, `state/agent_runtime.json`, and the agentd processes that write it. A file that
could not be written whole is left with any content or missing; a rename that fails changes nothing.
The ledger is for the proofs only: what the directory held when the attempt began, whether it has
restarted the service, and what the processes started since then have written.

* `validateRequest`, `resolveTargetVersion`: only forward, unless the request says otherwise.
* `StagedPackage`, `findBinaries`: known binaries, each at most once.
* `Op`, `perform`: the effects of an attempt and how they can go.
* `Nature`, `Machine.nature`: what agentd processes do meanwhile. -/
import WistAgentd.Runtime.WorkHost

namespace WistAgentd.Upgrade
open Theory.Utf8 (isWhitespace trim)
open List
open Exec (Stored)
open WistAgentd.Runtime (UpgradeRecord)
open Theory.Interaction
set_option autoImplicit false

abbrev Bytes := List UInt8

/-! ## Names -/

/-- `AGENTD_BIN_NAME` -/
def agentdBinName : String := "wist-agentd"

/-- `EXEC_BIN_NAME` -/
def execBinName : String := "wist-exec"

/-- `UPGRADER_BIN_NAME` -/
def upgraderBinName : String := "wist-upgrader"

/-- The binaries that are replaced together. -/
def managedBinaries : List String := [agentdBinName, execBinName, upgraderBinName]

def isKnownBinary (name : String) : Bool := managedBinaries.contains name

/-! ## Errors -/

/-- What an install failure adds about the binaries replaced before it. -/
inductive Note
  | nothing
  | rolledBack
  | rollbackFailed (error : String)
  deriving DecidableEq

def Note.text : Note → String
  | .nothing => ""
  | .rolledBack => "; already-replaced binaries were rolled back"
  | .rollbackFailed error => "; rollback of the already-replaced binaries failed: " ++ error

structure UpgradeError where
  reason : String
  detail : String
  note : Note := .nothing

def fail (reason detail : String) : UpgradeError := { reason, detail }

def UpgradeError.display (error : UpgradeError) : String :=
  error.reason ++ ": " ++ error.detail ++ error.note.text

/-! ## The request -/

structure UpgradeRequest where
  workId : String
  targetVersion : Option String
  currentVersion : String
  /-- The path of `wist-agentd`, by its components. -/
  agentdBin : List String
  packageUrl : String
  packageSha256 : String
  allowDowngrade : Bool := false

/-- A path from its components. -/
def displayPath (components : List String) : String := "/" ++ "/".intercalate components

/-- `wist_artifact`, and the debug form (`{:?}`) of a text and of a duration in milliseconds. -/
structure Artifacts where
  parseDigest : String → Option String
  sha256Hex : Bytes → String
  parseVersion : String → Option (List Nat)
  versionIsNewer : String → String → Option Bool
  quoted : String → String
  duration : Nat → String

section Decisions

variable (artifacts : Artifacts)

def digestHex (value : String) : Except UpgradeError String :=
  match artifacts.parseDigest value with
  | some digest => .ok digest
  | none => .error (fail "digest_invalid"
      ("package_sha256 must be 64 hex chars, got " ++ artifacts.quoted value))

/-- The version asked for; an empty one counts as none. -/
def providedTarget (request : UpgradeRequest) : Option String :=
  (request.targetVersion.map trim).filter (· != "")

def ensureNewer (target current : String) : Except UpgradeError Unit :=
  match artifacts.versionIsNewer target current with
  | some true => .ok ()
  | some false => .error (fail "not_newer" ("target " ++ target ++ " is not newer than running " ++
      current ++ " (downgrade and reinstall are refused)"))
  | none => .error (fail "version_uncomparable" ("cannot compare " ++ target ++ " with " ++ current ++
      " as dotted numeric versions"))

/-- Unless the request allows a downgrade, the target has to be newer. -/
def ensureForward (request : UpgradeRequest) (target : String) : Except UpgradeError Unit :=
  if request.allowDowngrade then .ok () else ensureNewer artifacts target request.currentVersion

def validateRequest (request : UpgradeRequest) : Except UpgradeError Unit := do
  if trim request.workId == "" then .error (fail "spec_invalid" "work_id is empty")
  if trim request.packageUrl == "" then .error (fail "spec_invalid" "package_url is empty")
  match providedTarget request with
  | some target => ensureForward artifacts request target
  | none => .ok ()
  let _ ← digestHex artifacts request.packageSha256

def resolveTargetVersion (request : UpgradeRequest) (reported : String) :
    Except UpgradeError String := do
  let target ← match providedTarget request with
    | some target =>
      if target != reported then
        .error (fail "version_mismatch" ("package reports " ++ artifacts.quoted reported ++
          ", target is " ++ artifacts.quoted target))
      else .ok target
    | none => .ok reported
  ensureForward artifacts request target
  .ok target

def verifyDigest (bytes : Bytes) (expected : String) : Except UpgradeError Unit := do
  let expected ← digestHex artifacts expected
  if artifacts.sha256Hex bytes != expected then
    .error (fail "digest_mismatch" ("expected " ++ expected ++ ", got " ++ artifacts.sha256Hex bytes))

def splitWhitespace (text : String) : List String :=
  ((text.toList.splitOnP isWhitespace).filter (· != [])).map String.ofList

/-- The last word that looks like a version: at least two numbers. -/
def parseVersionOutput (stdout : String) : Option String :=
  ((splitWhitespace stdout).reverse.find? fun token =>
    (artifacts.parseVersion token).any (2 ≤ ·.length)).map trim

end Decisions

/-! ## What an artifact carries -/

structure StagedBinary where
  name : String
  path : String
  content : Bytes

/-- Known binaries, none of them twice. -/
structure StagedPackage where
  items : List StagedBinary
  known : ∀ item ∈ items, item.name ∈ managedBinaries
  distinct : (items.map (·.name)).Nodup

namespace StagedPackage

def empty : StagedPackage := ⟨[], nofun, nodup_nil⟩

def add (package : StagedPackage) (item : StagedBinary) (known : item.name ∈ managedBinaries)
    (new : item.name ∉ package.items.map (·.name)) : StagedPackage where
  items := package.items ++ [item]
  known other mem := by
    rcases mem_append.1 mem with old | last
    · exact package.known other old
    · rwa [mem_singleton.1 last]
  distinct := by
    rw [map_append, nodup_append]
    refine ⟨package.distinct, nodup_singleton _, ?_⟩
    rintro name mem _ last rfl
    have same : name = item.name := mem_singleton.1 last
    exact new (same ▸ mem)

/-- A bare binary is `wist-agentd`. -/
def bare (path : String) (content : Bytes) : StagedPackage :=
  empty.add ⟨agentdBinName, path, content⟩ mem_cons_self nofun

def sorted (package : StagedPackage) : StagedPackage where
  items := package.items.insertionSort fun a b => a.name ≤ b.name
  known item mem := package.known item ((perm_insertionSort _ _).mem_iff.1 mem)
  distinct := ((perm_insertionSort _ _).map _).nodup_iff.2 package.distinct

def brings (package : StagedPackage) (name : String) : Bool := package.items.any (·.name == name)

end StagedPackage

/-- An entry of the unpacked artifact, in the order the directory is read. -/
inductive Entry
  | file (name : String) (content : Bytes)
  | symlink (name : String)
  | dir (name : String) (entries : List Entry)
  /-- Reading goes wrong here. -/
  | unreadable (error : String)

/-- `MAX_ARTIFACT_DEPTH` -/
def maxArtifactDepth : Nat := 3

def noteEntry (dir : String) (found : StagedPackage) : Entry → Except UpgradeError StagedPackage
  | .symlink name =>
    if isKnownBinary name then
      .error (fail "artifact_invalid" (name ++ " is a symlink (" ++ dir ++ "/" ++ name ++ ")"))
    else .ok found
  | .dir _ _ => .ok found
  | .unreadable error => .error (fail "artifact_invalid" ("read " ++ dir ++ ": " ++ error))
  | .file name content =>
    if known : name ∈ managedBinaries then
      if new : name ∈ found.items.map (·.name) then
        .error (fail "artifact_invalid" ("artifact carries more than one " ++ name))
      else .ok (found.add ⟨name, dir ++ "/" ++ name, content⟩ known new)
    else .ok found

def subdirectories (dir : String) (entries : List Entry) : List (String × List Entry) :=
  entries.filterMap fun
    | .dir name inner => some (dir ++ "/" ++ name, inner)
    | _ => none

/-- One directory, then what it contains: those pushed last come first. -/
def searchBinaries : Nat → String → List Entry → StagedPackage → Except UpgradeError StagedPackage
  | 0, dir, entries, found => entries.foldlM (noteEntry dir) found
  | levels + 1, dir, entries, found => do
      let found ← entries.foldlM (noteEntry dir) found
      (subdirectories dir entries).reverse.foldlM
        (fun found inner => searchBinaries levels inner.1 inner.2 found) found

def findBinaries (root : String) (entries : List Entry) : Except UpgradeError StagedPackage := do
  let found ← searchBinaries maxArtifactDepth root entries .empty
  if !found.brings agentdBinName then
    .error (fail "artifact_invalid" (agentdBinName ++ " not found in the artifact"))
  .ok found.sorted

def looksGzipped : Bytes → Bool
  | 0x1f :: 0x8b :: _ => true
  | _ => false

/-! ## The machine -/

inductive RestartPlan
  | none
  | command (program : String) (args : List String)

structure UpgradeOptions where
  dryRun : Bool := true
  readyWaitMs : Nat := 60000
  restart : RestartPlan := .none

/-- How an attempt ended. -/
structure Outcome where
  record : UpgradeRecord
  note : Note
  dryRun : Bool

/-- An agentd process. -/
structure Process where
  pid : Nat
  version : String
  /-- It was started after the restart of the attempt. -/
  fresh : Bool
  /-- The version it has read and is about to write back. -/
  held : Option String := none
  deriving DecidableEq

structure Ledger where
  before : String → Option Bytes := fun _ => none
  restarted : Bool := false
  /-- Versions written by processes started after the restart. -/
  writes : List (Nat × String) := []
  outcome : Option Outcome := none

structure Machine where
  /-- The directory of the binaries. -/
  files : String → Option Bytes := fun _ => none
  /-- The upgrader's memory of its record. -/
  record : UpgradeRecord := ⟨"", "", "", "", "", ""⟩
  upgradeFile : Option UpgradeRecord := none
  /-- The version in `agent_runtime.json`. -/
  runtimeFile : Stored String := .missing
  processes : List Process := []
  ledger : Ledger := {}

/-! ## The effects of an attempt -/

/-- What `install` copies: a staged binary, or a file of the directory. -/
inductive Source
  | staged (item : StagedBinary)
  | kept (name : String)

inductive Op
  | begin (request : UpgradeRequest)
  | step (step : String)
  | target (version : String)
  | rolledBack
  | finish (status detail : String)
  | recall
  | storeRecord
  | fetchPackage (source : String)
  | writeBare (bytes : Bytes)
  | unpack (bytes : Bytes)
  | askVersion (binary : StagedBinary)
  | present (name : String)
  | copy (source target : String)
  | install (source : Source) (target : String)
  | move (source target : String)
  | remove (name : String)
  | restart (plan : RestartPlan)
  | runningVersion
  | deadlinePassed
  | conclude (outcome : Outcome)

abbrev Op.Ans : Op → Type
  | .recall => UpgradeRecord
  | .storeRecord => Except String Unit
  | .fetchPackage _ => Bytes
  | .writeBare _ => String
  | .unpack _ => String × List Entry
  | .askVersion _ => String
  | .present _ => Bool
  | .runningVersion => Option String
  | .deadlinePassed => Bool
  | _ => Unit

/-- How an effect goes. -/
inductive Choice
  | done
  | fetched (bytes : Bytes)
  | staged (path : String)
  | unpacked (root : String) (entries : List Entry)
  | told (stdout : String)
  | passed (spent : Bool)
  | failed (error : UpgradeError)
  | refused (error : String)
  /-- It fails and leaves this at the target. -/
  | torn (error : String) (left : Option Bytes)

namespace Machine

variable (machine : Machine)

def put (name : String) (content : Option Bytes) : Machine :=
  { machine with files := Function.update machine.files name content }

def content (machine : Machine) : Source → Option Bytes
  | .staged item => some item.content
  | .kept name => machine.files name

def note (change : UpgradeRecord → UpgradeRecord) : Machine :=
  { machine with record := change machine.record }

/-- `UpgradeRecord::new` -/
def begin (request : UpgradeRequest) : Machine :=
  { machine with
    record := ⟨request.workId, request.currentVersion, request.targetVersion.getD "", "validate",
      "running", ""⟩
    ledger := { before := machine.files } }

/-- From here on processes count as started after the restart; those that run do not. -/
def restarting : Machine :=
  if machine.ledger.restarted then machine
  else { machine with
    processes := machine.processes.map ({ · with fresh := false })
    ledger := { machine.ledger with restarted := true, writes := [] } }

def conclude (outcome : Outcome) : Machine :=
  { machine with ledger := { machine.ledger with outcome := some outcome } }

end Machine

/-- `running_version`: what cannot be read is no version. -/
def runningVersion : Stored String → Option String
  | .intact version => some version
  | .missing | .corrupt => none

def perform : Perform Op Op.Ans UpgradeError Machine Choice
  | .begin request, .done, machine => some (.ok (), machine.begin request)
  | .step step, .done, machine => some (.ok (), machine.note ({ · with step }))
  | .target version, .done, machine => some (.ok (), machine.note ({ · with toVersion := version }))
  | .rolledBack, .done, machine => some (.ok (), machine.note ({ · with status := "rolled_back" }))
  | .finish status detail, .done, machine =>
    some (.ok (), machine.note ({ · with status, detail }))
  | .recall, .done, machine => some (.ok machine.record, machine)
  | .storeRecord, .done, machine =>
    some (.ok (.ok ()), { machine with upgradeFile := some machine.record })
  | .storeRecord, .refused error, machine => some (.ok (.error error), machine)
  | .fetchPackage _, .fetched bytes, machine => some (.ok bytes, machine)
  | .fetchPackage _, .failed error, machine => some (.error error, machine)
  | .writeBare _, .staged path, machine => some (.ok path, machine)
  | .writeBare _, .refused error, machine => some (.error (fail "staging_failed" error), machine)
  | .unpack _, .unpacked root entries, machine => some (.ok (root, entries), machine)
  | .unpack _, .refused error, machine => some (.error (fail "staging_failed" error), machine)
  | .askVersion _, .told stdout, machine => some (.ok stdout, machine)
  | .askVersion _, .refused error, machine => some (.error (fail "artifact_invalid" error), machine)
  | .present name, .done, machine => some (.ok (machine.files name).isSome, machine)
  | .copy source target, .done, machine =>
    (machine.files source).map fun content => (.ok (), machine.put target (some content))
  | .copy source target, .torn error left, machine =>
    some (.error (fail "install_failed" ("backup " ++ source ++ ": " ++ error)),
      machine.put target left)
  | .install source target, .done, machine =>
    (machine.content source).map fun content => (.ok (), machine.put target (some content))
  | .install _ target, .torn error left, machine =>
    some (.error (fail "command_failed" error), machine.put target left)
  | .move source target, .done, machine =>
    (machine.files source).map fun content =>
      (.ok (), (machine.put target (some content)).put source none)
  | .move _ _, .refused error, machine => some (.error (fail "command_failed" error), machine)
  | .remove name, .done, machine => some (.ok (), machine.put name none)
  | .remove name, .refused error, machine =>
    some (.error (fail "rollback_failed" ("remove " ++ name ++ ": " ++ error)), machine)
  | .restart _, .done, machine => some (.ok (), machine.restarting)
  | .restart (.command _ _), .refused error, machine =>
    some (.error (fail "command_failed" error), machine.restarting)
  | .runningVersion, .done, machine => some (.ok (runningVersion machine.runtimeFile), machine)
  | .deadlinePassed, .passed spent, machine => some (.ok spent, machine)
  | .conclude outcome, .done, machine => some (.ok (), machine.conclude outcome)
  | _, _, _ => none

/-! ## The agentd processes -/

inductive Nature
  | spawn (pid : Nat) (version : String)
  /-- `initialize_runtime_state_async`: the version becomes that of the binary. -/
  | startUp (pid : Nat)
  /-- A tick reads the file, and writes it back with a new time stamp. -/
  | load (pid : Nat)
  | store (pid : Nat)
  /-- A local identity is given up, and a new one written. -/
  | discard (pid : Nat)
  | enroll (pid : Nat)
  | exit (pid : Nat)

namespace Machine

variable (machine : Machine)

def processAt (pid : Nat) : Option Process :=
  machine.processes.find? (·.pid == pid)

def updateProcess (process updated : Process) : Machine :=
  { machine with
    processes := machine.processes.map fun other => if other = process then updated else other }

/-- A process writes a version into the file. -/
def write (process : Process) (version : String) : Machine :=
  { machine with
    runtimeFile := .intact version
    ledger := { machine.ledger with
      writes := if process.fresh then machine.ledger.writes ++ [(process.pid, version)]
        else machine.ledger.writes } }

/-- `load_or_default`: a missing file reads as one of this binary, a damaged one not at all. -/
def loaded (process : Process) : Option String :=
  match machine.runtimeFile with
  | .intact version => some version
  | .missing => some process.version
  | .corrupt => none

def nature : Nature → Option Machine
  | .spawn pid version =>
    if (machine.processAt pid).isSome then none
    else some { machine with
      processes := machine.processes ++ [⟨pid, version, machine.ledger.restarted, none⟩] }
  | .startUp pid =>
    (machine.processAt pid).bind fun process =>
      (machine.loaded process).map fun _ => machine.write process process.version
  | .load pid =>
    (machine.processAt pid).bind fun process =>
      (machine.loaded process).map fun version =>
        machine.updateProcess process { process with held := some version }
  | .store pid =>
    (machine.processAt pid).bind fun process =>
      process.held.map fun version =>
        (machine.write process version).updateProcess process { process with held := none }
  | .discard pid =>
    (machine.processAt pid).map fun _ => { machine with runtimeFile := .missing }
  | .enroll pid =>
    (machine.processAt pid).map fun process => machine.write process process.version
  | .exit pid =>
    (machine.processAt pid).map fun _ =>
      { machine with processes := machine.processes.filter (·.pid != pid) }

end Machine

end WistAgentd.Upgrade

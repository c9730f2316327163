/- # Upgrade.Apply -- one attempt of the upgrader

`apply`: check, fetch, stage, replace the binaries, restart the service, wait for the new version;
whatever goes wrong after the first replacement puts the old binaries back.

* `installBinaries`, `restoreBackups`: replacing and putting back.
* `waitForVersion`: the new version is up once the file of the daemon names it.
* `apply`, `upgradeService`: the attempt, and the process that makes it. -/
import WistAgentd.Upgrade.Machine
import WistAgentd.Theory.Service

namespace WistAgentd.Upgrade
open WistAgentd.Runtime (UpgradeRecord)
open Theory.Interaction
set_option autoImplicit false

abbrev App := Prog Op Op.Ans UpgradeError

def ask (op : Op) : App op.Ans := Prog.call op

/-- A pure decision as a part of the program. -/
def decided {α : Type} : Except UpgradeError α → App α
  | .ok value => pure value
  | .error error => .throw error

/-- A step is entered and written down, if it can be. -/
def enter (step : String) : App Unit := do
  ask (.step step)
  let _ ← ask .storeRecord

/-! ## Before anything is replaced -/

section Checks

variable (artifacts : Artifacts)

def stagePackage (bytes : Bytes) : App StagedPackage :=
  if looksGzipped bytes then do
    let unpacked ← ask (.unpack bytes)
    decided (findBinaries unpacked.1 unpacked.2)
  else do
    let path ← ask (.writeBare bytes)
    pure (.bare path bytes)

/-- The version in what the staged agentd prints. -/
def reportedVersion (path stdout : String) : Except UpgradeError String :=
  let reported := (parseVersionOutput artifacts stdout).getD ""
  if Theory.Utf8.trim reported == "" then
    .error (fail "artifact_invalid" (path ++ " did not report a version"))
  else .ok reported

def verifyStagedAgentd (package : StagedPackage) : App String :=
  match package.items.find? (·.name == agentdBinName) with
  | none => .throw (fail "artifact_invalid" "staged artifact has no wist-agentd")
  | some agentd => do
      let stdout ← ask (.askVersion agentd)
      decided (reportedVersion artifacts agentd.path stdout)

/-- A sibling that the package does not carry must not be installed. -/
def refuseSibling (binDir name : String) : App Unit := do
  match ← ask (.present name) with
  | true => .throw (fail "artifact_invalid" (name ++ " already exists in " ++ binDir ++
      ": the artifact must carry it too, otherwise the upgrade would leave it at the old version"))
  | false => pure ()

/-- All three binaries, or only agentd where the others are not installed. -/
def checkUpgradeKeepsBinDirectoryConsistent (package : StagedPackage) (binDir : String) : App Unit :=
  let exec := package.brings execBinName
  let upgrader := package.brings upgraderBinName
  if exec != upgrader then
    .throw (fail "artifact_invalid" ("the artifact carries " ++ execBinName ++ "=" ++ toString exec ++
      ", " ++ upgraderBinName ++ "=" ++ toString upgrader ++
      ": a package must carry all three binaries, or only " ++ agentdBinName))
  else if exec then pure ()
  else do
    refuseSibling binDir execBinName
    refuseSibling binDir upgraderBinName

/-- Fetch, verify and stage the package; its target version is the one it reports. -/
def verifyPackage (request : UpgradeRequest) : App (StagedPackage × String) := do
  ask (.step "validate")
  decided (validateRequest artifacts request)
  enter "fetch"
  let bytes ← ask (.fetchPackage request.packageUrl)
  enter "verify_digest"
  decided (verifyDigest artifacts bytes request.packageSha256)
  enter "stage"
  let package ← stagePackage bytes
  enter "verify_artifact"
  let reported ← verifyStagedAgentd artifacts package
  let targetVersion ← decided (resolveTargetVersion artifacts request reported)
  pure (package, targetVersion)

/-- Whether the package fits what is installed. -/
def checkPlace (request : UpgradeRequest) (package : StagedPackage) : App Unit :=
  if request.agentdBin = [] then
    .throw (fail "install_failed" ("no parent directory for " ++ displayPath request.agentdBin))
  else checkUpgradeKeepsBinDirectoryConsistent package (displayPath request.agentdBin.dropLast)

/-- The steps up to the first change of the machine. -/
def prepare (request : UpgradeRequest) : App (StagedPackage × String) := do
  let verified ← verifyPackage artifacts request
  ask (.target verified.2)
  let _ ← ask .storeRecord
  checkPlace request verified.1
  pure verified

end Checks

/-! ## Replacing and putting back -/

def backupPath (name currentVersion : String) : String := name ++ ".bak-" ++ currentVersion

def newPath (name : String) : String := name ++ ".new"

def rollbackPath (name : String) : String := name ++ ".rollback"

structure Backup where
  installed : String
  backup : String
  existed : Bool

def restoreBackup (backup : Backup) : App Unit :=
  if backup.existed then do
    match ← ask (.present backup.backup) with
    | true =>
      ask (.install (.kept backup.backup) (rollbackPath backup.installed))
      ask (.move (rollbackPath backup.installed) backup.installed)
    | false => .throw (fail "rollback_failed" ("missing backup " ++ backup.backup))
  else do
    match ← ask (.present backup.installed) with
    | true => ask (.remove backup.installed)
    | false => pure ()

def restoreBackups (backups : List Backup) : App Unit := Prog.forEach backups restoreBackup

/-- A backup is made where there is none of this version yet. -/
def backUp (currentVersion : String) (existed : Bool) (name : String) : App Unit :=
  if existed then do
    match ← ask (.present (backupPath name currentVersion)) with
    | true => pure ()
    | false => ask (.copy name (backupPath name currentVersion))
  else pure ()

def replaceBinary (currentVersion : String) (existed : Bool) (item : StagedBinary) : App Unit := do
  backUp currentVersion existed item.name
  ask (.install (.staged item) (newPath item.name))
  ask (.move (newPath item.name) item.name)

/-- What was replaced before a failure is put back. -/
def undoReplaced (backups : List Backup) (error : UpgradeError) : App (List Backup) := do
  match ← (restoreBackups backups).attempt with
  | .ok () => .throw { error with note := .rolledBack }
  | .error failure => .throw { error with note := .rollbackFailed failure.display }

def installBinaries (currentVersion : String) (dryRun : Bool) :
    List StagedBinary → List Backup → App (List Backup)
  | [], backups => pure backups
  | item :: rest, backups => do
      let existed ← ask (.present item.name)
      let backup : Backup := ⟨item.name, backupPath item.name currentVersion, existed⟩
      if dryRun then installBinaries currentVersion dryRun rest (backups ++ [backup])
      else do
        match ← (replaceBinary currentVersion existed item).attempt with
        | .ok () => installBinaries currentVersion dryRun rest (backups ++ [backup])
        | .error error => undoReplaced backups error

/-! ## Restart and readiness -/

/-- Between two looks at least a second passes, so that after `polls` of them the deadline is
over. -/
def waitForVersion (targetVersion : String) : Nat → App Bool
  | 0 => do
      let version ← ask .runningVersion
      pure (version == some targetVersion)
  | polls + 1 => do
      let version ← ask .runningVersion
      if version == some targetVersion then pure true
      else do
        if ← ask .deadlinePassed then pure false else waitForVersion targetVersion polls

/-- `rolled_back` is written only where everything was put back. -/
def noteRollback : Except UpgradeError Unit → App Unit
  | .ok () => ask .rolledBack
  | .error _ => pure ()

def failureText (label : String) : Except UpgradeError Unit → String
  | .ok () => ""
  | .error failure => label ++ failure.display

/-- Put everything back, restart, and say which of the two failed. -/
def rollBack (backups : List Backup) (plan : RestartPlan) (reason detail : String) : App Unit := do
  let rollback ← (restoreBackups backups).attempt
  let retry ← (ask (.restart plan)).attempt
  noteRollback rollback
  .throw (fail reason (detail ++ failureText "; rollback failed: " rollback ++
    failureText "; restart after rollback failed: " retry))

/-- The number of looks that fit before the deadline. -/
def polls (readyWaitMs : Nat) : Nat := (readyWaitMs + 999) / 1000

variable (artifacts : Artifacts)

/-- The new binaries are in place. -/
def bringUp (options : UpgradeOptions) (targetVersion : String) (backups : List Backup)
    : App Unit := do
  enter "restart"
  match ← (ask (.restart options.restart)).attempt with
  | .error error => rollBack backups options.restart "restart_failed" error.display
  | .ok () => do
      enter "wait_ready"
      match ← waitForVersion targetVersion (polls options.readyWaitMs) with
      | true => pure ()
      | false =>
        rollBack backups options.restart "not_ready" ("new version did not report " ++
          targetVersion ++ " within " ++ artifacts.duration options.readyWaitMs)

def applyInner (request : UpgradeRequest) (options : UpgradeOptions) : App Unit := do
  let prepared ← prepare artifacts request
  enter "install"
  let backups ← installBinaries request.currentVersion options.dryRun prepared.1.items []
  if options.dryRun then pure () else bringUp artifacts options prepared.2 backups

/-- The result is written down; that this can fail does not make it another one. -/
def finish (dryRun : Bool) (note : Note) : App Unit := do
  let stored ← ask .storeRecord
  let record ← ask .recall
  let record := match stored with
    | .ok () => record
    | .error error => { record with detail := record.detail ++ "; record store failed: " ++ error }
  ask (.conclude { record, note, dryRun })

def apply (request : UpgradeRequest) (options : UpgradeOptions) : App Unit := do
  ask (.begin request)
  match ← (applyInner artifacts request options).attempt with
  | .ok () =>
    ask (.finish "succeeded" "")
    finish options.dryRun .nothing
  | .error error =>
    let record ← ask .recall
    ask (.finish (if record.status == "rolled_back" then "rolled_back" else "failed") error.display)
    finish options.dryRun error.note

/-! ## What only looks -/

/-- Effects that change nothing but notes. -/
def Op.isRead : Op → Bool
  | .step _ | .recall | .storeRecord | .fetchPackage _ | .writeBare _ | .unpack _ | .askVersion _
  | .present _ | .runningVersion | .deadlinePassed => true
  | _ => false

section Reads

/-- Only such effects. -/
def Reads {α : Type} (prog : App α) : Prop := prog.Uses (fun op => op.isRead = true) fun _ _ => True

theorem reads_ask {op : Op} (reads : op.isRead = true) : Reads (ask op) := Prog.uses_call reads

theorem reads_bind {α β : Type} {prog : App α} {next : α → App β} (head : Reads prog)
    (tail : ∀ value, Reads (next value)) : Reads (prog >>= next) := Prog.uses_bind head tail

theorem reads_decided {α : Type} (decision : Except UpgradeError α) : Reads (decided decision) := by
  cases decision <;> trivial

theorem reads_enter (step : String) : Reads (enter step) :=
  reads_bind (reads_ask rfl) fun _ => reads_bind (reads_ask rfl) fun _ => trivial

theorem reads_stagePackage (bytes : Bytes) : Reads (stagePackage bytes) := by
  unfold stagePackage
  split
  · exact reads_bind (reads_ask rfl) fun _ => reads_decided _
  · exact reads_bind (reads_ask rfl) fun _ => trivial

theorem reads_verifyStagedAgentd (package : StagedPackage) :
    Reads (verifyStagedAgentd artifacts package) := by
  unfold verifyStagedAgentd
  split
  · trivial
  · refine reads_bind (reads_ask rfl) fun stdout => ?_
    generalize reportedVersion artifacts _ stdout = decision
    exact reads_decided decision

theorem reads_refuseSibling (binDir name : String) : Reads (refuseSibling binDir name) := by
  refine reads_bind (reads_ask rfl) fun found => ?_
  cases found <;> trivial

theorem reads_check (package : StagedPackage) (binDir : String) :
    Reads (checkUpgradeKeepsBinDirectoryConsistent package binDir) := by
  unfold checkUpgradeKeepsBinDirectoryConsistent
  dsimp only
  split
  · trivial
  · split
    · trivial
    · exact reads_bind (reads_refuseSibling _ _) fun _ => reads_refuseSibling _ _

theorem reads_checkPlace (request : UpgradeRequest) (package : StagedPackage) :
    Reads (checkPlace request package) := by
  unfold checkPlace
  split
  · trivial
  · exact reads_check _ _

theorem reads_verifyPackage (request : UpgradeRequest) : Reads (verifyPackage artifacts request) :=
  reads_bind (reads_ask rfl) fun _ => reads_bind (reads_decided _) fun _ =>
  reads_bind (reads_enter _) fun _ => reads_bind (reads_ask rfl) fun bytes =>
  reads_bind (reads_enter _) fun _ => reads_bind (reads_decided _) fun _ =>
  reads_bind (reads_enter _) fun _ => reads_bind (reads_stagePackage bytes) fun package =>
  reads_bind (reads_enter _) fun _ =>
  reads_bind (reads_verifyStagedAgentd artifacts package) fun _ =>
  reads_bind (reads_decided _) fun _ => trivial

theorem reads_dryInstall (version : String) (items : List StagedBinary) :
    ∀ backups, Reads (installBinaries version true items backups) := by
  induction items with
  | nil => exact fun _ => trivial
  | cons item rest ih => exact fun backups => reads_bind (reads_ask rfl) fun _ => ih _

end Reads

/-! ## The upgrader among the processes -/

def upgradeService :
    Service Op Op.Ans UpgradeError Unit Machine Choice (UpgradeRequest × UpgradeOptions) Nature where
  perform := perform
  job := fun job => apply artifacts job.1 job.2
  boot := id
  crash := id
  nature := Machine.nature

abbrev System := Service.State Op Op.Ans UpgradeError Unit Machine

abbrev Event := Service.Event Choice (UpgradeRequest × UpgradeOptions) Nature

end WistAgentd.Upgrade

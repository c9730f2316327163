/- # Telemetry.Files.Checkpoint -- what stands at a path, and the entries recorded for it

`decide_resume_async` compares the two; `checkpoint_support.rs` keeps the entry list of one input and
looks for a renamed file. -/
import WistAgentd.StateStore.LogCheckpointState
import WistAgentd.Theory.FirstMatch

namespace WistAgentd.Telemetry
open Theory.FirstMatch
set_option autoImplicit false

inductive StartupPosition
  | head | tail

structure ResumeDecision where
  startOffset : Nat
  rotatedFromPath : Option Path
  truncated : Bool
  rotated : Bool
  deriving DecidableEq

/-- A file shorter than the fingerprint window keeps its fingerprint as a prefix when it grows. -/
def shortFileAppendKeepsPrefix (previous : TrackedFileCheckpoint) (current : ObservedFileIdentity)
    (previousFingerprint currentFingerprint : Hex) : Bool :=
  match previous.lastSize with
  | none => false
  | some previousSize =>
    decide (previousSize < 32) && decide (previousSize < current.fileLen) &&
      previousFingerprint.isPrefixOf currentFingerprint

def fingerprintsMatch (previous : TrackedFileCheckpoint) (current : ObservedFileIdentity) : Bool :=
  match previous.fingerprint, current.fingerprint with
  | some previousFingerprint, some currentFingerprint =>
    decide (previousFingerprint = currentFingerprint) ||
      shortFileAppendKeepsPrefix previous current previousFingerprint currentFingerprint
  | _, _ => true

def checkpointProbeMatches (fs : FileSystem) (path : Path) (previous : TrackedFileCheckpoint) :
    Except IoError Bool :=
  if previous.checkpointOffset = 0 then .ok true
  else match previous.checkpointProbe with
    | none => .ok true
    | some expected => match checkpointProbe fs path previous.checkpointOffset with
      | .error err => .error err
      | .ok probe => .ok (decide (probe = some expected))

/-- `previous` still is the file at the path. -/
def sameIdentity (sourcePath : Path) (current : ObservedFileIdentity)
    (previous : TrackedFileCheckpoint) : Bool :=
  let samePath := decide (previous.path = "") || decide (previous.path = sourcePath)
  if previous.deviceId.isSome && previous.inode.isSome && current.deviceId.isSome &&
      current.inode.isSome then
    samePath && decide (previous.deviceId = current.deviceId) &&
      decide (previous.inode = current.inode) && fingerprintsMatch previous current
  else samePath && fingerprintsMatch previous current

def decideResume (fs : FileSystem) (sourcePath : Path) (current : ObservedFileIdentity)
    (previous : Option TrackedFileCheckpoint) (startupPosition : StartupPosition) :
    ResumeDecision :=
  match previous with
  | none =>
    { startOffset := match startupPosition with
        | .head => 0
        | .tail => current.fileLen
      rotatedFromPath := none, truncated := false, rotated := false }
  | some previous =>
    if sameIdentity sourcePath current previous then
      if current.fileLen < previous.checkpointOffset ||
          !((checkpointProbeMatches fs sourcePath previous).toOption.getD false) then
        { startOffset := 0, rotatedFromPath := none, truncated := true, rotated := false }
      else
        { startOffset := previous.checkpointOffset, rotatedFromPath := none
          truncated := false, rotated := false }
    else
      { startOffset := 0
        rotatedFromPath := some (if previous.path = "" then sourcePath else previous.path)
        truncated := false, rotated := true }

def nodeOf (device inode : Option Nat) : Option NodeId :=
  match device, inode with
  | some device, some inode => some ⟨device, inode⟩
  | _, _ => none

def ObservedFileIdentity.node (identity : ObservedFileIdentity) : Option NodeId :=
  nodeOf identity.deviceId identity.inode

def TrackedFileCheckpoint.node (entry : TrackedFileCheckpoint) : Option NodeId :=
  nodeOf entry.deviceId entry.inode

def checkpointForPath (state : LogCheckpointState) (sourcePath : Path) :
    Option TrackedFileCheckpoint :=
  state.files.find? fun entry => entry.path = sourcePath

def relocateCheckpointPath (state : LogCheckpointState) (previous : TrackedFileCheckpoint)
    (rotatedPath : Path) : LogCheckpointState :=
  { state with
    files := updateFirst
      (fun entry => decide (entry.fileId = previous.fileId) || decide (entry.path = previous.path))
      (fun entry => { entry with path := rotatedPath }) state.files }

/-- Both sides have a device and an inode, and they agree. -/
def inodePairMatches (leftDevice leftInode rightDevice rightInode : Option Nat) : Bool :=
  match leftDevice, leftInode, rightDevice, rightInode with
  | some leftDevice, some leftInode, some rightDevice, some rightInode =>
    decide (leftDevice = rightDevice) && decide (leftInode = rightInode)
  | _, _, _, _ => false

def matchesByFingerprint (fs : FileSystem) (previous : TrackedFileCheckpoint) (path : Path) :
    Bool :=
  if previous.deviceId.isSome || previous.inode.isSome then false
  else match previous.fingerprint with
    | none => false
    | some fingerprint => match inspectPath fs path with
      | .ok identity => decide (identity.fingerprint = some fingerprint)
      | .error _ => false

def rotatedEntryMatches (fs : FileSystem) (previous : TrackedFileCheckpoint) (entry : DirEntry) :
    Bool :=
  inodePairMatches previous.deviceId previous.inode (some entry.node.device)
    (some entry.node.inode) || matchesByFingerprint fs previous entry.path

/-- `find_rotated_path_async`: the first other name in the directory that has the old node. -/
def findRotatedPath (fs : FileSystem) (sourcePath : Path) (previous : TrackedFileCheckpoint) :
    Except IoError (Option Path) :=
  match parent sourcePath with
  | none => .ok none
  | some dir => match fs.readDir dir with
    | .error err => .error err
    | .ok entries =>
      .ok ((entries.find? fun entry =>
        decide (entry.path ≠ sourcePath) && rotatedEntryMatches fs previous entry).map
          DirEntry.path)

structure CheckpointUpdate where
  checkpointOffset : Nat
  observedAt : String
  realPath : Path
  pendingMultiline : Option PendingMultilineState
  rotatedFromPath : Option Path

def checkpointFromObservation (fileId : FileId) (path : Path) (identity : ObservedFileIdentity)
    (checkpointProbe : Option Hex) (update : CheckpointUpdate) : TrackedFileCheckpoint :=
  { fileId, path, deviceId := identity.deviceId, inode := identity.inode
    fingerprint := identity.fingerprint, checkpointOffset := update.checkpointOffset
    checkpointProbe, lastSize := some identity.fileLen, lastReadAt := some update.observedAt
    lastCommitPointAt := some update.observedAt, rotatedFromPath := update.rotatedFromPath
    realPath := update.realPath, pendingMultiline := update.pendingMultiline }

def storedIdentityMatches (checkpoint : TrackedFileCheckpoint) (identity : ObservedFileIdentity)
    (sourcePath : Path) : Bool :=
  inodePairMatches checkpoint.deviceId checkpoint.inode identity.deviceId identity.inode ||
    (decide (checkpoint.path = sourcePath) && checkpoint.fingerprint.isSome &&
      decide (checkpoint.fingerprint = identity.fingerprint))

/-- Keep the entry at `keepIndex`, drop the others at its path. -/
def keepOnlyNewestAtPath (files : List TrackedFileCheckpoint) (path : Path) (keepIndex : Nat) :
    List TrackedFileCheckpoint :=
  keepAt (fun entry => decide (entry.path ≠ path)) keepIndex files

def upsertCheckpoint (fs : FileSystem) (state : LogCheckpointState) (sourcePath : Path)
    (identity : ObservedFileIdentity) (update : CheckpointUpdate) : LogCheckpointState :=
  let fileId := stableFileId fs sourcePath identity
  let probe := (checkpointProbe fs sourcePath update.checkpointOffset).toOption.getD none
  let existing := state.files.findIdx? fun entry =>
    decide (entry.fileId = fileId) || storedIdentityMatches entry identity sourcePath
  match existing with
  | some index =>
    let path := (state.files[index]?.map TrackedFileCheckpoint.path).getD sourcePath
    let checkpoint := checkpointFromObservation fileId path identity probe update
    { state with files := keepOnlyNewestAtPath (state.files.set index checkpoint) path index }
  | none =>
    let checkpoint := checkpointFromObservation fileId sourcePath identity probe update
    { state with
      files := keepOnlyNewestAtPath (state.files ++ [checkpoint]) sourcePath state.files.length }

def checkpointRealPath (checkpoint : TrackedFileCheckpoint) : Path :=
  if checkpoint.realPath = "" then checkpoint.path else checkpoint.realPath

end WistAgentd.Telemetry

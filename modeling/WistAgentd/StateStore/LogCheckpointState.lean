/- # StateStore.LogCheckpointState -- the persisted checkpoint of one input

The two fields nothing reads any more (`schema_version`, the per-input `next_seq`) are left out. -/
import WistAgentd.Telemetry.Files.FileReader

namespace WistAgentd.Telemetry
set_option autoImplicit false

structure PendingMultilineState where
  sourcePath : Path
  lastUpdatedAt : String
  record : Record
  deriving DecidableEq

structure TrackedFileCheckpoint where
  fileId : FileId
  path : Path
  deviceId : Option Nat
  inode : Option Nat
  fingerprint : Option Hex
  checkpointOffset : Nat
  checkpointProbe : Option Hex
  lastSize : Option Nat
  lastReadAt : Option String
  lastCommitPointAt : Option String
  rotatedFromPath : Option Path
  /-- Empty when it is the same as `path`. -/
  realPath : Path
  pendingMultiline : Option PendingMultilineState
  deriving DecidableEq

structure LogCheckpointState where
  inputId : String
  updatedAt : String
  lastScanMs : Option Int
  pendingMultiline : Option PendingMultilineState
  files : List TrackedFileCheckpoint
  deriving DecidableEq

def LogCheckpointState.new (inputId updatedAt : String) : LogCheckpointState :=
  { inputId, updatedAt, lastScanMs := none, pendingMultiline := none, files := [] }

end WistAgentd.Telemetry

/- # Telemetry.Files.Family -- one tick of a file-family input

`FileFamilyProcessor::process_once_async`: many files under one input and one budget. A file whose
name now belongs to another node is looked for under a new name in its directory and drained there
first. A file that cannot be read does not stop the others; its error is reported after the commit.

* `admitPaths`: the working set of a tick.
* `drainRotated`, `readOneFile`: what happens to one path.
* `pruneFamilyState`: which entries a scan lets go of.
* `collectFamilyBatch`, `processFamilyOnce`: the tick. -/
import WistAgentd.Telemetry.Files.FileInput

namespace WistAgentd.Telemetry
open Theory.Crash Theory.FirstMatch
set_option autoImplicit false

variable (ext : Externals) (state : LogCheckpointState) (config : FileInputConfig) (env : TickEnv)

/-- The result of `resolve_family_paths`. -/
structure FamilySelection where
  selected : List Path
  deselected : List Path
  filtered : Nat
  identityUnknown : Nat

def FamilySelection.none : FamilySelection := ⟨[], [], 0, 0⟩

/-- The surroundings of a family tick: also the wall clock and what a scan would find. -/
structure FamilyEnv extends TickEnv where
  nowMs : Int
  selection : Except IoError FamilySelection

def hasGlob (target : String) : Bool :=
  target.toList.any fun char => decide (char = '*' ∨ char = '?' ∨ char = '[')

structure FamilyCheckpoint where
  displayPath : Path
  realPath : Path
  identity : ObservedFileIdentity
  checkpointOffset : Nat
  pendingMultiline : Option PendingMultilineState

/-- The batch under construction together with the entry list and the budget left. -/
structure FamilyBatch where
  state : LogCheckpointState
  out : Outlet
  budget : ReadLimits
  checkpoints : List FamilyCheckpoint
  checkpointOffset : Nat
  truncatedLines : Nat
  readLines : Nat
  rotated : Bool
  truncated : Bool
  failure : Option IoError

def FamilyBatch.new (out : Outlet) (budget : ReadLimits) : FamilyBatch :=
  { state, out, budget, checkpoints := [], checkpointOffset := 0, truncatedLines := 0
    readLines := 0, rotated := false, truncated := false, failure := none }

def FamilyBatch.exhausted (batch : FamilyBatch) : Bool :=
  decide (batch.budget.maxLines = 0) || decide (batch.budget.maxBytes = 0)

/-! ## One file -/

/-- Lines of `node` under `path` go through the folder; without a line, an idle block is sealed. -/
def foldRead (observedAt : String) (out : Outlet) (path : Path) (read : ReadFromOffset)
    (pending : Option PendingMultilineState) :
    Outlet × Option PendingMultilineState :=
  let folded := recordsFromRead ext config.fold out read.identity.node path read.lines pending
  if read.lines.isEmpty && pendingShouldFlush ext config.multilineMode folded.2 observedAt then
    (recordsFromPending ext config.fold folded.1 read.identity.node folded.2, none)
  else folded

/-- What a read from `startOffset` adds to the batch, the budget included. -/
def FamilyBatch.account (batch : FamilyBatch) (out : Outlet) (read : ReadFromOffset)
    (startOffset : Nat) : FamilyBatch :=
  { batch with
    out
    checkpointOffset := max batch.checkpointOffset read.committedEndOffset
    truncatedLines := batch.truncatedLines + read.truncatedLines
    readLines := batch.readLines + read.lines.length
    budget :=
      { batch.budget with
        maxLines := batch.budget.maxLines - read.lines.length
        maxBytes := batch.budget.maxBytes - (read.committedEndOffset - startOffset) } }

/-- `drain_rotated`: the entry moves to the new name before that file is read. -/
def drainRotated (previous : TrackedFileCheckpoint) (batch : FamilyBatch) :
    FamilyBatch × Except IoError Bool :=
  match findRotatedPath env.fs (checkpointRealPath previous) previous with
  | .error err => (batch, .error err)
  | .ok none => (batch, .ok false)
  | .ok (some rotatedPath) =>
    let pending := rebindPendingSourceOnRotate previous.pendingMultiline previous.path rotatedPath
    let moved := { batch with state := relocateCheckpointPath batch.state previous rotatedPath }
    match readFromOffset env.fs rotatedPath previous.checkpointOffset moved.budget with
    | .error err => (moved, .error err)
    | .ok read =>
      let folded := foldRead ext config env.observedAt moved.out rotatedPath read pending
      let accounted := moved.account folded.1 read previous.checkpointOffset
      ({ accounted with
        checkpoints := accounted.checkpoints ++
          [⟨rotatedPath, env.fs.realPath rotatedPath, read.identity, read.committedEndOffset,
            folded.2⟩] }, .ok true)

section

variable (display : Path) (tracked : Option TrackedFileCheckpoint)

/-- A tracked path without a file: its tail is drained elsewhere, or its open block is sealed. -/
def readMissing (batch : FamilyBatch) :
    FamilyBatch × Option IoError :=
  match tracked with
  | none => (batch, none)
  | some previous => match drainRotated ext config env previous batch with
    | (drained, .error err) => (drained, some err)
    | (drained, .ok true) => (drained, none)
    | (drained, .ok false) =>
      let entry := checkpointForPath drained.state display
      let state := { drained.state with
        files := updateFirst (fun entry => decide (entry.path = display))
          (fun entry => { entry with pendingMultiline := none }) drained.state.files }
      ({ drained with
        state
        out := recordsFromPending ext config.fold drained.out
          (entry.bind TrackedFileCheckpoint.node)
          (entry.bind TrackedFileCheckpoint.pendingMultiline) }, none)

/-- Before the read of a path that belongs to another node now: drain the old node where it went,
or let go of its entry and seal its block. -/
def leaveRotated (pending : Option PendingMultilineState)
    (batch : FamilyBatch) : FamilyBatch × Option IoError :=
  let drained := match tracked with
    | some previous => drainRotated ext config env previous batch
    | none => (batch, .ok false)
  match drained with
  | (drained, .error err) => (drained, some err)
  | (drained, .ok true) => ({ drained with rotated := true }, none)
  | (drained, .ok false) =>
    ({ drained with
      state := { drained.state with
        files := drained.state.files.filter fun entry => decide (entry.path ≠ display) }
      out := recordsFromPending ext config.fold drained.out
        (tracked.bind TrackedFileCheckpoint.node) pending
      rotated := true }, none)

/-- The read of the path itself. An entry that would not change is not committed again. -/
def readPresent (startOffset : Nat)
    (pending : Option PendingMultilineState) (batch : FamilyBatch) :
    FamilyBatch × Option IoError :=
  let realPath := env.fs.realPath display
  match readFromOffset env.fs realPath startOffset batch.budget with
  | .error err => (batch, some err)
  | .ok read =>
    let folded := foldRead ext config env.observedAt batch.out display read pending
    let accounted := batch.account folded.1 read startOffset
    let unchanged := tracked.any fun previous =>
      decide (previous.checkpointOffset = read.committedEndOffset) &&
        decide (previous.pendingMultiline = folded.2) &&
        decide (checkpointRealPath previous = realPath)
    (if unchanged then accounted
     else { accounted with
        checkpoints := accounted.checkpoints ++
          [⟨display, realPath, read.identity, read.committedEndOffset, folded.2⟩] }, none)

end

/-- `read_one_file`. -/
def readOneFile (firstScan : Bool) (display : Path) (batch : FamilyBatch)
    : FamilyBatch × Option IoError :=
  let tracked := checkpointForPath batch.state display
  match inspectPath env.fs display with
  | .error err =>
    if err.kind = .notFound then readMissing ext config env display tracked batch
    else (batch, some err)
  | .ok current =>
    let startup := if tracked.isNone && !firstScan then .head else config.startupPosition
    -- a link is compared, and probed, under the real path it had when it was recorded
    let resumeBase := (tracked.map checkpointRealPath).getD (env.fs.realPath display)
    let resume := decideResume env.fs resumeBase current
      (tracked.map fun previous => { previous with path := checkpointRealPath previous }) startup
    let pending := tracked.bind TrackedFileCheckpoint.pendingMultiline
    let opened := if resume.truncated then
        { batch with
          out := recordsFromPending ext config.fold batch.out
            (tracked.bind TrackedFileCheckpoint.node) pending
          truncated := true }
      else batch
    let pending := if resume.truncated then none else pending
    let left := if resume.rotated then leaveRotated ext config env display tracked pending opened
      else (opened, none)
    let pending := if resume.rotated then none else pending
    match left with
    | (left, some err) => (left, some err)
    | (left, none) =>
      if left.exhausted then
        -- the start of a replaced file is recorded even when there is no budget to read it
        (if resume.rotated || resume.truncated then
          { left with
            checkpoints := left.checkpoints ++
              [⟨display, env.fs.realPath display, current, 0, none⟩] }
         else left, none)
      else readPresent ext config env display tracked resume.startOffset pending left

/-! ## The working set -/

/-- Insertion into a `BTreeMap` keyed by path. -/
def insertPath (path : Path) : List Path → List Path
  | [] => [path]
  | other :: rest =>
    if path = other then other :: rest
    else if path < other then path :: other :: rest
    else other :: insertPath path rest

structure Admission where
  working : List Path
  takenReal : List Path
  newCount : Nat
  refused : Nat

/-- The loop over the matched paths: known ones are skipped, `max_files` refuses, `max_new_files`
postpones, and a second name for a real file already taken is passed over. -/
def admitPaths (config : FileInputConfig) (fs : FileSystem) : List Path → Admission → Admission
  | [], admission => admission
  | path :: rest, admission =>
    if path ∈ admission.working then admitPaths config fs rest admission
    else if config.maxFiles ≤ admission.working.length then
      { admission with
        refused := (path :: rest).countP fun candidate =>
          !decide (candidate ∈ admission.working) }
    else if config.maxNewFiles ≤ admission.newCount then admission
    else if fs.realPath path ∈ admission.takenReal then admitPaths config fs rest admission
    else admitPaths config fs rest
      { admission with
        working := insertPath path admission.working
        takenReal := fs.realPath path :: admission.takenReal
        newCount := admission.newCount + 1 }

/-- The tracked paths that were not deselected, and the real files they stand for. -/
def trackedPaths (selection : FamilySelection) : Admission :=
  { working := ((state.files.filter fun entry => decide (entry.path ∉ selection.deselected)).map
      TrackedFileCheckpoint.path).foldl (fun working path => insertPath path working) []
    takenReal := state.files.map checkpointRealPath, newCount := 0, refused := 0 }

/-! ## Pruning -/

def staleAfterMs : Int := 604800000

def checkpointIsStale (entry : TrackedFileCheckpoint) (observedAt : String) : Bool :=
  match entry.lastCommitPointAt with
  | none => true
  | some last => match ext.parseTime last, ext.parseTime observedAt with
    | some last, some now => decide (staleAfterMs ≤ now - last)
    | _, _ => false

/-- Whether a scan keeps an entry. -/
def keepsEntry (matched deselected : List Path) (observedAt : String)
    (entry : TrackedFileCheckpoint) : Bool :=
  if entry.path ∈ matched then true
  else if entry.path ∈ deselected then false
  else if entry.pendingMultiline.isSome then true
  else if entry.lastSize.any fun size => decide (size ≤ entry.checkpointOffset) then false
  else !checkpointIsStale ext entry observedAt

def pruneFamilyState (matched deselected : List Path) (observedAt : String) : LogCheckpointState :=
  { state with files := state.files.filter (keepsEntry ext matched deselected observedAt) }

/-- `migrate_input_pending_to_files`: an input-level block goes to the entry of its file; what is
returned has no such entry. -/
def migrateInputPendingToFiles : LogCheckpointState × Option PendingMultilineState :=
  match state.pendingMultiline with
  | none => (state, none)
  | some pending =>
    let taken := { state with pendingMultiline := none }
    match state.files.find? fun entry => entry.path = pending.sourcePath with
    | some entry =>
      if entry.pendingMultiline.isNone then
        ({ taken with
          files := updateFirst (fun entry => decide (entry.path = pending.sourcePath))
            (fun entry => { entry with pendingMultiline := some pending }) taken.files },
         none)
      else (taken, some pending)
    | none => (taken, some pending)

/-! ## The tick -/

/-- An input that never scanned. -/
def isFirstScan : Bool :=
  state.files.isEmpty && state.lastScanMs.isNone

def shouldScan (env : FamilyEnv) (state : LogCheckpointState) : Bool :=
  let isFamily := hasGlob config.sourcePath || decide (config.sourcePath ∈ env.fs.dirs)
  !isFamily || match state.lastScanMs with
    | none => true
    | some last => decide (config.rescanIntervalMs ≤ env.nowMs - last)

/-- The loop over the working set: it stops when the budget is used up, and keeps the first error. -/
def readFiles (ext : Externals) (config : FileInputConfig) (env : TickEnv) (firstScan : Bool) :
    List Path → FamilyBatch → FamilyBatch
  | [], batch => batch
  | display :: rest, batch =>
    if batch.exhausted then batch
    else
      let read := readOneFile ext config env firstScan display batch
      readFiles ext config env firstScan rest { read.1 with failure := read.1.failure.or read.2 }

/-- A finished family batch with what its scan found. -/
structure CollectedFamily where
  batch : FamilyBatch
  selection : FamilySelection
  capacity : Option FamilyCapacity

/-- The part of `collect_family_batch` behind the scan. -/
def collectSelected (env : FamilyEnv) (firstScan scanned : Bool) (selection : FamilySelection)
    (state : LogCheckpointState)
    (out : Outlet) : CollectedFamily :=
  let admission := admitPaths config env.fs selection.selected (trackedPaths state selection)
  let batch := readFiles ext config env.toTickEnv firstScan admission.working
    (.new state out config.readLimits)
  { batch := if scanned then
        { batch with
          state := pruneFamilyState ext batch.state selection.selected selection.deselected
            env.observedAt }
      else batch
    selection
    capacity := if 0 < admission.refused
      then some ⟨admission.working.length, config.maxFiles, admission.refused⟩ else none }

/-- `collect_family_batch`. -/
def collectFamilyBatch (env : FamilyEnv) (state : LogCheckpointState) (nextSeq : Nat)
    (orphan : Option PendingMultilineState) :
    Nat × Except IoError CollectedFamily :=
  let out := recordsFromPending ext config.fold
    (.new (config.gate env.toTickEnv) nextSeq) none orphan
  let firstScan := isFirstScan state
  if shouldScan config env state then
    match env.selection with
    | .error err => (out.nextSeq, .error err)
    | .ok selection =>
      -- the clock moves only behind a scan that succeeded
      let collected := collectSelected ext config env firstScan true selection
        { state with lastScanMs := some env.nowMs } out
      (collected.batch.out.nextSeq, .ok collected)
  else
    let collected := collectSelected ext config env firstScan false .none state out
    (collected.batch.out.nextSeq, .ok collected)

/-- The entry list after the planned commits of a family tick. -/
def upsertFamily (state : LogCheckpointState) (checkpoints : List FamilyCheckpoint)
    : LogCheckpointState :=
  let upserted := checkpoints.foldl (fun state checkpoint =>
    upsertCheckpoint env.fs state checkpoint.displayPath checkpoint.identity
      { checkpointOffset := checkpoint.checkpointOffset, observedAt := env.observedAt
        realPath := checkpoint.realPath, pendingMultiline := checkpoint.pendingMultiline
        rotatedFromPath := none }) state
  { upserted with pendingMultiline := none }

/-- `commit_family_state`: a state that did not change is not written again. -/
def commitFamilyState (state : LogCheckpointState) (checkpoints : List FamilyCheckpoint)
    (before : LogCheckpointState) : App Unit :=
  let upserted := upsertFamily env state checkpoints
  if upserted = before then pure ()
  else storeCheckpointState config.inputId { upserted with updatedAt := env.observedAt }

def CollectedFamily.outcome (collected : CollectedFamily) (delivery : DeliveryOutcome)
    (replayed : Nat) : ProcessOutcome :=
  { ProcessOutcome.spoolReplayOnly replayed with
    kind := .sourceBatch, recordsProcessed := delivery.recordsProcessed
    emittedDirectly := delivery.emittedDirectly, spooled := delivery.spooled
    sinkError := delivery.sinkError, checkpointOffset := collected.batch.checkpointOffset
    truncated := collected.batch.truncated, truncatedLines := collected.batch.truncatedLines
    readLines := collected.batch.readLines, withheld := collected.batch.out.withheld
    droppedNoise := collected.batch.out.droppedNoise
    selectionFiltered := collected.selection.filtered
    identityUnknown := collected.selection.identityUnknown
    rotated := collected.batch.rotated, capacity := collected.capacity }

/-- The tick behind a successful replay. -/
def processFamily (sink : Sink) (config : FileInputConfig) (env : FamilyEnv)
    (before : LogCheckpointState) (replayed : Nat) : App ProcessOutcome := do
  let migrated := migrateInputPendingToFiles before
  let w ← Prog.get
  let collected := collectFamilyBatch ext config env migrated.1 w.nextSeq migrated.2
  Prog.modify fun w => w.collect collected.1
    (collected.2.toOption.map fun collected => collected.batch.out)
  match collected.2 with
  | .error err => Prog.throw err
  | .ok collected => do
      let delivery ← deliverAndStoreSeq ext sink config collected.batch.out.records
      commitFamilyState config env.toTickEnv collected.batch.state collected.batch.checkpoints before
      -- what could be read is committed before the error of a single file is reported
      match collected.batch.failure with
      | some err => Prog.throw err
      | none => pure (collected.outcome delivery replayed)

/-- `FileFamilyProcessor::process_once_async`. -/
def processFamilyOnce (sink : Sink) (config : FileInputConfig) (env : FamilyEnv)
    : App ProcessOutcome := do
  let w ← Prog.get
  let before := loadLogState config env.toTickEnv w
  match ← (replaySpoolIfPresent ext sink config.inputId).attempt with
  | .error err => pausedOutcome config err
  | .ok replayed => processFamily ext sink config env before replayed

end WistAgentd.Telemetry

/- # Telemetry.Files.FileInput -- one tick of a single-path input

`FileInputProcessor::process_once_async`: load the checkpoint, replay the spool, collect a batch
from the source (and from the file it was renamed to), deliver it, store the sequence mark, commit
the checkpoints. Collecting only reads the disk, so it is a function of it; the rest are effects.

* `collectRotatedTail`, `collectReadBatch`: what one tick reads, folds and plans to commit.
* `commitLogState`: the entry list after the planned commits.
* `processOnce`: the whole tick. -/
import WistAgentd.Telemetry.Spool
import WistAgentd.Telemetry.Files.Checkpoint

namespace WistAgentd.Telemetry
open Theory.Crash
set_option autoImplicit false

structure FileInputConfig where
  agentId : String
  inputId : String
  origin : InputOrigin
  sourcePath : Path
  dropIfContains : List Bytes
  maxFiles : Nat
  maxNewFiles : Nat
  rescanIntervalMs : Int
  startupPosition : StartupPosition
  multilineMode : MultilineMode
  inMemoryBudgetBytes : Nat
  readLimits : ReadLimits
  spoolMaxBytes : Nat

def FileInputConfig.fold (config : FileInputConfig) : FoldConfig :=
  ⟨config.multilineMode, config.dropIfContains⟩

/-- The surroundings of one tick: the disk, the clock, and whether the checkpoint can be read. -/
structure TickEnv where
  fs : FileSystem
  observedAt : String
  checkpointReadable : Bool

inductive ProcessOutcomeKind
  | sourceBatch | spoolReplayOnly | spoolPaused

structure FamilyCapacity where
  tracked : Nat
  maxFiles : Nat
  refused : Nat

structure ProcessOutcome where
  kind : ProcessOutcomeKind
  recordsProcessed : Nat
  emittedDirectly : Nat
  spooled : Nat
  sinkError : Option String
  checkpointOffset : Nat
  replayedSpool : Nat
  truncated : Bool
  truncatedLines : Nat
  readLines : Nat
  withheld : Withheld
  droppedNoise : Nat
  selectionFiltered : Nat
  identityUnknown : Nat
  rotated : Bool
  paused : Bool
  spoolBytes : Nat
  capacity : Option FamilyCapacity

/-- `ProcessOutcome::spool_replay_only`; also what the other outcomes start from. -/
def ProcessOutcome.spoolReplayOnly (replayedSpool : Nat) : ProcessOutcome :=
  { kind := .spoolReplayOnly, recordsProcessed := 0, emittedDirectly := 0, spooled := 0
    sinkError := none, checkpointOffset := 0, replayedSpool, truncated := false
    truncatedLines := 0, readLines := 0, withheld := ⟨0, 0⟩, droppedNoise := 0
    selectionFiltered := 0, identityUnknown := 0, rotated := false, paused := false
    spoolBytes := 0, capacity := none }

def ProcessOutcome.pausedAt (spoolBytes : Nat) (sinkError : Option String) : ProcessOutcome :=
  { ProcessOutcome.spoolReplayOnly 0 with
    kind := .spoolPaused, sinkError, paused := true, spoolBytes }

/-- The entry list of an input as a tick starts with it: a checkpoint that cannot be read counts
as none. -/
def loadLogState (config : FileInputConfig) (env : TickEnv) (w : World) : LogCheckpointState :=
  match env.checkpointReadable, (w.stores config.inputId).checkpoint with
  | true, some state => state
  | _, _ => LogCheckpointState.new config.inputId env.observedAt

def FileInputConfig.gate (config : FileInputConfig) (env : TickEnv) : UplinkGate :=
  ⟨config.agentId, env.observedAt, config.inputId, config.origin⟩

/-! ## Collecting -/

structure PendingCheckpoint where
  sourcePath : Path
  identity : ObservedFileIdentity
  checkpointOffset : Nat
  rotatedFromPath : Option Path

/-- `CollectedReadBatch` with the entry list it was collected over. -/
structure ReadBatch where
  state : LogCheckpointState
  out : Outlet
  pendingMultiline : Option PendingMultilineState
  checkpoints : List PendingCheckpoint
  checkpointOffset : Nat
  truncatedLines : Nat
  readLines : Nat
  resume : ResumeDecision

def ReadBatch.new (state : LogCheckpointState) (out : Outlet)
    (pendingMultiline : Option PendingMultilineState) (resume : ResumeDecision) : ReadBatch :=
  { state, out, pendingMultiline, checkpoints := [], checkpointOffset := 0, truncatedLines := 0
    readLines := 0, resume }

variable (ext : Externals)

section

variable (config : FileInputConfig)

/-- The tail of a renamed file, read up to one tick's budget. -/
def readRotatedTail (fs : FileSystem) (previous : TrackedFileCheckpoint)
    (rotatedPath : Path) (batch : ReadBatch) :
    Except IoError ReadBatch :=
  let state := relocateCheckpointPath batch.state previous rotatedPath
  let pending := rebindPendingSourceOnRotate batch.pendingMultiline config.sourcePath rotatedPath
  match readFromOffset fs rotatedPath previous.checkpointOffset config.readLimits with
  | .error err => .error err
  | .ok read =>
    let folded := recordsFromRead ext config.fold batch.out read.identity.node rotatedPath
      read.lines pending
    .ok { batch with
      state, out := folded.1, pendingMultiline := folded.2
      checkpoints := batch.checkpoints ++
        [⟨rotatedPath, read.identity, read.committedEndOffset, none⟩]
      truncatedLines := batch.truncatedLines + read.truncatedLines
      readLines := batch.readLines + read.lines.length }

/-- `collect_rotated_tail`. -/
def collectRotatedTail (fs : FileSystem)
    (tracked : Option TrackedFileCheckpoint) (batch : ReadBatch) : Except IoError ReadBatch :=
  match batch.resume.rotated, tracked with
  | true, some previous => match findRotatedPath fs config.sourcePath previous with
    | .error err => .error err
    | .ok none => .ok batch
    | .ok (some rotatedPath) => readRotatedTail ext config fs previous rotatedPath batch
  | _, _ => .ok batch

/-- Between the two reads: a rotation or truncation seals the open block, else only a block of
another file is sealed. -/
def sealBeforeSource (node : Option NodeId) (batch : ReadBatch)
    : ReadBatch :=
  if batch.resume.rotated || batch.resume.truncated then
    { batch with
      out := recordsFromPending ext config.fold batch.out node batch.pendingMultiline
      pendingMultiline := none }
  else
    let flushed := flushPendingIfSourceChanges ext config.fold batch.out node
      batch.pendingMultiline config.sourcePath
    { batch with out := flushed.1, pendingMultiline := flushed.2 }

/-- The source itself, and the idle flush when the tick saw no line at all. -/
def readSource (env : TickEnv) (batch : ReadBatch)
    (read : ReadFromOffset) : ReadBatch :=
  let folded := recordsFromRead ext config.fold batch.out read.identity.node config.sourcePath
    read.lines batch.pendingMultiline
  let readLines := batch.readLines + read.lines.length
  let idle := decide (readLines = 0) &&
    pendingShouldFlush ext config.multilineMode folded.2 env.observedAt
  { batch with
    out := if idle then recordsFromPending ext config.fold folded.1 read.identity.node folded.2
      else folded.1
    pendingMultiline := if idle then none else folded.2
    checkpoints := batch.checkpoints ++
      [⟨config.sourcePath, read.identity, read.committedEndOffset, batch.resume.rotatedFromPath⟩]
    checkpointOffset := read.committedEndOffset
    truncatedLines := batch.truncatedLines + read.truncatedLines
    readLines }

/-- `collect_read_batch`. The counter keeps the numbers it gave out when a later read fails. -/
def collectReadBatch (env : TickEnv) (state : LogCheckpointState)
    (nextSeq : Nat) : Nat × Except IoError ReadBatch :=
  match inspectPath env.fs config.sourcePath with
  | .error err => (nextSeq, .error err)
  | .ok current =>
    let tracked := checkpointForPath state config.sourcePath
    let resume := decideResume env.fs config.sourcePath current tracked config.startupPosition
    let start := ReadBatch.new { state with pendingMultiline := none }
      (Outlet.new (config.gate env) nextSeq) state.pendingMultiline resume
    match collectRotatedTail ext config env.fs tracked start with
    | .error err => (nextSeq, .error err)
    | .ok drained =>
      let node := tracked.bind TrackedFileCheckpoint.node
      let ready := sealBeforeSource ext config node drained
      match readFromOffset env.fs config.sourcePath resume.startOffset config.readLimits with
      | .error err => (ready.out.nextSeq, .error err)
      | .ok read =>
        let batch := readSource ext config env ready read
        (batch.out.nextSeq, .ok batch)

end

/-- What a batch may do to the entry list, plan to commit, report as its offset and hand to the
folder: the watched path alone, or also the file that was renamed away from it. -/
inductive Collected (config : FileInputConfig) (fs : FileSystem) (state : LogCheckpointState)
    (resume : ResumeDecision) :
    List TrackedFileCheckpoint → List PendingCheckpoint → Nat → List FedLine → Prop
  | source {read : ReadFromOffset}
      (unmoved : ∀ previous, resume.rotated = true →
        checkpointForPath state config.sourcePath = some previous →
        findRotatedPath fs config.sourcePath previous = .ok none)
      (ran : readFromOffset fs config.sourcePath resume.startOffset config.readLimits = .ok read) :
      Collected config fs state resume state.files
        [⟨config.sourcePath, read.identity, read.committedEndOffset, resume.rotatedFromPath⟩]
        read.committedEndOffset (read.lines.map (FedLine.mk read.identity.node))
  | moved {previous : TrackedFileCheckpoint} {rotatedPath : Path} {tail read : ReadFromOffset}
      (rotated : resume.rotated = true)
      (tracked : checkpointForPath state config.sourcePath = some previous)
      (found : findRotatedPath fs config.sourcePath previous = .ok (some rotatedPath))
      (drained : readFromOffset fs rotatedPath previous.checkpointOffset config.readLimits = .ok tail)
      (ran : readFromOffset fs config.sourcePath resume.startOffset config.readLimits = .ok read) :
      Collected config fs state resume (relocateCheckpointPath state previous rotatedPath).files
        [⟨rotatedPath, tail.identity, tail.committedEndOffset, none⟩,
         ⟨config.sourcePath, read.identity, read.committedEndOffset, resume.rotatedFromPath⟩]
        read.committedEndOffset (tail.lines.map (FedLine.mk tail.identity.node) ++
          read.lines.map (FedLine.mk read.identity.node))

section

variable (config : FileInputConfig) (node : Option NodeId) (batch : ReadBatch)

@[simp] theorem sealBeforeSource_state :
    (sealBeforeSource ext config node batch).state = batch.state := by
  unfold sealBeforeSource
  split <;> rfl

@[simp] theorem sealBeforeSource_checkpoints :
    (sealBeforeSource ext config node batch).checkpoints = batch.checkpoints := by
  unfold sealBeforeSource
  split <;> rfl

@[simp] theorem sealBeforeSource_resume :
    (sealBeforeSource ext config node batch).resume = batch.resume := by
  unfold sealBeforeSource
  split <;> rfl

@[simp] theorem sealBeforeSource_fed :
    (sealBeforeSource ext config node batch).out.fed = batch.out.fed := by
  unfold sealBeforeSource flushPendingIfSourceChanges
  split
  · exact recordsFromPending_fed ..
  · split
    · exact recordsFromPending_fed ..
    · rfl

end

@[simp] theorem readSource_fed (config : FileInputConfig) (env : TickEnv) (batch : ReadBatch)
    (read : ReadFromOffset) :
    (readSource ext config env batch read).out.fed =
      batch.out.fed ++ read.lines.map (FedLine.mk read.identity.node) := by
  unfold readSource
  dsimp only
  split
  · rw [recordsFromPending_fed, recordsFromRead_fed]
  · exact recordsFromRead_fed ..

theorem collectRotatedTail_resume {ext : Externals} {config : FileInputConfig} {fs : FileSystem}
    {tracked : Option TrackedFileCheckpoint} {batch drained : ReadBatch}
    (ran : collectRotatedTail ext config fs tracked batch = .ok drained) :
    drained.resume = batch.resume := by
  unfold collectRotatedTail readRotatedTail at ran
  split at ran
  · split at ran
    · simp at ran
    · simp only [Except.ok.injEq] at ran
      rw [ran]
    · split at ran
      · simp at ran
      · simp only [Except.ok.injEq] at ran
        rw [← ran]
  · simp only [Except.ok.injEq] at ran
    rw [ran]

theorem collectReadBatch_collected {ext : Externals} {config : FileInputConfig} {env : TickEnv}
    {state : LogCheckpointState} {nextSeq : Nat} {batch : ReadBatch}
    (ran : (collectReadBatch ext config env state nextSeq).2 = .ok batch) :
    ∃ current, inspectPath env.fs config.sourcePath = .ok current ∧
      Collected config env.fs state (decideResume env.fs config.sourcePath current
        (checkpointForPath state config.sourcePath) config.startupPosition)
        batch.state.files batch.checkpoints batch.checkpointOffset batch.out.fed := by
  unfold collectReadBatch at ran
  split at ran
  · simp at ran
  · rename_i current inspected
    refine ⟨current, inspected, ?_⟩
    dsimp only at ran
    split at ran
    · simp at ran
    · rename_i drained tail
      split at ran
      · simp at ran
      · rename_i read sourceRead
        simp only [Except.ok.injEq] at ran
        have resumed := collectRotatedTail_resume tail
        rw [← ran, readSource_fed, sealBeforeSource_fed]
        simp only [readSource, sealBeforeSource_state, sealBeforeSource_checkpoints,
          sealBeforeSource_resume, resumed]
        unfold collectRotatedTail readRotatedTail at tail
        split at tail
        · rename_i previous rotated tracked
          split at tail
          · simp at tail
          · rename_i nowhere
            cases tail
            refine .source (fun other _ at_ => ?_) sourceRead
            rw [tracked] at at_
            cases at_
            exact nowhere
          · rename_i rotatedPath found
            split at tail
            · simp at tail
            · rename_i tailRead drainedRead
              cases tail
              exact .moved rotated tracked found drainedRead sourceRead
        · rename_i stay
          cases tail
          exact .source (fun previous rotated at_ => absurd at_ (stay previous rotated)) sourceRead

/-! ## Committing -/

/-- `commit_log_state` up to the store. -/
def commitLogState (env : TickEnv) (state : LogCheckpointState)
    (checkpoints : List PendingCheckpoint) (pendingMultiline : Option PendingMultilineState) :
    LogCheckpointState :=
  let upserted := checkpoints.foldl (fun state checkpoint =>
    upsertCheckpoint env.fs state checkpoint.sourcePath checkpoint.identity
      { checkpointOffset := checkpoint.checkpointOffset, observedAt := env.observedAt
        realPath := "", pendingMultiline := none
        rotatedFromPath := checkpoint.rotatedFromPath }) state
  { upserted with pendingMultiline, updatedAt := env.observedAt }

/-! ## The tick -/

/-- `paused_outcome_async`: only a failure of the sink is carried into the outcome. -/
def pausedOutcome (config : FileInputConfig) (err : IoError) : App ProcessOutcome := do
  let spoolBytes ← spoolSize config.inputId
  if config.spoolMaxBytes ≤ spoolBytes then
    pure (.pausedAt spoolBytes (uplinkWriteDetail err))
  else Prog.throw err

variable (sink : Sink) (config : FileInputConfig) (node : Option NodeId) (env : TickEnv)
  (state : LogCheckpointState) (batch : ReadBatch)

/-- Delivery, then the sequence mark. Both input kinds end their batch this way. -/
def deliverAndStoreSeq (records : List TelemetryRecord) : App DeliveryOutcome := do
  let delivery ← deliverRecords ext sink config.inputId config.inMemoryBudgetBytes records
  if 0 < delivery.recordsProcessed then do
    let w ← Prog.get
    storeSeq w.nextSeq
  pure delivery

def ReadBatch.outcome (delivery : DeliveryOutcome) (replayed : Nat) : ProcessOutcome :=
  { ProcessOutcome.spoolReplayOnly replayed with
    kind := .sourceBatch, recordsProcessed := delivery.recordsProcessed
    emittedDirectly := delivery.emittedDirectly, spooled := delivery.spooled
    sinkError := delivery.sinkError, checkpointOffset := batch.checkpointOffset
    truncated := batch.resume.truncated, truncatedLines := batch.truncatedLines
    readLines := batch.readLines, withheld := batch.out.withheld
    droppedNoise := batch.out.droppedNoise, rotated := batch.resume.rotated }

/-- The tick behind a successful replay. -/
def processSource (replayed : Nat) : App ProcessOutcome := do
  let w ← Prog.get
  let collected := collectReadBatch ext config env state w.nextSeq
  Prog.modify fun w => w.collect collected.1 (collected.2.toOption.map ReadBatch.out)
  match collected.2 with
  | .error err => Prog.throw err
  | .ok batch => do
      let delivery ← deliverAndStoreSeq ext sink config batch.out.records
      storeCheckpointState config.inputId
        (commitLogState env batch.state batch.checkpoints batch.pendingMultiline)
      pure (batch.outcome delivery replayed)

/-- `FileInputProcessor::process_once_async`. -/
def processOnce : App ProcessOutcome := do
  let w ← Prog.get
  let state := loadLogState config env w
  match ← (replaySpoolIfPresent ext sink config.inputId).attempt with
  | .error err => pausedOutcome config err
  | .ok replayed => processSource ext sink config env state replayed

end WistAgentd.Telemetry

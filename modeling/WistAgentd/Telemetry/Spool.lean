/- # Telemetry.Spool -- the durable state of the telemetry runtime, the spool and its replay

One store per input (checkpoint, spool, quarantine file), the sequence high-water mark, and ghost
logs: the frames that left the agent, the records a sink acknowledged, the lines that were handed to
the folder and the records it delimited. `nextSeq` is the counter of the running process; everything
else survives a crash. The spool (`buffer.rs`, `spool.rs`, `delivery_support.rs`) is written byte by
byte, so a crash can leave a torn last line; replay moves lines it cannot read to the quarantine file.
It is read back line by line, so a record is parked in it when one of its lines parses to that record.

* `Parked`, `spoolText`: what replay will find, and what an append writes.
* `splitLines_spoolText`: written records are read back as their own lines, whatever follows. -/
import WistAgentd.Telemetry.Multiline
import WistAgentd.Theory.Crash
import WistAgentd.Telemetry.Files.LineReading

namespace WistAgentd.Telemetry
open Theory.Crash Theory.Utf8
open List
set_option autoImplicit false

inductive FrameKind
  | metrics | fact | discovery | investigation

/-- What can leave the agent: a log record, or an envelope with a body. -/
inductive Frame
  | log (record : TelemetryRecord)
  | other (kind : FrameKind) (envelope : DataFrame) (body : Bytes)

/-- `TelemetryRecordSink`: the local file or the uplink. -/
inductive Sink
  | file
  | tcp (framing : TcpFraming)

/-- Where a frame went when it left. -/
inductive Via
  | sink (sink : Sink)
  | spool (inputId : String)

structure Departure where
  via : Via
  frame : Frame

/-- The files of one input; a missing spool is an empty one. -/
structure InputStore where
  checkpoint : Option LogCheckpointState
  spool : Bytes
  bad : Bytes

def InputStore.empty : InputStore := ⟨none, [], []⟩

structure World where
  stores : String → InputStore
  seqFile : Option Nat
  nextSeq : Nat
  departures : List Departure
  accepted : List TelemetryRecord
  fed : List FedLine
  provenance : List Provenance

/-- The effects of the runtime, in the words of the file operations behind them. -/
inductive Effect
  | send (frame : Frame)
  | acknowledge
  | statSpool (inputId : String)
  | openSpool (inputId : String)
  | writeSpool (inputId : String)
  | syncSpool (inputId : String)
  | removeSpool (inputId : String)
  | quarantine (inputId : String)
  | renameSeq
  | renameCheckpoint (inputId : String)
  | syncParentDir

abbrev App := Prog Effect World IoError

namespace World

variable (w : World)

def updateStore (inputId : String) (update : InputStore → InputStore) : World :=
  { w with stores := fun other => if other = inputId then update (w.stores other)
      else w.stores other }

def depart (via : Via) (frame : Frame) : World :=
  { w with departures := w.departures ++ [⟨via, frame⟩] }

def appendSpool (inputId : String) (bytes : Bytes) : World :=
  w.updateStore inputId fun store => { store with spool := store.spool ++ bytes }

def appendBad (inputId : String) (bytes : Bytes) : World :=
  w.updateStore inputId fun store => { store with bad := store.bad ++ bytes }

def clearSpool (inputId : String) : World :=
  w.updateStore inputId fun store => { store with spool := [] }

def storeCheckpoint (inputId : String) (state : LogCheckpointState) : World :=
  w.updateStore inputId fun store => { store with checkpoint := some state }

/-- The counter after a collection, and what was collected if it succeeded. -/
def collect (nextSeq : Nat) (out : Option Outlet) : World :=
  { w with
    nextSeq
    fed := w.fed ++ (out.map Outlet.fed).getD []
    provenance := w.provenance ++ (out.map Outlet.provenance).getD [] }

@[simp] theorem updateStore_same (inputId : String)
    (update : InputStore → InputStore) :
    (w.updateStore inputId update).stores inputId = update (w.stores inputId) := by
  simp [updateStore]

@[simp] theorem updateStore_other {inputId other : String}
    (update : InputStore → InputStore) (different : other ≠ inputId) :
    (w.updateStore inputId update).stores other = w.stores other := by
  simp [updateStore, different]

end World

/-! ## State files -/

/-- `write_json_atomic_async`: the new content is there after the rename, also when syncing the
directory then fails. -/
def writeAtomic (rename : Effect) (update : World → World) : App Unit := do
  Prog.effect rename update
  Prog.effect .syncParentDir id

/-- `log_seq_state::store_async`. -/
def storeSeq (nextSeq : Nat) : App Unit :=
  writeAtomic .renameSeq fun w => { w with seqFile := some nextSeq }

/-- `log_checkpoints::store_async`. -/
def storeCheckpointState (inputId : String) (state : LogCheckpointState) : App Unit :=
  writeAtomic (.renameCheckpoint inputId) fun w => w.storeCheckpoint inputId state

/-! ## The sink -/

/-- `write_records`: the records go out one after the other; whether the call then succeeds is a
fate of its own, since a write may fail after bytes are on the wire. -/
def writeRecordsRaw (sink : Sink) (records : List TelemetryRecord) : App Unit := do
  Prog.forEach records fun record =>
    Prog.effect (.send (.log record)) fun w => w.depart (.sink sink) (.log record)
  Prog.effect .acknowledge fun w => { w with accepted := w.accepted ++ records }

/-- Failures of the sink are marked as such. -/
def writeRecords (sink : Sink) (records : List TelemetryRecord) : App Unit :=
  if records = [] then pure ()
  else do
    match ← (writeRecordsRaw sink records).attempt with
    | .ok () => pure ()
    | .error err => Prog.throw (uplinkWriteError err)

variable {records : List TelemetryRecord} {line : Bytes}

section

/-! ## Staging -/

def estimateRecordSize (record : TelemetryRecord) : Nat :=
  record.body.length + record.inputId.utf8ByteSize + record.sourcePath.utf8ByteSize +
    record.agentId.utf8ByteSize + 64

structure StageResult where
  staged : List TelemetryRecord
  overflowed : List TelemetryRecord

/-- `TelemetryBuffer::stage_all`: a record that does not fit overflows, later ones may still fit. -/
def stageAll (maxBytes : Nat) : Nat → List TelemetryRecord → StageResult
  | _, [] => ⟨[], []⟩
  | used, record :: rest =>
    if maxBytes < used + estimateRecordSize record then
      let later := stageAll maxBytes used rest
      { later with overflowed := record :: later.overflowed }
    else
      let later := stageAll maxBytes (used + estimateRecordSize record) rest
      { later with staged := record :: later.staged }

/-! ## The spool file -/

variable (ext : Externals) (sink : Sink) (inputId : String) (batchSize : Nat)

/-- `append_records_async`. A record has left for the spool when its last byte is written. -/
def appendRecords (records : List TelemetryRecord) : App Unit :=
  if records = [] then pure ()
  else do
    Prog.effect (.openSpool inputId) id
    Prog.forEach records fun record => do
      Prog.forEach (ext.encodeRecord record) fun byte =>
        Prog.effect (.writeSpool inputId) fun w => w.appendSpool inputId [byte]
      Prog.modify fun w => w.depart (.spool inputId) (.log record)
      Prog.effect (.writeSpool inputId) fun w => w.appendSpool inputId [newline]
    Prog.effect (.syncSpool inputId) id

def hasRecords : App Bool := do
  Prog.effect (.statSpool inputId) id
  let w ← Prog.get
  pure (decide (0 < (w.stores inputId).spool.length))

def spoolSize : App Nat := do
  Prog.effect (.statSpool inputId) id
  let w ← Prog.get
  pure (w.stores inputId).spool.length

def clearSpool : App Unit :=
  Prog.effect (.removeSpool inputId) fun w => w.clearSpool inputId

/-- `trim_end_matches(['\r', '\n'])`. -/
def trimLineEnd (line : Bytes) : Bytes :=
  (line.reverse.dropWhile fun b => decide (b = 13) || decide (b = newline)).reverse

def parseRecordLine (line : Bytes) : Option TelemetryRecord :=
  ext.decodeRecord (trimLineEnd line)

def quarantineLine (line : Bytes) : App Unit := do
  Prog.effect (.quarantine inputId) fun w => w.appendBad inputId line
  if line.getLast? = some newline then pure ()
  else Prog.effect (.quarantine inputId) fun w => w.appendBad inputId [newline]

/-- `line.trim().is_empty()`. -/
def isBlank (line : Bytes) : Bool := (trimStart line).isEmpty

def spoolReplayBatchSize : Nat := 128

/-- The loop of `replay_records_async` over the lines still to be read. A batch is full at the capacity
of its vector. -/
def replayLoop : List Bytes → List TelemetryRecord → Nat → App Nat
  | [], batch, replayed =>
    if batch = [] then pure replayed
    else do
      writeRecords sink batch
      pure (replayed + batch.length)
  | line :: rest, batch, replayed =>
    -- `read_line` fails on text that is not UTF-8
    if validUtf8 line = false then
      Prog.throw (.new .invalidData "stream did not contain valid UTF-8")
    else if isBlank line then replayLoop rest batch replayed
    else match parseRecordLine ext line with
      | some record =>
        if max batchSize 1 ≤ (batch ++ [record]).length then do
          writeRecords sink (batch ++ [record])
          replayLoop rest [] (replayed + (batch ++ [record]).length)
        else replayLoop rest (batch ++ [record]) replayed
      | none => do
          quarantineLine inputId line
          replayLoop rest batch replayed

def replayRecords : App Nat := do
  Prog.effect (.openSpool inputId) id
  let w ← Prog.get
  let replayed ← replayLoop ext sink inputId batchSize (splitLines (w.stores inputId).spool) [] 0
  clearSpool inputId
  pure replayed

def replaySpoolIfPresent : App Nat := do
  if ← hasRecords inputId then replayRecords ext sink inputId spoolReplayBatchSize
  else pure 0

/-! ## Delivery -/

structure DeliveryOutcome where
  recordsProcessed : Nat
  emittedDirectly : Nat
  spooled : Nat
  sinkError : Option String

/-- With a backlog, everything is appended behind it. -/
def spoolPending (staged : StageResult) : App Nat := do
  appendRecords ext inputId (staged.staged ++ staged.overflowed)
  pure (staged.staged ++ staged.overflowed).length

/-- A send that fails falls back to the spool; when that fails too, the error names both. -/
def sendOrSpool (staged : List TelemetryRecord) : App (Nat × Nat × Option String) :=
  if staged = [] then pure (0, 0, none)
  else do
    match ← (writeRecords sink staged).attempt with
    | .ok () => pure (staged.length, 0, none)
    | .error err => do
        match ← (appendRecords ext inputId staged).attempt with
        | .ok () => pure (0, staged.length, some err.message)
        | .error spoolErr =>
          Prog.throw (.new spoolErr.kind
            (spoolErr.message ++ "; while buffering records that failed to send: " ++ err.message))

def deliverFresh (staged : StageResult) : App (Nat × Nat × Option String) := do
  appendRecords ext inputId staged.overflowed
  let (emitted, spooled, sinkError) ← sendOrSpool ext sink inputId staged.staged
  pure (emitted, staged.overflowed.length + spooled, sinkError)

def deliverRecords (inMemoryBudgetBytes : Nat) (records : List TelemetryRecord) :
    App DeliveryOutcome := do
  let staged := stageAll inMemoryBudgetBytes 0 records
  if ← hasRecords inputId then do
    let spooled ← spoolPending ext inputId staged
    pure ⟨records.length, 0, spooled, none⟩
  else do
    let (emitted, spooled, sinkError) ← deliverFresh ext sink inputId staged
    pure ⟨records.length, emitted, spooled, sinkError⟩

/-! ## What replay and delivery leave alone -/

/-- A property of the world that sending and quarantining keep. -/
structure SinkBlind (I : World → Prop) : Prop where
  depart : ∀ w via frame, I w → I (w.depart via frame)
  accept : ∀ w records, I w → I { w with accepted := w.accepted ++ records }
  appendBad : ∀ w inputId bytes, I w → I (w.appendBad inputId bytes)

/-- A property of the world that writes to the spool keep as well. -/
structure DeliveryBlind (I : World → Prop) : Prop extends SinkBlind I where
  appendSpool : ∀ w inputId bytes, I w → I (w.appendSpool inputId bytes)
  clearSpool : ∀ w inputId, I w → I (w.clearSpool inputId)

section SinkBlind

variable {ext sink inputId batchSize} {I : World → Prop} {A : Event Effect World IoError → Prop}
  (blind : SinkBlind I)

include blind

theorem writeRecords_keeps : Keeps A I (writeRecords sink records) := by
  unfold writeRecords
  split
  · exact keeps_pure
  · refine keeps_bind (keeps_attempt (keeps_bind (keeps_forEach (fun record => ?_) _) fun _ => ?_))
      fun result => ?_
    · exact keeps_effect fun w held => blind.depart w _ _ held
    · exact keeps_effect fun w held => blind.accept w _ held
    · cases result with
      | ok value => exact keeps_pure
      | error err => exact keeps_throw

theorem quarantineLine_keeps : Keeps A I (quarantineLine inputId line) := by
  refine keeps_bind (keeps_effect fun w held => blind.appendBad w _ _ held) fun _ => ?_
  split
  · exact keeps_pure
  · exact keeps_effect fun w held => blind.appendBad w _ _ held

theorem replayLoop_keeps {lines : List Bytes} {batch : List TelemetryRecord} {replayed : Nat} :
    Keeps A I (replayLoop ext sink inputId batchSize lines batch replayed) := by
  induction lines generalizing batch replayed with
  | nil =>
    unfold replayLoop
    split
    · exact keeps_pure
    · exact keeps_bind (writeRecords_keeps blind) fun _ => keeps_pure
  | cons line rest ih =>
    unfold replayLoop
    split
    · exact keeps_throw
    · split
      · exact ih
      · split
        · split
          · exact keeps_bind (writeRecords_keeps blind) fun _ => ih
          · exact ih
        · exact keeps_bind (quarantineLine_keeps blind) fun _ => ih

end SinkBlind

section DeliveryBlind

variable {ext sink inputId batchSize} {I : World → Prop} {A : Event Effect World IoError → Prop}

theorem hasRecords_keeps : Keeps A I (hasRecords inputId) :=
  keeps_bind (keeps_effect fun _ => id) fun _ => keeps_bind keeps_get fun _ => keeps_pure

theorem spoolSize_keeps : Keeps A I (spoolSize inputId) :=
  keeps_bind (keeps_effect fun _ => id) fun _ => keeps_bind keeps_get fun _ => keeps_pure

variable (blind : DeliveryBlind I)

include blind

theorem appendRecords_keeps : Keeps A I (appendRecords ext inputId records) := by
  unfold appendRecords
  split
  · exact keeps_pure
  · refine keeps_bind (keeps_effect fun w held => held) fun _ =>
      keeps_bind (keeps_forEach (fun record => ?_) _) fun _ => keeps_effect fun w held => held
    refine keeps_bind (keeps_forEach (fun byte => ?_) _) fun _ =>
      keeps_bind (keeps_modify fun w held => blind.depart w _ _ held) fun _ => ?_
    · exact keeps_effect fun w held => blind.appendSpool w _ _ held
    · exact keeps_effect fun w held => blind.appendSpool w _ _ held

theorem replayRecords_keeps :
    Keeps A I (replayRecords ext sink inputId batchSize) :=
  keeps_bind (keeps_effect fun _ => id) fun _ => keeps_bind keeps_get fun _ =>
    keeps_bind (replayLoop_keeps blind.toSinkBlind) fun _ =>
      keeps_bind (keeps_effect fun w held => blind.clearSpool w _ held) fun _ => keeps_pure

theorem replaySpoolIfPresent_keeps : Keeps A I (replaySpoolIfPresent ext sink inputId) := by
  refine keeps_bind (hasRecords_keeps) fun present => ?_
  cases present with
  | false => exact keeps_pure
  | true => exact replayRecords_keeps blind

theorem sendOrSpool_keeps {staged : List TelemetryRecord} :
    Keeps A I (sendOrSpool ext sink inputId staged) := by
  unfold sendOrSpool
  split
  · exact keeps_pure
  · refine keeps_bind (keeps_attempt (writeRecords_keeps blind.toSinkBlind)) fun sent => ?_
    cases sent with
    | ok value => exact keeps_pure
    | error err =>
      refine keeps_bind (keeps_attempt (appendRecords_keeps blind)) fun spooled => ?_
      cases spooled with
      | ok value => exact keeps_pure
      | error spoolErr => exact keeps_throw

theorem deliverRecords_keeps {budget : Nat} :
    Keeps A I (deliverRecords ext sink inputId budget records) := by
  refine keeps_bind (hasRecords_keeps) fun present => ?_
  cases present with
  | true =>
    exact keeps_bind (keeps_bind (appendRecords_keeps blind) fun _ => keeps_pure)
      fun _ => keeps_pure
  | false =>
    exact keeps_bind (keeps_bind (appendRecords_keeps blind) fun _ =>
      keeps_bind (sendOrSpool_keeps blind) fun _ => keeps_pure) fun _ => keeps_pure

end DeliveryBlind

end

/-- Replay finds the record on some line. -/
def Parked (ext : Externals) (spool : Bytes) (record : TelemetryRecord) : Prop :=
  ∃ line ∈ splitLines spool, isBlank line = false ∧ parseRecordLine ext line = some record

theorem not_parked_nil (ext : Externals) (record : TelemetryRecord) : ¬ Parked ext [] record := by
  rintro ⟨line, mem, -⟩
  cases mem

/-- The text an append of these records writes. -/
def spoolText (ext : Externals) (records : List TelemetryRecord) : Bytes :=
  records.flatMap fun record => ext.encodeRecord record ++ [newline]

@[simp] theorem spoolText_cons (ext : Externals) (record : TelemetryRecord)
    (records : List TelemetryRecord) :
    spoolText ext (record :: records) =
      ext.encodeRecord record ++ [newline] ++ spoolText ext records := by
  simp [spoolText]

theorem spoolText_append (ext : Externals) (front back : List TelemetryRecord) :
    spoolText ext (front ++ back) = spoolText ext front ++ spoolText ext back := by
  simp [spoolText]

/-! ## Lines -/

theorem splitLines_line (single : newline ∉ line) (rest : Bytes) :
    splitLines (line ++ newline :: rest) = (line ++ [newline]) :: splitLines rest := by
  induction line with
  | nil => simp [splitLines]
  | cons b line ih =>
    rw [mem_cons, not_or] at single
    rw [cons_append, splitLines, if_neg (Ne.symm single.1), ih single.2]
    rfl

theorem trimLineEnd_newline (line : Bytes) : trimLineEnd (line ++ [newline]) = trimLineEnd line := by
  simp [trimLineEnd]

/-- Text without control characters has no line end to trim. -/
theorem trimLineEnd_text (text : ∀ byte ∈ line, 32 ≤ byte) : trimLineEnd line = line := by
  unfold trimLineEnd
  cases reversed : line.reverse with
  | nil =>
    rw [reverse_eq_nil_iff] at reversed
    rw [reversed]
    rfl
  | cons last front =>
    have printable : 32 ≤ last := by
      apply text
      rw [← mem_reverse, reversed]
      exact mem_cons_self
    have notEnd : (decide (last = 13) || decide (last = newline)) = false := by
      rw [Bool.or_eq_false_iff, decide_eq_false_iff_not, decide_eq_false_iff_not]
      constructor
      · rintro rfl
        exact absurd printable (by decide)
      · rintro rfl
        exact absurd printable (by decide)
    rw [dropWhile_cons_of_neg (by simp [notEnd]), ← reversed, reverse_reverse]

theorem isBlank_object (opens : line.head? = some 123) (more : Bytes) :
    isBlank (line ++ more) = false := by
  cases line with
  | nil => simp at opens
  | cons first rest =>
    obtain rfl : first = 123 := by simpa using opens
    simp [isBlank, trimStart, trimStartLoop, whitespaceLength]

/-! ## Written records -/

section SpoolCodec

variable {ext : Externals} (codec : ext.SpoolCodec)

include codec

theorem encodeRecord_single (record : TelemetryRecord) : newline ∉ ext.encodeRecord record := by
  intro mem
  exact absurd (codec.no_control record newline mem) (by decide)

theorem splitLines_spoolText (records : List TelemetryRecord) (more : Bytes) :
    splitLines (spoolText ext records ++ more) =
      records.map (fun record => ext.encodeRecord record ++ [newline]) ++ splitLines more := by
  induction records with
  | nil => rfl
  | cons record rest ih =>
    have shape : spoolText ext (record :: rest) ++ more =
        ext.encodeRecord record ++ newline :: (spoolText ext rest ++ more) := by simp
    rw [shape, splitLines_line (encodeRecord_single codec record), ih]
    rfl

theorem parseRecordLine_encoded (record : TelemetryRecord) :
    parseRecordLine ext (ext.encodeRecord record ++ [newline]) = some record := by
  rw [parseRecordLine, trimLineEnd_newline, trimLineEnd_text (codec.no_control record),
    codec.decode_encode]

theorem parked_spoolText {record : TelemetryRecord} (mem : record ∈ records) (more : Bytes) :
    Parked ext (spoolText ext records ++ more) record := by
  refine ⟨ext.encodeRecord record ++ [newline], ?_,
    isBlank_object (codec.opens_object record) _, parseRecordLine_encoded codec record⟩
  rw [splitLines_spoolText codec]
  exact mem_append_left _ (mem_map_of_mem mem)

end SpoolCodec

end WistAgentd.Telemetry

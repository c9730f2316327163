/- # Telemetry.Multiline -- lines to records, records through the gate

How the lines of one read become delimited records (`multiline_support.rs`), which of those are
sent (`gate.rs`) and how they are numbered (`parser.rs`). `Outlet` is the gate together with the
counter and the batch it fills; its `fed` and `provenance` logs are not read by the code and say from
which node each line handed to the folder, and each delimited record, came.

* `foldCsv`: the quote-aware folding of csvlog lines.
* `recordsFromRead`, `recordsFromPending`: the two ways records reach the gate. -/
import Mathlib.Algebra.GroupWithZero.Nat
import Mathlib.Data.List.Infix
import WistAgentd.StateStore.LogCheckpointState

namespace WistAgentd.Telemetry
open Theory.Utf8
open List
set_option autoImplicit false

def maxRecordLines : Nat := 1000

def maxRecordBytes : Nat := 1048576

inductive MultilineMode
  | none | indentedContinuation | mysqlSlow | postgresCsv
  deriving DecidableEq

/-- `# Time:` followed by a digit opens a block of the MySQL slow log. -/
def mysqlSlow (line : Bytes) : Boundary :=
  let header := ascii "# Time:"
  if header.isPrefixOf line then
    match trimStart (line.drop header.length) with
    | digit :: _ => if 48 ≤ digit ∧ digit ≤ 57 then .starts else .neither
    | [] => .neither
  else .neither

variable (ext : Externals)

/-- The signal of the block folder; `none` where no block folder is used. -/
def delimiterPolicy : MultilineMode → Option (Bytes → Boundary)
  | .none => none
  | .indentedContinuation => some ext.indented
  | .mysqlSlow => some mysqlSlow
  | .postgresCsv => none

/-! ## The gate -/

structure Withheld where
  records : Nat
  bytes : Nat

/-- What one collection shares: who collects, when, for which input. -/
structure UplinkGate where
  agentId : String
  observedAt : String
  inputId : String
  origin : InputOrigin

/-- A delimited record and the node its bytes were read from. -/
structure Provenance where
  node : Option NodeId
  record : Record

/-- A line handed to the folder and the node it was read from. -/
structure FedLine where
  node : Option NodeId
  line : RawFileLine

/-- The gate, the counter it numbers from, and the batch that its callers extend. -/
structure Outlet where
  gate : UplinkGate
  nextSeq : Nat
  records : List TelemetryRecord
  droppedNoise : Nat
  withheld : Withheld
  fed : List FedLine
  provenance : List Provenance

def Outlet.new (gate : UplinkGate) (nextSeq : Nat) : Outlet :=
  { gate, nextSeq, records := [], droppedNoise := 0, withheld := ⟨0, 0⟩, fed := [], provenance := [] }

/-- `parse_delimited_records`: consecutive numbers in the order of the records. -/
def parseDelimitedRecords (ext : Externals) (gate : UplinkGate) (sourcePath : Path) :
    List Record → Nat → List TelemetryRecord
  | [], _ => []
  | record :: rest, seq =>
    { agentId := gate.agentId, observedAt := gate.observedAt, inputId := gate.inputId
      sourcePath, body := record.body, startOffset := record.startOffset
      endOffset := record.endOffset, seq, origin := gate.origin
      container := ext.containerFor sourcePath } ::
    parseDelimitedRecords ext gate sourcePath rest (seq + 1)

/-- A record whose content is not whole is not sent. -/
def withholds (record : Record) : Bool :=
  match record.completion with
  | .oversized => true
  | .boundary | .deadline => false

/-- `UplinkGate::admit`: withheld records are counted and take no number. -/
def Outlet.admit (out : Outlet) (sourcePath : Path) (records : List Record) :
    Outlet :=
  let admitted := records.filter fun record => !withholds record
  let held := records.filter withholds
  { out with
    nextSeq := out.nextSeq + admitted.length
    records := out.records ++ parseDelimitedRecords ext out.gate sourcePath admitted out.nextSeq
    withheld :=
      { records := out.withheld.records + held.length
        bytes := out.withheld.bytes + (held.map fun record => record.body.length).sum } }

def isNoise (body : Bytes) (needles : List Bytes) : Bool :=
  needles.any fun needle => decide (needle <:+: body)

/-- `admit_with_noise_filter` -/
def Outlet.admitWithNoiseFilter (out : Outlet) (sourcePath : Path) (folded : List Record)
    (dropIfContains : List Bytes) : Outlet :=
  let kept := folded.filter fun record => !isNoise record.body dropIfContains
  let next := out.admit ext sourcePath kept
  { next with droppedNoise := out.droppedNoise + (folded.length - kept.length) }

/-- What the folder was given, and what it handed over, goes to the logs. -/
def Outlet.log (out : Outlet) (node : Option NodeId) (lines : List RawFileLine)
    (folded : List Record) : Outlet :=
  { out with
    fed := out.fed ++ lines.map (FedLine.mk node)
    provenance := out.provenance ++ folded.map (Provenance.mk node) }

/-! ## csvlog -/

def quote : UInt8 := 34

/-- `scan_csv`: whether an unquoted newline was met, and the quote state at the end. -/
def scanCsv : Bytes → Bool → Bool → Bool × Bool
  | [], ended, inQuotes => (ended, inQuotes)
  | b :: rest, ended, inQuotes =>
    if b = quote then
      match rest with
      | [] => (ended, !inQuotes)
      | next :: more =>
        -- a doubled quote inside quotes is an escape
        if inQuotes && decide (next = quote) then scanCsv more ended inQuotes
        else scanCsv (next :: more) ended (!inQuotes)
    else if b = newline ∧ inQuotes = false then scanCsv rest true inQuotes
    else scanCsv rest ended inQuotes

structure CsvRecord where
  record : Record
  inQuotes : Bool
  deriving DecidableEq

def CsvRecord.resume (record : Record) : CsvRecord :=
  ⟨record, (scanCsv record.body false false).2⟩

def CsvRecord.begin (line : RawFileLine) : CsvRecord :=
  ⟨{ body := [], startOffset := line.startOffset, endOffset := line.startOffset, lines := 0
     completion := .boundary }, false⟩

def overLimit (record : Record) (text : Bytes) : Bool :=
  decide (maxRecordLines < record.lines + 1) ||
    decide (maxRecordBytes < record.body.length + text.length)

/-- A line joins the record being collected. -/
def Record.extend (record : Record) (line : RawFileLine) : Record :=
  { record with
    body := record.body ++ line.text, endOffset := line.endOffset, lines := record.lines + 1 }

/-- The variables of the loop of `fold_csv`. -/
structure CsvFold where
  current : Option CsvRecord
  finished : List Record
  discarding : Bool
  discardingInQuotes : Bool
  deriving DecidableEq

/-- The line joins `acc`; an unquoted newline seals it. -/
def CsvFold.take (fold : CsvFold) (acc : CsvRecord) (line : RawFileLine) : CsvFold :=
  let record := acc.record.extend line
  let scanned := scanCsv line.text false acc.inQuotes
  if scanned.1 then
    { fold with
      current := none, finished := fold.finished ++ [{ record with completion := .boundary }] }
  else { fold with current := some ⟨record, scanned.2⟩ }

def CsvFold.push (fold : CsvFold) (line : RawFileLine) : CsvFold :=
  if line.text.getLast? ≠ some newline then
    -- a line the reader cut off can never complete a record
    let record := ((fold.current.getD (CsvRecord.begin line)).record).extend line
    { current := none, finished := fold.finished ++ [{ record with completion := .oversized }]
      discarding := false, discardingInQuotes := false }
  else if fold.discarding then
    let scanned := scanCsv line.text false fold.discardingInQuotes
    { fold with discardingInQuotes := scanned.2, discarding := !scanned.1 }
  else match fold.current with
    | some acc =>
      if overLimit acc.record line.text then
        let scanned := scanCsv line.text false acc.inQuotes
        { current := none
          finished := fold.finished ++ [{ acc.record with completion := .oversized }]
          discarding := !scanned.1, discardingInQuotes := scanned.2 }
      else fold.take acc line
    | none => fold.take (CsvRecord.begin line) line

/-- When a block was last fed: a read without lines does not count. -/
def fedAt (hadLines : Bool) (resumedAt : Option String) (observedAt : String) : String :=
  match hadLines, resumedAt with
  | false, some at_ => at_
  | _, _ => observedAt

def foldCsv (path : Path) (lines : List RawFileLine) (pending : Option PendingMultilineState)
    (observedAt : String) : List Record × Option PendingMultilineState :=
  let previous := pending.filter fun state => state.sourcePath = path
  let fold := lines.foldl CsvFold.push
    { current := previous.map fun state => CsvRecord.resume state.record, finished := []
      discarding := false, discardingInQuotes := false }
  (fold.finished, fold.current.map fun acc =>
    { sourcePath := path
      lastUpdatedAt := fedAt (!lines.isEmpty) (previous.map (·.lastUpdatedAt)) observedAt
      record := acc.record })

/-! ## From a read, from a pending block -/

/-- One line, one record. -/
def recordFromLine (line : RawFileLine) : Record :=
  { body := line.text, startOffset := line.startOffset, endOffset := line.endOffset, lines := 1
    completion := .boundary }

/-- The lines pushed through the block folder, and what it still holds. -/
def delimit (delimiter : Delimiter) (signal : Bytes → Boundary) :
    delimiter.State → List RawFileLine → delimiter.State × List Record
  | state, [] => (state, [])
  | state, line :: rest =>
    let pushed := delimiter.push state line signal
    let more := delimit delimiter signal pushed.1 rest
    (more.1, pushed.2 ++ more.2)

/-- The delimited records of one read and the block that stays open. -/
def foldLines (mode : MultilineMode) (observedAt : String) (path : Path)
    (lines : List RawFileLine) (pending : Option PendingMultilineState) :
    List Record × Option PendingMultilineState :=
  if mode = .postgresCsv then foldCsv path lines pending observedAt
  else
    let previous := pending.filter fun state => state.sourcePath = path
    match delimiterPolicy ext mode with
    | none =>
      -- a block left over from another mode is sealed, not lost
      ((previous.map fun state => { state.record with completion := Completion.deadline }).toList ++
        lines.map recordFromLine, none)
    | some signal =>
      let start := match previous with
        | some state => ext.delimiter.resume state.record
        | none => ext.delimiter.new
      let folded := delimit ext.delimiter signal start lines
      (folded.2, (ext.delimiter.intoPending folded.1).map fun record =>
        { sourcePath := path
          lastUpdatedAt := fedAt (!lines.isEmpty) (previous.map (·.lastUpdatedAt)) observedAt
          record })

/-- What all calls of one collection have in common. -/
structure FoldConfig where
  mode : MultilineMode
  dropIfContains : List Bytes

/-- `records_from_read`, for lines of `node`. -/
def recordsFromRead (config : FoldConfig) (out : Outlet) (node : Option NodeId)
    (sourcePath : Path) (lines : List RawFileLine) (pending : Option PendingMultilineState) :
    Outlet × Option PendingMultilineState :=
  let folded := foldLines ext config.mode out.gate.observedAt sourcePath lines pending
  ((out.log node lines folded.1).admitWithNoiseFilter ext sourcePath folded.1 config.dropIfContains,
    folded.2)

/-- How a block is sealed from outside: half a csvlog record is never sent. -/
def sealCompletion (mode : MultilineMode) : Completion :=
  if mode = .postgresCsv then .oversized else .deadline

section

variable (config : FoldConfig) (out : Outlet) (node : Option NodeId)
  (pending : Option PendingMultilineState)

/-- `records_from_pending`, for a block of `node`. -/
def recordsFromPending : Outlet :=
  match pending with
  | none => out
  | some state =>
    let folded := [{ state.record with completion := sealCompletion config.mode }]
    (out.log node [] folded).admitWithNoiseFilter ext state.sourcePath folded config.dropIfContains

/-- `flush_pending_if_source_changes`. -/
def flushPendingIfSourceChanges (nextSourcePath : Path) :
    Outlet × Option PendingMultilineState :=
  if pending.any fun state => decide (state.sourcePath ≠ nextSourcePath) then
    (recordsFromPending ext config out node pending, none)
  else (out, pending)

end

/-- `rebind_pending_source_on_rotate`: the block follows its file to the new name. -/
def rebindPendingSourceOnRotate (pending : Option PendingMultilineState)
    (previousSourcePath rotatedPath : Path) : Option PendingMultilineState :=
  pending.map fun state =>
    if state.sourcePath = previousSourcePath then { state with sourcePath := rotatedPath }
    else state

def multilineIdleFlushMs : Int := 1000

def csvIdleFlushMs : Int := 60000

/-- `pending_should_flush`: idle for long enough, or the times cannot be read. -/
def pendingShouldFlush (mode : MultilineMode)
    (pending : Option PendingMultilineState) (observedAt : String) : Bool :=
  match pending with
  | none => false
  | some state =>
    let idleMs := if mode = .postgresCsv then csvIdleFlushMs else multilineIdleFlushMs
    match ext.parseTime state.lastUpdatedAt, ext.parseTime observedAt with
    | some last, some now => decide (idleMs ≤ now - last)
    | _, _ => true

/-! ## What the logs say -/

@[simp] theorem recordsFromRead_fed (config : FoldConfig) (out : Outlet)
    (node : Option NodeId) (sourcePath : Path) (lines : List RawFileLine)
    (pending : Option PendingMultilineState) :
    (recordsFromRead ext config out node sourcePath lines pending).1.fed =
      out.fed ++ lines.map (FedLine.mk node) := rfl

@[simp] theorem recordsFromPending_fed (config : FoldConfig) (out : Outlet)
    (node : Option NodeId) (pending : Option PendingMultilineState) :
    (recordsFromPending ext config out node pending).fed = out.fed := by
  cases pending with
  | none => rfl
  | some state => exact append_nil _

/-- The record a line becomes when lines are not folded. -/
def FedLine.alone (fed : FedLine) : Provenance := ⟨fed.node, recordFromLine fed.line⟩

/-- Without folding and without a block left over, lines and records go together. -/
theorem recordsFromRead_alone {config : FoldConfig} {out : Outlet}
    (unfolded : config.mode = .none) (together : out.provenance = out.fed.map FedLine.alone)
    (node : Option NodeId) (sourcePath : Path) (lines : List RawFileLine) :
    (recordsFromRead ext config out node sourcePath lines none).1.provenance =
        (recordsFromRead ext config out node sourcePath lines none).1.fed.map FedLine.alone ∧
      (recordsFromRead ext config out node sourcePath lines none).2 = none := by
  have folded : foldLines ext config.mode out.gate.observedAt sourcePath lines none =
      (lines.map recordFromLine, none) := by
    rw [unfolded]
    rfl
  simp only [recordsFromRead, folded, Outlet.admitWithNoiseFilter, Outlet.admit, Outlet.log, together,
    map_append, map_map, and_true, append_cancel_left_eq]
  rfl

/-! ## What reaches the batch -/

/-- `sent` is the delimited record under the name of its input and its file. -/
structure TelemetryRecord.Carries (sent : TelemetryRecord) (inputId : String) (sourcePath : Path)
    (record : Record) : Prop where
  inputId : sent.inputId = inputId
  sourcePath : sent.sourcePath = sourcePath
  body : sent.body = record.body
  startOffset : sent.startOffset = record.startOffset

theorem parseDelimitedRecords_carries (gate : UplinkGate) (sourcePath : Path)
    {records : List Record} {record : Record} (mem : record ∈ records) (seq : Nat) :
    ∃ sent ∈ parseDelimitedRecords ext gate sourcePath records seq,
      sent.Carries gate.inputId sourcePath record := by
  induction records generalizing seq with
  | nil => cases mem
  | cons first rest ih =>
    rcases mem_cons.1 mem with rfl | later
    · exact ⟨_, mem_cons_self, rfl, rfl, rfl, rfl⟩
    · obtain ⟨sent, inRest, carries⟩ := ih later (seq + 1)
      exact ⟨sent, mem_cons_of_mem _ inRest, carries⟩

theorem Outlet.mem_admitWithNoiseFilter {ext : Externals} {out : Outlet} {sourcePath : Path}
    {folded : List Record} {needles : List Bytes} {sent : TelemetryRecord}
    (mem : sent ∈ out.records) :
    sent ∈ (out.admitWithNoiseFilter ext sourcePath folded needles).records :=
  mem_append_left _ mem

/-- A whole record is dropped as noise or handed on. -/
theorem Outlet.admitWithNoiseFilter_carries (out : Outlet) (sourcePath : Path)
    {folded : List Record} (needles : List Bytes) {record : Record} (mem : record ∈ folded)
    (whole : withholds record = false) :
    isNoise record.body needles = true ∨
      ∃ sent ∈ (out.admitWithNoiseFilter ext sourcePath folded needles).records,
        sent.Carries out.gate.inputId sourcePath record := by
  cases noise : isNoise record.body needles with
  | true => exact .inl rfl
  | false =>
    have admitted : record ∈ (folded.filter fun record => !isNoise record.body needles).filter
        fun record => !withholds record := by
      simp [mem, noise, whole]
    obtain ⟨sent, inBatch, carries⟩ :=
      parseDelimitedRecords_carries ext out.gate sourcePath admitted out.nextSeq
    exact .inr ⟨sent, mem_append_right _ inBatch, carries⟩

/-- Without folding, every line is a record of its own. -/
theorem foldLines_none (observedAt : String) (path : Path)
    {lines : List RawFileLine} {line : RawFileLine} (mem : line ∈ lines)
    (pending : Option PendingMultilineState) :
    recordFromLine line ∈ (foldLines ext .none observedAt path lines pending).1 := by
  exact mem_append_right _ (mem_map_of_mem mem)

end WistAgentd.Telemetry

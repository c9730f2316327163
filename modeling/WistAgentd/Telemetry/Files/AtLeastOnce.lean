/- # Telemetry.Files.AtLeastOnce -- no line before the checkpoint is lost

One file that is only appended to, read line by line. Appends, ticks, failures and crashes come in
any order. A tick moves the stored offset only after the records behind it are accounted for, and
what is accounted for stays so.

* `inputStep_progress`: at every end of a tick, the old offset and what it had, or the new offset
  and the new records as well.
* `collectReadBatch_emits`: every line of the read is noise or among the records.
* `Covers`: the invariant of the stored list.
* `line_accounted_of_run`: every complete line between startup and checkpoint offset is
  acknowledged, parked or noise. -/
import WistAgentd.Telemetry.Delivery
import WistAgentd.Telemetry.Files.CommitVisible
import WistAgentd.Telemetry.Files.LineSpans

namespace WistAgentd.Telemetry
open Theory.Crash Theory.Transition Theory.Utf8
open List Option
set_option autoImplicit false

variable {state : LogCheckpointState} {next : World}

/-! ## One tick -/

section Tick

variable {A : Event Effect World IoError → Prop} {ext : Externals} {sink : Sink}
  {config : FileInputConfig} {stored : Option LogCheckpointState}

theorem deliverAndStoreSeq_accounts (codec : ext.SpoolCodec) (sink : Sink)
    (config : FileInputConfig) (records : List TelemetryRecord) :
    TripleOr A (SpoolIs config.inputId []) (deliverAndStoreSeq ext sink config records)
      (fun _ => AllAccounted ext config.inputId (· ∈ records)) fun _ => True := by
  refine triple_bind (deliverRecords_accounts codec _ records) fun delivery => ?_
  split
  · refine (keeps_bind (I := AllAccounted ext config.inputId (· ∈ records)) keeps_get fun _ =>
      keeps_bind (storeSeq_keeps (fun w mark held => held) _) fun _ => keeps_pure).failing
      (fun _ _ _ => trivial) fun _ _ => trivial
  · exact triple_pure fun w held => held

/-- The stored list with what it stands for: as before, or the planned one with the records of its
batch. -/
def Progress (ext : Externals) (config : FileInputConfig) (env : TickEnv)
    (state : LogCheckpointState) (nextSeq : Nat) (stored : Option LogCheckpointState)
    (known : TelemetryRecord → Prop) (w : World) : Prop :=
  (w.checkpoint config.inputId = stored ∧ AllAccounted ext config.inputId known w) ∨
    ∃ batch, (collectReadBatch ext config env state nextSeq).2 = .ok batch ∧
      w.checkpoint config.inputId =
        some (commitLogState env batch.state batch.checkpoints batch.pendingMultiline) ∧
      AllAccounted ext config.inputId (fun record => known record ∨ record ∈ batch.out.records) w

theorem storeCheckpointState_progress {env : TickEnv} {nextSeq : Nat}
    {known : TelemetryRecord → Prop} {batch : ReadBatch}
    (collected : (collectReadBatch ext config env state nextSeq).2 = .ok batch) :
    TripleOr A (fun w => w.checkpoint config.inputId = stored ∧ AllAccounted ext config.inputId
        (fun record => known record ∨ record ∈ batch.out.records) w)
      (storeCheckpointState config.inputId
        (commitLogState env batch.state batch.checkpoints batch.pendingMultiline))
      (fun _ => Progress ext config env state nextSeq stored known)
      (Progress ext config env state nextSeq stored known) := by
  have old : ∀ w, w.checkpoint config.inputId = stored ∧ AllAccounted ext config.inputId
      (fun record => known record ∨ record ∈ batch.out.records) w →
      Progress ext config env state nextSeq stored known w :=
    fun w held => .inl ⟨held.1, fun record mem => held.2 record (.inl mem)⟩
  refine triple_bind (Q := fun _ => Progress ext config env state nextSeq stored known)
    (tripleOr_effect (fun w held => .inr ⟨batch, collected, ?_, fun record mem => ?_⟩) old) fun _ =>
    keeps_effect fun w held => held
  · unfold World.checkpoint World.storeCheckpoint
    rw [World.updateStore_same]
  · have accounted := held.2 record mem
    unfold Accounted World.storeCheckpoint at *
    rw [World.updateStore_same]
    exact accounted

/-- **A tick never gives up a record**: wherever it ends, either the stored list is the old one, or
the records of the batch behind the new one are accounted for too. -/
theorem inputStep_progress (codec : ext.SpoolCodec) {w : World} {tick : Tick}
    (known : TelemetryRecord → Prop) (accounted : AllAccounted ext config.inputId known w)
    (stepped : inputStep ext config .single w tick = some next) :
    Progress ext config tick.env.toTickEnv (loadLogState config tick.env.toTickEnv w) tick.nextSeq
      (w.checkpoint config.inputId) known next := by
  cases stepped
  rw [tickProgram, processOnce_stages]
  refine Stages.result (R := fun _ => Progress ext config tick.env.toTickEnv
      (loadLogState config tick.env.toTickEnv w) tick.nextSeq (w.checkpoint config.inputId) known)
    (F := fun v => v.checkpoint config.inputId = w.checkpoint config.inputId ∧
      AllAccounted ext config.inputId known v)
    (I := fun v => v.checkpoint config.inputId = w.checkpoint config.inputId ∧
      SpoolIs config.inputId [] v ∧ AllAccepted known v)
    (J := fun _ v => (v.checkpoint config.inputId = w.checkpoint config.inputId ∧ v.nextSeq =
      (collectReadBatch ext config tick.env.toTickEnv (loadLogState config tick.env.toTickEnv w)
        tick.nextSeq).1) ∧ SpoolIs config.inputId [] v ∧ AllAccepted known v)
    ?_ (fun v held => ⟨.inl held, fun _ _ => .inl held⟩)
    (fun v held => .inl ⟨held.1, AllAccepted.accounted held.2.2⟩)
    (fun batch v collected held => ⟨⟨held.1, rfl⟩, held.2⟩) (fun batch replayed collected => ?_)
    tick.fates
  · refine triple_weaken (triple_and (replaySpoolIfPresent_keeps (deliveryBlind_checkpoint
        config.inputId (w.checkpoint config.inputId) tick.nextSeq))
      (replaySpoolIfPresent_accounts ext tick.sink config.inputId known)) ?_
      (fun _ v held => ⟨held.1.2, held.1.1, held.2⟩) (fun _ v held => ⟨held.1.1, held.2⟩)
      fun v held => ⟨held.1.1, held.2⟩
    rintro v rfl
    exact ⟨⟨rfl, rfl⟩, accounted⟩
  · have delivered := triple_and (deliverAndStoreSeq_keeps (A := fun _ => True)
        (deliveryBlind_checkpoint config.inputId (w.checkpoint config.inputId)
          (collectReadBatch ext config tick.env.toTickEnv (loadLogState config tick.env.toTickEnv w)
            tick.nextSeq).1) (fun _ _ => id) ext tick.sink config batch.out.records)
      (triple_and (deliverAndStoreSeq_accounts codec tick.sink config batch.out.records)
        (deliverAndStoreSeq_keeps (deliveryBlind_accepted known) (fun _ _ => id) ext tick.sink
          config batch.out.records))
    refine Stages.settle_ends (F := fun v => v.checkpoint config.inputId = w.checkpoint config.inputId ∧
        AllAccounted ext config.inputId known v)
      (delivered.cut fun v held => ⟨held.1.1, held.2.2.accounted⟩)
      (fun v held => .inl held) (fun delivery => (storeCheckpointState_progress collected).before ?_)
        fun _ v held => ⟨held, held⟩
    intro v held
    refine ⟨held.1.1, fun record mem => ?_⟩
    rcases mem with old | new
    · exact .inl (held.2.2 record old)
    · exact held.2.1 record new

end Tick

/-! ## What a tick reads -/

section Batch

variable {ext : Externals} {config : FileInputConfig} {env : TickEnv}
  {state : LogCheckpointState} {nextSeq : Nat} {batch : ReadBatch}

theorem recordsFromPending_mono {out : Outlet} {sent : TelemetryRecord}
    (mem : sent ∈ out.records) (node : Option NodeId)
    (pending : Option PendingMultilineState) :
    sent ∈ (recordsFromPending ext config.fold out node pending).records := by
  unfold recordsFromPending
  split
  · exact mem
  · exact Outlet.mem_admitWithNoiseFilter mem

theorem sealBeforeSource_gate (node : Option NodeId) (batch : ReadBatch) :
    (sealBeforeSource ext config node batch).out.gate = batch.out.gate := by
  have sealed : ∀ pending,
      (recordsFromPending ext config.fold batch.out node pending).gate = batch.out.gate := by
    intro pending
    cases pending <;> rfl
  unfold sealBeforeSource flushPendingIfSourceChanges
  split
  · exact sealed _
  · split
    · exact sealed _
    · rfl

theorem readSource_carries (ext : Externals) (unfolded : config.multilineMode = .none)
    (env : TickEnv) (batch : ReadBatch) {read : ReadFromOffset} {line : RawFileLine}
    (mem : line ∈ read.lines) :
    isNoise line.text config.dropIfContains = true ∨
      ∃ sent ∈ (readSource ext config env batch read).out.records,
        sent.Carries batch.out.gate.inputId config.sourcePath (recordFromLine line) := by
  have folded := foldLines_none ext batch.out.gate.observedAt config.sourcePath mem
    batch.pendingMultiline
  rw [← unfolded] at folded
  rcases batch.out.admitWithNoiseFilter_carries ext config.sourcePath config.dropIfContains folded
    rfl with noise | ⟨sent, inFold, carries⟩
  · exact .inl noise
  · have inRead : sent ∈ (recordsFromRead ext config.fold batch.out read.identity.node
        config.sourcePath read.lines batch.pendingMultiline).1.records := inFold
    refine .inr ⟨sent, ?_, carries⟩
    unfold readSource
    dsimp only
    split
    · exact recordsFromPending_mono inRead _ _
    · exact inRead

/-- **Every line of the read is noise or among the records**, when nothing was renamed and lines
are not folded. -/
theorem collectReadBatch_emits (unfolded : config.multilineMode = .none)
    (ran : (collectReadBatch ext config env state nextSeq).2 = .ok batch)
    {resume : ResumeDecision} {current : ObservedFileIdentity}
    (inspected : inspectPath env.fs config.sourcePath = .ok current)
    (decided : decideResume env.fs config.sourcePath current
      (checkpointForPath state config.sourcePath) config.startupPosition = resume)
    (still : resume.rotated = false) :
    ∃ read, readFromOffset env.fs config.sourcePath resume.startOffset config.readLimits =
        .ok read ∧
      batch.state.files = state.files ∧
      batch.checkpoints =
        [⟨config.sourcePath, read.identity, read.committedEndOffset, resume.rotatedFromPath⟩] ∧
      ∀ line ∈ read.lines, isNoise line.text config.dropIfContains = true ∨
        ∃ sent ∈ batch.out.records,
          sent.Carries config.inputId config.sourcePath (recordFromLine line) := by
  unfold collectReadBatch at ran
  rw [inspected] at ran
  dsimp only at ran
  rw [decided] at ran
  have notRenamed : ∀ start : ReadBatch, start.resume.rotated = false →
      collectRotatedTail ext config env.fs (checkpointForPath state config.sourcePath) start =
        .ok start := by
    intro start unmoved
    unfold collectRotatedTail
    rw [unmoved]
  rw [notRenamed _ still] at ran
  dsimp only at ran
  split at ran
  · simp at ran
  · rename_i read sourceRead
    simp only [Except.ok.injEq] at ran
    refine ⟨read, sourceRead, ?_, ?_, fun line mem => ?_⟩
    · rw [← ran]
      simp [readSource, ReadBatch.new]
    · rw [← ran]
      simp [readSource, ReadBatch.new]
    · rw [← ran]
      have carried := readSource_carries ext unfolded env (sealBeforeSource ext config
        ((checkpointForPath state config.sourcePath).bind TrackedFileCheckpoint.node)
        (ReadBatch.new { state with pendingMultiline := none }
          (Outlet.new (config.gate env) nextSeq) state.pendingMultiline resume)) mem
      rw [sealBeforeSource_gate] at carried
      exact carried

end Batch

/-! ## Runs of one growing file -/

/-- The world, the file as it is, and where reading began when there was no checkpoint. -/
structure FileRun where
  world : World
  content : Bytes
  startup : Nat

inductive FileEvent
  | append (bytes : Bytes)
  | tick (tick : Tick)

/-- Whenever the path can be opened it is this file with this content. -/
def ShowsFile (fs : FileSystem) (path : Path) (node : NodeId) (content : Bytes) : Prop :=
  match fs.openNode path with
  | .ok opened => opened = node ∧ fs.content opened = content
  | .error _ => True

instance (fs : FileSystem) (path : Path) (node : NodeId) (content : Bytes) :
    Decidable (ShowsFile fs path node content) := by
  unfold ShowsFile
  split <;> infer_instance

theorem ShowsFile.opened {fs : FileSystem} {path : Path} {node opened : NodeId} {content : Bytes}
    (shows_ : ShowsFile fs path node content) (ok : fs.openNode path = .ok opened) :
    opened = node ∧ fs.content node = content := by
  unfold ShowsFile at shows_
  rw [ok] at shows_
  exact ⟨shows_.1, shows_.1 ▸ shows_.2⟩

/-- Where a tick without a checkpoint begins. -/
def startupOffset (config : FileInputConfig) (env : TickEnv) (state : LogCheckpointState) :
    Option Nat :=
  match inspectPath env.fs config.sourcePath, checkpointForPath state config.sourcePath with
  | .ok current, none =>
    some (decideResume env.fs config.sourcePath current none config.startupPosition).startOffset
  | _, _ => none

/-- A tick that replaces the stored list, and found none to resume from, sets the startup offset. -/
def fileStep (ext : Externals) (config : FileInputConfig) (node : NodeId) (s : FileRun) :
    FileEvent → Option FileRun
  | .append bytes => some { s with content := s.content ++ bytes }
  | .tick tick =>
    if ShowsFile tick.env.fs config.sourcePath node s.content then
      (inputStep ext config .single s.world tick).map fun next =>
        { s with
          world := next
          startup :=
            if next.checkpoint config.inputId = s.world.checkpoint config.inputId then s.startup
            else (startupOffset config tick.env.toTickEnv
              (loadLogState config tick.env.toTickEnv s.world)).getD s.startup }
    else none

/-- The line at `start` is noise, or a record with its text is acknowledged or parked. -/
def LineAccounted (ext : Externals) (config : FileInputConfig) (w : World) (content : Bytes)
    (start : Nat) : Prop :=
  let text := fromUtf8Lossy ((lineAt content start).take config.readLimits.maxLineBytes)
  isNoise text config.dropIfContains = true ∨
    ∃ record : TelemetryRecord, record.inputId = config.inputId ∧
      record.sourcePath = config.sourcePath ∧ record.startOffset = start ∧ record.body = text ∧
      Accounted ext config.inputId w record

/-- The entry is of this file, and the lines between startup and its offset are accounted for. -/
structure Covers (ext : Externals) (config : FileInputConfig) (node : NodeId) (s : FileRun)
    (entry : TrackedFileCheckpoint) : Prop where
  path : entry.path = config.sourcePath
  describes : ∃ seen, seen <+: s.content ∧ Describes entry node seen
  lines : ∀ start, LineStart s.content start → s.startup ≤ start →
    start < entry.checkpointOffset →
    ready config.readLimits (lineAt s.content start) = true ∧
      LineAccounted ext config s.world s.content start

section Run

variable {ext : Externals} {config : FileInputConfig} {node : NodeId} {s : FileRun}
  {entry : TrackedFileCheckpoint}

theorem Covers.inside (covers : Covers ext config node s entry) :
    entry.checkpointOffset ≤ s.content.length := by
  obtain ⟨seen, grown, describes⟩ := covers.describes
  exact Nat.le_trans describes.inside grown.length_le

theorem Covers.append (covers : Covers ext config node s entry) (bytes : Bytes) :
    Covers ext config node { s with content := s.content ++ bytes } entry where
  path := covers.path
  describes := by
    obtain ⟨seen, grown, describes⟩ := covers.describes
    exact ⟨seen, grown.trans (prefix_append _ _), describes⟩
  lines start starts low high := by
    have inside : start ≤ s.content.length := by
      have := covers.inside
      omega
    obtain ⟨committed, accounted⟩ := covers.lines start ((lineStart_append _ inside).1 starts) low high
    obtain ⟨same, still⟩ := kept_stable bytes inside committed
    refine ⟨still, ?_⟩
    unfold LineAccounted at accounted ⊢
    rw [same]
    exact accounted

theorem LineAccounted.mono {w : World} {content : Bytes} {start : Nat}
    (accounted : LineAccounted ext config w content start)
    (kept : AllAccounted ext config.inputId (Accounted ext config.inputId w) next) :
    LineAccounted ext config next content start := by
  rcases accounted with noise | ⟨record, input, path, offset, body, held⟩
  · exact .inl noise
  · exact .inr ⟨record, input, path, offset, body, kept record held⟩

theorem Covers.mono (covers : Covers ext config node s entry)
    (kept : AllAccounted ext config.inputId (Accounted ext config.inputId s.world) next) :
    Covers ext config node { s with world := next } entry where
  path := covers.path
  describes := covers.describes
  lines start starts low high := by
    obtain ⟨committed, accounted⟩ := covers.lines start starts low high
    exact ⟨committed, accounted.mono kept⟩

/-- A list of entries of one file at one path is replaced by the new entry. -/
theorem upsert_alone {fs : FileSystem} {path : Path} {content : Bytes} {update : CheckpointUpdate}
    (alone : ∀ entry ∈ state.files, entry.path = path ∧ entry.Rooted node) :
    (upsertCheckpoint fs state path (identityOf node content) update).files =
      [upsertEntry fs path (identityOf node content) update path] := by
  obtain ⟨before, after, result, thinned⟩ := upsertCheckpoint_here
    (fun entry mem => ⟨node, (alone entry mem).2⟩) fun entry mem _ => (alone entry mem).1
  have nothingElse : state.files.filter (fun other => decide (other.path ≠ path)) = [] := by
    rw [filter_eq_nil_iff]
    intro entry mem
    simp [(alone entry mem).1]
  rw [nothingElse, append_eq_nil_iff] at thinned
  rw [result, thinned.1, thinned.2]
  rfl

/-- All entries the stored list has are covered. -/
def AllCovered (ext : Externals) (config : FileInputConfig) (node : NodeId) (s : FileRun) : Prop :=
  Stored config (fun state => ∀ entry ∈ state.files, Covers ext config node s entry) s.world

/-- Where a tick resumes a file that only grew: at its entry, or where the input starts up. -/
theorem decideResume_covered {fs : FileSystem}
    (covered : ∀ entry ∈ state.files, Covers ext config node s entry)
    (opened : fs.openNode config.sourcePath = .ok node) (shown : fs.content node = s.content) :
    ∃ offset, decideResume fs config.sourcePath (identityOf node (fs.content node))
        (checkpointForPath state config.sourcePath) config.startupPosition =
          { startOffset := offset, rotatedFromPath := none, truncated := false, rotated := false } ∧
      offset ≤ s.content.length ∧
      ((∃ entry ∈ state.files, checkpointForPath state config.sourcePath = some entry ∧
          entry.checkpointOffset = offset) ∨
        checkpointForPath state config.sourcePath = none) := by
  cases tracked : checkpointForPath state config.sourcePath with
  | none =>
    refine ⟨_, rfl, ?_, .inr rfl⟩
    cases config.startupPosition with
    | head => exact Nat.zero_le _
    | tail =>
      rw [shown]
      exact Nat.le_refl _
  | some entry =>
    have mem : entry ∈ state.files := mem_of_find?_eq_some tracked
    obtain ⟨seen, grown, describes⟩ := (covered entry mem).describes
    rw [← shown] at grown
    exact ⟨_, decideResume_grown describes (covered entry mem).path opened grown _,
      (covered entry mem).inside, .inl ⟨entry, mem, rfl, rfl⟩⟩

/-- The entry a tick commits covers the lines of its read and those its predecessor covered. -/
theorem covers_committed (unfolded : config.multilineMode = .none) {tick : Tick} {batch : ReadBatch}
    {startup : Nat} (shows_ : ShowsFile tick.env.fs config.sourcePath node s.content)
    (covered : ∀ entry ∈ state.files, Covers ext config node s entry)
    (collected : (collectReadBatch ext config tick.env.toTickEnv state tick.nextSeq).2 = .ok batch)
    (accounted : AllAccounted ext config.inputId (fun record =>
      Accounted ext config.inputId s.world record ∨ record ∈ batch.out.records) next)
    (began : startup = (startupOffset config tick.env.toTickEnv state).getD s.startup) :
    ∀ entry ∈ (commitLogState tick.env.toTickEnv batch.state batch.checkpoints
        batch.pendingMultiline).files,
      Covers ext config node { s with world := next, startup } entry := by
  obtain ⟨current, inspected, -⟩ := collectReadBatch_collected collected
  obtain ⟨found, opened, rfl⟩ := inspectPath_ok.1 inspected
  obtain ⟨rfl, shown⟩ := shows_.opened opened
  obtain ⟨offset, decided, inside, from_⟩ := decideResume_covered covered opened shown
  obtain ⟨read, sourceRead, files, checkpoints, emitted⟩ :=
    collectReadBatch_emits unfolded collected inspected decided rfl
  obtain ⟨identity, readLines, readEnd⟩ := readFromOffset_eq opened sourceRead
  have committedInside := readFromOffset_committed_le sourceRead opened
  have alone : ∀ entry ∈ batch.state.files,
      entry.path = config.sourcePath ∧ entry.Rooted found := by
    intro entry mem
    rw [files] at mem
    obtain ⟨seen, -, describes⟩ := (covered entry mem).describes
    exact ⟨(covered entry mem).path, describes.rooted⟩
  intro entry mem
  rw [commitLogState_files, checkpoints, foldl_cons, foldl_nil, identity,
    upsert_alone alone, mem_singleton] at mem
  subst mem
  refine ⟨rfl, ⟨s.content, prefix_rfl, ?_⟩, fun start starts low high => ?_⟩
  · rw [← shown]
    exact upsertEntry_describes opened committedInside config.sourcePath
  · replace low : startup ≤ start := low
    replace high : start < read.committedEndOffset := high
    by_cases old : start < offset
    · -- before the resume offset: the entry the tick resumed from covers it
      rcases from_ with ⟨previous, mem, tracked, same⟩ | untracked
      · have sameStartup : startup = s.startup := by
          rw [began, startupOffset, inspected, tracked]
          rfl
        obtain ⟨committed, held⟩ := (covered previous mem).lines start starts (by omega)
          (by omega)
        exact ⟨committed, held.mono fun record mem => accounted record (.inl mem)⟩
      · have here : startup = offset := by
          rw [untracked] at decided
          rw [began, startupOffset, inspected, untracked]
          exact congrArg ResumeDecision.startOffset decided
        omega
    · rw [readEnd, shown] at high
      obtain ⟨committed, line, handed, at_, text⟩ :=
        readContent_line tick.env.fs.chunking inside starts (by omega) high
      refine ⟨committed, ?_⟩
      have inRead : line ∈ read.lines := by
        rw [readLines, shown]
        exact handed
      unfold LineAccounted
      rw [← text]
      rcases emitted line inRead with noise | ⟨sent, inBatch, carries⟩
      · exact .inl noise
      · exact .inr ⟨sent, carries.inputId, carries.sourcePath, carries.startOffset.trans at_,
          carries.body, accounted sent (.inr inBatch)⟩

theorem fileStep_covered (codec : ext.SpoolCodec) (unfolded : config.multilineMode = .none)
    {event : FileEvent} {next : FileRun} (covered : AllCovered ext config node s)
    (stepped : fileStep ext config node s event = some next) :
    AllCovered ext config node next := by
  cases event with
  | append bytes =>
    cases stepped
    exact fun state stored entry mem => (covered state stored entry mem).append bytes
  | tick tick =>
    simp only [fileStep] at stepped
    split at stepped
    · rename_i shows_
      obtain ⟨world, ran, rfl⟩ := map_eq_some_iff.1 stepped
      have progress := inputStep_progress codec (Accounted ext config.inputId s.world)
        (fun _ => id) ran
      have loaded : ∀ entry ∈ (loadLogState config tick.env.toTickEnv s.world).files,
          Covers ext config node s entry :=
        covered.loaded (fun _ entry mem => by cases mem) tick.env.toTickEnv
      intro state stored entry mem
      replace stored : world.checkpoint config.inputId = some state := stored
      by_cases same : world.checkpoint config.inputId = s.world.checkpoint config.inputId
      · have kept : AllAccounted ext config.inputId (Accounted ext config.inputId s.world)
            world := by
          rcases progress with ⟨-, kept⟩ | ⟨batch, -, -, kept⟩
          · exact kept
          · exact fun record held => kept record (.inl held)
        rw [if_pos same]
        exact (covered state (same.symm.trans stored) entry mem).mono kept
      · rw [if_neg same]
        rcases progress with ⟨old, -⟩ | ⟨batch, collected, new, kept⟩
        · exact absurd old same
        · obtain rfl := some.inj (new.symm.trans stored)
          exact covers_committed unfolded shows_ loaded collected kept rfl entry mem
    · cases stepped

/-- **At least once.** However appends, ticks, failures and crashes follow each other, a complete
line behind the startup offset and before the stored offset is noise, or a record with its text was
acknowledged by a sink or is on a line of the spool that parses. -/
theorem line_accounted_of_run (codec : ext.SpoolCodec) (unfolded : config.multilineMode = .none)
    {start final : FileRun} {events : List FileEvent}
    (fresh : start.world.checkpoint config.inputId = none)
    (ran : run (fileStep ext config node) start events = some final)
    {state : LogCheckpointState} {entry : TrackedFileCheckpoint}
    (stored : final.world.checkpoint config.inputId = some state)
    (tracked : checkpointForPath state config.sourcePath = some entry)
    {line : Nat} (starts : LineStart final.content line)
    (complete : newline ∈ lineAt final.content line) (behind : final.startup ≤ line)
    (before : line + (lineAt final.content line).length ≤ entry.checkpointOffset) :
    LineAccounted ext config final.world final.content line := by
  have covered : AllCovered ext config node final := by
    refine run_induction (I := AllCovered ext config node)
      (fun s event next covered stepped => fileStep_covered codec unfolded covered stepped) ?_ ran
    intro state stored
    rw [fresh] at stored
    cases stored
  have nonempty : 0 < (lineAt final.content line).length := length_pos_of_mem complete
  exact ((covered state stored entry (mem_of_find?_eq_some tracked)).lines line starts behind
    (by omega)).2

end Run

namespace TornSpool

/-- The file after both lines were written. -/
def disk : FileSystem := .ofFiles ["/d"] [("/d/a", ⟨1, 1⟩, ascii "x\ny\n")] (by decide) (by decide)

/-- The sink refuses the batch, and the process dies four bytes into the spool. -/
def dies : Tick :=
  { Tick.calm disk [] with
    fates := [.done, .done, .fail (.new .other "refused"), .done, .done, .done, .done, .done, .crash] }

def events : List FileEvent :=
  [.append (ascii "x\n"), .append (ascii "y\n"), .tick dies, .tick (.calm disk [])]

end TornSpool

/-- Lines whose first spooling was cut off arrive with the next tick. -/
theorem line_accounted_tornSpool :
    ∃ final state entry, run (fileStep plainExternals (.small "/d/a") ⟨1, 1⟩) ⟨.empty, [], 0⟩
        TornSpool.events = some final ∧ (final.world.stores "").bad.length = 5 ∧
      final.world.checkpoint "" = some state ∧ checkpointForPath state "/d/a" = some entry ∧
      entry.checkpointOffset = 4 ∧
      LineAccounted plainExternals (.small "/d/a") final.world final.content 2 := by
  obtain ⟨final, ran⟩ : ∃ final, run (fileStep plainExternals (.small "/d/a") ⟨1, 1⟩)
      ⟨.empty, [], 0⟩ TornSpool.events = some final := ⟨_, rfl⟩
  have ends : (final.world.stores "").bad.length = 5 ∧
      ((final.world.checkpoint "").bind fun state => (checkpointForPath state "/d/a").map
        TrackedFileCheckpoint.checkpointOffset) = some 4 ∧
      final.startup = 0 ∧ final.content = ascii "x\ny\n" := by
    rw [← some.inj ran]
    decide +kernel
  obtain ⟨quarantined, committed, began, content⟩ := ends
  obtain ⟨state, stored, found⟩ := bind_eq_some_iff.1 committed
  obtain ⟨entry, tracked, offset⟩ := map_eq_some_iff.1 found
  refine ⟨final, state, entry, ran, quarantined, stored, tracked, offset, ?_⟩
  refine line_accounted_of_run plainExternals_spoolCodec rfl rfl ran stored tracked ?_ ?_ ?_ ?_
  · rw [content]
    exact .inr (by decide)
  · rw [content]
    decide
  · omega
  · rw [content, offset]
    decide

end WistAgentd.Telemetry

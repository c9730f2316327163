/- # Telemetry.Files.Rotation -- a watched file is renamed and a new one takes its place

The tick that notices the rename reads the tail of the old file with one tick's budget, commits it
under the new name, and goes on with the new file. No later tick looks at the old file again, so
what the budget left behind stays unread; the new file is followed to its end.

* `Follows`: the list has the watched file where it is, at this offset.
* `rotated_tick`, `grown_tick`: what the tick of the rename and every later tick does.
* `rotation_drained_iff`: all complete lines become records exactly once exactly when the complete
  lines left in the renamed file fit into the budget of one tick. -/
import WistAgentd.Telemetry.SpoolReplay
import WistAgentd.Telemetry.Files.CommitVisible
import WistAgentd.Telemetry.Files.LineSpans

namespace WistAgentd.Telemetry
open Theory.Crash Theory.FirstMatch Theory.Transition
open List
set_option autoImplicit false

variable {fs : FileSystem} {state : LogCheckpointState} {config : FileInputConfig}
  {previous : TrackedFileCheckpoint} {rotatedPath : Path} {node : NodeId}

/-! ## The entry of the watched file -/

/-- The file at the watched path has no entry elsewhere, and the one at the path says that it was
read up to `offset` when it held `content`. -/
structure Follows (config : FileInputConfig) (node : NodeId) (content : Bytes) (offset : Nat)
    (state : LogCheckpointState) : Prop where
  rooted : AllRooted state.files
  here : ∀ entry ∈ state.files, entry.fileId = node.fileId → entry.path = config.sourcePath
  entry : ∃ entry, checkpointForPath state config.sourcePath = some entry ∧
    Describes entry node content ∧ entry.checkpointOffset = offset

section Entry

variable {config : FileInputConfig} {fs : FileSystem} {node : NodeId}
  {state : LogCheckpointState} {update : CheckpointUpdate}

theorem upsert_here (rooted : AllRooted state.files)
    (here : ∀ entry ∈ state.files, entry.fileId = node.fileId → entry.path = config.sourcePath)
    (content : Bytes) :
    ∀ entry ∈ (upsertCheckpoint fs state config.sourcePath (identityOf node content) update).files,
      entry.fileId = node.fileId → entry.path = config.sourcePath := by
  intro entry mem same
  obtain ⟨before, after, result, thinned⟩ := upsertCheckpoint_here rooted here
  rw [result] at mem
  rcases mem_exchange entry mem with rfl | ⟨inOthers, -⟩
  · rfl
  · rw [thinned] at inOthers
    exact here entry (mem_filter.1 inOthers).1 same

theorem follows_upsert (state : LogCheckpointState) (update : CheckpointUpdate)
    (rooted : AllRooted state.files)
    (here : ∀ entry ∈ state.files, entry.fileId = node.fileId → entry.path = config.sourcePath)
    (opened : fs.openNode config.sourcePath = .ok node)
    (inside : update.checkpointOffset ≤ (fs.content node).length) :
    Follows config node (fs.content node) update.checkpointOffset
      (upsertCheckpoint fs state config.sourcePath (identityOf node (fs.content node)) update) where
  rooted := upsert_rooted rooted
  here := upsert_here rooted here _
  entry := ⟨_, lookup_upsert_here rooted here, upsertEntry_describes opened inside _, rfl⟩

theorem Follows.congr {content : Bytes} {offset : Nat} {other : LogCheckpointState}
    (follows : Follows config node content offset state) (files : other.files = state.files) :
    Follows config node content offset other where
  rooted := by rw [files]; exact follows.rooted
  here := by rw [files]; exact follows.here
  entry := by
    unfold checkpointForPath
    rw [files]
    exact follows.entry

end Entry

/-! ## Lines and records together -/

section Alone

variable {ext : Externals} {config : FileInputConfig}

/-- Each line handed over so far is one record, and no block is open. -/
def ReadBatch.Alone (batch : ReadBatch) : Prop :=
  batch.out.provenance = batch.out.fed.map FedLine.alone ∧ batch.pendingMultiline = none

variable {batch : ReadBatch}

theorem collectRotatedTail_alone (unfolded : config.multilineMode = .none)
    {tracked : Option TrackedFileCheckpoint} {drained : ReadBatch} (alone : batch.Alone)
    (ran : collectRotatedTail ext config fs tracked batch = .ok drained) : drained.Alone := by
  unfold collectRotatedTail readRotatedTail at ran
  split at ran
  · split at ran
    · simp at ran
    · simp only [Except.ok.injEq] at ran
      exact ran ▸ alone
    · split at ran
      · simp at ran
      · simp only [Except.ok.injEq] at ran
        rw [← ran, ReadBatch.Alone, alone.2]
        exact recordsFromRead_alone ext unfolded alone.1 _ _ _
  · simp only [Except.ok.injEq] at ran
    exact ran ▸ alone

theorem sealBeforeSource_alone (alone : batch.Alone) (node : Option NodeId) :
    (sealBeforeSource ext config node batch).Alone := by
  unfold sealBeforeSource flushPendingIfSourceChanges
  rw [alone.2]
  split <;> exact ⟨alone.1, rfl⟩

theorem readSource_alone (unfolded : config.multilineMode = .none) {env : TickEnv}
    (alone : batch.Alone) (read : ReadFromOffset) :
    (readSource ext config env batch read).Alone := by
  have mode : config.fold.mode = .none := unfolded
  have folded := recordsFromRead_alone ext mode alone.1 read.identity.node config.sourcePath
    read.lines
  unfold readSource ReadBatch.Alone
  rw [alone.2]
  simp only [folded.2, pendingShouldFlush, Bool.and_false, Bool.false_eq_true, if_false, and_true]
  exact folded.1

/-- Without folding, a batch that starts without an open block has one record for each line. -/
theorem collectReadBatch_alone (unfolded : config.multilineMode = .none) {env : TickEnv}
    {nextSeq : Nat} (closed : state.pendingMultiline = none)
    (ran : (collectReadBatch ext config env state nextSeq).2 = .ok batch) : batch.Alone := by
  unfold collectReadBatch at ran
  split at ran
  · simp at ran
  · dsimp only at ran
    split at ran
    · simp at ran
    · rename_i drained tail
      split at ran
      · simp at ran
      · rename_i read _
        cases ran
        exact readSource_alone unfolded (sealBeforeSource_alone
          (collectRotatedTail_alone unfolded ⟨rfl, closed⟩ tail) _) read

end Alone

/-! ## The tick of a rename, and the ticks behind it -/

/-- The watched file `old` was renamed to `rotatedPath` within its directory, unread from the offset
of its entry on, and `new`, which no entry knows, was created at the watched path. -/
structure Rotated (config : FileInputConfig) (fs : FileSystem) (state : LogCheckpointState)
    (previous : TrackedFileCheckpoint) (old new : NodeId) (rotatedPath : Path) : Prop where
  tracked : checkpointForPath state config.sourcePath = some previous
  wasOld : previous.Rooted old
  within : previous.checkpointOffset ≤ (fs.content old).length
  sameDirectory : ∃ dir ∈ fs.dirs, parent config.sourcePath = some dir ∧ parent rotatedPath = some dir
  moved : fs.lstat rotatedPath = some old
  elsewhere : rotatedPath ≠ config.sourcePath
  readable : fs.openNode rotatedPath = .ok old
  created : fs.openNode config.sourcePath = .ok new
  unknown : ∀ entry ∈ state.files, entry.fileId ≠ new.fileId

theorem Rotated.different {old new : NodeId}
    (rotated : Rotated config fs state previous old new rotatedPath) : old ≠ new := by
  rintro rfl
  exact rotated.unknown previous (mem_of_find?_eq_some rotated.tracked) rotated.wasOld.fileId

/-- Names are not shared, so the search finds the one the file was renamed to. -/
theorem Rotated.found {old new : NodeId}
    (rotated : Rotated config fs state previous old new rotatedPath) :
    findRotatedPath fs config.sourcePath previous = .ok (some rotatedPath) := by
  obtain ⟨dir, isDir, ofSource, ofRotated⟩ := rotated.sameDirectory
  obtain ⟨name, atRotated, node⟩ := Option.map_eq_some_iff.1 rotated.moved
  have namePath := FileSystem.entryAt_path atRotated
  unfold findRotatedPath
  rw [ofSource]
  simp only [FileSystem.readDir, isDir, if_true]
  cases hit : (fs.entries.filter fun entry => decide (parent entry.path = some dir)).find? fun entry =>
      decide (entry.path ≠ config.sourcePath) && rotatedEntryMatches fs previous entry with
  | none =>
    have listed : name ∈ fs.entries.filter fun entry => decide (parent entry.path = some dir) := by
      rw [mem_filter]
      exact ⟨FileSystem.entryAt_mem atRotated, by simp [namePath, ofRotated]⟩
    have skipped := List.find?_eq_none.1 hit name listed
    rw [Bool.and_eq_true, rotated.wasOld.rotatedEntryMatches_iff] at skipped
    simp [namePath, node, rotated.elsewhere] at skipped
  | some entry =>
    have met := List.find?_some hit
    rw [Bool.and_eq_true, rotated.wasOld.rotatedEntryMatches_iff] at met
    have inEntries : entry ∈ fs.entries :=
      (mem_filter.1 (mem_of_find?_eq_some hit)).1
    have same : fs.lstat entry.path = some old := by
      rw [FileSystem.lstat, FileSystem.entryAt_of_mem inEntries, Option.map_some, ← met.2]
    rw [Option.map_some, FileSystem.lstat_inj same rotated.moved]

section Ticks

variable {ext : Externals} {config : FileInputConfig} {env : TickEnv}
  {state : LogCheckpointState} {nextSeq : Nat}

/-- Collecting succeeds when the source, and the renamed file if there is one, can be read. -/
theorem collectReadBatch_total (ext : Externals) (config : FileInputConfig) (env : TickEnv)
    (state : LogCheckpointState) (nextSeq : Nat)
    (opened : env.fs.openNode config.sourcePath = .ok node)
    (drains : ∀ previous, checkpointForPath state config.sourcePath = some previous →
      (decideResume env.fs config.sourcePath (identityOf node (env.fs.content node))
        (some previous) config.startupPosition).rotated = true →
      ∃ rotatedPath, findRotatedPath env.fs config.sourcePath previous = .ok (some rotatedPath) ∧
        env.fs.Readable rotatedPath) :
    ∃ batch, (collectReadBatch ext config env state nextSeq).2 = .ok batch := by
  have inspected : inspectPath env.fs config.sourcePath =
      .ok (identityOf node (env.fs.content node)) := inspectPath_ok.2 ⟨node, opened, rfl⟩
  have sourceReadable : env.fs.Readable config.sourcePath := by
    simp [FileSystem.Readable, opened, Except.toOption]
  unfold collectReadBatch
  rw [inspected]
  dsimp only
  split
  · rename_i err tail
    exfalso
    unfold collectRotatedTail readRotatedTail at tail
    split at tail
    · rename_i previous rotated tracked
      replace rotated : (decideResume env.fs config.sourcePath _
        (checkpointForPath state config.sourcePath) config.startupPosition).rotated = true := rotated
      rw [tracked] at rotated
      obtain ⟨rotatedPath, found, readable⟩ := drains previous tracked rotated
      rw [found] at tail
      dsimp only at tail
      split at tail
      · rename_i refused
        exact readFromOffset_of_readable readable _ _ _ refused
      · cases tail
    · cases tail
  · split
    · rename_i refused
      exact absurd refused (readFromOffset_of_readable sourceReadable _ _ _)
    · exact ⟨_, rfl⟩

/-- **A tick on a file that only grew** reads on from its offset. -/
theorem grown_tick (ext : Externals) (nextSeq : Nat) {content : Bytes} {offset : Nat}
    (follows : Follows config node content offset state)
    (opened : env.fs.openNode config.sourcePath = .ok node)
    (grown : content <+: env.fs.content node) :
    ∃ batch, (collectReadBatch ext config env state nextSeq).2 = .ok batch ∧
      batch.out.fed = (readContent env.fs.chunking (env.fs.content node) offset
        config.readLimits).lines.map (FedLine.mk (some node)) ∧
      Follows config node (env.fs.content node) (readContent env.fs.chunking (env.fs.content node)
          offset config.readLimits).committedEndOffset
        (commitLogState env batch.state batch.checkpoints batch.pendingMultiline) := by
  obtain ⟨entry, tracked, describes, at_⟩ := follows.entry
  have atPath : entry.path = config.sourcePath := (checkpointForPath_first tracked).1
  have decided := decideResume_grown describes atPath opened grown config.startupPosition
  obtain ⟨batch, ran⟩ := collectReadBatch_total ext config env state nextSeq opened (by
    intro previous found rotated
    obtain rfl := Option.some.inj (tracked.symm.trans found)
    rw [decided] at rotated
    cases rotated)
  refine ⟨batch, ran, ?_⟩
  obtain ⟨current, inspected, collected⟩ := collectReadBatch_collected ran
  obtain ⟨other, otherOpened, rfl⟩ := inspectPath_ok.1 inspected
  obtain rfl : other = node := Except.ok.inj (otherOpened.symm.trans opened)
  rw [tracked, decided] at collected
  generalize filesEq : batch.state.files = files, batch.checkpoints = checkpoints,
    batch.checkpointOffset = reported, batch.out.fed = fed at collected ⊢
  cases collected with
  | source unmoved read =>
    obtain ⟨identity, lines, committed⟩ := readFromOffset_eq opened read
    rw [at_] at lines committed
    refine ⟨by rw [lines, identity]; rfl, ?_⟩
    have inside := readFromOffset_committed_le read opened
    rw [committed] at inside
    rw [identity, committed]
    exact (follows_upsert batch.state (PendingCheckpoint.update env ⟨config.sourcePath,
      identityOf other (env.fs.content other), _, none⟩) (by rw [filesEq]; exact follows.rooted)
      (by rw [filesEq]; exact follows.here) opened inside).congr rfl
  | moved rotated => cases rotated

theorem AllRooted.relocate (rooted : AllRooted state.files) (previous : TrackedFileCheckpoint)
    (rotatedPath : Path) :
    AllRooted (relocateCheckpointPath state previous rotatedPath).files ∧
      ∀ entry ∈ (relocateCheckpointPath state previous rotatedPath).files,
        ∃ other ∈ state.files, entry.fileId = other.fileId := by
  have origin : ∀ entry ∈ (relocateCheckpointPath state previous rotatedPath).files,
      ∃ other ∈ state.files, entry.fileId = other.fileId ∧ entry.deviceId = other.deviceId ∧
        entry.inode = other.inode := by
    intro entry mem
    rcases mem_updateFirst mem with same | ⟨other, inFiles, -, rfl⟩
    · exact ⟨entry, same, rfl, rfl, rfl⟩
    · exact ⟨other, inFiles, rfl, rfl, rfl⟩
  constructor
  · intro entry mem
    obtain ⟨other, inFiles, fileId, device, inode⟩ := origin entry mem
    obtain ⟨node, otherRooted⟩ := rooted other inFiles
    exact ⟨node, fileId.trans otherRooted.fileId, device.trans otherRooted.deviceId,
      inode.trans otherRooted.inode⟩
  · intro entry mem
    obtain ⟨other, inFiles, fileId, -⟩ := origin entry mem
    exact ⟨other, inFiles, fileId⟩

/-- **The tick that notices the rename** reads one budget of the old file, then the new one. -/
theorem rotated_tick (ext : Externals) (nextSeq : Nat) {old new : NodeId}
    (rooted : AllRooted state.files)
    (rotated : Rotated config env.fs state previous old new rotatedPath) :
    ∃ batch, (collectReadBatch ext config env state nextSeq).2 = .ok batch ∧
      batch.out.fed =
        (readContent env.fs.chunking (env.fs.content old) previous.checkpointOffset
          config.readLimits).lines.map (FedLine.mk (some old)) ++
        (readContent env.fs.chunking (env.fs.content new) 0
          config.readLimits).lines.map (FedLine.mk (some new)) ∧
      Follows config new (env.fs.content new) (readContent env.fs.chunking (env.fs.content new) 0
          config.readLimits).committedEndOffset
        (commitLogState env batch.state batch.checkpoints batch.pendingMultiline) := by
  have notSame : sameIdentity config.sourcePath (identityOf new (env.fs.content new)) previous =
      false := by
    rw [Bool.eq_false_iff]
    exact fun same => rotated.different (rotated.wasOld.sameIdentity_iff.1 same).2.1
  have decided : decideResume env.fs config.sourcePath (identityOf new (env.fs.content new))
      (some previous) config.startupPosition =
        { startOffset := 0
          rotatedFromPath := some (if previous.path = "" then config.sourcePath else previous.path)
          truncated := false, rotated := true } := by
    simp [decideResume, notSame]
  have rotatedReadable : env.fs.Readable rotatedPath := by
    simp [FileSystem.Readable, rotated.readable, Except.toOption]
  obtain ⟨batch, ran⟩ := collectReadBatch_total ext config env state nextSeq rotated.created (by
    intro other found _
    obtain rfl := Option.some.inj (rotated.tracked.symm.trans found)
    exact ⟨rotatedPath, rotated.found, rotatedReadable⟩)
  refine ⟨batch, ran, ?_⟩
  obtain ⟨current, inspected, collected⟩ := collectReadBatch_collected ran
  obtain ⟨other, otherOpened, rfl⟩ := inspectPath_ok.1 inspected
  obtain rfl : other = new := Except.ok.inj (otherOpened.symm.trans rotated.created)
  rw [rotated.tracked, decided] at collected
  generalize filesEq : batch.state.files = files, batch.checkpoints = checkpoints,
    batch.checkpointOffset = reported, batch.out.fed = fed at collected ⊢
  cases collected with
  | source unmoved read =>
    have nowhere := unmoved previous rfl rotated.tracked
    rw [rotated.found] at nowhere
    cases nowhere
  | moved wasRotated tracked found drained read =>
    rename_i before path tail source
    obtain rfl := Option.some.inj (rotated.tracked.symm.trans tracked)
    obtain rfl : path = rotatedPath := by
      rw [rotated.found] at found
      exact (Option.some.inj (Except.ok.inj found)).symm
    obtain ⟨tailIdentity, tailLines, -⟩ := readFromOffset_eq rotated.readable drained
    obtain ⟨identity, lines, committed⟩ := readFromOffset_eq rotated.created read
    refine ⟨by rw [tailLines, tailIdentity, lines, identity]; rfl, ?_⟩
    have inside := readFromOffset_committed_le read rotated.created
    obtain ⟨relocated, ids⟩ := rooted.relocate previous path
    rw [← filesEq] at relocated ids
    -- no entry knows the new node, neither before nor after the old one is committed
    have unknown : ∀ update, ∀ entry ∈ (upsertCheckpoint env.fs batch.state path
        (identityOf old (env.fs.content old)) update).files, entry.fileId ≠ other.fileId := by
      intro update entry mem
      obtain ⟨at_, -, entries⟩ := (upsertCheckpoint_upserted env.fs batch.state path
        (identityOf old (env.fs.content old)) update).mem
      rcases entries entry mem with rfl | inFiles
      · intro same
        exact rotated.different (NodeId.fileId_inj.1 same)
      · obtain ⟨earlier, inState, same⟩ := ids entry inFiles
        rw [same]
        exact rotated.unknown earlier inState
    rw [committed] at inside
    rw [tailIdentity, identity, committed]
    exact (follows_upsert _ (PendingCheckpoint.update env ⟨config.sourcePath,
      identityOf other (env.fs.content other), _, _⟩) (upsert_rooted relocated)
      (fun entry mem same => absurd same (unknown _ entry mem)) rotated.created
      inside).congr rfl

end Ticks

/-! ## Reachable lists -/

/-- Every stored list was written from observations, and has no open block if lines are not
folded. -/
theorem rooted_of_run {ext : Externals} {start final : World} {ticks : List Tick}
    (fresh : start.checkpoint config.inputId = none)
    (ran : run (inputStep ext config .single) start ticks = some final) :
    Stored config (fun state => AllRooted state.files ∧
      (config.multilineMode = .none → state.pendingMultiline = none)) final := by
  refine checkpoint_of_run (fun _ _ => True) (fun _ => ⟨fun _ mem => (by cases mem),
    fun _ => rfl⟩) (fun state tick planned held _ plan => ?_) fresh
    (along_of_forall (fun _ _ => trivial) ticks start) ran
  obtain ⟨batch, collected, rfl⟩ := Option.map_eq_some_iff.1 plan
  have ok := toOption_eq_some.1 collected
  refine ⟨?_, fun unfolded => (collectReadBatch_alone unfolded (held.2 unfolded) ok).2⟩
  obtain ⟨current, -, collected⟩ := collectReadBatch_collected ok
  rw [commitLogState_files]
  generalize filesEq : batch.state.files = files, batch.checkpoints = checkpoints,
    batch.checkpointOffset = offset, batch.out.fed = fed at collected ⊢
  cases collected with
  | source unmoved read =>
    obtain ⟨node, -, identity⟩ := readFromOffset_ok read
    rw [foldl_cons, foldl_nil, identity]
    exact upsert_rooted (filesEq ▸ held.1)
  | moved wasRotated tracked found drained read =>
    obtain ⟨node, -, identity⟩ := readFromOffset_ok read
    obtain ⟨oldNode, -, oldIdentity⟩ := readFromOffset_ok drained
    rw [foldl_cons, foldl_cons, foldl_nil, identity, oldIdentity]
    exact upsert_rooted (upsert_rooted (filesEq ▸ (held.1.relocate _ _).1))

/-! ## What was handed over -/

/-- Where the lines of `node` in the log start. -/
def lineStarts (node : NodeId) (fed : List FedLine) : List Nat :=
  (fed.filter fun fed => decide (fed.node = some node)).map fun fed => fed.line.startOffset

/-- Where the records delimited from `node` start. -/
def recordStarts (node : NodeId) (provenance : List Provenance) : List Nat :=
  (provenance.filter fun from_ => decide (from_.node = some node)).map
    fun from_ => from_.record.startOffset

theorem lineStarts_append (node : NodeId) (front back : List FedLine) :
    lineStarts node (front ++ back) = lineStarts node front ++ lineStarts node back := by
  simp [lineStarts]

theorem lineStarts_own (node : NodeId) (lines : List RawFileLine) :
    lineStarts node (lines.map (FedLine.mk (some node))) = lines.map RawFileLine.startOffset := by
  simp [lineStarts, filter_map, Function.comp_def]

theorem lineStarts_foreign {other : NodeId} (different : other ≠ node) (lines : List RawFileLine) :
    lineStarts node (lines.map (FedLine.mk (some other))) = [] := by
  simp [lineStarts, filter_map, Function.comp_def, different]

theorem recordStarts_alone (node : NodeId) (fed : List FedLine) :
    recordStarts node (fed.map FedLine.alone) = lineStarts node fed := by
  unfold recordStarts lineStarts
  rw [filter_map, map_map]
  rfl

/-- Between the two worlds the line of `node` at `start` was handed to the folder exactly once;
where lines are not folded, exactly one record was delimited there. -/
def TurnedOnce (config : FileInputConfig) (before after : World) (node : NodeId) (start : Nat) :
    Prop :=
  (lineStarts node (after.fed.drop before.fed.length)).count start = 1 ∧
    (config.multilineMode = .none →
      (recordStarts node (after.provenance.drop before.provenance.length)).count start = 1)

/-- An endless run of undisturbed ticks in which the file at the watched path only grows. -/
structure Settles (ext : Externals) (config : FileInputConfig) (node : NodeId)
    (worlds : Nat → World) (ticks : Nat → Tick) : Prop where
  steps : ∀ k, inputStep ext config .single (worlds k) (ticks k) = some (worlds (k + 1))
  calm : ∀ k, Calm (ticks k).fates
  checkpointReadable : ∀ k, (ticks k).env.checkpointReadable = true
  opened : ∀ k, (ticks k).env.fs.openNode config.sourcePath = .ok node
  grows : ∀ k, (ticks k).env.fs.content node <+: (ticks (k + 1)).env.fs.content node

/-- How far the new file has been read after tick `k`. -/
def offsetAfter (config : FileInputConfig) (node : NodeId) (ticks : Nat → Tick) : Nat → Nat
  | 0 => (readContent (ticks 0).env.fs.chunking ((ticks 0).env.fs.content node) 0
      config.readLimits).committedEndOffset
  | k + 1 => (readContent (ticks (k + 1)).env.fs.chunking ((ticks (k + 1)).env.fs.content node)
      (offsetAfter config node ticks k) config.readLimits).committedEndOffset

/-- The state of things after a tick behind the rename: the new file was handed over up to `offset`,
of the old one the lines that start at `tail`. -/
structure Followed (config : FileInputConfig) (old new : NodeId) (tail : List Nat)
    (start w : World) (content : Bytes) (offset : Nat) : Prop where
  stored : ∃ state, w.checkpoint config.inputId = some state ∧
    Follows config new content offset state ∧
    (config.multilineMode = .none → state.pendingMultiline = none)
  inside : offset ≤ content.length
  replayable : Replayable config.inputId w
  logged : ∃ fed, w.fed = start.fed ++ fed ∧
    (config.multilineMode = .none → w.provenance = start.provenance ++ fed.map FedLine.alone) ∧
    lineStarts old fed = tail ∧ (∀ at_ ∈ lineStarts new fed, at_ < offset) ∧
    ∀ at_, LineStart content at_ → at_ < offset → (lineStarts new fed).count at_ = 1

section Run

variable {ext : Externals} {config : FileInputConfig} {old new : NodeId} {tail : List Nat}
  {start w next : World} {content : Bytes} {offset at_ : Nat} {tick : Tick}
  {worlds : Nat → World} {ticks : Nat → Tick}

theorem Followed.turnedOnce_new (followed : Followed config old new tail start w content offset)
    (starts : LineStart content at_) (before : at_ < offset) :
    TurnedOnce config start w new at_ := by
  obtain ⟨fed, fedIs, alone, -, -, once⟩ := followed.logged
  refine ⟨?_, fun unfolded => ?_⟩
  · rw [fedIs, drop_left]
    exact once at_ starts before
  · rw [alone unfolded, drop_left, recordStarts_alone]
    exact once at_ starts before

theorem Followed.turnedOnce_old_iff (followed : Followed config old new tail start w content offset) :
    TurnedOnce config start w old at_ ↔ tail.count at_ = 1 := by
  obtain ⟨fed, fedIs, alone, ofOld, -, -⟩ := followed.logged
  unfold TurnedOnce
  rw [fedIs, drop_left, ofOld]
  refine ⟨fun both => both.1, fun once => ⟨once, fun unfolded => ?_⟩⟩
  rw [alone unfolded, drop_left, recordStarts_alone, ofOld]
  exact once

/-- The tick of the rename. -/
theorem followed_rotated (codec : ext.SpoolCodec) (calm : Calm tick.fates)
    (replayable : Replayable config.inputId start)
    (rooted : AllRooted (loadLogState config tick.env.toTickEnv start).files)
    (closed : config.multilineMode = .none →
      (loadLogState config tick.env.toTickEnv start).pendingMultiline = none)
    (rotated : Rotated config tick.env.fs (loadLogState config tick.env.toTickEnv start) previous
      old new rotatedPath) (stepped : inputStep ext config .single start tick = some next) :
    Followed config old new ((readContent tick.env.fs.chunking (tick.env.fs.content old)
        previous.checkpointOffset config.readLimits).lines.map RawFileLine.startOffset) start next
      (tick.env.fs.content new) (readContent tick.env.fs.chunking (tick.env.fs.content new) 0
        config.readLimits).committedEndOffset := by
  obtain ⟨batch, collected, fed, follows⟩ := rotated_tick ext tick.nextSeq rooted rotated
  obtain ⟨stored, still, fedIs, provenanceIs⟩ :=
    inputStep_single_calm codec replayable calm collected stepped
  refine ⟨⟨_, stored, follows, fun unfolded => ?_⟩, readContent_committed_le .., still,
    batch.out.fed, fedIs, fun unfolded => ?_, ?_, fun at_ mem => ?_, fun at_ starts high => ?_⟩
  · exact (collectReadBatch_alone unfolded (closed unfolded) collected).2
  · rw [provenanceIs, (collectReadBatch_alone unfolded (closed unfolded) collected).1]
  · rw [fed, lineStarts_append, lineStarts_own, lineStarts_foreign rotated.different.symm,
      append_nil]
  · rw [fed, lineStarts_append, lineStarts_own, lineStarts_foreign rotated.different,
      nil_append] at mem
    obtain ⟨line, inRead, rfl⟩ := mem_map.1 mem
    exact (readContent_bounds _ (Nat.zero_le _) inRead).2
  · rw [fed, lineStarts_append, lineStarts_own, lineStarts_foreign rotated.different,
      nil_append]
    exact readContent_once _ (Nat.zero_le _) starts (Nat.zero_le _) high

/-- A tick behind it. -/
theorem followed_grown (codec : ext.SpoolCodec) (different : old ≠ new)
    (followed : Followed config old new tail start w content offset) (calm : Calm tick.fates)
    (readable : tick.env.checkpointReadable = true)
    (opened : tick.env.fs.openNode config.sourcePath = .ok new)
    (grown : content <+: tick.env.fs.content new)
    (stepped : inputStep ext config .single w tick = some next) :
    Followed config old new tail start next (tick.env.fs.content new)
      (readContent tick.env.fs.chunking (tick.env.fs.content new) offset
        config.readLimits).committedEndOffset := by
  obtain ⟨state, held, follows, closed⟩ := followed.stored
  have loaded : loadLogState config tick.env.toTickEnv w = state := by
    unfold World.checkpoint at held
    simp only [loadLogState, readable, held]
  rw [← loaded] at follows closed
  have inside : offset ≤ (tick.env.fs.content new).length :=
    Nat.le_trans followed.inside grown.length_le
  obtain ⟨batch, collected, fed, followsNext⟩ := grown_tick ext tick.nextSeq follows opened grown
  obtain ⟨stored, still, fedIs, provenanceIs⟩ :=
    inputStep_single_calm codec followed.replayable calm collected stepped
  obtain ⟨before, beforeIs, alone, ofOld, below, once⟩ := followed.logged
  have ownStarts : lineStarts new batch.out.fed = (readContent tick.env.fs.chunking
      (tick.env.fs.content new) offset config.readLimits).lines.map RawFileLine.startOffset := by
    rw [fed, lineStarts_own]
  refine ⟨⟨_, stored, followsNext, fun unfolded => ?_⟩, readContent_committed_le .., still,
    before ++ batch.out.fed, ?_, fun unfolded => ?_, ?_, fun at_ mem => ?_,
    fun at_ starts high => ?_⟩
  · exact (collectReadBatch_alone unfolded (closed unfolded) collected).2
  · rw [fedIs, beforeIs, append_assoc]
  · rw [provenanceIs, alone unfolded, (collectReadBatch_alone unfolded (closed unfolded)
      collected).1, map_append, append_assoc]
  · rw [lineStarts_append, ofOld, fed, lineStarts_foreign different.symm, append_nil]
  · rw [lineStarts_append, ownStarts, mem_append] at mem
    rcases mem with earlier | now
    · exact Nat.lt_of_lt_of_le (below at_ earlier) (readContent_committed_ge _ inside _)
    · obtain ⟨line, inRead, rfl⟩ := mem_map.1 now
      exact (readContent_bounds _ inside inRead).2
  · rw [lineStarts_append, ownStarts, count_append]
    by_cases earlier : at_ < offset
    · -- read before, and the new lines start further on
      obtain ⟨more, whole⟩ := grown
      have notNow : ((readContent tick.env.fs.chunking (tick.env.fs.content new) offset
          config.readLimits).lines.map RawFileLine.startOffset).count at_ = 0 := by
        rw [count_eq_zero]
        intro mem
        obtain ⟨line, inRead, same⟩ := mem_map.1 mem
        have := (readContent_bounds _ inside inRead).1
        omega
      have inContent := followed.inside
      rw [← whole] at starts
      rw [notNow, once at_ ((lineStart_append _ (by omega)).1 starts) earlier]
    · have notBefore : (lineStarts new before).count at_ = 0 := by
        rw [count_eq_zero]
        exact fun mem => earlier (below at_ mem)
      rw [notBefore, readContent_once _ inside starts (by omega) high]

theorem Settles.content_le (settles : Settles ext config new worlds ticks) (i : Nat) :
    ∀ j, (ticks i).env.fs.content new <+: (ticks (i + j)).env.fs.content new
  | 0 => prefix_rfl
  | j + 1 => (settles.content_le i j).trans (settles.grows (i + j))

/-- After every tick of a run behind a rename. -/
theorem followed_of_rotated (codec : ext.SpoolCodec) (settles : Settles ext config new worlds ticks)
    (replayable : Replayable config.inputId (worlds 0))
    (rooted : AllRooted (loadLogState config (ticks 0).env.toTickEnv (worlds 0)).files)
    (closed : config.multilineMode = .none →
      (loadLogState config (ticks 0).env.toTickEnv (worlds 0)).pendingMultiline = none)
    (rotated : Rotated config (ticks 0).env.fs
      (loadLogState config (ticks 0).env.toTickEnv (worlds 0)) previous old new rotatedPath) :
    ∀ k, Followed config old new ((readContent (ticks 0).env.fs.chunking
        ((ticks 0).env.fs.content old) previous.checkpointOffset
        config.readLimits).lines.map RawFileLine.startOffset) (worlds 0) (worlds (k + 1))
      ((ticks k).env.fs.content new) (offsetAfter config new ticks k)
  | 0 => followed_rotated codec (settles.calm 0) replayable rooted closed rotated (settles.steps 0)
  | k + 1 =>
    followed_grown codec rotated.different
      (followed_of_rotated codec settles replayable rooted closed rotated k)
      (settles.calm (k + 1)) (settles.checkpointReadable (k + 1)) (settles.opened (k + 1))
      (settles.grows k) (settles.steps (k + 1))

/-- A complete line is passed after finitely many ticks: until then each tick moves on. -/
theorem offset_passes (settles : Settles ext config new worlds ticks)
    (lines : 0 < config.readLimits.maxLines) (bytes : 0 < config.readLimits.maxBytes)
    (inside : ∀ k, offsetAfter config new ticks k ≤ ((ticks k).env.fs.content new).length) {i : Nat}
    (line : CompleteLine ((ticks i).env.fs.content new) at_) :
    ∀ j, at_ < offsetAfter config new ticks (i + j) ∨ j ≤ offsetAfter config new ticks (i + j)
  | 0 => .inr (Nat.zero_le _)
  | j + 1 => by
      have now : offsetAfter config new ticks (i + j) ≤
          ((ticks (i + j + 1)).env.fs.content new).length :=
        Nat.le_trans (inside (i + j)) (settles.grows (i + j)).length_le
      by_cases passed : at_ < offsetAfter config new ticks (i + j)
      · exact .inl (Nat.lt_of_lt_of_le passed (readContent_committed_ge _ now _))
      · -- the newline of the line is still ahead
        obtain ⟨more, whole⟩ := settles.content_le i (j + 1)
        have ahead : newline ∈ ((ticks (i + j + 1)).env.fs.content new).drop
            (offsetAfter config new ticks (i + j)) := by
          have inLine := mem_drop_of_mem_lineAt line.2
          rw [← Nat.add_sub_of_le (Nat.not_lt.1 passed), ← drop_drop] at inLine
          have inOld := mem_of_mem_drop inLine
          rw [show i + j + 1 = i + (j + 1) from rfl, ← whole, drop_append]
          exact mem_append_left _ inOld
        have progress := readContent_progress lines bytes
          (ticks (i + j + 1)).env.fs.chunking now ahead
        rcases offset_passes settles lines bytes inside line j with passed' | reached
        · exact absurd passed' passed
        · exact .inr (Nat.lt_of_le_of_lt reached progress)

theorem offsetAfter_mono (settles : Settles ext config new worlds ticks)
    (inside : ∀ k, offsetAfter config new ticks k ≤ ((ticks k).env.fs.content new).length) (i : Nat) :
    ∀ j, offsetAfter config new ticks i ≤ offsetAfter config new ticks (i + j)
  | 0 => Nat.le_refl _
  | j + 1 => Nat.le_trans (offsetAfter_mono settles inside i j) (readContent_committed_ge _
      (Nat.le_trans (inside (i + j)) (settles.grows (i + j)).length_le) _)

/-- **Nothing is lost across a rename exactly when the rest fits into one budget.** The tick that
notices the rename reads one budget of the renamed file and no later tick comes back to it, while
the file at the watched path is read to its end. -/
theorem rotation_drained_iff (codec : ext.SpoolCodec)
    (limits : ∃ maxLineBytes maxBytes maxLines,
      config.readLimits = .new maxLineBytes maxBytes maxLines)
    {start : World} {earlier : List Tick} {worlds : Nat → World} {ticks : Nat → Tick}
    {previous : TrackedFileCheckpoint} {rotatedPath : Path}
    (fresh : start.checkpoint config.inputId = none)
    (ran : run (inputStep ext config .single) start earlier = some (worlds 0))
    (replayable : Replayable config.inputId (worlds 0))
    (settles : Settles ext config new worlds ticks)
    (rotated : Rotated config (ticks 0).env.fs
      (loadLogState config (ticks 0).env.toTickEnv (worlds 0)) previous old new rotatedPath) :
    ((∀ at_, previous.checkpointOffset ≤ at_ → CompleteLine ((ticks 0).env.fs.content old) at_ →
        ∃ settled, ∀ k, settled ≤ k → TurnedOnce config (worlds 0) (worlds k) old at_) ∧
      ∀ i at_, CompleteLine ((ticks i).env.fs.content new) at_ →
        ∃ settled, ∀ k, settled ≤ k → TurnedOnce config (worlds 0) (worlds k) new at_) ↔
    tailFits config.readLimits (ticks 0).env.fs.chunking ((ticks 0).env.fs.content old)
      previous.checkpointOffset = true := by
  obtain ⟨maxLineBytes, maxBytes, maxLines, isNew⟩ := limits
  have lines : 0 < config.readLimits.maxLines := by
    rw [isNew]
    exact Nat.lt_of_lt_of_le Nat.zero_lt_one (Nat.le_max_right _ _)
  have bytes : 0 < config.readLimits.maxBytes := by
    rw [isNew]
    exact Nat.lt_of_lt_of_le Nat.zero_lt_one (Nat.le_max_right _ _)
  obtain ⟨rooted, closed⟩ := (rooted_of_run fresh ran).loaded
    (fun _ => ⟨fun _ mem => (by cases mem), fun _ => rfl⟩) (ticks 0).env.toTickEnv
  have followed := followed_of_rotated codec settles replayable rooted closed rotated
  rw [tailFits_iff lines bytes _ rotated.within]
  constructor
  · rintro ⟨ofOld, -⟩ at_ low line
    obtain ⟨settled, once⟩ := ofOld at_ low line
    have counted := (followed settled).turnedOnce_old_iff.1 (once (settled + 1) (Nat.le_succ _))
    have mem := count_pos_iff.1 (by rw [counted]; exact Nat.zero_lt_one)
    obtain ⟨taken, inRead, rfl⟩ := mem_map.1 mem
    exact (readContent_bounds _ rotated.within inRead).2
  · intro fits
    constructor
    · intro at_ low line
      refine ⟨1, fun k behind => ?_⟩
      obtain ⟨k, rfl⟩ := Nat.exists_eq_add_of_le' behind
      rw [(followed k).turnedOnce_old_iff]
      exact readContent_once _ rotated.within line.1 low (fits at_ low line)
    · intro i at_ line
      refine ⟨i + (at_ + 1) + 1, fun k behind => ?_⟩
      obtain ⟨more, rfl⟩ := Nat.exists_eq_add_of_le behind
      have inside := fun k => (followed k).inside
      have passed : at_ < offsetAfter config new ticks (i + (at_ + 1)) := by
        rcases offset_passes settles lines bytes inside line (at_ + 1) with passed | reached
        · exact passed
        · omega
      have later := offsetAfter_mono settles inside (i + (at_ + 1)) more
      rw [show i + (at_ + 1) + 1 + more = i + (at_ + 1) + more + 1 by omega]
      refine (followed _).turnedOnce_new ?_ (Nat.lt_of_lt_of_le passed later)
      obtain ⟨rest, whole⟩ := settles.content_le i (at_ + 1 + more)
      rw [show i + (at_ + 1) + more = i + (at_ + 1 + more) by omega, ← whole]
      exact (lineStart_append rest (Nat.le_of_lt line.lt)).2 line.1

end Run

namespace Renamed

/-- An input that reads so many lines in one tick. -/
def watch (maxLines : Nat) : FileInputConfig :=
  { FileInputConfig.small "/d/a" with readLimits := .new 100 1000 maxLines }

/-- The watched file when it was last read. -/
def before : FileSystem := .lone (ascii "x\n")

/-- Two more lines were written, then it was renamed and a new file created. -/
def after : FileSystem :=
  .ofFiles ["/d"] [("/d/a", ⟨1, 2⟩, ascii "n\n"), ("/d/a.1", ⟨1, 1⟩, ascii "x\na\nb\n")] (by decide)
    (by decide)

def tick : Tick := .calm after []

/-- One tick before the rename, then one after the other. -/
def worlds (config : FileInputConfig) : Nat → World
  | 0 => ((inputStep plainExternals config .single .empty (.calm before []))).getD .empty
  | k + 1 => (inputStep plainExternals config .single (worlds config k) tick).getD .empty

theorem settles (config : FileInputConfig) (path : config.sourcePath = "/d/a") :
    Settles plainExternals config ⟨1, 2⟩ (worlds config) fun _ => tick where
  steps k := rfl
  calm k fate mem := by cases mem
  checkpointReadable k := rfl
  opened k := by
    rw [path]
    decide
  grows k := prefix_rfl

/-- Whether one line or many fit into a tick, the first line has been read before the rename. -/
theorem rotated {maxLines : Nat} (either : maxLines = 1 ∨ maxLines = 9) :
    ∃ previous, previous.checkpointOffset = 2 ∧
      Rotated (watch maxLines) after (loadLogState (watch maxLines) tick.env.toTickEnv
        (worlds (watch maxLines) 0)) previous ⟨1, 1⟩ ⟨1, 2⟩ "/d/a.1" := by
  have list : (loadLogState (watch maxLines) tick.env.toTickEnv
      (worlds (watch maxLines) 0)).files.map (fun entry => (entry.path, entry.fileId,
        entry.deviceId, entry.inode, entry.checkpointOffset)) =
      [("/d/a", .inode 1 1, some 1, some 1, 2)] := by
    rcases either with rfl | rfl <;> decide +kernel
  obtain ⟨previous, files, same⟩ := map_eq_singleton_iff.1 list
  simp only [Prod.mk.injEq] at same
  obtain ⟨path, fileId, device, inode, offset⟩ := same
  refine ⟨previous, offset, ?_⟩
  exact
    { tracked := by
        rw [checkpointForPath, files]
        simp [path, watch, FileInputConfig.small]
      wasOld := ⟨fileId, device, inode⟩
      within := by
        rw [offset]
        decide
      sameDirectory := ⟨"/d", by decide, (by decide : parent "/d/a" = some "/d"), by decide⟩
      moved := by decide
      elsewhere := (by decide : "/d/a.1" ≠ "/d/a")
      readable := by decide
      created := (by decide : after.openNode "/d/a" = .ok ⟨1, 2⟩)
      unknown := by
        intro entry mem
        rw [files, mem_singleton] at mem
        rw [mem, fileId]
        decide }

/-- The tick before the rename. -/
theorem earlier (config : FileInputConfig) :
    run (inputStep plainExternals config .single) .empty [.calm before []] =
      some (worlds config 0) := rfl

theorem replayable {maxLines : Nat} (either : maxLines = 1 ∨ maxLines = 9) :
    Replayable "" (worlds (watch maxLines) 0) := by
  have empty : ((worlds (watch maxLines) 0).stores "").spool = [] := by
    rcases either with rfl | rfl <;> decide +kernel
  intro line mem
  rw [empty] at mem
  cases mem

end Renamed

open Renamed in
/-- Two lines left behind and room for nine: both arrive. -/
theorem rotation_drained_roomy :
    ∃ previous, Rotated (watch 9) after (loadLogState (watch 9)
        tick.env.toTickEnv (worlds (watch 9) 0)) previous ⟨1, 1⟩ ⟨1, 2⟩
        "/d/a.1" ∧ previous.checkpointOffset = 2 ∧
      ∃ settled, ∀ k, settled ≤ k → TurnedOnce (watch 9)
        (worlds (watch 9) 0) (worlds (watch 9) k) ⟨1, 1⟩ 4 := by
  obtain ⟨previous, offset, rotated⟩ := @rotated 9 (.inr rfl)
  have drained := rotation_drained_iff plainExternals_spoolCodec ⟨100, 1000, 9, rfl⟩ rfl
    (earlier (watch 9)) (replayable (.inr rfl))
    (settles (watch 9) rfl) rotated
  refine ⟨previous, rotated, offset, (drained.2 ?_).1 4 (by omega) ⟨.inr (by decide), by decide⟩⟩
  rw [offset]
  decide

open Renamed in
/-- Two lines left behind and room for one: the second never becomes a record. -/
theorem rotation_loses_rest :
    ∃ previous, Rotated (watch 1) after (loadLogState (watch 1)
        tick.env.toTickEnv (worlds (watch 1) 0)) previous ⟨1, 1⟩ ⟨1, 2⟩
        "/d/a.1" ∧ previous.checkpointOffset = 2 ∧
      Settles plainExternals (watch 1) ⟨1, 2⟩ (worlds (watch 1))
        (fun _ => tick) ∧
      CompleteLine (after.content ⟨1, 1⟩) 4 ∧
      ∀ k, ¬ TurnedOnce (watch 1) (worlds (watch 1) 0)
        (worlds (watch 1) k) ⟨1, 1⟩ 4 := by
  obtain ⟨previous, offset, rotated⟩ := @rotated 1 (.inl rfl)
  have settles := settles (watch 1) rfl
  refine ⟨previous, rotated, offset, settles, ⟨.inr (by decide), by decide⟩, fun k once => ?_⟩
  cases k with
  | zero =>
    have counted := once.1
    cases counted
  | succ k =>
    obtain ⟨rooted, closed⟩ := (rooted_of_run rfl (earlier (watch 1))).loaded
      (fun _ => ⟨fun _ mem => (by cases mem), fun _ => rfl⟩) tick.env.toTickEnv
    have followed := followed_of_rotated plainExternals_spoolCodec settles
      (replayable (.inl rfl)) rooted closed rotated k
    have counted := followed.turnedOnce_old_iff.1 once
    rw [offset] at counted
    exact absurd counted (by decide)

end WistAgentd.Telemetry

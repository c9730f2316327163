/- # Telemetry.Files.DistinctEntries -- commits keep paths and ids apart

An entry list is good when no two entries share a path or an id.

* `Settled`, `upsert_settled`: one commit.
* `LastAt`, `singlePlan_good`: a single-path tick, where the entry of the watched path stays last. -/
import WistAgentd.Telemetry.Files.EntryList
import WistAgentd.Telemetry.Files.InputRun

namespace WistAgentd.Telemetry
open Theory.FirstMatch
open List Option
set_option autoImplicit false

variable {state : LogCheckpointState}

/-- The entry list of an input as it should be between ticks. -/
structure Good (files : List TrackedFileCheckpoint) : Prop where
  rooted : AllRooted files
  ids : DistinctIds files
  paths : DistinctPaths files

/-! ## One commit -/

/-- Nothing but the entry of the node stands at the path, or that entry stands nowhere else. -/
def Settled (files : List TrackedFileCheckpoint) (path : Path) (fileId : FileId) : Prop :=
  (∀ entry ∈ files, entry.path = path → entry.fileId = fileId) ∨
    ∀ entry ∈ files, entry.fileId = fileId → entry.path = path

section Upsert

variable {fs : FileSystem} {state : LogCheckpointState} {sourcePath : Path} {node : NodeId}
  {content : Bytes} {update : CheckpointUpdate}

theorem upsert_rooted (rooted : AllRooted state.files) :
    AllRooted (upsertCheckpoint fs state sourcePath (identityOf node content) update).files := by
  obtain ⟨path, -, entries⟩ :=
    (upsertCheckpoint_upserted fs state sourcePath (identityOf node content) update).mem
  intro entry mem
  rcases entries entry mem with rfl | old
  · exact ⟨node, upsertEntry_rooted ..⟩
  · exact rooted entry old

/-- What an upsert tests, for entries that were written from observations. -/
theorem upsertTest_of_mem (rooted : AllRooted state.files) {entry : TrackedFileCheckpoint}
    (mem : entry ∈ state.files) :
    upsertTest fs sourcePath (identityOf node content) entry = true ↔
      entry.fileId = node.fileId ∨ (entry.path = sourcePath ∧
        entry.fingerprint = some (fingerprint (content.take 32))) := by
  obtain ⟨old, rooted⟩ := rooted entry mem
  exact upsertTest_iff rooted

/-- When every entry of the node stands at the path, the commit is recorded there. -/
theorem upsertCheckpoint_here (rooted : AllRooted state.files)
    (here : ∀ entry ∈ state.files, entry.fileId = node.fileId → entry.path = sourcePath) :
    ∃ before after, (upsertCheckpoint fs state sourcePath (identityOf node content) update).files =
        before ++ upsertEntry fs sourcePath (identityOf node content) update sourcePath :: after ∧
      before ++ after = state.files.filter fun other => decide (other.path ≠ sourcePath) := by
  obtain ⟨at_, before, after, result, thinned, from_, -⟩ :=
    (upsertCheckpoint_upserted fs state sourcePath (identityOf node content) update).shape
  obtain rfl : at_ = sourcePath := by
    rcases from_ with same | ⟨entry, mem, met, rfl⟩
    · exact same
    · exact ((upsertTest_of_mem rooted mem).1 met).elim (here entry mem) And.left
  exact ⟨before, after, result, thinned⟩

/-- The commit of a settled path keeps ids apart and ends the collision there. -/
theorem upsert_settled {rest : List Path} (fs : FileSystem) (content : Bytes)
    (update : CheckpointUpdate) (rooted : AllRooted state.files)
    (distinct : DistinctIds state.files) (only : CollidesOnlyAt (sourcePath :: rest) state.files)
    (settled : Settled state.files sourcePath node.fileId) :
    DistinctIds (upsertCheckpoint fs state sourcePath (identityOf node content) update).files ∧
      CollidesOnlyAt rest
        (upsertCheckpoint fs state sourcePath (identityOf node content) update).files := by
  have done := upsertCheckpoint_upserted fs state sourcePath (identityOf node content) update
  refine ⟨distinctIds_upserted done distinct (fun _ => rfl)
    (fun entry mem same => (upsertTest_of_mem rooted mem).2 (.inl same)) ?_,
    collidesOnlyAt_upserted done only (fun _ => rfl) ?_⟩
  · intro front entry behind split first own other inBehind same
    have inFiles : entry ∈ state.files := by simp [split]
    have atSource := ((upsertTest_of_mem rooted inFiles).1 first.met).resolve_left own
    rcases settled with alone | there
    · exact absurd (alone entry inFiles atSource.1) own
    · rw [atSource.1]
      exact there other (by simp [split, inBehind]) same
  · intro entry mem met away
    have same := ((upsertTest_of_mem rooted mem).1 met).resolve_right fun at_ => away at_.1
    rcases settled with alone | there
    · -- two entries at the path would both be the node's
      refine List.Pairwise.imp_of_mem (fun {left right} inLeft inRight held eq => ?_)
        (List.Pairwise.and distinct only)
      refine (mem_cons.1 (held.2 eq)).resolve_left fun atSource => held.1 ?_
      rw [alone left inLeft atSource, alone right inRight (eq ▸ atSource)]
    · exact absurd (there entry mem same) away

end Upsert

/-! ## Single-path inputs -/

/-- The entry of the watched path, if there is one, is the last of the list. -/
def LastAt (path : Path) (files : List TrackedFileCheckpoint) : Prop :=
  files.Pairwise fun left _ => left.path ≠ path

theorem lastAt_of_absent {path : Path} {files : List TrackedFileCheckpoint}
    (absent : ∀ entry ∈ files, entry.path ≠ path) : LastAt path files :=
  pairwise_of_forall_mem_list fun left inLeft _ _ => absent left inLeft

theorem Upserted.lastAt {test : TrackedFileCheckpoint → Bool}
    {write : Path → TrackedFileCheckpoint} {sourcePath : Path}
    {files result : List TrackedFileCheckpoint}
    (done : Upserted test write sourcePath files result) (writtenAt : ∀ path, (write path).path = path)
    (last : LastAt sourcePath files) : LastAt sourcePath result := by
  cases done with
  | @replaced before after entry first =>
    obtain ⟨inBefore, inAfter, across⟩ := pairwise_append.1 last
    obtain ⟨ahead, inAfter⟩ := pairwise_cons.1 inAfter
    refine pairwise_append.2 ⟨inBefore.filter _, pairwise_cons.2
      ⟨fun other mem => ?_, inAfter.filter _⟩, fun left inLeft _ _ => ?_⟩
    · rw [writtenAt]
      exact ahead other (mem_filter.1 mem).1
    · exact across left (mem_filter.1 inLeft).1 entry mem_cons_self
  | added skipped =>
    refine pairwise_append.2 ⟨last.filter _, pairwise_singleton _ _, fun left inLeft _ _ => ?_⟩
    simpa using (mem_filter.1 inLeft).2

/-- What a single-path input keeps between ticks. -/
structure SingleGood (path : Path) (files : List TrackedFileCheckpoint) : Prop extends
    Good files where
  last : LastAt path files

theorem upsert_singleGood {fs : FileSystem} {path : Path} {node : NodeId} {content : Bytes}
    {update : CheckpointUpdate} (good : SingleGood path state.files) :
    SingleGood path (upsertCheckpoint fs state path (identityOf node content) update).files := by
  have done := upsertCheckpoint_upserted fs state path (identityOf node content) update
  have only : CollidesOnlyAt [] state.files := distinctPaths_iff.1 good.paths
  refine ⟨⟨upsert_rooted good.rooted, ?_, distinctPaths_iff.2 ?_⟩, done.lastAt (fun _ => rfl) good.last⟩
  · refine distinctIds_upserted done good.ids (fun _ => rfl)
      (fun entry mem same => (upsertTest_of_mem good.rooted mem).2 (.inl same)) ?_
    -- the entry of the watched path is last, so nothing stands behind it
    intro front entry behind split first own other inBehind _
    have inFiles : entry ∈ state.files := by simp [split]
    have atPath := ((upsertTest_of_mem good.rooted inFiles).1 first.met).resolve_left own
    have last := good.last
    rw [split] at last
    exact absurd atPath.1 ((pairwise_cons.1 (pairwise_append.1 last).2.1).1 other inBehind)
  · exact collidesOnlyAt_upserted done (only.mono (by simp)) (fun _ => rfl) fun _ _ _ _ => only

/-- A file that was renamed away from the watched path is committed under its new name first. -/
theorem upsert_renamed_singleGood {fs : FileSystem} {path rotatedPath : Path}
    {before : List TrackedFileCheckpoint} {tracked : TrackedFileCheckpoint} {node : NodeId}
    {content : Bytes} {update : CheckpointUpdate} (good : Good (before ++ [tracked]))
    (unwatched : ∀ other ∈ before, other.path ≠ path) (away : rotatedPath ≠ path)
    (rooted : tracked.Rooted node)
    (moved : state.files = before ++ [{ tracked with path := rotatedPath }]) :
    SingleGood path
      (upsertCheckpoint fs state rotatedPath (identityOf node content) update).files := by
  have movedRooted : AllRooted state.files := by
    rw [moved]
    exact AllRooted.exchange good.rooted ⟨rooted.fileId, rooted.deviceId, rooted.inode⟩
  have distinct : DistinctIds state.files := by
    rw [moved]
    exact DistinctIds.exchange good.ids rfl
  have only : CollidesOnlyAt [rotatedPath] state.files := by
    have apart := pairwise_append.1 (distinctPaths_iff.1 good.paths)
    rw [moved]
    refine pairwise_append.2 ⟨CollidesOnlyAt.mono apart.1 (by simp),
      pairwise_singleton _ _, fun left inLeft right inRight same => ?_⟩
    rw [mem_singleton.1 inRight] at same
    simp [same]
  have settled : Settled state.files rotatedPath node.fileId := by
    refine .inr fun entry mem same => ?_
    rw [moved] at mem
    rcases mem_append.1 mem with old | new
    · refine absurd (same.trans rooted.fileId.symm) ?_
      exact (pairwise_append.1 good.ids).2.2 entry old tracked (by simp)
    · rw [mem_singleton.1 new]
  obtain ⟨ids, paths⟩ := upsert_settled fs content update movedRooted distinct only settled
  refine ⟨⟨upsert_rooted movedRooted, ids, distinctPaths_iff.2 paths⟩, lastAt_of_absent ?_⟩
  have absent : ∀ entry ∈ state.files, entry.path ≠ path := by
    intro entry mem
    rw [moved] at mem
    rcases mem_append.1 mem with old | new
    · exact unwatched entry old
    · rw [mem_singleton.1 new]
      exact away
  obtain ⟨at_, from_, entries⟩ :=
    (upsertCheckpoint_upserted fs state rotatedPath (identityOf node content) update).mem
  intro entry mem
  rcases entries entry mem with rfl | old
  · rcases from_ with rfl | ⟨taken, inFiles, -, rfl⟩
    · exact away
    · exact absent taken inFiles
  · exact absent entry old

/-- The update a single-path tick commits with. -/
def PendingCheckpoint.update (env : TickEnv) (checkpoint : PendingCheckpoint) : CheckpointUpdate :=
  ⟨checkpoint.checkpointOffset, env.observedAt, "", none, checkpoint.rotatedFromPath⟩

theorem commitLogState_files (env : TickEnv) (state : LogCheckpointState)
    (checkpoints : List PendingCheckpoint) (pending : Option PendingMultilineState) :
    (commitLogState env state checkpoints pending).files =
      (checkpoints.foldl (fun state checkpoint => upsertCheckpoint env.fs state
        checkpoint.sourcePath checkpoint.identity (checkpoint.update env)) state).files := rfl

/-- A tick that finds the watched file under another name: the entry of the watched path was last
and moves there, and what is read there is the old file. -/
theorem renamed_setup {config : FileInputConfig} {fs : FileSystem}
    {previous : TrackedFileCheckpoint} {rotatedPath : Path} {start : Nat} {tail : ReadFromOffset}
    (good : SingleGood config.sourcePath state.files)
    (tracked : checkpointForPath state config.sourcePath = some previous)
    (found : findRotatedPath fs config.sourcePath previous = .ok (some rotatedPath))
    (plain : fs.Plain rotatedPath)
    (drained : readFromOffset fs rotatedPath start config.readLimits = .ok tail) :
    ∃ before node, state.files = before ++ [previous] ∧
      (∀ other ∈ before, other.path ≠ config.sourcePath) ∧
      (relocateCheckpointPath state previous rotatedPath).files =
        before ++ [{ previous with path := rotatedPath }] ∧
      previous.Rooted node ∧ rotatedPath ≠ config.sourcePath ∧
      tail.identity = identityOf node (fs.content node) := by
  obtain ⟨before, after, split, skipped, moved⟩ :=
    relocateCheckpointPath_files rotatedPath good.ids tracked
  obtain ⟨node, rooted⟩ := good.rooted previous (by simp [split])
  obtain ⟨named, away⟩ := findRotatedPath_found rooted found
  have noneBehind : after = [] := by
    have last := good.last
    rw [split] at last
    refine eq_nil_iff_forall_not_mem.2 fun other mem => ?_
    exact (pairwise_cons.1 (pairwise_append.1 last).2.1).1 other mem
      (checkpointForPath_first tracked).1
  subst noneBehind
  refine ⟨before, node, split, skipped, moved, rooted, away, ?_⟩
  obtain ⟨tailNode, opened, identity⟩ := readFromOffset_ok drained
  have at_ := (FileSystem.openNode_ok.1 opened).1
  rw [FileSystem.nodeAt_plain plain, named] at at_
  rw [identity, some.inj at_]

theorem singlePlan_good {ext : Externals} {config : FileInputConfig} {env : TickEnv}
    {planned : LogCheckpointState} {nextSeq : Nat} (good : SingleGood config.sourcePath state.files)
    (plain : ∀ previous rotatedPath, checkpointForPath state config.sourcePath = some previous →
      findRotatedPath env.fs config.sourcePath previous = .ok (some rotatedPath) →
      env.fs.Plain rotatedPath) (plan : singlePlan ext config env state nextSeq = some planned) :
    SingleGood config.sourcePath planned.files := by
  obtain ⟨batch, ran, rfl⟩ := map_eq_some_iff.1 plan
  obtain ⟨current, -, collected⟩ := collectReadBatch_collected (toOption_eq_some.1 ran)
  rw [commitLogState_files]
  generalize filesEq : batch.state.files = files, batch.checkpoints = checkpoints,
    batch.checkpointOffset = offset, batch.out.fed = fed at collected ⊢
  cases collected with
  | source unmoved read =>
    obtain ⟨node, -, identity⟩ := readFromOffset_ok read
    rw [foldl_cons, foldl_nil, identity]
    exact upsert_singleGood (filesEq ▸ good)
  | moved rotated tracked found drained read =>
    obtain ⟨node, -, identity⟩ := readFromOffset_ok read
    obtain ⟨before, old, split, unwatched, moved, rooted, away, tailIdentity⟩ :=
      renamed_setup good tracked found (plain _ _ tracked found) drained
    rw [foldl_cons, foldl_cons, foldl_nil, identity, tailIdentity]
    exact upsert_singleGood (upsert_renamed_singleGood (split ▸ good.toGood) unwatched away
      rooted (filesEq.trans moved))

end WistAgentd.Telemetry

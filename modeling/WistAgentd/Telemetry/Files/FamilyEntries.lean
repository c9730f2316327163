/- # Telemetry.Files.FamilyEntries -- family ticks keep entries distinct, and so do runs

While a family tick goes through its files, a renamed file may stand at a path another entry still
holds. The commit of that path ends the collision, provided the renamed file could be read so that
there is a commit.

* `Reading`, `Reading.relocate`: what the entry list keeps while the files are read.
* `readOneFile_reading`, `readFiles_reading`: one file, all files.
* `upsertFamily_good`, `familyPlan_good`: the commits, the tick.
* `entries_distinct_of_run`: every run of either kind of input. -/
import WistAgentd.Telemetry.Files.DistinctEntries
import WistAgentd.Telemetry.LineCodec

namespace WistAgentd.Telemetry
open Theory.FirstMatch Theory.Transition
open List Option
set_option autoImplicit false

variable {node : NodeId} {fs : FileSystem} {path rotatedPath : Path}

/-! ## While the files are read -/

/-- Two versions of one entry: everything the search for a renamed file looks at is the same. -/
structure TrackedFileCheckpoint.SameFile (entry other : TrackedFileCheckpoint) : Prop where
  fileId : entry.fileId = other.fileId
  deviceId : entry.deviceId = other.deviceId
  inode : entry.inode = other.inode
  fingerprint : entry.fingerprint = other.fingerprint
  realPath : entry.realPath = other.realPath

variable {entry : TrackedFileCheckpoint}

theorem TrackedFileCheckpoint.SameFile.rooted {other : TrackedFileCheckpoint}
    (same : entry.SameFile other) (rooted : other.Rooted node) : entry.Rooted node :=
  ⟨same.fileId.trans rooted.fileId, same.deviceId.trans rooted.deviceId,
    same.inode.trans rooted.inode⟩

theorem findRotatedPath_congr {base : Path} {other : TrackedFileCheckpoint}
    (same : entry.SameFile other) :
    findRotatedPath fs base entry = findRotatedPath fs base other := by
  have test : rotatedEntryMatches fs entry = rotatedEntryMatches fs other := by
    funext candidate
    simp only [rotatedEntryMatches, matchesByFingerprint, same.deviceId, same.inode,
      same.fingerprint]
  simp only [findRotatedPath, test]

/-- A planned commit finds its node's entry where it should be, and no later rename or earlier
commit of the same tick can change that. -/
def Expects (fs : FileSystem) (files : List TrackedFileCheckpoint) (path : Path) : Prop :=
  ∃ node, fs.nodeAt path = some node ∧
    ((∀ entry ∈ files, entry.path = path → entry.fileId = node.fileId) ∨
      (fs.Plain path ∧ fs.Unlinked path ∧
        ∀ entry ∈ files, entry.fileId = node.fileId → entry.path = path))

/-- What a family tick keeps: ids are apart, an entry stands where it stood or under the new name
of its file, and every collision is at a path that will be committed. -/
structure Reading (fs : FileSystem) (origin files : List TrackedFileCheckpoint)
    (planned : List Path) : Prop where
  ids : DistinctIds files
  descends : ∀ entry ∈ files, ∃ old ∈ origin, entry.SameFile old ∧
    (entry.path = old.path ∨
      ∃ node, entry.Rooted node ∧ fs.Plain entry.path ∧ fs.lstat entry.path = some node)
  only : CollidesOnlyAt planned files
  expects : ∀ path ∈ planned, Expects fs files path

section Reading

variable {fs : FileSystem} {origin files : List TrackedFileCheckpoint} {planned : List Path}

theorem Reading.start (good : Good origin) : Reading fs origin origin [] :=
  ⟨good.ids, fun entry mem => ⟨entry, mem, ⟨rfl, rfl, rfl, rfl, rfl⟩, .inl rfl⟩,
    distinctPaths_iff.1 good.paths, by simp⟩

theorem Reading.rooted (reading : Reading fs origin files planned) (good : Good origin) :
    AllRooted files := by
  intro entry mem
  obtain ⟨old, inOrigin, same, -⟩ := reading.descends entry mem
  obtain ⟨node, rooted⟩ := good.rooted old inOrigin
  exact ⟨node, same.rooted rooted⟩

theorem Expects.sublist {rest : List TrackedFileCheckpoint} (expects : Expects fs files path)
    (sub : rest.Sublist files) : Expects fs rest path := by
  obtain ⟨node, leads, alone | ⟨plain, unlinked, there⟩⟩ := expects
  · exact ⟨node, leads, .inl fun entry mem => alone entry (sub.subset mem)⟩
  · exact ⟨node, leads, .inr ⟨plain, unlinked, fun entry mem => there entry (sub.subset mem)⟩⟩

/-- Letting go of entries keeps the invariant. -/
theorem Reading.sublist {rest : List TrackedFileCheckpoint}
    (reading : Reading fs origin files planned) (sub : rest.Sublist files) :
    Reading fs origin rest planned :=
  ⟨List.Pairwise.sublist sub reading.ids, fun entry mem =>
    reading.descends entry (sub.subset mem), List.Pairwise.sublist sub reading.only,
    fun path mem => (reading.expects path mem).sublist sub⟩

/-- One more commit is planned, for a path that holds only the entry of its node. -/
theorem Reading.plan (reading : Reading fs origin files planned)
    (leads : fs.nodeAt path = some node)
    (alone : ∀ entry ∈ files, entry.path = path → entry.fileId = node.fileId ∨ path ∈ planned) :
    Reading fs origin files (planned ++ [path]) := by
  refine ⟨reading.ids, reading.descends, reading.only.mono (by simp), fun other mem => ?_⟩
  rcases mem_append.1 mem with old | new
  · exact reading.expects other old
  · rw [mem_singleton.1 new]
    by_cases already : path ∈ planned
    · exact reading.expects path already
    · exact ⟨node, leads, .inl fun entry mem at_ =>
        (alone entry mem at_).resolve_right already⟩

section Exchange

variable {before after : List TrackedFileCheckpoint} {entry new : TrackedFileCheckpoint}

/-- A new version of an entry at the same path keeps the invariant. -/
theorem Reading.update (reading : Reading fs origin (before ++ entry :: after) planned)
    (same : new.SameFile entry) (at_ : new.path = entry.path) :
    Reading fs origin (before ++ new :: after) planned := by
  refine ⟨reading.ids.exchange same.fileId, fun other mem => ?_, ?_, fun path mem => ?_⟩
  · rcases mem_exchange entry mem with rfl | ⟨-, mem⟩
    · obtain ⟨old, inOrigin, oldSame, placed⟩ := reading.descends entry (by simp)
      refine ⟨old, inOrigin, ⟨same.fileId.trans oldSame.fileId, same.deviceId.trans oldSame.deviceId,
        same.inode.trans oldSame.inode, same.fingerprint.trans oldSame.fingerprint,
        same.realPath.trans oldSame.realPath⟩, ?_⟩
      rw [at_]
      exact placed.imp_right fun ⟨node, rooted, named⟩ => ⟨node, same.rooted rooted, named⟩
    · exact reading.descends other mem
  · obtain ⟨-, behind, across⟩ := pairwise_append.1 reading.only
    refine pairwise_replace reading.only (fun other mem => ?_) fun other mem => ?_
    · rw [at_]
      exact across other mem entry mem_cons_self
    · rw [at_]
      exact (pairwise_cons.1 behind).1 other mem
  · obtain ⟨node, leads, alone | ⟨plain, unlinked, there⟩⟩ := reading.expects path mem
    · refine ⟨node, leads, .inl fun other mem => ?_⟩
      rcases mem_exchange entry mem with rfl | ⟨-, mem⟩
      · rw [at_, same.fileId]
        exact alone entry (by simp)
      · exact alone other mem
    · refine ⟨node, leads, .inr ⟨plain, unlinked, fun other mem => ?_⟩⟩
      rcases mem_exchange entry mem with rfl | ⟨-, mem⟩
      · rw [at_, same.fileId]
        exact there entry (by simp)
      · exact there other mem

/-- The entry of a renamed file moves to its new name. If another entry stands there, the new name
is committed by this tick, and no link leads to it. -/
theorem Reading.relocate (reading : Reading fs origin (before ++ entry :: after) planned)
    (extra : List Path) (rooted : entry.Rooted node) (plain : fs.Plain rotatedPath)
    (named : fs.lstat rotatedPath = some node) (extraAt : ∀ path ∈ extra, path = rotatedPath)
    (crowded : ∀ other ∈ before ++ after, other.path = rotatedPath →
      rotatedPath ∈ planned ∨ (rotatedPath ∈ extra ∧ fs.Unlinked rotatedPath)) :
    Reading fs origin (before ++ { entry with path := rotatedPath } :: after)
      (planned ++ extra) := by
  have leads : fs.nodeAt rotatedPath = some node := (FileSystem.nodeAt_plain plain).trans named
  -- the commits that were planned before
  have kept : ∀ path ∈ planned,
      Expects fs (before ++ { entry with path := rotatedPath } :: after) path := by
    intro path mem
    obtain ⟨other, otherLeads, alone | ⟨otherPlain, unlinked, there⟩⟩ := reading.expects path mem
    · refine ⟨other, otherLeads, .inl fun item mem atPath => ?_⟩
      rcases mem_exchange entry mem with rfl | ⟨-, mem⟩
      · have here : rotatedPath = path := atPath
        rw [← here, leads] at otherLeads
        cases otherLeads
        exact rooted.fileId
      · exact alone item mem atPath
    · refine ⟨other, otherLeads, .inr ⟨otherPlain, unlinked, fun item mem same => ?_⟩⟩
      rcases mem_exchange entry mem with rfl | ⟨-, mem⟩
      · have sameNode : node = other := NodeId.fileId_inj.1 (rooted.fileId.symm.trans same)
        rw [FileSystem.nodeAt_plain otherPlain, ← sameNode] at otherLeads
        exact FileSystem.lstat_inj named otherLeads
      · exact there item mem same
  refine ⟨reading.ids.exchange rfl, fun item mem => ?_, ?_, fun path mem => ?_⟩
  · rcases mem_exchange entry mem with rfl | ⟨-, mem⟩
    · obtain ⟨old, inOrigin, same, -⟩ := reading.descends entry (by simp)
      exact ⟨old, inOrigin, ⟨same.fileId, same.deviceId, same.inode, same.fingerprint, same.realPath⟩,
        .inr ⟨node, ⟨rooted.fileId, rooted.deviceId, rooted.inode⟩, plain, named⟩⟩
    · exact reading.descends item mem
  · have covered : ∀ other ∈ before ++ after, other.path = rotatedPath →
        rotatedPath ∈ planned ++ extra := fun other mem at_ =>
      mem_append.2 ((crowded other mem at_).imp id And.left)
    refine pairwise_replace (reading.only.mono (by simp)) (fun other mem at_ => ?_)
      fun other mem at_ => ?_
    · rw [at_]
      exact covered other (mem_append_left _ mem) at_
    · exact covered other (mem_append_right _ mem) at_.symm
  · rcases mem_append.1 mem with old | new
    · exact kept path old
    · rw [extraAt path new]
      by_cases alone : ∀ other ∈ before ++ after, other.path ≠ rotatedPath
      · refine ⟨node, leads, .inl fun item mem atPath => ?_⟩
        rcases mem_exchange entry mem with rfl | ⟨mem, -⟩
        · exact rooted.fileId
        · exact absurd atPath (alone item mem)
      · push Not at alone
        obtain ⟨other, inOthers, at_⟩ := alone
        rcases crowded other inOthers at_ with old | ⟨-, unlinked⟩
        · exact kept rotatedPath old
        · refine ⟨node, leads, .inr ⟨plain, unlinked, fun item mem same => ?_⟩⟩
          rcases mem_exchange entry mem with rfl | ⟨mem, -⟩
          · rfl
          · exact absurd (same.trans rooted.fileId.symm) (reading.ids.apart mem)

end Exchange

end Reading

/-! ## One file -/

/-- The other name under which the file of an entry stands now, if there is one. -/
def renamedTo (fs : FileSystem) (base : Path) (entry : TrackedFileCheckpoint) : Option Path :=
  (findRotatedPath fs base entry).toOption.join

theorem mem_renamedTo {base : Path} :
    rotatedPath ∈ (renamedTo fs base entry).toList ↔
      findRotatedPath fs base entry = .ok (some rotatedPath) := by
  unfold renamedTo
  cases findRotatedPath fs base entry with
  | error err => simp [Except.toOption]
  | ok found => cases found <;> simp [Except.toOption, eq_comm]

/-- Where a tracked file is found under a new name, the name is no link; and if another entry
stands there, the file can be read under it and no link leads to it. -/
def RenamesReadable (fs : FileSystem) (files : List TrackedFileCheckpoint) : Prop :=
  ∀ entry ∈ files, ∀ rotatedPath ∈ (renamedTo fs (checkpointRealPath entry) entry).toList,
    fs.Plain rotatedPath ∧
      ((∃ other ∈ files, other.path = rotatedPath ∧ other.fileId ≠ entry.fileId) →
        fs.Readable rotatedPath ∧ fs.Unlinked rotatedPath)

instance (fs : FileSystem) (files : List TrackedFileCheckpoint) :
    Decidable (RenamesReadable fs files) := by
  unfold RenamesReadable
  infer_instance

/-- The invariant of a batch: its entry list, and commits that are for what stands at their path. -/
structure BatchReading (fs : FileSystem) (origin : List TrackedFileCheckpoint)
    (batch : FamilyBatch) : Prop where
  reading : Reading fs origin batch.state.files (batch.checkpoints.map FamilyCheckpoint.displayPath)
  observed : ∀ checkpoint ∈ batch.checkpoints, ∃ node content,
    checkpoint.identity = identityOf node content ∧ fs.nodeAt checkpoint.displayPath = some node

/-- Every entry at the path is its node's, unless the path is committed anyway. -/
def Vacated (fs : FileSystem) (batch : FamilyBatch) (path : Path) : Prop :=
  ∀ entry ∈ batch.state.files, entry.path = path →
    (∀ node, fs.nodeAt path = some node → entry.fileId = node.fileId) ∨
      path ∈ batch.checkpoints.map FamilyCheckpoint.displayPath

section OneFile

variable {ext : Externals} {config : FileInputConfig} {env : TickEnv}
  {origin : List TrackedFileCheckpoint} {batch : FamilyBatch}

theorem BatchReading.congr {next : FamilyBatch} (held : BatchReading env.fs origin batch)
    (files : next.state.files = batch.state.files)
    (checkpoints : next.checkpoints = batch.checkpoints) : BatchReading env.fs origin next :=
  ⟨by rw [files, checkpoints]; exact held.reading, by rw [checkpoints]; exact held.observed⟩

theorem BatchReading.plan {next : FamilyBatch} {checkpoint : FamilyCheckpoint} {content : Bytes}
    (held : BatchReading env.fs origin batch) (files : next.state.files = batch.state.files)
    (checkpoints : next.checkpoints = batch.checkpoints ++ [checkpoint])
    (identity : checkpoint.identity = identityOf node content)
    (leads : env.fs.nodeAt checkpoint.displayPath = some node)
    (vacated : Vacated env.fs batch checkpoint.displayPath) : BatchReading env.fs origin next := by
  refine ⟨?_, ?_⟩
  · rw [files, checkpoints, map_append, map_singleton]
    exact held.reading.plan leads fun entry mem at_ =>
      (vacated entry mem at_).imp_left fun same => same node leads
  · rw [checkpoints]
    intro item mem
    rcases mem_append.1 mem with old | new
    · exact held.observed item old
    · rw [mem_singleton.1 new]
      exact ⟨node, content, identity, leads⟩

/-- What the search finds for an entry in the middle of a tick. -/
theorem Reading.renamed {origin files : List TrackedFileCheckpoint} {planned : List Path}
    (reading : Reading fs origin files planned) (clean : RenamesReadable fs origin)
    (mem : entry ∈ files) (rooted : entry.Rooted node)
    (found : findRotatedPath fs (checkpointRealPath entry) entry = .ok (some rotatedPath)) :
    fs.Plain rotatedPath ∧ fs.lstat rotatedPath = some node ∧
      ∀ other ∈ files, other.path = rotatedPath → other.fileId ≠ entry.fileId →
        rotatedPath ∈ planned ∨ (fs.Readable rotatedPath ∧ fs.Unlinked rotatedPath) := by
  have named := (findRotatedPath_found rooted found).1
  obtain ⟨old, inOrigin, same, here | ⟨own, ownRooted, plain, ownNamed⟩⟩ :=
    reading.descends entry mem
  · have base : checkpointRealPath entry = checkpointRealPath old := by
      simp [checkpointRealPath, same.realPath, here]
    rw [findRotatedPath_congr same, base] at found
    obtain ⟨plain, readable⟩ := clean old inOrigin rotatedPath (mem_renamedTo.2 found)
    refine ⟨plain, named, fun other inFiles at_ different => .inr (readable ?_)⟩
    obtain ⟨past, inPast, pastSame, stood | ⟨otherNode, otherRooted, -, otherNamed⟩⟩ :=
      reading.descends other inFiles
    · exact ⟨past, inPast, stood.symm.trans at_, by
        rw [← pastSame.fileId, ← same.fileId]
        exact different⟩
    · -- two entries moved to one name would be of one node
      rw [at_, named] at otherNamed
      rw [otherRooted.fileId, ← some.inj otherNamed, rooted.fileId] at different
      exact absurd rfl different
  · have sameNode : own = node := NodeId.fileId_inj.1 (ownRooted.fileId.symm.trans rooted.fileId)
    have already : rotatedPath = entry.path :=
      FileSystem.lstat_inj named (sameNode ▸ ownNamed)
    rw [already]
    refine ⟨plain, sameNode ▸ ownNamed, fun other inFiles at_ different => .inl ?_⟩
    rw [← at_]
    exact reading.only.mem_covered inFiles mem (fun eq => different (by rw [eq])) at_

theorem drainRotated_reading (ext : Externals) (config : FileInputConfig)
    (good : Good origin) (clean : RenamesReadable env.fs origin)
    (held : BatchReading env.fs origin batch) {display : Path} {previous : TrackedFileCheckpoint}
    (tracked : checkpointForPath batch.state display = some previous) :
    BatchReading env.fs origin (drainRotated ext config env previous batch).1 ∧
      ((drainRotated ext config env previous batch).2 = .ok true →
        Vacated env.fs (drainRotated ext config env previous batch).1 display) := by
  obtain ⟨atDisplay, -⟩ := checkpointForPath_first tracked
  unfold drainRotated
  split
  · exact ⟨held, by simp⟩
  · exact ⟨held, by simp⟩
  · rename_i rotatedPath found
    obtain ⟨before, after, split, skipped, moved⟩ :=
      relocateCheckpointPath_files rotatedPath held.reading.ids tracked
    have inFiles : previous ∈ batch.state.files := by simp [split]
    obtain ⟨node, rooted⟩ := held.reading.rooted good previous inFiles
    obtain ⟨plain, named, crowded⟩ := held.reading.renamed clean inFiles rooted found
    have reading := held.reading
    rw [split] at reading
    have crowded : ∀ other ∈ before ++ after, other.path = rotatedPath →
        rotatedPath ∈ batch.checkpoints.map FamilyCheckpoint.displayPath ∨
          (env.fs.Readable rotatedPath ∧ env.fs.Unlinked rotatedPath) :=
      fun other mem at_ => crowded other
        (by rw [split]; simp only [mem_append, mem_cons] at mem ⊢; tauto) at_
        (reading.ids.apart mem)
    dsimp only
    split
    · -- the file cannot be read under its new name, so no other entry stands there
      rename_i err failed
      refine ⟨⟨?_, held.observed⟩, by simp⟩
      have := reading.relocate [] rooted plain named (by simp) fun other mem at_ =>
        (crowded other mem at_).imp_right fun both =>
          absurd failed (readFromOffset_of_readable both.1 _ _ _)
      rw [append_nil] at this
      exact moved ▸ this
    · rename_i read ran
      obtain ⟨opened, opens, identity⟩ := readFromOffset_ok ran
      have leads := (FileSystem.openNode_ok.1 opens).1
      refine ⟨⟨?_, ?_⟩, fun _ => ?_⟩
      · show Reading _ _ (relocateCheckpointPath batch.state previous rotatedPath).files
          (List.map _ (batch.checkpoints ++ [_]))
        rw [moved, map_append, map_singleton]
        exact reading.relocate [rotatedPath] rooted plain named (by simp) fun other mem at_ =>
          (crowded other mem at_).imp_right fun both => ⟨by simp, both.2⟩
      · intro item mem
        rcases mem_append.1 mem with old | new
        · exact held.observed item old
        · rw [mem_singleton.1 new]
          exact ⟨opened, _, identity, leads⟩
      · intro entry mem at_
        change entry ∈ (relocateCheckpointPath batch.state previous rotatedPath).files at mem
        rw [moved] at mem
        rcases mem_exchange previous mem with rfl | ⟨others, old⟩
        · -- the new name is the visited path itself
          have here : rotatedPath = display := at_
          refine .inl fun other otherLeads => ?_
          rw [← here, FileSystem.nodeAt_plain plain, named] at otherLeads
          cases otherLeads
          exact rooted.fileId
        · refine .inr ?_
          have different : entry ≠ previous := fun eq => reading.ids.apart others (by rw [eq])
          have covered := reading.only.mem_covered old (split ▸ inFiles) different
            (at_.trans atDisplay.symm)
          show display ∈ List.map _ (batch.checkpoints ++ [_])
          rw [map_append]
          exact mem_append_left _ (at_ ▸ covered)

/-- Sealing a block of an entry changes nothing the invariant looks at. -/
theorem Reading.setPending {origin files : List TrackedFileCheckpoint} {planned : List Path}
    (reading : Reading fs origin files planned) (test : TrackedFileCheckpoint → Bool)
    (pending : Option PendingMultilineState) :
    Reading fs origin (updateFirst test
      (fun entry => { entry with pendingMultiline := pending }) files) planned := by
  rcases first_match test files with skipped | ⟨before, entry, after, rfl, first⟩
  · rw [updateFirst_of_none _ skipped]
    exact reading
  · rw [updateFirst_of_first _ first]
    exact reading.update ⟨rfl, rfl, rfl, rfl, rfl⟩ rfl

section

variable (good : Good origin) (clean : RenamesReadable env.fs origin)
  (held : BatchReading env.fs origin batch)

include good clean held in
theorem readMissing_reading (display : Path) :
    BatchReading env.fs origin
      (readMissing ext config env display (checkpointForPath batch.state display) batch).1 := by
  unfold readMissing
  split
  · exact held
  · rename_i previous tracked
    have drained := (drainRotated_reading ext config good clean held tracked).1
    split <;> rename_i ran <;> rw [ran] at drained
    · exact drained
    · exact drained
    · exact ⟨drained.reading.setPending _ none, drained.observed⟩

include good clean held in
theorem leaveRotated_reading (display : Path) (pending : Option PendingMultilineState)
    {left : FamilyBatch} {failure : Option IoError}
    (ran : leaveRotated ext config env display (checkpointForPath batch.state display) pending
      batch = (left, failure)) :
    BatchReading env.fs origin left ∧ (failure = none → Vacated env.fs left display) := by
  unfold leaveRotated at ran
  -- nothing is left at the path when its entry was let go of
  have cleared : ∀ {drained next : FamilyBatch}, BatchReading env.fs origin drained →
      next.state.files = drained.state.files.filter (fun entry => decide (entry.path ≠ display)) →
      next.checkpoints = drained.checkpoints →
      BatchReading env.fs origin next ∧
        ((none : Option IoError) = none → Vacated env.fs next display) := by
    intro drained next held files checkpoints
    refine ⟨⟨?_, by rw [checkpoints]; exact held.observed⟩, fun _ entry mem at_ => ?_⟩
    · rw [files, checkpoints]
      exact held.reading.sublist filter_sublist
    · rw [files] at mem
      exact absurd at_ (by simpa using (mem_filter.1 mem).2)
  cases tracked : checkpointForPath batch.state display with
  | none =>
    simp only [tracked, Prod.mk.injEq] at ran
    obtain ⟨rfl, rfl⟩ := ran
    exact cleared held rfl rfl
  | some previous =>
    obtain ⟨drained, vacated⟩ :=
      drainRotated_reading ext config good clean held tracked
    simp only [tracked] at ran
    split at ran <;> rename_i drain <;> rw [drain] at drained vacated <;>
      simp only [Prod.mk.injEq] at ran <;> obtain ⟨rfl, rfl⟩ := ran
    · exact ⟨drained, by simp⟩
    · exact ⟨drained.congr rfl rfl, fun _ => vacated rfl⟩
    · exact cleared drained rfl rfl

include held in
theorem readPresent_reading {display : Path}
    (vacated : Vacated env.fs batch display) (tracked : Option TrackedFileCheckpoint)
    (startOffset : Nat) (pending : Option PendingMultilineState) :
    BatchReading env.fs origin
      (readPresent ext config env display tracked startOffset pending batch).1 := by
  unfold readPresent
  dsimp only
  split
  · exact held
  · rename_i read ran
    obtain ⟨node, opened, identity⟩ := readFromOffset_ok ran
    have leads := (FileSystem.openNode_ok.1 opened).1
    rw [FileSystem.nodeAt_realPath] at leads
    split
    · exact held.congr rfl rfl
    · exact held.plan rfl rfl identity leads vacated

/-- An entry that still is the file at its path is of the node observed there. -/
theorem decideResume_not_rotated {old : NodeId} {content : Bytes} {previous : TrackedFileCheckpoint}
    {startup : StartupPosition} (rooted : previous.Rooted old)
    (stays : (decideResume fs path (identityOf node content) (some previous) startup).rotated =
      false) : previous.fileId = node.fileId := by
  have same : sameIdentity path (identityOf node content) previous = true := by
    by_contra different
    simp [decideResume, different] at stays
  rw [rooted.fileId, (rooted.sameIdentity_iff.1 same).2.1]

include held in
/-- A path whose entry still is the file there holds nothing else that is not committed anyway. -/
theorem vacated_of_same {display : Path}
    (same : ∀ previous, checkpointForPath batch.state display = some previous →
      ∀ node, env.fs.nodeAt display = some node → previous.fileId = node.fileId) :
    Vacated env.fs batch display := by
  intro entry mem at_
  cases tracked : checkpointForPath batch.state display with
  | none =>
    have absent := List.find?_eq_none.1 tracked entry mem
    exact absurd at_ (by simpa using absent)
  | some previous =>
    obtain ⟨atDisplay, before, after, split, -⟩ := checkpointForPath_first tracked
    by_cases first : entry = previous
    · rw [first]
      exact .inl (same previous tracked)
    · have inFiles : previous ∈ batch.state.files := by simp [split]
      have covered := held.reading.only.mem_covered mem inFiles first (at_.trans atDisplay.symm)
      exact .inr (at_ ▸ covered)

include good clean held in
theorem readOneFile_reading (firstScan : Bool) (display : Path) :
    BatchReading env.fs origin (readOneFile ext config env firstScan display batch).1 := by
  unfold readOneFile
  dsimp only
  split
  · split
    · exact readMissing_reading good clean held display
    · exact held
  · rename_i current inspected
    obtain ⟨node, opened, rfl⟩ := inspectPath_ok.1 inspected
    have leads := (FileSystem.openNode_ok.1 opened).1
    generalize resumed : decideResume env.fs _ (identityOf node (env.fs.content node)) _ _ = resume
    -- sealing the block of a truncated file touches neither entries nor commits
    generalize openedEq : (if resume.truncated then _ else batch) = opened
    have sameState : opened.state = batch.state := by
      rw [← openedEq]
      split <;> rfl
    have held : BatchReading env.fs origin opened := by
      refine held.congr (by rw [sameState]) ?_
      rw [← openedEq]
      split <;> rfl
    have left : ∀ {left : FamilyBatch} {failure : Option IoError} {pending},
        (if resume.rotated then leaveRotated ext config env display
          (checkpointForPath batch.state display) pending opened else (opened, none)) =
            (left, failure) →
        BatchReading env.fs origin left ∧ (failure = none → Vacated env.fs left display) := by
      intro left failure pending ran
      split at ran
      · rw [← sameState] at ran
        exact leaveRotated_reading good clean held display _ ran
      · rename_i stays
        cases ran
        refine ⟨held, fun _ => vacated_of_same held fun previous tracked other otherLeads => ?_⟩
        rw [sameState] at tracked
        obtain ⟨-, before, after, split, -⟩ := checkpointForPath_first tracked
        obtain ⟨old, rooted⟩ := held.reading.rooted good previous (by rw [sameState]; simp [split])
        obtain rfl := some.inj (leads.symm.trans otherLeads)
        have kept : resume.rotated = false := by simpa using stays
        rw [tracked] at resumed
        rw [← resumed] at kept
        have rebased : TrackedFileCheckpoint.Rooted
            { previous with path := checkpointRealPath previous } old :=
          ⟨rooted.fileId, rooted.deviceId, rooted.inode⟩
        have sameNode := decideResume_not_rotated rebased kept
        exact sameNode
    split
    · rename_i ran
      exact (left ran).1
    · rename_i ran
      obtain ⟨held, vacated⟩ := left ran
      split
      · split
        · exact held.plan rfl rfl rfl leads (vacated rfl)
        · exact held
      · exact readPresent_reading held (vacated rfl) _ _ _

end

theorem readFiles_reading (env : TickEnv) (good : Good origin) (clean : RenamesReadable env.fs origin)
    (firstScan : Bool) (displays : List Path) :
    ∀ {batch : FamilyBatch}, BatchReading env.fs origin batch →
      BatchReading env.fs origin (readFiles ext config env firstScan displays batch) := by
  induction displays with
  | nil => exact id
  | cons display rest ih =>
    intro batch held
    unfold readFiles
    split
    · exact held
    · exact ih ((readOneFile_reading good clean held firstScan display).congr rfl rfl)

end OneFile

/-! ## The commits -/

/-- The commit of one path leaves the expectations of the others as they were. -/
theorem Expects.upsert {state : LogCheckpointState} {other : Path} {content : Bytes}
    {update : CheckpointUpdate} (rooted : AllRooted state.files)
    (leads : fs.nodeAt path = some node) (expects : Expects fs state.files other) :
    Expects fs (upsertCheckpoint fs state path (identityOf node content) update).files other := by
  obtain ⟨at_, from_, cases_⟩ :=
    (upsertCheckpoint_upserted fs state path (identityOf node content) update).mem
  obtain ⟨otherNode, otherLeads, alone | ⟨plain, unlinked, there⟩⟩ := expects
  · refine ⟨otherNode, otherLeads, .inl fun entry mem here => ?_⟩
    rcases cases_ entry mem with rfl | old
    · have samePath : path = other → node.fileId = otherNode.fileId := fun same => by
        rw [same, otherLeads] at leads
        rw [some.inj leads]
      show node.fileId = otherNode.fileId
      rcases from_ with atPath | ⟨taken, inFiles, met, takenAt⟩
      · exact samePath (atPath.symm.trans here)
      · rcases (upsertTest_of_mem rooted inFiles).1 met with same | ⟨atPath, -⟩
        · exact same.symm.trans (alone taken inFiles (takenAt.trans here))
        · exact samePath (atPath.symm.trans (takenAt.trans here))
    · exact alone entry old here
  · refine ⟨otherNode, otherLeads, .inr ⟨plain, unlinked, fun entry mem same => ?_⟩⟩
    rcases cases_ entry mem with rfl | old
    · -- the other path leads to the same node, and only itself does
      have sameNode : node = otherNode := NodeId.fileId_inj.1 same
      have samePath : path = other := by
        obtain ⟨real, -, realNamed, here | ⟨link, mem, -, target⟩⟩ :=
          FileSystem.nodeAt_some leads
        all_goals
          rw [FileSystem.nodeAt_plain plain, ← sameNode] at otherLeads
          have real_ := FileSystem.lstat_inj realNamed otherLeads
        · exact here.symm.trans real_
        · exact absurd (real_ ▸ target) (unlinked link mem)
      show at_ = other
      rcases from_ with atPath | ⟨taken, inFiles, met, takenAt⟩
      · exact atPath.trans samePath
      · rcases (upsertTest_of_mem rooted inFiles).1 met with same | ⟨atPath, -⟩
        · exact takenAt.symm.trans (there taken inFiles (sameNode ▸ same))
        · exact (takenAt.symm.trans atPath).trans samePath
    · exact there entry old same

theorem upsertFamily_good (env : TickEnv) (checkpoints : List FamilyCheckpoint) :
    ∀ {state : LogCheckpointState}, AllRooted state.files → DistinctIds state.files →
      CollidesOnlyAt (checkpoints.map FamilyCheckpoint.displayPath) state.files →
      (∀ path ∈ checkpoints.map FamilyCheckpoint.displayPath, Expects env.fs state.files path) →
      (∀ checkpoint ∈ checkpoints, ∃ node content, checkpoint.identity = identityOf node content ∧
        env.fs.nodeAt checkpoint.displayPath = some node) →
      Good (upsertFamily env state checkpoints).files := by
  unfold upsertFamily
  induction checkpoints with
  | nil => exact fun rooted ids only _ _ => ⟨rooted, ids, distinctPaths_iff.2 only⟩
  | cons checkpoint rest ih =>
    intro state rooted ids only expects observed
    obtain ⟨node, content, identity, leads⟩ := observed checkpoint (by simp)
    have settled : Settled state.files checkpoint.displayPath node.fileId := by
      obtain ⟨other, otherLeads, held⟩ := expects checkpoint.displayPath (by simp)
      rw [← some.inj (leads.symm.trans otherLeads)] at held
      exact held.imp_right fun held => held.2.2
    rw [foldl_cons, identity]
    obtain ⟨nextIds, nextOnly⟩ := upsert_settled env.fs content _ rooted ids only settled
    exact ih (upsert_rooted rooted) nextIds nextOnly
      (fun path mem => (expects path (by simp [mem])).upsert rooted leads)
      fun item mem => observed item (by simp [mem])

theorem familyPlan_good {ext : Externals} {config : FileInputConfig} {env : FamilyEnv}
    {before planned : LogCheckpointState} {nextSeq : Nat} (good : Good before.files)
    (clean : RenamesReadable env.fs before.files)
    (plan : familyPlan ext config env before nextSeq = some planned) : Good planned.files := by
  have migrated : Reading env.fs before.files (migrateInputPendingToFiles before).1.files [] := by
    unfold migrateInputPendingToFiles
    split
    · exact .start good
    · split
      · split
        · exact (Reading.start good).setPending _ _
        · exact .start good
      · exact .start good
  have selected : ∀ firstScan scanned selection (state : LogCheckpointState) out,
      state.files = (migrateInputPendingToFiles before).1.files →
      BatchReading env.fs before.files
        (collectSelected ext config env firstScan scanned selection state out).batch := by
    intro firstScan scanned selection state out files
    have read : BatchReading env.fs before.files (readFiles ext config env.toTickEnv firstScan
        (admitPaths config env.fs selection.selected (trackedPaths state selection)).working
        (.new state out config.readLimits)) :=
      readFiles_reading env.toTickEnv good clean firstScan _
        ⟨by rw [FamilyBatch.new, files]; exact migrated, by simp [FamilyBatch.new]⟩
    unfold collectSelected
    split
    · exact ⟨read.reading.sublist filter_sublist, read.observed⟩
    · exact read
  obtain ⟨collected, ran, rfl⟩ := map_eq_some_iff.1 plan
  rw [toOption_eq_some] at ran
  have held : BatchReading env.fs before.files collected.batch := by
    unfold collectFamilyBatch at ran
    split at ran
    · split at ran
      · cases ran
      · rw [← Except.ok.inj ran]
        exact selected _ _ _ _ _ rfl
    · cases ran
      exact selected _ _ _ _ _ rfl
  exact upsertFamily_good env.toTickEnv collected.batch.checkpoints
    (held.reading.rooted good) held.reading.ids held.reading.only held.reading.expects held.observed

/-! ## Runs -/

/-- What the entries of an input need from the disk so that a tick keeps them apart. -/
def RenamesSeparate (config : FileInputConfig) (kind : InputKind) (fs : FileSystem)
    (state : LogCheckpointState) : Prop :=
  match kind with
  | .single => ∀ previous ∈ (checkpointForPath state config.sourcePath).toList,
      ∀ rotatedPath ∈ (renamedTo fs config.sourcePath previous).toList, fs.Plain rotatedPath
  | .family => RenamesReadable fs state.files

instance (config : FileInputConfig) (kind : InputKind) (fs : FileSystem)
    (state : LogCheckpointState) : Decidable (RenamesSeparate config kind fs state) := by
  unfold RenamesSeparate
  cases kind <;> infer_instance

/-- The condition on the ticks of a run, each judged at the entry list it loads. -/
def SeparateAlong (ext : Externals) (config : FileInputConfig) (kind : InputKind) :
    World → List Tick → Prop :=
  Along (inputStep ext config kind) fun w tick =>
    RenamesSeparate config kind tick.env.fs (loadLogState config tick.env.toTickEnv w)

section Runs

variable {ext : Externals} {config : FileInputConfig} {start final : World} {ticks : List Tick}

/-- What the entries of a single-path input keep, whatever is done to the effects of its ticks. -/
theorem singleGood_of_run (empty : start.checkpoint config.inputId = none)
    (separate : SeparateAlong ext config .single start ticks)
    (ran : run (inputStep ext config .single) start ticks = some final) :
    Stored config (fun state => SingleGood config.sourcePath state.files) final := by
  refine checkpoint_of_run (fun state tick => RenamesSeparate config .single tick.env.fs state)
    (fun _ => ⟨⟨by simp [AllRooted, LogCheckpointState.new], .nil, .nil⟩, .nil⟩) ?_ empty
    separate ran
  intro state tick planned good separate plan
  refine singlePlan_good good (fun previous rotatedPath tracked found => ?_) plan
  exact separate previous (by simp [tracked]) rotatedPath (mem_renamedTo.2 found)

theorem familyGood_of_run (empty : start.checkpoint config.inputId = none)
    (separate : SeparateAlong ext config .family start ticks)
    (ran : run (inputStep ext config .family) start ticks = some final) :
    Stored config (fun state => Good state.files) final := by
  refine checkpoint_of_run (fun state tick => RenamesSeparate config .family tick.env.fs state)
    (fun _ => ⟨by simp [AllRooted, LogCheckpointState.new], .nil, .nil⟩) ?_ empty separate ran
  intro state tick planned good separate plan
  exact familyPlan_good good separate plan

/-- **Distinct entries.** In every run from an empty state in which renamed files stand under
plain names, and in a family can be read there where another entry has the name, the stored
entries have pairwise distinct paths and pairwise distinct ids. -/
theorem entries_distinct_of_run {kind : InputKind} (empty : start.checkpoint config.inputId = none)
    (separate : SeparateAlong ext config kind start ticks)
    (ran : run (inputStep ext config kind) start ticks = some final) :
    ∀ state, final.checkpoint config.inputId = some state →
      DistinctPaths state.files ∧ DistinctIds state.files := by
  intro state held
  cases kind with
  | single =>
    have good := singleGood_of_run empty separate ran state held
    exact ⟨good.paths, good.ids⟩
  | family =>
    have good := familyGood_of_run empty separate ran state held
    exact ⟨good.paths, good.ids⟩

end Runs

namespace RenamedOver

/-- Two files of a family. -/
def before : FileSystem :=
  .ofFiles ["/d"] [("/d/a", ⟨1, 1⟩, ascii "x\n"), ("/d/b", ⟨1, 2⟩, ascii "y\n")] (by decide)
    (by decide)

/-- The first was renamed over the second. -/
def after : FileSystem :=
  .ofFiles ["/d"] [("/d/b", ⟨1, 1⟩, ascii "x\n")] (by decide) (by decide)

/-- As `after`, but the file cannot be opened. -/
def locked : FileSystem := { after with refusal := fun _ => some .permissionDenied }

end RenamedOver

open RenamedOver in
/-- A readable rename over another tracked file keeps the entries apart. -/
theorem entries_distinct_renamedOver :
    ∃ final state, run (inputStep plainExternals (.small "/d/*") .family) .empty
        [.calm before ["/d/a", "/d/b"], .calm after ["/d/b"]] = some final ∧
      final.checkpoint "" = some state ∧
      state.files.map TrackedFileCheckpoint.path = ["/d/b"] ∧
      DistinctPaths state.files ∧ DistinctIds state.files := by
  have paths : ((run (inputStep plainExternals (.small "/d/*") .family) .empty
      [.calm before ["/d/a", "/d/b"], .calm after ["/d/b"]]).bind
        fun final => final.checkpoint "").map
          (fun state => state.files.map TrackedFileCheckpoint.path) = some ["/d/b"] := by
    decide +kernel
  obtain ⟨state, held, one⟩ := map_eq_some_iff.1 paths
  obtain ⟨final, ran, held⟩ := bind_eq_some_iff.1 held
  refine ⟨final, state, ran, held, one, entries_distinct_of_run rfl ?_ ran state held⟩
  refine ⟨by decide +kernel, fun next stepped => ⟨?_, fun _ _ => trivial⟩⟩
  cases stepped
  decide +kernel

open RenamedOver in
/-- A file that cannot be read under its new name leaves two entries at that name. -/
theorem entries_collide_locked :
    ∃ final state, run (inputStep plainExternals (.small "/d/*") .family) .empty
        [.calm before ["/d/a", "/d/b"], .calm locked ["/d/b"]] = some final ∧
      final.checkpoint "" = some state ∧
      state.files.map TrackedFileCheckpoint.path = ["/d/b", "/d/b"] ∧
      ¬ (DistinctPaths state.files ∧ DistinctIds state.files) := by
  have paths : ((run (inputStep plainExternals (.small "/d/*") .family) .empty
      [.calm before ["/d/a", "/d/b"], .calm locked ["/d/b"]]).bind
        fun final => final.checkpoint "").map
          (fun state => state.files.map TrackedFileCheckpoint.path) = some ["/d/b", "/d/b"] := by
    decide +kernel
  obtain ⟨state, held, both⟩ := map_eq_some_iff.1 paths
  obtain ⟨final, ran, held⟩ := bind_eq_some_iff.1 held
  refine ⟨final, state, ran, held, both, fun distinct => ?_⟩
  have apart : (state.files.map TrackedFileCheckpoint.path).Nodup := pairwise_map.2 distinct.1
  rw [both] at apart
  exact absurd apart (by decide)

end WistAgentd.Telemetry

/- # Telemetry.Files.EntryList -- what the operations do to the entry list of an input

An upsert replaces the first entry that stands for the observed node or the observed path, keeps
that entry's path, and drops every other entry at it. Two entries may share a path in between,
while a renamed file waits for its own upsert.

* `upsertCheckpoint_upserted`: the two things an upsert can do.
* `distinctIds_upserted`, `collidesOnlyAt_upserted`: when ids stay apart and a collision ends.
* `findRotatedPath_found`: what the search for a renamed file returns. -/
import Mathlib.Data.List.Pairwise
import WistAgentd.Telemetry.Files.Checkpoint

namespace WistAgentd.Telemetry
open Theory.FirstMatch
open List Option
set_option autoImplicit false

variable {fs : FileSystem} {path : Path} {covered : List Path}

/-! ## Entries and nodes -/

def NodeId.fileId (node : NodeId) : FileId := .inode node.device node.inode

theorem NodeId.fileId_inj {left right : NodeId} : left.fileId = right.fileId ↔ left = right := by
  cases left
  cases right
  simp [NodeId.fileId]

/-- The entry was written from an observation of `node`. -/
structure TrackedFileCheckpoint.Rooted (entry : TrackedFileCheckpoint) (node : NodeId) : Prop where
  fileId : entry.fileId = node.fileId
  deviceId : entry.deviceId = some node.device
  inode : entry.inode = some node.inode

def AllRooted (files : List TrackedFileCheckpoint) : Prop :=
  ∀ entry ∈ files, ∃ node, entry.Rooted node

@[simp] theorem stableFileId_identityOf (fs : FileSystem) (path : Path) (node : NodeId)
    (content : Bytes) : stableFileId fs path (identityOf node content) = node.fileId := rfl

theorem inspectPath_ok {identity : ObservedFileIdentity} :
    inspectPath fs path = .ok identity ↔
      ∃ node, fs.openNode path = .ok node ∧ identity = identityOf node (fs.content node) := by
  unfold inspectPath
  cases fs.openNode path with
  | error err => simp
  | ok node => simp [eq_comm]

theorem readFromOffset_eq {node : NodeId} {start : Nat} {limits : ReadLimits}
    {read : ReadFromOffset} (opened : fs.openNode path = .ok node)
    (ran : readFromOffset fs path start limits = .ok read) :
    read.identity = identityOf node (fs.content node) ∧
      read.lines = (readContent fs.chunking (fs.content node) start limits).lines ∧
      read.committedEndOffset =
        (readContent fs.chunking (fs.content node) start limits).committedEndOffset := by
  simp only [readFromOffset, opened, Except.ok.injEq] at ran
  rw [← ran]
  exact ⟨rfl, rfl, rfl⟩

theorem readFromOffset_ok {start : Nat} {limits : ReadLimits} {read : ReadFromOffset}
    (ran : readFromOffset fs path start limits = .ok read) :
    ∃ node, fs.openNode path = .ok node ∧ read.identity = identityOf node (fs.content node) := by
  cases opened : fs.openNode path with
  | error err => simp [readFromOffset, opened] at ran
  | ok node => exact ⟨node, rfl, (readFromOffset_eq opened ran).1⟩

theorem readFromOffset_of_readable (readable : fs.Readable path) (start : Nat) (limits : ReadLimits)
    (err : IoError) :
    readFromOffset fs path start limits ≠ .error err := by
  unfold FileSystem.Readable at readable
  unfold readFromOffset
  cases opened : fs.openNode path with
  | error refused => simp [opened, Except.toOption] at readable
  | ok node => simp

/-! ## Upserting -/

/-- The test by which an upsert finds its entry. -/
def upsertTest (fs : FileSystem) (sourcePath : Path) (identity : ObservedFileIdentity)
    (entry : TrackedFileCheckpoint) : Bool :=
  decide (entry.fileId = stableFileId fs sourcePath identity) ||
    storedIdentityMatches entry identity sourcePath

/-- The entry an upsert writes under `path`. -/
def upsertEntry (fs : FileSystem) (sourcePath : Path) (identity : ObservedFileIdentity)
    (update : CheckpointUpdate) (path : Path) : TrackedFileCheckpoint :=
  checkpointFromObservation (stableFileId fs sourcePath identity) path identity
    ((checkpointProbe fs sourcePath update.checkpointOffset).toOption.getD none) update

section Rooted

variable {node old : NodeId} {entry : TrackedFileCheckpoint}

theorem TrackedFileCheckpoint.Rooted.inodePairMatches_iff (rooted : entry.Rooted old) :
    inodePairMatches entry.deviceId entry.inode (some node.device) (some node.inode) = true ↔
      old = node := by
  rw [rooted.deviceId, rooted.inode]
  cases old
  cases node
  simp [inodePairMatches]

/-- An entry is taken for the observed file when it is of its path and node and the heads agree. -/
theorem TrackedFileCheckpoint.Rooted.sameIdentity_iff {content : Bytes}
    (rooted : entry.Rooted old) :
    sameIdentity path (identityOf node content) entry = true ↔
      (entry.path = "" ∨ entry.path = path) ∧ old = node ∧
        fingerprintsMatch entry (identityOf node content) = true := by
  cases old
  cases node
  simp [sameIdentity, identityOf, rooted.deviceId, rooted.inode, and_assoc]

/-- The search for a renamed file looks at nodes only. -/
theorem TrackedFileCheckpoint.Rooted.rotatedEntryMatches_iff (rooted : entry.Rooted old)
    (candidate : DirEntry) :
    rotatedEntryMatches fs entry candidate = true ↔ old = candidate.node := by
  have byNode : matchesByFingerprint fs entry candidate.path = false := by
    simp [matchesByFingerprint, rooted.deviceId]
  rw [rotatedEntryMatches, byNode, Bool.or_false, rooted.inodePairMatches_iff]

end Rooted

theorem upsertTest_iff {sourcePath : Path} {node old : NodeId} {content : Bytes}
    {entry : TrackedFileCheckpoint} (rooted : entry.Rooted old) :
    upsertTest fs sourcePath (identityOf node content) entry = true ↔
      entry.fileId = node.fileId ∨ (entry.path = sourcePath ∧
        entry.fingerprint = some (fingerprint (content.take 32))) := by
  have some_ : entry.fingerprint = some (fingerprint (content.take 32)) →
      entry.fingerprint.isSome = true := fun held => by rw [held]; rfl
  rw [upsertTest, Bool.or_eq_true, decide_eq_true_iff, stableFileId_identityOf,
    storedIdentityMatches, Bool.or_eq_true, Bool.and_eq_true, Bool.and_eq_true,
    decide_eq_true_iff, decide_eq_true_iff]
  show _ ∨ inodePairMatches _ _ (some node.device) (some node.inode) = true ∨ _ ↔ _
  rw [rooted.inodePairMatches_iff, rooted.fileId, NodeId.fileId_inj]
  constructor
  · rintro (same | same | ⟨⟨atPath, -⟩, held⟩)
    · exact .inl same
    · exact .inl same
    · exact .inr ⟨atPath, held⟩
  · rintro (same | ⟨atPath, held⟩)
    · exact .inl same
    · exact .inr (.inr ⟨⟨atPath, some_ held⟩, held⟩)

/-- What an upsert can do to the list: take over an entry, or add one; either way the written
entry is alone at its path. -/
inductive Upserted (test : TrackedFileCheckpoint → Bool) (write : Path → TrackedFileCheckpoint)
    (sourcePath : Path) : List TrackedFileCheckpoint → List TrackedFileCheckpoint → Prop
  | replaced {before after : List TrackedFileCheckpoint} {entry : TrackedFileCheckpoint}
      (first : First test before entry) :
      Upserted test write sourcePath (before ++ entry :: after)
        (before.filter (fun other => decide (other.path ≠ entry.path)) ++ write entry.path ::
          after.filter (fun other => decide (other.path ≠ entry.path)))
  | added {files : List TrackedFileCheckpoint} (skipped : ∀ entry ∈ files, test entry = false) :
      Upserted test write sourcePath files
        (files.filter (fun other => decide (other.path ≠ sourcePath)) ++ [write sourcePath])

theorem upsertCheckpoint_upserted (fs : FileSystem) (state : LogCheckpointState)
    (sourcePath : Path) (identity : ObservedFileIdentity) (update : CheckpointUpdate) :
    Upserted (upsertTest fs sourcePath identity) (upsertEntry fs sourcePath identity update)
      sourcePath state.files (upsertCheckpoint fs state sourcePath identity update).files := by
  unfold upsertCheckpoint keepOnlyNewestAtPath
  rcases first_match (upsertTest fs sourcePath identity) state.files with
    skipped | ⟨before, entry, after, files, first⟩
  · have none_ : state.files.findIdx? (upsertTest fs sourcePath identity) = none :=
      List.findIdx?_eq_none_iff.2 skipped
    unfold upsertTest at none_
    simp only [none_, keepAt_append]
    exact .added skipped
  · have found := findIdx?_of_first after first
    rw [← files] at found
    unfold upsertTest at found
    simp only [found]
    rw [files]
    simp only [List.getElem?_append_right (Nat.le_refl _), Nat.sub_self, List.getElem?_cons_zero,
      map_some, getD_some, set_append_right _ _ (Nat.le_refl _),
      set_cons_zero, keepAt_append]
    exact .replaced first

@[simp] theorem upsertEntry_path (fs : FileSystem) (sourcePath : Path)
    (identity : ObservedFileIdentity) (update : CheckpointUpdate) (path : Path) :
    (upsertEntry fs sourcePath identity update path).path = path := rfl

theorem upsertEntry_rooted (fs : FileSystem) (sourcePath : Path) (node : NodeId) (content : Bytes)
    (update : CheckpointUpdate) (path : Path) :
    (upsertEntry fs sourcePath (identityOf node content) update path).Rooted node :=
  ⟨rfl, rfl, rfl⟩

/-! ## Distinct ids and paths -/

def DistinctIds (files : List TrackedFileCheckpoint) : Prop :=
  files.Pairwise fun left right => left.fileId ≠ right.fileId

/-- Two entries share a path only where a commit is still to come. -/
def CollidesOnlyAt (covered : List Path) (files : List TrackedFileCheckpoint) : Prop :=
  files.Pairwise fun left right => left.path = right.path → left.path ∈ covered

def DistinctPaths (files : List TrackedFileCheckpoint) : Prop :=
  files.Pairwise fun left right => left.path ≠ right.path

variable {files : List TrackedFileCheckpoint}

theorem distinctPaths_iff : DistinctPaths files ↔ CollidesOnlyAt [] files := by
  unfold DistinctPaths CollidesOnlyAt
  simp

theorem DistinctIds.eq (distinct : DistinctIds files) {left right : TrackedFileCheckpoint}
    (inLeft : left ∈ files) (inRight : right ∈ files) (same : left.fileId = right.fileId) :
    left = right := by
  have symm : Std.Symm fun left right : TrackedFileCheckpoint => left.fileId ≠ right.fileId :=
    ⟨fun _ _ => Ne.symm⟩
  by_contra different
  exact List.Pairwise.forall distinct inLeft inRight different same

theorem CollidesOnlyAt.mem_covered (only : CollidesOnlyAt covered files)
    {left right : TrackedFileCheckpoint} (inLeft : left ∈ files) (inRight : right ∈ files)
    (different : left ≠ right) (same : left.path = right.path) : left.path ∈ covered := by
  have symm : Std.Symm fun left right : TrackedFileCheckpoint =>
      left.path = right.path → left.path ∈ covered :=
    ⟨fun _ _ held same => by rw [same]; exact held same.symm⟩
  exact List.Pairwise.forall only inLeft inRight different same

theorem CollidesOnlyAt.mono {more : List Path} (only : CollidesOnlyAt covered files)
    (subset : covered ⊆ more) : CollidesOnlyAt more files :=
  List.Pairwise.imp (fun held eq => subset (held eq)) only

section Exchange

variable {before after : List TrackedFileCheckpoint} {entry new : TrackedFileCheckpoint}

theorem mem_exchange (entry : TrackedFileCheckpoint) {other : TrackedFileCheckpoint}
    (mem : other ∈ before ++ new :: after) :
    other = new ∨ (other ∈ before ++ after ∧ other ∈ before ++ entry :: after) := by
  simp only [mem_append, mem_cons] at mem ⊢
  tauto

theorem DistinctIds.apart (ids : DistinctIds (before ++ entry :: after))
    {other : TrackedFileCheckpoint} (mem : other ∈ before ++ after) :
    other.fileId ≠ entry.fileId := by
  obtain ⟨-, behind, across⟩ := pairwise_append.1 ids
  rcases mem_append.1 mem with front | back
  · exact across other front entry mem_cons_self
  · exact Ne.symm ((pairwise_cons.1 behind).1 other back)

theorem DistinctIds.exchange (ids : DistinctIds (before ++ entry :: after))
    (same : new.fileId = entry.fileId) : DistinctIds (before ++ new :: after) :=
  pairwise_replace ids
    (fun other mem => by rw [same]; exact ids.apart (mem_append_left _ mem))
    fun other mem => by rw [same]; exact Ne.symm (ids.apart (mem_append_right _ mem))

theorem AllRooted.exchange {node : NodeId} (rooted : AllRooted (before ++ entry :: after))
    (own : new.Rooted node) : AllRooted (before ++ new :: after) := by
  intro other mem
  rcases mem_exchange entry mem with rfl | ⟨-, old⟩
  · exact ⟨node, own⟩
  · exact rooted other old

end Exchange

section Upserted

variable {test : TrackedFileCheckpoint → Bool} {write : Path → TrackedFileCheckpoint}
  {sourcePath : Path} {files result : List TrackedFileCheckpoint}

/-- The written entry stands alone at its path, which is the observed one or that of the entry it
takes over. What else meets the test and stays stands behind that entry. -/
theorem Upserted.shape (done : Upserted test write sourcePath files result) :
    ∃ path before after, result = before ++ write path :: after ∧
      before ++ after = files.filter (fun other => decide (other.path ≠ path)) ∧
      (path = sourcePath ∨ ∃ entry ∈ files, test entry = true ∧ entry.path = path) ∧
      ∀ other ∈ files, test other = true → other.path ≠ path → ∃ front entry behind,
        files = front ++ entry :: behind ∧ First test front entry ∧ entry.path = path ∧
          other ∈ behind := by
  cases done with
  | @replaced before after entry first =>
    refine ⟨entry.path, _, _, rfl, by simp [filter_append],
      .inr ⟨entry, by simp, first.met, rfl⟩, ?_⟩
    intro other mem met away
    refine ⟨before, entry, after, rfl, first, rfl, ?_⟩
    simp only [mem_append, mem_cons] at mem
    rcases mem with front | rfl | behind
    · exact absurd (first.skipped other front) (by simp [met])
    · exact absurd rfl away
    · exact behind
  | added skipped =>
    refine ⟨sourcePath, _, [], rfl, by simp, .inl rfl, ?_⟩
    intro other mem met
    exact absurd (skipped other mem) (by simp [met])

theorem Upserted.mem (done : Upserted test write sourcePath files result) :
    ∃ path, (path = sourcePath ∨ ∃ entry ∈ files, test entry = true ∧ entry.path = path) ∧
      ∀ entry ∈ result, entry = write path ∨ entry ∈ files := by
  obtain ⟨path, before, after, rfl, thinned, from_, -⟩ := done.shape
  refine ⟨path, from_, fun entry mem => ?_⟩
  have old : entry ∈ before ++ after → entry ∈ files := fun mem => by
    rw [thinned] at mem
    exact (mem_filter.1 mem).1
  simp only [mem_append, mem_cons] at mem old
  tauto

/-- An upsert keeps ids apart when the entry it takes over by path and fingerprint leaves no other
entry of the same node behind it. -/
theorem distinctIds_upserted {fileId : FileId} (done : Upserted test write sourcePath files result)
    (distinct : DistinctIds files) (written : ∀ path, (write path).fileId = fileId)
    (byId : ∀ entry ∈ files, entry.fileId = fileId → test entry = true)
    (safe : ∀ front entry behind, files = front ++ entry :: behind → First test front entry →
      entry.fileId ≠ fileId → ∀ other ∈ behind, other.fileId = fileId → other.path = entry.path) :
    DistinctIds result := by
  obtain ⟨path, before, after, rfl, thinned, -, behind⟩ := done.shape
  have others : ∀ other ∈ files, other.path ≠ path → other.fileId ≠ fileId := by
    intro other mem away same
    obtain ⟨front, entry, rest, split, first, rfl, inRest⟩ :=
      behind other mem (byId other mem same) away
    have inFiles : entry ∈ files := by simp [split]
    by_cases own : entry.fileId = fileId
    · rw [distinct.eq mem inFiles (same.trans own.symm)] at away
      exact away rfl
    · exact away (safe front entry rest split first own other inRest same)
  refine (pairwise_middle fun different same => different same.symm).2 (pairwise_cons.2 ⟨?_, ?_⟩)
  · intro other mem
    rw [thinned] at mem
    obtain ⟨mem, away⟩ := mem_filter.1 mem
    rw [written]
    exact fun same => others other mem (by simpa using away) same.symm
  · rw [thinned]
    exact distinct.filter _

/-- An upsert ends the collision at its path when the entry it takes over stands there. -/
theorem collidesOnlyAt_upserted (done : Upserted test write sourcePath files result)
    (only : CollidesOnlyAt (sourcePath :: covered) files)
    (writtenAt : ∀ path, (write path).path = path)
    (clears : ∀ entry ∈ files, test entry = true → entry.path ≠ sourcePath →
      CollidesOnlyAt covered files) :
    CollidesOnlyAt covered result := by
  obtain ⟨path, before, after, rfl, thinned, at_, -⟩ := done.shape
  refine (pairwise_middle fun held same => by rw [same]; exact held same.symm).2
    (pairwise_cons.2 ⟨?_, ?_⟩)
  · intro other mem same
    rw [thinned] at mem
    rw [writtenAt] at same
    exact absurd same.symm (by simpa using (mem_filter.1 mem).2)
  · rw [thinned]
    by_cases atSource : path = sourcePath
    · refine List.Pairwise.imp_of_mem (fun inLeft _ held same => ?_) (only.filter _)
      refine (mem_cons.1 (held same)).resolve_left ?_
      simpa [atSource] using (mem_filter.1 inLeft).2
    · obtain ⟨entry, mem, met, rfl⟩ := at_.resolve_left atSource
      exact (clears entry mem met atSource).filter _

end Upserted

/-! ## Renamed files -/

/-- The search returns another name of the entry's directory that has the entry's node. -/
theorem findRotatedPath_found {base rotatedPath : Path} {previous : TrackedFileCheckpoint}
    {node : NodeId} (rooted : previous.Rooted node)
    (found : findRotatedPath fs base previous = .ok (some rotatedPath)) :
    fs.lstat rotatedPath = some node ∧ rotatedPath ≠ base := by
  unfold findRotatedPath at found
  split at found
  · simp at found
  · split at found
    · simp at found
    · rename_i entries listed
      simp only [Except.ok.injEq, map_eq_some_iff] at found
      obtain ⟨entry, hit, rfl⟩ := found
      have mem : entry ∈ fs.entries := by
        unfold FileSystem.readDir at listed
        split at listed
        · simp only [Except.ok.injEq] at listed
          have inDir := mem_of_find?_eq_some hit
          rw [← listed] at inDir
          exact (mem_filter.1 inDir).1
        · simp at listed
      have test := List.find?_some hit
      rw [Bool.and_eq_true, decide_eq_true_eq, rooted.rotatedEntryMatches_iff] at test
      refine ⟨?_, test.1⟩
      rw [FileSystem.lstat, FileSystem.entryAt_of_mem mem, map_some, test.2]

theorem checkpointForPath_first {state : LogCheckpointState} {tracked : TrackedFileCheckpoint}
    (found : checkpointForPath state path = some tracked) :
    tracked.path = path ∧ ∃ before after, state.files = before ++ tracked :: after ∧
      ∀ other ∈ before, other.path ≠ path := by
  obtain ⟨met, before, after, split, skipped⟩ := List.find?_eq_some_iff_append.1 found
  exact ⟨by simpa using met, before, after, split, fun other mem => by
    simpa using skipped other mem⟩

/-- Relocating the entry found at a path moves just that entry. -/
theorem relocateCheckpointPath_files {state : LogCheckpointState} {tracked : TrackedFileCheckpoint}
    (rotatedPath : Path) (distinct : DistinctIds state.files)
    (found : checkpointForPath state path = some tracked) :
    ∃ before after, state.files = before ++ tracked :: after ∧
      (∀ other ∈ before, other.path ≠ path) ∧
      (relocateCheckpointPath state tracked rotatedPath).files =
        before ++ { tracked with path := rotatedPath } :: after := by
  obtain ⟨atPath, before, after, split, skipped⟩ := checkpointForPath_first found
  refine ⟨before, after, split, skipped, ?_⟩
  have across := (pairwise_append.1 (split ▸ distinct : DistinctIds _)).2.2
  unfold relocateCheckpointPath
  simp only [split]
  refine updateFirst_of_first _ ⟨fun other mem => ?_, by simp⟩
  simp [across other mem tracked mem_cons_self, atPath, skipped other mem]

end WistAgentd.Telemetry

/- # Telemetry.Files.CommitVisible -- when a single-path tick finds its own commit again

A tick commits under the path of the entry it takes over. If an older entry of the same node
stands at another path, the commit goes there and the watched path does not see it.

* `lookup_upsert_here`, `lookup_upsert_elsewhere`: looking up a path after its commit.
* `commit_visible_iff`: after every run, the next tick resumes at the committed offset exactly when
  no other entry has the node of the watched file. -/
import WistAgentd.Telemetry.Files.FamilyEntries
import WistAgentd.Telemetry.Files.Resume

namespace WistAgentd.Telemetry
open Theory.FirstMatch Theory.Transition Theory.Crash
open List Option
set_option autoImplicit false

section Lookup

variable {fs : FileSystem} {state : LogCheckpointState} {path : Path} {node : NodeId}
  {content : Bytes} {update : CheckpointUpdate}

/-- When no other path has an entry of the node, the commit is found at its path. -/
theorem lookup_upsert_here (rooted : AllRooted state.files)
    (here : ∀ entry ∈ state.files, entry.fileId = node.fileId → entry.path = path) :
    checkpointForPath (upsertCheckpoint fs state path (identityOf node content) update) path =
      some (upsertEntry fs path (identityOf node content) update path) := by
  obtain ⟨before, after, result, thinned⟩ := upsertCheckpoint_here rooted here
  unfold checkpointForPath
  rw [result]
  refine find?_of_first ⟨fun other mem => ?_, by simp⟩
  have inOthers : other ∈ before ++ after := mem_append_left _ mem
  rw [thinned] at inOthers
  simpa using (mem_filter.1 inOthers).2

/-- When an entry of the node stands elsewhere, what is found at the path is of another node. -/
theorem lookup_upsert_elsewhere (good : SingleGood path state.files)
    {other : TrackedFileCheckpoint} (mem : other ∈ state.files)
    (sameNode : other.fileId = node.fileId) (away : other.path ≠ path)
    {found : TrackedFileCheckpoint}
    (lookup : checkpointForPath (upsertCheckpoint fs state path (identityOf node content) update)
      path = some found) : found.fileId ≠ node.fileId := by
  obtain ⟨at_, before, after, result, thinned, -, behind⟩ :=
    (upsertCheckpoint_upserted fs state path (identityOf node content) update).shape
  have elsewhere : at_ ≠ path := by
    intro atPath
    obtain ⟨front, entry, rest, split, -, entryAt, inRest⟩ := behind other mem
      ((upsertTest_of_mem good.rooted mem).2 (.inl sameNode)) (atPath ▸ away)
    have last := good.last
    rw [split] at last
    exact (pairwise_cons.1 (pairwise_append.1 last).2.1).1 other inRest (entryAt.trans atPath)
  obtain ⟨atFound, front, rest, split, -⟩ := checkpointForPath_first lookup
  have inResult : found ∈ before ++ upsertEntry fs path (identityOf node content) update at_ ::
      after := by
    rw [← result, split]
    simp
  intro same
  have old : found ∈ state.files := by
    rcases mem_exchange found inResult with rfl | ⟨inOthers, -⟩
    · exact absurd atFound elsewhere
    · rw [thinned] at inOthers
      exact (mem_filter.1 inOthers).1
  exact away ((good.ids.eq mem old (sameNode.trans same.symm)) ▸ atFound)

end Lookup

/-! ## The tick -/

/-- The new name of the file that was renamed away from the watched path. -/
def movedTo (config : FileInputConfig) (fs : FileSystem) (state : LogCheckpointState) :
    Option Path :=
  match inspectPath fs config.sourcePath, checkpointForPath state config.sourcePath with
  | .ok current, some previous =>
    if (decideResume fs config.sourcePath current (some previous) config.startupPosition).rotated
    then renamedTo fs config.sourcePath previous else none
  | _, _ => none

/-- Every entry of the node stands at the watched path, or, if the file there was renamed, at the
name it was renamed to. -/
def CommitsInPlace (config : FileInputConfig) (fs : FileSystem) (state : LogCheckpointState)
    (node : NodeId) : Prop :=
  ∀ entry ∈ state.files, entry.fileId = node.fileId →
    entry.path = (movedTo config fs state).getD config.sourcePath

instance (config : FileInputConfig) (fs : FileSystem) (state : LogCheckpointState)
    (node : NodeId) : Decidable (CommitsInPlace config fs state node) := by
  unfold CommitsInPlace
  infer_instance

/-- The stored list has the node and the offset at the watched path, and as long as the file only
grows the next tick resumes there. -/
def CommitVisible (config : FileInputConfig) (fs : FileSystem) (stored : LogCheckpointState)
    (node : NodeId) (offset : Nat) : Prop :=
  ∃ entry, checkpointForPath stored config.sourcePath = some entry ∧
    entry.fileId = node.fileId ∧ entry.checkpointOffset = offset ∧
    ∀ later : FileSystem, later.openNode config.sourcePath = .ok node →
      fs.content node <+: later.content node →
      decideResume later config.sourcePath (identityOf node (later.content node)) (some entry)
        config.startupPosition =
          { startOffset := offset, rotatedFromPath := none, truncated := false, rotated := false }

/-- A commit is visible unless an older entry of its node stands at another path. -/
theorem commitVisible_iff {config : FileInputConfig} {fs : FileSystem}
    {state stored : LogCheckpointState} {node : NodeId} {update : CheckpointUpdate}
    (good : SingleGood config.sourcePath state.files)
    (opened : fs.openNode config.sourcePath = .ok node)
    (inside : update.checkpointOffset ≤ (fs.content node).length)
    (files : stored.files = (upsertCheckpoint fs state config.sourcePath
      (identityOf node (fs.content node)) update).files) :
    CommitVisible config fs stored node update.checkpointOffset ↔
      ∀ entry ∈ state.files, entry.fileId = node.fileId → entry.path = config.sourcePath := by
  constructor
  · rintro ⟨found, lookup, same, -⟩ entry mem sameNode
    by_contra away
    rw [checkpointForPath, files] at lookup
    exact lookup_upsert_elsewhere good mem sameNode away lookup same
  · intro here
    have lookup : checkpointForPath stored config.sourcePath = some (upsertEntry fs
        config.sourcePath (identityOf node (fs.content node)) update config.sourcePath) := by
      rw [← lookup_upsert_here good.rooted here, checkpointForPath, checkpointForPath, files]
    refine ⟨_, lookup, rfl, rfl, fun later leads grown => ?_⟩
    exact decideResume_grown (upsertEntry_describes opened inside _) rfl leads grown _

/-- After the renamed file was committed under its new name, the entries of another node are those
that stood elsewhere. -/
theorem mem_upsert_renamed {state : LogCheckpointState} {before : List TrackedFileCheckpoint}
    {tracked : TrackedFileCheckpoint} {rotatedPath : Path} {node : NodeId} (fs : FileSystem)
    (content : Bytes) (update : CheckpointUpdate) (good : Good (before ++ [tracked]))
    (rooted : tracked.Rooted node)
    (moved : state.files = before ++ [{ tracked with path := rotatedPath }])
    (entry : TrackedFileCheckpoint) :
    entry ∈ (upsertCheckpoint fs state rotatedPath (identityOf node content) update).files ↔
      entry = upsertEntry fs rotatedPath (identityOf node content) update rotatedPath ∨
        (entry ∈ before ∧ entry.path ≠ rotatedPath) := by
  have movedRooted : AllRooted state.files := by
    rw [moved]
    exact AllRooted.exchange good.rooted ⟨rooted.fileId, rooted.deviceId, rooted.inode⟩
  obtain ⟨front, behind, result, thinned⟩ := upsertCheckpoint_here movedRooted (by
    intro taken mem sameNode
    rw [moved, mem_append, mem_singleton] at mem
    rcases mem with inBefore | rfl
    · exact absurd (sameNode.trans rooted.fileId.symm) (good.ids.apart (mem_append_left _ inBefore))
    · rfl)
  have others : entry ∈ front ++ behind ↔ entry ∈ before ∧ entry.path ≠ rotatedPath := by
    rw [thinned, moved, mem_filter, mem_append, mem_singleton, decide_eq_true_eq]
    constructor
    · rintro ⟨inBefore | rfl, away⟩
      · exact ⟨inBefore, away⟩
      · exact absurd rfl away
    · exact fun held => ⟨.inl held.1, held.2⟩
  rw [result, ← others, mem_append, mem_cons, mem_append]
  tauto

/-- One tick of a single-path input whose entries are as they should be. -/
theorem batch_visible_iff {ext : Externals} {config : FileInputConfig} {env : TickEnv}
    {state : LogCheckpointState} {nextSeq : Nat} {batch : ReadBatch}
    (good : SingleGood config.sourcePath state.files)
    (plain : ∀ previous rotatedPath, checkpointForPath state config.sourcePath = some previous →
      findRotatedPath env.fs config.sourcePath previous = .ok (some rotatedPath) →
      env.fs.Plain rotatedPath)
    (ran : (collectReadBatch ext config env state nextSeq).2 = .ok batch) :
    ∃ node, env.fs.openNode config.sourcePath = .ok node ∧
      (CommitVisible config env.fs (commitLogState env batch.state batch.checkpoints
        batch.pendingMultiline) node batch.checkpointOffset ↔
          CommitsInPlace config env.fs state node) := by
  obtain ⟨current, inspected, collected⟩ := collectReadBatch_collected ran
  obtain ⟨node, opened, rfl⟩ := inspectPath_ok.1 inspected
  refine ⟨node, opened, ?_⟩
  generalize filesEq : batch.state.files = files, batch.checkpoints = checkpoints,
    batch.checkpointOffset = offset, batch.out.fed = fed at collected ⊢
  generalize resumed : decideResume env.fs config.sourcePath _ _ _ = resume at collected
  cases collected with
  | source unmoved read =>
    rename_i source
    obtain ⟨other, otherOpened, identity⟩ := readFromOffset_ok read
    obtain rfl : other = node := Except.ok.inj (otherOpened.symm.trans opened)
    have stays : movedTo config env.fs state = none := by
      unfold movedTo
      rw [inspected]
      cases tracked : checkpointForPath state config.sourcePath with
      | none => rfl
      | some previous =>
        dsimp only
        split
        · rename_i rotated
          rw [tracked] at resumed
          rw [renamedTo, unmoved previous (resumed ▸ rotated) tracked]
          rfl
        · rfl
    unfold CommitsInPlace
    rw [stays, getD_none, ← filesEq]
    rw [identity]
    have files := commitLogState_files env batch.state [⟨config.sourcePath,
      identityOf other (env.fs.content other), source.committedEndOffset, resume.rotatedFromPath⟩]
        batch.pendingMultiline
    exact commitVisible_iff (filesEq ▸ good) opened (readFromOffset_committed_le read opened) files
  | moved rotated tracked found drained read =>
    rename_i previous rotatedPath tail source
    obtain ⟨other, otherOpened, identity⟩ := readFromOffset_ok read
    obtain rfl : other = node := Except.ok.inj (otherOpened.symm.trans opened)
    have leaves : movedTo config env.fs state = some rotatedPath := by
      rw [tracked] at resumed
      simp only [movedTo, inspected, tracked, resumed, rotated, if_true]
      rw [renamedTo, found]
      rfl
    obtain ⟨before, old, split, unwatched, moved, rooted, away, tailIdentity⟩ :=
      renamed_setup good tracked found (plain _ _ tracked found) drained
    have movedFiles := filesEq.trans moved
    rw [identity, tailIdentity]
    have files := commitLogState_files env batch.state [⟨rotatedPath,
      identityOf old (env.fs.content old), tail.committedEndOffset, none⟩, ⟨config.sourcePath,
      identityOf other (env.fs.content other), source.committedEndOffset,
      resume.rotatedFromPath⟩]
        batch.pendingMultiline
    refine (commitVisible_iff (upsert_renamed_singleGood (split ▸ good.toGood) unwatched away
      rooted movedFiles) opened (readFromOffset_committed_le read opened) files).trans ?_
    have renamed := mem_upsert_renamed env.fs (env.fs.content old) (PendingCheckpoint.update env
        ⟨rotatedPath, identityOf old (env.fs.content old), tail.committedEndOffset, none⟩)
      (split ▸ good.toGood) rooted movedFiles
    unfold CommitsInPlace
    rw [leaves, getD_some]
    constructor
    · intro here entry mem sameNode
      by_contra elsewhere
      rw [split, mem_append, mem_singleton] at mem
      rcases mem with inBefore | rfl
      · exact unwatched entry inBefore
          (here entry ((renamed entry).2 (.inr ⟨inBefore, elsewhere⟩)) sameNode)
      · exact away (here _ ((renamed _).2 (.inl rfl)) (rooted.fileId.symm.trans sameNode))
    · intro there entry mem sameNode
      rcases (renamed entry).1 mem with rfl | ⟨inBefore, elsewhere⟩
      · -- the file that was renamed would be the one at the watched path
        have atRotated := there previous (by simp [split]) (rooted.fileId.trans sameNode)
        exact absurd (atRotated.symm.trans (checkpointForPath_first tracked).1) away
      · exact absurd (there entry (by simp [split, inBefore]) sameNode) elsewhere

/-- **Commit visibility.** After every run in which renamed files stand under plain names, a tick
that commits leaves an entry for the watched file at its offset, from which the next tick resumes,
exactly when no entry of the same node stands at a path of its own. -/
theorem commit_visible_iff {ext : Externals} {config : FileInputConfig} {start w : World}
    {ticks : List Tick} {tick : Tick} {out : ProcessOutcome}
    (empty : start.checkpoint config.inputId = none)
    (separate : SeparateAlong ext config .single start ticks)
    (ran : run (inputStep ext config .single) start ticks = some w)
    (last : RenamesSeparate config .single tick.env.fs (loadLogState config tick.env.toTickEnv w))
    (ended : (processOnce ext tick.sink config tick.env.toTickEnv tick.fates
      { w with nextSeq := tick.nextSeq }).outcome = .ok out)
    (committed : out.paused = false) :
    ∃ node stored, tick.env.fs.openNode config.sourcePath = .ok node ∧
      (processOnce ext tick.sink config tick.env.toTickEnv tick.fates
        { w with nextSeq := tick.nextSeq }).state.checkpoint config.inputId = some stored ∧
      (CommitVisible config tick.env.fs stored node out.checkpointOffset ↔
        CommitsInPlace config tick.env.fs (loadLogState config tick.env.toTickEnv w) node) := by
  have good := (singleGood_of_run empty separate ran).loaded
    (fun _ => ⟨⟨by simp [AllRooted, LogCheckpointState.new], .nil, .nil⟩, .nil⟩)
    tick.env.toTickEnv
  have spec := Stages.checkpoint (singleStages ext config tick.env.toTickEnv) ext tick.sink config
    tick.env.toTickEnv tick.fates { w with nextSeq := tick.nextSeq }
  rw [← processOnce_stages, ended] at spec
  rcases spec with ⟨-, paused⟩ | ⟨batch, stored, collected, plan, new, reports⟩
  · rcases paused out rfl with paused | ⟨_, unchanged⟩
    · exact absurd paused (by simp [committed])
    · cases unchanged
  · obtain ⟨node, opened, visible⟩ := batch_visible_iff good (fun previous rotatedPath tracked found =>
      last previous (by simp [tracked]) rotatedPath (mem_renamedTo.2 found)) collected
    obtain ⟨delivery, replayed, rfl⟩ := reports out rfl
    cases plan
    exact ⟨node, _, opened, new, visible⟩

namespace ReusedInode

/-- The watched file. -/
def first : FileSystem := .lone (ascii "x\n")

/-- It was renamed and a new one took its place. -/
def second : FileSystem :=
  .ofFiles ["/d"] [("/d/a", ⟨1, 2⟩, ascii "y\n"), ("/d/a.1", ⟨1, 1⟩, ascii "x\n")] (by decide)
    (by decide)

/-- The first was deleted, the second renamed, and the third has the inode of the first. -/
def third : FileSystem :=
  .ofFiles ["/d"] [("/d/a", ⟨1, 1⟩, ascii "z\n"), ("/d/a.2", ⟨1, 2⟩, ascii "y\n")] (by decide)
    (by decide)

/-- One tick of the input that watches the path. -/
def tickOn (fs : FileSystem) (w : World) : Result Effect World IoError ProcessOutcome :=
  processOnce plainExternals .file (.small "/d/a") (Tick.calm fs []).env.toTickEnv []
    { w with nextSeq := 0 }

end ReusedInode

open ReusedInode in
/-- The commit behind an ordinary rotation is visible. -/
theorem commit_visible_rotation :
    ∃ w out stored, run (inputStep plainExternals (.small "/d/a") .single) .empty
        [.calm first []] = some w ∧ (tickOn second w).outcome = .ok out ∧ out.paused = false ∧
      (tickOn second w).state.checkpoint "" = some stored ∧
      CommitVisible (.small "/d/a") second stored ⟨1, 2⟩ out.checkpointOffset := by
  obtain ⟨w, ran⟩ : ∃ w, run (inputStep plainExternals (.small "/d/a") .single) .empty
      [.calm first []] = some w := ⟨_, rfl⟩
  have value : ((tickOn second w).outcome.value?.map ProcessOutcome.paused) = some false := by
    cases ran
    decide +kernel
  obtain ⟨out, ended, committed⟩ := map_eq_some_iff.1 value
  rw [Outcome.value?_eq_some] at ended
  have place : RenamesSeparate (.small "/d/a") .single second
      (loadLogState (.small "/d/a") (Tick.calm second []).env.toTickEnv w) ∧
      CommitsInPlace (.small "/d/a") second
        (loadLogState (.small "/d/a") (Tick.calm second []).env.toTickEnv w) ⟨1, 2⟩ := by
    cases ran
    decide +kernel
  have separate : SeparateAlong plainExternals (.small "/d/a") .single .empty [.calm first []] :=
    ⟨by decide +kernel, fun _ _ => trivial⟩
  obtain ⟨node, stored, opened, held, visible⟩ := @commit_visible_iff plainExternals
    (.small "/d/a") .empty w [.calm first []] (.calm second []) out rfl separate ran place.1 ended
    committed
  have leads : second.openNode "/d/a" = .ok ⟨1, 2⟩ := by decide
  obtain rfl : node = ⟨1, 2⟩ := Except.ok.inj (opened.symm.trans leads)
  exact ⟨w, out, stored, ran, ended, committed, held, visible.2 place.2⟩

open ReusedInode in
/-- A file that got the inode of an older generation is committed under that generation's name. -/
theorem commit_lost_reusedInode :
    ∃ w out stored, run (inputStep plainExternals (.small "/d/a") .single) .empty
        [.calm first [], .calm second []] = some w ∧ (tickOn third w).outcome = .ok out ∧
      out.paused = false ∧ (tickOn third w).state.checkpoint "" = some stored ∧
      third.openNode "/d/a" = .ok ⟨1, 1⟩ ∧
      ∀ offset, ¬ CommitVisible (.small "/d/a") third stored ⟨1, 1⟩ offset := by
  obtain ⟨w, ran⟩ : ∃ w, run (inputStep plainExternals (.small "/d/a") .single) .empty
      [.calm first [], .calm second []] = some w := ⟨_, rfl⟩
  have ends : ((tickOn third w).outcome.value?.map ProcessOutcome.paused) = some false ∧
      ((tickOn third w).state.checkpoint "").map (fun stored => checkpointForPath stored "/d/a") =
        some none := by
    cases ran
    decide +kernel
  obtain ⟨out, ended, committed⟩ := map_eq_some_iff.1 ends.1
  obtain ⟨stored, held, lost⟩ := map_eq_some_iff.1 ends.2
  refine ⟨w, out, stored, ran, Outcome.value?_eq_some.1 ended, committed, held, by decide, ?_⟩
  rintro offset ⟨entry, lookup, -⟩
  rw [show (FileInputConfig.small "/d/a").sourcePath = "/d/a" from rfl, lost] at lookup
  exact absurd lookup (by simp)

end WistAgentd.Telemetry

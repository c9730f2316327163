/- # Telemetry.Files.Resume -- a file that only grew is resumed where it was left

An entry written from an observation keeps the head, the size and the bytes before the offset of
its file. None of the three checks can fail for a file that was only appended to.

* `Describes`: the entry was written when the node held this content.
* `upsertEntry_describes`: what an upsert writes does.
* `decideResume_grown`: append-only growth is resumed at the recorded offset.
* `appended_resumes_iff`: read, recorded and looked up again, it is resumed there unless the upsert
  took over an entry of another path. -/
import WistAgentd.Telemetry.Files.EntryList
import WistAgentd.Telemetry.Files.LineReading

namespace WistAgentd.Telemetry
open Theory.FirstMatch
open List
set_option autoImplicit false

variable {fs : FileSystem} {node : NodeId} {content : Bytes}

/-- The probe of an offset within the content. -/
def probeOf (content : Bytes) (offset : Nat) : Option Hex :=
  if offset = 0 then none
  else some (fingerprint ((content.drop (offset - min offset checkpointProbeBytes)).take
    (min offset checkpointProbeBytes)))

theorem checkpointProbe_ok {path : Path} {offset : Nat} (opened : fs.openNode path = .ok node)
    (inside : offset ≤ (fs.content node).length) :
    checkpointProbe fs path offset = .ok (probeOf (fs.content node) offset) := by
  unfold checkpointProbe probeOf
  split
  · rfl
  · rw [opened]
    dsimp only
    rw [if_pos]
    rw [length_take, length_drop]
    omega

/-- Appending does not reach the bytes before an offset. -/
theorem probeOf_append {offset : Nat} (inside : offset ≤ content.length) (more : Bytes) :
    probeOf (content ++ more) offset = probeOf content offset := by
  unfold probeOf
  split
  · rfl
  · have start : offset - min offset checkpointProbeBytes ≤ content.length := by omega
    have fits : min offset checkpointProbeBytes ≤
        (content.drop (offset - min offset checkpointProbeBytes)).length := by
      rw [length_drop]
      omega
    rw [drop_append_of_le_length start, take_append_of_le_length fits]

/-- The entry was written when its node held `content`. -/
structure Describes (entry : TrackedFileCheckpoint) (node : NodeId) (content : Bytes) : Prop where
  rooted : entry.Rooted node
  fingerprint : entry.fingerprint = some (Telemetry.fingerprint (content.take 32))
  lastSize : entry.lastSize = some content.length
  inside : entry.checkpointOffset ≤ content.length
  probe : entry.checkpointProbe = probeOf content entry.checkpointOffset

/-- The file may have grown between the observation and the upsert. -/
theorem upsertEntry_describes_grown {sourcePath : Path} {update : CheckpointUpdate}
    (opened : fs.openNode sourcePath = .ok node) (grown : content <+: fs.content node)
    (inside : update.checkpointOffset ≤ content.length) (path : Path) :
    Describes (upsertEntry fs sourcePath (identityOf node content) update path) node content where
  rooted := upsertEntry_rooted ..
  fingerprint := rfl
  lastSize := rfl
  inside := inside
  probe := by
    show ((checkpointProbe fs sourcePath update.checkpointOffset).toOption.getD none) = _
    rw [checkpointProbe_ok opened (Nat.le_trans inside grown.length_le)]
    obtain ⟨more, whole⟩ := grown
    rw [← whole, probeOf_append inside]
    rfl

theorem upsertEntry_describes {sourcePath : Path} {update : CheckpointUpdate}
    (opened : fs.openNode sourcePath = .ok node)
    (inside : update.checkpointOffset ≤ (fs.content node).length) (path : Path) :
    Describes (upsertEntry fs sourcePath (identityOf node (fs.content node)) update path) node
      (fs.content node) :=
  upsertEntry_describes_grown opened (prefix_refl _) inside path

theorem fingerprint_append (front back : Bytes) :
    fingerprint (front ++ back) = fingerprint front ++ fingerprint back := by
  simp [fingerprint]

/-- The head of a file that grew still matches the recorded one. -/
theorem fingerprintsMatch_grown {entry : TrackedFileCheckpoint}
    (describes : Describes entry node content) (more : Bytes) :
    fingerprintsMatch entry (identityOf node (content ++ more)) = true := by
  unfold fingerprintsMatch
  rw [describes.fingerprint]
  simp only [identityOf, Bool.or_eq_true, decide_eq_true_eq]
  by_cases long : 32 ≤ content.length
  · rw [take_append_of_le_length long]
    exact .inl rfl
  · have short : content.take 32 = content := take_of_length_le (by omega)
    by_cases empty : more = []
    · rw [empty, append_nil]
      exact .inl rfl
    · refine .inr ?_
      have grew : 0 < more.length := length_pos_iff.2 empty
      have head : (content ++ more).take 32 = content ++ more.take (32 - content.length) := by
        rw [take_append, short]
      simp only [shortFileAppendKeepsPrefix, describes.lastSize, Bool.and_eq_true,
        decide_eq_true_eq, length_append, isPrefixOf_iff_prefix]
      refine ⟨⟨by omega, by omega⟩, ?_⟩
      rw [short, head, fingerprint_append]
      exact prefix_append _ _

/-- **A grown file resumes at its offset.** -/
theorem decideResume_grown {base : Path} {entry : TrackedFileCheckpoint}
    (describes : Describes entry node content) (samePath : entry.path = base)
    (opened : fs.openNode base = .ok node) (grown : content <+: fs.content node)
    (startup : StartupPosition) :
    decideResume fs base (identityOf node (fs.content node)) (some entry) startup =
      { startOffset := entry.checkpointOffset, rotatedFromPath := none, truncated := false
        rotated := false } := by
  obtain ⟨more, whole⟩ := grown
  have same : sameIdentity base (identityOf node (fs.content node)) entry = true :=
    describes.rooted.sameIdentity_iff.2
      ⟨.inr samePath, rfl, whole ▸ fingerprintsMatch_grown describes more⟩
  have length : content.length ≤ (fs.content node).length := by
    rw [← whole, length_append]
    omega
  have inside := describes.inside
  have probes : checkpointProbeMatches fs base entry = .ok true := by
    unfold checkpointProbeMatches
    split
    · rfl
    · rename_i positive
      rw [describes.probe, checkpointProbe_ok opened (by omega), ← whole,
        probeOf_append describes.inside]
      unfold probeOf
      rw [if_neg positive]
      simp
  have noCut : ¬ (identityOf node (fs.content node)).fileLen < entry.checkpointOffset := by
    simp only [identityOf]
    omega
  simp [decideResume, same, probes, noCut, Except.toOption]

/-! ## What a read commits lies inside the file -/

theorem takeLines_prefix (limits : ReadLimits) (blocks : List Bytes) (lines : List Bytes) :
    ∀ count consumed, takeLines limits blocks count consumed lines <+: lines := by
  induction lines with
  | nil => exact fun _ _ => nil_prefix
  | cons line rest ih =>
    intro count consumed
    unfold takeLines
    split
    · exact cons_prefix_cons.2 ⟨rfl, ih _ _⟩
    · exact nil_prefix

theorem takeLines_flatten_le (limits : ReadLimits) (blocks : List Bytes) (bytes : Bytes) :
    (takeLines limits blocks 0 0 (splitLines bytes)).flatten.length ≤ bytes.length := by
  obtain ⟨left, whole⟩ := takeLines_prefix limits blocks (splitLines bytes) 0 0
  have flat := congrArg (fun lines => lines.flatten.length) whole
  simp only [flatten_append, length_append, splitLines_flatten] at flat
  omega

theorem readContent_committed_le (chunking : Chunking) (content : Bytes) (startOffset : Nat)
    (limits : ReadLimits) :
    (readContent chunking content startOffset limits).committedEndOffset ≤ content.length := by
  obtain ⟨-, committed, -⟩ := readContent_eq chunking content startOffset limits
  have taken := takeLines_flatten_le limits (chunking.cut (content.drop (min startOffset
    content.length))) (content.drop (min startOffset content.length))
  rw [length_drop] at taken
  omega

theorem readFromOffset_committed_le {path : Path} {start : Nat} {limits : ReadLimits}
    {read : ReadFromOffset} (ran : readFromOffset fs path start limits = .ok read)
    (opened : fs.openNode path = .ok node) :
    read.committedEndOffset ≤ (fs.content node).length := by
  rw [(readFromOffset_eq opened ran).2.2]
  exact readContent_committed_le ..

/-! ## Recorded, then resumed -/

section

variable (fs : FileSystem) (state : LogCheckpointState) (sourcePath : Path)
  (identity : ObservedFileIdentity)

/-- The path under which an upsert records: that of the entry it takes over, if there is one. -/
def recordedPath : Path :=
  match state.files.find? (upsertTest fs sourcePath identity) with
  | some entry => entry.path
  | none => sourcePath

/-- The written entry, and what stands in front of it. -/
theorem upsertCheckpoint_recorded (update : CheckpointUpdate) :
    ∃ before after, (upsertCheckpoint fs state sourcePath identity update).files =
        before ++ upsertEntry fs sourcePath identity update
          (recordedPath fs state sourcePath identity) :: after ∧
      ∀ other ∈ before, other.path ≠ recordedPath fs state sourcePath identity := by
  have done := upsertCheckpoint_upserted fs state sourcePath identity update
  unfold recordedPath
  generalize (upsertCheckpoint fs state sourcePath identity update).files = result at done
  generalize state.files = files at done
  cases done with
  | @replaced before after entry first =>
    rw [find?_of_first first]
    refine ⟨_, _, rfl, fun other mem => ?_⟩
    simpa using (mem_filter.1 mem).2
  | added skipped =>
    rw [List.find?_eq_none.2 fun entry mem => by simp [skipped entry mem]]
    refine ⟨_, [], rfl, fun other mem => ?_⟩
    simpa using (mem_filter.1 mem).2

end

/-- **A file that is only appended to is resumed where its read ended exactly when the upsert
recorded the read under the path of the file.** The file is read on the disk `fs₀`, recorded on
`fs₁` and looked at again on `fs₂`. -/
theorem appended_resumes_iff {fs₀ fs₁ fs₂ : FileSystem} {path : Path} {node : NodeId}
    {start : Nat} {limits : ReadLimits} {read : ReadFromOffset} (state : LogCheckpointState)
    (update : CheckpointUpdate) (startup : StartupPosition)
    (ran : readFromOffset fs₀ path start limits = .ok read)
    (ended : update.checkpointOffset = read.committedEndOffset)
    (opened₀ : fs₀.openNode path = .ok node) (opened₁ : fs₁.openNode path = .ok node)
    (opened₂ : fs₂.openNode path = .ok node) (grown₁ : fs₀.content node <+: fs₁.content node)
    (grown₂ : fs₁.content node <+: fs₂.content node) :
    let recorded := upsertEntry fs₁ path read.identity update
      (recordedPath fs₁ state path read.identity)
    let after := upsertCheckpoint fs₁ state path read.identity update
    recorded ∈ after.files ∧
      (checkpointForPath after path = some recorded ∧
          decideResume fs₂ path (identityOf node (fs₂.content node)) (checkpointForPath after path)
            startup =
          { startOffset := read.committedEndOffset, rotatedFromPath := none, truncated := false
            rotated := false } ↔
        recordedPath fs₁ state path read.identity = path) := by
  intro recorded after
  obtain ⟨before, behind, files, skipped⟩ :=
    upsertCheckpoint_recorded fs₁ state path read.identity update
  refine ⟨?_, ?_, ?_⟩
  · show recorded ∈ after.files
    rw [show after.files = _ from files]
    exact mem_append_right _ mem_cons_self
  · rintro ⟨found, -⟩
    exact (checkpointForPath_first found).1
  · intro atPath
    have found : checkpointForPath after path = some recorded := by
      unfold checkpointForPath
      rw [show after.files = _ from files, List.find?_append, List.find?_eq_none.2, Option.none_or,
        List.find?_cons_of_pos (by simp [atPath])]
      intro other mem
      simpa [atPath] using skipped other mem
    refine ⟨found, ?_⟩
    have inside := readFromOffset_committed_le ran opened₀
    have describes : Describes recorded node (fs₀.content node) := by
      show Describes (upsertEntry fs₁ path read.identity update _) node (fs₀.content node)
      rw [(readFromOffset_eq opened₀ ran).1]
      exact upsertEntry_describes_grown opened₁ grown₁ (by rw [ended]; exact inside) _
    rw [found, decideResume_grown describes atPath opened₂ (grown₁.trans grown₂), ← ended]
    rfl

namespace MovedBack

/-- `a` was rotated to `a.1`, and both files were recorded. -/
def rotatedDisk : FileSystem :=
  .ofFiles ["/d"] [("/d/a.1", ⟨1, 1⟩, ascii "x\n"), ("/d/a", ⟨1, 2⟩, ascii "y\n")] (by decide)
    (by decide)

/-- `mv a.1 a`. -/
def restoredDisk : FileSystem :=
  .ofFiles ["/d"] [("/d/a", ⟨1, 1⟩, ascii "x\n")] (by decide) (by decide)

/-- The file went on growing. -/
def grownDisk : FileSystem :=
  .ofFiles ["/d"] [("/d/a", ⟨1, 1⟩, ascii "x\nz\n")] (by decide) (by decide)

def readUpTo (offset : Nat) : CheckpointUpdate :=
  { checkpointOffset := offset, observedAt := "t", realPath := "", pendingMultiline := none
    rotatedFromPath := none }

def bothRecorded : LogCheckpointState :=
  upsertCheckpoint rotatedDisk
    (upsertCheckpoint rotatedDisk (.new "in" "t") "/d/a.1" (identityOf ⟨1, 1⟩ (ascii "x\n"))
      (readUpTo 2))
    "/d/a" (identityOf ⟨1, 2⟩ (ascii "y\n")) (readUpTo 2)

end MovedBack

open MovedBack in
/-- A short file recorded at its own path and appended to. -/
theorem appended_resumes_iff_shortFile :
    let after := upsertCheckpoint restoredDisk (.new "in" "t") "/d/a"
      (identityOf ⟨1, 1⟩ (ascii "x\n")) (readUpTo 2)
    decideResume grownDisk "/d/a" (identityOf ⟨1, 1⟩ (ascii "x\nz\n"))
        (checkpointForPath after "/d/a") .tail =
      { startOffset := 2, rotatedFromPath := none, truncated := false, rotated := false } :=
  ((appended_resumes_iff (.new "in" "t") (readUpTo 2) .tail
    (show readFromOffset restoredDisk "/d/a" 0 (.new 16 16 16) =
      .ok ⟨identityOf ⟨1, 1⟩ (ascii "x\n"), [⟨ascii "x\n", 0, 2⟩], 2, 0⟩ by decide +kernel)
    rfl (show restoredDisk.openNode "/d/a" = .ok ⟨1, 1⟩ by decide)
    (show restoredDisk.openNode "/d/a" = .ok ⟨1, 1⟩ by decide)
    (show grownDisk.openNode "/d/a" = .ok ⟨1, 1⟩ by decide)
    (prefix_refl _) (by decide +kernel)).2.2 (by decide +kernel)).2

open MovedBack in
/-- **A rotated file that is moved back is recorded under its rotated name, and every look at the
path finds the entry of the file that was overwritten.** -/
theorem movedBack_never_resumes :
    let read := readFromOffset restoredDisk "/d/a" 0 (.new 16 16 16)
    let after := upsertCheckpoint restoredDisk bothRecorded "/d/a"
      (identityOf ⟨1, 1⟩ (ascii "x\n")) (readUpTo 2)
    read = .ok ⟨identityOf ⟨1, 1⟩ (ascii "x\n"), [⟨ascii "x\n", 0, 2⟩], 2, 0⟩ ∧
      decideResume grownDisk "/d/a" (identityOf ⟨1, 1⟩ (ascii "x\nz\n"))
          (checkpointForPath after "/d/a") .tail =
        { startOffset := 0, rotatedFromPath := some "/d/a", truncated := false
          rotated := true } := by
  decide +kernel

end WistAgentd.Telemetry

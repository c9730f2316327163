/- # Telemetry.Files.FamilySteps -- what a family tick does to its batch, step by step

Whatever a family tick finds at its paths, it does two things to its batch: it seals an open block, and
it reads lines the budget has room for. What holds of a batch is proved for these two and then holds of
the tick.

* `Step`, `Steps`: the two, with the number of open blocks they use up.
* `readOneFile_steps`, `readFiles_steps`: a path uses up one open block at most. -/
import WistAgentd.Telemetry.Files.Family

namespace WistAgentd.Telemetry
open List
set_option autoImplicit false

/-- What the reads of a family tick change and leave, but for entries, totals and planned commits. -/
structure Desk where
  lastScanMs : Option Int
  out : Outlet
  budget : ReadLimits

def FamilyBatch.desk (batch : FamilyBatch) : Desk := ⟨batch.state.lastScanMs, batch.out, batch.budget⟩

section

variable (ext : Externals) (config : FileInputConfig) (env : TickEnv)

inductive Step : Nat → Desk → Desk → Prop
  | seals {desk : Desk} (node : Option NodeId) (pending : Option PendingMultilineState) :
      Step pending.toList.length desk
        { desk with out := recordsFromPending ext config.fold desk.out node pending }
  | reads {desk : Desk} {path : Path} {startOffset : Nat} {read : ReadFromOffset} (display : Path)
      (pending : Option PendingMultilineState)
      (ran : readFromOffset env.fs path startOffset desk.budget = .ok read) :
      Step pending.toList.length desk { desk with
        out := (foldRead ext config env.observedAt desk.out display read pending).1
        budget := { desk.budget with
          maxLines := desk.budget.maxLines - read.lines.length
          maxBytes := desk.budget.maxBytes - (read.committedEndOffset - startOffset) } }

inductive Steps : Nat → Desk → Desk → Prop
  | refl {desk : Desk} : Steps 0 desk desk
  | tail {used more : Nat} {start desk final : Desk} (steps : Steps used start desk)
      (step : Step ext config env more desk final) : Steps (used + more) start final

end

section Steps

variable {ext : Externals} {config : FileInputConfig} {env : TickEnv} {batch : FamilyBatch}
  {display : Path} {used : Nat} {start desk final : Desk}

theorem Steps.trans {more : Nat} (steps : Steps ext config env used start desk)
    (rest : Steps ext config env more desk final) : Steps ext config env (used + more) start final := by
  induction rest with
  | refl => exact steps
  | tail _ step ih => exact Nat.add_assoc .. ▸ (ih steps).tail step

theorem Steps.lastScanMs (steps : Steps ext config env used start final) :
    final.lastScanMs = start.lastScanMs := by
  induction steps with
  | refl => rfl
  | tail _ step ih => cases step <;> exact ih

/-- The tick goes from one desk to the other and uses up one open block at most. -/
def OneBlock (ext : Externals) (config : FileInputConfig) (env : TickEnv) (start final : Desk) : Prop :=
  ∃ used ≤ 1, Steps ext config env used start final

theorem OneBlock.refl : OneBlock ext config env desk desk := ⟨0, Nat.zero_le _, .refl⟩

theorem Step.steps (step : Step ext config env used start final) :
    Steps ext config env used start final :=
  Nat.zero_add used ▸ Steps.refl.tail step

theorem Step.oneBlock {pending : Option PendingMultilineState}
    (step : Step ext config env pending.toList.length start final) :
    OneBlock ext config env start final :=
  ⟨_, by simp, step.steps⟩

/-- A file that is looked for under another name and not found leaves the batch as it is. -/
theorem drainRotated_steps {previous : TrackedFileCheckpoint} {drained : FamilyBatch}
    {result : Except IoError Bool}
    (ran : drainRotated ext config env previous batch = (drained, result)) :
    OneBlock ext config env batch.desk drained.desk ∧ (result = .ok false → drained = batch) := by
  unfold drainRotated at ran
  split at ran
  · cases ran
    exact ⟨.refl, fun _ => rfl⟩
  · cases ran
    exact ⟨.refl, fun _ => rfl⟩
  · rename_i rotatedPath found
    dsimp only at ran
    split at ran
    · cases ran
      exact ⟨.refl, by simp⟩
    · rename_i read opened
      cases ran
      exact ⟨(@Step.reads ext config env batch.desk _ _ _ rotatedPath _ opened).oneBlock, by simp⟩

theorem readMissing_steps (tracked : Option TrackedFileCheckpoint) : OneBlock ext config env batch.desk
    (readMissing ext config env display tracked batch).1.desk := by
  unfold readMissing
  split
  · exact .refl
  · split <;> rename_i ran <;> obtain ⟨drained, unchanged⟩ := drainRotated_steps ran
    · exact drained
    · exact drained
    · rw [unchanged rfl]
      exact (Step.seals _ _).oneBlock

theorem leaveRotated_steps (tracked : Option TrackedFileCheckpoint)
    (pending : Option PendingMultilineState) : OneBlock ext config env batch.desk
      (leaveRotated ext config env display tracked pending batch).1.desk := by
  unfold leaveRotated
  cases tracked with
  | none => exact (Step.seals _ _).oneBlock
  | some previous =>
    dsimp only
    split <;> rename_i ran <;> obtain ⟨drained, unchanged⟩ := drainRotated_steps ran
    · exact drained
    · exact drained
    · rw [unchanged rfl]
      exact (Step.seals _ _).oneBlock

theorem readPresent_steps (pending : Option PendingMultilineState)
    (tracked : Option TrackedFileCheckpoint) (startOffset : Nat) : ∃ used ≤ pending.toList.length,
      Steps ext config env used batch.desk
        (readPresent ext config env display tracked startOffset pending batch).1.desk := by
  unfold readPresent
  dsimp only
  split
  · exact ⟨0, Nat.zero_le _, .refl⟩
  · rename_i read ran
    refine ⟨_, le_rfl, ?_⟩
    split <;> exact (Step.reads display pending ran).steps

/-- A file that is somebody else's now was not cut off. -/
theorem decideResume_rotated {fs : FileSystem} {base : Path} {current : ObservedFileIdentity}
    {tracked : Option TrackedFileCheckpoint} {startup : StartupPosition}
    (rotated : (decideResume fs base current tracked startup).rotated = true) :
    (decideResume fs base current tracked startup).truncated = false := by
  unfold decideResume at rotated ⊢
  split at rotated
  · cases rotated
  · split at rotated
    · split at rotated <;> cases rotated
    · rename_i other
      simp [other]

theorem readOneFile_steps (ext : Externals) (config : FileInputConfig) (env : TickEnv) (firstScan : Bool)
    (display : Path) (batch : FamilyBatch) :
    OneBlock ext config env batch.desk (readOneFile ext config env firstScan display batch).1.desk := by
  unfold readOneFile
  dsimp only
  generalize checkpointForPath batch.state display = tracked
  split
  · split
    · exact readMissing_steps tracked
    · exact .refl
  · rename_i current inspected
    generalize resumed : decideResume env.fs _ current _ _ = resume
    generalize kept : (if resume.rotated = true then none else if resume.truncated = true then none
      else tracked.bind TrackedFileCheckpoint.pendingMultiline) = pending
    generalize leaving : (if resume.rotated = true then leaveRotated ext config env display _ _ _
      else _ : FamilyBatch × Option IoError) = left
    -- the open block is used up here or handed to the read, not both
    have steps : ∃ used, used + pending.toList.length ≤ 1 ∧
        Steps ext config env used batch.desk left.1.desk := by
      subst kept leaving
      cases rotated : resume.rotated with
      | true =>
        have whole : resume.truncated = false := by
          subst resumed
          exact decideResume_rotated rotated
        rw [whole]
        exact leaveRotated_steps tracked _
      | false =>
        cases resume.truncated with
        | true => exact ⟨_, by simp, (Step.seals _ _).steps⟩
        | false => exact ⟨0, by simp, .refl⟩
    obtain ⟨used, one, steps⟩ := steps
    obtain ⟨left, failed⟩ := left
    cases failed with
    | some err => exact ⟨used, by omega, steps⟩
    | none =>
      dsimp only
      split
      · exact ⟨used, by omega, by split <;> exact steps⟩
      · obtain ⟨more, few, read⟩ := readPresent_steps pending tracked resume.startOffset
        exact ⟨used + more, by omega, steps.trans read⟩

theorem readFiles_steps (ext : Externals) (config : FileInputConfig) (env : TickEnv) (firstScan : Bool)
    (paths : List Path) : ∀ batch : FamilyBatch, ∃ used ≤ paths.length,
    Steps ext config env used batch.desk (readFiles ext config env firstScan paths batch).desk := by
  induction paths with
  | nil => exact fun _ => ⟨0, le_rfl, .refl⟩
  | cons display rest ih =>
    intro batch
    unfold readFiles
    split
    · exact ⟨0, Nat.zero_le _, .refl⟩
    · obtain ⟨used, one, first⟩ := readOneFile_steps ext config env firstScan display batch
      obtain ⟨more, few, later⟩ := ih { (readOneFile ext config env firstScan display batch).1 with
        failure := (readOneFile ext config env firstScan display batch).1.failure.or
          (readOneFile ext config env firstScan display batch).2 }
      exact ⟨used + more, by simp; omega, first.trans later⟩

theorem readFiles_lastScanMs (firstScan : Bool) (paths : List Path) :
    (readFiles ext config env firstScan paths batch).state.lastScanMs = batch.state.lastScanMs := by
  obtain ⟨_, -, steps⟩ := readFiles_steps ext config env firstScan paths batch
  exact steps.lastScanMs

end Steps

end WistAgentd.Telemetry

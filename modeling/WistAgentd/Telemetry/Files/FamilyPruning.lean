/- # Telemetry.Files.FamilyPruning -- which tracked files of a family a scan lets go of

A scan prunes entries that it did not match. Its matches are capped, in the order in which the
directories list their names, so a tracked file that is there and matches is let go of when enough
others are listed before it and the tick has nothing of it to commit; it then comes back as a new file
and is read from its start.

* `unpruned`: the batch before the scan prunes its entries.
* `upsertFamily_occupied`: at which paths the commits leave an entry.
* `tracked_kept_iff`: when such an entry leaves one in the list the tick stores.
* `crowded_pruned`: a directory with one file more than the cap. -/
import Mathlib.Data.List.Range
import WistAgentd.Telemetry.Files.EntryList
import WistAgentd.Telemetry.Files.FamilySteps
import WistAgentd.Telemetry.Files.GlobMatch
import WistAgentd.Telemetry.Files.InputRun
import WistAgentd.Telemetry.LineCodec

namespace WistAgentd.Telemetry
open Control (ContainerFilters)
open Theory.PathTree (ValidName join)
open List
set_option autoImplicit false

section Pruning

variable {library : GlobLibrary} {tree : DirectoryTree} {target : String}
  {excludes : List (String → Bool)} {filters : ContainerFilters} {maxPaths : Nat} {names : List String}

/-- A path that fits and passes is selected exactly when it is among the first kept candidates, and it is
never deselected. -/
theorem selected_iff (fits : FitsTarget library tree target names)
    (passes : ((⟨library, excludes, filters⟩ : Selector).verdict
      (place (targetBase target) names)).keeps = true) :
    let selection := FamilySelection.ofScan target (considerAll ⟨library, excludes, filters⟩ maxPaths
      (targetBase target) (targetCandidates library tree target) .empty)
    (place (targetBase target) names ∈ selection.selected ↔
      names ∈ (keptCandidates library tree target excludes filters).take maxPaths) ∧
    place (targetBase target) names ∉ selection.deselected := by
  intro selection
  have selected := resolve_selected library tree target excludes filters maxPaths
  refine ⟨⟨fun mem => ?_, fun first => ?_⟩, fun mem => ?_⟩
  · obtain ⟨other, inside, same⟩ := mem_map.1 mem
    rw [Finset.mem_sort, selected, mem_toFinset] at inside
    have found := (mem_keptCandidates.1 (mem_of_mem_take inside)).1
    rw [← place_inj ((targetCandidates_sound library tree target).1 other found).valid fits.valid same]
    exact inside
  · refine mem_map.2 ⟨names, ?_, rfl⟩
    rw [Finset.mem_sort, selected, mem_toFinset]
    exact first
  · obtain ⟨other, inside, same⟩ := mem_map.1 mem
    rw [Finset.mem_sort] at inside
    obtain ⟨otherFits, dropped⟩ := resolve_deselected inside
    rw [place_inj otherFits.valid fits.valid same, passes] at dropped
    cases dropped

theorem keepsEntry_iff (ext : Externals) {matched deselected : List Path} (observedAt : String)
    {entry : TrackedFileCheckpoint} (stays : entry.path ∉ deselected) :
    keepsEntry ext matched deselected observedAt entry = true ↔
      entry.path ∈ matched ∨ entry.pendingMultiline.isSome = true ∨
        (entry.lastSize.any fun size => decide (size ≤ entry.checkpointOffset)) = false ∧
          checkpointIsStale ext entry observedAt = false := by
  unfold keepsEntry
  by_cases matches_ : entry.path ∈ matched
  · simp [matches_]
  · rw [if_neg matches_, if_neg stays]
    cases pending : entry.pendingMultiline.isSome with
    | true => simp
    | false =>
      cases read : entry.lastSize.any fun size => decide (size ≤ entry.checkpointOffset) <;>
        simp [matches_]

end Pruning

/-- The batch of a scanning tick before its entries are pruned. -/
def unpruned (ext : Externals) (config : FileInputConfig) (env : FamilyEnv)
    (state : LogCheckpointState) (nextSeq : Nat) (orphan : Option PendingMultilineState)
    (selection : FamilySelection) : FamilyBatch :=
  (collectSelected ext config env (isFirstScan state) false selection { state with
    lastScanMs := some env.nowMs } (recordsFromPending ext config.fold
      (.new (config.gate env.toTickEnv) nextSeq) none orphan)).batch

theorem collectFamilyBatch_unpruned {ext : Externals} {config : FileInputConfig} {env : FamilyEnv}
    {selection : FamilySelection} {state : LogCheckpointState} {nextSeq : Nat}
    {orphan : Option PendingMultilineState} {collected : CollectedFamily}
    (scans : shouldScan config env state = true) (found : env.selection = .ok selection)
    (collects : (collectFamilyBatch ext config env state nextSeq orphan).2 = .ok collected) :
    let read := unpruned ext config env state nextSeq orphan selection
    collected.batch.checkpoints = read.checkpoints ∧ collected.batch.state.lastScanMs = some env.nowMs ∧
      collected.batch.state =
        pruneFamilyState ext read.state selection.selected selection.deselected env.observedAt := by
  simp only [collectFamilyBatch, scans, found, if_true, Except.ok.injEq] at collects
  subst collects
  exact ⟨rfl, readFiles_lastScanMs .., rfl⟩

/-! ## The commits -/

def Occupied (path : Path) (state : LogCheckpointState) : Prop :=
  ∃ entry ∈ state.files, entry.path = path

theorem pruned_occupied {entry : TrackedFileCheckpoint} {state : LogCheckpointState}
    (tracked : entry ∈ state.files)
    (only : ∀ other ∈ state.files, other.path = entry.path → other = entry) {ext : Externals}
    {matched deselected : List Path} {observedAt : String} :
    Occupied entry.path (pruneFamilyState ext state matched deselected observedAt) ↔
      keepsEntry ext matched deselected observedAt entry = true := by
  refine ⟨fun ⟨other, inside, same⟩ => ?_, fun keeps => ⟨entry, mem_filter.2 ⟨tracked, keeps⟩, rfl⟩⟩
  obtain ⟨inFiles, keeps⟩ := mem_filter.1 inside
  exact only other inFiles same ▸ keeps

theorem Upserted.occupied {test : TrackedFileCheckpoint → Bool} {write : Path → TrackedFileCheckpoint}
    {sourcePath path : Path} {files result : List TrackedFileCheckpoint}
    (done : Upserted test write sourcePath files result) (writes : ∀ path, (write path).path = path) :
    (∃ entry ∈ result, entry.path = path) ↔ (∃ entry ∈ files, entry.path = path) ∨
      sourcePath = path ∧ ∀ entry ∈ files, test entry = false := by
  cases done with
  | @replaced before after entry first =>
    have met := first.met
    simp only [mem_append, mem_cons, mem_filter, decide_eq_true_eq]
    grind
  | added skipped =>
    simp only [mem_append, mem_singleton, mem_filter, decide_eq_true_eq]
    grind

/-- One commit of a family tick. -/
def commitFile (env : TickEnv) (state : LogCheckpointState) (checkpoint : FamilyCheckpoint) :
    LogCheckpointState :=
  upsertCheckpoint env.fs state checkpoint.displayPath checkpoint.identity
    { checkpointOffset := checkpoint.checkpointOffset, observedAt := env.observedAt
      realPath := checkpoint.realPath, pendingMultiline := checkpoint.pendingMultiline
      rotatedFromPath := none }

/-- A commit of the path finds no entry of its file, and makes one. -/
def Enters (env : TickEnv) (path : Path) : LogCheckpointState → List FamilyCheckpoint → Prop
  | _, [] => False
  | state, checkpoint :: rest =>
    (checkpoint.displayPath = path ∧ ∀ entry ∈ state.files,
      upsertTest env.fs checkpoint.displayPath checkpoint.identity entry = false) ∨
    Enters env path (commitFile env state checkpoint) rest

theorem upsertFamily_occupied (env : TickEnv) (path : Path) (checkpoints : List FamilyCheckpoint) :
    ∀ state, (Occupied path (upsertFamily env state checkpoints) ↔
        Occupied path state ∨ Enters env path state checkpoints) ∧
      (upsertFamily env state checkpoints).lastScanMs = state.lastScanMs := by
  induction checkpoints with
  | nil => exact fun state => ⟨by simp [Occupied, upsertFamily, Enters], rfl⟩
  | cons checkpoint rest ih =>
    intro state
    have committed : Occupied path (commitFile env state checkpoint) ↔ _ :=
      (upsertCheckpoint_upserted ..).occupied fun _ => rfl
    obtain ⟨occupied, scanned⟩ := ih (commitFile env state checkpoint)
    refine ⟨occupied.trans ?_, scanned.trans ?_⟩
    · rw [Enters, ← or_assoc]
      exact or_congr_left committed
    · unfold commitFile upsertCheckpoint
      dsimp only
      split <;> rfl

/-- A path without an entry is read from its start. -/
theorem readOneFile_unoccupied {ext : Externals} {config : FileInputConfig} {env : TickEnv} {path : Path}
    {batch : FamilyBatch} {current : ObservedFileIdentity}
    (inspected : inspectPath env.fs path = .ok current) (new : ¬ Occupied path batch.state)
    (room : batch.exhausted = false) :
    readOneFile ext config env false path batch = readPresent ext config env path none 0 none batch := by
  have untracked : checkpointForPath batch.state path = none :=
    List.find?_eq_none.2 fun entry mem at_ => new ⟨entry, mem, by simpa using at_⟩
  simp [readOneFile, untracked, inspected, decideResume, room]

def crowdedName (n : Nat) : String := String.ofList (List.replicate (n + 1) 'a')

theorem crowdedName_inj {left right : Nat} (same : crowdedName left = crowdedName right) :
    left = right := by
  have length := congrArg (fun name => name.toList.length) same
  simpa [crowdedName] using length

theorem crowdedName_valid (n : Nat) : ValidName (crowdedName n) := by
  have shape : (crowdedName n).toList = List.replicate (n + 1) 'a' := String.toList_ofList
  refine ⟨fun same => ?_, fun mem => ?_, fun same => ?_, fun same => ?_⟩
  · rw [same] at shape
    cases shape
  · rw [shape] at mem
    exact absurd (eq_of_mem_replicate mem) (by decide)
  · rw [same, replicate_succ] at shape
    exact absurd (List.cons.inj shape).1 (by decide)
  · rw [same, replicate_succ] at shape
    exact absurd (List.cons.inj shape).1 (by decide)

/-- A directory with `count` files, the longest name first. -/
def crowded (count : Nat) : DirectoryTree :=
  .flat ((List.range count).reverse.map crowdedName) (fun name mem => by
      obtain ⟨n, -, rfl⟩ := mem_map.1 mem
      exact crowdedName_valid n)
    ((nodup_reverse.2 nodup_range).map fun _ _ same => crowdedName_inj same)

theorem crowded_metadata {count n : Nat} (inside : n < count) :
    (crowded count).metadata (join "/d" (crowdedName n)) = .ok .file :=
  DirectoryTree.flat_file (crowdedName_valid n) (mem_map.2 ⟨n, mem_reverse.2 (mem_range.2 inside), rfl⟩)

theorem crowded_kept (count : Nat) :
    keptCandidates .literal (crowded count) "/d" [] noFilters =
      (List.range count).reverse.map fun n => [crowdedName n] := by
  have found : targetCandidates .literal (crowded count) "/d" =
      (((List.range count).reverse.map crowdedName).filter fun name => decide
        ((crowded count).metadata (join "/d" name) = .ok .file)).map fun name => [name] := rfl
  have all : (((List.range count).reverse.map crowdedName).filter fun name => decide
      ((crowded count).metadata (join "/d" name) = .ok .file)) =
        (List.range count).reverse.map crowdedName := by
    refine filter_eq_self.2 fun name mem => ?_
    obtain ⟨n, inside, rfl⟩ := mem_map.1 mem
    exact decide_eq_true (crowded_metadata (mem_range.1 (mem_reverse.1 inside)))
  rw [keptCandidates, found, all, map_map]
  exact filter_eq_self.2 fun names _ => rfl

/-- The file that is listed last, of one line, is tracked and read to its end. -/
def crowdedEntry : TrackedFileCheckpoint :=
  { fileId := .inode 1 1, path := "/d/a", realPath := "", deviceId := some 1, inode := some 1
    fingerprint := none, lastSize := some 2, checkpointOffset := 2, checkpointProbe := none
    lastReadAt := none, lastCommitPointAt := none, rotatedFromPath := none, pendingMultiline := none }

def crowdedState : LogCheckpointState := ⟨"", "", some 0, none, [crowdedEntry]⟩

/-- There is room for the tracked file only. -/
def crowdedConfig : FileInputConfig := { FileInputConfig.small "/d" with maxFiles := 1 }

def crowdedTick : TickEnv := ⟨.lone [120, newline], "", true⟩

def crowdedEnv (selection : FamilySelection) : FamilyEnv :=
  { crowdedTick with nowMs := 0, selection := .ok selection }

theorem crowdedEntry_path : crowdedEntry.path = join "/d" (crowdedName 0) := by decide

theorem crowded_fits {count n : Nat} (inside : n < count) :
    FitsTarget .literal (crowded count) "/d" [crowdedName n] := by
  unfold FitsTarget
  rw [if_neg (by decide)]
  exact ⟨crowdedName n, crowdedName_valid n, rfl, crowded_metadata inside⟩

/-- A crowded directory is scanned without an error. -/
theorem crowded_resolves (count maxPaths : Nat) : ∃ selection,
    resolveFamilyPaths .literal (crowded count) "/d" [] noFilters maxPaths = .ok selection := by
  have ends : ∀ (names : List String) (scan : Scan), ∃ next, scanNames maxPaths (fun name scan =>
      if (crowded count).metadata (join "/d" name) = .ok .file then
        .ok (scan.consider ⟨.literal, [], noFilters⟩ "/d" [name]) else .ok scan) none names scan =
        .ok next := by
    intro names
    induction names with
    | nil => exact fun scan => ⟨scan, rfl⟩
    | cons name more ih =>
      intro scan
      unfold scanNames
      split
      · exact ⟨scan, rfl⟩
      · by_cases file : (crowded count).metadata (join "/d" name) = .ok .file
        · simp only [file, if_true]
          exact ih _
        · simp only [file, if_false]
          exact ih _
  obtain ⟨scan, ran⟩ := ends ((List.range count).reverse.map crowdedName) .empty
  refine ⟨.ofScan "/d" scan, ?_⟩
  have listed : resolveExplicitOrDir (crowded count) ⟨.literal, [], noFilters⟩ maxPaths "/d" =
      .ok scan := ran
  have plain : hasGlob "/d" = false := by decide
  rw [resolveFamilyPaths, if_neg (by decide), mapM_nil]
  dsimp only [pure, Except.pure]
  rw [plain, if_neg Bool.false_ne_true, listed]

theorem admitPaths_full {config : FileInputConfig} {admission : Admission}
    (full : config.maxFiles ≤ admission.working.length) (fs : FileSystem) (paths : List Path) :
    (admitPaths config fs paths admission).working = admission.working := by
  induction paths with
  | nil => rfl
  | cons path rest ih =>
    rw [admitPaths]
    split
    · exact ih
    · rfl

/-- What the scan makes of the file that is listed last. -/
theorem crowded_selected {count : Nat} (inside : 0 < count) : ∃ selection,
    resolveFamilyPaths .literal (crowded count) "/d" [] noFilters (scanCap 1) = .ok selection ∧
      (crowdedEntry.path ∈ selection.selected ↔
        [crowdedName 0] ∈ (keptCandidates .literal (crowded count) "/d" [] noFilters).take (scanCap 1)) ∧
      crowdedEntry.path ∉ selection.deselected := by
  obtain ⟨selection, ran⟩ := crowded_resolves count (scanCap 1)
  obtain ⟨others, scan, again, same, considered, -⟩ := resolve_spec (by decide) ran
  rw [considered] at same
  obtain rfl : [] = others := Except.ok.inj again
  obtain ⟨selected, stays⟩ := @selected_iff _ _ _ [] noFilters (scanCap 1) _ (crowded_fits inside) rfl
  have at_ : place (targetBase "/d") [crowdedName 0] = crowdedEntry.path := crowdedEntry_path.symm
  rw [← same, at_] at selected stays
  exact ⟨selection, ran, selected, stays⟩

/-- The tracked file is read and found unchanged. -/
def crowdedBatch : FamilyBatch :=
  readFiles plainExternals crowdedConfig crowdedTick false ["/d/a"]
    (.new crowdedState (.new (crowdedConfig.gate crowdedTick) 0) crowdedConfig.readLimits)

theorem crowdedBatch_idle : crowdedBatch.checkpoints = [] ∧ crowdedBatch.state = crowdedState := by
  decide +kernel

/-- The tick over the crowded directory reads the tracked file only. -/
theorem crowded_unpruned {selection : FamilySelection}
    (stays : crowdedEntry.path ∉ selection.deselected) :
    unpruned plainExternals crowdedConfig (crowdedEnv selection) crowdedState 0 none selection =
      crowdedBatch := by
  have tracked : (trackedPaths crowdedState selection).working = ["/d/a"] := by
    simp [trackedPaths, crowdedState, stays]
    rfl
  have working : (admitPaths crowdedConfig crowdedTick.fs selection.selected
      (trackedPaths crowdedState selection)).working = ["/d/a"] :=
    (admitPaths_full (by rw [tracked]; decide) ..).trans tracked
  unfold crowdedBatch
  rw [← working]
  rfl

end WistAgentd.Telemetry

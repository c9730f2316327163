/- # Telemetry.Files.TickAccounting -- every folded record of a tick is accounted for

A tick folds lines and open blocks of several sources; each goes through the noise filter and the
gate on its own, and all share the counter and the totals of the batch.

* `Accounts`: consecutive numbers, and folded = let through + dropped + withheld.
* `tickOutlet`: the batch when the collection ends, also when it ends with an error.
* `Walk`: what is kept when lines are folded and filtered; `Walk.steps` for a family.
* `familyOutlet_steps`, `singleOutlet_keeps`: how the two kinds of collection come to their batch.
* `tick_accounting`: the numbers and totals of every tick. -/
import WistAgentd.Telemetry.Files.FamilySteps
import WistAgentd.Telemetry.Files.InputRun
import WistAgentd.Telemetry.Files.ReadRefinement

namespace WistAgentd.Telemetry
open Theory.Crash
open List
set_option autoImplicit false

variable (ext : Externals) (config : FileInputConfig)

/-- The records let through carry the numbers from `first` on, and every folded record was let
through, dropped as noise or withheld. -/
structure Accounts (first : Nat) (out : Outlet) : Prop where
  seqs : out.records.map TelemetryRecord.seq = List.range' first out.records.length
  nextSeq : out.nextSeq = first + out.records.length
  folded : out.provenance.length = out.records.length + out.droppedNoise + out.withheld.records

theorem parseDelimitedRecords_length (gate : UplinkGate) (sourcePath : Path) (records : List Record)
    (seq : Nat) :
    (parseDelimitedRecords ext gate sourcePath records seq).length = records.length := by
  induction records generalizing seq with
  | nil => rfl
  | cons record rest ih => exact congrArg (· + 1) (ih (seq + 1))

theorem parseDelimitedRecords_seqs (gate : UplinkGate) (sourcePath : Path) (records : List Record)
    (seq : Nat) :
    (parseDelimitedRecords ext gate sourcePath records seq).map TelemetryRecord.seq =
      List.range' seq records.length := by
  induction records generalizing seq with
  | nil => rfl
  | cons record rest ih => exact congrArg (seq :: ·) (ih (seq + 1))

theorem accounts_new (gate : UplinkGate) (first : Nat) : Accounts first (Outlet.new gate first) :=
  ⟨rfl, rfl, rfl⟩

theorem Accounts.passes {first : Nat} {out : Outlet} (accounts : Accounts first out) (ext : Externals)
    (node : Option NodeId) (lines : List RawFileLine) (sourcePath : Path) (folded : List Record)
    (dropIfContains : List Bytes) : Accounts first
      ((out.log node lines folded).admitWithNoiseFilter ext sourcePath folded dropIfContains) := by
  have kept := length_filter_le (fun record => !isNoise record.body dropIfContains) folded
  have split : ∀ records : List Record, (records.filter fun record => !withholds record).length +
      (records.filter withholds).length = records.length := by
    intro records
    rw [← countP_eq_length_filter, ← countP_eq_length_filter, Nat.add_comm,
      length_eq_countP_add_countP withholds]
    simp
  have gated := split (folded.filter fun record => !isNoise record.body dropIfContains)
  refine ⟨?_, ?_, ?_⟩
  · simp only [Outlet.admitWithNoiseFilter, Outlet.admit, Outlet.log, map_append, accounts.seqs,
      parseDelimitedRecords_seqs, length_append, parseDelimitedRecords_length, accounts.nextSeq]
    exact List.range'_append_1
  · simp only [Outlet.admitWithNoiseFilter, Outlet.admit, Outlet.log, length_append,
      parseDelimitedRecords_length, accounts.nextSeq, Nat.add_assoc]
  · have folds := accounts.folded
    simp only [Outlet.admitWithNoiseFilter, Outlet.admit, Outlet.log, length_append, length_map,
      parseDelimitedRecords_length]
    omega

/-! ## The batch of a tick -/

/-- The outlet of `collect_read_batch` when it returns. -/
def singleOutlet (env : TickEnv) (state : LogCheckpointState) (nextSeq : Nat) : Outlet :=
  let out := Outlet.new (config.gate env) nextSeq
  match inspectPath env.fs config.sourcePath with
  | .error _ => out
  | .ok current =>
    let tracked := checkpointForPath state config.sourcePath
    let resume := decideResume env.fs config.sourcePath current tracked config.startupPosition
    let start := ReadBatch.new { state with pendingMultiline := none } out state.pendingMultiline
      resume
    match collectRotatedTail ext config env.fs tracked start with
    | .error _ => out
    | .ok drained =>
      let ready := sealBeforeSource ext config (tracked.bind TrackedFileCheckpoint.node) drained
      match readFromOffset env.fs config.sourcePath resume.startOffset config.readLimits with
      | .error _ => ready.out
      | .ok read => (readSource ext config env ready read).out

/-- The outlet of `collect_family_batch` when it returns. -/
def familyOutlet (env : FamilyEnv) (state : LogCheckpointState) (nextSeq : Nat)
    (orphan : Option PendingMultilineState) : Outlet :=
  match (collectFamilyBatch ext config env state nextSeq orphan).2 with
  | .error _ => recordsFromPending ext config.fold (.new (config.gate env.toTickEnv) nextSeq) none orphan
  | .ok collected => collected.batch.out

def tickOutlet (kind : InputKind) (tick : Tick) (state : LogCheckpointState) : Outlet :=
  match kind with
  | .single => singleOutlet ext config tick.env.toTickEnv state tick.nextSeq
  | .family =>
    let migrated := migrateInputPendingToFiles state
    familyOutlet ext config tick.env migrated.1 tick.nextSeq migrated.2

theorem collectReadBatch_outlet (env : TickEnv) (state : LogCheckpointState) (nextSeq : Nat) :
    (collectReadBatch ext config env state nextSeq).1 =
        (singleOutlet ext config env state nextSeq).nextSeq ∧
      ∀ batch, (collectReadBatch ext config env state nextSeq).2 = .ok batch →
        batch.out = singleOutlet ext config env state nextSeq := by
  unfold collectReadBatch singleOutlet
  cases inspectPath env.fs config.sourcePath with
  | error err => exact ⟨rfl, fun _ failed => nomatch failed⟩
  | ok current =>
    dsimp only
    cases collectRotatedTail ext config env.fs _ _ with
    | error err => exact ⟨rfl, fun _ failed => nomatch failed⟩
    | ok drained =>
      cases readFromOffset env.fs config.sourcePath _ config.readLimits with
      | error err => exact ⟨rfl, fun _ failed => nomatch failed⟩
      | ok read =>
        refine ⟨rfl, fun batch ran => ?_⟩
        rw [← Except.ok.inj ran]

theorem collectFamilyBatch_outlet (env : FamilyEnv) (state : LogCheckpointState) (nextSeq : Nat)
    (orphan : Option PendingMultilineState) :
    (collectFamilyBatch ext config env state nextSeq orphan).1 =
        (familyOutlet ext config env state nextSeq orphan).nextSeq ∧
      ∀ collected, (collectFamilyBatch ext config env state nextSeq orphan).2 = .ok collected →
        collected.batch.out = familyOutlet ext config env state nextSeq orphan := by
  refine ⟨?_, fun collected ran => by rw [familyOutlet, ran]⟩
  unfold familyOutlet collectFamilyBatch
  split
  · cases env.selection with
    | error err | ok selection => rfl
  · rfl

/-! ## What a collection keeps -/

theorem insertPath_length (path : Path) (paths : List Path) :
    (insertPath path paths).length ≤ paths.length + 1 := by
  fun_induction insertPath path paths <;> simp_all

theorem foldl_insertPath_length (paths working : List Path) :
    (paths.foldl (fun working path => insertPath path working) working).length ≤
      paths.length + working.length := by
  induction paths generalizing working with
  | nil => simp
  | cons path rest ih =>
    have := ih (insertPath path working)
    have := insertPath_length path working
    rw [foldl_cons, length_cons]
    omega

theorem trackedPaths_length (state : LogCheckpointState) (selection : FamilySelection) :
    (trackedPaths state selection).working.length ≤ state.files.length := by
  refine (foldl_insertPath_length ..).trans ?_
  rw [length_map]
  exact length_filter_le ..

/-- The working set grows only while there is room in it. -/
theorem admitPaths_length (fs : FileSystem) (paths : List Path) (admission : Admission) :
    (admitPaths config fs paths admission).working.length ≤
      max config.maxFiles admission.working.length := by
  fun_induction admitPaths config fs paths admission with
  | case6 path rest admission _ room _ _ ih =>
    have := insertPath_length path admission.working
    dsimp only at ih
    omega
  | _ => first | assumption | exact Nat.le_max_right _ _

/-- A path of the working set uses up one open block at most. -/
theorem collectSelected_steps (env : FamilyEnv) (firstScan scanned : Bool) (selection : FamilySelection)
    (state : LogCheckpointState) (out : Outlet) : ∃ final used,
      Steps ext config env.toTickEnv used ⟨state.lastScanMs, out, config.readLimits⟩ final ∧
      final.out = (collectSelected ext config env firstScan scanned selection state out).batch.out ∧
      used ≤ max config.maxFiles state.files.length := by
  obtain ⟨used, few, steps⟩ := readFiles_steps ext config env.toTickEnv firstScan
    (admitPaths config env.fs selection.selected (trackedPaths state selection)).working
    (.new state out config.readLimits)
  refine ⟨_, used, steps, by unfold collectSelected; split <;> rfl, few.trans ?_⟩
  have admitted := admitPaths_length config env.fs selection.selected (trackedPaths state selection)
  have tracked := trackedPaths_length state selection
  omega

/-- The batch of a family, whether or not its scan failed: the orphan is sealed first. -/
theorem familyOutlet_steps (env : FamilyEnv) (state : LogCheckpointState) (nextSeq : Nat)
    (orphan : Option PendingMultilineState) : ∃ scanned final used,
      Steps ext config env.toTickEnv used ⟨scanned, recordsFromPending ext config.fold
        (.new (config.gate env.toTickEnv) nextSeq) none orphan, config.readLimits⟩ final ∧
      final.out = familyOutlet ext config env state nextSeq orphan ∧
      used ≤ max config.maxFiles state.files.length := by
  unfold familyOutlet collectFamilyBatch
  split
  · exact ⟨none, _, 0, .refl, rfl, Nat.zero_le _⟩
  · rename_i collected ran
    split at ran
    · split at ran
      · cases ran
      · cases ran
        exact ⟨_, collectSelected_steps ..⟩
    · cases ran
      exact ⟨_, collectSelected_steps ..⟩

/-- What a single-path collection keeps of the outlet and the open block. -/
theorem singleOutlet_keeps {J : Outlet → Option PendingMultilineState → Prop}
    (reads : ∀ {out pending} node path lines, J out pending →
      J (recordsFromRead ext config.fold out node path lines pending).1
        (recordsFromRead ext config.fold out node path lines pending).2)
    (seals : ∀ {out pending} node, J out pending →
      J (recordsFromPending ext config.fold out node pending) none)
    (rebinds : ∀ {out pending} old new, J out pending →
      J out (rebindPendingSourceOnRotate pending old new))
    {env : TickEnv} {state : LogCheckpointState} {nextSeq : Nat}
    (new : J (.new (config.gate env) nextSeq) state.pendingMultiline) :
    ∃ pending, J (singleOutlet ext config env state nextSeq) pending := by
  unfold singleOutlet
  dsimp only
  split
  · exact ⟨_, new⟩
  · split
    · exact ⟨_, new⟩
    · rename_i drained tail
      have drainedHeld : J drained.out drained.pendingMultiline := by
        unfold collectRotatedTail readRotatedTail at tail
        split at tail
        · split at tail
          · cases tail
          · cases tail
            exact new
          · split at tail
            · cases tail
            · cases tail
              exact reads _ _ _ (rebinds _ _ new)
        · cases tail
          exact new
      have ready : ∀ node, J (sealBeforeSource ext config node drained).out
          (sealBeforeSource ext config node drained).pendingMultiline := by
        intro node
        unfold sealBeforeSource flushPendingIfSourceChanges
        split
        · exact seals _ drainedHeld
        · split
          · exact seals _ drainedHeld
          · exact drainedHeld
      split
      · exact ⟨_, ready _⟩
      · unfold readSource
        dsimp only
        split
        · exact ⟨_, seals _ (reads _ _ _ (ready _))⟩
        · exact ⟨_, reads _ _ _ (ready _)⟩

/-- The bytes of a line, newline included. -/
def RawFileLine.span (line : RawFileLine) : Nat := line.endOffset - line.startOffset

def spanned (lines : List RawFileLine) : Nat := (lines.map RawFileLine.span).sum

/-- What one read takes from a budget; its last line may go beyond. -/
structure Fits (limits : ReadLimits) (lines : List RawFileLine) (taken : Nat) : Prop where
  count : lines.length ≤ limits.maxLines
  bytes : taken = spanned lines
  room : ∀ front last, lines = front ++ [last] → spanned front < limits.maxBytes

/-- A property of the outlet and the budget left that is kept when lines the budget has room for are
folded, and what comes of them goes through the filter and the gate. -/
def Walk (ext : Externals) (J : Outlet → ReadLimits → Prop) : Prop :=
  ∀ ⦃out limits⦄ node lines taken sourcePath folded dropIfContains, Fits limits lines taken →
    J out limits → J
      ((out.log node lines folded).admitWithNoiseFilter ext sourcePath folded dropIfContains)
      { limits with maxLines := limits.maxLines - lines.length, maxBytes := limits.maxBytes - taken }

theorem takeLines_length (limits : ReadLimits) (blocks lines : List Bytes) (count consumed : Nat) :
    (takeLines limits blocks count consumed lines).length ≤ limits.maxLines - count := by
  induction lines generalizing count consumed with
  | nil => exact Nat.zero_le _
  | cons line rest ih =>
    unfold takeLines
    split
    · rename_i taken
      simp only [admits, Bool.and_eq_true, decide_eq_true_eq] at taken
      have later := ih (count + 1) (consumed + line.length)
      rw [length_cons]
      omega
    · exact Nat.zero_le _

theorem readFromOffset_length {fs : FileSystem} {path : Path} {startOffset : Nat} {limits : ReadLimits}
    {read : ReadFromOffset} (ran : readFromOffset fs path startOffset limits = .ok read) :
    read.lines.length ≤ limits.maxLines := by
  obtain ⟨node, opened, -⟩ := readFromOffset_ok ran
  rw [(readFromOffset_eq opened ran).2.1, (readContent_eq ..).1, rawLines_length]
  exact takeLines_length _ _ _ 0 0

theorem rawLines_spanned (maxLineBytes : Nat) (lines : List Bytes) :
    ∀ offset, spanned (rawLines maxLineBytes offset lines) = lines.flatten.length := by
  induction lines with
  | nil => exact fun _ => rfl
  | cons line rest ih =>
    intro offset
    have later := ih (offset + line.length)
    unfold spanned at later ⊢
    rw [rawLines, map_cons, sum_cons, later, flatten_cons, length_append,
      RawFileLine.span, Nat.add_sub_cancel_left]

theorem readFromOffset_fits {fs : FileSystem} {path : Path} {startOffset : Nat} {limits : ReadLimits}
    {read : ReadFromOffset} (ran : readFromOffset fs path startOffset limits = .ok read) :
    Fits limits read.lines (read.committedEndOffset - startOffset) := by
  have count := readFromOffset_length ran
  obtain ⟨node, opened, -⟩ := readFromOffset_ok ran
  obtain ⟨-, readLines, readEnd⟩ := readFromOffset_eq opened ran
  obtain ⟨lines, committed, -⟩ := readContent_eq fs.chunking (fs.content node) startOffset limits
  have inside := takeLines_flatten_le limits (fs.chunking.cut ((fs.content node).drop
    (min startOffset (fs.content node).length))) ((fs.content node).drop
      (min startOffset (fs.content node).length))
  rw [length_drop] at inside
  rw [lines] at readLines
  rw [committed] at readEnd
  generalize takenIs : takeLines limits _ 0 0 _ = taken at readLines readEnd inside
  refine ⟨count, ?_, fun front last split => ?_⟩
  · -- behind the end of the file there is nothing to take
    rw [readLines, readEnd, rawLines_spanned]
    omega
  · rw [readLines] at split
    rcases eq_nil_or_concat taken with rfl | ⟨early, line, rfl⟩
    · exact absurd split.symm (by simp [rawLines])
    rw [concat_eq_append] at split takenIs
    rw [rawLines_append] at split
    obtain ⟨rfl, -⟩ := append_inj' split rfl
    have admitted := (takeLines_at takenIs).1
    simp only [admits, Nat.zero_add, Bool.and_eq_true, decide_eq_true_eq] at admitted
    rw [rawLines_spanned]
    exact admitted.1.2

section Walk

variable {ext : Externals} {J : Outlet → ReadLimits → Prop} (walk : Walk ext J)
  {config : FileInputConfig} {env : TickEnv}

include walk

theorem Walk.seals {fold : FoldConfig} {out : Outlet} {limits : ReadLimits} (node : Option NodeId)
    (pending : Option PendingMultilineState) (held : J out limits) :
    J (recordsFromPending ext fold out node pending) limits := by
  cases pending with
  | none => exact held
  | some state => exact walk node [] 0 _ _ _ ⟨Nat.zero_le _, rfl, by simp⟩ held

theorem Walk.step {used : Nat} {desk next : Desk} (step : Step ext config env used desk next)
    (held : J desk.out desk.budget) : J next.out next.budget := by
  cases step with
  | seals node pending => exact walk.seals node pending held
  | reads _ _ ran =>
    dsimp only [foldRead]
    split
    · exact walk.seals _ _ (walk _ _ _ _ _ _ (readFromOffset_fits ran) held)
    · exact walk _ _ _ _ _ _ (readFromOffset_fits ran) held

theorem Walk.steps {used : Nat} {desk next : Desk} (steps : Steps ext config env used desk next)
    (held : J desk.out desk.budget) : J next.out next.budget := by
  induction steps with
  | refl => exact held
  | tail _ step ih => exact walk.step step (ih held)

theorem familyOutlet_walk {env : FamilyEnv} {state : LogCheckpointState} {nextSeq : Nat}
    {orphan : Option PendingMultilineState}
    (held : J (.new (config.gate env.toTickEnv) nextSeq) config.readLimits) :
    ∃ left, J (familyOutlet ext config env state nextSeq orphan) left := by
  obtain ⟨_, final, _, steps, ends, -⟩ := familyOutlet_steps ext config env state nextSeq orphan
  rw [← ends]
  exact ⟨_, walk.steps steps (walk.seals none orphan held)⟩

end Walk

/-! ## The budget of a family tick -/

/-- Not more lines than allowed, and not more bytes, but for what the last line goes beyond. -/
def WithinBudget (limits : ReadLimits) (fed : List FedLine) : Prop :=
  fed.length ≤ limits.maxLines ∧
    (spanned (fed.map FedLine.line) ≤ limits.maxBytes ∨
      ∃ front last, fed = front ++ [last] ∧ spanned (front.map FedLine.line) < limits.maxBytes)

theorem spanned_append (front back : List RawFileLine) :
    spanned (front ++ back) = spanned front + spanned back := by
  simp [spanned]

/-- What was read and what is left make up the budget; once a line went beyond, nothing is left. -/
theorem budget_walk (total : ReadLimits) : Walk ext fun out left =>
    out.fed.length + left.maxLines ≤ total.maxLines ∧
      (spanned (out.fed.map FedLine.line) + left.maxBytes ≤ total.maxBytes ∨ left.maxBytes = 0 ∧
        ∃ front last, out.fed = front ++ [last] ∧
          spanned (front.map FedLine.line) < total.maxBytes) := by
  intro out limits node lines taken sourcePath folded dropIfContains fits held
  dsimp only [Outlet.admitWithNoiseFilter, Outlet.admit, Outlet.log]
  have own : (lines.map (FedLine.mk node)).map FedLine.line = lines := by
    simp [Function.comp_def]
  have count := fits.count
  refine ⟨by simp only [length_append, length_map]; omega, ?_⟩
  rcases eq_nil_or_concat lines with rfl | ⟨front, last, rfl⟩
  · have none_ : taken = 0 := fits.bytes
    simpa [none_] using held.2
  · rw [concat_eq_append] at own fits ⊢
    have room := fits.room front last rfl
    have spent := fits.bytes
    rcases held.2 with within | ⟨empty, -⟩
    · by_cases within_ : taken ≤ limits.maxBytes
      · left
        rw [map_append, own, spanned_append, ← spent]
        show _ + (limits.maxBytes - taken) ≤ _
        omega
      · refine .inr ⟨by show limits.maxBytes - taken = 0; omega,
          out.fed ++ front.map (FedLine.mk node), ⟨node, last⟩, by simp, ?_⟩
        have front_ : (front.map (FedLine.mk node)).map FedLine.line = front := by
          simp [Function.comp_def]
        rw [map_append, front_, spanned_append]
        omega
    · omega

section

variable (env : FamilyEnv) (state : LogCheckpointState) (nextSeq : Nat)
  (orphan : Option PendingMultilineState)

theorem familyOutlet_within :
    WithinBudget config.readLimits (familyOutlet ext config env state nextSeq orphan).fed := by
  obtain ⟨left, count, bytes⟩ := @familyOutlet_walk _ _ (budget_walk ext config.readLimits) config env
    state nextSeq orphan ⟨by simp [Outlet.new], .inl (by simp [Outlet.new, spanned])⟩
  refine ⟨by omega, bytes.imp (fun within => ?_) And.right⟩
  omega

/-- **The budget of a family tick**, whatever files it goes through, those that were renamed away
included: what a read commits is what its lines span, all the lines together are not more than allowed,
and neither are their bytes but for what one line goes beyond. -/
theorem family_tick_budget :
    WithinBudget config.readLimits (familyOutlet ext config env state nextSeq orphan).fed ∧
      ∀ fs path startOffset limits read, readFromOffset fs path startOffset limits = .ok read →
        read.committedEndOffset - startOffset = spanned read.lines :=
  ⟨familyOutlet_within ext config env state nextSeq orphan,
    fun _ _ _ _ _ ran => (readFromOffset_fits ran).bytes⟩

end

/-! ## Accounting -/

theorem accounts_walk (first : Nat) : Walk ext fun out _ => Accounts first out :=
  fun _ _ node lines _ sourcePath folded dropIfContains _ held =>
    held.passes ext node lines sourcePath folded dropIfContains

theorem singleOutlet_accounts (env : TickEnv) (state : LogCheckpointState) (nextSeq : Nat) :
    Accounts nextSeq (singleOutlet ext config env state nextSeq) := by
  obtain ⟨-, accounts⟩ := @singleOutlet_keeps ext config (fun out _ => Accounts nextSeq out)
    (fun _ _ _ held => held.passes ext _ _ _ _ _)
    (fun node held => @Walk.seals _ _ (accounts_walk ext nextSeq) _ _ config.readLimits node _ held)
    (fun _ _ held => held) env state nextSeq (accounts_new _ _)
  exact accounts

theorem tickOutlet_accounts (kind : InputKind) (tick : Tick) (state : LogCheckpointState)
    : Accounts tick.nextSeq (tickOutlet ext config kind tick state) := by
  cases kind with
  | single => exact singleOutlet_accounts ext config tick.env.toTickEnv state tick.nextSeq
  | family =>
    obtain ⟨-, accounts⟩ := @familyOutlet_walk _ _ (accounts_walk ext tick.nextSeq) config tick.env
      (migrateInputPendingToFiles state).1 _ (migrateInputPendingToFiles state).2 (accounts_new _ _)
    exact accounts

/-! ## The tick -/

/-- The counter and the log of folded records are these. -/
def Counted (nextSeq : Nat) (provenance : List Provenance) (w : World) : Prop :=
  w.nextSeq = nextSeq ∧ w.provenance = provenance

theorem deliveryBlind_counted (nextSeq : Nat) (provenance : List Provenance) :
    DeliveryBlind (Counted nextSeq provenance) where
  depart _ _ _ held := held
  accept _ _ held := held
  appendBad _ _ _ held := held
  appendSpool _ _ _ held := held
  clearSpool _ _ held := held

/-- What a tick reports against the outlet of its batch: nothing was collected, or the counter is the
outlet's and the totals of a tick that returns are too. -/
def TickReport (before : World) (out : Outlet) (outcome : Option ProcessOutcome)
    (after : World) : Prop :=
  (Counted before.nextSeq before.provenance after ∧ ∀ report ∈ outcome, report.paused = true) ∨
    after.nextSeq = out.nextSeq ∧ ∀ report ∈ outcome,
      after.provenance = before.provenance ++ out.provenance ∧
        report.recordsProcessed = out.records.length ∧ report.droppedNoise = out.droppedNoise ∧
        report.withheld = out.withheld

section Tick

variable {A : Event Effect World IoError → Prop} {ext : Externals} {sink : Sink}
  {config : FileInputConfig} {before : World} {out : Outlet}

theorem deliverAndStoreSeq_counts {I : World → Prop} (blind : DeliveryBlind I)
    (seqBlind : ∀ w mark, I w → I { w with seqFile := mark }) (records : List TelemetryRecord) :
    TripleOr A I (deliverAndStoreSeq ext sink config records)
      (fun delivery w => I w ∧ delivery.recordsProcessed = records.length) I := by
  have counts : TripleOr A I
      (deliverRecords ext sink config.inputId config.inMemoryBudgetBytes records)
      (fun delivery w => I w ∧ delivery.recordsProcessed = records.length) I := by
    refine triple_bind hasRecords_keeps fun present => ?_
    cases present with
    | true =>
      exact triple_bind (keeps_bind (appendRecords_keeps blind) fun _ => keeps_pure)
        fun _ => triple_pure fun w held => ⟨held, rfl⟩
    | false =>
      exact triple_bind (keeps_bind (appendRecords_keeps blind) fun _ =>
        keeps_bind (sendOrSpool_keeps blind) fun _ => keeps_pure)
        fun _ => triple_pure fun w held => ⟨held, rfl⟩
  refine triple_bind counts fun delivery => ?_
  split
  · refine triple_bind (Q := fun _ w => I w ∧ delivery.recordsProcessed = records.length)
      (triple_get fun _ => id) fun v => ?_
    refine triple_bind (Q := fun _ w => I w ∧ delivery.recordsProcessed = records.length) ?_
      fun _ => triple_pure fun _ => id
    refine triple_bind (Q := fun _ w => I w ∧ delivery.recordsProcessed = records.length)
      (tripleOr_effect (fun w held => ⟨seqBlind w _ held.1, held.2⟩) fun _ held => held.1) fun _ => ?_
    exact tripleOr_effect (fun _ => id) fun _ held => held.1
  · exact triple_pure fun _ => id

/-- The report of a tick whose collection leaves `out`. -/
theorem Stages.report {γ : Type} {stages : LogCheckpointState → Stages γ} {env : TickEnv}
    (counter : ((stages (loadLogState config env before)).collect before.nextSeq).1 = out.nextSeq)
    (outlet : ∀ batch, ((stages (loadLogState config env before)).collect before.nextSeq).2 = .ok batch →
      (stages (loadLogState config env before)).out batch = out)
    (counts : ∀ batch delivery replayed,
      let report := (stages (loadLogState config env before)).outcome batch delivery replayed
      let out := (stages (loadLogState config env before)).out batch
      report.recordsProcessed = delivery.recordsProcessed ∧ report.droppedNoise = out.droppedNoise ∧
        report.withheld = out.withheld) (fates : List (Fate IoError)) :
    TickReport before out (Stages.tick stages ext sink config env fates before).outcome.value?
      (Stages.tick stages ext sink config env fates before).state := by
  have none_ : ∀ w : World, w.nextSeq = out.nextSeq → TickReport before out none w :=
    fun w same => .inr ⟨same, by simp⟩
  refine Stages.result (F := Counted before.nextSeq before.provenance)
    (I := fun w => w.provenance = before.provenance)
    (J := fun _ => Counted out.nextSeq (before.provenance ++ out.provenance)) ?_
    (fun w held => ⟨.inl ⟨held, by simp⟩, fun report paused => .inl ⟨held, by simp [paused]⟩⟩)
    (fun w _ => none_ _ counter) (fun batch w collected held => ⟨counter, ?_⟩)
    (fun batch replayed collected => ?_) fates
  · refine (replaySpoolIfPresent_keeps (deliveryBlind_counted before.nextSeq
      before.provenance)).before ?_
    rintro w rfl
    exact ⟨rfl, rfl⟩
  · rw [← outlet batch collected, ← held]
    rfl
  · have same := outlet batch collected
    have reports := counts batch
    generalize stages (loadLogState config env before) = stages at *
    refine Stages.settle_ends (C := fun delivery w => Counted out.nextSeq (before.provenance ++
        out.provenance) w ∧ delivery.recordsProcessed = (stages.out batch).records.length)
      (deliverAndStoreSeq_counts (deliveryBlind_counted _ _) (fun _ _ => id) _)
      (fun w held => none_ w held.1) (fun delivery => (storeChanged_keeps (fun _ _ => id)
        _).cut fun w held => none_ w held.1.1)
      fun delivery w held => ⟨none_ w held.1.1, .inr ⟨held.1.1, fun report mem => ?_⟩⟩
    obtain ⟨processed, dropped, withheld⟩ := reports delivery replayed
    cases mem
    rw [same] at held dropped withheld
    exact ⟨held.1.2, processed.trans held.2, dropped, withheld⟩

end Tick

theorem tick_report (kind : InputKind) (tick : Tick) (w : World) :
    let before := { w with nextSeq := tick.nextSeq }
    let result := tickProgram ext config kind tick tick.fates before
    TickReport before (tickOutlet ext config kind tick (loadLogState config tick.env.toTickEnv w))
      result.outcome.value? result.state := by
  intro before
  cases kind with
  | single =>
    obtain ⟨counter, outlet⟩ := collectReadBatch_outlet ext config tick.env.toTickEnv
      (loadLogState config tick.env.toTickEnv w) tick.nextSeq
    rw [tickProgram, processOnce_stages]
    exact Stages.report counter outlet (fun _ _ _ => ⟨rfl, rfl, rfl⟩) tick.fates
  | family =>
    obtain ⟨counter, outlet⟩ := collectFamilyBatch_outlet ext config tick.env
      (migrateInputPendingToFiles (loadLogState config tick.env.toTickEnv w)).1 tick.nextSeq
      (migrateInputPendingToFiles (loadLogState config tick.env.toTickEnv w)).2
    rw [tickProgram, processFamilyOnce_stages]
    exact Stages.report counter outlet (fun _ _ _ => ⟨rfl, rfl, rfl⟩) tick.fates

/-- **Tick accounting**, for both kinds of input and however the tick ends. The records let through
carry consecutive numbers from the counter on, and folded is let through plus dropped plus withheld.
Unless nothing was collected, the counter advances by the number of records let through, and a tick
that returns reports these totals. -/
theorem tick_accounting (kind : InputKind) (tick : Tick) (w : World) :
    let out := tickOutlet ext config kind tick (loadLogState config tick.env.toTickEnv w)
    let result := tickProgram ext config kind tick tick.fates { w with nextSeq := tick.nextSeq }
    out.records.map TelemetryRecord.seq = List.range' tick.nextSeq out.records.length ∧
      out.provenance.length = out.records.length + out.droppedNoise + out.withheld.records ∧
      ((result.state.nextSeq = tick.nextSeq ∧ result.state.provenance = w.provenance ∧
          ∀ report, result.outcome = .ok report → report.paused = true) ∨
        result.state.nextSeq = tick.nextSeq + out.records.length ∧
          ∀ report, result.outcome = .ok report →
            result.state.provenance = w.provenance ++ out.provenance ∧
              report.recordsProcessed = out.records.length ∧
              report.droppedNoise = out.droppedNoise ∧ report.withheld = out.withheld) := by
  intro out result
  have accounts : Accounts tick.nextSeq out := tickOutlet_accounts ext config kind tick _
  have report := tick_report ext config kind tick w
  refine ⟨accounts.seqs, accounts.folded, ?_⟩
  rcases report with ⟨⟨counter, folded⟩, paused⟩ | ⟨counter, reports⟩
  · exact .inl ⟨counter, folded, fun report ok => paused report (Outcome.value?_eq_some.2 ok)⟩
  · refine .inr ⟨counter.trans accounts.nextSeq, fun report ok => ?_⟩
    exact reports report (Outcome.value?_eq_some.2 ok)

end WistAgentd.Telemetry

/- # Telemetry.Files.InputRun -- what a tick does to the stored entry list, and runs of ticks

Whatever happens to its effects, a tick leaves the stored entry list as it was, or replaces it by
the one list it planned while it read the disk.

* `singlePlan`, `familyPlan`: the planned lists.
* `Stages`: what the two kinds of tick differ in; `Stages.result` is the rule for both.
* `Stages.checkpoint`: old list or planned list.
* `inputStep`, `checkpoint_of_run`: ticks of one input in a row, and invariants of the stored list. -/
import WistAgentd.Telemetry.Files.Family
import WistAgentd.Theory.Transition

namespace WistAgentd.Telemetry
open Theory.Crash Theory.Transition
open Option
set_option autoImplicit false

variable {config : FileInputConfig}
variable (ext : Externals)

theorem toOption_eq_some {ε α : Type} {result : Except ε α} {value : α} :
    result.toOption = some value ↔ result = .ok value := by
  cases result <;> simp [Except.toOption]

def World.checkpoint (w : World) (inputId : String) : Option LogCheckpointState :=
  (w.stores inputId).checkpoint

/-- The list a single-path tick stores if it gets that far. -/
def singlePlan (config : FileInputConfig) (env : TickEnv) (state : LogCheckpointState)
    (nextSeq : Nat) : Option LogCheckpointState :=
  (collectReadBatch ext config env state nextSeq).2.toOption.map fun batch =>
    commitLogState env batch.state batch.checkpoints batch.pendingMultiline

/-- The list a family tick stores if it gets that far and something changed. -/
def familyPlan (config : FileInputConfig) (env : FamilyEnv) (before : LogCheckpointState)
    (nextSeq : Nat) : Option LogCheckpointState :=
  let migrated := migrateInputPendingToFiles before
  (collectFamilyBatch ext config env migrated.1 nextSeq migrated.2).2.toOption.map fun collected =>
    { upsertFamily env.toTickEnv collected.batch.state collected.batch.checkpoints with
      updatedAt := env.observedAt }

/-- The stored list is the old one or the planned one. -/
def OldOrPlanned (inputId : String) (old plan : Option LogCheckpointState) (w : World) : Prop :=
  w.checkpoint inputId = old ∨ ∃ state, plan = some state ∧ w.checkpoint inputId = some state

/-! ## The stages of a tick -/

/-- What the two kinds of tick differ in: how a batch is collected, the list stored for it if that
changed, the error of a single file, and the report. -/
structure Stages (γ : Type) where
  collect : Nat → Nat × Except IoError γ
  out : γ → Outlet
  commit : γ → Option LogCheckpointState
  failure : γ → Option IoError
  outcome : γ → DeliveryOutcome → Nat → ProcessOutcome

def storeChanged (inputId : String) : Option LogCheckpointState → App Unit
  | none => pure ()
  | some state => storeCheckpointState inputId state

variable {γ : Type}

/-- From a collected batch to the end of the tick. -/
def Stages.settle (stages : Stages γ) (ext : Externals) (sink : Sink)
    (config : FileInputConfig) (batch : γ) (replayed : Nat) : App ProcessOutcome := do
  let delivery ← deliverAndStoreSeq ext sink config (stages.out batch).records
  storeChanged config.inputId (stages.commit batch)
  match stages.failure batch with
  | some err => Prog.throw err
  | none => pure (stages.outcome batch delivery replayed)

/-- The tick behind a successful replay. -/
def Stages.source (stages : Stages γ) (ext : Externals) (sink : Sink)
    (config : FileInputConfig) (replayed : Nat) : App ProcessOutcome := do
  let w ← Prog.get
  let collected := stages.collect w.nextSeq
  Prog.modify fun w => w.collect collected.1 (collected.2.toOption.map stages.out)
  match collected.2 with
  | .error err => Prog.throw err
  | .ok batch => stages.settle ext sink config batch replayed

def Stages.tick (stages : LogCheckpointState → Stages γ) (ext : Externals) (sink : Sink)
    (config : FileInputConfig) (env : TickEnv) : App ProcessOutcome := do
  let w ← Prog.get
  let state := loadLogState config env w
  match ← (replaySpoolIfPresent ext sink config.inputId).attempt with
  | .error err => pausedOutcome config err
  | .ok replayed => (stages state).source ext sink config replayed

def singleStages (config : FileInputConfig) (env : TickEnv) (state : LogCheckpointState)
    : Stages ReadBatch where
  collect := collectReadBatch ext config env state
  out := ReadBatch.out
  commit batch := some (commitLogState env batch.state batch.checkpoints batch.pendingMultiline)
  failure _ := none
  outcome := ReadBatch.outcome

def familyStages (config : FileInputConfig) (env : FamilyEnv) (before : LogCheckpointState)
    : Stages CollectedFamily where
  collect nextSeq := collectFamilyBatch ext config env (migrateInputPendingToFiles before).1 nextSeq
    (migrateInputPendingToFiles before).2
  out collected := collected.batch.out
  commit collected :=
    let upserted := upsertFamily env.toTickEnv collected.batch.state collected.batch.checkpoints
    if upserted = before then none else some { upserted with updatedAt := env.observedAt }
  failure collected := collected.batch.failure
  outcome := CollectedFamily.outcome

theorem processOnce_stages (sink : Sink) (config : FileInputConfig) (env : TickEnv) :
    processOnce ext sink config env = Stages.tick (singleStages ext config env) ext sink config env := by
  have sources : processSource ext sink config env =
      fun state => (singleStages ext config env state).source ext sink config := by
    funext state replayed
    refine congrArg (Prog.get >>= ·) (funext fun w =>
      congrArg (Prog.modify _ >>= ·) (funext fun _ => ?_))
    dsimp only [singleStages]
    cases (collectReadBatch ext config env state w.nextSeq).2 <;> rfl
  unfold processOnce
  rw [sources]
  rfl

theorem processFamilyOnce_stages (sink : Sink) (config : FileInputConfig) (env : FamilyEnv)
    : processFamilyOnce ext sink config env =
      Stages.tick (familyStages ext config env) ext sink config env.toTickEnv := by
  have commits : ∀ (collected : CollectedFamily) before, commitFamilyState config env.toTickEnv
      collected.batch.state collected.batch.checkpoints before =
        storeChanged config.inputId ((familyStages ext config env before).commit collected) := by
    intro collected before
    unfold commitFamilyState familyStages
    dsimp only
    split <;> rfl
  have sources : processFamily ext sink config env =
      fun before => (familyStages ext config env before).source ext sink config := by
    funext before replayed
    refine congrArg (Prog.get >>= ·) (funext fun w =>
      congrArg (Prog.modify _ >>= ·) (funext fun _ => ?_))
    dsimp only [familyStages]
    cases (collectFamilyBatch ext config env (migrateInputPendingToFiles before).1 w.nextSeq
      (migrateInputPendingToFiles before).2).2 with
    | error err => rfl
    | ok collected =>
      simp only [commits]
      rfl
  unfold processFamilyOnce
  rw [sources]
  rfl

/-! ## One tick -/

/-- Replay and delivery touch neither an entry list nor the counter. -/
theorem deliveryBlind_checkpoint (inputId : String) (stored : Option LogCheckpointState)
    (nextSeq : Nat) :
    DeliveryBlind fun w => w.checkpoint inputId = stored ∧ w.nextSeq = nextSeq := by
  have updated : ∀ (w : World) (other : String) (update : InputStore → InputStore),
      (∀ store, (update store).checkpoint = store.checkpoint) →
      (w.updateStore other update).checkpoint inputId = w.checkpoint inputId := by
    intro w other update same
    unfold World.checkpoint
    by_cases at_ : inputId = other
    · rw [at_, World.updateStore_same, same]
    · rw [World.updateStore_other _ _ at_]
  exact
    { depart := fun w via frame held => held
      accept := fun w records held => held
      appendSpool := fun w other bytes held => ⟨(updated w other
        (fun store => { store with spool := store.spool ++ bytes }) fun _ => rfl).trans held.1,
        held.2⟩
      appendBad := fun w other bytes held => ⟨(updated w other
        (fun store => { store with bad := store.bad ++ bytes }) fun _ => rfl).trans held.1, held.2⟩
      clearSpool := fun w other held => ⟨(updated w other
        (fun store => { store with spool := [] }) fun _ => rfl).trans held.1, held.2⟩ }

variable {I : World → Prop}

section Tick

variable {A : Event Effect World IoError → Prop} {ext : Externals} {sink : Sink}
  {config : FileInputConfig} {stored : Option LogCheckpointState}

theorem storeSeq_keeps (blind : ∀ w mark, I w → I { w with seqFile := mark }) (mark : Nat) :
    Keeps A I (storeSeq mark) :=
  keeps_bind (keeps_effect fun w held => blind w _ held) fun _ => keeps_effect fun _ => id

theorem deliverAndStoreSeq_keeps (blind : DeliveryBlind I)
    (seqBlind : ∀ w mark, I w → I { w with seqFile := mark }) (ext : Externals) (sink : Sink)
    (config : FileInputConfig) (records : List TelemetryRecord) :
    Keeps A I (deliverAndStoreSeq ext sink config records) := by
  refine keeps_bind (deliverRecords_keeps blind) fun delivery => ?_
  split
  · exact keeps_bind keeps_get fun _ => keeps_bind (storeSeq_keeps seqBlind _) fun _ => keeps_pure
  · exact keeps_pure

theorem storeCheckpointState_spec (state : LogCheckpointState) :
    TripleOr A (fun w => w.checkpoint config.inputId = stored)
      (storeCheckpointState config.inputId state)
      (fun _ w => w.checkpoint config.inputId = some state)
      (OldOrPlanned config.inputId stored (some state)) := by
  have written : ∀ w : World, (w.storeCheckpoint config.inputId state).checkpoint config.inputId =
      some state := fun w => by
    unfold World.checkpoint World.storeCheckpoint
    rw [World.updateStore_same]
  refine triple_bind (Q := fun _ w => w.checkpoint config.inputId = some state)
    (tripleOr_effect (fun w _ => written w) fun w held => .inl held) fun _ => ?_
  exact tripleOr_effect (fun _ => id) fun w held => .inr ⟨state, rfl, held⟩

/-- **The rule for a tick.** What a failed replay leaves decides the paused tick; what a successful
one leaves is collected, and then the batch is settled. -/
theorem Stages.result {γ : Type} {stages : LogCheckpointState → Stages γ} {env : TickEnv}
    {start : World} {R : Option ProcessOutcome → World → Prop} {F : World → Prop}
    {J : γ → World → Prop}
    (replays : TripleOr (fun _ => True) (fun w => w = start)
      (replaySpoolIfPresent ext sink config.inputId) (fun _ w => w.nextSeq = start.nextSeq ∧ I w) F)
    (pauses : ∀ w, F w → R none w ∧ ∀ report : ProcessOutcome, report.paused = true → R (some report) w)
    (fails : ∀ w, I w → R none (w.collect
      ((stages (loadLogState config env start)).collect start.nextSeq).1 none))
    (collects : ∀ batch w,
      ((stages (loadLogState config env start)).collect start.nextSeq).2 = .ok batch → I w →
      J batch (w.collect ((stages (loadLogState config env start)).collect start.nextSeq).1
        (some ((stages (loadLogState config env start)).out batch)))) (settles : ∀ batch replayed,
      ((stages (loadLogState config env start)).collect start.nextSeq).2 = .ok batch →
      Ends (fun _ => True) (J batch) ((stages (loadLogState config env start)).settle ext
        sink config batch replayed) R) (fates : List (Fate IoError)) :
    R (Stages.tick stages ext sink config env fates start).outcome.value?
      (Stages.tick stages ext sink config env fates start).state := by
  refine Ends.result (P := fun w => w = start) ?_ fates rfl fun _ _ => trivial
  refine ends_bind (Q := fun v w => v = start ∧ w = start) (F := fun _ => False)
    (triple_get fun w same => ⟨same, same⟩) (fun _ => False.elim) fun v => triple_assume fun same => ?_
  subst same
  dsimp only
  generalize stages (loadLogState config env v) = stages at *
  refine ends_bind (Q := fun result w => match result with
    | .ok _ => w.nextSeq = v.nextSeq ∧ I w
    | .error _ => F w) (triple_attempt replays) (fun w held => (pauses w held).1) fun result => ?_
  cases result with
  | error err =>
    refine ends_bind spoolSize_keeps (fun w held => (pauses w held).1) fun bytes => ?_
    by_cases full : config.spoolMaxBytes ≤ bytes
    · rw [if_pos full]
      exact triple_pure fun w held => (pauses w held).2 _ rfl
    · rw [if_neg full]
      exact triple_throw fun w held => (pauses w held).1
  | ok replayed =>
    refine ends_bind (Q := fun (u : World) w => u.nextSeq = v.nextSeq ∧ I w) (F := fun _ => False)
      (triple_get fun w held => held) (fun _ => False.elim) fun u => triple_assume fun same => ?_
    dsimp only
    rw [same]
    cases collected : (stages.collect v.nextSeq).2 with
    | error err =>
      exact triple_bind (Q := fun _ => R none) (triple_modify fun w held => fails w held) fun _ =>
        triple_throw fun _ => id
    | ok batch =>
      exact triple_bind (Q := fun _ => J batch) (triple_modify fun w held =>
        collects batch w collected held) fun _ => settles batch replayed collected

/-- The end of a tick: what the delivery and then the commit leave decides it. -/
theorem Stages.settle_ends {stages : Stages γ} {batch : γ} {replayed : Nat}
    {R : Option ProcessOutcome → World → Prop} {P F : World → Prop}
    {D C : DeliveryOutcome → World → Prop}
    (delivers : TripleOr A P (deliverAndStoreSeq ext sink config (stages.out batch).records) D F)
    (cut : ∀ w, F w → R none w)
    (commits : ∀ delivery, TripleOr A (D delivery)
      (storeChanged config.inputId (stages.commit batch)) (fun _ => C delivery) (R none))
    (ends : ∀ delivery w, C delivery w →
      R none w ∧ R (some (stages.outcome batch delivery replayed)) w) :
    Ends A P (stages.settle ext sink config batch replayed) R := by
  refine ends_bind delivers cut fun delivery => ?_
  refine triple_bind (commits delivery) fun _ => ?_
  split
  · exact triple_throw fun w held => (ends delivery w held).1
  · exact triple_pure fun w held => (ends delivery w held).2

theorem storeChanged_keeps {inputId : String}
    (blind : ∀ w state, I w → I (w.storeCheckpoint inputId state))
    (changed : Option LogCheckpointState) :
    Keeps A I (storeChanged inputId changed) := by
  cases changed with
  | none => exact keeps_pure
  | some state =>
    exact keeps_bind (keeps_effect fun w held => blind w _ held) fun _ => keeps_effect fun _ => id

theorem replay_keeps_checkpoint (start : World) :
    TripleOr A (fun w => w = start) (replaySpoolIfPresent ext sink config.inputId)
      (fun _ w => w.nextSeq = start.nextSeq ∧
        w.checkpoint config.inputId = start.checkpoint config.inputId)
      fun w => w.checkpoint config.inputId = start.checkpoint config.inputId := by
  refine triple_weaken (replaySpoolIfPresent_keeps (deliveryBlind_checkpoint config.inputId
    (start.checkpoint config.inputId) start.nextSeq)) ?_ (fun _ _ held => held.symm)
    (fun _ _ held => held.1) fun _ held => held.1
  rintro w rfl
  exact ⟨rfl, rfl⟩

/-- How a tick leaves the stored list: as it was, or as its batch commits it. A tick that reports and
is not paused reports its batch. -/
def Stages.Commits (stages : Stages γ) (inputId : String) (start : World)
    (report : Option ProcessOutcome) (w : World) : Prop :=
  (w.checkpoint inputId = start.checkpoint inputId ∧ ∀ outcome ∈ report,
      outcome.paused = true ∨ ∃ batch, stages.commit batch = none) ∨
    ∃ batch state, (stages.collect start.nextSeq).2 = .ok batch ∧ stages.commit batch = some state ∧
      w.checkpoint inputId = some state ∧
      ∀ outcome ∈ report, ∃ delivery replayed, outcome = stages.outcome batch delivery replayed

/-- **The stored list after a tick.** -/
theorem Stages.checkpoint (stages : LogCheckpointState → Stages γ) (ext : Externals) (sink : Sink)
    (config : FileInputConfig) (env : TickEnv) (fates : List (Fate IoError)) (start : World) :
    (stages (loadLogState config env start)).Commits config.inputId start
      (Stages.tick stages ext sink config env fates start).outcome.value?
      (Stages.tick stages ext sink config env fates start).state := by
  refine Stages.result (J := fun _ w => w.checkpoint config.inputId = start.checkpoint config.inputId ∧
      w.nextSeq = ((stages (loadLogState config env start)).collect start.nextSeq).1)
    (replay_keeps_checkpoint start)
    (fun w held => ⟨.inl ⟨held, by simp⟩, fun report paused => .inl ⟨held, by simp [paused]⟩⟩)
    (fun w held => .inl ⟨held, by simp⟩) (fun _ _ _ held => ⟨held, rfl⟩)
    (fun batch replayed collected => ?_) fates
  generalize stages (loadLogState config env start) = stages at *
  refine Stages.settle_ends (C := fun delivery w => stages.Commits config.inputId start none w ∧
      stages.Commits config.inputId start (some (stages.outcome batch delivery replayed)) w)
    (deliverAndStoreSeq_keeps (deliveryBlind_checkpoint _ _ _) (fun _ _ => id) _ _ _ _)
    (fun w held => .inl ⟨held.1, by simp⟩) (fun delivery => ?_) fun _ _ => id
  cases plan : stages.commit batch with
  | none =>
    exact triple_pure fun w held => ⟨.inl ⟨held.1, by simp⟩,
      .inl ⟨held.1, fun _ _ => .inr ⟨batch, plan⟩⟩⟩
  | some state =>
    have left : ∀ w, OldOrPlanned config.inputId (start.checkpoint config.inputId) (some state) w →
        stages.Commits config.inputId start none w := by
      rintro w (old | ⟨_, same, new⟩)
      · exact .inl ⟨old, by simp⟩
      · exact .inr ⟨batch, state, collected, plan, same ▸ new, by simp⟩
    refine triple_weaken (storeCheckpointState_spec state) (fun _ held => held.1)
      (fun _ w new => ⟨left w (.inr ⟨state, rfl, new⟩), ?_⟩) (fun _ => left) left
    exact .inr ⟨batch, state, collected, plan, new, fun _ same =>
      ⟨delivery, replayed, (some.inj same).symm⟩⟩

end Tick

/-! ## Runs -/

inductive InputKind
  | single | family

/-- One call of an input's processor: the sink and the counter it is given, its surroundings, and
the fates of its effects. -/
structure Tick where
  sink : Sink
  nextSeq : Nat
  env : FamilyEnv
  fates : List (Fate IoError)

section

variable (config : FileInputConfig) (kind : InputKind)

def tickProgram (tick : Tick) : App ProcessOutcome :=
  match kind with
  | .single => processOnce ext tick.sink config tick.env.toTickEnv
  | .family => processFamilyOnce ext tick.sink config tick.env

def tickPlan (tick : Tick)
    (state : LogCheckpointState) : Option LogCheckpointState :=
  match kind with
  | .single => singlePlan ext config tick.env.toTickEnv state tick.nextSeq
  | .family => familyPlan ext config tick.env state tick.nextSeq

def inputStep (w : World) (tick : Tick)
    : Option World :=
  some (tickProgram ext config kind tick tick.fates { w with nextSeq := tick.nextSeq }).state

end

theorem inputStep_checkpoint {ext : Externals} {kind : InputKind} {w next : World} {tick : Tick}
    (stepped : inputStep ext config kind w tick = some next) :
    OldOrPlanned config.inputId (w.checkpoint config.inputId)
      (tickPlan ext config kind tick (loadLogState config tick.env.toTickEnv w)) next := by
  cases stepped
  cases kind with
  | single =>
    have ran := Stages.checkpoint (singleStages ext config tick.env.toTickEnv) ext tick.sink config
      tick.env.toTickEnv tick.fates { w with nextSeq := tick.nextSeq }
    rw [← processOnce_stages] at ran
    refine ran.imp (fun old => old.1) fun ⟨batch, _, collected, plan, new, _⟩ => ⟨_, ?_, new⟩
    exact map_eq_some_iff.2 ⟨batch, congrArg Except.toOption collected, some.inj plan⟩
  | family =>
    have ran := Stages.checkpoint (familyStages ext config tick.env) ext tick.sink config
      tick.env.toTickEnv tick.fates { w with nextSeq := tick.nextSeq }
    rw [← processFamilyOnce_stages] at ran
    refine ran.imp (fun old => old.1) fun ⟨batch, _, collected, plan, new, _⟩ => ⟨_, ?_, new⟩
    exact map_eq_some_iff.2 ⟨batch, congrArg Except.toOption collected,
      some.inj (ite_none_left_eq_some.1 plan).2⟩

/-- The stored entry list, if there is one, meets `I`. -/
def Stored (config : FileInputConfig) (I : LogCheckpointState → Prop) (w : World) : Prop :=
  ∀ state, w.checkpoint config.inputId = some state → I state

theorem Stored.loaded {I : LogCheckpointState → Prop} {w : World} (stored : Stored config I w)
    (fresh : ∀ observedAt, I (.new config.inputId observedAt)) (env : TickEnv) :
    I (loadLogState config env w) := by
  unfold loadLogState
  split
  · rename_i state _ held
    exact stored state held
  · exact fresh _

/-- An invariant of the entry list that planning keeps holds after every run. -/
theorem checkpoint_of_run {ext : Externals} {kind : InputKind} {I : LogCheckpointState → Prop}
    (allowed : LogCheckpointState → Tick → Prop)
    (fresh : ∀ observedAt, I (.new config.inputId observedAt))
    (keeps : ∀ state tick planned, I state → allowed state tick →
      tickPlan ext config kind tick state = some planned → I planned) {start final : World}
    {ticks : List Tick} (empty : start.checkpoint config.inputId = none)
    (along : Along (inputStep ext config kind)
      (fun w tick => allowed (loadLogState config tick.env.toTickEnv w) tick) start ticks)
    (ran : run (inputStep ext config kind) start ticks = some final) :
    Stored config I final := by
  refine run_induction_along (I := Stored config I) ?_ (fun state held => ?_) along ran
  · intro w tick next stored allowed stepped state held
    rcases inputStep_checkpoint stepped with old | ⟨planned, plan, new⟩
    · exact stored state (old.symm.trans held)
    · obtain rfl := some.inj (new.symm.trans held)
      exact keeps _ tick _ (stored.loaded fresh tick.env.toTickEnv) allowed plan
  · rw [empty] at held
    exact absurd held (by simp)

/-! ## Small surroundings -/

/-- Nothing was ever stored or sent. -/
def World.empty : World :=
  { stores := fun _ => .empty, seqFile := none, nextSeq := 0, departures := [], accepted := []
    fed := [], provenance := [] }

/-- An input that reads line by line and scans on every tick, with room for what it reads. -/
def FileInputConfig.small (sourcePath : Path) : FileInputConfig :=
  { agentId := "", inputId := "", origin := ⟨"", ""⟩, sourcePath, dropIfContains := []
    maxFiles := 8, maxNewFiles := 8, rescanIntervalMs := 0, startupPosition := .head
    multilineMode := .none, inMemoryBudgetBytes := 1000000, readLimits := ⟨100, 1000, 100⟩
    spoolMaxBytes := 1000000 }

/-- A tick with a file sink in which every effect is done. -/
def Tick.calm (fs : FileSystem) (selected : List Path) : Tick :=
  { sink := .file, nextSeq := 0, fates := []
    env :=
      { fs, observedAt := "", checkpointReadable := true, nowMs := 0
        selection := .ok { FamilySelection.none with selected } } }

end WistAgentd.Telemetry


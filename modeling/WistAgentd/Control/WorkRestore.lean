/- # Control.WorkRestore -- a restart against going on

A daemon that goes on holds its grant in memory; one that restarts has what `deviceView` wrote and
`restore` made of it. The two are followed through the same snapshots and marks and compared in all
they give out: the outcome of every snapshot and the collection tasks after every step.

* `Follows`: the states agree in everything later steps look at; every step keeps that.
* `restore_works_at`, `restore_executionOf`: what a restored state holds, key by key.
* `restore_unnoticed_iff`: which states survive a restart unnoticed. -/
import WistAgentd.Control.PlainContracts
import WistAgentd.Theory.KeyedFold

namespace WistAgentd.Control
open Theory.KeyedFold Std
open List
set_option autoImplicit false

/-! ## Steps and what they give out -/

inductive WorkStep
  | grant (grant : WorkGrant)
  | acked (workId : String) (planVersion : Int)
  | executed (workId execution : String)

/-- The tasks folded from the works. -/
structure Tasks where
  logInputs : List WorkLogInput
  exporterRuns : List WorkExporterRun
  metricsInterval : Option Nat

namespace AppliedWorkGrant

section Course

variable (contracts : Contracts)

def advance (self : AppliedWorkGrant) : WorkStep → Option ApplyOutcome × AppliedWorkGrant
  | .grant grant => ((self.apply contracts grant).1, (self.apply contracts grant).2)
  | .acked workId planVersion => (none, self.markAcked workId planVersion)
  | .executed workId execution => (none, self.markOneShotExecution workId execution)

def tasks (self : AppliedWorkGrant) : Tasks where
  logInputs := self.logInputs contracts
  exporterRuns := self.exporterRuns contracts
  metricsInterval := self.metricsInterval contracts

/-- The tasks of a state that was just reached with an outcome, and of all states after it. -/
def courseFrom (outcome : Option ApplyOutcome) (self : AppliedWorkGrant) :
    List WorkStep → List (Option ApplyOutcome × Tasks)
  | [] => [(outcome, self.tasks contracts)]
  | step :: rest =>
    (outcome, self.tasks contracts) ::
      courseFrom (self.advance contracts step).1 (self.advance contracts step).2 rest

/-- All that is given out from now on: tasks now, then outcome and tasks after each step. -/
def course (self : AppliedWorkGrant) (later : List WorkStep) :
    List (Option ApplyOutcome × Tasks) :=
  courseFrom contracts none self later

/-- The state after a history of steps of a daemon that started with nothing. -/
def reached (history : List WorkStep) : AppliedWorkGrant :=
  history.foldl (fun self step => (self.advance contracts step).2) {}

end Course

end AppliedWorkGrant

/-! ## What later steps look at -/

/-- Of a standing work: its version, the version acknowledged, and what it does if it works. -/
structure Gist where
  planVersion : Int
  ackedPlanVersion : Option Int
  doing : Option (String × WorkSpec)

def AppliedWork.gist (work : AppliedWork) : Gist where
  planVersion := work.planVersion
  ackedPlanVersion := work.ackedPlanVersion
  doing := if work.isWorking then work.spec.map (work.family, ·) else none

theorem AppliedWork.gist_isSome (work : AppliedWork) : work.gist.doing.isSome = work.isWorking := by
  unfold gist
  cases working : work.isWorking with
  | false => simp
  | true =>
    have readable : work.spec.isSome := (Bool.and_eq_true_iff.1 working).2
    simpa using readable

namespace AppliedWorkGrant

variable {contracts : Contracts} {g r : AppliedWorkGrant}

/-- `g` and `r` agree in all that a later step or the folding of tasks looks at. -/
structure Follows (g r : AppliedWorkGrant) : Prop where
  sequence : g.sequence = r.sequence
  works : g.works.map (fun _ => AppliedWork.gist) = r.works.map fun _ => AppliedWork.gist
  execution : ∀ workId, g.executionOf workId = r.executionOf workId
  unexecutable : ∀ workId, workId ∈ g.unexecutableOneShot ↔ workId ∈ r.unexecutableOneShot

theorem Follows.gist_at (follows : Follows g r) (workId : String) :
    g.works[workId]?.map AppliedWork.gist = r.works[workId]?.map AppliedWork.gist := by
  have same := congrArg (fun works => works[workId]?) follows.works
  simpa only [ExtTreeMap.getElem?_map] using same

theorem isWorkingAt_gist (works : BTreeMap AppliedWork) (workId : String) :
    isWorkingAt works workId = (works[workId]?.map AppliedWork.gist).any (·.doing.isSome) := by
  unfold isWorkingAt
  cases works[workId]? with
  | none => rfl
  | some work => exact (work.gist_isSome).symm

theorem newlyWorking_gist (before now : BTreeMap AppliedWork) :
    newlyWorking before now =
      (((now.map fun _ => AppliedWork.gist).toList.filter fun entry =>
        entry.2.doing.isSome && !isWorkingAt before entry.1).map (·.1)).insertionSort (· ≤ ·) := by
  rw [newlyWorking, ExtTreeMap.toList_map, filter_map, map_map]
  congr 2
  refine filter_congr fun entry _ => ?_
  simp [AppliedWork.gist_isSome]

theorem workingSpecs_gist (self : AppliedWorkGrant) :
    self.workingSpecs = (self.works.map fun _ => AppliedWork.gist).toList.filterMap fun entry =>
      entry.2.doing.map fun doing => (entry.1, doing) := by
  rw [ExtTreeMap.toList_map, filterMap_map]
  refine filterMap_congr fun entry _ => ?_
  simp only [Function.comp_apply, AppliedWork.gist]
  split
  · cases entry.2.spec <;> rfl
  · rfl

/-- The tasks are folded from what the states agree in. -/
theorem Follows.tasks (follows : Follows g r) : g.tasks contracts = r.tasks contracts := by
  have same : g.workingSpecs = r.workingSpecs := by
    rw [workingSpecs_gist, workingSpecs_gist, follows.works]
  unfold AppliedWorkGrant.tasks logInputs exporterRuns metricsInterval
  rw [same]

/-! ## Every step keeps it -/

theorem Follows.take (follows : Follows g r) (work : StandingWork) :
    g.take contracts work = r.take contracts work := by
  have held : ∀ works : BTreeMap AppliedWork, (works[work.workId]?.filter
      (·.planVersion == work.planVersion)).bind (·.ackedPlanVersion) =
        ((works[work.workId]?.map AppliedWork.gist).filter
          (·.planVersion == work.planVersion)).bind (·.ackedPlanVersion) := by
    intro works
    cases works[work.workId]? with
    | none => rfl
    | some previous =>
      simp only [Option.map_some, Option.filter_some, AppliedWork.gist]
      split <;> rfl
  unfold AppliedWorkGrant.take
  rw [held, held, follows.gist_at]

theorem Follows.oneShotTurn (follows : Follows g r) : g.oneShotTurn = r.oneShotTurn := by
  funext pass work
  have known : g.unexecutableOneShot.contains work.workId =
      r.unexecutableOneShot.contains work.workId := by
    rw [Bool.eq_iff_iff, contains_iff_mem, contains_iff_mem]
    exact follows.unexecutable work.workId
  unfold AppliedWorkGrant.oneShotTurn
  rw [follows.execution, known]

/-- What is kept of a work that has left the snapshot, key by key. -/
theorem retainExecution_at (self : AppliedWorkGrant) (execution : BTreeMap String)
    (workId : String) :
    (self.retainExecution execution)[workId]? =
      execution[workId]?.or (if isOneShotExecutionInFlight (self.executionOf workId) then
        some (self.executionOf workId) else none) := by
  have touches : ∀ (next : BTreeMap String) (entry : String × String) (k : String),
      (if next.contains entry.1 || !isOneShotExecutionInFlight entry.2 then next
        else next.insert entry.1 entry.2)[k]? =
        if entry.1 = k then
          if next[k]?.isSome || !isOneShotExecutionInFlight entry.2 then next[k]? else some entry.2
        else next[k]? := by
    intro next entry k
    by_cases same : entry.1 = k
    · split <;> simp_all
    · split
      · rfl
      · simp [ExtTreeMap.getElem?_insert, same]
  rw [retainExecution, foldl_toList_at (fun next k => next[k]?) (·.1)
    (fun entry held => if held.isSome || !isOneShotExecutionInFlight entry.2 then held
      else some entry.2) touches
    self.oneShotExecution fun _ _ _ => rfl, executionOf]
  cases self.oneShotExecution[workId]? with
  | none => simp [not_inFlight_unexecuted]
  | some held =>
    cases execution[workId]? with
    | none => cases flying : isOneShotExecutionInFlight held <;> simp [flying]
    | some value => simp

theorem Follows.retainExecution (follows : Follows g r) (execution : BTreeMap String) :
    g.retainExecution execution = r.retainExecution execution := by
  refine ExtTreeMap.ext_getElem? fun workId => ?_
  rw [retainExecution_at, retainExecution_at, follows.execution]

/-- One snapshot has the same outcome in both, and leaves them in agreement. -/
theorem Follows.apply (follows : Follows g r) (grant : WorkGrant) :
    (g.apply contracts grant).1 = (r.apply contracts grant).1 ∧
      Follows (g.apply contracts grant).2 (r.apply contracts grant).2 := by
  have works : g.nextWorks contracts grant = r.nextWorks contracts grant := by
    unfold nextWorks
    simp only [follows.take]
  have broken : g.brokenOf contracts grant = r.brokenOf contracts grant := by
    unfold brokenOf
    simp only [follows.take]
  have pass : ∀ now, g.oneShotPass now = r.oneShotPass now := by
    intro now
    rw [oneShotPass, oneShotPass, follows.oneShotTurn]
  have started : ∀ next, newlyWorking g.works next = newlyWorking r.works next := by
    intro next
    simp only [newlyWorking, isWorkingAt_gist, follows.gist_at]
  have stopped : ∀ next, newlyWorking next g.works = newlyWorking next r.works := by
    intro next
    rw [newlyWorking_gist, newlyWorking_gist, follows.works]
  constructor
  · simp only [AppliedWorkGrant.apply, works, broken, pass, started, stopped, follows.sequence]
  · refine ⟨rfl, ?_, fun workId => ?_, fun workId => ?_⟩
    · simp only [AppliedWorkGrant.apply, works]
    · simp only [AppliedWorkGrant.apply, executionOf, pass, follows.retainExecution]
    · simp only [AppliedWorkGrant.apply, pass]

theorem markAcked_works_at (self : AppliedWorkGrant) (workId : String) (planVersion : Int)
    (k : String) :
    (self.markAcked workId planVersion).works[k]? = self.works[k]?.map fun work =>
      if workId = k then { work with ackedPlanVersion := some planVersion } else work := by
  unfold markAcked
  split
  · rename_i work found
    simp only [ExtTreeMap.getElem?_insert]
    by_cases same : workId = k
    · subst same
      simp [found]
    · cases self.works[k]? <;> simp [same]
  · rename_i missing
    by_cases same : workId = k
    · subst same
      simp [missing]
    · cases self.works[k]? <;> simp [same]

theorem markAcked_rest (self : AppliedWorkGrant) (workId : String) (planVersion : Int) :
    (self.markAcked workId planVersion).sequence = self.sequence ∧
      (self.markAcked workId planVersion).oneShotExecution = self.oneShotExecution ∧
      (self.markAcked workId planVersion).unexecutableOneShot = self.unexecutableOneShot ∧
      (self.markAcked workId planVersion).oneShotWorks = self.oneShotWorks := by
  unfold markAcked
  split <;> exact ⟨rfl, rfl, rfl, rfl⟩

theorem Follows.markAcked (follows : Follows g r) (workId : String) (planVersion : Int) :
    Follows (g.markAcked workId planVersion) (r.markAcked workId planVersion) := by
  obtain ⟨gSequence, gExecution, gUnexecutable, -⟩ := markAcked_rest g workId planVersion
  obtain ⟨rSequence, rExecution, rUnexecutable, -⟩ := markAcked_rest r workId planVersion
  refine ⟨?_, ?_, fun other => ?_, fun other => ?_⟩
  · rw [gSequence, rSequence, follows.sequence]
  · refine ExtTreeMap.ext_getElem? fun k => ?_
    have marked : ∀ self : AppliedWorkGrant,
        (self.markAcked workId planVersion).works[k]?.map AppliedWork.gist =
          (self.works[k]?.map AppliedWork.gist).map fun gist =>
            if workId = k then { gist with ackedPlanVersion := some planVersion } else gist := by
      intro self
      rw [markAcked_works_at, Option.map_map, Option.map_map]
      congr 1
      funext work
      split <;> rfl
    simp only [ExtTreeMap.getElem?_map, marked, follows.gist_at]
  · simp only [executionOf, gExecution, rExecution]
    exact follows.execution other
  · rw [gUnexecutable, rUnexecutable]
    exact follows.unexecutable other

theorem executionOf_mark (self : AppliedWorkGrant) (workId execution other : String) :
    (self.markOneShotExecution workId execution).executionOf other =
      if workId = other then execution else self.executionOf other := by
  unfold markOneShotExecution executionOf
  simp only [ExtTreeMap.getElem?_insert, LawfulEqCmp.compare_eq_iff_eq]
  split <;> rfl

theorem Follows.mark (follows : Follows g r) (workId execution : String) :
    Follows (g.markOneShotExecution workId execution) (r.markOneShotExecution workId execution) := by
  refine ⟨follows.sequence, follows.works, fun other => ?_, follows.unexecutable⟩
  rw [executionOf_mark, executionOf_mark, follows.execution]

theorem Follows.advance (follows : Follows g r) (step : WorkStep) :
    (g.advance contracts step).1 = (r.advance contracts step).1 ∧
      Follows (g.advance contracts step).2 (r.advance contracts step).2 := by
  cases step with
  | grant grant =>
    obtain ⟨outcome, next⟩ := @Follows.apply contracts _ _ follows grant
    exact ⟨congrArg some outcome, next⟩
  | acked workId planVersion => exact ⟨rfl, follows.markAcked workId planVersion⟩
  | executed workId execution => exact ⟨rfl, follows.mark workId execution⟩

/-- States in agreement give out the same along every run. -/
theorem Follows.courseFrom (later : List WorkStep) :
    ∀ {g r : AppliedWorkGrant} (outcome : Option ApplyOutcome), Follows g r →
      courseFrom contracts outcome g later = courseFrom contracts outcome r later := by
  induction later with
  | nil =>
    intro g r outcome follows
    rw [AppliedWorkGrant.courseFrom, AppliedWorkGrant.courseFrom, follows.tasks]
  | cons step rest ih =>
    intro g r outcome follows
    obtain ⟨same, next⟩ := @Follows.advance contracts _ _ follows step
    rw [AppliedWorkGrant.courseFrom, AppliedWorkGrant.courseFrom, follows.tasks, same, ih _ next]

/-! ## What a restored state holds -/

/-- Every one-shot work is kept under its own id. -/
def Keyed (works : BTreeMap OneShotWork) : Prop :=
  ∀ (workId : String) (work : OneShotWork), works[workId]? = some work → work.workId = workId

theorem keyed_empty : Keyed ∅ := fun _ _ found => by simp at found

theorem keyed_insert {works : BTreeMap OneShotWork} (keyed : Keyed works) {workId : String}
    {work : OneShotWork} (own : work.workId = workId) : Keyed (works.insert workId work) := by
  intro k held found
  rw [ExtTreeMap.getElem?_insert] at found
  split at found
  · rename_i same
    rw [← LawfulEqCmp.compare_eq_iff_eq.1 same, ← Option.some.inj found, own]
  · exact keyed k held found

theorem keyed_nextOneShotWorks {self : AppliedWorkGrant} (keyed : Keyed self.oneShotWorks)
    (now : List OneShotWork) (execution : BTreeMap String) :
    Keyed (self.nextOneShotWorks now execution) := by
  refine foldlRecOn _ _ (foldlRecOn _ _ keyed_empty fun next held work _ => keyed_insert held rfl)
    fun next held workId _ => ?_
  split
  · exact held
  · split
    · rename_i previous found
      exact keyed_insert held (keyed workId previous found)
    · exact held

theorem keyed_reached (contracts : Contracts) (history : List WorkStep) :
    Keyed (reached contracts history).oneShotWorks := by
  refine foldlRecOn (motive := fun self : AppliedWorkGrant => Keyed self.oneShotWorks) history _
    keyed_empty fun self keyed step _ => ?_
  cases step with
  | grant grant => exact keyed_nextOneShotWorks keyed _ _
  | acked workId planVersion =>
    rw [advance, (markAcked_rest self workId planVersion).2.2.2]
    exact keyed
  | executed workId execution => exact keyed

end AppliedWorkGrant

/-- A standing work after it was written and read back: an unreadable spec has become an empty
one. -/
def AppliedWork.reread (work : AppliedWork) : AppliedWork :=
  { work with spec := some { units := (work.spec.map (·.units)).getD [] }, specDetail := none }

namespace AppliedWorkGrant

section Restore

variable {contracts : Contracts} (lawful : contracts.Lawful)

include lawful

theorem take_standingOf (self : AppliedWorkGrant) (sequence : Int) (entry : String × AppliedWork) :
    ({ sequence } : AppliedWorkGrant).take contracts
        (standingOf contracts (self.standingRecord contracts entry)) =
      { entry.2.reread with ackedPlanVersion := none } := by
  obtain ⟨text, encoded, parsed⟩ :=
    lawful.parse_encode { units := (entry.2.spec.map (·.units)).getD [] }
  have written : (standingOf contracts (self.standingRecord contracts entry)).spec = text := by
    simp only [standingOf, standingRecord, encoded]
  unfold take
  rw [written, parsed]
  simp [standingOf, standingRecord, AppliedWork.reread]

/-- The snapshot a view stands for, applied. -/
theorem applied_works_at (self : AppliedWorkGrant) (sequence : Int) (workId : String) :
    (({ sequence } : AppliedWorkGrant).nextWorks contracts
      { standing := (self.works.toList.map (self.standingRecord contracts)).map
          (standingOf contracts), oneShot := [], sequence })[workId]? =
      self.works[workId]?.map fun work => { work.reread with ackedPlanVersion := none } := by
  have touches : ∀ (next : BTreeMap AppliedWork) (entry : String × AppliedWork) (k : String),
      (next.insert entry.1 { entry.2.reread with ackedPlanVersion := none })[k]? =
        if entry.1 = k then some { entry.2.reread with ackedPlanVersion := none }
        else next[k]? := by
    intro next entry k
    simp [ExtTreeMap.getElem?_insert]
  have folded := foldl_toList_at (fun next k => next[k]?) (·.1)
    (fun entry _ => some { entry.2.reread with ackedPlanVersion := none }) touches
    self.works (fun _ _ _ => rfl) workId ∅
  rw [nextWorks]
  simp only [foldl_map, take_standingOf lawful]
  rw [show (fun (next : BTreeMap AppliedWork) (entry : String × AppliedWork) =>
      next.insert (standingOf contracts (self.standingRecord contracts entry)).workId
        { entry.2.reread with ackedPlanVersion := none }) =
      fun next entry => next.insert entry.1 { entry.2.reread with ackedPlanVersion := none }
    from rfl, folded]
  cases self.works[workId]? <;> simp

omit lawful in
/-- The versions acknowledged before are acknowledged again. -/
theorem reAck_works_at (self : AppliedWorkGrant) (runtime : AppliedWorkGrant) (workId : String) :
    ((self.works.toList.map (self.standingRecord contracts)).foldl reAck runtime).works[workId]? =
      self.works[workId]?.elim runtime.works[workId]? fun work =>
        runtime.works[workId]?.map fun held =>
          { held with ackedPlanVersion := work.ackedPlanVersion.or held.ackedPlanVersion } := by
  have touches : ∀ (runtime : AppliedWorkGrant) (entry : String × AppliedWork) (k : String),
      (runtime.reAck (self.standingRecord contracts entry)).works[k]? =
        if entry.1 = k then runtime.works[k]?.map fun held =>
          { held with ackedPlanVersion := entry.2.ackedPlanVersion.or held.ackedPlanVersion }
        else runtime.works[k]? := by
    intro runtime entry k
    unfold reAck standingRecord
    cases entry.2.ackedPlanVersion with
    | none => cases runtime.works[k]? <;> simp
    | some version =>
      rw [markAcked_works_at]
      by_cases same : entry.1 = k <;> simp [same]
  rw [foldl_map]
  exact foldl_toList_at (fun runtime k => runtime.works[k]?) (·.1)
    (fun entry held => held.map fun work =>
      { work with ackedPlanVersion := entry.2.ackedPlanVersion.or work.ackedPlanVersion })
    touches self.works (fun _ _ _ => rfl) workId runtime

omit lawful in
theorem reAck_rest (runtime : AppliedWorkGrant) (entry : StandingWorkRecord) :
    (runtime.reAck entry).sequence = runtime.sequence ∧
      (runtime.reAck entry).oneShotExecution = runtime.oneShotExecution ∧
      (runtime.reAck entry).unexecutableOneShot = runtime.unexecutableOneShot := by
  unfold reAck
  split
  · rename_i version _
    obtain ⟨sequence, execution, unexecutable, -⟩ := markAcked_rest runtime entry.workId version
    exact ⟨sequence, execution, unexecutable⟩
  · exact ⟨rfl, rfl, rfl⟩

/-- `record` is what `g` wrote. -/
structure ViewOf (contracts : Contracts) (g : AppliedWorkGrant) (record : WorkRecord) : Prop where
  sequence : record.gatewaySequence = g.sequence
  standing : record.standing = g.works.toList.map (g.standingRecord contracts)
  oneShot : record.oneShot = g.oneShotWorks.toList.map fun entry => g.oneShotRecord entry.2

omit lawful in
theorem deviceView_of {g : AppliedWorkGrant} (granted : g.sequence ≠ 0) (recordedAt : String) :
    ∃ record, g.deviceView contracts recordedAt = some record ∧ ViewOf contracts g record := by
  have never : (g.sequence == 0) = false := by simpa using granted
  rw [deviceView, never]
  exact ⟨_, rfl, rfl, rfl, rfl⟩

variable {g : AppliedWorkGrant} {record : WorkRecord} (view : ViewOf contracts g record)

include view

omit lawful in
theorem restore_sequence : (restore contracts record).sequence = g.sequence := by
  rw [restore]
  rw [foldl_keeps AppliedWorkGrant.sequence takeBack fun _ _ => rfl,
    foldl_keeps AppliedWorkGrant.sequence reAck fun runtime entry => (reAck_rest runtime entry).1]
  exact view.sequence

/-- A restored state holds every standing work as it was written. -/
theorem restore_works_at (workId : String) :
    (restore contracts record).works[workId]? = g.works[workId]?.map AppliedWork.reread := by
  have applied := applied_works_at lawful g record.gatewaySequence workId
  have acked := @reAck_works_at contracts g
    ((({ sequence := record.gatewaySequence } : AppliedWorkGrant).apply contracts
      { standing := (g.works.toList.map (g.standingRecord contracts)).map (standingOf contracts)
        oneShot := [], sequence := record.gatewaySequence }).2) workId
  rw [restore]
  rw [foldl_keeps AppliedWorkGrant.works takeBack fun _ _ => rfl, view.standing, acked]
  simp only [AppliedWorkGrant.apply, applied]
  cases g.works[workId]? with
  | none => rfl
  | some work => simp [AppliedWork.reread]

omit lawful view in
/-- The snapshot of a view without one-shot works leaves none. -/
theorem applied_oneShot (sequence : Int) (standing : List StandingWork) :
    ((({ sequence } : AppliedWorkGrant).apply contracts
        { standing, oneShot := [], sequence }).2).oneShotExecution = ∅ ∧
      ((({ sequence } : AppliedWorkGrant).apply contracts
        { standing, oneShot := [], sequence }).2).unexecutableOneShot = [] := by
  refine ⟨ExtTreeMap.ext_getElem? fun workId => ?_, rfl⟩
  simp only [AppliedWorkGrant.apply, retainExecution_at]
  simp [executionOf, oneShotPass, not_inFlight_unexecuted]

omit lawful in
/-- A restored state knows how far a one-shot work got if it knew what the work was. -/
theorem restore_executionOf (keyed : Keyed g.oneShotWorks) (workId : String) :
    (restore contracts record).executionOf workId =
      if workId ∈ g.oneShotWorks then g.executionOf workId else oneShotUnexecuted := by
  have touches : ∀ (runtime : AppliedWorkGrant) (entry : String × OneShotWork) (k : String),
      (runtime.takeBack (g.oneShotRecord entry.2)).oneShotExecution[k]? =
        if entry.2.workId = k then some (g.executionOf entry.2.workId)
        else runtime.oneShotExecution[k]? := by
    intro runtime entry k
    simp [takeBack, oneShotRecord, ExtTreeMap.getElem?_insert]
  rw [executionOf, restore]
  rw [view.oneShot, foldl_map,
    foldl_toList_at (fun (runtime : AppliedWorkGrant) (k : String) => runtime.oneShotExecution[k]?)
      (fun entry => entry.2.workId) (fun entry _ => some (g.executionOf entry.2.workId)) touches
      g.oneShotWorks fun k work found => keyed k work found,
    foldl_keeps AppliedWorkGrant.oneShotExecution reAck fun runtime entry =>
      (reAck_rest runtime entry).2.1, (applied_oneShot ..).1]
  cases found : g.oneShotWorks[workId]? with
  | none => simp [ExtTreeMap.mem_iff_isSome_getElem?, found]
  | some work => simp [ExtTreeMap.mem_iff_isSome_getElem?, found, keyed workId work found]

omit lawful view in
theorem mem_takeBack (workId : String) (entries : List OneShotWorkRecord)
    (runtime : AppliedWorkGrant) :
    workId ∈ (entries.foldl takeBack runtime).unexecutableOneShot ↔
      workId ∈ runtime.unexecutableOneShot ∨
        ∃ entry ∈ entries, entry.workId = workId ∧ isExecutableOneShotAction entry.action = false := by
  induction entries generalizing runtime with
  | nil => simp
  | cons entry rest ih =>
    have turn : workId ∈ (runtime.takeBack entry).unexecutableOneShot ↔
        workId ∈ runtime.unexecutableOneShot ∨
          entry.workId = workId ∧ isExecutableOneShotAction entry.action = false := by
      unfold takeBack
      split
      · rename_i added
        simp only [Bool.and_eq_true, Bool.not_eq_true'] at added
        simp [added.1, eq_comm]
      · rename_i skipped
        simp only [Bool.and_eq_true, Bool.not_eq_true', not_and, Bool.not_eq_false,
          contains_iff_mem] at skipped
        constructor
        · exact .inl
        · rintro (held | ⟨rfl, foreign⟩)
          · exact held
          · exact skipped foreign
    rw [foldl_cons, ih, turn]
    simp only [mem_cons, exists_eq_or_imp, or_assoc]

omit lawful in
theorem restore_unexecutable (keyed : Keyed g.oneShotWorks) (workId : String) :
    workId ∈ (restore contracts record).unexecutableOneShot ↔
      ∃ work, g.oneShotWorks[workId]? = some work ∧
        isExecutableOneShotAction work.action = false := by
  rw [restore]
  rw [(perm_insertionSort _ _).mem_iff, mem_takeBack,
    foldl_keeps AppliedWorkGrant.unexecutableOneShot reAck fun runtime entry =>
      (reAck_rest runtime entry).2.2, (applied_oneShot ..).2, view.oneShot]
  simp only [not_mem_nil, false_or, mem_map, exists_exists_and_eq_and]
  constructor
  · rintro ⟨entry, mem, named, foreign⟩
    have found := ExtTreeMap.mem_toList_iff_getElem?_eq_some.1 mem
    have own : entry.1 = workId := (keyed entry.1 entry.2 found).symm.trans named
    exact ⟨entry.2, own ▸ found, foreign⟩
  · rintro ⟨work, found, foreign⟩
    exact ⟨(workId, work), ExtTreeMap.mem_toList_iff_getElem?_eq_some.2 found,
      keyed workId work found, foreign⟩

end Restore

/-! ## Which states survive a restart -/

/-- The view tells all: every work that is to be done has a spec that could be read, every one-shot
work that got anywhere is in hand, and those listed as not executable are the ones in hand with
such an action. -/
structure Recordable (g : AppliedWorkGrant) : Prop where
  readable : ∀ (workId : String) (work : AppliedWork), g.works[workId]? = some work →
    work.status = "active" → work.spec.isSome
  inHand : ∀ workId, g.executionOf workId ≠ oneShotUnexecuted → workId ∈ g.oneShotWorks
  listed : ∀ workId, workId ∈ g.unexecutableOneShot ↔
    ∃ work, g.oneShotWorks[workId]? = some work ∧ isExecutableOneShotAction work.action = false

/-- All of it can be looked up. -/
def Recordable.check (g : AppliedWorkGrant) : Bool :=
  (g.works.toList.all fun entry => entry.2.status != "active" || entry.2.spec.isSome) &&
    (g.oneShotExecution.toList.all fun entry =>
      entry.2 == oneShotUnexecuted || g.oneShotWorks.contains entry.1) &&
    (g.unexecutableOneShot.all fun workId =>
      g.oneShotWorks[workId]?.any fun work => !isExecutableOneShotAction work.action) &&
    g.oneShotWorks.toList.all fun entry =>
      isExecutableOneShotAction entry.2.action || g.unexecutableOneShot.contains entry.1

theorem Recordable.check_iff (g : AppliedWorkGrant) : check g = true ↔ Recordable g := by
  unfold check
  simp only [Bool.and_eq_true, all_eq_true, Prod.forall,
    ExtTreeMap.mem_toList_iff_getElem?_eq_some, Bool.or_eq_true, bne_iff_ne, beq_iff_eq,
    Option.any_eq_true, Bool.not_eq_true', contains_iff_mem]
  constructor
  · rintro ⟨⟨⟨readable, inHand⟩, sound⟩, complete⟩
    refine ⟨fun workId work found active => ?_, fun workId got => ?_, fun workId =>
      ⟨sound workId, ?_⟩⟩
    · exact (readable workId work found).resolve_left fun other => other active
    · unfold executionOf at got
      cases found : g.oneShotExecution[workId]? with
      | none => simp [found] at got
      | some execution =>
        rw [found] at got
        exact ExtTreeMap.contains_iff_mem.1 ((inHand workId execution found).resolve_left got)
    · rintro ⟨work, found, foreign⟩
      exact (complete workId work found).resolve_left (by simp [foreign])
  · rintro ⟨readable, inHand, listed⟩
    refine ⟨⟨⟨fun workId work found => ?_, fun workId execution found => ?_⟩, fun workId =>
      (listed workId).1⟩, fun workId work found => ?_⟩
    · exact or_iff_not_imp_left.2 fun active => readable workId work found (not_not.1 active)
    · refine or_iff_not_imp_left.2 fun got => ExtTreeMap.contains_iff_mem.2 (inHand workId ?_)
      simpa [executionOf, found] using got
    · cases foreign : isExecutableOneShotAction work.action with
      | true => exact .inl rfl
      | false => exact .inr ((listed workId).2 ⟨work, found, foreign⟩)

instance (g : AppliedWorkGrant) : Decidable (Recordable g) :=
  decidable_of_iff _ (Recordable.check_iff g)

theorem gist_reread {work : AppliedWork} (readable : work.status = "active" → work.spec.isSome) :
    work.reread.gist = work.gist := by
  by_cases active : work.status = "active"
  · obtain ⟨spec, held⟩ := Option.isSome_iff_exists.1 (readable active)
    simp [AppliedWork.reread, AppliedWork.gist, AppliedWork.isWorking, active, held]
  · simp [AppliedWork.reread, AppliedWork.gist, AppliedWork.isWorking, active]

/-- A dispatched one-shot work with nothing in it but an id and an action. -/
def bareOneShot (workId action : String) : OneShotWork :=
  oneShotOf
    { workId, action, spec := "", status := "dispatched", execution := "", scheduledAt := ""
      deadlineAt := "", timeoutSeconds := 0 }

@[simp] theorem bareOneShot_workId (workId action : String) :
    (bareOneShot workId action).workId = workId := rfl

@[simp] theorem bareOneShot_action (workId action : String) :
    (bareOneShot workId action).action = action := rfl

/-- A snapshot without standing works. -/
def bareGrant (oneShot : List OneShotWork) : WorkGrant :=
  { standing := [], oneShot, sequence := 0 }

theorem mem_newlyWorking {before now : BTreeMap AppliedWork} {workId : String} :
    workId ∈ newlyWorking before now ↔
      isWorkingAt now workId = true ∧ isWorkingAt before workId = false := by
  rw [newlyWorking, (perm_insertionSort _ _).mem_iff]
  simp only [mem_map, mem_filter, ExtTreeMap.mem_toList_iff_getElem?_eq_some,
    Bool.and_eq_true, Bool.not_eq_true', Prod.exists, exists_and_right, exists_eq_right]
  unfold isWorkingAt
  cases now[workId]? <;> simp

section Survives

variable {contracts : Contracts} (lawful : contracts.Lawful) {g : AppliedWorkGrant}
  {record : WorkRecord} (view : ViewOf contracts g record) (keyed : Keyed g.oneShotWorks)

include lawful view keyed in
theorem Recordable.follows (recordable : Recordable g) : Follows g (restore contracts record) where
  sequence := (restore_sequence view).symm
  works := by
    refine ExtTreeMap.ext_getElem? fun workId => ?_
    rw [ExtTreeMap.getElem?_map, ExtTreeMap.getElem?_map, restore_works_at lawful view]
    cases found : g.works[workId]? with
    | none => rfl
    | some work => simp [gist_reread (recordable.readable workId work found)]
  execution workId := by
    rw [restore_executionOf view keyed]
    split
    · rfl
    · rename_i missing
      exact Classical.byContradiction fun got => missing (recordable.inHand workId got)
  unexecutable workId := by
    rw [recordable.listed, restore_unexecutable view keyed]

/-- Equal courses have equal first outcomes. -/
theorem outcome_of_course {r : AppliedWorkGrant} {grant : WorkGrant}
    (same : r.course contracts [.grant grant] = g.course contracts [.grant grant]) :
    (r.apply contracts grant).1 = (g.apply contracts grant).1 := by
  simp only [course, courseFrom, advance, List.cons.injEq, Prod.mk.injEq, Option.some.injEq] at same
  exact same.2.1.1

include lawful in
/-- A snapshot of one upgrade asks for it if it is not known to have got anywhere. -/
theorem dispatch_bare (self : AppliedWorkGrant) (workId : String) :
    (self.apply contracts (bareGrant [bareOneShot workId "upgrade"])).1.oneShotToDispatch =
      if self.executionOf workId = oneShotUnexecuted then [bareOneShot workId "upgrade"] else [] := by
  have outstanding : contracts.isOutstanding (bareOneShot workId "upgrade") = true :=
    lawful.dispatched_outstanding _ rfl
  have executable : isExecutableOneShotAction "upgrade" = true := by decide +kernel
  simp [AppliedWorkGrant.apply, oneShotPass, oneShotTurn, outstanding, bareGrant, executable]

include lawful in
/-- A snapshot of one work that cannot be executed reports it if it was not listed. -/
theorem unexecutable_bare (self : AppliedWorkGrant) (workId : String) :
    (self.apply contracts (bareGrant [bareOneShot workId "snapshot"])).1.unexecutableOneShot =
      if workId ∈ self.unexecutableOneShot then [] else [workId] := by
  have outstanding : contracts.isOutstanding (bareOneShot workId "snapshot") = true :=
    lawful.dispatched_outstanding _ rfl
  have foreign : isExecutableOneShotAction "snapshot" = false := by decide +kernel
  simp [AppliedWorkGrant.apply, oneShotPass, oneShotTurn, outstanding, bareGrant, foreign]

include lawful view keyed in
/-- A snapshot that asks for nothing, for one upgrade or for one foreign action tells a restored
state from one that went on, unless the view told all. -/
theorem recordable_of_course
    (same : ∀ later, (restore contracts record).course contracts later = g.course contracts later) :
    Recordable g where
  readable workId work found active := by
    have stopped := congrArg ApplyOutcome.stopped (outcome_of_course (same [.grant (bareGrant [])]))
    change newlyWorking ∅ _ = newlyWorking ∅ _ at stopped
    have restored : workId ∈ newlyWorking ∅ (restore contracts record).works := by
      rw [mem_newlyWorking, isWorkingAt, restore_works_at lawful view, found]
      simp [AppliedWork.reread, AppliedWork.isWorking, active, isWorkingAt]
    rw [stopped, mem_newlyWorking, isWorkingAt, found] at restored
    exact (Bool.and_eq_true_iff.1 restored.1).2
  inHand workId got := by
    have dispatched := congrArg ApplyOutcome.oneShotToDispatch (outcome_of_course
      (same [.grant (bareGrant [bareOneShot workId "upgrade"])]))
    rw [dispatch_bare lawful, dispatch_bare lawful, if_neg got, restore_executionOf view keyed]
      at dispatched
    refine Classical.byContradiction fun missing => ?_
    simp [missing] at dispatched
  listed workId := by
    have reported := congrArg ApplyOutcome.unexecutableOneShot (outcome_of_course
      (same [.grant (bareGrant [bareOneShot workId "snapshot"])]))
    rw [unexecutable_bare lawful, unexecutable_bare lawful] at reported
    rw [← restore_unexecutable view keyed]
    by_cases restored : workId ∈ (restore contracts record).unexecutableOneShot <;>
      by_cases held : workId ∈ g.unexecutableOneShot <;> simp_all

end Survives

/-- **A restart goes unnoticed exactly from the states the view tells all about.** -/
theorem restore_unnoticed_iff {contracts : Contracts} (lawful : contracts.Lawful)
    (history : List WorkStep) (recordedAt : String)
    (granted : (reached contracts history).sequence ≠ 0) :
    ∃ record, (reached contracts history).deviceView contracts recordedAt = some record ∧
      ((∀ later, (restore contracts record).course contracts later =
          (reached contracts history).course contracts later) ↔
        Recordable (reached contracts history)) := by
  obtain ⟨record, viewed, view⟩ := deviceView_of granted recordedAt
  have keyed := keyed_reached contracts history
  refine ⟨record, viewed, recordable_of_course lawful view keyed, fun recordable later => ?_⟩
  exact ((recordable.follows lawful view keyed).courseFrom later none).symm

namespace Sample

def standing (spec : String) : StandingWork where
  workId := "w"
  family := "f"
  spec := spec
  planVersion := 1
  effectiveFrom := ""
  status := "active"

/-- A work without units and an upgrade that was dispatched. -/
def history : List WorkStep :=
  [.grant { standing := [standing (plainText { units := [] })]
            oneShot := [bareOneShot "up" "upgrade"], sequence := 1 },
   .acked "w" 1, .executed "up" "dispatched"]

/-- A work whose spec cannot be read. -/
def brokenHistory : List WorkStep :=
  [.grant { standing := [standing "?"], oneShot := [], sequence := 1 }]

end Sample

theorem restore_unnoticed_sample :
    (reached plainContracts Sample.history).sequence ≠ 0 ∧
      ∃ record, (reached plainContracts Sample.history).deviceView plainContracts "" = some record ∧
        ∀ later, (restore plainContracts record).course plainContracts later =
          (reached plainContracts Sample.history).course plainContracts later := by
  have granted : (reached plainContracts Sample.history).sequence ≠ 0 := by decide +kernel
  obtain ⟨record, viewed, iff⟩ :=
    restore_unnoticed_iff plainContracts_lawful Sample.history "" granted
  exact ⟨granted, record, viewed, iff.2 (by decide +kernel)⟩

/-- A work that never started is reported as stopped after a restart. -/
theorem restart_noticed :
    plainContracts.Lawful ∧ (reached plainContracts Sample.brokenHistory).sequence ≠ 0 ∧
      ∃ record, (reached plainContracts Sample.brokenHistory).deviceView plainContracts "" =
          some record ∧
        ((restore plainContracts record).apply plainContracts (bareGrant [])).1.stopped = ["w"] ∧
        ((reached plainContracts Sample.brokenHistory).apply plainContracts
          (bareGrant [])).1.stopped = [] := by
  have final : ((reached plainContracts Sample.brokenHistory).deviceView plainContracts "").map
      (fun record =>
        ((restore plainContracts record).apply plainContracts (bareGrant [])).1.stopped) =
      some ["w"] := by decide +kernel
  obtain ⟨record, viewed, stopped⟩ := Option.map_eq_some_iff.1 final
  exact ⟨plainContracts_lawful, by decide +kernel, record, viewed, stopped, by decide +kernel⟩

end AppliedWorkGrant

end WistAgentd.Control

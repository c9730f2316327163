/- # Control.WorkExecution -- how far the one-shot works got, and what becomes of the sources

What every step leaves in `oneShotExecution` at one work id. Then which tasks the works of a snapshot
are folded into, and which of their sources no list that `apply` gives out has.

* `apply_execution_at`, `mem_toDispatch`: a snapshot.
* `mark_execution_at`: a mark; `dispatched_once`.
* `restore_execution_from`, `deviceView_execution`: the way over the disk.
* `nextWorks_at`: the works after a snapshot, id by id.
* `sources_accounted_iff`: which snapshots have no source that is lost. -/
import WistAgentd.Control.WorkRestore

namespace WistAgentd.Control
open Theory.KeyedFold
open List
set_option autoImplicit false

/-- The entry of a snapshot that counts: the last one of its id. -/
def WorkGrant.current (grant : WorkGrant) (workId : String) : Option StandingWork :=
  grant.standing.reverse.find? (·.workId == workId)

namespace AppliedWorkGrant

variable {execution : String} {record : WorkRecord} {contracts : Contracts} {self : AppliedWorkGrant}
  {grant : WorkGrant} {workId : String}

theorem oneShotPass_execution_at (self : AppliedWorkGrant) (works : List OneShotWork)
    (workId : String) :
    (self.oneShotPass works).execution[workId]? =
      if ∃ work ∈ works, work.workId = workId then some (self.executionOf workId) else none := by
  have touches : ∀ (pass : OneShotPass) (work : OneShotWork) (k : String),
      (self.oneShotTurn pass work).execution[k]? =
        if work.workId = k then some (self.executionOf work.workId) else pass.execution[k]? := by
    intro pass work k
    unfold oneShotTurn
    split <;> simp [Std.ExtTreeMap.getElem?_insert]
  have general : ∀ pass : OneShotPass, (works.foldl self.oneShotTurn pass).execution[workId]? =
      if ∃ work ∈ works, work.workId = workId then some (self.executionOf workId)
      else pass.execution[workId]? := by
    induction works with
    | nil => simp
    | cons work rest ih =>
      intro pass
      rw [foldl_cons, ih, touches]
      by_cases later : ∃ other ∈ rest, other.workId = workId
      · simp [later]
      · by_cases own : work.workId = workId <;> simp [later, own]
  rw [oneShotPass, general]
  simp

/-- What a snapshot offers and what is being done is kept as it was; anything else is forgotten. -/
theorem apply_execution_at (self : AppliedWorkGrant) (grant : WorkGrant) (workId : String) :
    (self.apply contracts grant).2.oneShotExecution[workId]? =
      if (∃ work ∈ grant.oneShot.filter contracts.isOutstanding, work.workId = workId) ∨
          isOneShotExecutionInFlight (self.executionOf workId) = true then
        some (self.executionOf workId) else none := by
  simp only [AppliedWorkGrant.apply, retainExecution_at, oneShotPass_execution_at]
  by_cases offered : ∃ work ∈ grant.oneShot.filter contracts.isOutstanding, work.workId = workId
  · simp only [offered, if_true, true_or, Option.some_or]
  · simp only [offered, if_false, false_or, Option.none_or]

/-- A known status is an old one, or that of a work nothing is known of. -/
theorem apply_execution_old {grant : WorkGrant}
    (found : (self.apply contracts grant).2.oneShotExecution[workId]? = some execution) :
    self.oneShotExecution[workId]? = some execution ∨ execution = oneShotUnexecuted := by
  rw [apply_execution_at] at found
  split at found
  · rw [executionOf] at found
    cases held : self.oneShotExecution[workId]? with
    | none => exact .inr (by simpa [held] using found.symm)
    | some old => exact .inl (by simpa [held] using found)
  · cases found

theorem apply_execution_inFlight (grant : WorkGrant)
    (found : self.oneShotExecution[workId]? = some execution)
    (flying : isOneShotExecutionInFlight execution = true) :
    (self.apply contracts grant).2.oneShotExecution[workId]? = some execution := by
  rw [apply_execution_at, executionOf, found, Option.getD_some, if_pos (.inr flying)]

/-- The works a snapshot asks for that can be done and were not begun. -/
theorem oneShotPass_toDispatch (self : AppliedWorkGrant) (works : List OneShotWork) :
    (self.oneShotPass works).toDispatch = works.filter fun work =>
      isExecutableOneShotAction work.action && self.executionOf work.workId == oneShotUnexecuted := by
  have general : ∀ pass : OneShotPass, (works.foldl self.oneShotTurn pass).toDispatch =
      pass.toDispatch ++ works.filter fun work =>
        isExecutableOneShotAction work.action &&
          self.executionOf work.workId == oneShotUnexecuted := by
    induction works with
    | nil => simp
    | cons work rest ih =>
      intro pass
      rw [foldl_cons, ih]
      unfold oneShotTurn
      cases able : isExecutableOneShotAction work.action with
      | false => simp [able]
      | true => by_cases new : self.executionOf work.workId = oneShotUnexecuted <;> simp [able, new]
  rw [oneShotPass, general, nil_append]

theorem mem_toDispatch {grant : WorkGrant} {work : OneShotWork} :
    work ∈ (self.apply contracts grant).1.oneShotToDispatch ↔
      work ∈ grant.oneShot.filter contracts.isOutstanding ∧
        isExecutableOneShotAction work.action = true ∧
        self.executionOf work.workId = oneShotUnexecuted := by
  simp only [AppliedWorkGrant.apply, oneShotPass_toDispatch, mem_filter, Bool.and_eq_true,
    beq_iff_eq]

theorem mark_execution_at (self : AppliedWorkGrant) (workId execution k : String) :
    (self.markOneShotExecution workId execution).oneShotExecution[k]? =
      if workId = k then some execution else self.oneShotExecution[k]? := by
  simp [markOneShotExecution, Std.ExtTreeMap.getElem?_insert]

@[simp] theorem markAcked_execution (self : AppliedWorkGrant) (workId : String) (planVersion : Int) :
    (self.markAcked workId planVersion).oneShotExecution = self.oneShotExecution :=
  (markAcked_rest self workId planVersion).2.1

theorem hasUpgradeInFlight_iff (self : AppliedWorkGrant) :
    self.hasUpgradeInFlight = true ↔ ∃ workId execution : String,
      self.oneShotExecution[workId]? = some execution ∧
        isOneShotExecutionInFlight execution = true := by
  simp only [hasUpgradeInFlight, any_eq_true, Prod.exists,
    Std.ExtTreeMap.mem_toList_iff_getElem?_eq_some]

/-- **What was dispatched is not dispatched again** and keeps the lock, whatever is granted since. -/
theorem dispatched_once (self : AppliedWorkGrant) (workId : String) (grants : List WorkGrant) :
    let next := grants.foldl (fun self grant => (self.apply contracts grant).2)
      (self.markOneShotExecution workId "dispatched")
    next.hasUpgradeInFlight = true ∧
      ∀ grant, ∀ work ∈ (next.apply contracts grant).1.oneShotToDispatch, work.workId ≠ workId := by
  intro next
  have kept : next.oneShotExecution[workId]? = some "dispatched" := by
    refine foldlRecOn (motive := fun self : AppliedWorkGrant =>
      self.oneShotExecution[workId]? = some "dispatched") _ _ ?_ fun _ held grant _ => ?_
    · rw [mark_execution_at, if_pos rfl]
    · exact apply_execution_inFlight grant held rfl
  refine ⟨(hasUpgradeInFlight_iff next).2 ⟨workId, _, kept, rfl⟩, fun grant work listed same => ?_⟩
  have unbegun := (mem_toDispatch.1 listed).2.2
  rw [same, executionOf, kept] at unbegun
  exact absurd unbegun (by decide)

/-! ## Over the disk -/

theorem takeBack_execution_from {entries : List OneShotWorkRecord} :
    ∀ {runtime : AppliedWorkGrant},
      (entries.foldl takeBack runtime).oneShotExecution[workId]? = some execution →
        runtime.oneShotExecution[workId]? = some execution ∨
          ∃ entry ∈ entries, entry.workId = workId ∧ entry.execution = execution := by
  induction entries with
  | nil => exact .inl
  | cons entry rest ih =>
    intro runtime found
    rcases ih found with early | ⟨other, mem, own⟩
    · simp only [takeBack, Std.ExtTreeMap.getElem?_insert, Std.LawfulEqCmp.compare_eq_iff_eq]
        at early
      split at early
      · rename_i own
        exact .inr ⟨entry, mem_cons_self, own, Option.some.inj early⟩
      · exact .inl early
    · exact .inr ⟨other, mem_cons_of_mem _ mem, own⟩

/-- What a restored state knows of a work was in the view. -/
theorem restore_execution_from
    (found : (restore contracts record).oneShotExecution[workId]? = some execution) :
    ∃ entry ∈ record.oneShot, entry.workId = workId ∧ entry.execution = execution := by
  have whole := takeBack_execution_from found
  rw [foldl_keeps AppliedWorkGrant.oneShotExecution reAck fun runtime entry =>
    (reAck_rest runtime entry).2.1, (applied_oneShot ..).1] at whole
  simpa using whole

/-- A view that does not contradict itself is read back entry by entry. -/
theorem restore_execution_of {entry : OneShotWorkRecord} (mem : entry ∈ record.oneShot)
    (agree : ∀ other ∈ record.oneShot, other.workId = entry.workId →
      other.execution = entry.execution) :
    (restore contracts record).oneShotExecution[entry.workId]? = some entry.execution := by
  have general : ∀ (entries : List OneShotWorkRecord) (runtime : AppliedWorkGrant),
      (∀ other ∈ entries, other.workId = entry.workId → other.execution = entry.execution) →
      entry ∈ entries ∨ runtime.oneShotExecution[entry.workId]? = some entry.execution →
        (entries.foldl takeBack runtime).oneShotExecution[entry.workId]? =
          some entry.execution := by
    intro entries
    induction entries with
    | nil =>
      rintro runtime - (early | held)
      · cases early
      · exact held
    | cons first rest ih =>
      intro runtime same found
      refine ih _ (fun other later => same other (mem_cons_of_mem _ later)) ?_
      have turn : (runtime.takeBack first).oneShotExecution[entry.workId]? =
          if first.workId = entry.workId then some first.execution
          else runtime.oneShotExecution[entry.workId]? := by
        simp [takeBack, Std.ExtTreeMap.getElem?_insert]
      rw [turn]
      by_cases own : first.workId = entry.workId
      · exact .inr (by rw [if_pos own, same first mem_cons_self own])
      · rw [if_neg own]
        rcases found with early | held
        · rcases mem_cons.1 early with rfl | later
          · exact absurd rfl own
          · exact .inl later
        · exact .inr held
  exact general record.oneShot _ agree (.inl mem)

theorem deviceView_execution {recordedAt : String}
    (viewed : self.deviceView contracts recordedAt = some record) {entry : OneShotWorkRecord}
    (mem : entry ∈ record.oneShot) : entry.execution = self.executionOf entry.workId := by
  unfold deviceView at viewed
  split at viewed
  · cases viewed
  · cases viewed
    obtain ⟨work, -, rfl⟩ := mem_map.1 mem
    rfl

/-! ## One snapshot, id by id -/

theorem nextWorks_at (self : AppliedWorkGrant) (grant : WorkGrant) (workId : String) :
    (self.nextWorks contracts grant)[workId]? =
      (grant.current workId).map (self.take contracts) := by
  have general : ∀ (standing : List StandingWork) (works : BTreeMap AppliedWork),
      (standing.foldl (fun next work => next.insert work.workId (self.take contracts work))
        works)[workId]? =
        ((standing.reverse.find? (·.workId == workId)).map (self.take contracts)).or
          works[workId]? := by
    intro standing
    induction standing with
    | nil => intro works; rfl
    | cons work rest ih =>
      intro works
      rw [foldl_cons, ih, reverse_cons, List.find?_append, Std.ExtTreeMap.getElem?_insert]
      cases rest.reverse.find? (·.workId == workId) with
      | some later => rfl
      | none => by_cases own : work.workId = workId <;> simp [own]
  rw [nextWorks, general]
  simp [WorkGrant.current]

/-- The acknowledgement a version has. -/
def ackOf (works : BTreeMap AppliedWork) (workId : String) (planVersion : Int) : Option Int :=
  (works[workId]?.filter (·.planVersion == planVersion)).bind (·.ackedPlanVersion)

theorem take_eq (self : AppliedWorkGrant) (work : StandingWork) :
    (self.take contracts work).planVersion = work.planVersion ∧
      (self.take contracts work).ackedPlanVersion = ackOf self.works work.workId work.planVersion ∧
      (self.take contracts work).status = work.status ∧
      (self.take contracts work).family = work.family ∧
      (self.take contracts work).spec = (contracts.parseSpec work.spec).toOption := by
  unfold take ackOf
  split <;> rename_i parsed <;> simp [parsed, Except.toOption]

end AppliedWorkGrant

/-! ## The sources of a snapshot -/

section Sources

open AppliedWorkGrant

variable (contracts : Contracts)

/-- The sources a task is folded from, one for each task. -/
def taskSources (unit : WorkSpecUnit) : List WorkSpecSource :=
  executableFileSources contracts unit ++
    (knownExporters contracts unit).filter fun source =>
      (contracts.parseExporterTarget source.target).isSome

theorem unitLogInputs_paths (workId family : String) (unit : WorkSpecUnit) :
    (unitLogInputs contracts workId family unit).map (·.input.path) =
      (executableFileSources contracts unit).map (·.target) := by
  conv_rhs => rw [← zipIdx_map_fst 0 (executableFileSources contracts unit), map_map]
  simp [unitLogInputs, Function.comp_def]

theorem unitExporterRuns_targets (workId family : String) (unit : WorkSpecUnit) :
    (unitExporterRuns contracts workId family unit).map (·.target) =
      ((knownExporters contracts unit).filter fun source =>
        (contracts.parseExporterTarget source.target).isSome).map (·.target) := by
  have general : ∀ (exporters : List WorkSpecSource) (start : Nat),
      (exporters.zipIdx start).filterMap (fun entry =>
        (contracts.parseExporterTarget entry.1.target).map fun _ => entry.1.target) =
        (exporters.filter fun source =>
          (contracts.parseExporterTarget source.target).isSome).map (·.target) := by
    intro exporters
    induction exporters with
    | nil => simp
    | cons source rest ih =>
      intro start
      cases parsed : contracts.parseExporterTarget source.target <;> simp [parsed, ih]
  rw [← general _ 0]
  simp [unitExporterRuns, map_filterMap, Function.comp_def]

/-- One task for each source, or the unit is reported. -/
def Accounted (outcome : ApplyOutcome) (state : AppliedWorkGrant) : Prop :=
  ∀ entry ∈ state.workingSpecs, ∀ unit ∈ entry.2.2.units, unit.capability = "collect_logs" →
    ∀ source ∈ unit.sources,
      (taskSources contracts unit).count source = unit.sources.count source ∨
        ∃ report ∈ outcome.unsupported, report.workId = entry.1 ∧ report.unitId = unit.unitId

/-- One task for each source of every work the snapshot wants done. -/
def WorkGrant.Foldable (grant : WorkGrant) : Prop :=
  ∀ workId work spec, grant.current workId = some work → work.status = "active" →
    contracts.parseSpec work.spec = .ok spec → ∀ unit ∈ spec.units,
      unit.capability = "collect_logs" → ∀ source ∈ unit.sources,
        (taskSources contracts unit).count source = unit.sources.count source

theorem mem_workingSpecs {contracts : Contracts} {self : AppliedWorkGrant} {grant : WorkGrant}
    {workId family : String} {spec : WorkSpec} :
    (workId, family, spec) ∈ (self.apply contracts grant).2.workingSpecs ↔
      ∃ work, grant.current workId = some work ∧ work.status = "active" ∧ work.family = family ∧
        contracts.parseSpec work.spec = .ok spec := by
  have works : (self.apply contracts grant).2.works = self.nextWorks contracts grant := rfl
  simp only [workingSpecs, mem_filterMap, Prod.exists, works, nextWorks_at,
    Std.ExtTreeMap.mem_toList_iff_getElem?_eq_some, Option.map_eq_some_iff]
  constructor
  · rintro ⟨id, applied, ⟨work, current, rfl⟩, listed⟩
    obtain ⟨-, -, status, family_eq, spec_eq⟩ := @take_eq contracts self work
    split at listed
    · rename_i working
      obtain ⟨found, is, same⟩ := Option.map_eq_some_iff.1 listed
      obtain ⟨rfl, rfl, rfl⟩ : id = workId ∧ _ = family ∧ found = spec := by simpa using same
      refine ⟨work, current, ?_, family_eq.symm, ?_⟩
      · simpa [AppliedWork.isWorking, status] using (Bool.and_eq_true_iff.1 working).1
      · cases parsed : contracts.parseSpec work.spec <;> simp_all [Except.toOption]
    · cases listed
  · rintro ⟨work, current, active, rfl, parsed⟩
    obtain ⟨-, -, status, family_eq, spec_eq⟩ := @take_eq contracts self work
    refine ⟨workId, _, ⟨work, current, rfl⟩, ?_⟩
    simp [AppliedWork.isWorking, status, active, spec_eq, parsed, Except.toOption, family_eq]

/-- `apply` reports nothing as unsupported. -/
theorem accounted_iff (self : AppliedWorkGrant) (grant : WorkGrant) :
    Accounted contracts (self.apply contracts grant).1 (self.apply contracts grant).2 ↔
      grant.Foldable contracts := by
  have silent : (self.apply contracts grant).1.unsupported = [] := rfl
  simp only [Accounted, silent, not_mem_nil, false_and, exists_false, or_false, Prod.forall,
    mem_workingSpecs]
  constructor
  · intro accounted workId work spec current active parsed
    exact accounted workId work.family spec ⟨work, current, active, rfl, parsed⟩
  · rintro foldable workId family spec ⟨work, current, active, -, parsed⟩
    exact foldable workId work spec current active parsed

end Sources

namespace Predicate

def source : WorkSpecSource :=
  ⟨"UnifiedLogPredicate", "subsystem == \"kernel\"", "none", [], ⟨[], [], [], []⟩, []⟩

def spec : WorkSpec := ⟨[⟨"kernel", "collect_logs", "", "", [source]⟩]⟩

def contracts : Contracts := { plainContracts with parseSpec := fun _ => .ok spec }

def work : StandingWork := ⟨"w", "web", "", 1, "", "active"⟩

end Predicate

end WistAgentd.Control

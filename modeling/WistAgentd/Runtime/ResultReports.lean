/- # Runtime.ResultReports -- results reach the control plane before they count

A one-shot work is settled locally when its status is final. That should follow a report the control
plane accepted, and the reports should not contradict each other.

* `ResultsReported`: what is asked.
* `Orderly`: upgraders start when they are launched, a final result is answered with something else
  than acceptance only after it was accepted, and nobody writes a record against what the daemon has
  already concluded.
* `results_reported`: along every orderly run, crashes and lost reports included. -/
import WistAgentd.Runtime.UpgradeLock

namespace WistAgentd.Runtime
open Control Control.AppliedWorkGrant
open Theory.Interaction Theory.Interaction.Service
open Theory.Transition
open List Option
set_option autoImplicit false

variable {record : UpgradeRecord} {workId status : String}

/-- A local status that settles the work. -/
def isFinalExecution (execution : String) : Bool :=
  ["succeeded", "failed", "rolled_back", "rejected"].contains execution

/-- The result it stands for in the control plane's terms. -/
def resultFor (execution : String) : String :=
  if execution == "succeeded" then "succeeded" else "failed"

structure ResultsReported (host : Host) : Prop where
  /-- A final status has its result accepted. -/
  settled : ∀ workId execution : String, host.runtime.oneShotExecution[workId]? = some execution →
    isFinalExecution execution = true → (workId, resultFor execution) ∈ host.ledger.accepted
  /-- No two final results of one work. -/
  single : ∀ workId first second, (workId, first) ∈ host.ledger.received →
    (workId, second) ∈ host.ledger.received → isFinalResult first = true →
    isFinalResult second = true → first = second

/-- The final result a record leads to if nothing is written any more. -/
def leadsTo (record : UpgradeRecord) : Option String :=
  if record.status == "running" then some "failed" else (workResultOf record).map (·.1)

/-- The record does not contradict a final result the daemon has read. -/
def Agrees (ledger : Ledger) (record : UpgradeRecord) : Prop :=
  ∀ verdict ∈ ledger.verdicts, verdict.1 = record.workId →
    leadsTo record = none ∨ leadsTo record = some verdict.2
deriving Decidable

/-- It is written while the daemon is not about to judge the work by its heartbeat. -/
def Timely (ledger : Ledger) (record : UpgradeRecord) : Prop :=
  ledger.consulting ≠ some record.workId ∧ Agrees ledger record
deriving Decidable

/-- The record the upgrader would write. -/
def Host.recordBy (host : Host) (pid : Nat) (fromVersion toVersion step status detail : String) :
    Option UpgradeRecord :=
  (host.upgraderAt pid).map fun upgrader =>
    ⟨upgrader.workId, fromVersion, toVersion, step, status, detail⟩

/-- Whether an upgrader that was to be launched could not be. -/
def failsLaunch : Option Op → Choice → Bool
  | some (.dispatchUpgrade _), .refused _ => true
  | _, _ => false

/-- Whether a final result the control plane has not taken over is answered `stale` or `unknown`.
The daemon takes that for a report that got through. -/
def turnsDown (ledger : Ledger) : Option Op → Choice → Bool
  | some (.reportWorkResult workId status _), .replied reply =>
    isFinalResult status && reply != .accepted && !ledger.accepted.contains (workId, status)
  | _, _ => false

def Orderly (system : System) : Event → Prop
  | .act choice => failsLaunch system.asks choice = false ∧
      turnsDown system.host.ledger system.asks choice = false
  | .nature (.write pid fromVersion toVersion step status detail) =>
    ∀ record ∈ system.host.recordBy pid fromVersion toVersion step status detail,
      Timely system.host.ledger record
  | .nature (.replace (.intact record)) => Timely system.host.ledger record
  | _ => True

instance (system : System) : (event : Event) → Decidable (Orderly system event)
  | .act _ => inferInstanceAs (Decidable (_ ∧ _))
  | .nature (.write pid fromVersion toVersion step status detail) =>
    inferInstanceAs (Decidable (∀ record ∈
      system.host.recordBy pid fromVersion toVersion step status detail, _))
  | .nature (.replace (.intact _)) => inferInstanceAs (Decidable (Timely _ _))
  | .nature (.replace .missing) | .nature (.replace .corrupt) | .nature (.tick _)
  | .nature (.touch _) | .nature (.exit _) | .start | .begin _ | .finish | .crash => .isTrue trivial

/-! ## The invariant -/

structure Truthful (host : Host) : Prop where
  memory : ∀ workId execution : String, host.runtime.oneShotExecution[workId]? = some execution →
    isFinalExecution execution = true → (workId, resultFor execution) ∈ host.ledger.accepted
  disk : ∀ record, host.workFile = .intact record → ∀ entry ∈ record.oneShot,
    isFinalExecution entry.execution = true →
      (entry.workId, resultFor entry.execution) ∈ host.ledger.accepted
  /-- What reached the control plane was read first. -/
  read : ∀ workId status, (workId, status) ∈ host.ledger.received → isFinalResult status = true →
    (workId, status) ∈ host.ledger.verdicts
  single : ∀ workId first second, (workId, first) ∈ host.ledger.verdicts →
    (workId, second) ∈ host.ledger.verdicts → first = second
  agrees : ∀ record, host.upgradeFile = .intact record → Agrees host.ledger record
  /-- A work about to be judged by its heartbeat is recorded as running, if it is recorded. -/
  consulting : ∀ workId, host.ledger.consulting = some workId →
    (∀ status, (workId, status) ∈ host.ledger.verdicts → status = "failed") ∧
    ∀ record, host.upgradeFile = .intact record → record.workId = workId → record.status = "running"

theorem Truthful.results {host : Host} (truthful : Truthful host) : ResultsReported host where
  settled := truthful.memory
  single workId first second one other finalOne finalOther :=
    truthful.single workId first second (truthful.read workId first one finalOne)
      (truthful.read workId second other finalOther)

theorem leadsTo_running (running : record.status = "running") : leadsTo record = some "failed" := by
  rw [leadsTo, if_pos (by simpa using running)]

theorem leadsTo_other (other : record.status ≠ "running") :
    leadsTo record = (workResultOf record).map (·.1) := by
  rw [leadsTo, if_neg (by simpa using other)]

/-! ## Looking at the files -/

section Look

variable {host : Host} {record : UpgradeRecord}

/-- No look is under way any more. -/
theorem Truthful.lookAway (truthful : Truthful host) :
    Truthful { host with ledger := { host.ledger with consulting := none } } :=
  { truthful with consulting := nofun }

/-- A final result is read that neither an earlier one nor the record contradicts. -/
theorem Truthful.conclude (truthful : Truthful host)
    (earlier : ∀ other, (workId, other) ∈ host.ledger.verdicts → other = status)
    (file : ∀ record, host.upgradeFile = .intact record → record.workId = workId →
      leadsTo record = some status) :
    Truthful { host with ledger := { host.ledger with
      verdicts := host.ledger.verdicts ++ [(workId, status)], consulting := none } } := by
  refine { truthful with
    read := fun other result received final =>
      mem_append_left _ (truthful.read other result received final)
    single := fun other first second one two => ?_
    agrees := fun record stored verdict mem own => ?_
    consulting := nofun }
  · -- two of one work
    rcases mem_append.1 one with old | new <;> rcases mem_append.1 two with old' | new'
    · exact truthful.single other first second old old'
    · obtain ⟨rfl, rfl⟩ := Prod.mk.inj (mem_singleton.1 new')
      exact earlier first old
    · obtain ⟨rfl, rfl⟩ := Prod.mk.inj (mem_singleton.1 new)
      exact (earlier second old').symm
    · obtain ⟨rfl, rfl⟩ := Prod.mk.inj (mem_singleton.1 new)
      obtain ⟨-, rfl⟩ := Prod.mk.inj (mem_singleton.1 new')
      rfl
  · rcases mem_append.1 mem with old | new
    · exact truthful.agrees record stored verdict old own
    · obtain rfl := mem_singleton.1 new
      exact .inr (file record stored own.symm)

theorem Truthful.noteRead (truthful : Truthful host) (stored : host.upgradeFile = .intact record) :
    Truthful (host.noteRead record) := by
  have agrees := truthful.agrees record stored
  have own : ∀ other, host.upgradeFile = .intact other → other = record := by
    intro other found
    rw [stored] at found
    cases found
    rfl
  unfold Host.noteRead
  split
  · by_cases running : record.status = "running"
    · rw [if_pos (by simpa using running)]
      refine { truthful with consulting := ?_ }
      rintro workId ⟨⟩
      refine ⟨fun status verdict => ?_, fun other found _ => by rw [own other found, running]⟩
      have told := agrees _ verdict rfl
      rw [leadsTo_running running] at told
      simpa [eq_comm] using told
    · rw [if_neg (by simpa using running)]
      cases mapped : workResultOf record with
      | none => exact truthful.lookAway
      | some result =>
        have leads : leadsTo record = some result.1 := by rw [leadsTo_other running, mapped]; rfl
        refine truthful.conclude (fun other verdict => ?_) fun other found _ => by
          rw [own other found, leads]
        have told := agrees _ verdict rfl
        rw [leads] at told
        simpa [eq_comm] using told
  · exact truthful.lookAway

theorem noteRead_consulting (known : host.runtime.oneShotExecution.contains record.workId = true)
    (running : record.status = "running") :
    (host.noteRead record).ledger.consulting = some record.workId := by
  rw [Host.noteRead, if_pos known, if_pos (by simpa using running)]

theorem noteRead_verdict (known : host.runtime.oneShotExecution.contains record.workId = true)
    (other : record.status ≠ "running") {detail : String}
    (mapped : workResultOf record = some (status, detail)) :
    (record.workId, status) ∈ (host.noteRead record).ledger.verdicts := by
  rw [Host.noteRead, if_pos known, if_neg (by simpa using other), mapped]
  simp

theorem Truthful.noteHeartbeat (truthful : Truthful host) : Truthful host.noteHeartbeat := by
  unfold Host.noteHeartbeat
  split
  · rename_i workId looking
    obtain ⟨earlier, file⟩ := truthful.consulting workId looking
    split
    · exact truthful.lookAway
    · exact truthful.conclude earlier fun record stored own =>
        leadsTo_running (file record stored own)
  · exact truthful

theorem noteHeartbeat_verdict (looking : host.ledger.consulting = some workId)
    (stale : isFresh host.clock host.heartbeat = false) :
    (workId, "failed") ∈ host.noteHeartbeat.ledger.verdicts := by
  rw [Host.noteHeartbeat, looking]
  simp [stale]

end Look

/-! ## Reports and marks -/

section Reports

variable {host : Host}

theorem Truthful.receive {reply : Reply} (truthful : Truthful host)
    (seen : isFinalResult status = true → (workId, status) ∈ host.ledger.verdicts) :
    Truthful (host.receive workId status reply) := by
  refine { truthful with
    memory := fun other execution found final =>
      Host.mem_accepted_receive.2 (.inl (truthful.memory other execution found final))
    disk := fun record stored entry mem final =>
      Host.mem_accepted_receive.2 (.inl (truthful.disk record stored entry mem final))
    read := fun other result received final => ?_ }
  rcases mem_append.1 received with old | new
  · exact truthful.read other result old final
  · obtain ⟨rfl, rfl⟩ := Prod.mk.inj (mem_singleton.1 new)
    exact seen final

/-- A final result that is not turned down has been taken over once it is answered. -/
theorem accepted_of_answered {detail : String} {reply : Reply} (final : isFinalResult status = true)
    (kept : turnsDown host.ledger (some (.reportWorkResult workId status detail))
      (.replied reply) = false) :
    (workId, status) ∈ (host.receive workId status reply).ledger.accepted := by
  refine Host.mem_accepted_receive.2 ?_
  by_cases taken : reply = .accepted
  · exact .inr ⟨taken, rfl⟩
  · simpa [turnsDown, final, taken] using kept

/-- The memory is replaced by one that knows no more final results, or accepted ones. -/
theorem Truthful.remember (truthful : Truthful host) {runtime : AppliedWorkGrant}
    (known : ∀ workId execution : String, runtime.oneShotExecution[workId]? = some execution →
      isFinalExecution execution = true →
        host.runtime.oneShotExecution[workId]? = some execution ∨
          (workId, resultFor execution) ∈ host.ledger.accepted) :
    Truthful (host.remember runtime) := by
  refine { truthful with memory := fun workId execution found final => ?_ }
  rcases known workId execution found final with old | accepted
  · exact truthful.memory workId execution old final
  · exact accepted

theorem Truthful.apply {contracts : Contracts} (truthful : Truthful host) (grant : WorkGrant) :
    Truthful (host.remember (host.runtime.apply contracts grant).2) := by
  refine truthful.remember fun workId execution found final => ?_
  rcases apply_execution_old found with old | rfl
  · exact .inl old
  · exact absurd final (by decide)

theorem Truthful.mark (truthful : Truthful host) {execution : String}
    (accepted : isFinalExecution execution = true →
      (workId, resultFor execution) ∈ host.ledger.accepted) :
    Truthful (host.remember (host.runtime.markOneShotExecution workId execution)) := by
  refine truthful.remember fun other status found final => ?_
  rw [mark_execution_at] at found
  split at found
  · rename_i same
    cases found
    exact .inr (same ▸ accepted final)
  · exact .inl found

theorem Truthful.store {contracts : Contracts} {recordedAt : String} {record : WorkRecord}
    (truthful : Truthful host) (viewed : host.runtime.deviceView contracts recordedAt = some record) :
    Truthful { host with workFile := .intact record } := by
  refine { truthful with disk := fun other stored entry mem final => ?_ }
  cases stored
  have known := deviceView_execution viewed mem
  rw [executionOf] at known
  cases found : host.runtime.oneShotExecution[entry.workId]? with
  | none =>
    rw [found, getD_none] at known
    rw [known] at final
    exact absurd final (by decide)
  | some execution =>
    rw [found, getD_some] at known
    rw [known] at final ⊢
    exact truthful.memory entry.workId execution found final

theorem Truthful.boot (contracts : Contracts) (truthful : Truthful host) :
    Truthful (host.boot contracts) := by
  refine { truthful with memory := fun workId execution found final => ?_ }
  unfold Host.boot at found
  split at found
  · rename_i record stored
    obtain ⟨entry, mem, rfl, rfl⟩ := restore_execution_from found
    exact truthful.disk record stored entry mem final
  · simp at found

theorem Truthful.crash (truthful : Truthful host) : Truthful host.crash :=
  { truthful with
    memory := fun workId execution found => by simp [Host.crash] at found
    consulting := nofun }

/-- A record is written in time. -/
theorem Truthful.rewrite (truthful : Truthful host) {stored : Exec.Stored UpgradeRecord}
    (timely : ∀ record, stored = .intact record → Timely host.ledger record) :
    Truthful { host with upgradeFile := stored } :=
  { truthful with
    agrees := fun record found => (timely record found).2
    consulting := fun workId looking =>
      ⟨(truthful.consulting workId looking).1, fun record found own =>
        absurd (own ▸ looking) (timely record found).1⟩ }

theorem isFinalResult_resultFor (execution : String) :
    isFinalResult (resultFor execution) = true := by
  unfold resultFor
  split <;> decide

/-- What is taken over is what was reported. -/
theorem resultFor_localStatus {dead : Bool} {detail : String}
    (mapped : resultOf record dead = some (status, detail))
    (final : isFinalExecution (localStatus record dead) = true) :
    resultFor (localStatus record dead) = status := by
  cases dead with
  | true =>
    obtain ⟨rfl, -⟩ := Prod.mk.inj (some.inj mapped)
    rfl
  | false =>
    change workResultOf record = _ at mapped
    change isFinalExecution record.status = true at final
    change resultFor record.status = status
    unfold workResultOf at mapped
    simp only [isFinalExecution, contains_cons, contains_nil, Bool.or_false,
      Bool.or_eq_true, beq_iff_eq] at final
    rcases final with held | held | held | held <;> rw [held] at mapped ⊢ <;> simp at mapped
    all_goals
      rw [← mapped.1]
      rfl

end Reports

/-! ## Every poll -/

/-- What is reported of the record as final has been read. -/
def Concluded (record : UpgradeRecord) (dead : Bool) (host : Host) : Prop :=
  ∀ status detail, resultOf record dead = some (status, detail) → isFinalResult status = true →
    (record.workId, status) ∈ host.ledger.verdicts

def reportPhases : Phases where
  rely host later := later.runtime = host.runtime ∧ later.ledger = host.ledger ∧
    (Truthful host → Truthful later)
  allowed op choice host := failsLaunch (some op) choice = false ∧
    turnsDown host.ledger (some op) choice = false
  always := Truthful
  holds
    | .refused _ _ | .rejected _ _ => fun _ => False
    | .read record => fun host => Truthful host ∧
        (record.status = "running" → host.ledger.consulting = some record.workId) ∧
        (record.status ≠ "running" → Concluded record false host)
    | .judged record dead => fun host => Truthful host ∧ Concluded record dead host
    | .reported record dead => fun host => Truthful host ∧
        (isFinalExecution (localStatus record dead) = true →
          (record.workId, resultFor (localStatus record dead)) ∈ host.ledger.accepted)
    | _ => Truthful

theorem reportPhases_sound (contracts : Contracts) : reportPhases.Sound contracts :=
  { rely_refl := fun _ => ⟨rfl, rfl, id⟩
    rely_trans := fun first second => ⟨second.1.trans first.1, second.2.1.trans first.2.1,
      fun held => second.2.2 (first.2.2 held)⟩
    rely_runtime := fun others => others.1
    lasts := fun phase host later held others => by
      cases phase with
      | refused | rejected => exact held
      | read | judged =>
        refine ⟨others.2.2 held.1, ?_⟩
        unfold Concluded
        rw [others.2.1]
        exact held.2
      | reported =>
        refine ⟨others.2.2 held.1, ?_⟩
        rw [others.2.1]
        exact held.2
      | _ => exact others.2.2 held
    always_of := fun {phase _} held => by
      cases phase with
      | refused | rejected => exact held.elim
      | read | judged | reported => exact held.1
      | _ => exact held
    unfetched := fun held _ => held
    fetched := fun held _ => held
    applied := fun held => held.apply _
    skipped := fun held _ => held
    launches := fun held _ _ _ => { held with }
    marksDispatched := fun held => held.mark fun final => absurd final (by decide)
    refuses := fun _ _ launched => by cases launched.1
    marksRejected := False.elim
    reportsRejected := fun held _ _ => held.elim
    unread := fun held _ => held
    readUnknown := fun held stored _ => held.noteRead stored
    readKnown := fun held stored known _ =>
      ⟨held.noteRead stored, noteRead_consulting known,
        fun other _ _ mapped _ => noteRead_verdict known other mapped⟩
    judgesHeartbeat := fun {host record} held running => by
      refine ⟨held.1.noteHeartbeat, fun status detail mapped final => ?_⟩
      cases fresh : isFresh host.clock host.heartbeat with
      | false =>
        rw [fresh] at mapped
        obtain ⟨rfl, -⟩ := Prod.mk.inj (some.inj mapped)
        exact noteHeartbeat_verdict (held.2.1 running) fresh
      | true =>
        rw [fresh] at mapped
        change workResultOf record = _ at mapped
        rw [workResultOf, if_pos (by simpa using running)] at mapped
        obtain ⟨rfl, -⟩ := Prod.mk.inj (some.inj mapped)
        exact absurd final (by decide)
    judgesRecord := fun held other => ⟨held.1, held.2.2 other⟩
    agrees := fun held _ => held.1
    unmapped := fun held _ => held.1
    reports := fun held _ _ mapped kept => by
      refine ⟨held.1.receive (held.2 _ _ mapped), fun final => ?_⟩
      have same := resultFor_localStatus mapped final
      rw [same]
      exact accepted_of_answered (same ▸ isFinalResult_resultFor _) kept.2
    unanswered := fun held mapped _ => held.1.receive (held.2 _ _ mapped)
    undelivered := fun held _ => held.1
    takesOver := fun held => held.1.mark held.2
    acks := fun held => held.remember fun _ _ found _ => .inl (by
      rwa [markAcked_execution] at found)
    stores := fun held viewed => held.store viewed }

theorem Orderly.nature {system : System} {event : Nature} {host : Host}
    (orderly : Orderly system (.nature event)) (truthful : Truthful system.host)
    (acted : system.host.nature event = some host) :
    Truthful host ∧ host.runtime = system.host.runtime ∧ host.ledger = system.host.ledger := by
  cases event with
  | tick now =>
    cases acted
    exact ⟨{ truthful with }, rfl, rfl⟩
  | touch pid | exit pid =>
    obtain ⟨upgrader, -, rfl⟩ := map_eq_some_iff.1 acted
    exact ⟨{ truthful with }, rfl, rfl⟩
  | write pid fromVersion toVersion step status detail =>
    obtain ⟨upgrader, found, rfl⟩ := map_eq_some_iff.1 acted
    refine ⟨truthful.rewrite fun record stored => orderly record ?_, rfl, rfl⟩
    cases stored
    simp [Host.recordBy, found]
  | replace stored =>
    cases acted
    refine ⟨truthful.rewrite fun record found => ?_, rfl, rfl⟩
    cases found
    exact orderly

theorem report_lasting (contracts : Contracts) :
    Lasting (workService contracts) (reportPhases_sound contracts).within
      ⟨Truthful, Truthful, Truthful, Truthful⟩ Orderly where
  performs := rfl
  guaranteed held := held
  starts _ _ held _ := ⟨held.boot contracts, held.boot contracts⟩
  begins _ recordedAt _ held _ := (reportPhases_sound contracts).poll recordedAt _ held
  acts system choice op orderly asked := by
    change failsLaunch (some op) choice = false ∧
      turnsDown system.host.ledger (some op) choice = false
    rw [← asked]
    exact orderly
  finishes _ _ held := held
  crashes _ _ held := ⟨held.crash, held.crash⟩
  others _ _ _ orderly held acted := by
    obtain ⟨still, runtime, ledger⟩ := Orderly.nature orderly held acted
    exact ⟨still, ⟨runtime, ledger, fun _ => still⟩, fun _ => still, fun _ => still⟩

theorem truthful_initial : Truthful System.initial.host where
  memory workId execution found := by simp [System.initial] at found
  disk := nofun
  read := nofun
  single := nofun
  agrees := nofun
  consulting := nofun

/-- **Results are accepted before they count, and never contradict each other**, in every state of
every orderly run: any snapshots, lost reports, replies and acknowledgements, failing writes,
crashes and restarts at any effect. -/
theorem results_reported {contracts : Contracts} {events : List Event} {final : System}
    (orderly : Along (workService contracts).step Orderly System.initial events)
    (ran : run (workService contracts).step System.initial events = some final) :
    ResultsReported final.host := by
  have start : Kept (reportPhases_sound contracts).within ⟨Truthful, Truthful, Truthful, Truthful⟩
      System.initial := kept_of_off truthful_initial truthful_initial
  exact (kept_run (report_lasting contracts) start orderly ran).always.results

open LockSample in
/-- An upgrader dies, is found dead and reported failed. -/
theorem results_reported_dead :
    ∃ final, run (workService plainContracts).step System.initial
        (launch ++ death firstRecord ++ poll) = some final ∧
      final.host.runtime.oneShotExecution["up"]? = some "failed" ∧ ResultsReported final.host := by
  have orderly : Along (workService plainContracts).step Orderly System.initial
      (launch ++ death firstRecord ++ poll) := by decide +kernel
  have found : (run (workService plainContracts).step System.initial
      (launch ++ death firstRecord ++ poll)).map (fun system =>
        system.host.runtime.oneShotExecution["up"]?) = some (some "failed") := by decide +kernel
  obtain ⟨final, ran, failed⟩ := map_eq_some_iff.1 found
  exact ⟨final, ran, failed, results_reported orderly ran⟩

namespace LockSample

/-- The upgrader cannot be launched, and the report of that does not arrive. -/
def refusal : List Event :=
  [.start, .begin "", .act .done, .act (.fetched (some (grant ["up"]))), .act .done,
   .act (.refused "no upgrader"), .act .done, .act .undelivered, .act .done, .act .done, .finish]

/-- The upgrader is declared dead while it is only slow, and goes on to succeed. -/
def comeback : List Event :=
  launch ++ [.nature (.touch 7)] ++ firstRecord ++ [.nature (.tick 3600)] ++ poll ++
    [.nature (.touch 7), .nature (.write 7 "1" "2" "wait_ready" "succeeded" "")] ++
    [.begin "", .act .done, .act (.fetched (some (grant ["up"]))), .act .done, .act .done,
     .act (.replied .accepted)]

/-- The upgrader dies; the only report of that is turned down. -/
def turnedDown (reply : Reply) : List Event :=
  launch ++ death firstRecord ++
    [.begin "", .act .done, .act (.fetched (some (grant ["up"]))), .act .done, .act .done,
     .act .done, .act (.replied reply), .act .done, .act .done, .finish]

end LockSample

open LockSample in
/-- A work counts as rejected though no report of it ever arrived; a work counts as failed though the
control plane answered the only report of that with `stale` or `unknown`; and a work is reported
failed, then succeeded. -/
theorem results_not_reported :
    (∃ final, run (workService plainContracts).step System.initial refusal = some final ∧
      final.host.runtime.oneShotExecution["up"]? = some "rejected" ∧
      final.host.ledger.received = [] ∧ final.host.ledger.accepted = []) ∧
    (∀ reply, reply ≠ Reply.accepted → ∃ final,
      run (workService plainContracts).step System.initial (turnedDown reply) = some final ∧
      final.host.runtime.oneShotExecution["up"]? = some "failed" ∧
      final.host.ledger.accepted = []) ∧
    ∃ final, run (workService plainContracts).step System.initial comeback = some final ∧
      ("up", "failed") ∈ final.host.ledger.received ∧
      ("up", "succeeded") ∈ final.host.ledger.received := by
  have refused : (run (workService plainContracts).step System.initial refusal).map (fun system =>
      (system.host.runtime.oneShotExecution["up"]?, system.host.ledger.received,
        system.host.ledger.accepted)) = some (some "rejected", [], []) := by decide +kernel
  have returned : (run (workService plainContracts).step System.initial comeback).map (fun system =>
      system.host.ledger.received) = some [("up", "failed"), ("up", "succeeded")] := by
    decide +kernel
  have unaccepted : ∀ reply, reply ≠ Reply.accepted →
      (run (workService plainContracts).step System.initial (turnedDown reply)).map (fun system =>
        (system.host.runtime.oneShotExecution["up"]?, system.host.ledger.accepted)) =
      some (some "failed", []) := by
    intro reply other
    cases reply with
    | accepted => exact absurd rfl other
    | stale | unknown => decide +kernel
  obtain ⟨one, ranOne, rejected⟩ := map_eq_some_iff.1 refused
  obtain ⟨two, ranTwo, received⟩ := map_eq_some_iff.1 returned
  simp only [Prod.mk.injEq] at rejected
  refine ⟨⟨one, ranOne, rejected⟩, fun reply other => ?_, two, ranTwo, ?_, ?_⟩
  · obtain ⟨final, ran, facts⟩ := map_eq_some_iff.1 (unaccepted reply other)
    simp only [Prod.mk.injEq] at facts
    exact ⟨final, ran, facts⟩
  · rw [received]
    decide
  · rw [received]
    decide

end WistAgentd.Runtime

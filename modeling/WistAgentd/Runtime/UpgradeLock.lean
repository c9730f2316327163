/- # Runtime.UpgradeLock -- when a dead upgrader gives up the lock

While a work is in flight no other upgrade is dispatched. An upgrader that died leaves at most its
last record and an old heartbeat, and the daemon only ever looks at the work that record names.

* `Calm`: polls that go well, with nobody writing any more.
* `held_without_record`: without a record of its own a work stays in flight for good.
* `released_iff_recorded`: the lock is released exactly if the upgrader got to its first record. -/
import WistAgentd.Runtime.PollPhases
import WistAgentd.Control.WorkExecution

namespace WistAgentd.Runtime
open Control Control.AppliedWorkGrant
open Theory.Interaction Theory.Interaction.Service
open Theory.Transition
open Option
set_option autoImplicit false

/-- The daemon holds the work for dispatched or running. -/
def InFlight (host : Host) (workId : String) : Prop :=
  host.runtime.oneShotExecution[workId]?.any isOneShotExecutionInFlight = true
deriving Decidable

/-- The upgrade record is one of this work, in words the control plane knows. -/
def Recorded (host : Host) (workId : String) : Prop :=
  ∃ record, host.upgradeFile = .intact record ∧ record.workId = workId ∧
    (workResultOf record).isSome = true

/-- A snapshot is got, a report succeeds; anything else may go as it likes. -/
def goesWell : Option Op → Choice → Bool
  | some (.fetchWorkGrant _), .fetched none => false
  | some (.reportWorkResult _ _ _), .replied _ => true
  | some (.reportWorkResult _ _ _), _ => false
  | _, _ => true

/-- A poll whose requests go well, and time that passes without a heartbeat. -/
def Calm (system : System) : Event → Prop
  | .begin _ | .finish => True
  | .act choice => goesWell system.asks choice = true
  | .nature (.tick now) => isFresh now system.host.heartbeat = false
  | _ => False

instance (system : System) : (event : Event) → Decidable (Calm system event)
  | .begin _ | .finish => .isTrue trivial
  | .act _ | .nature (.tick _) => inferInstanceAs (Decidable (_ = _))
  | .nature (.touch _) | .nature (.write _ _ _ _ _ _) | .nature (.exit _)
  | .nature (.replace _) | .start | .crash => .isFalse id

theorem inFlight_iff {host : Host} {workId : String} :
    InFlight host workId ↔ ∃ execution, host.runtime.oneShotExecution[workId]? = some execution ∧
      isOneShotExecutionInFlight execution = true := by
  unfold InFlight
  cases host.runtime.oneShotExecution[workId]? <;> simp

section Memory

variable {contracts : Contracts} {host : Host} {workId : String}

theorem InFlight.not_free (flying : InFlight host workId) :
    host.runtime.hasUpgradeInFlight ≠ false := by
  obtain ⟨execution, found, moving⟩ := inFlight_iff.1 flying
  simp [(hasUpgradeInFlight_iff _).2 ⟨workId, execution, found, moving⟩]

theorem inFlight_same {later : Host} (runtime : later.runtime = host.runtime) :
    InFlight later workId ↔ InFlight host workId := by
  unfold InFlight
  rw [runtime]

theorem InFlight.apply (flying : InFlight host workId) (grant : WorkGrant) :
    InFlight (host.remember (host.runtime.apply contracts grant).2) workId := by
  obtain ⟨execution, found, moving⟩ := inFlight_iff.1 flying
  exact inFlight_iff.2 ⟨execution, apply_execution_inFlight grant found moving, moving⟩

theorem InFlight.mark (flying : InFlight host workId) {other : String} (different : other ≠ workId)
    (execution : String) :
    InFlight (host.remember (host.runtime.markOneShotExecution other execution)) workId := by
  unfold InFlight
  rw [Host.remember_runtime, mark_execution_at, if_neg different]
  exact flying

theorem inFlight_mark_self (execution : String) :
    InFlight (host.remember (host.runtime.markOneShotExecution workId execution)) workId ↔
      isOneShotExecutionInFlight execution = true := by
  unfold InFlight
  rw [Host.remember_runtime, mark_execution_at, if_pos rfl]
  rfl

theorem inFlight_markAcked (other : String) (planVersion : Int) :
    InFlight (host.remember (host.runtime.markAcked other planVersion)) workId ↔
      InFlight host workId := by
  unfold InFlight
  rw [Host.remember_runtime, markAcked_execution]

end Memory

/-! ## Without a record -/

/-- The work is in flight and its upgrader left no record. -/
def Stuck (workId : String) (host : Host) : Prop := InFlight host workId ∧ ¬Recorded host workId

theorem Stuck.alike {workId : String} {host later : Host} (stuck : Stuck workId host)
    (alike : Alike host later) : Stuck workId later := by
  unfold Stuck InFlight Recorded
  rw [alike.runtime, alike.upgradeFile]
  exact stuck

/-- The record is not one of this work, or nothing the control plane knows. -/
def Foreign (workId : String) (record : UpgradeRecord) : Prop :=
  record.workId = workId → workResultOf record = none

theorem not_running_of_unmapped {record : UpgradeRecord} (unmapped : workResultOf record = none) :
    record.status ≠ "running" := by
  intro running
  rw [workResultOf, if_pos (by simpa using running)] at unmapped
  cases unmapped

def stuckPhases (workId : String) : Phases where
  rely host later := later.runtime = host.runtime ∧ later.upgradeFile = host.upgradeFile
  allowed _ _ _ := True
  always := Stuck workId
  holds
    | .launched _ _ | .refused _ _ | .rejected _ _ => fun _ => False
    | .read record => fun host => Stuck workId host ∧ Foreign workId record
    | .judged record dead => fun host => Stuck workId host ∧ Foreign workId record ∧
        (record.status ≠ "running" → dead = false)
    | .reported record _ => fun host => Stuck workId host ∧ record.workId ≠ workId
    | _ => Stuck workId

variable (contracts : Contracts)

theorem stuckPhases_sound (workId : String) : (stuckPhases workId).Sound contracts := by
  have lasts : (stuckPhases workId).Lasts (Stuck workId) := fun host later held others => by
    unfold Stuck InFlight Recorded
    rw [others.1, others.2]
    exact held
  have foreign : ∀ {host : Host} {record : UpgradeRecord}, Stuck workId host →
      host.upgradeFile = .intact record → Foreign workId record := by
    intro host record held stored own
    by_contra mapped
    exact held.2 ⟨record, stored, own, isSome_iff_ne_none.2 mapped⟩
  exact
    { rely_refl := fun _ => ⟨rfl, rfl⟩
      rely_trans := fun first second => ⟨second.1.trans first.1, second.2.trans first.2⟩
      rely_runtime := fun others => others.1
      lasts := fun phase => by
        cases phase with
        | launched | refused | rejected => exact fun _ _ held _ => held
        | read | judged | reported =>
          exact fun host later held others => ⟨lasts host later held.1 others, held.2⟩
        | _ => exact lasts
      always_of := fun {phase _} held => by
        cases phase with
        | launched | refused | rejected => exact held.elim
        | read | judged | reported => exact held.1
        | _ => exact held
      unfetched := fun held _ => held
      fetched := fun held _ => held
      applied := fun held => ⟨held.1.apply _, held.2⟩
      skipped := fun held _ => held
      launches := fun held free _ _ => held.1.not_free free
      marksDispatched := False.elim
      refuses := fun held free _ => held.1.not_free free
      marksRejected := False.elim
      reportsRejected := fun held _ _ => held.elim
      unread := fun held _ => held
      readUnknown := fun held _ _ => held.alike (alike_noteRead _ _)
      readKnown := fun held stored _ _ => ⟨held.alike (alike_noteRead _ _), foreign held stored⟩
      judgesHeartbeat := fun held running =>
        ⟨held.1.alike (alike_noteHeartbeat _), held.2, fun other => absurd running other⟩
      judgesRecord := fun held _ => ⟨held.1, held.2, fun _ => rfl⟩
      agrees := fun held _ => held.1
      unmapped := fun held _ => held.1
      reports := fun {_ record dead _ _ _ _} held _ _ mapped _ => by
        refine ⟨held.1, fun own => ?_⟩
        have unmapped := held.2.1 own
        rw [held.2.2 (not_running_of_unmapped unmapped), resultOf, if_neg (by decide),
          unmapped] at mapped
        cases mapped
      unanswered := fun held _ _ => held.1
      undelivered := fun held _ => held.1
      takesOver := fun held => ⟨held.1.1.mark held.2 _, held.1.2⟩
      acks := fun held => ⟨(inFlight_markAcked ..).2 held.1, held.2⟩
      stores := fun held _ => held }

theorem stuck_lasting (workId : String) :
    Lasting (workService contracts) (stuckPhases_sound contracts workId).within
      ⟨Stuck workId, Stuck workId, Stuck workId, Stuck workId⟩ Calm where
  performs := rfl
  guaranteed held := held
  starts _ calm := calm.elim
  begins _ recordedAt _ held _ := (stuckPhases_sound contracts workId).poll recordedAt _ held
  acts _ _ _ _ _ := trivial
  finishes _ _ held := held
  crashes _ calm := calm.elim
  others system event host calm held acted := by
    cases event with
    | tick now =>
      cases acted
      exact ⟨held, ⟨rfl, rfl⟩, fun _ => held, fun _ => held⟩
    | touch pid | write pid fromVersion toVersion step status detail | exit pid | replace stored =>
      cases calm

/-- Without a record of its own the work stays in flight, however often the daemon polls. -/
theorem held_without_record {contracts : Contracts} {workId : String} {system final : System}
    {events : List Event} (between : system.program = none) (flying : InFlight system.host workId)
    (unrecorded : ¬Recorded system.host workId)
    (calm : Along (workService contracts).step Calm system events)
    (ran : run (workService contracts).step system events = some final) :
    InFlight final.host workId := by
  have stuck : Stuck workId system.host := ⟨flying, unrecorded⟩
  have start : Kept (stuckPhases_sound contracts workId).within
      ⟨Stuck workId, Stuck workId, Stuck workId, Stuck workId⟩ system :=
    ⟨stuck, fun _ => ⟨between, stuck⟩, fun _ _ => stuck, fun program running => by
      rw [between] at running
      cases running⟩
  exact (kept_run (stuck_lasting contracts workId) start calm ran).always.1

/-! ## With one -/

/-- In flight, recorded, and without a heartbeat. -/
structure Doomed (workId : String) (host : Host) : Prop where
  flying : InFlight host workId
  recorded : Recorded host workId
  stale : isFresh host.clock host.heartbeat = false

theorem not_inFlight_localStatus {record : UpgradeRecord} {dead : Bool}
    (mapped : (workResultOf record).isSome = true) (judged : record.status = "running" → dead = true) :
    isOneShotExecutionInFlight (localStatus record dead) = false := by
  cases dead with
  | true => rfl
  | false =>
    have other : record.status ≠ "running" := fun running => by cases judged running
    rw [localStatus, if_neg (by decide)]
    unfold workResultOf at mapped
    unfold isOneShotExecutionInFlight
    by_cases dispatched : record.status = "dispatched"
    · simp [dispatched] at mapped
    · simp [other, dispatched]

def doomedPhases (workId : String) : Phases where
  rely host later := later.runtime = host.runtime ∧ later.upgradeFile = host.upgradeFile ∧
    (isFresh host.clock host.heartbeat = false → isFresh later.clock later.heartbeat = false)
  allowed op choice _ := goesWell (some op) choice = true
  always _ := True
  holds
    | .launched _ _ | .refused _ _ | .rejected _ _ => fun _ => False
    | .read record => fun host => InFlight host workId ∧ record.workId = workId ∧
        (workResultOf record).isSome = true ∧ isFresh host.clock host.heartbeat = false
    | .judged record dead => fun host => InFlight host workId ∧ record.workId = workId ∧
        (workResultOf record).isSome = true ∧ (record.status = "running" → dead = true)
    | .reported record dead => fun _ => record.workId = workId ∧
        isOneShotExecutionInFlight (localStatus record dead) = false
    | .done => fun host => ¬InFlight host workId
    | _ => Doomed workId

theorem doomedPhases_sound (workId : String) : (doomedPhases workId).Sound contracts := by
  have own : ∀ {host : Host} {record : UpgradeRecord}, Doomed workId host →
      host.upgradeFile = .intact record →
      record.workId = workId ∧ (workResultOf record).isSome = true := by
    intro host record held stored
    obtain ⟨own, found, named, mapped⟩ := held.recorded
    rw [stored] at found
    cases found
    exact ⟨named, mapped⟩
  exact
    { rely_refl := fun _ => ⟨rfl, rfl, id⟩
      rely_trans := fun first second => ⟨second.1.trans first.1, second.2.1.trans first.2.1,
        fun stale => second.2.2 (first.2.2 stale)⟩
      rely_runtime := fun others => others.1
      lasts := fun phase host later held others => by
        cases phase with
        | launched | refused | rejected | reported => exact held
        | read => exact ⟨(inFlight_same others.1).2 held.1, held.2.1, held.2.2.1, others.2.2 held.2.2.2⟩
        | judged => exact ⟨(inFlight_same others.1).2 held.1, held.2⟩
        | done => exact fun flying => held ((inFlight_same others.1).1 flying)
        | _ =>
          obtain ⟨record, stored, rest⟩ := held.recorded
          exact ⟨(inFlight_same others.1).2 held.flying, ⟨record, others.2.1.trans stored, rest⟩,
            others.2.2 held.stale⟩
      always_of := fun _ => trivial
      unfetched := fun _ fetched => by cases fetched
      fetched := fun held _ => held
      applied := fun held => ⟨held.flying.apply _, held.recorded, held.stale⟩
      skipped := fun held _ => held
      launches := fun held free _ _ => held.flying.not_free free
      marksDispatched := False.elim
      refuses := fun held free _ => held.flying.not_free free
      marksRejected := False.elim
      reportsRejected := fun held _ _ => held.elim
      unread := fun held missing => by
        obtain ⟨record, stored, -⟩ := held.recorded
        exact absurd stored (missing record)
      readUnknown := fun held stored unknown => by
        obtain ⟨execution, known, -⟩ := inFlight_iff.1 held.flying
        rw [(own held stored).1, known] at unknown
        cases unknown
      readKnown := fun {host record} held stored _ _ => by
        have alike := alike_noteRead host record
        refine ⟨(inFlight_same alike.runtime).2 held.flying, (own held stored).1, (own held stored).2, ?_⟩
        rw [alike.clock, alike.heartbeat]
        exact held.stale
      judgesHeartbeat := fun held _ =>
        ⟨(inFlight_same (alike_noteHeartbeat _).runtime).2 held.1, held.2.1, held.2.2.1, fun _ => by
          rw [held.2.2.2]
          rfl⟩
      judgesRecord := fun held other => ⟨held.1, held.2.1, held.2.2.1, fun running =>
        absurd running other⟩
      agrees := fun held known flying => by
        have landed := not_inFlight_localStatus held.2.2.1 held.2.2.2
        obtain ⟨execution, found, moving⟩ := inFlight_iff.1 held.1
        rw [held.2.1] at known
        rw [known] at found
        rw [← some.inj found, landed] at moving
        cases moving
      unmapped := fun {_ record dead} held unmapped => by
        cases dead with
        | true => cases unmapped
        | false =>
          have mapped := held.2.2.1
          rw [show workResultOf record = none from unmapped] at mapped
          cases mapped
      reports := fun held _ _ _ _ => ⟨held.2.1, not_inFlight_localStatus held.2.2.1 held.2.2.2⟩
      unanswered := fun _ _ delivered => by cases delivered
      undelivered := fun _ delivered => by cases delivered
      takesOver := fun {host record dead} held flying => by
        obtain ⟨rfl, landed⟩ := held
        rw [inFlight_mark_self, landed] at flying
        cases flying
      acks := fun held flying => held ((inFlight_markAcked ..).1 flying)
      stores := fun held _ => held }

theorem doomed_lasting (workId : String) :
    Lasting (workService contracts) (doomedPhases_sound contracts workId).within
      ⟨fun _ => True, Doomed workId, Doomed workId, fun host => ¬InFlight host workId⟩
      (fun system event => Calm system event ∧ event ≠ .finish) where
  performs := rfl
  guaranteed held := held
  starts _ calm := calm.1.elim
  begins _ recordedAt _ _ held := (doomedPhases_sound contracts workId).poll recordedAt _ held
  acts system choice op calm asked := by
    change goesWell (some op) choice = true
    rw [← asked]
    exact calm.1
  finishes _ calm := absurd rfl calm.2
  crashes _ calm := calm.1.elim
  others system event host calm _ acted := by
    cases event with
    | tick now =>
      cases acted
      exact ⟨trivial, ⟨rfl, rfl, fun _ => calm.1⟩,
        fun held => ⟨held.flying, held.recorded, calm.1⟩,
        fun held => ⟨held.flying, held.recorded, calm.1⟩⟩
    | touch pid | write pid fromVersion toVersion step status detail | exit pid | replace stored =>
      cases calm.1

/-- **The lock of a dead upgrader is released exactly if it got to its first record.** Over every
run of polls whose reports succeed, at least one of them complete. -/
theorem released_iff_recorded {contracts : Contracts} {workId : String} {system final : System}
    {events : List Event} (between : system.program = none) (flying : InFlight system.host workId)
    (stale : isFresh system.host.clock system.host.heartbeat = false)
    (calm : Along (workService contracts).step Calm system events)
    (ran : run (workService contracts).step system events = some final)
    (polled : Event.finish ∈ events) :
    (∃ before after reached, events = before ++ after ∧
        run (workService contracts).step system before = some reached ∧
        ¬InFlight reached.host workId) ↔ Recorded system.host workId := by
  constructor
  · rintro ⟨before, after, reached, rfl, early, landed⟩
    by_contra unrecorded
    exact landed (held_without_record between flying unrecorded calm.left early)
  · intro recorded
    -- the first poll that is complete releases the lock
    obtain ⟨before, after, rfl, first⟩ := List.eq_append_cons_of_mem polled
    rw [run_append] at ran
    obtain ⟨reached, early, late⟩ := bind_eq_some_iff.1 ran
    obtain ⟨next, stepped, -⟩ := run_cons_some late
    have doomed : Doomed workId system.host := ⟨flying, recorded, stale⟩
    have start : Kept (doomedPhases_sound contracts workId).within
        ⟨fun _ => True, Doomed workId, Doomed workId, fun host => ¬InFlight host workId⟩ system :=
      ⟨trivial, fun _ => ⟨between, doomed⟩, fun _ _ => doomed, fun program running => by
        rw [between] at running
        cases running⟩
    have unfinished : ∀ event ∈ before, event ≠ Event.finish := by
      rintro event mem rfl
      exact first mem
    have kept := kept_run (doomed_lasting contracts workId) start (calm.left.and unfinished) early
    obtain ⟨⟨result, ended⟩, -⟩ := step_finish stepped
    exact ⟨before, _, reached, rfl, early, kept.ended ended⟩

namespace LockSample

def grant (works : List String) : WorkGrant :=
  { standing := [], oneShot := works.map (bareOneShot · "upgrade"), sequence := 1 }

/-- The daemon starts beside the record of an older upgrade and launches an upgrader for `up`. -/
def launch : List Event :=
  [.nature (.replace (.intact ⟨"old", "0", "1", "wait_ready", "succeeded", ""⟩)),
   .start, .begin "", .act .done, .act (.fetched (some (grant ["up"]))), .act .done,
   .act (.spawned 7), .act .done, .act .delivered, .act .done, .act .done, .finish]

/-- The upgrader gets to its heartbeat, writes what it writes and dies; an hour passes. -/
def death (writes : List Event) : List Event :=
  [.nature (.touch 7)] ++ writes ++ [.nature (.exit 7), .nature (.tick 3600)]

def firstRecord : List Event := [.nature (.write 7 "1" "2" "fetch" "running" "")]

/-- A poll that finds the upgrader dead. -/
def poll : List Event :=
  [.begin "", .act .done, .act (.fetched (some (grant ["up", "next"]))), .act .done, .act .done,
   .act .done, .act (.replied .accepted), .act .done, .act .done, .finish]

end LockSample

open LockSample in
theorem released_after_first_record :
    ∃ system, run (workService plainContracts).step System.initial (launch ++ death firstRecord) =
        some system ∧ Recorded system.host "up" ∧
      ∃ before after reached, poll = before ++ after ∧
        run (workService plainContracts).step system before = some reached ∧
        ¬InFlight reached.host "up" := by
  have final : (run (workService plainContracts).step System.initial
      (launch ++ death firstRecord)).map (fun system =>
        (system.program.isNone && decide (InFlight system.host "up"),
          isFresh system.host.clock system.host.heartbeat,
          decide (Along (workService plainContracts).step Calm system poll) &&
            (run (workService plainContracts).step system poll).isSome, system.host.upgradeFile)) =
      some (true, false, true, .intact ⟨"up", "1", "2", "fetch", "running", ""⟩) := by decide +kernel
  obtain ⟨system, ran, facts⟩ := map_eq_some_iff.1 final
  simp only [Prod.mk.injEq, Bool.and_eq_true, isNone_iff_eq_none, decide_eq_true_eq] at facts
  obtain ⟨⟨between, flying⟩, stale, ⟨calm, ends⟩, stored⟩ := facts
  obtain ⟨last, polled⟩ := isSome_iff_exists.1 ends
  have recorded : Recorded system.host "up" := ⟨_, stored, rfl, rfl⟩
  exact ⟨system, ran, recorded,
    (released_iff_recorded between flying stale calm polled (by decide)).2 recorded⟩

open LockSample in
/-- An upgrader that dies before its first record keeps the lock for good: its heartbeat is an hour
old, and after any number of polls that go well the work is in flight. -/
theorem lock_kept_by_dead_upgrader :
    ∃ system, run (workService plainContracts).step System.initial (launch ++ death []) = some system ∧
      system.host.upgraders = [⟨7, "up", false, some 0⟩] ∧
      isFresh system.host.clock system.host.heartbeat = false ∧
      ∀ events final, Along (workService plainContracts).step Calm system events →
        run (workService plainContracts).step system events = some final →
        InFlight final.host "up" := by
  have final : (run (workService plainContracts).step System.initial
      (launch ++ death [])).map (fun system =>
        (system.program.isNone, decide (InFlight system.host "up"),
          isFresh system.host.clock system.host.heartbeat, system.host.upgraders,
          system.host.upgradeFile)) =
      some (true, true, false, [⟨7, "up", false, some 0⟩],
        .intact ⟨"old", "0", "1", "wait_ready", "succeeded", ""⟩) := by decide +kernel
  obtain ⟨system, ran, facts⟩ := map_eq_some_iff.1 final
  simp only [Prod.mk.injEq, isNone_iff_eq_none, decide_eq_true_eq] at facts
  obtain ⟨between, flying, stale, upgraders, stored⟩ := facts
  have unrecorded : ¬Recorded system.host "up" := by
    rintro ⟨record, found, named, -⟩
    rw [stored] at found
    cases found
    exact absurd named (by decide)
  exact ⟨system, ran, upgraders, stale, fun events final calm polled =>
    held_without_record between flying unrecorded calm polled⟩

end WistAgentd.Runtime

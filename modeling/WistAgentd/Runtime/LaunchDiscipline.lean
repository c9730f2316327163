/- # Runtime.LaunchDiscipline -- one launch for a work, and one upgrader at a time

The only thing that keeps the daemon from launching an upgrader is what it remembers of earlier
launches: in memory while it runs, in `state/work.json` over a restart.

* `LaunchedOnce`: what is asked.
* `Careful`: crashes find the view up to date, forgotten works do not come back, an upgrader that
  fell silent does not wake up.
* `launched_once`: along every careful run. -/
import WistAgentd.Runtime.UpgradeLock

namespace WistAgentd.Runtime
open Control Control.AppliedWorkGrant Bool
open Theory.Interaction Theory.Interaction.Service
open Theory.Transition
open List
set_option autoImplicit false

variable {workId : String} {pid : Nat} {contracts : Contracts}

structure LaunchedOnce (host : Host) : Prop where
  /-- No work was launched twice. -/
  once : (host.ledger.launches.map (·.workId)).Nodup
  /-- None beside an upgrader that ran with a fresh heartbeat. -/
  alone : ∀ launch ∈ host.ledger.launches, launch.beside = []

/-- The upgrader runs, and has not fallen silent after its first heartbeat. -/
def Upgrader.mayBeat (clock : Nat) (upgrader : Upgrader) : Bool :=
  upgrader.running && upgrader.touchedAt.all fun touched => isFresh clock (some touched)

/-- The view on disk lists the work with a status that is `fine`. -/
def Host.viewShows (host : Host) (workId : String) (fine : String → Bool) : Prop :=
  match host.workFile with
  | .intact record => ∃ entry ∈ record.oneShot, entry.workId = workId ∧ fine entry.execution = true
  | _ => False

instance (host : Host) (workId : String) (fine : String → Bool) :
    Decidable (host.viewShows workId fine) :=
  match stored : host.workFile with
  | .intact record =>
    decidable_of_iff (∃ entry ∈ record.oneShot, entry.workId = workId ∧
      fine entry.execution = true) (by simp [Host.viewShows, stored])
  | .missing | .corrupt => .isFalse (by simp [Host.viewShows, stored])

/-- Whether the record that is on disk belongs to an upgrader that has ended, or to one that runs
and has touched its heartbeat. -/
def Host.recordSettled (host : Host) : Prop :=
  match host.upgradeFile with
  | .intact record => ∀ upgrader ∈ host.upgraders, upgrader.running = true →
      upgrader.workId = record.workId → record.status = "running" ∧ upgrader.touchedAt.isSome = true
  | _ => True

instance (host : Host) : Decidable host.recordSettled :=
  match stored : host.upgradeFile with
  | .intact record =>
    decidable_of_iff (∀ upgrader ∈ host.upgraders, upgrader.running = true →
      upgrader.workId = record.workId →
        record.status = "running" ∧ upgrader.touchedAt.isSome = true)
      (by simp [Host.recordSettled, stored])
  | .missing | .corrupt => .isTrue (by simp [Host.recordSettled, stored])

/-- No snapshot offers a launched work again that the daemon was made to forget, and a record is
read only when it is settled. -/
def answersCarefully (host : Host) : Option Op → Choice → Prop
  | some (.fetchWorkGrant _), .fetched (some grant) =>
    ∀ work ∈ grant.oneShot, work.workId ∉ host.ledger.dropped
  | some .readUpgradeRecord, _ => host.recordSettled
  | _, _ => True

instance (host : Host) : (asked : Option Op) → (choice : Choice) →
    Decidable (answersCarefully host asked choice)
  | some (.fetchWorkGrant _), .fetched (some grant) =>
    inferInstanceAs (Decidable (∀ work ∈ grant.oneShot, _))
  | some .readUpgradeRecord, _ => inferInstanceAs (Decidable host.recordSettled)
  | some (.fetchWorkGrant _), .fetched none | some (.fetchWorkGrant _), .done
  | some (.fetchWorkGrant _), .spawned _ | some (.fetchWorkGrant _), .refused _
  | some (.fetchWorkGrant _), .delivered | some (.fetchWorkGrant _), .replied _
  | some (.fetchWorkGrant _), .unanswered _ | some (.fetchWorkGrant _), .undelivered
  | some .recall, _ | some (.remember _), _
  | some (.dispatchUpgrade _), _ | some (.ackWork _ _), _ | some (.reportWorkResult _ _ _), _
  | some .heartbeatIsFresh, _ | some (.storeWork _), _ | none, _ => .isTrue trivial

/-- The view on disk would bring back all that matters. -/
structure Host.Persisted (host : Host) : Prop where
  launched : ∀ launch ∈ host.ledger.launches, launch.workId ∈ host.ledger.dropped ∨
    host.viewShows launch.workId (· != oneShotUnexecuted)
  running : ∀ upgrader ∈ host.upgraders, upgrader.mayBeat host.clock = true →
    host.viewShows upgrader.workId isOneShotExecutionInFlight

instance (host : Host) : Decidable host.Persisted :=
  decidable_of_iff (_ ∧ _) ⟨fun both => ⟨both.1, both.2⟩, fun held => ⟨held.launched, held.running⟩⟩

def Careful (system : System) : Event → Prop
  | .act choice => answersCarefully system.host system.asks choice
  | .crash => system.host.Persisted
  | .nature (.tick now) => system.host.clock ≤ now
  | .nature (.touch pid) =>
    ∀ upgrader ∈ system.host.upgraderAt pid, upgrader.mayBeat system.host.clock = true
  | _ => True

instance (system : System) : (event : Event) → Decidable (Careful system event)
  | .act _ => inferInstanceAs (Decidable (answersCarefully _ _ _))
  | .crash => inferInstanceAs (Decidable system.host.Persisted)
  | .nature (.tick _) => inferInstanceAs (Decidable (_ ≤ _))
  | .nature (.touch pid) =>
    inferInstanceAs (Decidable (∀ upgrader ∈ system.host.upgraderAt pid, _))
  | .nature (.write _ _ _ _ _ _) | .nature (.exit _) | .nature (.replace _) | .start | .begin _
  | .finish => .isTrue trivial

/-! ## Upgraders and their heartbeats -/

variable {upgrader : Upgrader}

theorem mayBeat_of_alive {clock : Nat} (running : upgrader.running = true)
    (fresh : isFresh clock upgrader.touchedAt = true) : upgrader.mayBeat clock = true := by
  unfold Upgrader.mayBeat
  cases touched : upgrader.touchedAt with
  | none => simp [running]
  | some time =>
    rw [touched] at fresh
    simp [running, fresh]

theorem running_of_mayBeat {clock : Nat} (beats : upgrader.mayBeat clock = true) :
    upgrader.running = true :=
  (and_eq_true_iff.1 beats).1

/-- Who fell silent stays so as time goes on. -/
theorem mayBeat_later {clock now : Nat} (later : clock ≤ now) (beats : upgrader.mayBeat now = true) :
    upgrader.mayBeat clock = true := by
  unfold Upgrader.mayBeat at *
  cases touched : upgrader.touchedAt with
  | none => simpa [touched] using beats
  | some time =>
    simp only [touched, isFresh, Option.all_some, and_eq_true, decide_eq_true_eq] at beats ⊢
    exact ⟨beats.1, by omega⟩

/-- What holds at every moment. -/
structure Sane (host : Host) : Prop where
  once : (host.ledger.launches.map (·.workId)).Nodup
  alone : ∀ launch ∈ host.ledger.launches, launch.beside = []
  pids : (host.upgraders.map (·.pid)).Nodup
  beats : ∀ upgrader ∈ host.upgraders, ∀ touched, upgrader.touchedAt = some touched →
    touched ≤ host.clock ∧ ∃ modified, host.heartbeat = some modified ∧ touched ≤ modified
  view : ∀ record, host.workFile = .intact record → ∀ first ∈ record.oneShot,
    ∀ second ∈ record.oneShot, first.workId = second.workId → first.execution = second.execution

/-- The daemon remembers every launched work that it was not made to forget. -/
def Known (host : Host) : Prop :=
  ∀ launch ∈ host.ledger.launches, launch.workId ∈ host.ledger.dropped ∨
    host.runtime.executionOf launch.workId ≠ oneShotUnexecuted

/-- It holds the work of every upgrader that may still beat for being in flight. -/
def Covered (host : Host) : Prop :=
  ∀ upgrader ∈ host.upgraders, upgrader.mayBeat host.clock = true → InFlight host upgrader.workId

structure Watched (host : Host) : Prop where
  sane : Sane host
  known : Known host
  covered : Covered host

variable {host : Host}

/-- An upgrader with a fresh heartbeat of its own has the file's heartbeat fresh. -/
theorem Sane.fresh (sane : Sane host) (mem : upgrader ∈ host.upgraders)
    (touched : upgrader.touchedAt.isSome = true) (beats : upgrader.mayBeat host.clock = true) :
    isFresh host.clock host.heartbeat = true := by
  obtain ⟨time, held⟩ := Option.isSome_iff_exists.1 touched
  obtain ⟨-, modified, file, later⟩ := sane.beats upgrader mem time held
  unfold Upgrader.mayBeat at beats
  simp only [held, isFresh, Option.all_some, and_eq_true, decide_eq_true_eq] at beats
  simp only [file, isFresh, decide_eq_true_eq]
  omega

theorem alive_nil (covered : Covered host) (free : host.runtime.hasUpgradeInFlight = false) :
    host.alive = [] := by
  unfold Host.alive
  rw [map_eq_nil_iff, filter_eq_nil_iff]
  intro upgrader mem alive
  rw [and_eq_true] at alive
  exact (covered upgrader mem (mayBeat_of_alive alive.1 alive.2)).not_free free

/-! ## What others do -/

/-- Nothing the daemon holds changes, and no upgrader comes back. -/
structure Tame (host later : Host) : Prop where
  runtime : later.runtime = host.runtime
  workFile : later.workFile = host.workFile
  ledger : later.ledger = host.ledger
  upgraders : ∀ after ∈ later.upgraders, ∃ before ∈ host.upgraders,
    after.workId = before.workId ∧
    (after.mayBeat later.clock = true → before.mayBeat host.clock = true) ∧
    (after.running = true → before.running = true) ∧
    (before.touchedAt.isSome = true → after.touchedAt.isSome = true)
  sane : Sane host → Sane later

theorem Tame.refl (host : Host) : Tame host host :=
  ⟨rfl, rfl, rfl, fun after mem => ⟨after, mem, rfl, id, id, id⟩, id⟩

theorem Tame.trans {a b c : Host} (first : Tame a b) (second : Tame b c) : Tame a c where
  runtime := second.runtime.trans first.runtime
  workFile := second.workFile.trans first.workFile
  ledger := second.ledger.trans first.ledger
  upgraders after mem := by
    obtain ⟨mid, inB, own, beats, runs, touched⟩ := second.upgraders after mem
    obtain ⟨before, inA, own', beats', runs', touched'⟩ := first.upgraders mid inB
    exact ⟨before, inA, own.trans own', fun held => beats' (beats held), fun held => runs' (runs held),
      fun held => touched (touched' held)⟩
  sane held := second.sane (first.sane held)

variable {later : Host}

theorem Tame.known (tame : Tame host later) (known : Known host) :
    Known later := by
  unfold Known
  rw [tame.ledger, tame.runtime]
  exact known

theorem Tame.covered (tame : Tame host later) (covered : Covered host) :
    Covered later := by
  intro after mem beats
  obtain ⟨before, old, own, beat, -⟩ := tame.upgraders after mem
  exact own ▸ (inFlight_same tame.runtime).2 (covered before old (beat beats))

theorem Tame.watched (tame : Tame host later) (watched : Watched host) :
    Watched later :=
  ⟨tame.sane watched.sane, tame.known watched.known, tame.covered watched.covered⟩

theorem Tame.persisted (tame : Tame host later) (persisted : host.Persisted) :
    later.Persisted where
  launched := by
    unfold Host.viewShows
    rw [tame.ledger, tame.workFile]
    exact persisted.launched
  running after mem beats := by
    obtain ⟨before, old, own, beat, -⟩ := tame.upgraders after mem
    have shown := persisted.running before old (beat beats)
    unfold Host.viewShows at shown ⊢
    rw [tame.workFile, own]
    exact shown

theorem mem_updateUpgrader {update : Upgrader → Upgrader} {after : Upgrader}
    (mem : after ∈ (host.updateUpgrader pid update).upgraders) :
    ∃ before ∈ host.upgraders,
      (before.pid = pid ∧ after = update before) ∨ (before.pid ≠ pid ∧ after = before) := by
  obtain ⟨before, old, same⟩ := mem_map.1 mem
  refine ⟨before, old, ?_⟩
  by_cases own : before.pid = pid
  · exact .inl ⟨own, by simpa [own] using same.symm⟩
  · exact .inr ⟨own, by simpa [own] using same.symm⟩

theorem updateUpgrader_pids (host : Host) (pid : Nat) (update : Upgrader → Upgrader)
    (keeps : ∀ upgrader, (update upgrader).pid = upgrader.pid) :
    ((host.updateUpgrader pid update).upgraders.map (·.pid)) = host.upgraders.map (·.pid) := by
  unfold Host.updateUpgrader
  rw [map_map]
  refine map_congr_left fun upgrader _ => ?_
  simp only [Function.comp_apply]
  split
  · exact keeps upgrader
  · rfl

theorem upgraderAt_some (found : host.upgraderAt pid = some upgrader) :
    upgrader ∈ host.upgraders ∧ upgrader.pid = pid ∧ upgrader.running = true := by
  have named := List.find?_some found
  rw [and_eq_true, beq_iff_eq] at named
  exact ⟨mem_of_find?_eq_some found, named.1, named.2⟩

/-- A process id names one upgrader. -/
theorem Sane.same_pid (sane : Sane host) {one other : Upgrader} (first : one ∈ host.upgraders)
    (second : other ∈ host.upgraders) (same : one.pid = other.pid) :
    one = other :=
  inj_on_of_nodup_map sane.pids first second same

theorem tame_tick {now : Nat} (later : host.clock ≤ now) :
    Tame host { host with clock := now } where
  runtime := rfl
  workFile := rfl
  ledger := rfl
  upgraders after mem := ⟨after, mem, rfl, mayBeat_later later, id, id⟩
  sane sane :=
    { sane with
      beats := fun upgrader mem touched held =>
        ⟨(sane.beats upgrader mem touched held).1.trans later,
          (sane.beats upgrader mem touched held).2⟩ }

theorem tame_exit :
    Tame host (host.updateUpgrader pid ({ · with running := false })) where
  runtime := rfl
  workFile := rfl
  ledger := rfl
  upgraders after mem := by
    obtain ⟨before, old, ⟨-, rfl⟩ | ⟨-, rfl⟩⟩ := mem_updateUpgrader mem
    · exact ⟨before, old, rfl, nofun, nofun, id⟩
    · exact ⟨after, old, rfl, id, id, id⟩
  sane sane :=
    { sane with
      pids := by
        rw [updateUpgrader_pids]
        · exact sane.pids
        · exact fun _ => rfl
      beats := by
        intro after mem touched held
        obtain ⟨before, old, ⟨-, rfl⟩ | ⟨-, rfl⟩⟩ := mem_updateUpgrader mem
        · exact sane.beats before old touched held
        · exact sane.beats after old touched held }

theorem tame_touch (sane : Sane host) (found : host.upgraderAt pid = some upgrader)
    (beats : upgrader.mayBeat host.clock = true) :
    Tame host { host.updateUpgrader pid ({ · with touchedAt := some host.clock }) with
      heartbeat := some host.clock } where
  runtime := rfl
  workFile := rfl
  ledger := rfl
  upgraders after mem := by
    obtain ⟨before, old, ⟨own, rfl⟩ | ⟨-, rfl⟩⟩ := mem_updateUpgrader mem
    · obtain ⟨inList, named, -⟩ := upgraderAt_some found
      obtain rfl := sane.same_pid inList old (named.trans own.symm)
      exact ⟨upgrader, old, rfl, fun _ => beats, fun _ => running_of_mayBeat beats, fun _ => rfl⟩
    · exact ⟨after, old, rfl, id, id, id⟩
  sane _ :=
    { sane with
      pids := by
        change ((host.updateUpgrader pid _).upgraders.map (·.pid)).Nodup
        rw [updateUpgrader_pids]
        · exact sane.pids
        · exact fun _ => rfl
      beats := by
        intro after mem touched held
        obtain ⟨before, old, ⟨-, rfl⟩ | ⟨-, rfl⟩⟩ := mem_updateUpgrader mem
        · cases held
          exact ⟨Nat.le_refl _, _, rfl, Nat.le_refl _⟩
        · have early := (sane.beats after old touched held).1
          exact ⟨early, _, rfl, early⟩ }

/-- Records say nothing of launches. -/
theorem tame_record (stored : Exec.Stored UpgradeRecord) :
    Tame host { host with upgradeFile := stored } where
  runtime := rfl
  workFile := rfl
  ledger := rfl
  upgraders after mem := ⟨after, mem, rfl, id, id, id⟩
  sane sane := { sane with }

theorem Careful.nature {system : System} {event : Nature} (sane : Sane system.host)
    (careful : Careful system (.nature event)) (acted : system.host.nature event = some host) :
    Tame system.host host := by
  cases event with
  | tick now =>
    cases acted
    exact tame_tick careful
  | touch pid =>
    obtain ⟨upgrader, found, rfl⟩ := Option.map_eq_some_iff.1 acted
    exact tame_touch sane found (careful upgrader found)
  | write pid fromVersion toVersion step status detail =>
    obtain ⟨upgrader, -, rfl⟩ := Option.map_eq_some_iff.1 acted
    exact tame_record _
  | exit pid =>
    obtain ⟨upgrader, -, rfl⟩ := Option.map_eq_some_iff.1 acted
    exact tame_exit
  | replace stored =>
    cases acted
    exact tame_record stored

/-! ## What the daemon does -/

section Alike

variable {host later : Host} (alike : Alike host later)

include alike

theorem Alike.sane (sane : Sane host) : Sane later where
  once := by
    rw [alike.launches]
    exact sane.once
  alone := by
    rw [alike.launches]
    exact sane.alone
  pids := by
    rw [alike.upgraders]
    exact sane.pids
  beats := by
    rw [alike.upgraders, alike.clock, alike.heartbeat]
    exact sane.beats
  view := by
    rw [alike.workFile]
    exact sane.view

theorem Alike.watched (watched : Watched host) : Watched later where
  sane := alike.sane watched.sane
  known := by
    unfold Known
    rw [alike.launches, alike.dropped, alike.runtime]
    exact watched.known
  covered := by
    unfold Covered InFlight
    rw [alike.upgraders, alike.clock, alike.runtime]
    exact watched.covered

end Alike

section Remember

variable {host : Host} {runtime : AppliedWorkGrant}

theorem Sane.remember (sane : Sane host) : Sane (host.remember runtime) := { sane with }

theorem mem_dropped_remember : workId ∈ (host.remember runtime).ledger.dropped ↔
    workId ∈ host.ledger.dropped ∨ (∃ launch ∈ host.ledger.launches, launch.workId = workId) ∧
      runtime.oneShotExecution[workId]? = none := by
  unfold Host.remember
  simp only [mem_append, mem_filter, mem_map, not_eq_true',
    Std.ExtTreeMap.contains_eq_isSome_getElem?, Option.isSome_eq_false_iff,
    Option.isNone_iff_eq_none]

/-- What is known stays known, or is dropped from then on. -/
theorem known_remember (knows : ∀ launch ∈ host.ledger.launches,
      launch.workId ∈ host.ledger.dropped ∨ runtime.oneShotExecution[launch.workId]? = none ∨
        runtime.executionOf launch.workId ≠ oneShotUnexecuted) :
    Known (host.remember runtime) := by
  intro launch mem
  rcases knows launch mem with old | unknown | known
  · exact .inl (mem_dropped_remember.2 (.inl old))
  · exact .inl (mem_dropped_remember.2 (.inr ⟨⟨launch, mem, rfl⟩, unknown⟩))
  · exact .inr known

theorem Watched.apply (watched : Watched host) (grant : WorkGrant) :
    Watched (host.remember (host.runtime.apply contracts grant).2) where
  sane := watched.sane.remember
  known := by
    refine known_remember fun launch mem => ?_
    rcases watched.known launch mem with old | known
    · exact .inl old
    · right
      rw [executionOf, apply_execution_at]
      split
      · exact .inr known
      · exact .inl rfl
  covered upgrader mem beats := (watched.covered upgrader mem beats).apply grant

/-- A mark of a status that is not the first one. -/
theorem known_mark {execution : String} (begun : execution ≠ oneShotUnexecuted)
    (known : ∀ launch ∈ host.ledger.launches, launch.workId ∈ host.ledger.dropped ∨
      host.runtime.executionOf launch.workId ≠ oneShotUnexecuted ∨ launch.workId = workId) :
    Known (host.remember (host.runtime.markOneShotExecution workId execution)) := by
  refine known_remember fun launch mem => ?_
  rcases known launch mem with old | held | rfl
  · exact .inl old
  · refine .inr (.inr ?_)
    rw [executionOf_mark]
    split
    · exact begun
    · exact held
  · refine .inr (.inr ?_)
    rw [executionOf_mark, if_pos rfl]
    exact begun

theorem Watched.mark (watched : Watched host) {execution : String}
    (begun : execution ≠ oneShotUnexecuted)
    (ended : isOneShotExecutionInFlight execution = false → ∀ upgrader ∈ host.upgraders,
      upgrader.workId = workId → upgrader.mayBeat host.clock = false) :
    Watched (host.remember (host.runtime.markOneShotExecution workId execution)) where
  sane := watched.sane.remember
  known := known_mark begun fun launch mem =>
    (watched.known launch mem).imp_right .inl
  covered upgrader mem beats := by
    by_cases own : workId = upgrader.workId
    · subst own
      rw [inFlight_mark_self]
      by_contra landed
      exact eq_false_iff.1 (ended (by simpa using landed) upgrader mem rfl) beats
    · exact (watched.covered upgrader mem beats).mark own execution

theorem Watched.acked (watched : Watched host) (workId : String) (planVersion : Int) :
    Watched (host.remember (host.runtime.markAcked workId planVersion)) where
  sane := watched.sane.remember
  known := by
    refine known_remember fun launch mem => ?_
    rw [executionOf, markAcked_execution]
    exact (watched.known launch mem).imp_right .inr
  covered upgrader mem beats :=
    (inFlight_markAcked ..).2 (watched.covered upgrader mem beats)

theorem Watched.store {recordedAt : String} {record : WorkRecord} (watched : Watched host)
    (viewed : host.runtime.deviceView contracts recordedAt = some record) :
    Watched { host with workFile := .intact record } where
  sane :=
    { watched.sane with
      view := by
        rintro _ ⟨⟩ first one second two same
        rw [deviceView_execution viewed one, deviceView_execution viewed two, same] }
  known := watched.known
  covered := watched.covered

end Remember

/-- An upgrader is launched while none may beat. -/
theorem Sane.launch (sane : Sane host) (covered : Covered host)
    (free : host.runtime.hasUpgradeInFlight = false)
    (unused : host.upgraders.any (·.pid == pid) = false)
    (new : workId ∉ host.ledger.launches.map (·.workId)) : Sane (host.launch pid workId) where
  once := by
    simp only [Host.launch, map_append, map_cons, map_nil]
    rw [← concat_eq_append, nodup_concat]
    exact ⟨new, sane.once⟩
  alone launch mem := by
    rcases mem_append.1 mem with old | last
    · exact sane.alone launch old
    · obtain rfl := mem_singleton.1 last
      exact alive_nil covered free
  pids := by
    simp only [Host.launch, map_append, map_cons, map_nil]
    rw [← concat_eq_append, nodup_concat]
    refine ⟨fun mem => ?_, sane.pids⟩
    obtain ⟨upgrader, held, named⟩ := mem_map.1 mem
    rw [any_eq_false] at unused
    exact unused upgrader held (by simpa using named)
  beats upgrader mem touched held := by
    rcases mem_append.1 mem with old | last
    · exact sane.beats upgrader old touched held
    · obtain rfl := mem_singleton.1 last
      cases held
  view := sane.view

/-! ## Crashes and restarts -/

theorem Persisted.boot (sane : Sane host) (persisted : host.Persisted) :
    Watched (host.boot contracts) := by
  have shown : ∀ {workId : String} {fine : String → Bool}, host.viewShows workId fine →
      ∃ execution, (host.boot contracts).runtime.oneShotExecution[workId]? = some execution ∧
        fine execution = true := by
    intro workId fine shows
    unfold Host.viewShows at shows
    split at shows
    · rename_i record stored
      obtain ⟨entry, mem, rfl, good⟩ := shows
      refine ⟨entry.execution, ?_, good⟩
      simp only [Host.boot, stored]
      exact restore_execution_of mem fun other listed same =>
        sane.view record stored other listed entry mem same
    · exact shows.elim
  refine ⟨{ sane with }, fun launch mem => ?_, fun upgrader mem beats => ?_⟩
  · rcases persisted.launched launch mem with old | shows
    · exact .inl old
    · obtain ⟨execution, found, begun⟩ := shown shows
      refine .inr ?_
      rw [executionOf, found]
      simpa using begun
  · obtain ⟨execution, found, flying⟩ := shown (persisted.running upgrader mem beats)
    exact inFlight_iff.2 ⟨execution, found, flying⟩

/-! ## Every poll -/

/-- None of these works was launched. -/
def New (works : List OneShotWork) (host : Host) : Prop :=
  ∀ work ∈ works, work.workId ∉ host.ledger.launches.map (·.workId)

/-- No upgrader of the work may beat. -/
def Silent (workId : String) (host : Host) : Prop :=
  ∀ upgrader ∈ host.upgraders, upgrader.workId = workId → upgrader.mayBeat host.clock = false

theorem Tame.silent (tame : Tame host later) (silent : Silent workId host) :
    Silent workId later := by
  intro after mem own
  obtain ⟨before, old, same, beat, -⟩ := tame.upgraders after mem
  have still := eq_false_iff.1 (silent before old (same ▸ own))
  exact eq_false_iff.2 fun beats => still (beat beats)

theorem Alike.silent (alike : Alike host later) (silent : Silent workId host) :
    Silent workId later := by
  unfold Silent
  rw [alike.upgraders, alike.clock]
  exact silent

/-- The record read is that of an upgrader that has ended, or of one that has beaten. -/
def Settled (record : UpgradeRecord) (host : Host) : Prop :=
  ∀ upgrader ∈ host.upgraders, upgrader.running = true → upgrader.workId = record.workId →
    record.status = "running" ∧ upgrader.touchedAt.isSome = true

/-- A launch the memory does not know yet. -/
structure Launching (work : OneShotWork) (host : Host) : Prop where
  sane : Sane host
  known : ∀ launch ∈ host.ledger.launches, launch.workId ∈ host.ledger.dropped ∨
    host.runtime.executionOf launch.workId ≠ oneShotUnexecuted ∨ launch.workId = work.workId
  covered : ∀ upgrader ∈ host.upgraders, upgrader.mayBeat host.clock = true →
    InFlight host upgrader.workId ∨ upgrader.workId = work.workId

def launchPhases : Phases where
  rely := Tame
  allowed op choice host := answersCarefully host (some op) choice
  always := Sane
  holds
    | .offered grant => fun host => Watched host ∧
        ∀ work ∈ grant.oneShot, work.workId ∉ host.ledger.dropped
    | .dispatching works => fun host => Watched host ∧
        (host.runtime.hasUpgradeInFlight = true ∨ New works host)
    | .launched work _ => Launching work
    | .refused work rest => fun host => Watched host ∧ host.runtime.hasUpgradeInFlight = false ∧
        New (work :: rest) host
    | .rejected _ rest => fun host => Watched host ∧ New rest host
    | .read record => fun host => Watched host ∧ Settled record host
    | .judged record dead => fun host => Watched host ∧
        (isOneShotExecutionInFlight (localStatus record dead) = false → Silent record.workId host)
    | .reported record dead => fun host => Watched host ∧
        localStatus record dead ≠ oneShotUnexecuted ∧
        (isOneShotExecutionInFlight (localStatus record dead) = false → Silent record.workId host)
    | .idle | .done => Watched

theorem New.same {works : List OneShotWork} (new : New works host)
    (launches : later.ledger.launches = host.ledger.launches) : New works later := by
  unfold New
  rw [launches]
  exact new

theorem localStatus_begun {record : UpgradeRecord} {dead : Bool} {result : String × String}
    (mapped : resultOf record dead = some result) :
    localStatus record dead ≠ oneShotUnexecuted := by
  cases dead with
  | true => exact show "failed" ≠ oneShotUnexecuted by decide
  | false =>
    intro unexecuted
    change record.status = _ at unexecuted
    change workResultOf record = _ at mapped
    rw [workResultOf, unexecuted] at mapped
    cases mapped

/-- Without an upgrade in flight nobody may beat. -/
theorem Watched.silent (watched : Watched host) (free : host.runtime.hasUpgradeInFlight = false)
    (workId : String) : Silent workId host := by
  intro upgrader mem _
  exact eq_false_iff.2 fun beats => (watched.covered upgrader mem beats).not_free free

theorem new_of_offered {grant : WorkGrant} (watched : Watched host)
    (offered : ∀ work ∈ grant.oneShot, work.workId ∉ host.ledger.dropped) :
    New (host.runtime.apply contracts grant).1.oneShotToDispatch host := by
  intro work listed launched
  obtain ⟨outstanding, -, unexecuted⟩ := mem_toDispatch.1 listed
  obtain ⟨launch, mem, own⟩ := mem_map.1 launched
  rcases watched.known launch mem with dropped | begun
  · rw [own] at dropped
    exact offered work (mem_filter.1 outstanding).1 dropped
  · rw [own] at begun
    exact begun unexecuted

theorem Launching.marked {work : OneShotWork} (launching : Launching work host) :
    Watched (host.remember (host.runtime.markOneShotExecution work.workId "dispatched")) where
  sane := launching.sane.remember
  known := known_mark (by decide) launching.known
  covered upgrader mem beats := by
    by_cases own : work.workId = upgrader.workId
    · rw [← own, inFlight_mark_self]
      decide
    · rcases launching.covered upgrader mem beats with flying | same
      · exact flying.mark own _
      · exact absurd same.symm own

theorem launchPhases_sound (contracts : Contracts) : launchPhases.Sound contracts where
  rely_refl := Tame.refl
  rely_trans := Tame.trans
  rely_runtime := Tame.runtime
  lasts phase host later held tame := by
    cases phase with
    | offered =>
      refine ⟨tame.watched held.1, ?_⟩
      rw [tame.ledger]
      exact held.2
    | dispatching =>
      refine ⟨tame.watched held.1, held.2.imp (fun flying => ?_) fun new => ?_⟩
      · rw [tame.runtime]
        exact flying
      · exact new.same (by rw [tame.ledger])
    | launched =>
      refine ⟨tame.sane held.sane, ?_, fun after mem beats => ?_⟩
      · rw [tame.ledger, tame.runtime]
        exact held.known
      · obtain ⟨before, old, own, beat, -⟩ := tame.upgraders after mem
        rw [own]
        exact (held.covered before old (beat beats)).imp_left (inFlight_same tame.runtime).2
    | refused =>
      refine ⟨tame.watched held.1, ?_, held.2.2.same (by rw [tame.ledger])⟩
      rw [tame.runtime]
      exact held.2.1
    | rejected => exact ⟨tame.watched held.1, held.2.same (by rw [tame.ledger])⟩
    | read =>
      refine ⟨tame.watched held.1, fun after mem running own => ?_⟩
      obtain ⟨before, old, same, -, runs, touched⟩ := tame.upgraders after mem
      obtain ⟨recorded, beaten⟩ := held.2 before old (runs running) (same ▸ own)
      exact ⟨recorded, touched beaten⟩
    | judged => exact ⟨tame.watched held.1, fun landed => tame.silent (held.2 landed)⟩
    | reported =>
      exact ⟨tame.watched held.1, held.2.1, fun landed => tame.silent (held.2.2 landed)⟩
    | idle | done => exact tame.watched held
  always_of {phase _} held := by
    cases phase with
    | idle | launched | done => exact held.sane
    | _ => exact held.1.sane
  unfetched held _ := held
  fetched held careful := ⟨held, careful⟩
  applied held := ⟨held.1.apply _, .inr ((new_of_offered held.1 held.2).same rfl)⟩
  skipped held flying := ⟨held.1, .inl flying⟩
  launches {host work rest pid} held free unused _ := by
    have new : New (work :: rest) host := held.2.resolve_left (by simp [free])
    refine ⟨held.1.sane.launch held.1.covered free unused (new work mem_cons_self), ?_, ?_⟩
    · intro launch mem
      rcases mem_append.1 mem with old | last
      · exact (held.1.known launch old).imp_right .inl
      · obtain rfl := mem_singleton.1 last
        exact .inr (.inr rfl)
    · intro upgrader mem beats
      rcases mem_append.1 mem with old | last
      · exact .inl (held.1.covered upgrader old beats)
      · obtain rfl := mem_singleton.1 last
        exact .inr rfl
  marksDispatched {host work rest} held := by
    refine ⟨held.marked, .inl ((hasUpgradeInFlight_iff _).2 ⟨work.workId, "dispatched", ?_, ?_⟩)⟩
    · rw [Host.remember_runtime, mark_execution_at, if_pos rfl]
    · decide
  refuses held free _ := ⟨held.1, free, held.2.resolve_left (by simp [free])⟩
  marksRejected {host work rest} held :=
    ⟨held.1.mark (by decide) fun _ => held.1.silent held.2.1 work.workId,
      fun other later => held.2.2 other (mem_cons_of_mem _ later)⟩
  reportsRejected held _ ran :=
    ⟨(alike_report ran).watched held.1, .inr (held.2.same (alike_report ran).launches)⟩
  unread held _ := held.1
  readUnknown {host record} held _ _ := (alike_noteRead host record).watched held.1
  readKnown {host record} held stored _ careful := by
    refine ⟨(alike_noteRead host record).watched held.1, ?_⟩
    unfold Settled
    rw [(alike_noteRead host record).upgraders]
    change host.recordSettled at careful
    unfold Host.recordSettled at careful
    rw [stored] at careful
    exact careful
  judgesHeartbeat {host record} held running := by
    refine ⟨(alike_noteHeartbeat host).watched held.1, fun landed => ?_⟩
    refine (alike_noteHeartbeat host).silent fun upgrader mem own => ?_
    refine eq_false_iff.2 fun beats => ?_
    obtain ⟨-, touched⟩ := held.2 upgrader mem (running_of_mayBeat beats) own
    rw [held.1.sane.fresh mem touched beats, localStatus, running] at landed
    exact absurd landed (by decide)
  judgesRecord {host record} held other := by
    refine ⟨held.1, fun _ upgrader mem own => eq_false_iff.2 fun beats => ?_⟩
    exact other (held.2 upgrader mem (running_of_mayBeat beats) own).1
  agrees held _ := held.1
  unmapped held _ := held.1
  reports {host record _ _ status _ reply} held _ _ mapped _ :=
    have alike := alike_receive host record.workId status reply
    ⟨alike.watched held.1, localStatus_begun mapped, fun landed => alike.silent (held.2 landed)⟩
  unanswered {host record _ status _ reply} held _ _ :=
    (alike_receive host record.workId status reply).watched held.1
  undelivered held _ := held.1
  takesOver held := held.1.mark held.2.1 held.2.2
  acks held := held.acked _ _
  stores held viewed := held.store viewed

theorem launch_lasting (contracts : Contracts) :
    Lasting (workService contracts) (launchPhases_sound contracts).within
      ⟨Sane, Host.Persisted, Watched, Watched⟩ Careful where
  performs := rfl
  guaranteed held := held
  starts _ _ sane persisted :=
    have watched := Persisted.boot sane persisted
    ⟨watched.sane, watched⟩
  begins _ recordedAt _ _ held := (launchPhases_sound contracts).poll recordedAt _ held
  acts system choice op careful asked := by
    change answersCarefully system.host (some op) choice
    rw [← asked]
    exact careful
  finishes _ _ held := held
  crashes _ persisted sane := ⟨{ sane with }, ⟨persisted.launched, persisted.running⟩⟩
  others _ _ _ careful sane acted :=
    have tame := Careful.nature sane careful acted
    ⟨tame.sane sane, tame, tame.watched, tame.persisted⟩

/-- **No work is launched twice, and none beside a living upgrader**, in every state of every
careful run: any snapshots, lost acknowledgements and reports, failing launches and writes, any
records, crashes and restarts at any effect. -/
theorem launched_once {contracts : Contracts} {events : List Event} {final : System}
    (careful : Along (workService contracts).step Careful System.initial events)
    (ran : run (workService contracts).step System.initial events = some final) :
    LaunchedOnce final.host := by
  have sane : Sane System.initial.host := ⟨nodup_nil, nofun, nodup_nil, nofun, nofun⟩
  have start : Kept (launchPhases_sound contracts).within
      ⟨Sane, Host.Persisted, Watched, Watched⟩ System.initial := kept_of_off sane ⟨nofun, nofun⟩
  have held := (kept_run (launch_lasting contracts) start careful ran).always
  exact ⟨held.once, held.alone⟩

namespace LockSample

/-- The daemon crashes after it stored the launch, and finds the upgrader at work. -/
def survived : List Event :=
  launch ++ [.nature (.touch 7)] ++ firstRecord ++ [.crash, .start] ++ poll

/-- It crashes between the launch and the end of the poll. -/
def relaunch : List Event :=
  [.start, .begin "", .act .done, .act (.fetched (some (grant ["up"]))), .act .done,
   .act (.spawned 7), .nature (.touch 7), .act .done, .crash,
   .start, .begin "", .act .done, .act (.fetched (some (grant ["up"]))), .act .done,
   .act (.spawned 8)]

end LockSample

open LockSample in
theorem launched_once_survived :
    ∃ final, run (workService plainContracts).step System.initial survived = some final ∧
      final.host.ledger.launches = [⟨7, "up", []⟩] ∧
      final.host.runtime.oneShotExecution["up"]? = some "running" ∧ LaunchedOnce final.host := by
  have careful : Along (workService plainContracts).step Careful System.initial survived := by
    decide +kernel
  have found : (run (workService plainContracts).step System.initial survived).map (fun system =>
      (system.host.ledger.launches, system.host.runtime.oneShotExecution["up"]?)) =
      some ([⟨7, "up", []⟩], some "running") := by decide +kernel
  obtain ⟨final, ran, facts⟩ := Option.map_eq_some_iff.1 found
  obtain ⟨launches, running⟩ := Prod.mk.inj facts
  exact ⟨final, ran, launches, running, launched_once careful ran⟩

open LockSample in
/-- The same work is launched again, beside its first upgrader. -/
theorem launched_twice :
    ∃ final, run (workService plainContracts).step System.initial relaunch = some final ∧
      final.host.ledger.launches = [⟨7, "up", []⟩, ⟨8, "up", [7]⟩] := by
  have found : (run (workService plainContracts).step System.initial relaunch).map (fun system =>
      system.host.ledger.launches) = some [⟨7, "up", []⟩, ⟨8, "up", [7]⟩] := by decide +kernel
  exact Option.map_eq_some_iff.1 found

end WistAgentd.Runtime

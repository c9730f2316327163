/- # Discovery.ProbeHealth -- what a refresh reports about its probes

A refresh lists the probes that succeeded, and is itself a success if the snapshot was replaced. Both
are read off the outputs, and an output may be an earlier one.

* `Attempts`: a process with the last attempt of each probe.
* `successfulProbes_eq`: which probes are listed.
* `health_truthful_iff`: when the report agrees with the attempts. -/
import WistAgentd.Discovery.SnapshotRetention

namespace WistAgentd.Discovery
open Option
set_option autoImplicit false

/-- The probe is run in this refresh: it is due, or has never answered. -/
def ProbeSlot.asked (policy : Option DiscoveryAspectPolicySet) (dueAt : Option Nat)
    (slot : ProbeSlot) : Bool :=
  dueAt.all (slot.due policy) || slot.lastOutput.isNone

/-- What a probe adds to `successful_probes`. -/
def Contribution.entry (part : Contribution) : Option SuccessfulProbeRefresh :=
  if part.usedFallback then none
  else part.output.map fun output =>
    ⟨output.probe, output.source, output.resources.length, output.targets.length⟩

/-- The daemon with the outcome of the last attempt of each probe; the code does not keep it. -/
structure Attempts where
  world : DiscoveryWorld
  recent : Nat → Option Bool

namespace Attempts

variable (attempts : Attempts) (refresh : Refresh)

def probes : List ProbeSlot := attempts.world.runtime.slots

def asked (slot : ProbeSlot) : Bool := slot.asked attempts.world.runtime.policy refresh.dueAt

/-- The last attempts once the refresh is done. -/
def after (index : Nat) : Option Bool :=
  if attempts.probes[index]?.any (attempts.asked refresh) then
    some (!failed (refresh.answers index))
  else attempts.recent index

def result : DiscoveryRefreshResult :=
  (refreshInner (attempts.world.loaded refresh.readable) refresh.dueAt refresh.clock
    refresh.answers refresh.generatedAt).2

def step : DiscoveryEvent → Attempts
  | .applyPolicy set =>
    { attempts with
      world.runtime := (attempts.world.runtime.applyDiscoveryPolicy set).1 }
  | .refresh refresh => ⟨tick attempts.world refresh, attempts.after refresh⟩

def start (names : List (String × Nat)) (cache : DiscoveryCache) : Attempts :=
  ⟨.start names cache, fun _ => none⟩

/-- A listed probe succeeded in its last attempt; a refresh that counts as a success, or moves
`last_success_at`, has such a probe. -/
structure Truthful : Prop where
  listed : ∀ (index : Nat) (part : Contribution), (parts attempts.world refresh)[index]? = some part →
    part.entry.isSome → attempts.after refresh index = some true
  refreshed : (attempts.result refresh).hadSuccessfulRefresh →
    ∃ index < attempts.probes.length, attempts.after refresh index = some true
  moved : (attempts.result refresh).lastSuccessAt ≠
      (attempts.world.loaded refresh.readable).latestSnapshot.map (·.generatedAt) →
    ∃ index < attempts.probes.length, attempts.after refresh index = some true

/-- A probe that is not run succeeded the last time; and a forced refresh in which all probes fail has
nothing to go back to. -/
structure Fresh : Prop where
  cached : ∀ (index : Nat) (slot : ProbeSlot), attempts.probes[index]? = some slot →
    attempts.asked refresh slot = false → attempts.recent index = some true
  forced : refresh.force → (∀ index < attempts.probes.length, failed (refresh.answers index)) →
    ∀ slot ∈ attempts.probes, ∀ output ∈ slot.lastOutput, output.isEmpty

end Attempts

/-! ## One probe -/

section Probe

variable (policy : Option DiscoveryAspectPolicySet) (dueAt : Option Nat) (clock : Nat)
  (answer : Except DiscoveryError ProbeOutput) (slot : ProbeSlot)

/-- A failed probe adds its error and is not listed; only a forced refresh has its last output. -/
theorem refreshProbe_failed (asked : slot.asked policy dueAt) (fails : failed answer) :
    (refreshProbe policy dueAt clock answer slot).error.isSome ∧
      (refreshProbe policy dueAt clock answer slot).entry = none ∧
      (refreshProbe policy dueAt clock answer slot).output =
        if dueAt = none then slot.lastOutput else none := by
  cases answer with
  | ok output => simp [failed] at fails
  | error err =>
    unfold refreshProbe
    split
    · cases dueAt <;> cases last : slot.lastOutput <;> simp [Contribution.entry]
    next early =>
      have none : slot.lastOutput = none := by
        simpa [ProbeSlot.asked, early] using asked
      simp [none, Contribution.entry]

/-- A probe that is not run is listed with its last output. -/
theorem refreshProbe_cached (idle : slot.asked policy dueAt = false) :
    (refreshProbe policy dueAt clock answer slot).entry.isSome := by
  simp only [ProbeSlot.asked, Bool.or_eq_false_iff, isNone_eq_false_iff, isSome_iff_exists] at idle
  obtain ⟨early, cached, last⟩ := idle
  simp [refreshProbe, early, last, Contribution.entry]

end Probe

/-! ## All probes -/

theorem foldl_add_successful (parts : List Contribution) (gathered : Gathered) :
    (parts.foldl Gathered.add gathered).successfulProbes =
      gathered.successfulProbes ++ parts.filterMap Contribution.entry := by
  induction parts generalizing gathered with
  | nil => simp
  | cons part rest ih =>
    rw [List.foldl_cons, ih]
    cases found : part.output <;> cases fallback : part.usedFallback <;>
      simp [Gathered.add, Contribution.entry, found, fallback]

section Refresh

variable {attempts : Attempts} {refresh : Refresh}

theorem parts_getElem? (index : Nat) :
    (parts attempts.world refresh)[index]? = attempts.probes[index]?.map fun slot =>
      refreshProbe attempts.world.runtime.policy refresh.dueAt (refresh.clock index)
        (refresh.answers index) slot := by
  simp [parts, contributions, Attempts.probes, Function.comp_def]

theorem successfulProbes_eq :
    (attempts.result refresh).successfulProbes =
      (parts attempts.world refresh).filterMap Contribution.entry :=
  (foldl_add_successful (parts attempts.world refresh) .empty).trans (List.nil_append _)

/-- What is put together from the parts. -/
def gathered (attempts : Attempts) (refresh : Refresh) : Gathered :=
  (parts attempts.world refresh).foldl Gathered.add .empty

theorem hadSuccessfulRefresh_eq :
    (attempts.result refresh).hadSuccessfulRefresh =
      (gathered attempts refresh).hasOutput (attempts.world.loaded refresh.readable).slots.length :=
  rfl

/-- `last_success_at` only moves with a success. -/
theorem lastSuccessAt_eq (none : (attempts.result refresh).hadSuccessfulRefresh = false) :
    (attempts.result refresh).lastSuccessAt =
      (attempts.world.loaded refresh.readable).latestSnapshot.map (·.generatedAt) := by
  change (if (gathered attempts refresh).hasOutput _ then _ else _) = _
  exact if_neg (Bool.eq_false_iff.1 none)

theorem Attempts.after_asked {index : Nat} {slot : ProbeSlot}
    (at_index : attempts.probes[index]? = some slot) (asked : attempts.asked refresh slot) :
    attempts.after refresh index = some (!failed (refresh.answers index)) := by
  simp [Attempts.after, at_index, asked]

theorem Attempts.after_idle {index : Nat} {slot : ProbeSlot}
    (at_index : attempts.probes[index]? = some slot) (idle : attempts.asked refresh slot = false) :
    attempts.after refresh index = attempts.recent index := by
  simp [Attempts.after, at_index, idle]

theorem Attempts.Fresh.listed (fresh : attempts.Fresh refresh) {index : Nat} {part : Contribution}
    (at_index : (parts attempts.world refresh)[index]? = some part) (listed : part.entry.isSome) :
    attempts.after refresh index = some true := by
  rw [parts_getElem?, map_eq_some_iff] at at_index
  obtain ⟨slot, known, rfl⟩ := at_index
  cases asked : attempts.asked refresh slot with
  | false => exact (after_idle known asked).trans (fresh.cached index slot known asked)
  | true =>
    rw [after_asked known asked]
    cases fails : failed (refresh.answers index) with
    | false => rfl
    | true =>
      rw [(refreshProbe_failed _ _ _ _ _ asked fails).2.1] at listed
      cases listed

/-- If no last attempt succeeded, every probe was run and failed, and nothing is put together. -/
theorem Attempts.Fresh.silent (fresh : attempts.Fresh refresh)
    (none : ∀ index < attempts.probes.length, attempts.after refresh index ≠ some true) :
    (attempts.result refresh).hadSuccessfulRefresh = false := by
  have ran : ∀ index slot, attempts.probes[index]? = some slot →
      attempts.asked refresh slot ∧ failed (refresh.answers index) := by
    intro index slot known
    have not_true := none index (List.getElem?_eq_some_iff.1 known).1
    cases asked : attempts.asked refresh slot with
    | false =>
      exact absurd ((after_idle known asked).trans (fresh.cached index slot known asked)) not_true
    | true =>
      rw [after_asked known asked] at not_true
      exact ⟨rfl, by simpa using not_true⟩
  refine parts_silent fun part mem => ?_
  obtain ⟨index, at_index⟩ := List.mem_iff_getElem?.1 mem
  rw [parts_getElem?, map_eq_some_iff] at at_index
  obtain ⟨slot, known, rfl⟩ := at_index
  obtain ⟨error, -, output⟩ := refreshProbe_failed _ _ (refresh.clock index) _ _
    (ran index slot known).1 (ran index slot known).2
  refine ⟨fun found is => ?_, error⟩
  rw [output] at is
  cases forced : refresh.force with
  | false => simp [Refresh.dueAt, forced] at is
  | true =>
    refine fresh.forced forced (fun other within => ?_) slot (List.mem_of_getElem? known) found ?_
    · exact (ran other _ (List.getElem?_eq_getElem within)).2
    · simpa [Refresh.dueAt, forced] using is

theorem Attempts.Fresh.truthful (fresh : attempts.Fresh refresh) : attempts.Truthful refresh := by
  have some_success : (attempts.result refresh).hadSuccessfulRefresh →
      ∃ index < attempts.probes.length, attempts.after refresh index = some true := by
    intro succeeded
    by_contra absent
    push Not at absent
    simp [fresh.silent absent] at succeeded
  refine ⟨fun _ _ => fresh.listed, some_success, fun moved => some_success ?_⟩
  by_contra failed
  exact moved (lastSuccessAt_eq (Bool.not_eq_true _ ▸ failed))

theorem Attempts.Truthful.fresh (truthful : attempts.Truthful refresh) : attempts.Fresh refresh := by
  refine ⟨fun index slot known idle => ?_, fun forced fails slot mem output last => ?_⟩
  · rw [← after_idle known idle]
    refine truthful.listed index _ ?_ (refreshProbe_cached _ refresh.dueAt (refresh.clock index)
      (refresh.answers index) slot idle)
    rw [parts_getElem?, known]
    rfl
  · by_contra full
    have dueAt : refresh.dueAt = none := by simp [Refresh.dueAt, forced]
    have asked : ∀ slot, attempts.asked refresh slot := fun slot => by
      simp [Attempts.asked, ProbeSlot.asked, dueAt]
    obtain ⟨index, known⟩ := List.mem_iff_getElem?.1 mem
    obtain ⟨-, -, output_eq⟩ := refreshProbe_failed _ _ (refresh.clock index) _ _ (asked slot)
      (fails index (List.getElem?_eq_some_iff.1 known).1)
    rw [if_pos dueAt, last] at output_eq
    -- the remembered output is in the snapshot, so the refresh counts as a success
    have inside : output.In (gathered attempts refresh).resources
        (gathered attempts refresh).targets := by
      refine foldl_add_in (List.mem_iff_getElem?.2 ⟨index, ?_⟩) output_eq .empty
      rw [parts_getElem?, known]
      rfl
    have succeeded : (attempts.result refresh).hadSuccessfulRefresh := by
      rw [hadSuccessfulRefresh_eq]
      by_contra nothing
      simp only [Gathered.hasOutput, Bool.not_eq_true, Bool.or_eq_false_iff,
        decide_eq_false_iff_not, not_not] at nothing
      rw [nothing.1.1, nothing.1.2] at inside
      exact full (ProbeOutput.isEmpty_of_in inside)
    obtain ⟨other, within, success⟩ := truthful.refreshed succeeded
    rw [after_asked (List.getElem?_eq_getElem within) (asked _), fails other within] at success
    simp at success

end Refresh

/-- **Probe health**: after every run, a refresh lists the entries of its parts, and its report is
truthful exactly if what it takes from earlier attempts is. -/
theorem health_truthful_iff (names : List (String × Nat)) (cache : DiscoveryCache)
    (events : List DiscoveryEvent) (refresh : Refresh) :
    let attempts := events.foldl Attempts.step (.start names cache)
    (attempts.result refresh).successfulProbes =
        (parts attempts.world refresh).filterMap Contribution.entry ∧
      (attempts.Truthful refresh ↔ attempts.Fresh refresh) :=
  ⟨successfulProbes_eq, fun truthful => truthful.fresh, fun fresh => fresh.truthful⟩

open FailingAlone in
/-- The first probe failed when it was due, and is not due in the refresh right after it. -/
theorem failed_probe_listed : ∃ (events : List DiscoveryEvent) (refresh : Refresh),
    ¬ (events.foldl Attempts.step (.start probes noCache)).Truthful refresh := by
  refine ⟨events, ⟨false, 2 * second, fun _ => 0, fun _ => .error down, "t", true, 3⟩,
    fun truthful => ?_⟩
  have recent := truthful.fresh.cached 0 _ rfl (by decide +kernel)
  exact absurd recent (by decide +kernel)

end WistAgentd.Discovery

/- # Discovery.SnapshotRetention -- what a probe found stays in the snapshot

The last output of every probe is in the snapshot the process keeps, as long as no due probe with
something to lose fails next to one that answers.

* `refreshProbe_remembers`, `refreshProbe_contributes`: one probe in one refresh.
* `tick_sound`: one refresh of all.
* `snapshot_retained`: every run of refreshes; `due_failure_drops_resources` is the run in which a
  due probe fails alone. -/
import WistAgentd.Discovery.Runtime
import WistAgentd.Theory.Transition

namespace WistAgentd.Discovery
open Option
set_option autoImplicit false

variable {gathered : Gathered} {part : Contribution}

open Theory.Transition

/-! ## The property -/

/-- Nothing would be missed. -/
def ProbeOutput.isEmpty (output : ProbeOutput) : Bool :=
  output.resources.isEmpty && output.targets.isEmpty

/-- The output is in these resources and targets, under one origin. -/
def ProbeOutput.In (output : ProbeOutput) (resources : List DiscoveredResource)
    (targets : List DiscoveredTarget) : Prop :=
  ∃ originIdx, (output.resources.map (·.at originIdx)).Sublist resources ∧
    (output.targets.map (·.at originIdx)).Sublist targets

/-- The latest success of every probe is in the snapshot. -/
def DiscoveryRuntime.Retains (runtime : DiscoveryRuntime) : Prop :=
  ∀ slot ∈ runtime.slots, ∀ output, slot.answers.getLast? = some output →
    ∃ snapshot, runtime.latestSnapshot = some snapshot ∧
      output.In snapshot.resources snapshot.targets

/-- What the runtime keeps of a probe is its latest success. -/
def ProbeSlot.Remembers (slot : ProbeSlot) : Prop := slot.lastOutput = slot.answers.getLast?

variable {output : ProbeOutput}

theorem ProbeOutput.in_of_isEmpty (empty : output.isEmpty) (resources : List DiscoveredResource)
    (targets : List DiscoveredTarget) :
    output.In resources targets := by
  simp only [ProbeOutput.isEmpty, Bool.and_eq_true, List.isEmpty_iff] at empty
  exact ⟨0, by simp [empty.1], by simp [empty.2]⟩

theorem ProbeOutput.isEmpty_of_in (inside : output.In [] []) :
    output.isEmpty := by
  obtain ⟨originIdx, resources, targets⟩ := inside
  simp only [List.sublist_nil, List.map_eq_nil_iff] at resources targets
  simp [ProbeOutput.isEmpty, resources, targets]

/-! ## One probe -/

def failed (answer : Except DiscoveryError ProbeOutput) : Bool :=
  match answer with
  | .ok _ => false
  | .error _ => true

section

variable (policy : Option DiscoveryAspectPolicySet) (instant : Nat)
  (answer : Except DiscoveryError ProbeOutput) (slot : ProbeSlot)

/-- A due probe that fails, with resources or targets of an earlier success. -/
def ProbeSlot.drops : Bool :=
  slot.due policy instant && failed answer && slot.lastOutput.any fun output => !output.isEmpty

/-- A probe that is asked and fails. -/
def ProbeSlot.silent : Bool :=
  failed answer && (slot.due policy instant || slot.lastOutput.isNone)

end

section Probe

variable (policy : Option DiscoveryAspectPolicySet) (dueAt : Option Nat) (clock : Nat)
  (answer : Except DiscoveryError ProbeOutput) (slot : ProbeSlot)

theorem refreshProbe_remembers (remembers : slot.Remembers) :
    (refreshProbe policy dueAt clock answer slot).slot.Remembers := by
  unfold refreshProbe
  unfold ProbeSlot.Remembers at remembers ⊢
  split
  · cases answer with
    | ok output => simp [ProbeSlot.answered]
    | error err => cases dueAt <;> cases last : slot.lastOutput <;> simpa [last] using remembers
  · split
    · assumption
    · cases answer with
      | ok output => simp [ProbeSlot.answered]
      | error err => assumption

/-- A forced refresh adds whatever is remembered afterwards. -/
theorem refreshProbe_forced :
    (refreshProbe policy none clock answer slot).output =
      (refreshProbe policy none clock answer slot).slot.lastOutput := by
  unfold refreshProbe
  cases answer with
  | ok output => rfl
  | error err => cases slot.lastOutput <;> simp

/-- So does a due one, unless the probe fails with something to lose. -/
theorem refreshProbe_contributes {instant : Nat} (kept : slot.drops policy instant answer = false)
    (remembered : (refreshProbe policy (some instant) clock answer slot).slot.lastOutput =
      some output) :
    (refreshProbe policy (some instant) clock answer slot).output = some output ∨
      output.isEmpty := by
  unfold refreshProbe at remembered ⊢
  simp only [all_some] at remembered ⊢
  split at remembered
  case isTrue due =>
    rw [if_pos due]
    cases answer with
    | ok found => exact .inl remembered
    | error err =>
      refine .inr ?_
      have last : slot.lastOutput = some output := remembered
      simpa [ProbeSlot.drops, due, failed, last] using kept
  case isFalse early =>
    rw [if_neg early]
    cases last : slot.lastOutput with
    | some cached =>
      simp only [last] at remembered ⊢
      exact .inl remembered
    | none =>
      simp only [last] at remembered ⊢
      cases answer with
      | ok found => exact .inl remembered
      | error err => simp [last] at remembered

/-- A probe that is asked and fails in a due refresh leaves nothing but its error. -/
theorem refreshProbe_silent {instant : Nat} (silent : slot.silent policy instant answer) :
    (refreshProbe policy (some instant) clock answer slot).output = none ∧
      (refreshProbe policy (some instant) clock answer slot).error.isSome ∧
      (refreshProbe policy (some instant) clock answer slot).slot.answers = slot.answers := by
  cases answer with
  | ok output => simp [ProbeSlot.silent, failed] at silent
  | error err =>
    simp only [ProbeSlot.silent, failed, Bool.true_and, Bool.or_eq_true] at silent
    unfold refreshProbe
    simp only [all_some]
    split
    · simp
    next early =>
      have none : slot.lastOutput = none := by simpa [early] using silent
      simp [none]

end Probe

/-! ## All probes -/

theorem Gathered.add_slots (gathered : Gathered) (part : Contribution) :
    (gathered.add part).slots = gathered.slots ++ [part.slot] := by
  unfold Gathered.add
  split <;> rfl

theorem foldl_add_slots (parts : List Contribution) (gathered : Gathered) :
    (parts.foldl Gathered.add gathered).slots = gathered.slots ++ parts.map (·.slot) := by
  induction parts generalizing gathered with
  | nil => simp
  | cons part rest ih => simp [ih, Gathered.add_slots]

/-- Later probes only append. -/
theorem ProbeOutput.In.add (part : Contribution)
    (inside : output.In gathered.resources gathered.targets) :
    output.In (gathered.add part).resources (gathered.add part).targets := by
  obtain ⟨originIdx, resources, targets⟩ := inside
  unfold Gathered.add
  split
  · exact ⟨originIdx, resources, targets⟩
  · exact ⟨originIdx, resources.trans (List.sublist_append_left ..),
      targets.trans (List.sublist_append_left ..)⟩

theorem ProbeOutput.In.foldl (parts : List Contribution)
    (inside : output.In gathered.resources gathered.targets) :
    output.In (parts.foldl Gathered.add gathered).resources
      (parts.foldl Gathered.add gathered).targets := by
  induction parts generalizing gathered with
  | nil => exact inside
  | cons part rest ih => exact ih (inside.add part)

theorem Gathered.add_in (gathered : Gathered) (found : part.output = some output) :
    output.In (gathered.add part).resources (gathered.add part).targets := by
  simp only [Gathered.add, found]
  exact ⟨gathered.origins.length, List.sublist_append_right .., List.sublist_append_right ..⟩

/-- Whatever one of the probes adds is in the result. -/
theorem foldl_add_in {parts : List Contribution} (mem : part ∈ parts)
    (found : part.output = some output) (gathered : Gathered) :
    output.In (parts.foldl Gathered.add gathered).resources
      (parts.foldl Gathered.add gathered).targets := by
  obtain ⟨front, back, rfl⟩ := List.append_of_mem mem
  rw [List.foldl_append]
  exact ((front.foldl Gathered.add gathered).add_in found).foldl back

/-- Probes that add nothing but an error each. -/
theorem foldl_add_silent {parts : List Contribution}
    (silent : ∀ part ∈ parts, (∀ output ∈ part.output, output.isEmpty) ∧ part.error.isSome)
    (gathered : Gathered) :
    (parts.foldl Gathered.add gathered).resources = gathered.resources ∧
      (parts.foldl Gathered.add gathered).targets = gathered.targets ∧
      (parts.foldl Gathered.add gathered).errors.length =
        gathered.errors.length + parts.length := by
  induction parts generalizing gathered with
  | nil => exact ⟨rfl, rfl, rfl⟩
  | cons part rest ih =>
    obtain ⟨nothing, error⟩ := silent part List.mem_cons_self
    obtain ⟨err, isError⟩ := isSome_iff_exists.1 error
    obtain ⟨resources, targets, errors⟩ :=
      ih (fun later mem => silent later (List.mem_cons_of_mem _ mem)) (gathered.add part)
    have added : (gathered.add part).resources = gathered.resources ∧
        (gathered.add part).targets = gathered.targets ∧
        (gathered.add part).errors = gathered.errors ++ [err] := by
      unfold Gathered.add
      cases found : part.output with
      | none => simp [isError]
      | some output =>
        have empty := nothing output found
        simp only [ProbeOutput.isEmpty, Bool.and_eq_true, List.isEmpty_iff] at empty
        simp [isError, empty]
    rw [List.foldl_cons, resources, targets, errors, added.1, added.2.1, added.2.2]
    refine ⟨rfl, rfl, ?_⟩
    simp only [List.length_append, List.length_cons, List.length_nil]
    omega

/-- The kept snapshot has every output that was gathered, or the refresh found nothing at all. -/
theorem composeSnapshot_in (runtime : DiscoveryRuntime) (generatedAt : String)
    (inside : output.In gathered.resources gathered.targets) :
    ∃ snapshot, (composeSnapshot runtime gathered generatedAt).1.latestSnapshot = some snapshot ∧
      output.In snapshot.resources snapshot.targets := by
  refine ⟨_, rfl, ?_⟩
  cases has : gathered.hasOutput runtime.slots.length with
  | true => simpa [composeSnapshot, has] using inside
  | false =>
    simp only [Gathered.hasOutput, Bool.or_eq_false_iff, decide_eq_false_iff_not, not_not] at has
    rw [has.1.1, has.1.2] at inside
    exact ProbeOutput.in_of_isEmpty (ProbeOutput.isEmpty_of_in inside) ..

theorem composeSnapshot_previous {runtime : DiscoveryRuntime} (generatedAt : String)
    (nothing : gathered.hasOutput runtime.slots.length = false) {previous : DiscoverySnapshot}
    (latest : runtime.latestSnapshot = some previous) :
    (composeSnapshot runtime gathered generatedAt).1.latestSnapshot = some previous := by
  simp [composeSnapshot, nothing, latest]

/-! ## Runs of the daemon -/

/-- What the load before the refresh reads. -/
def DiscoveryWorld.read (world : DiscoveryWorld) (readable : Bool) : Option DiscoverySnapshot :=
  if readable then world.cache.loadSnapshot else none

/-- Forced; or no due probe with something to lose fails; or all probes fail and the snapshot in
the cache, if it can be read, is the one the process has. -/
def Refresh.Keeps (world : DiscoveryWorld) (refresh : Refresh) : Prop :=
  refresh.force ∨
    (∀ slot ∈ world.runtime.slots.zipIdx,
      slot.1.drops world.runtime.policy refresh.now (refresh.answers slot.2) = false) ∨
    (∀ slot ∈ world.runtime.slots.zipIdx,
      slot.1.silent world.runtime.policy refresh.now (refresh.answers slot.2)) ∧
      (world.read refresh.readable = none ∨
        world.read refresh.readable = world.runtime.latestSnapshot)
deriving Decidable

def DiscoveryEvent.Keeps (world : DiscoveryWorld) : DiscoveryEvent → Prop
  | .applyPolicy _ => True
  | .refresh turn => turn.Keeps world

instance (world : DiscoveryWorld) : (event : DiscoveryEvent) → Decidable (event.Keeps world)
  | .applyPolicy _ => .isTrue trivial
  | .refresh _ => inferInstanceAs (Decidable (Refresh.Keeps _ _))

@[simp] theorem loaded_slots (world : DiscoveryWorld) (readable : Bool) :
    (world.loaded readable).slots = world.runtime.slots := by
  unfold DiscoveryWorld.loaded
  split <;> rfl

@[simp] theorem loaded_policy (world : DiscoveryWorld) (readable : Bool) :
    (world.loaded readable).policy = world.runtime.policy := by
  unfold DiscoveryWorld.loaded
  split <;> rfl

variable {world : DiscoveryWorld}

theorem loaded_latest {readable : Bool}
    (same : world.read readable = none ∨ world.read readable = world.runtime.latestSnapshot) :
    (world.loaded readable).latestSnapshot = world.runtime.latestSnapshot := by
  unfold DiscoveryWorld.loaded
  split
  · rfl
  · rename_i snapshot found
    rcases same with absent | latest
    · cases found.symm.trans absent
    · exact found.symm.trans latest

structure DiscoveryRuntime.Sound (runtime : DiscoveryRuntime) : Prop where
  remembers : ∀ slot ∈ runtime.slots, slot.Remembers
  retains : runtime.Retains

/-- The parts of one refresh of the daemon. -/
def parts (world : DiscoveryWorld) (refresh : Refresh) : List Contribution :=
  contributions (world.loaded refresh.readable) refresh.dueAt refresh.clock refresh.answers

variable {refresh : Refresh}

theorem mem_parts :
    part ∈ parts world refresh ↔ ∃ slot ∈ world.runtime.slots.zipIdx,
      refreshProbe world.runtime.policy refresh.dueAt (refresh.clock slot.2)
        (refresh.answers slot.2) slot.1 = part := by
  simp [parts, contributions]

/-- Nothing but errors does not replace the snapshot. -/
theorem parts_silent (silent : ∀ part ∈ parts world refresh,
      (∀ output ∈ part.output, output.isEmpty) ∧ part.error.isSome) :
    ((parts world refresh).foldl Gathered.add .empty).hasOutput
      (world.loaded refresh.readable).slots.length = false := by
  obtain ⟨resources, targets, errors⟩ := foldl_add_silent silent .empty
  have count : (parts world refresh).length = world.runtime.slots.length := by
    simp [parts, contributions]
  rw [Gathered.hasOutput, resources, targets, errors, count]
  simp [Gathered.empty]

theorem tick_slots (world : DiscoveryWorld) (refresh : Refresh) :
    (tick world refresh).runtime.slots = (parts world refresh).map (·.slot) := by
  change (List.foldl Gathered.add Gathered.empty (parts world refresh)).slots = _
  simp [foldl_add_slots, Gathered.empty]

theorem tick_remembers (refresh : Refresh)
    (remembers : ∀ slot ∈ world.runtime.slots, slot.Remembers) :
    ∀ slot ∈ (tick world refresh).runtime.slots, slot.Remembers := by
  intro slot mem
  rw [tick_slots, List.mem_map] at mem
  obtain ⟨part, mem, rfl⟩ := mem
  obtain ⟨before, known, rfl⟩ := mem_parts.1 mem
  exact refreshProbe_remembers _ _ _ _ _ (remembers _ (List.fst_mem_of_mem_zipIdx known))

/-- **Retention when every remembered output is part of the refresh** -/
theorem tick_retains_of_contributed (remembers : ∀ slot ∈ world.runtime.slots, slot.Remembers)
    (contributed : ∀ part ∈ parts world refresh, ∀ output, part.slot.lastOutput = some output →
      part.output = some output ∨ output.isEmpty) :
    (tick world refresh).runtime.Retains := by
  intro slot mem output latest
  have remembered := tick_remembers refresh remembers slot mem
  rw [tick_slots, List.mem_map] at mem
  obtain ⟨part, mem, rfl⟩ := mem
  refine composeSnapshot_in _ _ ?_
  rcases contributed part mem output (remembered.trans latest) with found | empty
  · exact foldl_add_in mem found _
  · exact ProbeOutput.in_of_isEmpty empty ..

/-- **Retention when no probe answers** -/
theorem tick_retains_of_silent (due : refresh.force = false) (retains : world.runtime.Retains)
    (silent : ∀ slot ∈ world.runtime.slots.zipIdx,
      slot.1.silent world.runtime.policy refresh.now (refresh.answers slot.2))
    (same : world.read refresh.readable = none ∨
      world.read refresh.readable = world.runtime.latestSnapshot) :
    (tick world refresh).runtime.Retains := by
  have dueAt : refresh.dueAt = some refresh.now := by simp [Refresh.dueAt, due]
  have nothing := @parts_silent world refresh fun part mem => by
    obtain ⟨slot, known, rfl⟩ := mem_parts.1 mem
    have facts := refreshProbe_silent _ (refresh.clock slot.2) _ _ (silent slot known)
    rw [dueAt, facts.1]
    exact ⟨by simp, facts.2.1⟩
  intro slot mem output latest
  rw [tick_slots, List.mem_map] at mem
  obtain ⟨part, mem, rfl⟩ := mem
  obtain ⟨before, known, rfl⟩ := mem_parts.1 mem
  have facts := refreshProbe_silent _ (refresh.clock before.2) _ _ (silent before known)
  rw [dueAt, facts.2.2] at latest
  obtain ⟨snapshot, was, inside⟩ :=
    retains _ (List.fst_mem_of_mem_zipIdx known) output latest
  exact ⟨snapshot, composeSnapshot_previous _ nothing ((loaded_latest same).trans was), inside⟩

theorem tick_sound (sound : world.runtime.Sound) (keeps : refresh.Keeps world) :
    (tick world refresh).runtime.Sound := by
  refine ⟨tick_remembers refresh sound.remembers, ?_⟩
  cases due : refresh.force with
  | true =>
    refine tick_retains_of_contributed sound.remembers fun part mem output remembered => ?_
    obtain ⟨slot, -, rfl⟩ := mem_parts.1 mem
    have dueAt : refresh.dueAt = none := by simp [Refresh.dueAt, due]
    rw [dueAt] at remembered ⊢
    exact .inl ((refreshProbe_forced ..).trans remembered)
  | false =>
    rcases keeps with forced | kept | ⟨silent, same⟩
    · simp [due] at forced
    · refine tick_retains_of_contributed sound.remembers fun part mem output remembered => ?_
      obtain ⟨slot, known, rfl⟩ := mem_parts.1 mem
      have dueAt : refresh.dueAt = some refresh.now := by simp [Refresh.dueAt, due]
      rw [dueAt] at remembered ⊢
      exact refreshProbe_contributes _ _ _ _ (kept slot known) remembered
    · exact tick_retains_of_silent due sound.retains silent same

/-- A process with its probes, and whatever an earlier one left in the cache. -/
def DiscoveryWorld.start (probes : List (String × Nat)) (cache : DiscoveryCache) :
    DiscoveryWorld :=
  ⟨.new (probes.map fun probe => .new probe.1 probe.2), cache⟩

theorem start_sound (probes : List (String × Nat)) (cache : DiscoveryCache) :
    (DiscoveryWorld.start probes cache).runtime.Sound where
  remembers slot mem := by
    obtain ⟨probe, -, rfl⟩ := List.mem_map.1 mem
    rfl
  retains slot mem output latest := by
    obtain ⟨probe, -, rfl⟩ := List.mem_map.1 mem
    cases latest

theorem discoveryStep_sound {next : DiscoveryWorld} {event : DiscoveryEvent}
    (sound : world.runtime.Sound) (keeps : event.Keeps world)
    (stepped : discoveryStep world event = some next) : next.runtime.Sound := by
  cases event with
  | applyPolicy set =>
    cases stepped
    exact ⟨sound.remembers, sound.retains⟩
  | refresh refresh =>
    cases stepped
    exact tick_sound sound keeps

/-- **Snapshot retention**: in every run of policy updates and refreshes that each keep what is
known, the latest success of every probe is in the snapshot. -/
theorem snapshot_retained (probes : List (String × Nat)) (cache : DiscoveryCache)
    (events : List DiscoveryEvent) (final : DiscoveryWorld)
    (keeping : Along discoveryStep (fun world event => event.Keeps world)
      (.start probes cache) events)
    (ran : run discoveryStep (.start probes cache) events = some final) :
    final.runtime.Retains :=
  (run_induction_along (I := fun world : DiscoveryWorld => world.runtime.Sound)
    (fun _ _ _ sound keeps stepped => discoveryStep_sound sound keeps stepped)
    (start_sound probes cache) keeping ran).retains

/-! ## A due probe that fails alone -/

namespace FailingAlone

def probes : List (String × Nat) := [("host", second), ("process", second)]

def noCache : DiscoveryCache := ⟨none, none, none⟩

def found (name : String) : ProbeOutput where
  probe := name
  source := .localRuntime
  refreshedAt := "t"
  origin := ⟨"origin-" ++ name, name, "local_runtime", "t"⟩
  resources := [⟨name ++ "-1", name, 0, [], "t", "t", "healthy", name⟩]
  targets := []

def down : DiscoveryError := ⟨none, "probe failed"⟩

def refreshAt (force : Bool) (now : Nat) (host process : Bool) : DiscoveryEvent :=
  .refresh
    { force, now, clock := fun _ => now
      answers := fun
        | 0 => if host then .ok (found "host") else .error down
        | _ => if process then .ok (found "process") else .error down
      generatedAt := "t", readable := true, written := 3 }

/-- Both probes answer; two intervals later the first one fails. -/
def events : List DiscoveryEvent :=
  [refreshAt false 0 true true, refreshAt false (2 * second) false true]

/-- Both answer, both fail when due, and one fails when forced. -/
def keptEvents : List DiscoveryEvent :=
  [refreshAt false 0 true true, refreshAt false (2 * second) false false,
    refreshAt true (3 * second) false true]

def resourceIds (world : DiscoveryWorld) : Option (List String) :=
  world.runtime.latestSnapshot.map fun snapshot =>
    snapshot.resources.map (·.resourceId)

end FailingAlone

open FailingAlone in
theorem snapshot_retained_failures :
    ∃ final, run discoveryStep (.start probes noCache) keptEvents = some final ∧
      resourceIds final = some ["host-1", "process-1"] ∧ final.runtime.Retains := by
  have found : (run discoveryStep (.start probes noCache) keptEvents).map resourceIds =
      some (some ["host-1", "process-1"]) := by decide +kernel
  obtain ⟨final, ran, ids⟩ := map_eq_some_iff.1 found
  exact ⟨final, ran, ids, snapshot_retained probes noCache keptEvents final (by decide +kernel) ran⟩

open FailingAlone in
/-- The first probe still has its output, the snapshot does not. -/
theorem due_failure_drops_resources :
    ∃ final, run discoveryStep (.start probes noCache) events = some final ∧
      ¬ final.runtime.Retains := by
  have found : (run discoveryStep (.start probes noCache) events).map (fun world =>
      (resourceIds world, world.runtime.slots.map fun slot => slot.answers.getLast?)) =
      some (some ["process-1"], [some (found "host"), some (found "process")]) := by
    decide +kernel
  obtain ⟨final, ran, facts⟩ := map_eq_some_iff.1 found
  obtain ⟨ids, answers⟩ := Prod.mk.inj facts
  refine ⟨final, ran, fun retains => ?_⟩
  obtain ⟨slot, mem, latest⟩ := List.mem_map.1 (answers ▸ List.mem_cons_self)
  obtain ⟨snapshot, kept, originIdx, inside, -⟩ := retains slot mem _ latest
  have listed := (inside.map DiscoveredResource.resourceId).subset List.mem_cons_self
  rw [resourceIds, kept, map_some, some.injEq] at ids
  rw [ids] at listed
  change "host-1" ∈ ["process-1"] at listed
  exact absurd listed (by decide)

end WistAgentd.Discovery

/- # Discovery.Runtime -- probes, their schedule and the snapshot

`discovery/runtime.rs`, the schedule of `discovery/policy.rs` and the three files of
`discovery/cache.rs`. A snapshot is put together anew at every refresh from what each probe
answers, or answered before.

* `refreshProbe`: one probe in one refresh.
* `refreshInner`, `composeSnapshot`: all of them, and the snapshot that is kept.
* `tick`: one refresh of the daemon, with the load before it and the store behind it. -/
import Mathlib.Data.List.Basic

namespace WistAgentd.Discovery
set_option autoImplicit false

/-! ## What probes report -/

inductive DiscoverySourceKind
  | localRuntime | static | file | k8s
  deriving DecidableEq

structure DiscoveryOrigin where
  originId : String
  probe : String
  source : String
  observedAt : String
  deriving DecidableEq

structure DiscoveredResource where
  resourceId : String
  kind : String
  originIdx : Nat
  attributes : List (String × String)
  discoveredAt : String
  lastSeenAt : String
  health : String
  source : String
  deriving DecidableEq

structure DiscoveredTarget where
  targetId : String
  kind : String
  originIdx : Nat
  resourceRef : String
  executionHints : List (String × String)
  state : String
  deriving DecidableEq

structure ProbeOutput where
  probe : String
  source : DiscoverySourceKind
  refreshedAt : String
  origin : DiscoveryOrigin
  resources : List DiscoveredResource
  targets : List DiscoveredTarget
  deriving DecidableEq

structure DiscoveryError where
  detail : Option String
  text : String

/-- `revision` is a 64-bit counter in the source; that it may overflow is left out. -/
structure DiscoverySnapshot where
  snapshotId : String
  revision : Nat
  generatedAt : String
  origins : List DiscoveryOrigin
  resources : List DiscoveredResource
  targets : List DiscoveredTarget
  deriving DecidableEq

/-! ## The schedule -/

/-- Instants and durations in nanoseconds. -/
def second : Nat := 1000000000

structure DiscoveryAspectPolicy where
  aspect : String
  defaultIntervalSeconds : Int
  minIntervalSeconds : Int
  maxIntervalSeconds : Int

structure DiscoveryAspectPolicySet where
  policyVersion : Int
  policies : List DiscoveryAspectPolicy

inductive IntervalOutcome
  | asIs (seconds : Nat)
  | clamped (requested : Int) (applied : Nat) (reason : String)
  | unusable (reason : String)

/-- `evaluate`: the default interval, within the bounds the policy itself gives. -/
def evaluate (policy : DiscoveryAspectPolicy) : IntervalOutcome :=
  let lower := max policy.minIntervalSeconds 1
  let upper := policy.maxIntervalSeconds
  let requested := policy.defaultIntervalSeconds
  if upper < lower then .unusable "max_interval_seconds below the usable minimum"
  else if requested ≤ 0 then .clamped requested lower.toNat "non-positive interval"
  else if requested < lower then .clamped requested lower.toNat "below min_interval_seconds"
  else if upper < requested then .clamped requested upper.toNat "above max_interval_seconds"
  else .asIs requested.toNat

def intervalFor (set : DiscoveryAspectPolicySet) (aspect : String) : Option Nat :=
  match set.policies.find? fun policy => policy.aspect = aspect with
  | none => none
  | some policy => match evaluate policy with
    | .asIs seconds | .clamped _ seconds _ => some (seconds * second)
    | .unusable _ => none

/-- A probe with what the runtime keeps of it; `answers` is not read by the code and lists every
output the probe has returned. -/
structure ProbeSlot where
  name : String
  refreshInterval : Nat
  lastOutput : Option ProbeOutput
  lastRunAt : Option Nat
  answers : List ProbeOutput

def ProbeSlot.new (name : String) (refreshInterval : Nat) : ProbeSlot :=
  ⟨name, refreshInterval, none, none, []⟩

/-- Never run, or the interval has passed. -/
def ProbeSlot.due (policy : Option DiscoveryAspectPolicySet) (slot : ProbeSlot) (instant : Nat) :
    Bool :=
  match slot.lastRunAt with
  | none => true
  | some last =>
    let interval := (policy.bind fun set => intervalFor set slot.name).getD slot.refreshInterval
    decide (interval ≤ instant - last)

/-! ## One refresh -/

/-- What one probe adds to a refresh. -/
structure Contribution where
  slot : ProbeSlot
  output : Option ProbeOutput
  error : Option DiscoveryError
  usedFallback : Bool

/-- A success on record. -/
def ProbeSlot.answered (slot : ProbeSlot) (output : ProbeOutput) : ProbeSlot :=
  { slot with lastOutput := some output, answers := slot.answers ++ [output] }

/-- One turn of the loop of `refresh_inner`; `answer` is what the probe returns if it is asked. No
`dueAt` is a forced refresh. -/
def refreshProbe (policy : Option DiscoveryAspectPolicySet) (dueAt : Option Nat) (clock : Nat)
    (answer : Except DiscoveryError ProbeOutput) (slot : ProbeSlot) : Contribution :=
  if dueAt.all (slot.due policy) then
    let slot := { slot with lastRunAt := some (dueAt.getD clock) }
    match answer with
    | .ok output => ⟨slot.answered output, some output, none, false⟩
    | .error err => match dueAt, slot.lastOutput with
      -- only a forced refresh goes back to the last output
      | none, some cached => ⟨slot, some cached, some err, true⟩
      | _, _ => ⟨slot, none, some err, false⟩
  else match slot.lastOutput with
    | some cached => ⟨slot, some cached, none, false⟩
    | none => match answer with
      | .ok output => ⟨{ slot.answered output with lastRunAt := dueAt }, some output, none, false⟩
      | .error err => ⟨slot, none, some err, false⟩

structure SuccessfulProbeRefresh where
  probe : String
  source : DiscoverySourceKind
  resourceCount : Nat
  targetCount : Nat

/-- The accumulators of the loop. -/
structure Gathered where
  slots : List ProbeSlot
  resources : List DiscoveredResource
  targets : List DiscoveredTarget
  origins : List DiscoveryOrigin
  errors : List DiscoveryError
  successfulProbes : List SuccessfulProbeRefresh

def Gathered.empty : Gathered := ⟨[], [], [], [], [], []⟩

/-- The report under the index of its origin. -/
def DiscoveredResource.at (resource : DiscoveredResource) (originIdx : Nat) : DiscoveredResource :=
  { resource with originIdx }

def DiscoveredTarget.at (target : DiscoveredTarget) (originIdx : Nat) : DiscoveredTarget :=
  { target with originIdx }

def Gathered.add (gathered : Gathered) (part : Contribution) : Gathered :=
  let errors := gathered.errors ++ part.error.toList
  match part.output with
  | none => { gathered with slots := gathered.slots ++ [part.slot], errors }
  | some output =>
    let originIdx := gathered.origins.length
    { slots := gathered.slots ++ [part.slot]
      resources := gathered.resources ++ output.resources.map (·.at originIdx)
      targets := gathered.targets ++ output.targets.map (·.at originIdx)
      origins := gathered.origins ++ [output.origin]
      errors
      successfulProbes := if part.usedFallback then gathered.successfulProbes
        else gathered.successfulProbes ++
          [⟨output.probe, output.source, output.resources.length, output.targets.length⟩] }

structure DiscoveryRuntime where
  slots : List ProbeSlot
  latestSnapshot : Option DiscoverySnapshot
  policy : Option DiscoveryAspectPolicySet

def DiscoveryRuntime.new (slots : List ProbeSlot) : DiscoveryRuntime := ⟨slots, none, none⟩

variable (runtime : DiscoveryRuntime)

/-- `apply_discovery_policy`; whether the version changed. -/
def DiscoveryRuntime.applyDiscoveryPolicy (set : DiscoveryAspectPolicySet) : DiscoveryRuntime × Bool :=
  ({ runtime with policy := some set },
    runtime.policy.all fun current => decide (current.policyVersion ≠ set.policyVersion))

/-- The parts all probes add, the answers in the order of the probes. -/
def contributions (dueAt : Option Nat) (clock : Nat → Nat)
    (answers : Nat → Except DiscoveryError ProbeOutput) : List Contribution :=
  runtime.slots.zipIdx.map fun slot =>
    refreshProbe runtime.policy dueAt (clock slot.2) (answers slot.2) slot.1

structure DiscoveryRefreshResult where
  refreshedSnapshot : DiscoverySnapshot
  persistedSnapshot : DiscoverySnapshot
  errors : List DiscoveryError
  lastSuccessAt : Option String
  lastError : Option String
  usedCachedSnapshot : Bool
  hadSuccessfulRefresh : Bool
  successfulProbes : List SuccessfulProbeRefresh

/-- Whether the refresh replaces the snapshot. -/
def Gathered.hasOutput (gathered : Gathered) (probeCount : Nat) : Bool :=
  decide (gathered.resources ≠ []) || decide (gathered.targets ≠ []) ||
    decide (gathered.errors.length < probeCount)

def composeSnapshot (gathered : Gathered) (generatedAt : String) :
    DiscoveryRuntime × DiscoveryRefreshResult :=
  let previous := runtime.latestSnapshot
  let revision := (previous.map fun snapshot => snapshot.revision + 1).getD 1
  let refreshed : DiscoverySnapshot :=
    { snapshotId := "discovery:" ++ toString revision ++ ":" ++ generatedAt, revision, generatedAt
      origins := gathered.origins, resources := gathered.resources, targets := gathered.targets }
  let hasOutput := gathered.hasOutput runtime.slots.length
  let persisted := if hasOutput then refreshed else previous.getD refreshed
  ({ runtime with slots := gathered.slots, latestSnapshot := some persisted },
    { refreshedSnapshot := refreshed, persistedSnapshot := persisted, errors := gathered.errors
      lastSuccessAt := if hasOutput then some generatedAt else previous.map (·.generatedAt)
      lastError := gathered.errors.head?.map fun error => error.detail.getD error.text
      usedCachedSnapshot := !hasOutput && previous.isSome
      hadSuccessfulRefresh := hasOutput, successfulProbes := gathered.successfulProbes })

/-- `refresh_inner`. -/
def refreshInner (dueAt : Option Nat) (clock : Nat → Nat)
    (answers : Nat → Except DiscoveryError ProbeOutput) (generatedAt : String) :
    DiscoveryRuntime × DiscoveryRefreshResult :=
  composeSnapshot runtime
    ((contributions runtime dueAt clock answers).foldl Gathered.add .empty) generatedAt

/-! ## The cache and the daemon -/

/-- `meta.json` as far as the snapshot is concerned. -/
structure DiscoveryCacheMeta where
  snapshotId : String
  revision : Nat
  generatedAt : String
  origins : List DiscoveryOrigin

structure DiscoveryCache where
  resources : Option (List DiscoveredResource)
  targets : Option (List DiscoveredTarget)
  cacheMeta : Option DiscoveryCacheMeta

/-- `load_snapshot` when the files can be read. -/
def DiscoveryCache.loadSnapshot (cache : DiscoveryCache) : Option DiscoverySnapshot :=
  match cache.cacheMeta, cache.resources, cache.targets with
  | some cacheMeta, some resources, some targets =>
    some { snapshotId := cacheMeta.snapshotId, revision := cacheMeta.revision
           generatedAt := cacheMeta.generatedAt, origins := cacheMeta.origins
           resources, targets }
  | _, _, _ => none

/-- `store_snapshot`, of whose three writes the first `written` go through. -/
def DiscoveryCache.storeSnapshot (cache : DiscoveryCache) (snapshot : DiscoverySnapshot)
    (written : Nat) : DiscoveryCache :=
  { resources := if 0 < written then some snapshot.resources else cache.resources
    targets := if 1 < written then some snapshot.targets else cache.targets
    cacheMeta := if 2 < written then
        some ⟨snapshot.snapshotId, snapshot.revision, snapshot.generatedAt, snapshot.origins⟩
      else cache.cacheMeta }

/-- One refresh of the daemon as its surroundings decide it. -/
structure Refresh where
  force : Bool
  now : Nat
  /-- The clock as a forced refresh reads it at each probe. -/
  clock : Nat → Nat
  answers : Nat → Except DiscoveryError ProbeOutput
  generatedAt : String
  /-- The cache files can be read. -/
  readable : Bool
  /-- How many of the three cache writes go through. -/
  written : Nat

inductive DiscoveryEvent
  | applyPolicy (set : DiscoveryAspectPolicySet)
  | refresh (refresh : Refresh)

structure DiscoveryWorld where
  runtime : DiscoveryRuntime
  cache : DiscoveryCache

/-- `load_from_state_dir`. -/
def DiscoveryWorld.loaded (world : DiscoveryWorld) (readable : Bool) : DiscoveryRuntime :=
  match if readable then world.cache.loadSnapshot else none with
  | none => world.runtime
  | some snapshot => { world.runtime with latestSnapshot := some snapshot }

def Refresh.dueAt (refresh : Refresh) : Option Nat :=
  if refresh.force then none else some refresh.now

/-- `refresh_discovery_snapshot`: load, refresh, store. -/
def tick (world : DiscoveryWorld) (refresh : Refresh) : DiscoveryWorld :=
  let done := refreshInner (world.loaded refresh.readable) refresh.dueAt refresh.clock
    refresh.answers refresh.generatedAt
  ⟨done.1, world.cache.storeSnapshot done.2.persistedSnapshot refresh.written⟩

def discoveryStep (world : DiscoveryWorld) : DiscoveryEvent → Option DiscoveryWorld
  | .applyPolicy set => some { world with runtime := (world.runtime.applyDiscoveryPolicy set).1 }
  | .refresh refresh => some (tick world refresh)

end WistAgentd.Discovery

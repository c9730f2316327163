/- # Control.Work -- the granted work, as the agent applies it

The gateway sends a snapshot of everything it wants done (`WorkGrant`). `AppliedWorkGrant` is what
the agent holds of it from tick to tick: the standing works with the versions it acknowledged, the
one-shot works it has in hand and how far each got. `apply` replaces it by the next snapshot,
`deviceView` writes it to `state/work.json`, `restore` reads it back after a restart.

* `AppliedWorkGrant.apply`: one snapshot, with what is to be acknowledged, dispatched, logged.
* `AppliedWorkGrant.deviceView`, `AppliedWorkGrant.restore`: the view on disk.
* `AppliedWorkGrant.logInputs`, `AppliedWorkGrant.exporterRuns`: the collection tasks.

What the contracts crate defines is a parameter (`Contracts`). -/
import Mathlib.Data.List.Sort
import WistAgentd.Theory.Utf8

namespace WistAgentd.Control
open Theory.Utf8 (trim)
set_option autoImplicit false

/-- One value for each key, visited in the order of the keys. -/
abbrev BTreeMap (V : Type) := Std.ExtTreeMap String V compare

/-! ## Documents of the gateway -/

structure ContainerFilters where
  namespaceIn : List String
  podNotIn : List String
  nameIn : List String
  nameNotIn : List String
  deriving DecidableEq

structure WorkSpecSource where
  kind : String
  target : String
  multiline : String
  excludeGlobs : List String
  filters : ContainerFilters
  dropIfContains : List String
  deriving DecidableEq

structure WorkSpecUnit where
  unitId : String
  capability : String
  ruleRef : String
  requiresPrivilege : String
  sources : List WorkSpecSource

structure WorkSpec where
  units : List WorkSpecUnit

structure StandingWork where
  workId : String
  family : String
  spec : String
  planVersion : Int
  effectiveFrom : String
  status : String
  deriving DecidableEq

structure OneShotWork where
  workId : String
  agentId : String
  action : String
  spec : String
  scheduledAt : String
  deadlineAt : String
  timeoutSeconds : Int
  interruptible : Bool
  status : String
  pausedAt : Option String
  pausedTotalSeconds : Int
  currentStep : Option String
  completedSteps : List String
  attempt : Int
  issuedBy : String
  issuedAt : String
  deriving DecidableEq

structure WorkGrant where
  standing : List StandingWork
  oneShot : List OneShotWork
  sequence : Int
  deriving DecidableEq

/-- The functions of the contracts crate the agent relies on. -/
structure Contracts where
  parseSpec : String → Except String WorkSpec
  encodeSpec : WorkSpec → Except String String
  isOutstanding : OneShotWork → Bool
  fileSources : WorkSpecUnit → List WorkSpecSource
  isExecutableSource : (kind target : String) → Bool
  isKnownExporter : String → Bool
  parseExporterTarget : String → Option (String × Option String)
  metricIntervalSeconds : WorkSpec → Option Int

/-- What is asked of them: a spec is read back as it was written, and a work that was dispatched
and not heard of again is outstanding. -/
structure Contracts.Lawful (contracts : Contracts) : Prop where
  parse_encode : ∀ spec, ∃ text,
    contracts.encodeSpec spec = .ok text ∧ contracts.parseSpec text = .ok spec
  dispatched_outstanding : ∀ work, work.status = "dispatched" → contracts.isOutstanding work = true

/-! ## The state -/

structure AppliedWork where
  family : String
  planVersion : Int
  status : String
  effectiveFrom : String
  spec : Option WorkSpec
  specDetail : Option String
  ackedPlanVersion : Option Int

/-- Whether the work is to be done now and its parameters can be read. -/
def AppliedWork.isWorking (work : AppliedWork) : Bool :=
  work.status == "active" && work.spec.isSome

structure UnsupportedUnit where
  workId : String
  unitId : String
  detail : String

structure ApplyOutcome where
  changed : Bool := false
  toAck : List (String × Int) := []
  started : List String := []
  stopped : List String := []
  unsupported : List UnsupportedUnit := []
  broken : List (String × String) := []
  unexecutableOneShot : List String := []
  oneShotToDispatch : List OneShotWork := []

/-- `ONE_SHOT_UNEXECUTED` -/
def oneShotUnexecuted : String := "unexecuted"

def isOneShotExecutionInFlight (execution : String) : Bool :=
  execution == "dispatched" || execution == "running"

theorem not_inFlight_unexecuted : isOneShotExecutionInFlight oneShotUnexecuted = false := by
  decide +kernel

/-- `EXECUTABLE_ONE_SHOT_ACTIONS` -/
def executableOneShotActions : List String := ["upgrade"]

def isExecutableOneShotAction (action : String) : Bool :=
  executableOneShotActions.contains (trim action)

structure AppliedWorkGrant where
  sequence : Int := 0
  works : BTreeMap AppliedWork := ∅
  oneShotWorks : BTreeMap OneShotWork := ∅
  unexecutableOneShot : List String := []
  oneShotExecution : BTreeMap String := ∅

namespace AppliedWorkGrant

/-! ## Applying a snapshot -/

section Apply

variable (contracts : Contracts) (self : AppliedWorkGrant)

/-- A standing work of the snapshot; an acknowledgement lasts as long as its version. -/
def take (work : StandingWork) : AppliedWork :=
  let previousAck := (self.works[work.workId]?.filter
    (·.planVersion == work.planVersion)).bind (·.ackedPlanVersion)
  match contracts.parseSpec work.spec with
  | .ok spec =>
    { family := work.family, planVersion := work.planVersion, status := work.status
      effectiveFrom := work.effectiveFrom, spec := some spec, specDetail := none
      ackedPlanVersion := previousAck }
  | .error err =>
    { family := work.family, planVersion := work.planVersion, status := work.status
      effectiveFrom := work.effectiveFrom, spec := none
      specDetail := some ("unparsable work spec: " ++ err), ackedPlanVersion := previousAck }

def nextWorks (grant : WorkGrant) : BTreeMap AppliedWork :=
  grant.standing.foldl (fun next work => next.insert work.workId (self.take contracts work)) ∅

def brokenOf (grant : WorkGrant) : List (String × String) :=
  grant.standing.filterMap fun work =>
    (self.take contracts work).specDetail.map fun detail => (work.workId, detail)

def isWorkingAt (works : BTreeMap AppliedWork) (workId : String) : Bool :=
  works[workId]?.any AppliedWork.isWorking

/-- The works that do their work in `now` and did not in `before`. -/
def newlyWorking (before now : BTreeMap AppliedWork) : List String :=
  ((now.toList.filter fun entry => entry.2.isWorking && !isWorkingAt before entry.1).map
    (·.1)).insertionSort (· ≤ ·)

def toAckOf (next : BTreeMap AppliedWork) : List (String × Int) :=
  next.toList.filterMap fun entry =>
    if entry.2.spec.isNone then none
    else if entry.2.ackedPlanVersion ≠ some entry.2.planVersion then
      some (entry.1, entry.2.planVersion)
    else none

/-- The accumulators of the loop over the one-shot works. -/
structure OneShotPass where
  toDispatch : List OneShotWork := []
  unexecutableNow : List String := []
  unexecutableNew : List String := []
  execution : BTreeMap String := ∅

def executionOf (workId : String) : String :=
  self.oneShotExecution[workId]?.getD oneShotUnexecuted

def oneShotTurn (pass : OneShotPass) (work : OneShotWork) : OneShotPass :=
  let execution := self.executionOf work.workId
  if isExecutableOneShotAction work.action then
    { pass with
      toDispatch := if execution == oneShotUnexecuted then pass.toDispatch ++ [work]
        else pass.toDispatch
      execution := pass.execution.insert work.workId execution }
  else
    { pass with
      unexecutableNow := pass.unexecutableNow ++ [work.workId]
      unexecutableNew := if self.unexecutableOneShot.contains work.workId then pass.unexecutableNew
        else pass.unexecutableNew ++ [work.workId]
      execution := pass.execution.insert work.workId execution }

def oneShotPass (oneShotNow : List OneShotWork) : OneShotPass :=
  oneShotNow.foldl self.oneShotTurn {}

/-- What has left the snapshot but is still being done is kept. -/
def retainExecution (execution : BTreeMap String) : BTreeMap String :=
  self.oneShotExecution.toList.foldl (fun next entry =>
    if next.contains entry.1 || !isOneShotExecutionInFlight entry.2 then next
    else next.insert entry.1 entry.2) execution

/-- The works in hand: those of the snapshot, and the content of what was kept. -/
def nextOneShotWorks (oneShotNow : List OneShotWork) (execution : BTreeMap String) :
    BTreeMap OneShotWork :=
  execution.keys.foldl (fun next workId =>
    if next.contains workId then next
    else match self.oneShotWorks[workId]? with
      | some previous => next.insert workId previous
      | none => next)
    (oneShotNow.foldl (fun next work => next.insert work.workId work) ∅)

/-- Apply a snapshot: it is the desired state, so what it does not mention is dropped. -/
def apply (grant : WorkGrant) : ApplyOutcome × AppliedWorkGrant :=
  let next := self.nextWorks contracts grant
  let oneShotNow := grant.oneShot.filter contracts.isOutstanding
  let pass := self.oneShotPass oneShotNow
  let nextExecution := self.retainExecution pass.execution
  ({ changed := grant.sequence ≠ self.sequence
     broken := self.brokenOf contracts grant
     started := newlyWorking self.works next
     stopped := newlyWorking next self.works
     toAck := toAckOf next
     unexecutableOneShot := pass.unexecutableNew
     oneShotToDispatch := pass.toDispatch },
   { sequence := grant.sequence
     works := next
     oneShotWorks := self.nextOneShotWorks oneShotNow nextExecution
     unexecutableOneShot := pass.unexecutableNow
     oneShotExecution := nextExecution })

end Apply

/-! ## Marks -/

def markOneShotExecution (self : AppliedWorkGrant) (workId execution : String) :
    AppliedWorkGrant :=
  { self with oneShotExecution := self.oneShotExecution.insert workId execution }

def hasUpgradeInFlight (self : AppliedWorkGrant) : Bool :=
  self.oneShotExecution.toList.any fun entry => isOneShotExecutionInFlight entry.2

def markAcked (self : AppliedWorkGrant) (workId : String) (planVersion : Int) : AppliedWorkGrant :=
  match self.works[workId]? with
  | some work =>
    { self with
      works := self.works.insert workId ({ work with ackedPlanVersion := some planVersion }) }
  | none => self

end AppliedWorkGrant

/-! ## The collection tasks -/

structure LogFileInputSection where
  inputId : String
  path : String
  startupPosition : String
  multilineMode : String
  excludeGlobs : List String
  filters : ContainerFilters
  dropIfContains : List String

structure WorkLogInput where
  workId : String
  family : String
  unitId : String
  input : LogFileInputSection

structure WorkExporterRun where
  workId : String
  family : String
  unitId : String
  exporterId : String
  arg : Option String
  target : String
  inputId : String

def isSafeChar (c : Char) : Bool :=
  ('a' ≤ c && c ≤ 'z') || ('A' ≤ c && c ≤ 'Z') || ('0' ≤ c && c ≤ '9') || c == '-' || c == '_'

/-- Every character a file name should not hold becomes a dash. -/
def safeToken (raw : String) : String :=
  String.ofList (raw.toList.map fun c => if isSafeChar c then c else '-')

/-- Tasks of one unit are numbered when there are several. -/
def taskSuffix (count index : Nat) : String :=
  if count > 1 then "-" ++ toString (index + 1) else ""

def logInputId (family unitId suffix : String) : String :=
  "work-" ++ safeToken family ++ "-" ++ safeToken unitId ++ suffix

def exporterInputId (family unitId suffix : String) : String :=
  "work-" ++ safeToken family ++ "-" ++ safeToken unitId ++ "-exporter" ++ suffix

/-- `DEFAULT_METRICS_UPLINK_SECONDS` -/
def defaultMetricsUplinkSeconds : Int := 15

namespace AppliedWorkGrant

section Folding

variable (contracts : Contracts) (self : AppliedWorkGrant)

/-- Id, family and spec of the works that do their work, in the order of the ids. -/
def workingSpecs : List (String × String × WorkSpec) :=
  self.works.toList.filterMap fun entry =>
    if entry.2.isWorking then entry.2.spec.map fun spec => (entry.1, entry.2.family, spec) else none

def executableFileSources (unit : WorkSpecUnit) : List WorkSpecSource :=
  (contracts.fileSources unit).filter fun source =>
    contracts.isExecutableSource source.kind source.target

def unitLogInputs (workId family : String) (unit : WorkSpecUnit) : List WorkLogInput :=
  let globs := executableFileSources contracts unit
  globs.zipIdx.map fun entry =>
    { workId, family, unitId := unit.unitId
      input :=
        { inputId := logInputId family unit.unitId (taskSuffix globs.length entry.2)
          path := entry.1.target
          startupPosition := "tail"
          multilineMode := entry.1.multiline
          excludeGlobs := entry.1.excludeGlobs
          filters := entry.1.filters
          dropIfContains := entry.1.dropIfContains } }

def logInputs : List WorkLogInput :=
  self.workingSpecs.flatMap fun entry =>
    (entry.2.2.units.filter (·.capability == "collect_logs")).flatMap
      (unitLogInputs contracts entry.1 entry.2.1)

def knownExporters (unit : WorkSpecUnit) : List WorkSpecSource :=
  unit.sources.filter fun source =>
    source.kind == "Exporter" && contracts.isKnownExporter source.target

def unitExporterRuns (workId family : String) (unit : WorkSpecUnit) : List WorkExporterRun :=
  let exporters := knownExporters contracts unit
  exporters.zipIdx.filterMap fun entry =>
    (contracts.parseExporterTarget entry.1.target).map fun parsed =>
      { workId, family, unitId := unit.unitId
        exporterId := parsed.1
        arg := parsed.2
        target := entry.1.target
        inputId := exporterInputId family unit.unitId (taskSuffix exporters.length entry.2) }

def exporterRuns : List WorkExporterRun :=
  self.workingSpecs.flatMap fun entry =>
    (entry.2.2.units.filter (·.capability == "collect_logs")).flatMap
      (unitExporterRuns contracts entry.1 entry.2.1)

/-- The shortest interval any working metrics work asks for, in seconds. -/
def metricsInterval : Option Nat :=
  let seconds := self.workingSpecs.foldl (fun (seconds : Option Int) entry =>
    if entry.2.2.units.any (·.capability == "collect_metrics") then
      let interval :=
        (contracts.metricIntervalSeconds entry.2.2).getD defaultMetricsUplinkSeconds
      some (seconds.elim interval fun current => min current interval)
    else seconds) none
  seconds.map fun seconds => (max seconds 1).toNat

end Folding

end AppliedWorkGrant

/-! ## The view on disk -/

structure WorkTaskRecord where
  inputId : String
  path : String
  startupPosition : String

structure StandingWorkRecord where
  workId : String
  family : String
  status : String
  planVersion : Int
  acknowledgedVersion : Option Int
  effectiveFrom : String
  units : List WorkSpecUnit
  tasks : List WorkTaskRecord

structure OneShotWorkRecord where
  workId : String
  action : String
  spec : String
  status : String
  execution : String
  scheduledAt : String
  deadlineAt : String
  timeoutSeconds : Int

structure WorkRecord where
  schemaVersion : String
  recordedAt : String
  gatewaySequence : Int
  standing : List StandingWorkRecord
  oneShot : List OneShotWorkRecord
  metricsIntervalSeconds : Option Int

namespace AppliedWorkGrant

def standingRecord (contracts : Contracts) (self : AppliedWorkGrant)
    (entry : String × AppliedWork) : StandingWorkRecord :=
  { workId := entry.1
    family := entry.2.family
    status := entry.2.status
    planVersion := entry.2.planVersion
    acknowledgedVersion := entry.2.ackedPlanVersion
    effectiveFrom := entry.2.effectiveFrom
    units := (entry.2.spec.map (·.units)).getD []
    tasks := ((self.logInputs contracts).filter (·.workId == entry.1)).map fun log =>
      { inputId := log.input.inputId, path := log.input.path
        startupPosition := log.input.startupPosition } }

def oneShotRecord (self : AppliedWorkGrant) (work : OneShotWork) : OneShotWorkRecord :=
  { workId := work.workId
    action := work.action
    spec := work.spec
    status := work.status
    execution := self.executionOf work.workId
    scheduledAt := work.scheduledAt
    deadlineAt := work.deadlineAt
    timeoutSeconds := work.timeoutSeconds }

/-- The contents of `state/work.json`; nothing before the first snapshot. -/
def deviceView (contracts : Contracts) (self : AppliedWorkGrant) (recordedAt : String) :
    Option WorkRecord :=
  if self.sequence == 0 then none
  else some
    { schemaVersion := "v1"
      recordedAt
      gatewaySequence := self.sequence
      standing := self.works.toList.map (self.standingRecord contracts)
      oneShot := self.oneShotWorks.toList.map fun entry => self.oneShotRecord entry.2
      metricsIntervalSeconds := (self.metricsInterval contracts).map Int.ofNat }

/-- The snapshot a standing work of the view stands for. -/
def standingOf (contracts : Contracts) (entry : StandingWorkRecord) : StandingWork :=
  { workId := entry.workId
    family := entry.family
    spec := match contracts.encodeSpec { units := entry.units } with
      | .ok text => text
      | .error _ => "unparsable"
    planVersion := entry.planVersion
    effectiveFrom := entry.effectiveFrom
    status := entry.status }

def oneShotOf (entry : OneShotWorkRecord) : OneShotWork :=
  { workId := entry.workId
    agentId := ""
    action := entry.action
    spec := entry.spec
    scheduledAt := entry.scheduledAt
    deadlineAt := entry.deadlineAt
    timeoutSeconds := entry.timeoutSeconds
    interruptible := false
    status := entry.status
    pausedAt := none
    pausedTotalSeconds := 0
    currentStep := none
    completedSteps := []
    attempt := 0
    issuedBy := ""
    issuedAt := "" }

def reAck (runtime : AppliedWorkGrant) (entry : StandingWorkRecord) : AppliedWorkGrant :=
  match entry.acknowledgedVersion with
  | some version => runtime.markAcked entry.workId version
  | none => runtime

def takeBack (runtime : AppliedWorkGrant) (entry : OneShotWorkRecord) : AppliedWorkGrant :=
  { runtime with
    oneShotWorks := runtime.oneShotWorks.insert entry.workId (oneShotOf entry)
    oneShotExecution := runtime.oneShotExecution.insert entry.workId entry.execution
    unexecutableOneShot :=
      if !isExecutableOneShotAction entry.action &&
          !runtime.unexecutableOneShot.contains entry.workId then
        runtime.unexecutableOneShot ++ [entry.workId]
      else runtime.unexecutableOneShot }

/-- Take up the work where the view left it: apply the snapshot it stands for, then the rest. -/
def restore (contracts : Contracts) (record : WorkRecord) : AppliedWorkGrant :=
  let fresh : AppliedWorkGrant := { sequence := record.gatewaySequence }
  let applied := (fresh.apply contracts
    { standing := record.standing.map (standingOf contracts), oneShot := []
      sequence := record.gatewaySequence }).2
  let acked := record.standing.foldl reAck applied
  let whole := record.oneShot.foldl takeBack acked
  { whole with unexecutableOneShot := whole.unexecutableOneShot.insertionSort (· ≤ ·) }

end AppliedWorkGrant

end WistAgentd.Control

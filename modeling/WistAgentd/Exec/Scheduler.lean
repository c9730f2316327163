/- # Exec.Scheduler -- submit a plan, drain the queue, recover

`scheduler.rs`, `scheduler_queue_head.rs` and `scheduler_reporting_support.rs`; and
`daemon_recovery.rs`, by which every running file of an agent that stopped is reported, left to its
process or quarantined. -/
import WistAgentd.Exec.ReportingPipeline

namespace WistAgentd.Exec
open Telemetry (Path IoError ErrorKind)
open Theory.Interaction
set_option autoImplicit false

/-! ## Submission -/

structure SchedulerRequest where
  runDir : Path
  plan : ActionPlan

structure SchedulerOutcome where
  executionId : String
  planDigest : String

def duplicatePlan (actionId planDigest executionId : String) : RuntimeError :=
  .alreadyExists ("duplicate action plan already tracked locally: action_id=" ++ actionId ++
    " plan_digest=" ++ planDigest ++ " execution_id=" ++ executionId)

/-- The queue item of a submitted plan. -/
def queueItem (plan : ActionPlan) (executionId planDigest queuedAt deadlineAt : String) :
    ExecutionQueueItem :=
  { ExecutionQueueItem.builder executionId plan.actionId planDigest plan.requestId queuedAt with
    deadlineAt := some deadlineAt
    riskLevel := some (riskLevelName plan.riskLevel) }

def enqueuePlan (plan : ActionPlan) (executionId planDigest deadlineAt : String) : App Unit := do
  let queue ← loadQueueBlocking
  let queuedAt ← ask .now
  let updatedAt ← ask .now
  storeQueue (queue.enqueue (queueItem plan executionId planDigest queuedAt deadlineAt) updatedAt)

/-- `executionId` is what `next_execution_id` gave. -/
def submitLocalPlan (shared : Shared) (request : SchedulerRequest) (executionId : String) :
    App SchedulerOutcome := do
  let planDigest := shared.digestPlan request.plan
  let deadlineAt ← ask (.after request.plan.maxTotalDurationMs)
  match ← findDuplicateExecution request.plan.actionId planDigest with
  | some existing => .throw (duplicatePlan request.plan.actionId planDigest existing)
  | none => do
      let workdir := workdirFor request.runDir executionId
      ask (.scratch .createWorkdir)
      ask (.write (.plan workdir) request.plan)
      match ← (enqueuePlan request.plan executionId planDigest deadlineAt).attempt with
      | .ok () => pure { executionId, planDigest }
      | .error error => do
          let _ ← (ask (.removeWorkdir workdir)).attempt
          .throw error

/-! ## Drain -/

structure DrainRequest where
  runDir : Path
  stateDir : Path
  instanceId : String

structure DrainOutcome where
  executionId : String
  planDigest : String
  report : ReportActionResult

structure QueueHeadContext where
  workdir : Path
  plan : ActionPlan

inductive QueueHeadDisposition
  | blocked
  | reloadQueue
  | completed (outcome : DrainOutcome)

def drainOutcome (item : ExecutionQueueItem) (report : ReportActionResult) : DrainOutcome :=
  { executionId := item.executionId, planDigest := item.planDigest, report }

def queueHeadReport (request : DrainRequest) (item : ExecutionQueueItem) (plan : ActionPlan)
    (workdir : Path) (result : ActionResult) : ReportingRequest :=
  { stateDir := request.stateDir
    executionId := item.executionId
    actionId := item.actionId
    requestId := item.requestId
    planDigest := item.planDigest
    agentId := plan.agentId
    instanceId := request.instanceId
    finalState := finalStateName result
    resultPath := resultPathFor workdir
    result }

def quarantineQueueHead (item : ExecutionQueueItem) (reason : String) : App Unit :=
  quarantineExecution (.queuedItem item reason item.executionId)

def loadQueueHeadContext (request : DrainRequest) (item : ExecutionQueueItem) :
    App (Option QueueHeadContext) := do
  let workdir := workdirFor request.runDir item.executionId
  match ← (ask (.read (.plan workdir))).attempt with
  | .ok plan => pure (some { workdir, plan })
  | .error error => do
      quarantineQueueHead item ("queued execution plan unavailable: " ++ error.message)
      pure none

section

variable (shared : Shared) (request : DrainRequest) (item : ExecutionQueueItem)
  (head : QueueHeadContext)

def reconcileCompletedExecution : App (Option DrainOutcome) := do
  match ← loadCompleteLocalReport shared request.stateDir item.executionId with
  | some prepared => pure (some (drainOutcome item prepared.envelope))
  | none => do
      if ← ask (.exists (.result head.workdir)) then
        let result ← ask (.read (.result head.workdir))
        let prepared ← ensureLocalReport shared
          (queueHeadReport request item head.plan head.workdir result)
        pure (some (drainOutcome item prepared.envelope))
      else pure none

def recoverStaleExecution (state : RunningExecutionState) : App DrainOutcome := do
  let timestamp ← ask .now
  let recovered := synthesizeRecoveryResult state timestamp
  ask (.write (.result head.workdir) recovered)
  let prepared ← ensureLocalReport shared
    (queueHeadReport request item head.plan head.workdir recovered)
  pure (drainOutcome item prepared.envelope)

/-- The head has a running file whose process is gone. -/
def settleQueueHead (state : RunningExecutionState) : App QueueHeadDisposition := do
  match ← reconcileCompletedExecution shared request item head with
  | some outcome => do
      ask (.remove (.running item.executionId))
      pure (.completed outcome)
  | none => do
      let recovered ← recoverStaleExecution shared request item head state
      ask (.remove (.running item.executionId))
      pure (.completed recovered)

/-- `none`: nothing is known of an earlier run, execute it. -/
def reconcileQueueHead : App (Option QueueHeadDisposition) := do
  if ← ask (.exists (.running item.executionId)) then
    match ← (ask (.read (.running item.executionId))).attempt with
    | .error error => do
        quarantineQueueHead item ("queued execution state unavailable: " ++ error.message)
        pure (some .reloadQueue)
    | .ok state => do
        match ← inspectRunningState state with
        | .active => pure (some .blocked)
        | .expired => do
            let (state, running) ← handleExpiredRunningState state item.executionId
            if running then pure (some .blocked)
            else some <$> settleQueueHead shared request item head state
        | .inactive => some <$> settleQueueHead shared request item head state
  else do
    match ← reconcileCompletedExecution shared request item head with
    | some outcome => pure (some (.completed outcome))
    | none => pure none

end

def localExecRequest (request : DrainRequest) (item : ExecutionQueueItem) (plan : ActionPlan) :
    LocalExecRequest :=
  { executionId := item.executionId, runDir := request.runDir, planDigest := item.planDigest
    requestId := item.requestId, plan }

def executeQueueHead (shared : Shared) (request : DrainRequest) (item : ExecutionQueueItem)
    (head : QueueHeadContext) : App QueueHeadDisposition := do
  match ← (executeLocal (localExecRequest request item head.plan)).attempt with
  | .error error => do
      quarantineQueueHead item ("local execution failed: " ++ error.message)
      pure .reloadQueue
  | .ok outcome => do
      match ← (prepareLocalReport shared
          (queueHeadReport request item head.plan outcome.workdir outcome.result)).attempt with
      | .error error => do
          quarantineQueueHead item ("local execution report preparation failed: " ++ error.message)
          pure .reloadQueue
      | .ok prepared => do
          ask (.remove (.running item.executionId))
          pure (.completed (drainOutcome item prepared.envelope))

def handleQueueHead (shared : Shared) (request : DrainRequest) (item : ExecutionQueueItem) :
    App QueueHeadDisposition := do
  match ← loadQueueHeadContext request item with
  | none => pure .reloadQueue
  | some head => do
      match ← reconcileQueueHead shared request item head with
      | some disposition => pure disposition
      | none => executeQueueHead shared request item head

/-- No turn of the drain loop is left; the model's own bound. -/
def outOfFuel : RuntimeError := .other "drain loop did not end"

/-- The loop of `drain_next_with_report_async`; every turn but the last quarantines a head. -/
def drainLoop (shared : Shared) (request : DrainRequest) :
    Nat → ExecutionQueueState → App (Option DrainOutcome)
  | 0, _ => .throw outOfFuel
  | fuel + 1, queue =>
    match queue.items.head? with
    | none => pure none
    | some item => do
        match ← handleQueueHead shared request item with
        | .blocked => pure none
        | .reloadQueue => do
            let queue ← loadQueueOrDefault
            drainLoop shared request fuel queue
        | .completed outcome => do
            let now ← ask .now
            storeQueue (queue.remove item.executionId now)
            pure (some outcome)

def drainNextWithReport (shared : Shared) (request : DrainRequest) (fuel : Nat) :
    App (Option DrainOutcome) := do
  let queue ← loadQueueOrDefault
  drainLoop shared request fuel queue

structure RecoveryRequest where
  stateDir : Path
  instanceId : String

def executionIsStillRunning (state : RunningExecutionState) (slot : String) :
    App (RunningExecutionState × Bool) := do
  match ← inspectRunningState state with
  | .active => pure (state, true)
  | .expired => handleExpiredRunningState state slot
  | .inactive => pure (state, false)

def runningReport (request : RecoveryRequest) (state : RunningExecutionState) (plan : ActionPlan)
    (result : ActionResult) : ReportingRequest :=
  { stateDir := request.stateDir
    executionId := state.executionId
    actionId := state.actionId
    requestId := state.requestId
    planDigest := state.planDigest
    agentId := plan.agentId
    instanceId := request.instanceId
    finalState := finalStateName result
    resultPath := resultPathFor state.workdir
    result }

section

variable (shared : Shared) (request : RecoveryRequest) (slot : String)
  (state : RunningExecutionState)

/-- The result is known: report it and forget the running file. -/
def reportRecovered (plan : ActionPlan) (result : ActionResult) : App Unit := do
  match ← (ensureLocalReport shared (runningReport request state plan result)).attempt with
  | .error error =>
    quarantineExecution (.runningState state
      ("running execution report preparation failed: " ++ error.message) slot)
  | .ok _ => ask (.remove (.running slot))

/-- No result: the process goes on, or one is synthesised. -/
def recoverWithoutResult (plan : ActionPlan) : App Unit := do
  let (state, running) ← executionIsStillRunning state slot
  if running then pure ()
  else do
    let timestamp ← ask .now
    let recovered := synthesizeRecoveryResult state timestamp
    ask (.write (.result state.workdir) recovered)
    reportRecovered shared request slot state plan recovered

def recoverRunning : App Unit := do
  match ← (ask (.read (.plan state.workdir))).attempt with
  | .error error =>
    quarantineExecution (.runningState state
      ("running execution plan unavailable: " ++ error.message) slot)
  | .ok plan => do
      if ← ask (.exists (.result state.workdir)) then
        match ← (ask (.read (.result state.workdir))).attempt with
        | .error error =>
          quarantineExecution (.runningState state
            ("running execution result unavailable: " ++ error.message) slot)
        | .ok result => reportRecovered shared request slot state plan result
      else recoverWithoutResult shared request slot state plan

end

/-- One entry of `running/`. -/
def recoverEntry (shared : Shared) (request : RecoveryRequest) (slot : String) : App Unit := do
  match ← (ask (.read (.running slot))).attempt with
  | .error error =>
    quarantineExecution (.unreadableRunning ("running state unreadable: " ++ error.message) slot)
  | .ok state => recoverRunning shared request slot state

def recoverIncompleteExecutions (shared : Shared) (request : RecoveryRequest) : App Unit := do
  let slots ← ask (.list .running)
  Prog.forEach slots (recoverEntry shared request)

end WistAgentd.Exec

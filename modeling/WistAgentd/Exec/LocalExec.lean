/- # Exec.LocalExec -- the child of one execution

`process_control.rs` and `process_control_support.rs`: the four-way classification of a recorded
pid, the status of a running state, and stopping an expired process. `local_exec.rs` and
`local_exec_support.rs`: spawn, record, wait with cancellation and kill, load or synthesise the
result. -/
import WistAgentd.Exec.World

namespace WistAgentd.Exec
open Telemetry (Path IoError ErrorKind)
open Theory.Interaction
set_option autoImplicit false

section

variable (state : RunningExecutionState)

abbrev ask (op : Op) : App op.Ans := Prog.call op

inductive SignalRequestKind
  | cancel | kill

inductive RunningStateStatus
  | inactive | active | expired

inductive ProcessIdentityState
  | missingProcess | matches | mismatch | unavailable

def classifyProcessIdentity (expected actual : Option String) : ProcessIdentityState :=
  match expected with
  | none => .matches
  | some expected =>
    match actual with
    | some actual => if actual = expected then .matches else .mismatch
    | none => .unavailable

def deriveRunningStateStatus (identityState : ProcessIdentityState) (deadlineElapsed : Bool) :
    RunningStateStatus :=
  match identityState with
  | .missingProcess | .mismatch => .inactive
  | .unavailable => .active
  | .matches => if deadlineElapsed then .expired else .active

def processExists (pid : Nat) : App Bool :=
  if pid = 0 then pure false else ask (.probe pid)

def processIdentity (pid : Nat) : App (Option String) :=
  if pid = 0 then pure none else ask (.identity pid)

/-- Read only when there is something to compare it with. -/
def actualIdentity (pid : Nat) (expected : Option String) : App (Option String) :=
  if expected.isSome then processIdentity pid else pure none

def processIdentityState (pid : Nat) (expected : Option String) : App ProcessIdentityState := do
  if ← processExists pid then
    let actual ← actualIdentity pid expected
    pure (classifyProcessIdentity expected actual)
  else
    pure .missingProcess

def deadlineHasElapsed : Option String → App Bool
  | none => pure false
  | some deadline => ask (.elapsed deadline)

def inspectRunningState : App RunningStateStatus :=
  match state.pid with
  | none => pure .inactive
  | some pid => do
      let identityState ← processIdentityState pid state.processIdentity
      let elapsed ← deadlineHasElapsed state.deadlineAt
      pure (deriveRunningStateStatus identityState elapsed)

/-- What a signal request leaves in the running state. -/
def RunningExecutionState.signalRequested (kind : SignalRequestKind) (requestedAt : String)
    : RunningExecutionState :=
  match kind with
  | .cancel =>
    { state with
      cancelRequestedAt := state.cancelRequestedAt.or (some requestedAt)
      state := "cancelling"
      updatedAt := requestedAt }
  | .kill =>
    { state with
      killRequestedAt := some requestedAt
      state := "kill_requested"
      updatedAt := requestedAt }

/-- `slot` names the file `running/<slot>.json`. -/
def recordSignalRequest (slot : String) (kind : SignalRequestKind) : App Unit := do
  if ← ask (.exists (.running slot)) then
    let state ← ask (.read (.running slot))
    let requestedAt ← ask .now
    ask (.write (.running slot) (state.signalRequested kind requestedAt))
  else
    pure ()

def notPermitted : RuntimeError :=
  .io (IoError.new .permissionDenied "Operation not permitted (os error 1)")

def noSuchProcess : RuntimeError := .io (IoError.new .other "No such process (os error 3)")

/-- `send_signal` with `SIGTERM`. -/
def sendTerminate (pid : Nat) : App Unit :=
  if pid = 0 then pure ()
  else do
    match ← ask (.signal pid .terminate) with
    | .sent => pure ()
    | .notPermitted => .throw notPermitted
    | .noSuchProcess => .throw noSuchProcess

/-- `true`: it may still be running. -/
def forceKill (pid : Nat) : App Bool :=
  if pid = 0 then pure false
  else do
    match ← ask (.signal pid .kill) with
    | .sent => ask (.lingers pid)
    | .notPermitted => pure true
    | .noSuchProcess => pure false

/-- Also returns the state with the recorded kill request. -/
def forceStopExpiredProcess (slot : String) : App (RunningExecutionState × Bool) :=
  match state.pid with
  | none => pure (state, false)
  | some pid => do
      match ← processIdentityState pid state.processIdentity with
      | .missingProcess | .mismatch => pure (state, false)
      | .unavailable => pure (state, true)
      | .matches => do
          recordSignalRequest slot .kill
          let recorded ← ask (.read (.running slot))
          let running ← forceKill pid
          pure ({ state with killRequestedAt := recorded.killRequestedAt }, running)

def handleExpiredRunningState (slot : String) : App (RunningExecutionState × Bool) :=
  forceStopExpiredProcess state slot

end

structure LocalExecRequest where
  executionId : String
  runDir : Path
  planDigest : String
  requestId : String
  plan : ActionPlan

structure LocalExecOutcome where
  executionId : String
  workdir : Path
  result : ActionResult

inductive ExitClassification
  | completed (status : ExitStatus)
  | completedAfterTimeout (status : ExitStatus)
  | timedOut

def RuntimeError.isInvalidInput : RuntimeError → Bool
  | .io error => error.kind == .invalidInput
  | .alreadyExists _ => false

/-- `io::Error::new(err.kind(), message)`. -/
def RuntimeError.withMessage (message : String) : RuntimeError → RuntimeError
  | .io error => .io (IoError.new error.kind message)
  | .alreadyExists _ => .alreadyExists message

variable (slot : String) (pid : Nat)

/-- `SIGTERM` to a child that ran out of time; its status if it is gone already. -/
def terminateOrReap : App (Option ExitStatus) := do
  match ← (sendTerminate pid).attempt with
  | .ok () => pure none
  | .error error => do
      match ← ask (.tryWait pid) with
      | some status => pure (some status)
      | none => if error.isInvalidInput then pure none else .throw error

/-- `start_kill`; an error matters only while the child has not exited. -/
def killUnlessExited : App Unit := do
  match ← (ask (.startKill pid)).attempt with
  | .ok () => pure ()
  | .error error => do
      let status ← ask (.tryWait pid)
      if status.isNone && !error.isInvalidInput then .throw error else pure ()

/-- The grace period is over. -/
def killAndReap : App Unit := do
  recordSignalRequest slot .kill
  killUnlessExited pid
  let _ ← ask (.wait pid false)
  pure ()

def waitForChild : App ExitClassification := do
  match ← ask (.tryWait pid) with
  | some status => pure (.completed status)
  | none => do
  match ← ask (.wait pid true) with
  | some status => pure (.completed status)
  | none => do
  match ← ask (.tryWait pid) with
  | some status => pure (.completed status)
  | none => do
  recordSignalRequest slot .cancel
  match ← terminateOrReap pid with
  | some status => pure (.completedAfterTimeout status)
  | none => do
  match ← ask (.wait pid true) with
  | some status => pure (.completedAfterTimeout status)
  | none => do
  killAndReap slot pid
  pure .timedOut

def joinCapture : App Unit := ask (.scratch .captures)

/-- `start_kill`; only a child that is gone already is no error. -/
def killStarted : App Unit := do
  match ← (ask (.startKill pid)).attempt with
  | .ok () => pure ()
  | .error error => if error.isInvalidInput then pure () else .throw error

def terminateChild : App Unit := do
  match ← ask (.tryWait pid) with
  | some _ => pure ()
  | none => do
      killStarted pid
      let _ ← ask (.wait pid false)
      pure ()

def synthesizeResult (request : LocalExecRequest) (finalStatus : FinalStatus) (errorCode : String)
    (stepStatus : StepStatus) (finishedAt : String) : ActionResult :=
  { ActionResult.new request.plan.actionId request.executionId finalStatus with
    requestId := some request.requestId
    exitReason := some errorCode
    stepRecords := [
      { stepId := request.plan.entry
        attempt := 1
        op := (request.plan.steps.find? fun step => step.id == request.plan.entry).bind (·.op)
        status := stepStatus
        startedAt := finishedAt
        finishedAt := some finishedAt
        durationMs := none
        errorCode := some errorCode
        stdoutSummary := none
        stderrSummary := none
        resourceUsage := none }]
    startedAt := some finishedAt
    finishedAt := some finishedAt }

/-- A synthesised result is written before `state.json`. -/
def writeSynthesized (workdir : Path) (result : ActionResult) : App ActionResult := do
  ask (.write (.result workdir) result)
  ask (.scratch .progressState)
  pure result

def writeTimedOutResult (request : LocalExecRequest) (workdir : Path) : App ActionResult := do
  let finishedAt ← ask .now
  writeSynthesized workdir
    (synthesizeResult request .timedOut "agentd_total_timeout" .timedOut finishedAt)

def exitReason (status : ExitStatus) : String :=
  match status.code with
  | some code => "exec_exit_" ++ toString code
  | none => "exec_terminated_by_signal"

def loadOrSynthesizeResult (request : LocalExecRequest) (workdir : Path)
    (exitStatus : ExitClassification) : App ActionResult := do
  let resultExists ← ask (.exists (.result workdir))
  match exitStatus, resultExists with
  | .completed status, true => do
      let result ← ask (.read (.result workdir))
      if !status.success && result.finalStatus == .succeeded then
        .throw (.other "exec process exited non-zero with succeeded result")
      else pure result
  | .completedAfterTimeout _, true => do
      let result ← ask (.read (.result workdir))
      if result.finalStatus == .succeeded then writeTimedOutResult request workdir else pure result
  | .timedOut, _ | .completedAfterTimeout _, false => writeTimedOutResult request workdir
  | .completed status, false => do
      let finishedAt ← ask .now
      writeSynthesized workdir
        (synthesizeResult request .failed (exitReason status) .failed finishedAt)

/-- The running state written right after the spawn. -/
def spawnedState (request : LocalExecRequest) (pid : Nat) (identity : Option String)
    (startedAt deadlineAt : String) : RunningExecutionState :=
  { executionId := request.executionId
    actionId := request.plan.actionId
    planDigest := request.planDigest
    requestId := request.requestId
    state := "spawned"
    workdir := workdirFor request.runDir request.executionId
    pid := some pid
    processIdentity := identity
    startedAt
    deadlineAt := some deadlineAt
    currentStepId := none
    attempt := some 1
    cancelRequestedAt := none
    killRequestedAt := none
    updatedAt := startedAt }

/-- The running state of the finished child; `signals` is what was on disk by then. -/
def finishedState (spawned : RunningExecutionState) (result : ActionResult)
    (signals : Option RunningExecutionState) (updatedAt : String) : RunningExecutionState :=
  { spawned with
    state := finalStateName result
    cancelRequestedAt := signals.bind (·.cancelRequestedAt)
    killRequestedAt := signals.bind (·.killRequestedAt)
    updatedAt }

/-- The child could not be recorded. -/
def abandonChild (error : RuntimeError) : App LocalExecOutcome := do
  terminateChild pid
  joinCapture
  joinCapture
  .throw (error.withMessage ("failed to persist running state for " ++ slot ++ " after spawn: " ++
    error.message))

/-- From the recorded child to its outcome. -/
def superviseChild (request : LocalExecRequest) (pid : Nat) (running : RunningExecutionState) :
    App LocalExecOutcome := do
  let workdir := workdirFor request.runDir request.executionId
  let exitStatus ← waitForChild request.executionId pid
  joinCapture
  joinCapture
  let result ← loadOrSynthesizeResult request workdir exitStatus
  let signals ← (ask (.read (.running request.executionId))).attempt
  let updatedAt ← ask .now
  ask (.write (.running request.executionId)
    (finishedState running result signals.toOption updatedAt))
  pure { executionId := request.executionId, workdir, result }

/-- The handle of the child lives in here. -/
def executeScoped (request : LocalExecRequest) : App LocalExecOutcome := do
  let workdir := workdirFor request.runDir request.executionId
  ask (.scratch .createWorkdir)
  let deadlineAt ← ask (.after request.plan.maxTotalDurationMs)
  ask (.write (.plan workdir) request.plan)
  ask (.scratch .runtimeContext)
  ask (.scratch .logFiles)
  let pid ← ask (.spawn request.executionId workdir)
  ask (.scratch .childPipes)
  let startedAt ← ask .now
  let identity ← processIdentity pid
  let running := spawnedState request pid identity startedAt deadlineAt
  match ← (ask (.write (.running request.executionId) running)).attempt with
  | .error error => abandonChild request.executionId pid error
  | .ok () => superviseChild request pid running

def executeLocal (request : LocalExecRequest) : App LocalExecOutcome := do
  let outcome ← (executeScoped request).attempt
  ask .dropChild
  match outcome with
  | .ok outcome => pure outcome
  | .error error => .throw error

end WistAgentd.Exec

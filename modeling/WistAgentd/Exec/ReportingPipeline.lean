/- # Exec.ReportingPipeline -- the report of a finished execution, or setting it aside

`reporting_pipeline.rs` and `reporting_pipeline_support.rs`: an envelope with the attested result and
a reporting state beside it. What is on disk is used when it is whole, rebuilt when only the envelope
is damaged, prepared anew otherwise. `quarantine.rs` with the lookups of `execution_support.rs`: a
history record replaces the report, then the execution leaves the queue, then its running file
goes. -/
import Mathlib.Algebra.Group.Nat.Defs
import WistAgentd.Exec.LocalExec

namespace WistAgentd.Exec
open Telemetry (Path IoError ErrorKind)
open Theory.Interaction
set_option autoImplicit false

structure ReportingRequest where
  stateDir : Path
  executionId : String
  actionId : String
  requestId : String
  planDigest : String
  agentId : String
  instanceId : String
  finalState : String
  resultPath : Path
  result : ActionResult

inductive LocalReportIssue
  | newReport | missingState | corruptState | missingEnvelope | corruptEnvelope

inductive PreparedReportOrigin
  | existing
  | prepared (issue : LocalReportIssue)
  | envelopeRebuilt (issue : LocalReportIssue)

structure PreparedReport where
  envelopePath : Path
  envelope : ReportActionResult
  state : ReportingState
  origin : PreparedReportOrigin

inductive LocalReportInspection
  | ready (prepared : PreparedReport)
  | missingState
  | corruptState
  | missingEnvelope (state : ReportingState)
  | corruptEnvelope (state : ReportingState)

section

variable (shared : Shared) (request : ReportingRequest) (actionId planDigest : String)
  (reportAttempt : Nat)

/-- The envelope before its validation. -/
def reportEnvelope (resultDigest resultSignature reportedAt : String) : ReportActionResult :=
  { reportId := "rep_" ++ request.executionId ++ "_" ++ toString reportAttempt
    actionId
    reportAttempt
    finalStatus := request.result.finalStatus
    executionId := request.executionId
    planDigest
    agentId := request.agentId
    instanceId := request.instanceId
    attestation :=
      { resultDigest
        signature := resultSignature
        issuedBy := shared.devPlaceholderIssuer request.agentId
        attestedAt := reportedAt }
    reportedAt
    result := request.result }

/-- A digest and a signature that are given are used as they are. -/
def buildReportEnvelope (resultDigest resultSignature : Option String) :
    App (ReportActionResult × String × String) := do
  let digest := resultDigest.getD (shared.digestResult request.result)
  let signature := resultSignature.getD (shared.signDevPlaceholder request.agentId digest)
  let reportedAt ← ask .now
  let envelope := reportEnvelope shared request actionId planDigest reportAttempt digest signature
    reportedAt
  match shared.validateReport envelope with
  | some code => .throw (.io (IoError.new .invalidData code))
  | none => pure (envelope, digest, signature)

end

def inspectLocalReport (shared : Shared) (stateDir : Path) (executionId : String) :
    App LocalReportInspection := do
  if ← ask (.exists (.reporting executionId)) then
    match ← (ask (.read (.reporting executionId))).attempt with
    | .error _ => pure .corruptState
    | .ok state => do
        if ← ask (.exists (.envelope executionId)) then
          match ← (ask (.read (.envelope executionId))).attempt with
          | .error _ => pure (.corruptEnvelope state)
          | .ok envelope =>
            pure (.ready
              { envelopePath := envelopePathFor shared stateDir executionId
                envelope, state, origin := .existing })
        else pure (.missingEnvelope state)
  else pure .missingState

section

variable (shared : Shared) (request : ReportingRequest)

/-- The reporting state of a report prepared from this request. -/
def reportingStateFor (resultDigest resultSignature : String) : ReportingState :=
  { executionId := request.executionId
    actionId := request.actionId
    planDigest := request.planDigest
    requestId := request.requestId
    finalState := request.finalState
    resultPath := request.resultPath
    reportEnvelopePath := some (envelopePathFor shared request.stateDir request.executionId)
    resultDigest := some resultDigest
    resultSignature := some resultSignature
    reportAttempt := 0
    lastReportAt := none
    lastReportError := none }

def prepareLocalReportWithIssue (issue : LocalReportIssue) : App PreparedReport := do
  let (envelope, digest, signature) ←
    buildReportEnvelope shared request request.actionId request.planDigest 1 none none
  ask (.write (.envelope request.executionId) envelope)
  let state := reportingStateFor shared request digest signature
  ask (.write (.reporting request.executionId) state)
  pure
    { envelopePath := envelopePathFor shared request.stateDir request.executionId
      envelope, state, origin := .prepared issue }

def prepareLocalReport : App PreparedReport :=
  prepareLocalReportWithIssue shared request .newReport

end

/-- The reporting state after a rebuild. -/
def ReportingState.synced (state : ReportingState) (envelopePath : Path)
    (resultDigest resultSignature : String) : ReportingState :=
  { state with
    reportEnvelopePath := some envelopePath
    resultDigest := some resultDigest
    resultSignature := some resultSignature }

/-- Stored only when a field changed. -/
def syncReportingState (executionId : String) (state : ReportingState) (envelopePath : Path)
    (resultDigest resultSignature : String) : App ReportingState := do
  let rebuilt := state.synced envelopePath resultDigest resultSignature
  if rebuilt = state then pure rebuilt
  else do
    ask (.write (.reporting executionId) rebuilt)
    pure rebuilt

/-- `u32::saturating_add(1)`. -/
def nextAttempt (attempt : Nat) : Nat := min (attempt + 1) (2 ^ 32 - 1)

def rebuildReportEnvelopeWithIssue (shared : Shared) (request : ReportingRequest)
    (state : ReportingState) (issue : LocalReportIssue) : App PreparedReport := do
  let (envelope, digest, signature) ← buildReportEnvelope shared request state.actionId
    state.planDigest (nextAttempt state.reportAttempt) state.resultDigest state.resultSignature
  ask (.write (.envelope request.executionId) envelope)
  let envelopePath := envelopePathFor shared request.stateDir request.executionId
  let rebuilt ← syncReportingState request.executionId state envelopePath digest signature
  pure { envelopePath, envelope, state := rebuilt, origin := .envelopeRebuilt issue }

def loadCompleteLocalReport (shared : Shared) (stateDir : Path) (executionId : String) :
    App (Option PreparedReport) := do
  match ← inspectLocalReport shared stateDir executionId with
  | .ready prepared => pure (some prepared)
  | _ => pure none

def ensureLocalReport (shared : Shared) (request : ReportingRequest) : App PreparedReport := do
  match ← inspectLocalReport shared request.stateDir request.executionId with
  | .ready prepared => pure prepared
  | .missingState => prepareLocalReportWithIssue shared request .missingState
  | .corruptState => prepareLocalReportWithIssue shared request .corruptState
  | .missingEnvelope state => rebuildReportEnvelopeWithIssue shared request state .missingEnvelope
  | .corruptEnvelope state => rebuildReportEnvelopeWithIssue shared request state .corruptEnvelope

def removeLocalReportArtifacts (executionId : String) : App Unit := do
  ask (.remove (.reporting executionId))
  ask (.remove (.envelope executionId))

variable (actionId planDigest : String)

/-- `execution_queue::load_or_default_async`. -/
def loadQueueOrDefault : App ExecutionQueueState := do
  if ← ask (.exists .queue) then ask (.read .queue)
  else do
    let now ← ask .now
    pure (.new now)

def storeQueue (queue : ExecutionQueueState) : App Unit := ask (.write .queue queue)

def lookupQueuedExecution (executionId : String) : App (Option ExecutionQueueItem) := do
  if ← ask (.exists .queue) then
    let queue ← loadQueueOrDefault
    pure (queue.items.find? fun item => item.executionId == executionId)
  else pure none

/-! ## Duplicates -/

/-- The first file that can be read and answers `found`. -/
def findIn {α : Type} (found : α → Option String) (read : String → App α) :
    List String → App (Option String)
  | [] => pure none
  | name :: rest => do
      match ← (read name).attempt with
      | .ok state =>
        match found state with
        | some executionId => pure (some executionId)
        | none => findIn found read rest
      | .error _ => findIn found read rest

/-- The blocking variants ask `Path::exists` first: an error counts as a missing directory. -/
def listBlocking (folder : Folder) : App (List String) := do
  match ← (ask (.statFolder folder)).attempt with
  | .ok () => ask (.list folder)
  | .error _ => pure []

def findDuplicateRunning : App (Option String) := do
  let names ← listBlocking .running
  findIn
    (fun state => if state.actionId = actionId ∧ state.planDigest = planDigest then
      some state.executionId else none)
    (fun name => ask (.read (.running name))) names

def findDuplicateReporting : App (Option String) := do
  let names ← listBlocking .reporting
  findIn
    (fun state => if state.actionId = actionId ∧ state.planDigest = planDigest then
      some state.executionId else none)
    (fun name => ask (.read (.reporting name))) names

def findDuplicateHistory : App (Option String) := do
  let names ← listBlocking .history
  findIn
    (fun record => if record.actionId = some actionId ∧ record.planDigest = some planDigest then
      some record.executionId else none)
    (fun name => ask (.read (.history name))) names

/-- `Path::exists`: an error counts as missing. -/
def pathExists (file : File) : App Bool := do
  match ← (ask (.exists file)).attempt with
  | .ok found => pure found
  | .error _ => pure false

/-- `execution_queue::load_or_default`, the blocking variant. -/
def loadQueueBlocking : App ExecutionQueueState := do
  if ← pathExists .queue then ask (.read .queue)
  else do
    let now ← ask .now
    pure (.new now)

def findDuplicateExecution : App (Option String) := do
  let queue ← loadQueueBlocking
  match queue.items.find? fun item => item.actionId = actionId ∧ item.planDigest = planDigest with
  | some item => pure (some item.executionId)
  | none => do
  match ← findDuplicateRunning actionId planDigest with
  | some executionId => pure (some executionId)
  | none => do
  match ← findDuplicateReporting actionId planDigest with
  | some executionId => pure (some executionId)
  | none => findDuplicateHistory actionId planDigest

/-! ## Quarantine -/

structure QuarantineRequest where
  executionId : String
  actionId : Option String
  planDigest : Option String
  requestId : Option String
  detail : String
  /-- The name of the running file. -/
  slot : String

def QuarantineRequest.queuedItem (item : ExecutionQueueItem) (detail slot : String) :
    QuarantineRequest :=
  { executionId := item.executionId, actionId := some item.actionId
    planDigest := some item.planDigest, requestId := some item.requestId, detail, slot }

def QuarantineRequest.runningState (state : RunningExecutionState) (detail slot : String) :
    QuarantineRequest :=
  { executionId := state.executionId, actionId := some state.actionId
    planDigest := some state.planDigest, requestId := some state.requestId, detail, slot }

def QuarantineRequest.unreadableRunning (detail slot : String) : QuarantineRequest :=
  { executionId := slot, actionId := none, planDigest := none, requestId := none, detail, slot }

def removeQueuedExecution (executionId : String) : App Unit := do
  if ← ask (.exists .queue) then
    let queue ← loadQueueOrDefault
    let now ← ask .now
    let left := queue.remove executionId now
    if left.items.length = queue.items.length then pure () else storeQueue left
  else pure ()

/-- The record of a quarantine; what the request leaves open is taken from the queue. -/
def historyRecord (request : QuarantineRequest) (queued : Option ExecutionQueueItem)
    (now : String) : ExecutionHistoryRecord :=
  .quarantined request.executionId
    (request.actionId.or (queued.map (·.actionId)))
    (request.planDigest.or (queued.map (·.planDigest)))
    (request.requestId.or (queued.map (·.requestId)))
    request.detail now

def quarantineExecution (request : QuarantineRequest) : App Unit := do
  let queued ← lookupQueuedExecution request.executionId
  let now ← ask .now
  removeLocalReportArtifacts request.executionId
  ask (.write (.history request.executionId) (historyRecord request queued now))
  removeQueuedExecution request.executionId
  ask (.remove (.running request.slot))

end WistAgentd.Exec

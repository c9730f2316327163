/- # Exec.Documents -- the documents of an execution, and the order of the queue

Plan, result, queue, running state, reporting state, report envelope and history record, with the
functions that build them. `schema_version` is one constant everywhere and no code reads it back;
it is left out. JSON digests, the placeholder signature and the report validation come from shared
crates and are fields of `Shared`. `execution_queue.rs` puts an item in front of the first one with a
larger priority number and takes items out by their id; a drain of `scheduler.rs` handles the head.

* `QueueLog`: the queue beside the items that wait, in the order of their submission.
* `InOrder`: what every operation keeps; `scheduling_order`: what holds after every history. -/
import WistAgentd.Telemetry.Record

namespace WistAgentd.Exec
open Telemetry (Path IoError ErrorKind)
open List
set_option autoImplicit false

/-! ## Plan and result -/

inductive RiskLevel
  | r0 | r1 | r2 | r3

def riskLevelName : RiskLevel → String
  | .r0 => "R0"
  | .r1 => "R1"
  | .r2 => "R2"
  | .r3 => "R3"

structure PlanStep where
  id : String
  op : Option String

/-- The parts of an action plan that the agent reads itself. -/
structure ActionPlan where
  actionId : String
  requestId : String
  agentId : String
  nodeId : String
  maxTotalDurationMs : Nat
  riskLevel : RiskLevel
  entry : String
  steps : List PlanStep

inductive FinalStatus
  | succeeded | failed | timedOut | cancelled | rejected
  deriving DecidableEq

def FinalStatus.asStateName : FinalStatus → String
  | .succeeded => "succeeded"
  | .failed => "failed"
  | .timedOut => "timed_out"
  | .cancelled => "cancelled"
  | .rejected => "rejected"

inductive StepStatus
  | succeeded | failed | timedOut | cancelled

structure StepRecord where
  stepId : String
  attempt : Nat
  op : Option String
  status : StepStatus
  startedAt : String
  finishedAt : Option String
  durationMs : Option Nat
  errorCode : Option String
  stdoutSummary : Option String
  stderrSummary : Option String
  resourceUsage : Option String

structure ActionResult where
  actionId : String
  executionId : String
  finalStatus : FinalStatus
  requestId : Option String
  exitReason : Option String
  stepRecords : List StepRecord
  outputs : List String
  startedAt : Option String
  finishedAt : Option String

def ActionResult.new (actionId executionId : String) (finalStatus : FinalStatus) : ActionResult :=
  { actionId, executionId, finalStatus, requestId := none, exitReason := none, stepRecords := []
    outputs := [], startedAt := none, finishedAt := none }

def finalStateName (result : ActionResult) : String := result.finalStatus.asStateName

/-! ## `execution_queue.json` -/

structure ExecutionQueueItem where
  executionId : String
  actionId : String
  planDigest : String
  requestId : String
  priority : Nat
  queuedAt : String
  deadlineAt : Option String
  cancelable : Bool
  riskLevel : Option String
  deriving DecidableEq

/-- `ExecutionQueueItem::builder(..).build()`: the defaults. -/
def ExecutionQueueItem.builder (executionId actionId planDigest requestId queuedAt : String) :
    ExecutionQueueItem :=
  { executionId, actionId, planDigest, requestId, priority := 100, queuedAt, deadlineAt := none
    cancelable := true, riskLevel := none }

structure ExecutionQueueState where
  updatedAt : String
  items : List ExecutionQueueItem

def ExecutionQueueState.new (now : String) : ExecutionQueueState := { updatedAt := now, items := [] }

/-- Lower priority numbers run first, equal ones in order of arrival. -/
def ExecutionQueueState.enqueue (queue : ExecutionQueueState) (item : ExecutionQueueItem)
    (now : String) : ExecutionQueueState :=
  let insertAt := (queue.items.findIdx? fun entry => item.priority < entry.priority).getD
    queue.items.length
  { updatedAt := now, items := queue.items.insertIdx insertAt item }

def ExecutionQueueState.remove (queue : ExecutionQueueState) (executionId now : String) :
    ExecutionQueueState :=
  { updatedAt := now, items := queue.items.filter fun item => item.executionId != executionId }

/-! ## `running/<execution_id>.json` -/

structure RunningExecutionState where
  executionId : String
  actionId : String
  planDigest : String
  requestId : String
  state : String
  workdir : Path
  pid : Option Nat
  processIdentity : Option String
  startedAt : String
  deadlineAt : Option String
  currentStepId : Option String
  attempt : Option Nat
  cancelRequestedAt : Option String
  killRequestedAt : Option String
  updatedAt : String

/-- The result of an execution whose process was lost with the agent. -/
def synthesizeRecoveryResult (state : RunningExecutionState) (timestamp : String) : ActionResult :=
  { ActionResult.new state.actionId state.executionId .failed with
    requestId := some state.requestId
    exitReason := some "agentd_recovered_incomplete_execution"
    stepRecords := [
      { stepId := state.currentStepId.getD "unknown"
        attempt := state.attempt.getD 1
        op := none
        status := .failed
        startedAt := state.startedAt
        finishedAt := some timestamp
        durationMs := none
        errorCode := some "agentd_recovered_incomplete_execution"
        stdoutSummary := none
        stderrSummary := none
        resourceUsage := none }]
    startedAt := some state.startedAt
    finishedAt := some timestamp }

/-! ## `reporting/` and `history/` -/

structure ReportingState where
  executionId : String
  actionId : String
  planDigest : String
  requestId : String
  finalState : String
  resultPath : Path
  reportEnvelopePath : Option Path
  resultDigest : Option String
  resultSignature : Option String
  reportAttempt : Nat
  lastReportAt : Option String
  lastReportError : Option String
  deriving DecidableEq

structure ResultAttestation where
  resultDigest : String
  signature : String
  issuedBy : String
  attestedAt : String

structure ReportActionResult where
  reportId : String
  actionId : String
  reportAttempt : Nat
  finalStatus : FinalStatus
  executionId : String
  planDigest : String
  agentId : String
  instanceId : String
  attestation : ResultAttestation
  reportedAt : String
  result : ActionResult

structure ExecutionHistoryRecord where
  executionId : String
  actionId : Option String
  planDigest : Option String
  requestId : Option String
  state : String
  detail : String
  recordedAt : String

def ExecutionHistoryRecord.quarantined (executionId : String)
    (actionId planDigest requestId : Option String) (detail now : String) :
    ExecutionHistoryRecord :=
  { executionId, actionId, planDigest, requestId, state := "quarantined", detail, recordedAt := now }

/-! ## Places -/

/-- `Path::join` for a relative second part. -/
def joinPath (dir name : String) : Path := dir ++ "/" ++ name

def actionsDir : String := "actions"

/-- `run_dir.join(ACTIONS_DIR).join(execution_id)`. -/
def workdirFor (runDir executionId : String) : Path := joinPath (joinPath runDir actionsDir) executionId

def resultPathFor (workdir : Path) : Path := joinPath workdir "result.json"

/-! ## What comes from the shared crates -/

structure Shared where
  reportEnvelopeSuffix : String
  digestPlan : ActionPlan → String
  digestResult : ActionResult → String
  signDevPlaceholder : String → String → String
  devPlaceholderIssuer : String → String
  /-- `validate_report_action_result`: the code of the refusal. -/
  validateReport : ReportActionResult → Option String

def envelopePathFor (shared : Shared) (stateDir : Path) (executionId : String) : Path :=
  joinPath (joinPath stateDir "reporting") (executionId ++ shared.reportEnvelopeSuffix)

/-- `io::Error`; the kind `AlreadyExists` is raised by a duplicate submission only. -/
inductive RuntimeError
  | io (error : IoError)
  | alreadyExists (message : String)

def RuntimeError.message : RuntimeError → String
  | .io error => error.message
  | .alreadyExists message => message

/-- `io::Error::other`. -/
def RuntimeError.other (message : String) : RuntimeError := .io (IoError.new .other message)

/-! ## The order of the queue -/

inductive QueueOp
  | enqueue (item : ExecutionQueueItem) (now : String)
  /-- The head is handled; a completed one is taken out. -/
  | drain (completed : Bool) (now : String)
  | remove (executionId now : String)

structure QueueLog where
  queue : ExecutionQueueState
  waiting : List ExecutionQueueItem

namespace QueueLog

def drop (log : QueueLog) (executionId now : String) : QueueLog :=
  ⟨log.queue.remove executionId now, log.waiting.filter fun item => item.executionId != executionId⟩

def step (log : QueueLog) : QueueOp → QueueLog
  | .enqueue item now => ⟨log.queue.enqueue item now, log.waiting ++ [item]⟩
  | .remove executionId now => log.drop executionId now
  | .drain completed now =>
    match log.queue.items.head? with
    | some item => if completed then log.drop item.executionId now else log
    | none => log

end QueueLog

/-- An item goes behind all that are as urgent and in front of the first that is less so. -/
theorem insert_split (item : ExecutionQueueItem) (items : List ExecutionQueueItem) :
    ∃ front back, items = front ++ back ∧
      items.insertIdx ((items.findIdx? fun entry => item.priority < entry.priority).getD items.length)
        item = front ++ item :: back ∧
      (∀ entry ∈ front, entry.priority ≤ item.priority) ∧
      ∀ entry ∈ back.head?, item.priority < entry.priority := by
  induction items with
  | nil => exact ⟨[], [], by simp⟩
  | cons first rest ih =>
    by_cases later : item.priority < first.priority
    · exact ⟨[], first :: rest, by simp [List.findIdx?_cons, later]⟩
    · obtain ⟨front, back, split, inserted, urgent, behind⟩ := ih
      refine ⟨first :: front, back, by rw [split]; rfl, ?_, ?_, behind⟩
      · cases found : rest.findIdx? fun entry => item.priority < entry.priority <;>
          simpa [List.findIdx?_cons, later, found] using inserted
      · rw [forall_mem_cons]
        exact ⟨Nat.not_lt.1 later, urgent⟩

/-- By priority, and those of one priority as they were submitted. -/
structure InOrder (log : QueueLog) : Prop where
  sorted : log.queue.items.Pairwise fun a b => a.priority ≤ b.priority
  stable : ∀ priority, log.queue.items.filter (·.priority = priority) =
    log.waiting.filter (·.priority = priority)

namespace InOrder

variable {log : QueueLog}

theorem enqueue (order : InOrder log) (item : ExecutionQueueItem) (now : String) :
    InOrder (log.step (.enqueue item now)) := by
  obtain ⟨front, back, split, inserted, urgent, behind⟩ := insert_split item log.queue.items
  obtain ⟨sorted, stable⟩ := order
  rw [split] at sorted stable
  obtain ⟨frontSorted, backSorted, across⟩ := pairwise_append.1 sorted
  have less : ∀ entry ∈ back, item.priority < entry.priority := by
    cases back with
    | nil => simp
    | cons first rest =>
      have here : item.priority < first.priority := behind first rfl
      rw [forall_mem_cons]
      exact ⟨here, fun entry mem =>
        Nat.lt_of_lt_of_le here ((pairwise_cons.1 backSorted).1 entry mem)⟩
  have items : (log.step (.enqueue item now)).queue.items = front ++ item :: back := inserted
  constructor
  · rw [items, pairwise_append, pairwise_cons]
    refine ⟨frontSorted, ⟨fun entry mem => Nat.le_of_lt (less entry mem), backSorted⟩, ?_⟩
    intro entry mem other among
    rcases mem_cons.1 among with rfl | later
    · exact urgent entry mem
    · exact across entry mem other later
  · intro priority
    have waiting : (log.step (.enqueue item now)).waiting = log.waiting ++ [item] := rfl
    rw [items, waiting, filter_append log.waiting, ← stable]
    by_cases same : item.priority = priority
    · have none_ : back.filter (·.priority = priority) = [] := by
        rw [filter_eq_nil_iff]
        intro entry mem
        have := less entry mem
        simp only [decide_eq_true_eq]
        omega
      simp [same, none_]
    · simp [same]

theorem drop (order : InOrder log) (executionId now : String) : InOrder (log.drop executionId now) where
  sorted := order.sorted.filter _
  stable priority := by
    show List.filter _ (List.filter _ log.queue.items) = List.filter _ (List.filter _ log.waiting)
    rw [filter_comm, order.stable, filter_comm]

theorem step (order : InOrder log) (op : QueueOp) : InOrder (log.step op) := by
  cases op with
  | enqueue item now => exact order.enqueue item now
  | remove executionId now => exact order.drop executionId now
  | drain completed now =>
    rw [QueueLog.step]
    split
    · split
      · exact order.drop _ now
      · exact order
    · exact order

theorem run (order : InOrder log) (ops : List QueueOp) : InOrder (ops.foldl QueueLog.step log) := by
  induction ops generalizing log with
  | nil => exact order
  | cons op ops ih => exact ih (order.step op)

/-- The head was submitted before all that are as urgent, and none is more so. -/
theorem head (order : InOrder log) {item : ExecutionQueueItem}
    (first : log.queue.items.head? = some item) :
    ∃ front back, log.waiting = front ++ item :: back ∧
      (∀ other ∈ front, item.priority < other.priority) ∧
      ∀ other ∈ back, item.priority ≤ other.priority := by
  obtain ⟨rest, items⟩ := List.head?_eq_some_iff.1 first
  have least : ∀ other ∈ log.waiting, item.priority ≤ other.priority := by
    intro other mem
    have queued : other ∈ log.queue.items.filter (·.priority = other.priority) := by
      rw [order.stable]
      simpa using mem
    rcases mem_cons.1 (items ▸ mem_of_mem_filter queued) with rfl | later
    · exact Nat.le_refl _
    · exact (pairwise_cons.1 (items ▸ order.sorted)).1 other later
  have own := order.stable item.priority
  rw [items, filter_cons_of_pos (by simp)] at own
  obtain ⟨front, back, split, others, -, -⟩ := filter_eq_cons_iff.1 own.symm
  refine ⟨front, back, split, fun other mem => ?_, fun other mem => ?_⟩
  · have different := others other mem
    have := least other (by simp [split, mem])
    simp only [decide_eq_true_eq] at different
    omega
  · exact least other (by simp [split, mem])

end InOrder

/-- **The queue is always sorted by priority and, within one priority, in the order of submission**;
the item a drain takes is the first submitted of the most urgent ones. -/
theorem scheduling_order (created : String) (ops : List QueueOp) :
    let log := ops.foldl QueueLog.step ⟨.new created, []⟩
    InOrder log ∧
      ∀ item, log.queue.items.head? = some item → ∃ front back, log.waiting = front ++ item :: back ∧
        (∀ other ∈ front, item.priority < other.priority) ∧
        ∀ other ∈ back, item.priority ≤ other.priority := by
  have order : InOrder (ops.foldl QueueLog.step ⟨.new created, []⟩) :=
    InOrder.run ⟨.nil, fun _ => rfl⟩ ops
  exact ⟨order, fun _ => order.head⟩

end WistAgentd.Exec

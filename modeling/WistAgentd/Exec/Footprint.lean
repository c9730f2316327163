/- # Exec.Footprint -- which operations a program is made of

Arguments about the files, the queue or the processes each care about a few operations. What is built
from the others stays in every class of programs that is closed under sequencing and has these as
members.

* `Op.inspects`: operations that write, remove and spawn nothing; `Op.peeks`: no processes either.
* `waitForChild_in`, `loadOrSynthesizeResult_in`, ...: the programs. -/
import WistAgentd.Exec.Scheduler

namespace WistAgentd.Exec
open Telemetry (Path IoError ErrorKind)
open Theory.Interaction
set_option autoImplicit false

/-- The operation writes, removes and spawns nothing and leaves the queue alone. -/
def Op.inspects : Op → Bool
  | .exists file | .read file => file != .queue
  | .write _ _ | .remove _ | .removeWorkdir _ | .spawn _ _ => false
  | _ => true

/-- Clocks, scratch files, and looking at files other than the queue. -/
def Op.peeks : Op → Bool
  | .exists file | .read file => file != .queue
  | .now | .after _ | .elapsed _ | .scratch _ => true
  | _ => false

theorem inspects_of_peeks {op : Op} (peeks : op.peeks = true) : op.inspects = true := by
  cases op with
  | «exists» | read => exact peeks
  | now | after | elapsed | scratch => rfl
  | _ => cases peeks

section Inspecting

variable {K : {α : Type} → App α → Prop} (closed : Prog.Closed @K)
  (inspects : ∀ op : Op, op.inspects = true → K (ask op))

include closed inspects

/-! ## Process control -/

theorem processExists_in (pid : Nat) : K (processExists pid) := by
  unfold processExists
  split
  · exact closed.pure _
  · exact inspects _ rfl

theorem processIdentity_in (pid : Nat) : K (processIdentity pid) := by
  unfold processIdentity
  split
  · exact closed.pure _
  · exact inspects _ rfl

theorem processIdentityState_in (pid : Nat) (expected : Option String) :
    K (processIdentityState pid expected) := by
  refine closed.bind (processExists_in closed inspects pid) fun found => ?_
  split
  · refine closed.bind ?_ fun actual => closed.pure _
    unfold actualIdentity
    split
    · exact processIdentity_in closed inspects pid
    · exact closed.pure _
  · exact closed.pure _

theorem inspectRunningState_in (state : RunningExecutionState) : K (inspectRunningState state) := by
  unfold inspectRunningState
  split
  · exact closed.pure _
  · refine closed.bind (processIdentityState_in closed inspects _ _) fun _ =>
      closed.bind ?_ fun _ => closed.pure _
    unfold deadlineHasElapsed
    split
    · exact closed.pure _
    · exact inspects _ rfl

theorem sendTerminate_in (pid : Nat) : K (sendTerminate pid) := by
  unfold sendTerminate
  split
  · exact closed.pure _
  · refine closed.bind (inspects _ rfl) fun answer => ?_
    cases answer with
    | sent => exact closed.pure _
    | notPermitted | noSuchProcess => exact closed.throw _

theorem forceKill_in (pid : Nat) : K (forceKill pid) := by
  unfold forceKill
  split
  · exact closed.pure _
  · refine closed.bind (inspects _ rfl) fun answer => ?_
    cases answer with
    | sent => exact inspects _ rfl
    | notPermitted | noSuchProcess => exact closed.pure _

theorem forceStopExpiredProcess_in {slot : String} (state : RunningExecutionState)
    (record : ∀ kind, K (recordSignalRequest slot kind)) :
    K (forceStopExpiredProcess state slot) := by
  unfold forceStopExpiredProcess
  split
  · exact closed.pure _
  · refine closed.bind (processIdentityState_in closed inspects _ _) fun identity => ?_
    cases identity with
    | missingProcess | mismatch | unavailable => exact closed.pure _
    | «matches» =>
      refine closed.bind (record _) fun _ => ?_
      refine closed.bind (inspects _ rfl) fun _ => ?_
      exact closed.bind (forceKill_in closed inspects _) fun _ => closed.pure _

/-! ## The local executor -/

theorem terminateOrReap_in (pid : Nat) : K (terminateOrReap pid) := by
  refine closed.bind (closed.attempt (sendTerminate_in closed inspects pid)) fun sent => ?_
  cases sent with
  | ok => exact closed.pure _
  | error error =>
    refine closed.bind (inspects _ rfl) fun status => ?_
    cases status with
    | some status => exact closed.pure _
    | none =>
      dsimp only
      split
      · exact closed.pure _
      · exact closed.throw _

theorem killUnlessExited_in (pid : Nat) : K (killUnlessExited pid) := by
  refine closed.bind (closed.attempt (inspects _ rfl)) fun killed => ?_
  cases killed with
  | ok => exact closed.pure _
  | error error =>
    refine closed.bind (inspects _ rfl) fun status => ?_
    split
    · exact closed.throw _
    · exact closed.pure _

theorem waitForChild_in {slot : String} (pid : Nat)
    (record : ∀ kind, K (recordSignalRequest slot kind)) : K (waitForChild slot pid) := by
  refine closed.bind (inspects _ rfl) fun first => ?_
  cases first with
  | some status => exact closed.pure _
  | none =>
    refine closed.bind (inspects _ rfl) fun second => ?_
    cases second with
    | some status => exact closed.pure _
    | none =>
      refine closed.bind (inspects _ rfl) fun third => ?_
      cases third with
      | some status => exact closed.pure _
      | none =>
        refine closed.bind (record _) fun _ => ?_
        refine closed.bind (terminateOrReap_in closed inspects pid) fun reaped => ?_
        cases reaped with
        | some status => exact closed.pure _
        | none =>
          refine closed.bind (inspects _ rfl) fun graceful => ?_
          cases graceful with
          | some status => exact closed.pure _
          | none =>
            refine closed.bind ?_ fun _ => closed.pure _
            refine closed.bind (record _) fun _ => ?_
            refine closed.bind (killUnlessExited_in closed inspects pid) fun _ => ?_
            exact closed.bind (inspects _ rfl) fun _ => closed.pure _

theorem terminateChild_in (pid : Nat) : K (terminateChild pid) := by
  refine closed.bind (inspects _ rfl) fun status => ?_
  cases status with
  | some status => exact closed.pure _
  | none =>
    refine closed.bind ?_ fun _ => closed.bind (inspects _ rfl) fun _ => closed.pure _
    refine closed.bind (closed.attempt (inspects _ rfl)) fun killed => ?_
    cases killed with
    | ok => exact closed.pure _
    | error error =>
      dsimp only
      split
      · exact closed.pure _
      · exact closed.throw _

theorem executionIsStillRunning_in {slot : String} (state : RunningExecutionState)
    (record : ∀ kind, K (recordSignalRequest slot kind)) :
    K (executionIsStillRunning state slot) := by
  refine closed.bind (inspectRunningState_in closed inspects state) fun status => ?_
  cases status with
  | active | inactive => exact closed.pure _
  | expired => exact forceStopExpiredProcess_in closed inspects state record

end Inspecting

section Peeking

variable {K : {α : Type} → App α → Prop} (closed : Prog.Closed @K)
  (peeks : ∀ op : Op, op.peeks = true → K (ask op))

include closed peeks

/-! ## Results -/

theorem writeTimedOutResult_in (request : LocalExecRequest) {workdir : Path}
    (results : ∀ result, K (ask (.write (.result workdir) result))) :
    K (writeTimedOutResult request workdir) :=
  closed.bind (peeks _ rfl) fun _ => closed.bind (results _) fun _ =>
    closed.bind (peeks _ rfl) fun _ => closed.pure _

theorem loadOrSynthesizeResult_in (request : LocalExecRequest) {workdir : Path}
    (exitStatus : ExitClassification)
    (results : ∀ result, K (ask (.write (.result workdir) result))) :
    K (loadOrSynthesizeResult request workdir exitStatus) := by
  refine closed.bind (peeks _ rfl) fun found => ?_
  split
  · refine closed.bind (peeks _ rfl) fun result => ?_
    split
    · exact closed.throw _
    · exact closed.pure _
  · refine closed.bind (peeks _ rfl) fun result => ?_
    split
    · exact writeTimedOutResult_in closed peeks _ results
    · exact closed.pure _
  · exact writeTimedOutResult_in closed peeks _ results
  · exact writeTimedOutResult_in closed peeks _ results
  · exact closed.bind (peeks _ rfl) fun _ => closed.bind (results _) fun _ =>
      closed.bind (peeks _ rfl) fun _ => closed.pure _

/-! ## Reports -/

theorem buildReportEnvelope_in (shared : Shared) (request : ReportingRequest)
    (actionId planDigest : String) (attempt : Nat) (digest signature : Option String) :
    K (buildReportEnvelope shared request actionId planDigest attempt digest signature) := by
  refine closed.bind (peeks _ rfl) fun reportedAt => ?_
  dsimp only
  split
  · exact closed.throw _
  · exact closed.pure _

end Peeking

/-! ## States that are passed on -/

/-- Two running states of one execution. -/
def SameExecution (a b : RunningExecutionState) : Prop :=
  a.executionId = b.executionId ∧ a.actionId = b.actionId ∧ a.planDigest = b.planDigest ∧
    a.requestId = b.requestId ∧ a.workdir = b.workdir

theorem SameExecution.refl (a : RunningExecutionState) : SameExecution a a :=
  ⟨rfl, rfl, rfl, rfl, rfl⟩

theorem returns_forceStop (state : RunningExecutionState) (name : String) :
    (forceStopExpiredProcess state name).Returns fun stopped => SameExecution stopped.1 state := by
  unfold forceStopExpiredProcess
  split
  · exact .refl state
  · refine Prog.returns_bind fun identity => ?_
    cases identity with
    | missingProcess | mismatch | unavailable => exact .refl state
    | «matches» =>
      exact Prog.returns_bind fun _ => Prog.returns_bind fun _ => Prog.returns_bind fun _ =>
        ⟨rfl, rfl, rfl, rfl, rfl⟩

theorem returns_executionIsStillRunning (state : RunningExecutionState) (slot : String) :
    (executionIsStillRunning state slot).Returns fun stopped => SameExecution stopped.1 state := by
  refine Prog.returns_bind fun status => ?_
  cases status with
  | active | inactive => exact .refl state
  | expired => exact returns_forceStop state slot

/-! ## The search for a duplicate only looks -/

def Op.looks : Op → Bool
  | .now | .exists _ | .read _ | .list _ | .statFolder _ => true
  | _ => false

theorem looks_ask {op : Op} (looks : op.looks = true) :
    (ask op).Uses (·.looks = true) fun _ _ => True :=
  Prog.uses_call looks

theorem looks_loadQueueBlocking : loadQueueBlocking.Uses (·.looks = true) fun _ _ => True := by
  refine Prog.uses_bind (Prog.uses_bind (Prog.uses_attempt (looks_ask rfl)) fun found => ?_)
    fun found => ?_
  · cases found <;> trivial
  · split
    · exact looks_ask rfl
    · exact Prog.uses_bind (looks_ask rfl) fun _ => trivial

theorem looks_findIn {α : Type} {found : α → Option String} {read : String → App α}
    (reads : ∀ name, (read name).Uses (·.looks = true) fun _ _ => True) (names : List String) :
    (findIn found read names).Uses (·.looks = true) fun _ _ => True := by
  induction names with
  | nil => trivial
  | cons name rest ih =>
    refine Prog.uses_bind (Prog.uses_attempt (reads name)) fun state => ?_
    cases state with
    | ok state =>
      dsimp only
      split
      · trivial
      · exact ih
    | error error => exact ih

theorem looks_listBlocking (folder : Folder) :
    (listBlocking folder).Uses (·.looks = true) fun _ _ => True := by
  refine Prog.uses_bind (Prog.uses_attempt (looks_ask rfl)) fun found => ?_
  cases found with
  | ok => exact looks_ask rfl
  | error error => trivial

theorem looks_findDuplicateExecution (actionId planDigest : String) :
    (findDuplicateExecution actionId planDigest).Uses (·.looks = true) fun _ _ => True := by
  refine Prog.uses_bind looks_loadQueueBlocking fun queue => ?_
  split
  · trivial
  · refine Prog.uses_bind (Prog.uses_bind (looks_listBlocking _)
      (looks_findIn fun name => @looks_ask (.read (.running name)) rfl)) fun running => ?_
    split
    · trivial
    · refine Prog.uses_bind (Prog.uses_bind (looks_listBlocking _)
        (looks_findIn fun name => @looks_ask (.read (.reporting name)) rfl)) fun reporting => ?_
      split
      · trivial
      · exact Prog.uses_bind (looks_listBlocking _)
          (looks_findIn fun name => @looks_ask (.read (.history name)) rfl)

end WistAgentd.Exec

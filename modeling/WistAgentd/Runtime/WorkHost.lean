/- # Runtime.WorkHost -- what the work poll acts on

The daemon's memory of its work, the files `state/work.json` and `state/upgrade.json`, the
heartbeat of the upgrader, the upgraders that were launched, and the control plane as far as it
heard of results. The ledger is for the proofs only: it records what was launched, what was reported
and what the daemon read, and nothing looks at it.

* `Op`, `perform`: the effects of the poll and how they can go.
* `Nature`, `Host.nature`: what upgraders, the clock and others do meanwhile. -/
import WistAgentd.Control.Work
import WistAgentd.Exec.World

namespace WistAgentd.Runtime
open Control
open Exec (Stored)
open Theory.Interaction
set_option autoImplicit false

/-- `state/upgrade.json`, as far as the daemon reads it. -/
structure UpgradeRecord where
  workId : String
  fromVersion : String
  toVersion : String
  step : String
  status : String
  detail : String
  deriving DecidableEq

/-- An upgrader the daemon launched; it outlives the daemon. -/
structure Upgrader where
  pid : Nat
  workId : String
  running : Bool
  /-- When it last touched the heartbeat file. -/
  touchedAt : Option Nat
  deriving DecidableEq

/-- A launch, with the upgraders that were running with a fresh heartbeat at that moment. -/
structure Launch where
  pid : Nat
  workId : String
  beside : List Nat
  deriving DecidableEq

structure Ledger where
  launches : List Launch := []
  /-- Launched works the memory was made to forget. -/
  dropped : List String := []
  /-- Results that reached the control plane. -/
  received : List (String × String) := []
  /-- Results it took over. -/
  accepted : List (String × String) := []
  /-- Final results the daemon has read off a record or a stale heartbeat. -/
  verdicts : List (String × String) := []
  /-- The work whose running record was read and whose heartbeat is about to be looked at. -/
  consulting : Option String := none

structure Host where
  runtime : AppliedWorkGrant := {}
  workFile : Stored WorkRecord := .missing
  upgradeFile : Stored UpgradeRecord := .missing
  /-- Modification time of `upgrade.heartbeat`. -/
  heartbeat : Option Nat := none
  clock : Nat := 0
  upgraders : List Upgrader := []
  ledger : Ledger := {}

/-- `UPGRADER_DEAD_AFTER`, in seconds -/
def upgraderDeadAfter : Nat := 60

/-- `heartbeat_is_fresh`: a time stamp in the future is no evidence of death. -/
def isFresh (clock : Nat) : Option Nat → Bool
  | none => false
  | some modified => clock < modified + upgraderDeadAfter

/-- `work_result_of`: what a record says in the control plane's terms. -/
def workResultOf (record : UpgradeRecord) : Option (String × String) :=
  if record.status == "running" then some ("running", "正在 " ++ record.step)
  else if record.status == "succeeded" then
    some ("succeeded", record.fromVersion ++ " -> " ++ record.toVersion)
  else if record.status == "failed" then some ("failed", record.detail)
  else if record.status == "rolled_back" then
    some ("failed", "已回滚到 " ++ record.fromVersion ++ "：" ++ record.detail)
  else none

/-- A result that settles a work. -/
def isFinalResult (status : String) : Bool := status == "succeeded" || status == "failed"

/-! ## The effects of the poll -/

inductive Op
  | recall
  | remember (runtime : AppliedWorkGrant)
  | fetchWorkGrant (lastSeenSequence : Int)
  | dispatchUpgrade (work : OneShotWork)
  | ackWork (workId : String) (planVersion : Int)
  | reportWorkResult (workId status detail : String)
  | readUpgradeRecord
  | heartbeatIsFresh
  | storeWork (record : WorkRecord)

abbrev Op.Ans : Op → Type
  | .recall => AppliedWorkGrant
  | .remember _ => Unit
  | .fetchWorkGrant _ => Option WorkGrant
  | .dispatchUpgrade _ => Except String String
  | .ackWork _ _ => Bool
  | .reportWorkResult _ _ _ => Bool
  | .readUpgradeRecord => Option UpgradeRecord
  | .heartbeatIsFresh => Bool
  | .storeWork _ => Bool

/-- `WorkResultAccepted::status`: what the control plane makes of a result it got. Only the first
means that it took the result over. -/
inductive Reply
  | accepted
  | stale
  | unknown
  deriving DecidableEq

/-- How an effect goes. -/
inductive Choice
  | done
  | fetched (grant : Option WorkGrant)
  | spawned (pid : Nat)
  | refused (detail : String)
  /-- An acknowledgement is accepted. -/
  | delivered
  /-- A report arrives and is answered, or arrives without a readable answer coming back. -/
  | replied (reply : Reply)
  | unanswered (reply : Reply)
  /-- A report does not arrive, or an acknowledgement is not accepted. -/
  | undelivered
  deriving DecidableEq

namespace Host

variable (host : Host)

/-- The launched upgraders that run with a fresh heartbeat of their own. -/
def alive : List Nat :=
  (host.upgraders.filter fun upgrader =>
    upgrader.running && isFresh host.clock upgrader.touchedAt).map (·.pid)

/-- The memory is replaced; launched works it does not know any more are dropped. -/
def remember (runtime : AppliedWorkGrant) : Host :=
  { host with
    runtime
    ledger := { host.ledger with
      dropped := host.ledger.dropped ++ (host.ledger.launches.map (·.workId)).filter fun workId =>
        !runtime.oneShotExecution.contains workId } }

@[simp] theorem remember_runtime (runtime : AppliedWorkGrant) :
    (host.remember runtime).runtime = runtime := rfl

def launch (pid : Nat) (workId : String) : Host :=
  { host with
    upgraders := host.upgraders ++ [⟨pid, workId, true, none⟩]
    ledger := { host.ledger with
      launches := host.ledger.launches ++ [⟨pid, workId, host.alive⟩] } }

/-- A report arrives at the control plane. -/
def receive (workId status : String) (reply : Reply) : Host :=
  { host with ledger := { host.ledger with
      received := host.ledger.received ++ [(workId, status)]
      accepted := if reply = .accepted then host.ledger.accepted ++ [(workId, status)]
        else host.ledger.accepted } }

variable {host} in
theorem mem_accepted_receive {workId status : String} {reply : Reply} {result : String × String} :
    result ∈ (host.receive workId status reply).ledger.accepted ↔
      result ∈ host.ledger.accepted ∨ reply = .accepted ∧ result = (workId, status) := by
  by_cases taken : reply = .accepted <;> simp [receive, taken]

/-- What reading a record of a known work means: a running one leaves the verdict to the heartbeat,
any other is the verdict. -/
def noteRead (record : UpgradeRecord) : Host :=
  if host.runtime.oneShotExecution.contains record.workId then
    if record.status == "running" then
      { host with ledger := { host.ledger with consulting := some record.workId } }
    else match workResultOf record with
      | some (status, _) =>
        { host with ledger := { host.ledger with
            verdicts := host.ledger.verdicts ++ [(record.workId, status)], consulting := none } }
      | none => { host with ledger := { host.ledger with consulting := none } }
  else { host with ledger := { host.ledger with consulting := none } }

/-- What looking at the heartbeat means. -/
def noteHeartbeat : Host :=
  match host.ledger.consulting with
  | some workId =>
    { host with ledger := { host.ledger with
        consulting := none
        verdicts := if isFresh host.clock host.heartbeat then host.ledger.verdicts
          else host.ledger.verdicts ++ [(workId, "failed")] } }
  | none => host

end Host

def perform : Perform Op Op.Ans Empty Host Choice
  | .recall, .done, host => some (.ok host.runtime, host)
  | .remember runtime, .done, host => some (.ok (), host.remember runtime)
  | .fetchWorkGrant _, .fetched grant, host => some (.ok grant, host)
  | .dispatchUpgrade work, .spawned pid, host =>
    if host.upgraders.any (·.pid == pid) then none
    else some (.ok (.ok (toString pid)), host.launch pid work.workId)
  | .dispatchUpgrade _, .refused detail, host => some (.ok (.error detail), host)
  | .ackWork _ _, .delivered, host => some (.ok true, host)
  | .ackWork _ _, .undelivered, host => some (.ok false, host)
  -- `report_work_result` does not look at the status of the reply
  | .reportWorkResult workId status _, .replied reply, host =>
    some (.ok true, host.receive workId status reply)
  | .reportWorkResult workId status _, .unanswered reply, host =>
    some (.ok false, host.receive workId status reply)
  | .reportWorkResult _ _ _, .undelivered, host => some (.ok false, host)
  | .readUpgradeRecord, .done, host =>
    match host.upgradeFile with
    | .intact record => some (.ok (some record), host.noteRead record)
    | _ => some (.ok none, host)
  | .heartbeatIsFresh, .done, host =>
    some (.ok (isFresh host.clock host.heartbeat), host.noteHeartbeat)
  | .storeWork record, .done, host => some (.ok true, { host with workFile := .intact record })
  | .storeWork _, .refused _, host => some (.ok false, host)
  | _, _, _ => none

theorem perform_remember {runtime : AppliedWorkGrant} {choice : Choice} {host later : Host}
    {value : Unit} (ran : perform (.remember runtime) choice host = some (.ok value, later)) :
    later = host.remember runtime := by
  cases choice <;> cases ran
  rfl

/-! ## What happens meanwhile -/

inductive Nature
  | tick (now : Nat)
  /-- A running upgrader touches the heartbeat file. -/
  | touch (pid : Nat)
  /-- A running upgrader writes its record. -/
  | write (pid : Nat) (fromVersion toVersion step status detail : String)
  | exit (pid : Nat)
  /-- Somebody else leaves another `upgrade.json`: an upgrader run by hand, a damaged disk. -/
  | replace (stored : Stored UpgradeRecord)
  deriving DecidableEq

namespace Host

variable (host : Host)

def upgraderAt (pid : Nat) : Option Upgrader :=
  host.upgraders.find? fun upgrader => upgrader.pid == pid && upgrader.running

def updateUpgrader (pid : Nat) (update : Upgrader → Upgrader) : Host :=
  { host with
    upgraders := host.upgraders.map fun upgrader =>
      if upgrader.pid == pid then update upgrader else upgrader }

def nature : Nature → Option Host
  | .tick now => some { host with clock := now }
  | .touch pid =>
    (host.upgraderAt pid).map fun _ =>
      { host.updateUpgrader pid ({ · with touchedAt := some host.clock }) with
        heartbeat := some host.clock }
  | .write pid fromVersion toVersion step status detail =>
    (host.upgraderAt pid).map fun upgrader =>
      { host with
        upgradeFile :=
          .intact ⟨upgrader.workId, fromVersion, toVersion, step, status, detail⟩ }
  | .exit pid =>
    (host.upgraderAt pid).map fun _ => host.updateUpgrader pid ({ · with running := false })
  | .replace stored => some { host with upgradeFile := stored }

end Host

end WistAgentd.Runtime

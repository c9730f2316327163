/- # Runtime.TerminalMode -- start and turns of the daemon, as far as it asks the gateway

`run_daemon` and `run_forever_async` with what they send to the control plane. A terminal rejection
is kept in `auth_terminal.json`; while the process has it in memory a turn of the loop consists of at
most one status report.

* `boot`: enrollment, runtime state, and the ledger read back.
* `turn`: the probe of the terminal mode, or an ordinary turn.
* `Machine.step`: processes that start, take turns, and die anywhere. -/
import WistAgentd.Control.Enrollment

namespace WistAgentd.Terminal
open Enrollment
open Theory.Crash
set_option autoImplicit false

variable {Key : Type} (lib : Libraries Key)

/-- Instants in nanoseconds. -/
def second : Nat := 1000000000

def statusReportInterval : Nat := 3 * second

def renewalCheckInterval : Nat := 60 * 60 * second

/-! ## Status reports -/

inductive StatusReportOutcome
  | success
  | failed
  | terminal (code : String)
  deriving DecidableEq

/-- The reply to a status report, if there is one. -/
def readStatusReply : Option Response → Enroll StatusReportOutcome
  | none => pure .failed
  | some response =>
    if response.isSuccess then do
      Prog.modify (·.log .accepted)
      pure .success
    else
      match classifyAuthRejection response.status response.body with
      | .terminal code => pure (.terminal code)
      | .notRevoked => pure .failed

def reportStatusToControlPlane (env : Surroundings Key) (reply : Option Response) :
    Enroll StatusReportOutcome := do
  let home ← Prog.get
  if home.config.controlPlane.endpoint.isNone || home.config.agent.agentId.isNone then pure .failed
  else do
    let client ← (enrollmentHttpClient lib env).attempt
    match client with
    | .error _ => pure .failed
    | .ok identity => do
        let sent ← (Prog.effect .send (·.log (.sent .status identity)) : Enroll Unit).attempt
        match sent with
        | .error _ => pure .failed
        | .ok () => readStatusReply reply

/-! ## The ledger -/

def sourceStatusReport : String := "status_report"

def sourceRenewal : String := "renewal"

def storeTerminal (state : AuthTerminal) : Enroll Unit :=
  Prog.effect .storeTerminal fun home => { home with authTerminal := .intact state }

def clearTerminal : Enroll Unit :=
  Prog.effect .clearTerminal fun home => { home with authTerminal := .missing }

/-- What cannot be recorded holds all the same, in memory. -/
def enterTerminal (code source nowText : String) : Enroll AuthTerminal := do
  let state : AuthTerminal := ⟨code, source, nowText, 0⟩
  let _ ← (Prog.effect .storeTerminal fun home =>
    { home with authTerminal := .intact state }.log .recorded : Enroll Unit).attempt
  pure state

/-- A ledger that cannot be read counts as none, and is removed. -/
def loadTerminalLedger : Enroll (Option AuthTerminal) := do
  let read ← (Prog.effect .readTerminal id : Enroll Unit).attempt
  let home ← Prog.get
  match read, home.authTerminal with
  | .ok (), .intact state => pure (some state)
  | .ok (), .missing => pure none
  | _, _ => do
      let _ ← clearTerminal.attempt
      pure none

/-! ## The loop -/

/-- The variables of the loop that decide what is sent. -/
structure LoopMemory where
  terminal : Option AuthTerminal
  lastTerminalRetry : Option Nat
  terminalClearPending : Bool
  lastRenewalCheck : Option Nat
  lastReportAt : Nat

/-- What the surroundings do in one turn. -/
structure TurnInput (Key : Type) where
  now : Nat
  env : Surroundings Key
  /-- The replies to the probe and to the status report. -/
  probe : Option Response
  report : Option Response
  /-- The other requests of an ordinary turn: policies, grants, acknowledgements, results. -/
  fetches : List String
  /-- `run_once` fails, which ends the loop. -/
  tickFails : Bool

variable (memory : LoopMemory)

def enterTerminalIfAbsent (code source nowText : String) :
    Enroll LoopMemory :=
  match memory.terminal with
  | some _ => pure memory
  | none => do
      let state ← enterTerminal code source nowText
      pure { memory with terminal := some state }

/-- `last.is_none_or(|at| at.elapsed() >= interval)` -/
def elapsed (last : Option Nat) (interval now : Nat) : Bool :=
  last.all fun before => decide (interval ≤ now - before)

def clearTerminalLedgerIfPending : Enroll LoopMemory :=
  if memory.terminalClearPending then do
    let cleared ← clearTerminal.attempt
    match cleared with
    | .ok () => pure { memory with terminalClearPending := false }
    | .error _ => pure memory
  else pure memory

variable (input : TurnInput Key)

/-- The state after a probe, and whether the gateway accepts the agent again. -/
def retryTerminalProbe (state : AuthTerminal) :
    Enroll (AuthTerminal × Bool) := do
  let outcome ← reportStatusToControlPlane lib input.env input.probe
  let state := { state with attempts := state.attempts + 1 }
  match outcome with
  | .success => pure (state, true)
  | .failed => pure (state, false)
  | .terminal code =>
    if code = state.code then pure (state, false)
    else pure ({ state with
      code, detectedAt := input.env.nowText, source := sourceStatusReport }, false)

def checkRenewal : Enroll LoopMemory :=
  if elapsed memory.lastRenewalCheck renewalCheckInterval input.now then do
    let decision ← renewCredentialIfDue lib input.env
    let memory := { memory with lastRenewalCheck := some input.now }
    if decision = .revoked then
      enterTerminalIfAbsent memory "certificate_revoked" sourceRenewal input.env.nowText
    else pure memory
  else pure memory

def fetchAll (paths : List String) : Enroll Unit :=
  Prog.forEach paths fun path => do
    let _ ← (Prog.effect .send (·.log (.sent (.fetch path) none)) : Enroll Unit).attempt

/-- The collection tick; an error of it leaves the loop. -/
def collect : Enroll Unit := do
  Prog.modify (·.log .collected)
  if input.tickFails then Prog.throw (ioError "run_once failed") else pure ()

def reportStatus : Enroll LoopMemory :=
  if statusReportInterval ≤ input.now - memory.lastReportAt then do
    let outcome ← reportStatusToControlPlane lib input.env input.report
    let memory := { memory with lastReportAt := input.now }
    match outcome with
    | .terminal code => enterTerminalIfAbsent memory code sourceStatusReport input.env.nowText
    | .success | .failed => pure memory
  else pure memory

def ordinaryTurn : Enroll LoopMemory := do
  let memory ← checkRenewal lib memory input
  fetchAll input.fetches
  collect input
  reportStatus lib memory input

/-- In the terminal mode: the probe when it is due; an accepted one ends the mode, and the turn goes
on. -/
def terminalTurn (retry : Nat) (memory : LoopMemory) (state : AuthTerminal)
    (input : TurnInput Key) : Enroll LoopMemory :=
  if elapsed memory.lastTerminalRetry retry input.now then do
    let probed ← retryTerminalProbe lib input state
    let _ ← (storeTerminal probed.1).attempt
    if probed.2 then do
      let cleared ← clearTerminal.attempt
      ordinaryTurn lib
        { memory with
          terminal := none, lastTerminalRetry := none
          terminalClearPending := match cleared with
            | .ok () => false
            | .error _ => true } input
    else pure { memory with terminal := some probed.1, lastTerminalRetry := some input.now }
  else pure memory

def turn (retry : Nat) (memory : LoopMemory) (input : TurnInput Key) : Enroll LoopMemory := do
  Prog.modify (·.log (.turn input.now))
  let memory ← clearTerminalLedgerIfPending memory
  match memory.terminal with
  | some state => terminalTurn lib retry memory state input
  | none => ordinaryTurn lib memory input

/-! ## The start -/

structure BootInput (Key : Type) where
  now : Nat
  env : Surroundings Key
  /-- The configuration as it is read from its file. -/
  config : AgentConfig
  /-- `WIST_AGENTD_RUN_ONCE` -/
  runOnce : Bool

def syncRuntimeIdentity (state : AgentRuntimeState) (config : AgentConfig) :
    Except EnrollmentError AgentRuntimeState :=
  let named : Except EnrollmentError AgentRuntimeState :=
    match requiredOption config.agent.agentId with
    | none => .ok state
    | some agentId =>
      if isRegisteredAgentId state.agentId && state.agentId ≠ agentId then
        .error (ioError ("config agent.agent_id (" ++ agentId ++
          ") conflicts with enrolled runtime identity " ++ state.agentId ++
          "; remove agent.agent_id or clear the agent state to re-enroll"))
      else .ok { state with agentId }
  named.map fun state =>
    { state with instanceId := (requiredOption config.agent.instanceName).getD state.instanceId }

def initializeRuntimeState (env : Surroundings Key) : Enroll Unit := do
  let state ← loadRuntimeState env
  let home ← Prog.get
  match syncRuntimeIdentity state home.config with
  | .error err => Prog.throw err
  | .ok state => storeRuntimeState { state with version := env.version }

/-- The memory of a new loop, or nothing after a single tick. -/
def boot (input : BootInput Key) : Enroll (Option LoopMemory) := do
  Prog.modify fun home => { home with config := input.config }.log .booted
  let _ ← ensureEnrolled lib input.env
  initializeRuntimeState input.env
  if input.runOnce then do
    Prog.modify (·.log .collected)
    pure none
  else do
    let terminal ← loadTerminalLedger
    pure (some ⟨terminal, none, false, none, input.now⟩)

/-! ## Processes -/

structure Machine where
  home : Home
  /-- The loop, if a process is running. -/
  process : Option LoopMemory

inductive MachineEvent (Key : Type)
  | boot (input : BootInput Key) (fates : List (Fate EnrollmentError))
  | turn (input : TurnInput Key) (fates : List (Fate EnrollmentError))
  | die

def Machine.step (retry : Nat) (machine : Machine) : MachineEvent Key → Option Machine
  | .boot input fates => match machine.process with
    | some _ => none
    | none =>
      let started := boot lib input fates machine.home
      some ⟨started.state, started.outcome.value?.join⟩
  | .turn input fates => match machine.process with
    | none => none
    | some memory =>
      let turned := turn lib retry memory input fates machine.home
      some ⟨turned.state, turned.outcome.value?⟩
  | .die => some { machine with process := none }

end WistAgentd.Terminal

/- # Runtime.DaemonLoop -- one-shot commands, their ledger, and the ticks of the daemon

The gateway sends a command again until its result has arrived, so the daemon keeps the results of
the last commands (`state/command_history.json`). A command is known through that ledger, or as an
investigation whose scan is still under way. How parameters are read is a parameter
(`CommandReader`). `run_forever_async` stands here as far as commands, acknowledgements and work-state
changes go through it: the terminal mode with its rare probe, the commands of the last status report,
the work-state changes of the telemetry tick, and the report that carries what has piled up.

* `CommandHistory.find`, `CommandHistory.record`: the ledger.
* `evaluateCommand`: what is to be done with a command.
* `handleCommandQueue`, `drainFinishedInvestigations`: the commands of one turn.
* `workStateChanges`: pauses and resumptions, as a difference of two ticks.
* `Daemon.tick`, `Daemon.step`: one turn of the loop; ticks, and scans that end in between. -/
import Mathlib.Data.List.Basic
import WistAgentd.Theory.Transition

namespace WistAgentd.Runtime
set_option autoImplicit false

inductive CommandKind
  | refreshFacts
  | investigate
  | other (name : String)
  deriving DecidableEq

structure AgentCommand where
  commandId : String
  kind : CommandKind
  params : String
  requestedAtMs : Int
  deriving DecidableEq

/-- `command_outcome` -/
inductive CommandOutcome
  | accepted
  | succeeded
  | failed
  | unsupported
  | stale
  | throttled
  | noUplink
  deriving DecidableEq

structure AgentCommandAck where
  commandId : String
  outcome : CommandOutcome
  detail : String

/-! ## The ledger -/

structure CommandRecord where
  commandId : String
  kind : CommandKind
  outcome : CommandOutcome
  detail : String
  completedAtMs : Int

/-- `HISTORY_LIMIT` -/
def historyLimit : Nat := 64

structure CommandHistory where
  entries : List CommandRecord := []

namespace CommandHistory

def find (history : CommandHistory) (commandId : String) : Option CommandRecord :=
  history.entries.reverse.find? (·.commandId == commandId)

/-- A new result replaces the old one of the same command; the oldest go first. -/
def record (history : CommandHistory) (entry : CommandRecord) : CommandHistory :=
  let entries := history.entries.filter (·.commandId != entry.commandId) ++ [entry]
  { entries := entries.drop (entries.length - historyLimit) }

end CommandHistory

def ackFromRecord (record : CommandRecord) : AgentCommandAck :=
  { commandId := record.commandId, outcome := record.outcome, detail := record.detail }

def recordOf (command : AgentCommand) (outcome : CommandOutcome) (detail : String) (nowMs : Int) :
    CommandRecord :=
  { commandId := command.commandId, kind := command.kind, outcome, detail, completedAtMs := nowMs }

/-! ## What is to be done -/

structure InvestigateRequest where
  maxSeconds : Nat

/-- `InvestigateRequest::from_params` and `parse_probe_request`. -/
structure CommandReader where
  investigate : String → Except String InvestigateRequest
  probe : String → Option (List String)

inductive CommandVerdict
  | unsupported
  | stale
  | throttled
  | acceptRefresh
  | acceptProbe (paths : List String)
  | acceptInvestigate (request : InvestigateRequest)
  | badInvestigateParams (detail : String)

/-- `COMMAND_STALE_MS` -/
def commandStaleMs : Int := 10 * 60 * 1000

/-- The difference saturates in the source, beyond any bound it is compared with. -/
def isStale (command : AgentCommand) (nowMs : Int) : Bool :=
  nowMs - command.requestedAtMs > commandStaleMs

/-- `last_refresh` and the present are readings of one monotonic clock. -/
def evaluateCommand (reader : CommandReader) (command : AgentCommand)
    (refreshAcceptedThisTick : Bool) (lastRefresh : Option Nat) (minInterval instant : Nat)
    (nowMs : Int) : CommandVerdict :=
  match command.kind with
  | .investigate =>
    if isStale command nowMs then .stale
    else match reader.investigate command.params with
      | .ok request => .acceptInvestigate request
      | .error detail => .badInvestigateParams detail
  | .refreshFacts =>
    if isStale command nowMs then .stale
    else match reader.probe command.params with
      | some paths => .acceptProbe paths
      | none =>
        if refreshAcceptedThisTick || lastRefresh.any (fun since => instant - since < minInterval)
        then .throttled
        else .acceptRefresh
  | .other _ => .unsupported

/-- What is recorded at once for a command that is not carried out. -/
def CommandVerdict.refusal (command : AgentCommand) (minInterval : Nat) :
    CommandVerdict → Option (CommandOutcome × String)
  | .badInvestigateParams detail => some (.failed, detail)
  | .unsupported =>
    some (.unsupported, "agentd 尚未实现命令 kind=" ++ match command.kind with
      | .refreshFacts => "refresh_facts"
      | .investigate => "investigate"
      | .other name => name)
  | .stale => some (.stale, "命令超过 " ++ toString (commandStaleMs / 60000) ++
      " 分钟未被处理（守护进程当时没在跑 / 被阻塞）")
  | .throttled => some (.throttled, "距上一次重采不足最小间隔（" ++ toString (minInterval / 1000) ++
      "s）或本 tick 已接受一条")
  | .acceptRefresh | .acceptProbe _ | .acceptInvestigate _ => none

/-! ## One turn -/

inductive CommandSource
  | fromHost
  | remote
  deriving DecidableEq

inductive Scan
  | underway
  | reported (detail : String)
  | failed (detail : String)
  deriving DecidableEq

/-- An investigation; its scan runs in a task of its own. -/
structure InflightInvestigation where
  command : AgentCommand
  source : CommandSource
  scan : Scan

def investigationAlreadyRunning (inflight : List InflightInvestigation) (commandId : String) : Bool :=
  inflight.any (·.command.commandId == commandId)

/-- What the surroundings answer while a command has its turn. -/
structure Moment where
  instant : Nat
  /-- `report_path_probe`, should it be made. -/
  probed : Bool × String
  probedAtMs : Int

/-- What the commands of one turn change. The last two fields only keep account: the commands that
were carried out, and all results recorded so far. -/
structure CommandTurn where
  history : CommandHistory
  inflight : List InflightInvestigation
  lastRefreshFacts : Option Nat
  acceptedRefresh : Option (AgentCommand × CommandSource) := none
  acks : List AgentCommandAck := []
  historyDirty : Bool := false
  executed : List String := []
  recorded : List CommandRecord := []

namespace CommandTurn

/-- An ack goes to the gateway only for its own commands. -/
def ack (turn : CommandTurn) (source : CommandSource) (ack : AgentCommandAck) : CommandTurn :=
  { turn with acks := turn.acks ++ if source = .remote then [ack] else [] }

/-- `record_command`, and the ack of its result. -/
def settle (turn : CommandTurn) (command : AgentCommand) (source : CommandSource)
    (outcome : CommandOutcome) (detail : String) (nowMs : Int) : CommandTurn :=
  let record := recordOf command outcome detail nowMs
  { turn with
    history := turn.history.record record
    historyDirty := true
    recorded := turn.recorded ++ [record] }.ack source (ackFromRecord record)

def execute (turn : CommandTurn) (commandId : String) : CommandTurn :=
  { turn with executed := turn.executed ++ [commandId] }

/-- The stage report of an investigation. -/
def claim (turn : CommandTurn) (command : AgentCommand) (source : CommandSource)
    (request : InvestigateRequest) : CommandTurn :=
  turn.ack source
    { commandId := command.commandId, outcome := .accepted
      detail := "已取走，扫描中（最长 " ++ toString request.maxSeconds ++ "s）" }

def startScan (turn : CommandTurn) (command : AgentCommand) (source : CommandSource) :
    CommandTurn :=
  { turn with inflight := turn.inflight ++ [{ command, source, scan := .underway }] }

end CommandTurn

section Queue

variable (reader : CommandReader) (minInterval : Nat) (nowMs : Int)

section

variable (turn : CommandTurn) (moment : Moment) (command : AgentCommand) (source : CommandSource)

/-- One command that is not in the ledger. -/
def carryOut : CommandTurn :=
  let verdict := evaluateCommand reader command turn.acceptedRefresh.isSome turn.lastRefreshFacts
    minInterval moment.instant nowMs
  match verdict with
  | .acceptRefresh =>
    { turn with
      lastRefreshFacts := some moment.instant
      acceptedRefresh := some (command, source) }.execute command.commandId
  | .acceptProbe _ =>
    (turn.execute command.commandId).settle command source
      (if moment.probed.1 then .succeeded else .failed) moment.probed.2 moment.probedAtMs
  | .acceptInvestigate request =>
    if investigationAlreadyRunning turn.inflight command.commandId then
      turn.claim command source request
    else ((turn.claim command source request).startScan command source).execute command.commandId
  | _ =>
    match verdict.refusal command minInterval with
    | some (outcome, detail) => turn.settle command source outcome detail nowMs
    | none => turn

/-- One command of the queue; a known one only has its result sent again. -/
def handleCommand : CommandTurn :=
  match turn.history.find command.commandId with
  | some record => turn.ack source (ackFromRecord record)
  | none => carryOut reader minInterval nowMs turn moment command source

end

/-- `moments` answers the turns of the queue in order. -/
def handleCommandQueue (turn : CommandTurn) (moments : Nat → Moment) :
    List (AgentCommand × CommandSource) → CommandTurn
  | [] => turn
  | (command, source) :: rest =>
    handleCommandQueue (handleCommand reader minInterval nowMs turn (moments 0) command source)
      (fun index => moments (index + 1)) rest

end Queue

/-- The result of a scan that has ended. -/
def Scan.result : Scan → Option (CommandOutcome × String)
  | .underway => none
  | .reported detail => some (.succeeded, detail)
  | .failed detail => some (.failed, detail)

/-- Take the investigations that have ended, record and acknowledge them. -/
def drainFinishedInvestigations (nowMs : Int) (turn : CommandTurn) :
    List InflightInvestigation → CommandTurn
  | [] => turn
  | entry :: rest =>
    match entry.scan.result with
    | none =>
      drainFinishedInvestigations nowMs { turn with inflight := turn.inflight ++ [entry] } rest
    | some (outcome, detail) =>
      drainFinishedInvestigations nowMs
        (turn.settle entry.command entry.source outcome detail nowMs) rest

/-! ## Work states -/

inductive WorkState
  | paused
  | resumed
  deriving DecidableEq

structure TelemetryWorkState where
  inputId : String
  state : WorkState
  reason : String
  since : String
  deriving DecidableEq

abbrev BTreeSet := Std.ExtTreeSet String compare

def pausedInputSignatures (notifications : List TelemetryWorkState) : BTreeSet :=
  notifications.foldl (fun paused notification => paused.insert notification.inputId) ∅

/-- Paused: now and not before; resumed: before and not now. -/
def workStateChanges (previous : BTreeSet) (currentNotifications : List TelemetryWorkState)
    (current : BTreeSet) (now : String) : List TelemetryWorkState :=
  currentNotifications.filter (fun notification => !previous.contains notification.inputId) ++
    (previous.toList.filter fun inputId => !current.contains inputId).map fun inputId =>
      { inputId, state := .resumed, reason := "spool replay recovered", since := now }

/-! ## The loop -/

/-- The outcome of a status report: accepted with new commands, failed, or refused for good. -/
inductive ReportOutcome
  | success (commands : List AgentCommand)
  | failed
  | terminal (code : String)

def ReportOutcome.isSuccess : ReportOutcome → Bool
  | .success _ => true
  | .failed | .terminal _ => false

/-- What the surroundings do in one turn. -/
structure TickInput where
  /-- The probe of the terminal mode, if it is due. -/
  probe : Option ReportOutcome := none
  /-- The renewal of the credential finds it revoked. -/
  revoked : Bool := false
  localCommand : Option AgentCommand := none
  nowMs : Int := 0
  moments : Nat → Moment := fun _ => ⟨0, (true, ""), 0⟩
  /-- Whether the uplink is enabled, and what the telemetry tick notifies. -/
  enabled : Bool := true
  notifications : List TelemetryWorkState := []
  now : String := ""
  /-- An error of `run_once`, which ends the loop. -/
  failure : Option String := none
  /-- `refresh_facts_outcome` -/
  refreshed : CommandOutcome × String := (.succeeded, "")
  reportDue : Bool := false
  report : ReportOutcome := .failed

/-- What the loop has produced and what has arrived; nothing looks at it. -/
structure LoopLedger where
  executed : List String := []
  recorded : List CommandRecord := []
  changes : List TelemetryWorkState := []
  reportedChanges : List TelemetryWorkState := []
  acks : List AgentCommandAck := []
  reportedAcks : List AgentCommandAck := []

structure Daemon where
  commandHistory : CommandHistory := {}
  pendingCommands : List AgentCommand := []
  pendingCommandAcks : List AgentCommandAck := []
  inflightInvestigations : List InflightInvestigation := []
  lastRefreshFacts : Option Nat := none
  previousTelemetryPaused : BTreeSet := ∅
  pendingWorkStateChanges : List TelemetryWorkState := []
  terminal : Option String := none
  /-- `run_forever_async` has returned an error. -/
  stopped : Bool := false
  ledger : LoopLedger := {}

namespace Daemon

variable (reader : CommandReader) (minInterval : Nat) (daemon : Daemon) (input : TickInput)

/-- The commands of this turn: those of the last report, then the one of the host. -/
def queue : List (AgentCommand × CommandSource) :=
  daemon.pendingCommands.map (·, CommandSource.remote) ++
    input.localCommand.toList.map (·, CommandSource.fromHost)

/-- Investigations that have ended are settled first. -/
def drained : CommandTurn :=
  drainFinishedInvestigations input.nowMs
    { history := daemon.commandHistory, inflight := [], lastRefreshFacts := daemon.lastRefreshFacts
      recorded := daemon.ledger.recorded }
    daemon.inflightInvestigations

def commandTurn : CommandTurn :=
  handleCommandQueue reader minInterval input.nowMs (daemon.drained input) input.moments
    (daemon.queue input)

/-- Commands are handled; acks pile up. -/
def takeCommands (turn : CommandTurn) : Daemon :=
  { daemon with
    commandHistory := turn.history
    pendingCommands := []
    pendingCommandAcks := daemon.pendingCommandAcks ++ turn.acks
    inflightInvestigations := turn.inflight
    lastRefreshFacts := turn.lastRefreshFacts
    ledger := { daemon.ledger with
      executed := daemon.ledger.executed ++ turn.executed
      recorded := turn.recorded
      acks := daemon.ledger.acks ++ turn.acks } }

/-- The accepted refresh gets its result when the tick is over. -/
def settleRefresh (accepted : Option (AgentCommand × CommandSource))
    (outcome : CommandOutcome) (detail : String) (nowMs : Int) : Daemon :=
  match accepted with
  | some (command, source) =>
    let record := recordOf command outcome detail nowMs
    let acks := if source = .remote then [ackFromRecord record] else []
    { daemon with
      commandHistory := daemon.commandHistory.record record
      pendingCommandAcks := daemon.pendingCommandAcks ++ acks
      ledger := { daemon.ledger with
        recorded := daemon.ledger.recorded ++ [record]
        acks := daemon.ledger.acks ++ acks } }
  | none => daemon

/-- The work-state changes of `run_once`; a closed uplink neither changes nor remembers. -/
def tickChanges : List TelemetryWorkState :=
  if input.enabled then
    workStateChanges daemon.previousTelemetryPaused input.notifications
      (pausedInputSignatures input.notifications) input.now
  else []

def observe : Daemon :=
  { daemon with
    previousTelemetryPaused :=
      if input.enabled then pausedInputSignatures input.notifications
      else daemon.previousTelemetryPaused
    pendingWorkStateChanges := daemon.pendingWorkStateChanges ++ daemon.tickChanges input
    ledger := { daemon.ledger with
      changes := daemon.ledger.changes ++ daemon.tickChanges input } }

/-- The status report. The changes are taken out before it is sent, the acks when it arrived. -/
def report (outcome : ReportOutcome) : Daemon :=
  let sent := daemon.pendingWorkStateChanges
  let daemon := { daemon with pendingWorkStateChanges := [] }
  match outcome with
  | .success commands =>
    { daemon with
      pendingCommandAcks := []
      pendingCommands := commands
      ledger := { daemon.ledger with
        reportedChanges := daemon.ledger.reportedChanges ++ sent
        reportedAcks := daemon.ledger.reportedAcks ++ daemon.pendingCommandAcks } }
  | .failed => daemon
  | .terminal code => { daemon with terminal := daemon.terminal.or (some code) }

/-- A credential found revoked leads into the terminal mode, from the next turn on. -/
def renew : Daemon :=
  if input.revoked then { daemon with terminal := daemon.terminal.or (some "certificate_revoked") }
  else daemon

/-- The end of a turn: what the tick showed, and the report if it is due. -/
def conclude : Daemon :=
  if input.reportDue then (daemon.observe input).report input.report else daemon.observe input

/-- A turn outside the terminal mode. -/
def ordinary : Daemon :=
  let turn := daemon.commandTurn reader minInterval input
  let daemon := (daemon.renew input).takeCommands turn
  match input.failure with
  | some error =>
    { daemon.settleRefresh turn.acceptedRefresh .failed ("守护循环失败：" ++ error) input.nowMs with
      stopped := true }
  | none =>
    (daemon.settleRefresh turn.acceptedRefresh input.refreshed.1 input.refreshed.2
      input.nowMs).conclude input

/-- One turn of the loop. In the terminal mode only the probe goes out; once it is accepted the turn
goes on as usual. -/
def tick : Daemon :=
  match daemon.terminal with
  | none => daemon.ordinary reader minInterval input
  | some _ =>
    match input.probe with
    | none => daemon
    | some (.success _) => { daemon with terminal := none }.ordinary reader minInterval input
    | some (.terminal code) => { daemon with terminal := some code }
    | some .failed => daemon

/-- Whether the turn is an ordinary one: not in the terminal mode, or out of it by its probe. -/
def isOrdinary : Bool :=
  daemon.terminal.isNone || input.probe.any ReportOutcome.isSuccess

/-- Outside its ordinary turns the loop changes nothing but the mode. -/
theorem tick_cases :
    (daemon.isOrdinary input = true ∧ daemon.tick reader minInterval input =
        { daemon with terminal := none }.ordinary reader minInterval input) ∨
      (daemon.isOrdinary input = false ∧
        ∃ terminal, daemon.tick reader minInterval input = { daemon with terminal }) := by
  have self (terminal : Option String) (same : daemon.terminal = terminal) :
      daemon = { daemon with terminal } := by
    subst same
    rfl
  unfold tick isOrdinary
  cases mode : daemon.terminal with
  | none => exact .inl ⟨rfl, congrArg (ordinary reader minInterval · input) (self none mode)⟩
  | some code =>
    cases input.probe with
    | none => exact .inr ⟨rfl, some code, self _ mode⟩
    | some outcome =>
      cases outcome with
      | success commands => exact .inl ⟨rfl, rfl⟩
      | failed => exact .inr ⟨rfl, some code, self _ mode⟩
      | terminal other => exact .inr ⟨rfl, some other, rfl⟩

end Daemon

inductive LoopEvent
  | tick (input : TickInput)
  /-- The scan of an investigation ends, or its task is gone. -/
  | scanned (commandId : String) (scan : Scan)

namespace Daemon

/-- A scan that is under way ends. -/
def scanned (daemon : Daemon) (commandId : String) (scan : Scan) : Daemon :=
  { daemon with
    inflightInvestigations := daemon.inflightInvestigations.map fun entry =>
      if entry.command.commandId == commandId && entry.scan == .underway then { entry with scan }
      else entry }

/-- A daemon that has just started: what it reads back, and nothing else. -/
def started (commandHistory : CommandHistory) (terminal : Option String) : Daemon :=
  { commandHistory, terminal, ledger := { recorded := commandHistory.entries } }

def step (reader : CommandReader) (minInterval : Nat) (daemon : Daemon) : LoopEvent → Option Daemon
  | .tick input => if daemon.stopped then none else some (daemon.tick reader minInterval input)
  | .scanned commandId scan => some (daemon.scanned commandId scan)

end Daemon

end WistAgentd.Runtime

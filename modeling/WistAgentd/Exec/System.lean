/- # Exec.System -- the daemon, submissions and processes together

The daemon runs one job at a time, a recovery or a drain; any number of submissions run beside it,
each with an execution id of its own (`next_execution_id` counts nanoseconds). Between any two
requests of a party the others act, children write results and exit, pids are reused. A party may
stop for good at any request: `crash` for the daemon, `abandon` for a submission. -/
import WistAgentd.Exec.Scheduler
import WistAgentd.Theory.Transition

namespace WistAgentd.Exec
open Telemetry (Path IoError ErrorKind)
open Theory.Interaction
open Theory.Transition
open Option
set_option autoImplicit false

/-- One installation of the agent. -/
structure Setup where
  shared : Shared
  request : DrainRequest

inductive Job
  | recover
  | drain (fuel : Nat)

/-- What a party's program returns: the outcome of a submission. -/
abbrev Task := App (Option SchedulerOutcome)

def Setup.job (setup : Setup) : Job → Task
  | .recover => do
      recoverIncompleteExecutions setup.shared
        { stateDir := setup.request.stateDir, instanceId := setup.request.instanceId }
      pure none
  | .drain fuel => do
      let _ ← drainNextWithReport setup.shared setup.request fuel
      pure none

def Setup.submission (setup : Setup) (executionId : String) (plan : ActionPlan) : Task := do
  let outcome ← submitLocalPlan setup.shared { runDir := setup.request.runDir, plan } executionId
  pure (some outcome)

/-- What happens outside the agent. -/
inductive Nature
  | startProcess (pid : Nat) (token : String)
  | exitProcess (pid : Nat)
  | reapProcess (pid : Nat)
  /-- A running child writes its `result.json`; it may write nonsense. -/
  | writeResult (pid : Nat) (content : Stored ActionResult)

/-- A process whose handle is held is not reaped by others. -/
def World.nature (world : World) : Nature → Option World
  | .startProcess pid token =>
    if world.canStart pid token then some (world.start ⟨pid, token, none, "", true, false⟩)
    else none
  | .exitProcess pid =>
    some { world with
      processes := world.processes.map fun process =>
        if process.pid = pid then { process with running := false } else process }
  | .reapProcess pid =>
    match world.processAt pid with
    | some process =>
      if process.running || process.held then none
      else some (world.reap pid)
    | none => none
  | .writeResult pid content =>
    match world.processAt pid with
    | some process =>
      if process.running && process.spawnedFor.isSome && content.present then
        some (world.put (.result process.workdir) content)
      else none
    | none => none

inductive Event
  | begin (job : Job)
  | submit (executionId : String) (plan : ActionPlan)
  | act (party : Party) (choice : Choice)
  /-- An ended program is taken note of. -/
  | finish (party : Party)
  | crash
  | abandon (executionId : String)
  | nature (nature : Nature)

structure System where
  config : Config Party Op Op.Ans RuntimeError (Option SchedulerOutcome) World
  issued : List String
  accepted : List SchedulerOutcome

namespace System

variable (system : System)

abbrev world : World := system.config.state

/-- The state once a party starts anew: it has not been overtaken. -/
def admitted (world : World) (party : Party) : World :=
  { world with ledger := { world.ledger with
      overtaken := Function.update world.ledger.overtaken party false } }

/-- The agent process is gone, and its handles with it. -/
def released (world : World) : World :=
  { world with processes := world.processes.map ({ · with held := false }) }

def start (party : Party) (task : Task) : System :=
  { system with config :=
      { system.config.assign party (some task) with state := admitted system.world party } }

/-- The program of `party` is over or will not go on. -/
def leave (party : Party) (world : World) : System :=
  { system with config := { system.config.assign party none with state := world } }

theorem start_other {party other : Party} (different : other ≠ party) (task : Task) :
    (system.start party task).config.programs other = system.config.programs other :=
  Config.assign_ne _ different _

theorem leave_self (party : Party) (world : World) :
    (system.leave party world).config.programs party = none :=
  Config.assign_self ..

theorem leave_other {party other : Party} (different : other ≠ party)
    (world : World) : (system.leave party world).config.programs other = system.config.programs other :=
  Config.assign_ne _ different _

def step (setup : Setup) (system : System) : Event → Option System
  | .begin job =>
    match system.config.programs .daemon with
    | some _ => none
    | none => some (system.start .daemon (setup.job job))
  | .submit executionId plan =>
    if executionId ∈ system.issued then none
    else some { system.start (.submission executionId) (setup.submission executionId plan) with
      issued := executionId :: system.issued }
  | .act party choice =>
    (system.config.act perform party choice).map fun config => { system with config }
  | .finish party =>
    match (system.config.programs party).bind Prog.ended with
    | some (.ok outcome) =>
      some { system.leave party system.world with
        accepted := system.accepted ++ outcome.toList }
    | some (.error _) => some (system.leave party system.world)
    | none => none
  | .crash => some (system.leave .daemon (released system.world))
  | .abandon executionId => some (system.leave (.submission executionId) system.world)
  | .nature nature =>
    (system.world.nature nature).map fun world =>
      { system with config := { system.config with state := world } }

/-- What an event does. -/
inductive Stepped (setup : Setup) (system : System) : Event → System → Prop
  | begun (job : Job) (idle : system.config.programs .daemon = none) :
      Stepped setup system (.begin job) (system.start .daemon (setup.job job))
  | submitted (executionId : String) (plan : ActionPlan) (unused : executionId ∉ system.issued) :
      Stepped setup system (.submit executionId plan)
        { system.start (.submission executionId) (setup.submission executionId plan) with
          issued := executionId :: system.issued }
  | acted (party : Party) (choice : Choice)
      (config : Config Party Op Op.Ans RuntimeError (Option SchedulerOutcome) World)
      (acted : system.config.act perform party choice = some config) :
      Stepped setup system (.act party choice) { system with config }
  | returned (party : Party) (outcome : Option SchedulerOutcome)
      (spent : (system.config.programs party).bind Prog.ended = some (.ok outcome)) :
      Stepped setup system (.finish party)
        { system.leave party system.world with
          accepted := system.accepted ++ outcome.toList }
  | threw (party : Party) (error : RuntimeError)
      (spent : (system.config.programs party).bind Prog.ended = some (.error error)) :
      Stepped setup system (.finish party) (system.leave party system.world)
  | crashed : Stepped setup system .crash (system.leave .daemon (released system.world))
  | abandoned (executionId : String) :
      Stepped setup system (.abandon executionId)
        (system.leave (.submission executionId) system.world)
  | changed (nature : Nature) (world : World) (changed : system.world.nature nature = some world) :
      Stepped setup system (.nature nature)
        { system with config := { system.config with state := world } }

theorem stepped_of_step {setup : Setup} {system next : System} {event : Event}
    (step : system.step setup event = some next) : Stepped setup system event next := by
  cases event with
  | begin job =>
    simp only [System.step] at step
    split at step
    · cases step
    · exact some.inj step ▸ .begun job (by assumption)
  | submit executionId plan =>
    simp only [System.step] at step
    split at step
    · cases step
    · exact some.inj step ▸ .submitted executionId plan (by assumption)
  | act party choice =>
    obtain ⟨config, acted, rfl⟩ := map_eq_some_iff.1 step
    exact .acted party choice config acted
  | finish party =>
    simp only [System.step] at step
    split at step
    · exact some.inj step ▸ .returned party _ (by assumption)
    · exact some.inj step ▸ .threw party _ (by assumption)
    · cases step
  | crash => exact some.inj step ▸ .crashed
  | abandon executionId => exact some.inj step ▸ .abandoned executionId
  | nature nature =>
    obtain ⟨world, changed, rfl⟩ := map_eq_some_iff.1 step
    exact .changed nature world changed

end System

def World.empty : World where
  files := fun _ => .missing
  names := []
  listed := fun _ _ found => absurd rfl found
  processes := []
  tokens := []
  ledger := { enqueued := [], overtaken := fun _ => false }

/-- A new installation. -/
def System.initial : System where
  config := { state := World.empty, programs := fun _ => none }
  issued := []
  accepted := []

abbrev runSystem (setup : Setup) : System → List Event → Option System := run (System.step setup)

/-! ## A small installation, for runs on concrete inputs -/

namespace Sample

/-- Digests that tell actions and final states apart; every report is valid. -/
def shared : Shared where
  reportEnvelopeSuffix := ".report.json"
  digestPlan := fun plan => plan.actionId
  digestResult := fun result => result.finalStatus.asStateName
  signDevPlaceholder := fun instanceId _ => instanceId
  devPlaceholderIssuer := fun instanceId => instanceId
  validateReport := fun _ => none

def setup : Setup := { shared, request := { runDir := "run", stateDir := "state", instanceId := "i" } }

def plan (actionId : String) : ActionPlan where
  actionId := actionId
  requestId := "q"
  agentId := "agent"
  nodeId := "node"
  maxTotalDurationMs := 1000
  riskLevel := .r0
  entry := "s"
  steps := []

def acts (party : Party) (choices : List Choice) : List Event := choices.map (.act party)

def tick : Choice := .text "t"

/-- The first submission of an installation, `A`, up to its acceptance. -/
def submitA : List Event :=
  .submit "A" (plan "a") ::
    acts (.submission "A") [tick, .done, tick, .done, .names [], .done, .names [], .done, .names [],
      .done, .done, .done, tick, tick, tick, .done] ++
    [.finish (.submission "A")]

/-- The daemon takes `A` from the queue and starts it as process 7. -/
def drainStarts : List Event :=
  .begin (.drain 3) ::
    acts .daemon [.done, .done, .done, .done, .done, .done, .done, tick, .done, .done, .done,
      .child 7 "x", .done, tick, .done, .done]

/-- The process exits, its report is prepared and the queue is stored without it. -/
def drainEnds : List Event :=
  acts .daemon [.exited ⟨some 0⟩, .done, .done, .done, tick, .done, .done, .done, tick, .done, .done,
      tick, .done, .done, .done, tick, .done] ++
    [.finish .daemon]

end Sample

end WistAgentd.Exec

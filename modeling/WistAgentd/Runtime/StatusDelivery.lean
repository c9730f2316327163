/- # Runtime.StatusDelivery -- what a status report carries, and what is lost with it

Acknowledgements and work-state changes travel on the same report. The acknowledgements are dropped
once the report arrived, the changes are taken out before it is sent.

* `changes_kept_iff`: no change is lost exactly if every report that carries one arrives. -/
import WistAgentd.Runtime.DaemonLoop

namespace WistAgentd.Runtime
open Theory.Transition
open List Option
set_option autoImplicit false

variable {daemon : Daemon} {lost : List TelemetryWorkState}

namespace Daemon

variable {reader : CommandReader} {minInterval : Nat}

/-- Every change produced so far is in a report that arrived, or waits for the next one. -/
def ChangesKept (daemon : Daemon) : Prop :=
  ∀ change, daemon.ledger.changes.count change ≤
    (daemon.ledger.reportedChanges ++ daemon.pendingWorkStateChanges).count change

/-- Whether a status report is sent. -/
def reports (daemon : Daemon) (input : TickInput) : Bool :=
  daemon.isOrdinary input && input.failure.isNone && input.reportDue

/-- The changes it carries. -/
def carried (daemon : Daemon) (input : TickInput) : List TelemetryWorkState :=
  daemon.pendingWorkStateChanges ++ daemon.tickChanges input

/-- A report that carries changes arrives. -/
def Arrives (daemon : Daemon) : LoopEvent → Prop
  | .tick input =>
    daemon.reports input = true → daemon.carried input ≠ [] → input.report.isSuccess = true
  | .scanned _ _ => True

instance (daemon : Daemon) : (event : LoopEvent) → Decidable (daemon.Arrives event)
  | .tick _ => inferInstanceAs (Decidable (_ → _ → _))
  | .scanned _ _ => .isTrue trivial

/-- The changes that go down with the report of a turn. -/
def lostChanges (daemon : Daemon) (input : TickInput) : List TelemetryWorkState :=
  if daemon.reports input && !input.report.isSuccess then daemon.carried input else []

theorem arrives_iff (daemon : Daemon) (input : TickInput) :
    daemon.Arrives (.tick input) ↔ daemon.lostChanges input = [] := by
  change (daemon.reports input = true → daemon.carried input ≠ [] → input.report.isSuccess = true) ↔ _
  unfold lostChanges
  cases daemon.reports input <;> cases input.report.isSuccess <;> simp

/-! ## Commands and changes do not meet -/

/-- What concerns the changes is the same. -/
structure SameChanges (daemon later : Daemon) : Prop where
  pending : later.pendingWorkStateChanges = daemon.pendingWorkStateChanges
  paused : later.previousTelemetryPaused = daemon.previousTelemetryPaused
  produced : later.ledger.changes = daemon.ledger.changes
  reported : later.ledger.reportedChanges = daemon.ledger.reportedChanges

theorem SameChanges.trans {a b c : Daemon} (first : SameChanges a b) (second : SameChanges b c) :
    SameChanges a c :=
  ⟨second.pending.trans first.pending, second.paused.trans first.paused,
    second.produced.trans first.produced, second.reported.trans first.reported⟩

theorem sameChanges_takeCommands (daemon : Daemon) (input : TickInput) (turn : CommandTurn) :
    SameChanges daemon ((daemon.renew input).takeCommands turn) := by
  unfold renew
  split <;> exact ⟨rfl, rfl, rfl, rfl⟩

theorem sameChanges_settleRefresh (daemon : Daemon)
    (accepted : Option (AgentCommand × CommandSource)) (outcome : CommandOutcome) (detail : String)
    (nowMs : Int) : SameChanges daemon (daemon.settleRefresh accepted outcome detail nowMs) := by
  unfold settleRefresh
  split <;> exact ⟨rfl, rfl, rfl, rfl⟩

theorem SameChanges.carried {later : Daemon} (same : SameChanges daemon later) (input : TickInput) :
    later.carried input = daemon.carried input := by
  unfold Daemon.carried tickChanges
  rw [same.pending, same.paused]

/-! ## One turn -/

/-- Produced changes and waiting ones are reported, wait, or are lost. -/
def Flow (daemon next : Daemon) (lost : List TelemetryWorkState) : Prop :=
  ∃ produced delivered,
    next.ledger.changes = daemon.ledger.changes ++ produced ∧
    next.ledger.reportedChanges = daemon.ledger.reportedChanges ++ delivered ∧
    daemon.pendingWorkStateChanges ++ produced = delivered ++ next.pendingWorkStateChanges ++ lost

theorem flow_idle {next : Daemon} (same : SameChanges daemon next) : Flow daemon next [] :=
  ⟨[], [], by simp [same.produced], by simp [same.reported], by simp [same.pending]⟩

theorem flow_conclude (daemon : Daemon) (input : TickInput) :
    Flow daemon (daemon.conclude input)
      (if input.reportDue && !input.report.isSuccess then daemon.carried input else []) := by
  unfold conclude
  cases due : input.reportDue with
  | false => exact ⟨daemon.tickChanges input, [], rfl, by simp [observe], by simp [observe]⟩
  | true =>
    cases outcome : input.report with
    | success commands =>
      refine ⟨daemon.tickChanges input, daemon.carried input, rfl, rfl, ?_⟩
      simp [report, carried, ReportOutcome.isSuccess]
    | failed | terminal code =>
      refine ⟨daemon.tickChanges input, [], rfl, by simp [report, observe], ?_⟩
      simp [report, carried, ReportOutcome.isSuccess]

theorem Flow.of_same {before next : Daemon} (same : SameChanges daemon before)
    (flow : Flow before next lost) : Flow daemon next lost := by
  unfold Flow at flow ⊢
  rwa [same.produced, same.reported, same.pending] at flow

theorem flow_ordinary (daemon : Daemon) (input : TickInput) :
    Flow daemon (daemon.ordinary reader minInterval input)
      (if input.failure.isNone && input.reportDue && !input.report.isSuccess
        then daemon.carried input else []) := by
  have settled : ∀ outcome detail, SameChanges daemon
      (((daemon.renew input).takeCommands (daemon.commandTurn reader minInterval input)).settleRefresh
        (daemon.commandTurn reader minInterval input).acceptedRefresh outcome detail input.nowMs) :=
    fun outcome detail => (sameChanges_takeCommands daemon input _).trans
      (sameChanges_settleRefresh _ _ outcome detail _)
  unfold ordinary
  cases failed : input.failure with
  | some error =>
    have same := settled .failed ("守护循环失败：" ++ error)
    exact flow_idle ⟨same.pending, same.paused, same.produced, same.reported⟩
  | none =>
    have same := settled input.refreshed.1 input.refreshed.2
    have flow := (flow_conclude _ input).of_same same
    rw [same.carried] at flow
    simpa using flow

theorem flow_tick (daemon : Daemon) (input : TickInput) :
    Flow daemon (daemon.tick reader minInterval input) (daemon.lostChanges input) := by
  unfold tick lostChanges reports isOrdinary
  cases daemon.terminal with
  | none => simpa [Bool.and_assoc] using flow_ordinary daemon input
  | some code =>
    cases input.probe with
    | none => exact flow_idle ⟨rfl, rfl, rfl, rfl⟩
    | some outcome =>
      cases outcome with
      | success commands =>
        have free : SameChanges daemon { daemon with terminal := none } := ⟨rfl, rfl, rfl, rfl⟩
        have flow := (@flow_ordinary reader minInterval _ input).of_same free
        rw [free.carried] at flow
        simpa [ReportOutcome.isSuccess, Bool.and_assoc] using flow
      | failed | terminal other => exact flow_idle ⟨rfl, rfl, rfl, rfl⟩

/-! ## Whole runs -/

/-- The changes lost so far, besides the kept ones. -/
def Lost (lost : List TelemetryWorkState) (daemon : Daemon) : Prop :=
  ∀ change, daemon.ledger.changes.count change =
    (daemon.ledger.reportedChanges ++ daemon.pendingWorkStateChanges).count change +
      lost.count change

theorem Lost.flow {next : Daemon} {before : List TelemetryWorkState} (held : Lost before daemon)
    (flow : Flow daemon next lost) : Lost (before ++ lost) next := by
  intro change
  obtain ⟨produced, delivered, changes, reported, balance⟩ := flow
  have kept := held change
  have moved := congrArg (List.count change) balance
  simp only [changes, reported, count_append] at kept moved ⊢
  omega

/-- Along a run something more is lost unless every report that carries changes arrives. -/
theorem lost_run {events : List LoopEvent} : ∀ {daemon final : Daemon}
    {before : List TelemetryWorkState}, Lost before daemon →
      run (step reader minInterval) daemon events = some final →
        ∃ more, Lost (before ++ more) final ∧
          (more = [] ↔ Along (step reader minInterval) Arrives daemon events) := by
  induction events with
  | nil =>
    rintro daemon _ before held ⟨⟩
    exact ⟨[], by simpa using held, by simp [Along]⟩
  | cons event rest ih =>
    intro daemon final before held ran
    obtain ⟨next, stepped, later⟩ := run_cons_some ran
    have along : Along (step reader minInterval) Arrives daemon (event :: rest) ↔
        daemon.Arrives event ∧ Along (step reader minInterval) Arrives next rest := by
      simp [Along, stepped]
    cases event with
    | tick input =>
      simp only [step] at stepped
      split at stepped
      · cases stepped
      · cases stepped
        obtain ⟨more, lost, iff⟩ := ih (held.flow (flow_tick daemon input)) later
        refine ⟨daemon.lostChanges input ++ more, by rwa [append_assoc] at lost, ?_⟩
        rw [along, arrives_iff, ← iff, append_eq_nil_iff]
    | scanned commandId scan =>
      cases stepped
      have still : Lost before (daemon.scanned commandId scan) := held
      obtain ⟨more, lost, iff⟩ := ih still later
      refine ⟨more, lost, ?_⟩
      rw [along, ← iff]
      exact ⟨fun none => ⟨trivial, none⟩, fun both => both.2⟩

theorem changesKept_iff_lost (held : Lost lost daemon) : daemon.ChangesKept ↔ lost = [] := by
  constructor
  · intro kept
    refine eq_nil_iff_forall_not_mem.2 fun change mem => ?_
    have positive := count_pos_iff.2 mem
    have less := kept change
    rw [held change] at less
    omega
  · rintro rfl change
    rw [held change]
    simp

/-- **Every work-state change arrives or waits, exactly if every report that carries one arrives.**
Over every run of ticks: any notifications, commands, failures and refusals. -/
theorem changes_kept_iff {commandHistory : CommandHistory} {terminal : Option String}
    {events : List LoopEvent} {final : Daemon}
    (ran : run (step reader minInterval) (started commandHistory terminal) events = some final) :
    final.ChangesKept ↔
      Along (step reader minInterval) Arrives (started commandHistory terminal) events := by
  have nothing : Lost [] (started commandHistory terminal) := fun _ => rfl
  obtain ⟨lost, held, iff⟩ := lost_run nothing ran
  rw [changesKept_iff_lost held, ← iff, nil_append]

namespace StatusSample

def pause : TelemetryWorkState := ⟨"app", .paused, "spool over limit", "t1"⟩

/-- The input pauses; its change is reported in a later turn, and the pause goes on. -/
def reported : List LoopEvent :=
  [.tick { notifications := [pause] },
   .tick { notifications := [pause], reportDue := true, report := .success [] },
   .tick { notifications := [], now := "t2" }]

/-- The report that carries the pause fails, the next one succeeds. -/
def failed : List LoopEvent :=
  [.tick { notifications := [pause], reportDue := true, report := .failed },
   .tick { notifications := [pause], reportDue := true, report := .success [] }]

def noParams : CommandReader := ⟨fun _ => .error "", fun _ => none⟩

end StatusSample

open StatusSample in
theorem changes_kept_reported :
    ∃ final, run (step noParams 0) (started {} none) reported = some final ∧
      final.ledger.reportedChanges = [pause] ∧ final.ChangesKept := by
  have arrives : Along (step noParams 0) Arrives (started {} none) reported := by decide +kernel
  have found : (run (step noParams 0) (started {} none) reported).map (·.ledger.reportedChanges) =
      some [pause] := by decide +kernel
  obtain ⟨final, ran, changes⟩ := map_eq_some_iff.1 found
  exact ⟨final, ran, changes, (changes_kept_iff ran).2 arrives⟩

open StatusSample in
/-- The pause is in no report that arrived and waits for none. -/
theorem change_lost :
    ∃ final, run (step noParams 0) (started {} none) failed = some final ∧
      final.ledger.changes = [pause] ∧ final.ledger.reportedChanges = [] ∧
      final.pendingWorkStateChanges = [] ∧ ¬final.ChangesKept := by
  have found : (run (step noParams 0) (started {} none) failed).map (fun daemon =>
      (daemon.ledger.changes, daemon.ledger.reportedChanges, daemon.pendingWorkStateChanges)) =
      some ([pause], [], []) := by decide +kernel
  obtain ⟨final, ran, facts⟩ := map_eq_some_iff.1 found
  simp only [Prod.mk.injEq] at facts
  obtain ⟨produced, reported, pending⟩ := facts
  refine ⟨final, ran, produced, reported, pending, fun kept => ?_⟩
  have less := kept pause
  rw [produced, reported, pending] at less
  exact absurd less (by decide)

end Daemon

end WistAgentd.Runtime

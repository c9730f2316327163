/- # Runtime.CommandOnce -- a command is carried out once, with one result

* `CommandsOnce`: what is asked.
* `Recalls`: the commands of a turn that come again do so while the daemon knows them.
* `commands_once`: along every run with such turns; `answers_recorded`: what the ledger keeps. -/
import WistAgentd.Runtime.CommandAccount

namespace WistAgentd.Runtime
open Theory.Transition
open List
set_option autoImplicit false

variable {reader : CommandReader}

/-! ## Turns of the loop -/

namespace Daemon

variable {minInterval : Nat}

/-- No command is carried out twice, and its final acks agree. -/
structure CommandsOnce (daemon : Daemon) : Prop where
  executed : daemon.ledger.executed.Nodup
  agreed : ∀ first ∈ daemon.ledger.acks, ∀ second ∈ daemon.ledger.acks,
    first.commandId = second.commandId → first.outcome ≠ .accepted → second.outcome ≠ .accepted →
      first.outcome = second.outcome

/-- What is known between turns. -/
def view (daemon : Daemon) : View where
  log := daemon.ledger.recorded
  history := daemon.commandHistory
  inflight := daemon.inflightInvestigations.map (·.command)
  accepted := none
  executed := daemon.ledger.executed
  acks := daemon.ledger.acks

/-- Whatever commands come again in the turn do so while they are known. -/
def Recalls (reader : CommandReader) (minInterval : Nat) (daemon : Daemon) : LoopEvent → Prop
  | .tick input => daemon.isOrdinary input = true →
      QueueRedelivered reader minInterval input.nowMs (daemon.drained input) input.moments
        (daemon.queue input)
  | .scanned _ _ => True

instance (daemon : Daemon) : (event : LoopEvent) → Decidable (daemon.Recalls reader minInterval event)
  | .tick _ => inferInstanceAs (Decidable (_ → _))
  | .scanned _ _ => .isTrue trivial

theorem commandsOnce_of_account {daemon : Daemon} (account : Account reader daemon.view) :
    daemon.CommandsOnce where
  executed := account.once
  agreed first mem second other same final final' := by
    obtain ⟨record, logged, named, outcome⟩ := account.acks first mem final
    obtain ⟨record', logged', named', outcome'⟩ := account.acks second other final'
    have one : record = record' :=
      inj_on_of_nodup_map account.distinct logged logged' (by rw [named, named', same])
    rw [← outcome, ← outcome', one]

theorem account_settleRefresh {daemon : Daemon} {turn : CommandTurn}
    (account : Account reader (turnView daemon turn [])) (input : TickInput)
    (outcome : CommandOutcome) (detail : String) :
    Account reader (((daemon.renew input).takeCommands turn).settleRefresh turn.acceptedRefresh
      outcome detail input.nowMs).view := by
  have renewed : (daemon.renew input).ledger = daemon.ledger := by
    unfold renew
    split <;> rfl
  unfold settleRefresh
  cases accepted : turn.acceptedRefresh with
  | none =>
    have same : ((daemon.renew input).takeCommands turn).view = turnView daemon turn [] := by
      simp [view, turnView, takeCommands, renewed, accepted]
    exact same ▸ account
  | some refresh =>
    have waits : (turnView daemon turn []).accepted = some refresh.1.commandId := by
      simp [turnView, accepted]
    obtain ⟨open_, ground⟩ := account.waiting _ waits
    have settled : Account reader { turnView daemon turn [] with
        log := turn.recorded ++ [recordOf refresh.1 outcome detail input.nowMs]
        history := turn.history.record (recordOf refresh.1 outcome detail input.nowMs)
        accepted := none
        acks := (turnView daemon turn []).acks ++
          acksFor refresh.2 (ackFromRecord (recordOf refresh.1 outcome detail input.nowMs)) } := by
      refine account.settle refresh.2 open_ (List.Sublist.refl _) ground account.once
        (fun commandId carried => ?_) (by simp)
      rcases account.known commandId carried with logged | flying | held
      · exact .inr (.inl logged)
      · exact .inr (.inr (.inl flying))
      · exact .inl (Option.some.inj (held.symm.trans waits))
    simpa [view, turnView, takeCommands, renewed, acksFor] using settled

theorem view_conclude (daemon : Daemon) (input : TickInput) :
    (daemon.conclude input).view = daemon.view := by
  unfold conclude
  split
  · cases input.report <;> rfl
  · rfl

theorem account_ordinary {daemon : Daemon} {input : TickInput} (account : Account reader daemon.view)
    (held : QueueRedelivered reader minInterval input.nowMs (daemon.drained input) input.moments
      (daemon.queue input)) :
    Account reader (daemon.ordinary reader minInterval input).view := by
  have begun : Account reader (turnView daemon (daemon.drained input) []) := by
    refine account_drain ?_
    simpa [view, turnView] using account
  have turned : Account reader (turnView daemon (daemon.commandTurn reader minInterval input) []) :=
    account_queue begun held
  unfold ordinary
  cases input.failure with
  | some error => exact account_settleRefresh turned input _ _
  | none =>
    rw [view_conclude]
    exact account_settleRefresh turned input _ _

theorem account_step {daemon next : Daemon} {event : LoopEvent} (account : Account reader daemon.view)
    (held : daemon.Recalls reader minInterval event)
    (stepped : step reader minInterval daemon event = some next) : Account reader next.view := by
  cases event with
  | tick input =>
    simp only [step] at stepped
    split at stepped
    · cases stepped
    · cases stepped
      rcases tick_cases reader minInterval daemon input with ⟨usual, turned⟩ | ⟨-, mode, idle⟩
      · rw [turned]
        exact account_ordinary account (held usual)
      · rw [idle]
        exact account
  | scanned commandId scan =>
    cases stepped
    have same : (daemon.scanned commandId scan).view = daemon.view := by
      simp only [view, scanned, map_map]
      congr 1
      refine map_congr_left fun entry _ => ?_
      simp only [Function.comp_apply]
      split <;> rfl
    exact same ▸ account

/-! ## Whole runs -/

/-- A ledger as it is on disk: written by `record`. -/
structure Written (history : CommandHistory) : Prop where
  distinct : (history.entries.map (·.commandId)).Nodup
  bounded : history.entries.length ≤ historyLimit

theorem Written.record {history : CommandHistory} (written : Written history)
    (entry : CommandRecord) : Written (history.record entry) where
  distinct := by
    refine List.Nodup.sublist ((drop_sublist _ _).map _) ?_
    rw [map_append, map_singleton, ← concat_eq_append, nodup_concat]
    refine ⟨fun listed => ?_, written.distinct.sublist (filter_sublist.map _)⟩
    obtain ⟨other, mem, same⟩ := mem_map.1 listed
    simp [same] at mem
  bounded := by
    simp only [CommandHistory.record, length_drop]
    omega

theorem written_foldl (records : List CommandRecord) :
    Written (records.foldl CommandHistory.record {}) := by
  have each : ∀ history, Written history → Written (records.foldl CommandHistory.record history) := by
    induction records with
    | nil => exact fun _ => id
    | cons entry rest ih => exact fun history written => ih _ (written.record entry)
  exact each {} ⟨nodup_nil, Nat.zero_le _⟩

theorem account_started {history : CommandHistory} (written : Written history)
    (terminal : Option String) : Account reader (started history terminal).view where
  distinct := written.distinct
  keeps := by
    have none := Nat.sub_eq_zero_of_le written.bounded
    simp [Keeps, view, started, none]
  once := nodup_nil
  known := nofun
  flying := nodup_nil
  unsettled := nofun
  waiting := nofun
  acks := nofun

/-- **A command is carried out once and has one final result**, along every run of the loop in which
commands come again, if they do, while the daemon knows them. The daemon starts with whatever ledger
earlier processes wrote. -/
theorem commands_once {records : List CommandRecord} {terminal : Option String}
    {events : List LoopEvent} {final : Daemon}
    (recalled : Along (step reader minInterval) (Recalls reader minInterval)
      (started (records.foldl CommandHistory.record {}) terminal) events)
    (ran : run (step reader minInterval)
      (started (records.foldl CommandHistory.record {}) terminal) events = some final) :
    final.CommandsOnce := by
  refine commandsOnce_of_account (run_induction_along (I := fun daemon => Account reader daemon.view)
    (fun _ _ _ account held stepped => account_step account held stepped) ?_ recalled ran)
  exact account_started (written_foldl records) terminal

namespace CommandSample

def anyParams : CommandReader := ⟨fun _ => .ok ⟨60⟩, fun _ => none⟩

def refresh : AgentCommand := ⟨"c1", .refreshFacts, "", 0⟩

def look : AgentCommand := ⟨"c2", .investigate, "", 0⟩

/-- Both commands come, and come again while the scan is under way and after it has ended. -/
def again : List LoopEvent :=
  [.tick { reportDue := true, report := .success [refresh, look] },
   .tick { reportDue := true, report := .success [refresh, look] },
   .tick {},
   .scanned "c2" (.reported "2 suspects"),
   .tick { reportDue := true, report := .success [look] },
   .tick {}]

/-- One queue lists the refresh twice. -/
def twice : List LoopEvent :=
  [.tick { reportDue := true, report := .success [refresh, refresh] }, .tick {}]

end CommandSample

open CommandSample in
theorem commands_once_again :
    ∃ final, run (step anyParams 30000) (started {} none) again = some final ∧
      final.ledger.executed = ["c1", "c2"] ∧ final.ledger.acks.map (·.outcome) =
        [.accepted, .succeeded, .succeeded, .accepted, .succeeded, .succeeded] ∧
      final.CommandsOnce := by
  have recalled : Along (step anyParams 30000) (Recalls anyParams 30000)
      (started (List.foldl CommandHistory.record {} []) none) again := by decide +kernel
  have found : (run (step anyParams 30000) (started {} none) again).map (fun daemon =>
      (daemon.ledger.executed, daemon.ledger.acks.map (·.outcome))) =
      some (["c1", "c2"],
        [.accepted, .succeeded, .succeeded, .accepted, .succeeded, .succeeded]) := by
    decide +kernel
  obtain ⟨final, ran, facts⟩ := Option.map_eq_some_iff.1 found
  rw [Prod.mk.injEq] at facts
  exact ⟨final, ran, facts.1, facts.2, commands_once recalled ran⟩

open CommandSample in
/-- The second listing is acknowledged as throttled, the refresh itself as succeeded. -/
theorem command_answered_twice :
    ∃ final, run (step anyParams 30000) (started {} none) twice = some final ∧
      final.ledger.acks.map (fun ack => (ack.commandId, ack.outcome)) =
        [("c1", .throttled), ("c1", .succeeded)] ∧ ¬final.CommandsOnce := by
  have found : (run (step anyParams 30000) (started {} none) twice).map (fun daemon =>
      daemon.ledger.acks.map (fun ack => (ack.commandId, ack.outcome))) =
      some [("c1", .throttled), ("c1", .succeeded)] := by decide +kernel
  obtain ⟨final, ran, acks⟩ := Option.map_eq_some_iff.1 found
  refine ⟨final, ran, acks, fun once => ?_⟩
  have sent (outcome : CommandOutcome) (listed : outcome = .throttled ∨ outcome = .succeeded) :
      ∃ ack ∈ final.ledger.acks, (ack.commandId, ack.outcome) = ("c1", outcome) := by
    refine mem_map.1 ?_
    rw [acks]
    rcases listed with rfl | rfl <;> simp
  obtain ⟨first, mem, told⟩ := sent .throttled (.inl rfl)
  obtain ⟨second, member', told'⟩ := sent .succeeded (.inr rfl)
  rw [Prod.mk.injEq] at told told'
  have same := once.agreed first mem second member' (told.1.trans told'.1.symm)
    (by simp [told.2]) (by simp [told'.2])
  rw [told.2, told'.2] at same
  cases same

/-- **Every final answer is on record** with its outcome, and the ledger is the end of the records. -/
theorem answers_recorded {records : List CommandRecord} {terminal : Option String}
    {events : List LoopEvent} {final : Daemon}
    (recalled : Along (step reader minInterval) (Recalls reader minInterval)
      (started (records.foldl CommandHistory.record {}) terminal) events)
    (ran : run (step reader minInterval)
      (started (records.foldl CommandHistory.record {}) terminal) events = some final) :
    let log := final.ledger.recorded
    (∀ ack ∈ final.ledger.acks, ack.outcome ≠ .accepted →
      ∃ record ∈ log, record.commandId = ack.commandId ∧ record.outcome = ack.outcome) ∧
    final.commandHistory.entries = log.drop (log.length - historyLimit) := by
  have account := run_induction_along (I := fun daemon => Account reader daemon.view)
    (fun _ _ _ account held stepped => account_step account held stepped)
    (account_started (written_foldl records) terminal) recalled ran
  exact ⟨account.acks, account.keeps⟩

open CommandSample in
theorem answers_recorded_again :
    ∃ final, run (step anyParams 30000) (started {} none) again = some final ∧
      final.commandHistory.entries =
        final.ledger.recorded.drop (final.ledger.recorded.length - historyLimit) := by
  have recalled : Along (step anyParams 30000) (Recalls anyParams 30000)
      (started (List.foldl CommandHistory.record {} []) none) again := by decide +kernel
  exact ⟨_, rfl, (answers_recorded recalled rfl).2⟩

end Daemon

end WistAgentd.Runtime

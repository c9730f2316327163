/- # Runtime.CommandAccount -- what the daemon knows of a command

Until the result of a command has arrived the gateway sends it again. The daemon knows a command by
the ledger of the last results, by a scan under way, or, within one turn, as the refresh it has just
accepted; the last is not looked at.

* `Keeps.find`: the ledger still has a result that fewer than `historyLimit` others followed.
* `Account`: what was carried out has a place, and every final ack says what was recorded.
* `Redelivered`: a command comes again while it is known.
* `account_drain`, `account_queue`: the two halves of a turn. -/
import WistAgentd.Runtime.DaemonLoop
import Mathlib.Data.List.Dedup
import Mathlib.Data.List.TakeWhile

namespace WistAgentd.Runtime
open List
set_option autoImplicit false

variable {history : CommandHistory} {log : List CommandRecord} {commandId : String}
  {command : AgentCommand} {request : InvestigateRequest}

/-! ## The ledger remembers the last results -/

/-- How many other commands had a result recorded since this one. -/
def recordedSince (log : List CommandRecord) (commandId : String) : Nat :=
  ((log.reverse.takeWhile (·.commandId != commandId)).map (·.commandId)).dedup.length

/-- The ledger is the end of the log. -/
def Keeps (history : CommandHistory) (log : List CommandRecord) : Prop :=
  history.entries = log.drop (log.length - historyLimit)

theorem Keeps.record (keeps : Keeps history log) {entry : CommandRecord}
    (new : entry.commandId ∉ log.map (·.commandId)) :
    Keeps (history.record entry) (log ++ [entry]) := by
  have others : history.entries.filter (·.commandId != entry.commandId) = history.entries := by
    refine filter_eq_self.2 fun other mem => ?_
    rw [keeps] at mem
    have listed := mem_map_of_mem (f := (·.commandId)) (mem_of_mem_drop mem)
    simp only [bne_iff_ne]
    exact fun same => new (same ▸ listed)
  have whole : log.drop (log.length - historyLimit) ++ [entry] =
      (log ++ [entry]).drop (log.length - historyLimit) :=
    (drop_append_of_le_length (Nat.sub_le _ _)).symm
  have count : log.length - historyLimit +
      ((log ++ [entry]).length - (log.length - historyLimit) - historyLimit) =
        (log ++ [entry]).length - historyLimit := by
    rw [length_append, length_singleton]
    omega
  unfold Keeps CommandHistory.record
  dsimp only
  rw [others, keeps, whole, length_drop, drop_drop, count]

theorem Keeps.mem (keeps : Keeps history log) {record : CommandRecord}
    (found : history.find commandId = some record) :
    record ∈ log ∧ record.commandId = commandId := by
  have named := List.find?_some found
  have mem := mem_reverse.1 (mem_of_find?_eq_some found)
  rw [keeps] at mem
  exact ⟨mem_of_mem_drop mem, by simpa using named⟩

/-- A result recorded while fewer others followed than the ledger holds is still there. -/
theorem Keeps.find (keeps : Keeps history log) (distinct : (log.map (·.commandId)).Nodup)
    (listed : commandId ∈ log.map (·.commandId))
    (recent : recordedSince log commandId < historyLimit) :
    history.find commandId ≠ none := by
  intro missing
  have none := List.find?_eq_none.1 missing
  obtain ⟨record, mem, named⟩ := mem_map.1 listed
  -- the records since then, and the last one of this command
  have split := takeWhile_append_dropWhile (p := (·.commandId != commandId)) (l := log.reverse)
  have since : recordedSince log commandId =
      (log.reverse.takeWhile (·.commandId != commandId)).length := by
    have reversed : (log.reverse.map (·.commandId)).Nodup := by
      rw [map_reverse]
      exact nodup_reverse.2 distinct
    have front : ((log.reverse.takeWhile (·.commandId != commandId)).map (·.commandId)).Nodup :=
      reversed.sublist ((takeWhile_sublist _).map _)
    rw [recordedSince, front.dedup, length_map]
  cases back : log.reverse.dropWhile (·.commandId != commandId) with
  | nil =>
    rw [back, append_nil] at split
    have other := mem_takeWhile_imp (split ▸ mem_reverse.2 mem)
    simp [named] at other
  | cons last rest =>
    rw [back] at split
    have own : last.commandId = commandId := by
      have head := List.head?_dropWhile_not (·.commandId != commandId) log.reverse
      rw [back] at head
      simpa using head
    have shape : log = rest.reverse ++
        last :: (log.reverse.takeWhile (·.commandId != commandId)).reverse := by
      have turned := congrArg List.reverse split
      simpa using turned.symm
    have room : log.length - historyLimit ≤ rest.reverse.length := by
      have total := congrArg List.length shape
      simp only [length_append, length_cons, length_reverse] at total ⊢
      omega
    refine none last (mem_reverse.2 ?_) (by simpa using own)
    rw [keeps]
    nth_rewrite 2 [shape]
    rw [drop_append_of_le_length room]
    exact mem_append_right _ mem_cons_self

/-! ## The account of a turn -/

/-- What is known of commands at one moment. -/
structure View where
  log : List CommandRecord
  history : CommandHistory
  inflight : List AgentCommand
  /-- The refresh accepted in this turn. -/
  accepted : Option String
  executed : List String
  acks : List AgentCommandAck

variable {reader : CommandReader}

structure Account (reader : CommandReader) (view : View) : Prop where
  distinct : (view.log.map (·.commandId)).Nodup
  keeps : Keeps view.history view.log
  once : view.executed.Nodup
  /-- What was carried out has its result, is under way, or is the refresh of this turn. -/
  known : ∀ commandId ∈ view.executed, commandId ∈ view.log.map (·.commandId) ∨
    commandId ∈ view.inflight.map (·.commandId) ∨ view.accepted = some commandId
  flying : (view.inflight.map (·.commandId)).Nodup
  unsettled : ∀ command ∈ view.inflight, command.commandId ∉ view.log.map (·.commandId) ∧
    command.kind = .investigate ∧ ∃ request, reader.investigate command.params = .ok request
  waiting : ∀ commandId, view.accepted = some commandId →
    commandId ∉ view.log.map (·.commandId) ∧ commandId ∉ view.inflight.map (·.commandId)
  acks : ∀ ack ∈ view.acks, ack.outcome ≠ .accepted →
    ∃ record ∈ view.log, record.commandId = ack.commandId ∧ record.outcome = ack.outcome

/-- The acks of a result: one for the gateway, none for the host. -/
def acksFor (source : CommandSource) (ack : AgentCommandAck) : List AgentCommandAck :=
  if source = .remote then [ack] else []

section Account

variable {view : View}

/-- An ack that says nothing final, or what is in the log. -/
theorem Account.ack (account : Account reader view) (source : CommandSource) {ack : AgentCommandAck}
    (true_ : ack.outcome ≠ .accepted → ∃ record ∈ view.log, record.commandId = ack.commandId ∧
      record.outcome = ack.outcome) :
    Account reader { view with acks := view.acks ++ acksFor source ack } := by
  refine { account with acks := fun other mem final => ?_ }
  rcases mem_append.1 mem with old | new
  · exact account.acks other old final
  · unfold acksFor at new
    split at new
    · obtain rfl := mem_singleton.1 new
      exact true_ final
    · cases new

/-- A command that is known in no way. -/
structure Unknown (view : View) (commandId : String) : Prop where
  log : commandId ∉ view.log.map (·.commandId)
  inflight : commandId ∉ view.inflight.map (·.commandId)
  accepted : view.accepted ≠ some commandId

theorem Account.not_executed (account : Account reader view) (unknown : Unknown view commandId) :
    commandId ∉ view.executed := by
  intro executed
  rcases account.known commandId executed with logged | flying | accepted
  · exact unknown.log logged
  · exact unknown.inflight flying
  · exact unknown.accepted accepted

theorem Account.carried (account : Account reader view) (unknown : Unknown view commandId) :
    (view.executed ++ [commandId]).Nodup := by
  rw [← concat_eq_append, nodup_concat]
  exact ⟨account.not_executed unknown, account.once⟩

/-- It becomes the refresh of this turn, the first one. -/
theorem Account.accept (account : Account reader view) (unknown : Unknown view commandId)
    (first : view.accepted = none) :
    Account reader { view with
      accepted := some commandId
      executed := view.executed ++ [commandId] } := by
  refine { account with
    once := account.carried unknown
    known := fun other carried => ?_
    waiting := fun other held => Option.some.inj held ▸ ⟨unknown.log, unknown.inflight⟩ }
  rcases mem_append.1 carried with before | now
  · rcases account.known other before with logged | flying | held
    · exact .inl logged
    · exact .inr (.inl flying)
    · simp [first] at held
  · exact .inr (.inr (congrArg some (mem_singleton.1 now).symm))

/-- Its scan is started. -/
theorem Account.start (account : Account reader view) (unknown : Unknown view command.commandId)
    (kind : command.kind = .investigate) (parsed : reader.investigate command.params = .ok request) :
    Account reader { view with
      inflight := view.inflight ++ [command]
      executed := view.executed ++ [command.commandId] } where
  distinct := account.distinct
  keeps := account.keeps
  once := account.carried unknown
  known commandId carried := by
    rw [map_append, mem_append]
    rcases mem_append.1 carried with before | now
    · rcases account.known commandId before with logged | flying | held
      · exact .inl logged
      · exact .inr (.inl (.inl flying))
      · exact .inr (.inr held)
    · exact .inr (.inl (.inr now))
  flying := by
    rw [map_append, map_singleton, ← concat_eq_append, nodup_concat]
    exact ⟨unknown.inflight, account.flying⟩
  unsettled other mem := by
    rcases mem_append.1 mem with before | now
    · exact account.unsettled other before
    · obtain rfl := mem_singleton.1 now
      exact ⟨unknown.log, kind, request, parsed⟩
  waiting commandId held := by
    obtain ⟨open_, ground⟩ := account.waiting commandId held
    refine ⟨open_, ?_⟩
    rw [map_append, mem_append]
    rintro (before | now)
    · exact ground before
    · obtain rfl : commandId = command.commandId := mem_singleton.1 now
      exact unknown.accepted held
  acks := account.acks

/-- The result of a command enters log and ledger; whatever was carried out by then has a place. -/
theorem Account.settle (account : Account reader view) (source : CommandSource)
    {record : CommandRecord} {executed : List String} {accepted : Option String}
    {inflight : List AgentCommand} (new : record.commandId ∉ view.log.map (·.commandId))
    (fewer : List.Sublist inflight view.inflight)
    (gone : record.commandId ∉ inflight.map (·.commandId))
    (once : executed.Nodup)
    (known : ∀ commandId ∈ executed, commandId = record.commandId ∨
      commandId ∈ view.log.map (·.commandId) ∨ commandId ∈ inflight.map (·.commandId) ∨
      accepted = some commandId)
    (waiting : ∀ commandId, accepted = some commandId →
      view.accepted = some commandId ∧ commandId ≠ record.commandId) :
    Account reader
      { log := view.log ++ [record], history := view.history.record record, inflight, accepted
        executed, acks := view.acks ++ acksFor source (ackFromRecord record) } where
  distinct := by
    rw [map_append, map_singleton, ← concat_eq_append, nodup_concat]
    exact ⟨new, account.distinct⟩
  keeps := account.keeps.record new
  once := once
  known commandId mem := by
    rw [map_append, mem_append]
    rcases known commandId mem with rfl | logged | flying | held
    · exact .inl (.inr (mem_singleton.2 rfl))
    · exact .inl (.inl logged)
    · exact .inr (.inl flying)
    · exact .inr (.inr held)
  flying := account.flying.sublist (fewer.map _)
  unsettled command mem := by
    obtain ⟨open_, rest⟩ := account.unsettled command (fewer.subset mem)
    refine ⟨?_, rest⟩
    rw [map_append, mem_append]
    rintro (old | last)
    · exact open_ old
    · have same : command.commandId = record.commandId := mem_singleton.1 last
      exact gone (same ▸ mem_map_of_mem mem)
  waiting commandId held := by
    obtain ⟨before, other⟩ := waiting commandId held
    obtain ⟨open_, ground⟩ := account.waiting commandId before
    rw [map_append, mem_append]
    refine ⟨?_, fun flying => ground ((fewer.map _).subset flying)⟩
    rintro (old | last)
    · exact open_ old
    · exact other (mem_singleton.1 last)
  acks ack mem final := by
    rcases mem_append.1 mem with old | new'
    · obtain ⟨entry, logged, same⟩ := account.acks ack old final
      exact ⟨entry, mem_append_left _ logged, same⟩
    · unfold acksFor at new'
      split at new'
      · obtain rfl := mem_singleton.1 new'
        exact ⟨record, mem_append_right _ (mem_singleton.2 rfl), rfl, rfl⟩
      · cases new'

end Account

/-! ## One turn -/

/-- What is known in the middle of a turn; `rest` are investigations that were not looked at yet. -/
def turnView (daemon : Daemon) (turn : CommandTurn) (rest : List InflightInvestigation) : View where
  log := turn.recorded
  history := turn.history
  inflight := (turn.inflight ++ rest).map (·.command)
  accepted := turn.acceptedRefresh.map (·.1.commandId)
  executed := daemon.ledger.executed ++ turn.executed
  acks := daemon.ledger.acks ++ turn.acks

/-- A command comes again, if it does, while it is known: it is not the refresh accepted in this
turn; a scan of its id is its own and it has not become stale; its result, if it has one, is among
the last. -/
structure Redelivered (nowMs : Int) (turn : CommandTurn) (command : AgentCommand) : Prop where
  refresh : ∀ accepted ∈ turn.acceptedRefresh, accepted.1.commandId ≠ command.commandId
  underway : ∀ entry ∈ turn.inflight, entry.command.commandId = command.commandId →
    entry.command = command ∧ isStale command nowMs = false
  recent : command.commandId ∈ turn.recorded.map (·.commandId) →
    recordedSince turn.recorded command.commandId < historyLimit

instance (nowMs : Int) (turn : CommandTurn) (command : AgentCommand) :
    Decidable (Redelivered nowMs turn command) :=
  decidable_of_iff (_ ∧ _ ∧ _) ⟨fun held => ⟨held.1, held.2.1, held.2.2⟩,
    fun held => ⟨held.refresh, held.underway, held.recent⟩⟩

section Turn

variable {daemon : Daemon} {turn : CommandTurn} {minInterval : Nat} {nowMs : Int}

section

variable {already : Bool} {last : Option Nat} {instant : Nat}

theorem evaluate_refresh (verdict : evaluateCommand reader command already last minInterval
      instant nowMs = .acceptRefresh) : already = false := by
  unfold evaluateCommand at verdict
  split at verdict
  · split at verdict
    · cases verdict
    · split at verdict <;> cases verdict
  · split at verdict
    · cases verdict
    · split at verdict
      · cases verdict
      · split at verdict
        · cases verdict
        · rename_i free
          exact (by simpa using free : already = false ∧ _).1
  · cases verdict

theorem evaluate_investigate (verdict : evaluateCommand reader command already last minInterval
      instant nowMs = .acceptInvestigate request) :
    command.kind = .investigate ∧ reader.investigate command.params = .ok request := by
  unfold evaluateCommand at verdict
  split at verdict
  · rename_i kind
    split at verdict
    · cases verdict
    · split at verdict
      · rename_i parsed
        cases verdict
        exact ⟨kind, parsed⟩
      · cases verdict
  · split at verdict
    · cases verdict
    · split at verdict
      · cases verdict
      · split at verdict <;> cases verdict
  · cases verdict

theorem evaluate_underway (kind : command.kind = .investigate)
    (parsed : reader.investigate command.params = .ok request) (timely : isStale command nowMs = false) :
    evaluateCommand reader command already last minInterval instant nowMs =
      .acceptInvestigate request := by
  unfold evaluateCommand
  simp [kind, timely, parsed]

end

theorem turnView_ack (source : CommandSource) (ack : AgentCommandAck)
    (rest : List InflightInvestigation) :
    turnView daemon (turn.ack source ack) rest =
      { turnView daemon turn rest with
        acks := (turnView daemon turn rest).acks ++ acksFor source ack } := by
  simp [turnView, CommandTurn.ack, acksFor]

theorem turnView_settle (command : AgentCommand) (source : CommandSource) (outcome : CommandOutcome)
    (detail : String) (atMs : Int) (rest : List InflightInvestigation) :
    turnView daemon (turn.settle command source outcome detail atMs) rest =
      { turnView daemon turn rest with
        log := turn.recorded ++ [recordOf command outcome detail atMs]
        history := turn.history.record (recordOf command outcome detail atMs)
        acks := (turnView daemon turn rest).acks ++
          acksFor source (ackFromRecord (recordOf command outcome detail atMs)) } := by
  rw [CommandTurn.settle, turnView_ack]
  rfl

theorem account_drain {entries : List InflightInvestigation} : ∀ {turn : CommandTurn},
    Account reader (turnView daemon turn entries) →
      Account reader (turnView daemon (drainFinishedInvestigations nowMs turn entries) []) := by
  induction entries with
  | nil => exact fun account => account
  | cons entry rest ih =>
    intro turn account
    cases ended : entry.scan.result with
    | none =>
      have same : turnView daemon { turn with inflight := turn.inflight ++ [entry] } rest =
          turnView daemon turn (entry :: rest) := by simp [turnView]
      simp only [drainFinishedInvestigations, ended]
      exact ih (same ▸ account)
    | some result =>
      simp only [drainFinishedInvestigations, ended]
      refine ih ?_
      have mem : entry.command ∈ (turnView daemon turn (entry :: rest)).inflight := by
        simp [turnView]
      have gone : entry.command.commandId ∉
          ((turn.inflight ++ rest).map (·.command)).map (·.commandId) := by
        have apart := account.flying
        simp only [turnView, map_append, map_cons, nodup_append, nodup_cons] at apart
        rw [map_append, map_append, mem_append]
        rintro (early | late)
        · exact apart.2.2 _ early _ mem_cons_self rfl
        · exact apart.2.1.1 late
      rw [turnView_settle]
      refine account.settle entry.source (account.unsettled entry.command mem).1
        (((List.Sublist.refl _).append (sublist_cons_self entry rest)).map _) gone
        account.once (fun commandId carried => ?_) fun commandId held => ⟨held, ?_⟩
      · rcases account.known commandId carried with logged | flying | held
        · exact .inr (.inl logged)
        · simp only [turnView, map_append, map_cons, mem_append,
            mem_cons] at flying ⊢
          rcases flying with early | rfl | late
          · exact .inr (.inr (.inl (.inl early)))
          · exact .inl rfl
          · exact .inr (.inr (.inl (.inr late)))
        · exact .inr (.inr (.inr held))
      · rintro rfl
        exact (account.waiting _ held).2 (mem_map_of_mem mem)

section Unknown

variable {command : AgentCommand}

/-- A result for a command known in no way, carried out (`done`) or not. -/
theorem account_settle (account : Account reader (turnView daemon turn []))
    (unknown : Unknown (turnView daemon turn []) command.commandId) (source : CommandSource)
    (outcome : CommandOutcome) (detail : String) (atMs : Int) {done : List String}
    (own : done ⊆ [command.commandId]) (once : (daemon.ledger.executed ++ turn.executed ++ done).Nodup) :
    Account reader (turnView daemon
      ({ turn with executed := turn.executed ++ done }.settle command source outcome detail atMs)
      []) := by
  rw [append_assoc] at once
  rw [turnView_settle]
  refine account.settle source unknown.log (List.Sublist.refl _) unknown.inflight once
    (fun commandId carried => ?_) fun commandId held => ⟨held, ?_⟩
  · rw [turnView, ← append_assoc] at carried
    rcases mem_append.1 carried with before | now
    · exact .inr (account.known commandId before)
    · exact .inl (mem_singleton.1 (own now))
  · rintro rfl
    exact unknown.accepted held

theorem account_claim {rest : List InflightInvestigation}
    (account : Account reader (turnView daemon turn rest)) (source : CommandSource)
    (request : InvestigateRequest) :
    Account reader (turnView daemon (turn.claim command source request) rest) := by
  rw [CommandTurn.claim, turnView_ack]
  exact account.ack source fun final => absurd rfl final

theorem account_refuse (account : Account reader (turnView daemon turn []))
    (unknown : Unknown (turnView daemon turn []) command.commandId) (source : CommandSource)
    (verdict : CommandVerdict) :
    Account reader (turnView daemon (match verdict.refusal command minInterval with
      | some (outcome, detail) => turn.settle command source outcome detail nowMs
      | none => turn) []) := by
  split
  · rename_i outcome detail _
    have settled := account_settle account unknown source outcome detail nowMs
      (nil_subset _) (by simpa [turnView] using account.once)
    rwa [append_nil] at settled
  · exact account

/-- A command known in no way is carried out and gets its place, or is refused with a result. -/
theorem account_carryOut (account : Account reader (turnView daemon turn []))
    (unknown : Unknown (turnView daemon turn []) command.commandId) (moment : Moment)
    (source : CommandSource) :
    Account reader (turnView daemon
      (carryOut reader minInterval nowMs turn moment command source) []) := by
  unfold carryOut
  dsimp only
  split
  · rename_i verdict
    have first : turn.acceptedRefresh = none := by
      simpa using evaluate_refresh verdict
    have accepted := account.accept unknown (by simp [turnView, first])
    simpa [turnView, CommandTurn.execute] using accepted
  · exact account_settle account unknown source _ _ _ (List.Subset.refl _) (account.carried unknown)
  · rename_i request verdict
    obtain ⟨kind, parsed⟩ := evaluate_investigate verdict
    split
    · exact account_claim account source request
    · have claimed := @account_claim _ _ _ command _ account source request
      have started := claimed.start ⟨unknown.log, unknown.inflight, unknown.accepted⟩ kind parsed
      simpa [turnView, CommandTurn.execute, CommandTurn.startScan] using started
  · exact account_refuse account unknown source _

end Unknown

/-- A command of the queue that comes again while it is known. -/
theorem account_handleCommand (account : Account reader (turnView daemon turn []))
    (held : Redelivered nowMs turn command) (moment : Moment) (source : CommandSource) :
    Account reader (turnView daemon
      (handleCommand reader minInterval nowMs turn moment command source) []) := by
  unfold handleCommand
  split
  · rename_i record found
    obtain ⟨logged, named⟩ := account.keeps.mem found
    rw [turnView_ack]
    exact account.ack source fun _ => ⟨record, logged, rfl, rfl⟩
  · rename_i missing
    have open_ : command.commandId ∉ turn.recorded.map (·.commandId) := fun listed =>
      account.keeps.find account.distinct listed (held.recent listed) missing
    by_cases running : investigationAlreadyRunning turn.inflight command.commandId = true
    · -- its scan is under way: only the stage is reported again
      obtain ⟨entry, mem, named⟩ := any_eq_true.1 running
      obtain ⟨same, timely⟩ := held.underway entry mem (by simpa using named)
      obtain ⟨-, kind, request, parsed⟩ := account.unsettled entry.command
        (mem_map_of_mem (by simpa using mem))
      rw [same] at kind parsed
      simp only [carryOut, evaluate_underway kind parsed timely, running, if_true]
      exact account_claim account source request
    · refine account_carryOut account ⟨open_, fun flying => running ?_, ?_⟩ moment source
      · obtain ⟨_, mapped, named⟩ := mem_map.1 flying
        obtain ⟨entry, mem, rfl⟩ := mem_map.1 mapped
        exact any_eq_true.2 ⟨entry, by simpa using mem, by simpa using named⟩
      · intro accepted
        obtain ⟨found, kept, named⟩ := Option.map_eq_some_iff.1 accepted
        exact held.refresh found kept named

/-- `Redelivered` for every command of a queue, each at its turn. -/
def QueueRedelivered (reader : CommandReader) (minInterval : Nat) (nowMs : Int) (turn : CommandTurn)
    (moments : Nat → Moment) : List (AgentCommand × CommandSource) → Prop
  | [] => True
  | (command, source) :: rest =>
    Redelivered nowMs turn command ∧
      QueueRedelivered reader minInterval nowMs
        (handleCommand reader minInterval nowMs turn (moments 0) command source)
        (fun index => moments (index + 1)) rest

instance decidableQueueRedelivered (reader : CommandReader) (minInterval : Nat) (nowMs : Int) :
    ∀ (turn : CommandTurn) (moments : Nat → Moment) (queue : List (AgentCommand × CommandSource)),
      Decidable (QueueRedelivered reader minInterval nowMs turn moments queue)
  | _, _, [] => .isTrue trivial
  | turn, moments, (command, source) :: rest =>
    have := decidableQueueRedelivered reader minInterval nowMs
      (handleCommand reader minInterval nowMs turn (moments 0) command source)
      (fun index => moments (index + 1)) rest
    inferInstanceAs (Decidable (_ ∧ _))

theorem account_queue {queue : List (AgentCommand × CommandSource)} :
    ∀ {turn : CommandTurn} {moments : Nat → Moment}, Account reader (turnView daemon turn []) →
      QueueRedelivered reader minInterval nowMs turn moments queue →
        Account reader (turnView daemon
          (handleCommandQueue reader minInterval nowMs turn moments queue) []) := by
  induction queue with
  | nil => exact fun account _ => account
  | cons next rest ih =>
    intro turn moments account held
    exact ih (account_handleCommand account held.1 (moments 0) next.2) held.2

end Turn

end WistAgentd.Runtime

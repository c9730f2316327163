/- # Telemetry.CleanStall -- a write that fails before its first byte

The caller of a failed `write_payload` spools the records and sends them again. When the connection
had taken nothing, the first attempt must then stay silent; but a stalled stream goes to the detached
task also with the whole payload still to write.

* `frozen_run`: a connection with neither a foreground nor a task is silent for good.
* `clean_stall_iff`: when a failure before the first byte is silent. -/
import WistAgentd.Telemetry.TcpStream

namespace WistAgentd.Telemetry.TcpStream
open Theory.Transition
open List Option
set_option autoImplicit false

variable {s : State} {conn : ConnId}

/-- No byte of the payload at hand has been accepted. -/
def Unsent (s : State) : Prop :=
  ∀ conn payload written deadline, s.phase = .writing conn payload written deadline → written = 0

/-- No byte goes out on the connection the state is writing on, whatever happens after `next`. -/
def Silent (s next : State) : Prop :=
  ∀ conn payload written deadline, s.phase = .writing conn payload written deadline →
    ∀ later final, run step next later = some final → final.wire conn = s.wire conn

/-! ## Connections nobody writes on -/

/-- Neither the foreground nor a task has the connection. -/
structure Frozen (s : State) (conn : ConnId) : Prop where
  retired : Retired s conn
  quiet : s.background conn = none

theorem settle_wire (s : State) (conn : ConnId) (payload : Bytes) (now : Nat) (runtime : Bool)
    (outcome : PayloadWrite) : (s.settle conn payload now runtime outcome).wire = s.wire := by
  cases outcome with
  | complete | failed err => rfl
  | stalled written =>
    obtain ⟨err, shape⟩ := settle_stalled s conn payload now runtime written
    rw [shape]
    rfl

/-- Only the connection of the write can get a task. -/
theorem settle_quiet {other : ConnId} (payload : Bytes) (now : Nat) (runtime : Bool)
    (outcome : PayloadWrite) (different : other ≠ conn) (quiet : s.background other = none) :
    (s.settle conn payload now runtime outcome).background other = none := by
  cases outcome with
  | complete | failed err => exact quiet
  | stalled written =>
    obtain ⟨err, shape⟩ := settle_stalled s conn payload now runtime written
    rw [shape]
    dsimp only
    split
    · rw [Function.update_of_ne different, quiet]
    · exact quiet

theorem frozen_step {next : State} {e : Event} (frozen : Frozen s conn)
    (stepped : step s e = some next) : Frozen next conn ∧ next.wire conn = s.wire conn := by
  have retired := (retired_step (step_handover s e next stepped) frozen.retired).1
  suffices next.background conn = none ∧ next.wire conn = s.wire conn from
    ⟨⟨retired, this.1⟩, this.2⟩
  have elsewhere : ∀ {writes p w d}, s.phase = .writing writes p w d → conn ≠ writes := by
    rintro writes p w d phase rfl
    exact frozen.retired.notWritten p w d phase
  cases step_move stepped with
  | call now payload _ =>
    unfold call
    dsimp only
    split
    · exact ⟨frozen.quiet, rfl⟩
    · split <;> exact ⟨frozen.quiet, rfl⟩
  | connect now outcome _ => cases outcome <;> exact ⟨frozen.quiet, rfl⟩
  | settle phase now runtime ended _ _ _ =>
    exact ⟨settle_quiet _ now runtime ended (elsewhere phase) frozen.quiet, by rw [settle_wire]⟩
  | emit phase n => exact ⟨frozen.quiet, wire_emit_other s _ (elsewhere phase)⟩
  | @task other rest running outcome n left _ =>
    have different : conn ≠ other := by
      rintro rfl
      rw [frozen.quiet] at running
      cases running
    exact ⟨(Function.update_of_ne different _ _).trans frozen.quiet, wire_emit_other s _ different⟩
  | rebuild sink _ => exact ⟨frozen.quiet, rfl⟩
  | kill sink => exact ⟨rfl, rfl⟩

theorem frozen_run {final : State} {events : List Event} (frozen : Frozen s conn)
    (ran : run step s events = some final) : final.wire conn = s.wire conn :=
  (run_related (R := fun a b => Frozen a conn → Frozen b conn ∧ b.wire conn = a.wire conn)
    (fun _ held => ⟨held, rfl⟩)
    (fun _ _ _ first second held =>
      ⟨(second (first held).1).1, (second (first held).1).2.trans (first held).2⟩)
    (fun _ _ _ stepped held => frozen_step held stepped) ran frozen).2

/-! ## The failed attempt -/

/-- A task with bytes left may write one of them. -/
theorem task_writes {rest : Bytes} (waiting : s.background conn = some rest)
    (left : 0 < rest.length) : ∃ final, run step s [.task conn (.accepted 1)] = some final ∧
      final.wire conn = s.wire conn ++ rest.take 1 := by
  refine ⟨{ s.emit conn (rest.take 1) with
    background := Function.update s.background conn
      (if 1 = 0 ∨ rest.drop 1 = [] then none else some (rest.drop 1)) }, ?_, ?_⟩
  · simp only [run_cons, step, waiting, task, if_pos (Nat.succ_le_of_lt left), bind_some, run_nil]
  · simp [State.emit]

theorem results_ne (s : State) (result : Except IoError Unit) :
    s.results ++ [result] ≠ s.results := by
  intro same
  have length := congrArg List.length same
  rw [length_append, length_singleton] at length
  omega

/-- How a running write comes to reply with an error: its stream is not kept, and the end is a stall
only if the clock or the timeout made it one. -/
theorem failing_settle {next : State} {e : Event} {err : IoError} {payload : Bytes}
    {written deadline : Nat} (phase : s.phase = .writing conn payload written deadline)
    (stepped : step s e = some next) (failed : next.results = s.results ++ [.error err]) :
    ∃ now runtime ended, next = s.settle conn payload now runtime ended ∧ ended ≠ .complete ∧
      (StallsWithRuntime s e ↔ runtime = true ∧ ∃ k, ended = .stalled k) ∧
      ∀ k, ended = .stalled k → k = written ∧ written < payload.length := by
  have silent : s.results ≠ s.results ++ [.error err] := (results_ne s _).symm
  cases step_move stepped with
  | call _ _ idle | rebuild _ idle => simp [phase] at idle
  | connect _ _ waits => simp [phase] at waits
  | settle here now runtime ended _ counted stalls =>
    obtain ⟨rfl, rfl, rfl, rfl⟩ := Phase.writing.inj (phase.symm.trans here)
    refine ⟨now, runtime, ended, rfl, ?_, stalls, counted⟩
    rintro rfl
    simp [State.settle, State.reply] at failed
  | emit | task | kill => exact absurd failed silent

/-- A write that ends and leaves no task freezes its connection. -/
theorem frozen_of_settle (sound : Sound s) {payload : Bytes} {written deadline now : Nat}
    {runtime : Bool} {ended : PayloadWrite}
    (phase : s.phase = .writing conn payload written deadline) (dropped : ended ≠ .complete)
    (alone : ¬ (runtime = true ∧ ∃ k, ended = .stalled k)) :
    Frozen (s.settle conn payload now runtime ended) conn := by
  obtain ⟨old, -, quiet⟩ := sound.writing conn payload written deadline phase
  have free : s.sink.stream = none := sound.not_held (by simp [phase])
  cases ended with
  | complete => exact absurd rfl dropped
  | failed err =>
    refine ⟨⟨old, ?_, ?_⟩, quiet⟩
    · simp [State.settle, State.reply, State.backOff, free]
    · simp [State.settle, State.reply]
  | stalled k =>
    obtain ⟨err, shape⟩ := settle_stalled s conn payload now runtime k
    rw [shape, if_neg fun both => alone ⟨both.2, k, rfl⟩]
    refine ⟨⟨old, ?_, ?_⟩, quiet⟩
    · simp [State.reply, State.backOff, free]
    · simp [State.reply]

/-- **A failure before the first byte**: `write_payload` fails with nothing accepted. The attempt stays
silent for ever exactly when the failure was not a stall with a runtime at hand. -/
theorem clean_stall_iff {sink : TcpRecordSink} {events : List Event} {s next : State} {e : Event}
    {err : IoError} (ran : run step (start sink) events = some s) (unsent : Unsent s)
    (stepped : step s e = some next) (failed : next.results = s.results ++ [.error err]) :
    Silent s next ↔ ¬ StallsWithRuntime s e := by
  have sound := sound_run ran
  constructor
  · intro silent stalls
    cases e with
    | write start outcome now runtime =>
      have stalled := stalls
      obtain ⟨-, conn, payload, written, deadline, phase, -⟩ := stalls
      obtain rfl := unsent _ _ _ _ phase
      obtain ⟨now', runtime', ended, rfl, -, same, counted⟩ := failing_settle phase stepped failed
      obtain ⟨rfl, k, rfl⟩ := same.1 stalled
      obtain ⟨rfl, left⟩ := counted k rfl
      have waiting : (s.settle conn payload now' true (.stalled 0)).background conn = some payload := by
        simp [State.settle, left, State.finishInBackground, State.reply, drop_zero]
      obtain ⟨final, went, wire⟩ := task_writes waiting left
      rw [settle_wire] at wire
      have length := congrArg List.length (wire.symm.trans (silent _ _ _ _ phase _ _ went))
      rw [length_append, length_take] at length
      omega
    | call | connect | flush | task | rebuild | kill => exact stalls
  · intro clean conn payload written deadline phase later final went
    obtain ⟨now, runtime, ended, rfl, dropped, same, -⟩ := failing_settle phase stepped failed
    rw [frozen_run (frozen_of_settle sound phase dropped fun stall => clean (same.2 stall)) went,
      settle_wire]

/-- The link fails before the first byte: nothing is sent on that connection any more. -/
theorem clean_stall_iff_refused : ∃ s next,
    run step (start (.new "10.0.0.1" 9000 .line)) [.call 0 [97, 98], .connect 1 .connected] = some s ∧
      step s (.write 2 (.accepted 0) 3 true) = some next ∧ Silent s next := by
  refine ⟨_, _, rfl, rfl, (@clean_stall_iff (.new "10.0.0.1" 9000 .line)
    [.call 0 [97, 98], .connect 1 .connected] _ _ (.write 2 (.accepted 0) 3 true) _ rfl ?_ rfl rfl).2 ?_⟩
  · intro conn payload written deadline phase
    exact (Phase.writing.inj phase).2.2.1.symm
  · rintro ⟨-, conn, payload, written, deadline, phase, late | timedOut⟩
    · have same := (Phase.writing.inj phase).2.2.2
      subst same
      exact absurd late (by decide)
    · cases timedOut

/-- A stall with nothing accepted; the task then sends the payload on the first connection, and the
retry sends it on the second. -/
def stalledUnsent : List Event :=
  [.call 0 [97, 98], .connect 1 .connected, .write 2 .timedOut 5002 true, .task 0 (.accepted 2),
    .call 8000 [97, 98], .connect 8001 .connected, .write 8002 (.accepted 2) 8003 true,
    .flush 8003 (.ok ())]

theorem stalled_unsent_duplicates :
    ∃ s, run step (start (.new "10.0.0.1" 9000 .line)) stalledUnsent = some s ∧
      s.results.map (fun result => result.toBool) = [false, true] ∧
      s.wire 0 = [97, 98] ∧ s.wire 1 = [97, 98] :=
  ⟨_, rfl, by decide, by decide, by decide⟩

end WistAgentd.Telemetry.TcpStream

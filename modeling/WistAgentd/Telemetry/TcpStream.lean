/- # Telemetry.TcpStream -- who writes on which connection, and what ends up there

`write_payload` as a machine whose events are what the kernel, the timers and the runtime
answer: connects, partial writes, stalls, link errors, the flush, and the detached task that
`finish_in_background` leaves behind. The wire of a connection is the bytes its socket took.

* `step`: one answer of the environment; `none` when the machine is not waiting for it.
* `Move`, `step_move`: what a step can do, by who acts.
* `Sound`: who owns each connection, and what its wire then holds.
* `step_sound`, `sound_run`: every step, hence every run, keeps `Sound`.
* `wire_of_run`: each wire is whole payloads in send order, then at most one proper prefix, and a
  connection with such a prefix never carries another foreground payload.
* `receiver_decodes`: the frames that can be read off it. -/
import WistAgentd.Theory.Transition
import WistAgentd.Telemetry.LenFraming

namespace WistAgentd.Telemetry.TcpStream
open Theory.Transition
open List Option
set_option autoImplicit false

variable {conn : ConnId} {payload : Bytes} {written deadline : Nat}

/-! ## The machine -/

/-- `PayloadWrite`: how one payload write ended. -/
inductive PayloadWrite
  | complete
  | stalled (written : Nat)
  | failed (err : IoError)

/-- Where `write_payload` stands. While a payload is written the stream is taken out of the sink. -/
inductive Phase
  | idle
  | connecting (payload : Bytes)
  | writing (conn : ConnId) (payload : Bytes) (written : Nat) (deadline : Nat)

inductive ConnectOutcome
  | connected | refused (err : IoError) | timedOut

/-- The answer to one `timeout(window, stream.write(..))`. -/
inductive WriteOutcome
  | accepted (n : Nat) | error (err : IoError) | timedOut

inductive Event
  /-- `write_payload` is called. -/
  | call (now : Nat) (payload : Bytes)
  | connect (now : Nat) (outcome : ConnectOutcome)
  /-- One turn of the write loop: the clock at its head, the answer to the write, the clock
  after it, and whether a runtime is there to spawn on. -/
  | write (start : Nat) (outcome : WriteOutcome) (now : Nat) (runtime : Bool)
  | flush (now : Nat) (outcome : Except IoError Unit)
  /-- The detached task of a connection gets an answer to its write. -/
  | task (conn : ConnId) (outcome : WriteOutcome)
  /-- The daemon drops the sink and builds a new one. -/
  | rebuild (sink : TcpRecordSink)
  /-- The process is killed and started again. -/
  | kill (sink : TcpRecordSink)

structure State where
  sink : TcpRecordSink
  phase : Phase
  /-- What each detached task still has to write. -/
  background : ConnId → Option Bytes
  wire : ConnId → Bytes
  nextConn : ConnId
  /-- Payloads in the order `write_payload` was called with them. -/
  submitted : List Bytes
  /-- Payloads put on a connection by the foreground, in that order. -/
  begun : List (ConnId × Bytes)
  results : List (Except IoError Unit)

def start (sink : TcpRecordSink) : State :=
  { sink := { sink with stream := none }, phase := .idle, background := fun _ => none
    wire := fun _ => [], nextConn := 0, submitted := [], begun := [], results := [] }

section

variable (s : State)

/-- The payloads the foreground put on one connection. -/
def State.payloads (conn : ConnId) : List Bytes :=
  (s.begun.filter fun entry => entry.1 == conn).map Prod.snd

/-- `self.stream.take()` and the head of `write_payload_bytes`. -/
def State.begin (conn : ConnId) (payload : Bytes) (now : Nat) : State :=
  { s with
    sink := { s.sink with stream := none }
    phase := .writing conn payload 0 (now + tcpWriteTotalTimeout)
    begun := s.begun ++ [(conn, payload)] }

/-- `write_payload` returns; the machine waits for the next call. -/
def State.reply (result : Except IoError Unit) : State :=
  { s with phase := .idle, results := s.results ++ [result] }

def State.backOff (now : Nat) : State :=
  { s with sink := s.sink.scheduleBackoff now }

/-- The socket of a connection takes bytes. -/
def State.emit (conn : ConnId) (bytes : Bytes) : State :=
  { s with wire := Function.update s.wire conn (s.wire conn ++ bytes) }

/-- `finish_in_background`: without a runtime the stream is dropped as it is. -/
def State.finishInBackground (conn : ConnId) (rest : Bytes) (runtime : Bool) : State :=
  if runtime then { s with background := Function.update s.background conn (some rest) } else s

/-- The `match` of `write_payload` on how the write ended. -/
def State.settle (conn : ConnId) (payload : Bytes) (now : Nat) (runtime : Bool) :
    PayloadWrite → State
  | .complete => { s with sink := { s.sink with stream := some conn } }.reply (.ok ())
  | .failed err => (s.backOff now).reply (.error (s.sink.tagTarget err))
  | .stalled written =>
    let next := s.backOff now
    -- the stream of a stalled write goes to the task, also when no byte was taken
    let next := if written < payload.length
      then next.finishInBackground conn (payload.drop written) runtime else next
    next.reply (.error (s.sink.tagTarget (.new .timedOut "tcp write stalled (no progress)")))

/-- `ensure_connected` up to the point where it waits. -/
def call (now : Nat) (payload : Bytes) : State :=
  let s := { s with submitted := s.submitted ++ [payload] }
  match s.sink.stream with
  | some conn => s.begin conn payload now
  | none =>
    if s.sink.inBackoff now then s.reply (.error s.sink.backoffError)
    else { s with phase := .connecting payload }

/-- The rest of `ensure_connected`. -/
def connect (payload : Bytes) (now : Nat) : ConnectOutcome → State
  | .connected =>
    { s with sink := s.sink.connected s.nextConn, nextConn := s.nextConn + 1 }.begin
      s.nextConn payload now
  | .refused err => (s.backOff now).reply (.error (s.sink.tagTarget err))
  | .timedOut =>
    (s.backOff now).reply (.error (s.sink.tagTarget (.new .timedOut "tcp connect timed out")))

/-- One turn of the loop of `write_payload_bytes`. A socket never takes more than it is given. -/
def write (conn : ConnId) (payload : Bytes) (written deadline : Nat) (start : Nat)
    (outcome : WriteOutcome) (now : Nat) (runtime : Bool) : Option State :=
  if written < payload.length then
    if deadline ≤ start then some (s.settle conn payload now runtime (.stalled written))
    else match outcome with
      | .accepted 0 => some (s.settle conn payload now runtime
          (.failed (.new .writeZero "tcp write accepted zero bytes")))
      | .accepted n =>
        if written + n ≤ payload.length then
          some { s.emit conn ((payload.drop written).take n) with
            phase := .writing conn payload (written + n) deadline }
        else none
      | .error err => some (s.settle conn payload now runtime (.failed err))
      | .timedOut => some (s.settle conn payload now runtime (.stalled written))
  else none

/-- The flush after the last byte. -/
def flush (conn : ConnId) (payload : Bytes) (written : Nat) (now : Nat)
    (outcome : Except IoError Unit) : Option State :=
  if written < payload.length then none
  else match outcome with
    | .ok () => some (s.settle conn payload now true .complete)
    | .error err => some (s.settle conn payload now true (.failed err))

/-- One write of the detached task's `write_all`; it ends with its last byte or an error. -/
def task (conn : ConnId) (rest : Bytes) : WriteOutcome → Option State
  | .accepted n =>
    if n ≤ rest.length then
      some { s.emit conn (rest.take n) with
        background := Function.update s.background conn
          (if n = 0 ∨ rest.drop n = [] then none else some (rest.drop n)) }
    else none
  | .error _ | .timedOut => some { s with background := Function.update s.background conn none }

def step : Event → Option State
  | .call now payload => match s.phase with
      | .idle => some (call s now payload)
      | _ => none
  | .connect now outcome => match s.phase with
      | .connecting payload => some (connect s payload now outcome)
      | _ => none
  | .write start outcome now runtime => match s.phase with
      | .writing conn payload written deadline =>
        write s conn payload written deadline start outcome now runtime
      | _ => none
  | .flush now outcome => match s.phase with
      | .writing conn payload written _ => flush s conn payload written now outcome
      | _ => none
  | .task conn outcome => match s.background conn with
      | some rest => task s conn rest outcome
      | none => none
  | .rebuild sink => match s.phase with
      | .idle => some { s with sink := { sink with stream := none } }
      | _ => none
  | .kill sink =>
    some { s with sink := { sink with stream := none }, phase := .idle, background := fun _ => none }

/-- The write stalls (by the clock or by the timeout) where a task can be spawned. -/
def StallsWithRuntime (s : State) : Event → Prop
  | .write start outcome _ runtime => runtime = true ∧
      ∃ conn payload written deadline, s.phase = .writing conn payload written deadline ∧
        (deadline ≤ start ∨ outcome = .timedOut)
  | _ => False

/-- What a step does, by who acts: the caller, the kernel on a connect or on a write that ends or goes
on, a detached task, the daemon. -/
inductive Move (s : State) : Event → State → Prop
  | call (now : Nat) (payload : Bytes) (idle : s.phase = .idle) :
      Move s (.call now payload) (call s now payload)
  | connect (now : Nat) (outcome : ConnectOutcome) {payload : Bytes}
      (phase : s.phase = .connecting payload) :
      Move s (.connect now outcome) (connect s payload now outcome)
  | settle {e : Event} {conn : ConnId} {payload : Bytes} {written deadline : Nat}
      (phase : s.phase = .writing conn payload written deadline) (now : Nat) (runtime : Bool)
      (ended : PayloadWrite) (whole : ended = .complete → payload.length ≤ written)
      (counted : ∀ k, ended = .stalled k → k = written ∧ written < payload.length)
      (stalls : StallsWithRuntime s e ↔ runtime = true ∧ ∃ k, ended = .stalled k) :
      Move s e (s.settle conn payload now runtime ended)
  | emit {e : Event} {conn : ConnId} {payload : Bytes} {written deadline : Nat}
      (phase : s.phase = .writing conn payload written deadline) (n : Nat) :
      Move s e { s.emit conn ((payload.drop written).take n) with
        phase := .writing conn payload (written + n) deadline }
  -- a task that ends without a byte has taken none
  | task {conn : ConnId} {rest : Bytes} (running : s.background conn = some rest)
      (outcome : WriteOutcome) (n : Nat) (left : Option Bytes)
      (behind : ∀ more, left = some more → more = rest.drop n) :
      Move s (.task conn outcome) { s.emit conn (rest.take n) with
        background := Function.update s.background conn left }
  | rebuild (sink : TcpRecordSink) (idle : s.phase = .idle) :
      Move s (.rebuild sink) { s with sink := { sink with stream := none } }
  | kill (sink : TcpRecordSink) : Move s (.kill sink)
      { s with sink := { sink with stream := none }, phase := .idle, background := fun _ => none }

/-! ## What a wire holds -/

/-- Every payload put on the connection is on its wire, whole. -/
def Whole (conn : ConnId) : Prop := s.wire conn = (s.payloads conn).flatten

/-- The last payload put on the connection is there up to its first `k` bytes. -/
def Upto (conn : ConnId) (payload : Bytes) (k : Nat) : Prop :=
  ∃ before, s.payloads conn = before ++ [payload] ∧ s.wire conn = before.flatten ++ payload.take k

end

/-- The invariant, by owner: nobody yet, the idle sink, the running write, a detached task. -/
structure Sound (s : State) : Prop where
  fresh : ∀ conn, s.nextConn ≤ conn →
    s.payloads conn = [] ∧ s.wire conn = [] ∧ s.background conn = none
  held : ∀ conn, s.sink.stream = some conn →
    conn < s.nextConn ∧ Whole s conn ∧ s.background conn = none ∧ s.phase = .idle
  connecting : ∀ payload, s.phase = .connecting payload → ∃ earlier,
    s.submitted = earlier ++ [payload] ∧ (s.begun.map Prod.snd).Sublist earlier
  writing : ∀ conn payload written deadline, s.phase = .writing conn payload written deadline →
    conn < s.nextConn ∧ Upto s conn payload written ∧ s.background conn = none
  task : ∀ conn rest, s.background conn = some rest →
    ∃ payload k, Upto s conn payload k ∧ rest = payload.drop k
  shape : ∀ conn, Whole s conn ∨ ∃ payload k, Upto s conn payload k
  order : (s.begun.map Prod.snd).Sublist s.submitted

/-- The foreground has let go of the connection. -/
structure Retired (s : State) (conn : ConnId) : Prop where
  old : conn < s.nextConn
  notHeld : s.sink.stream ≠ some conn
  notWritten : ∀ payload written deadline, s.phase ≠ .writing conn payload written deadline

section

variable (s : State) (conn : ConnId) (payload : Bytes) (now : Nat)

@[simp] theorem begin_wire : (s.begin conn payload now).wire = s.wire := rfl

@[simp] theorem begin_background : (s.begin conn payload now).background = s.background := rfl

theorem payloads_begin_same :
    (s.begin conn payload now).payloads conn = s.payloads conn ++ [payload] := by
  simp [State.begin, State.payloads]

end

theorem payloads_begin_other (s : State) {other : ConnId} (payload : Bytes) (now : Nat)
    (different : other ≠ conn) :
    (s.begin conn payload now).payloads other = s.payloads other := by
  simp [State.begin, State.payloads, Ne.symm different]

variable {s : State}

theorem whole_of_upto_length {k : Nat} (upto : Upto s conn payload k) (all : payload.length ≤ k) :
    Whole s conn := by
  obtain ⟨before, carried, wired⟩ := upto
  simp [Whole, carried, wired, take_of_length_le all]

/-- A stalled write: a task gets the stream if there is a runtime and something left. -/
theorem settle_stalled (s : State) (conn : ConnId) (payload : Bytes) (now : Nat) (runtime : Bool)
    (written : Nat) : ∃ err, s.settle conn payload now runtime (.stalled written) =
      { (s.backOff now).reply (.error err) with
        background := if written < payload.length ∧ runtime = true
          then Function.update s.background conn (some (payload.drop written))
          else s.background } := by
  refine ⟨s.sink.tagTarget (.new .timedOut "tcp write stalled (no progress)"), ?_⟩
  by_cases cut : written < payload.length <;> cases runtime <;>
    simp only [State.settle, State.finishInBackground, cut] <;> rfl

/-- The wire of one connection grows by the next bytes of its last payload. -/
theorem upto_emit {k : Nat} (n : Nat) (upto : Upto s conn payload k) :
    Upto (s.emit conn ((payload.drop k).take n)) conn payload (k + n) := by
  obtain ⟨before, carried, wired⟩ := upto
  refine ⟨before, carried, ?_⟩
  simp [State.emit, wired, take_add, append_assoc]

theorem wire_emit_other (s : State) {other : ConnId} (bytes : Bytes) (different : other ≠ conn) :
    (s.emit conn bytes).wire other = s.wire other := by
  simp [State.emit, different]

/-! ## The steps keep the invariant -/

theorem sound_start (sink : TcpRecordSink) : Sound (start sink) where
  fresh _ _ := ⟨rfl, rfl, rfl⟩
  held _ held := by simp [start] at held
  connecting _ phase := by simp [start] at phase
  writing _ _ _ _ phase := by simp [start] at phase
  task _ _ running := by simp [start] at running
  shape _ := .inl rfl
  order := List.Sublist.refl _

variable {next : State}

/-- Dropping or returning from a write touches neither wires nor logs: what remains to be shown
is who owns the connections afterwards. -/
theorem sound_idle (sound : Sound s) (idle : next.phase = .idle)
    (logs : next.begun = s.begun ∧ next.submitted = s.submitted)
    (wires : next.wire = s.wire ∧ next.nextConn = s.nextConn)
    (held : ∀ conn, next.sink.stream = some conn →
      conn < s.nextConn ∧ Whole s conn ∧ next.background conn = none)
    (tasks : ∀ conn rest, next.background conn = some rest →
      conn < s.nextConn ∧ ∃ payload k, Upto s conn payload k ∧ rest = payload.drop k) :
    Sound next := by
  obtain ⟨begun, submitted⟩ := logs
  obtain ⟨wire, nextConn⟩ := wires
  have payloads : ∀ conn, next.payloads conn = s.payloads conn := fun conn => by
    simp [State.payloads, begun]
  have whole : ∀ conn, Whole next conn ↔ Whole s conn := fun conn => by
    simp [Whole, payloads, wire]
  have upto : ∀ conn payload k, Upto next conn payload k ↔ Upto s conn payload k :=
    fun conn payload k => by simp [Upto, payloads, wire]
  refine ⟨?_, ?_, ?_, ?_, ?_, ?_, ?_⟩
  · intro conn new
    rw [nextConn] at new
    obtain ⟨none_, empty, _⟩ := sound.fresh conn new
    refine ⟨by rw [payloads, none_], by rw [wire, empty], ?_⟩
    cases running : next.background conn with
    | none => rfl
    | some rest => exact absurd (tasks conn rest running).1 (Nat.not_lt.mpr new)
  · intro conn has
    obtain ⟨old, all, quiet⟩ := held conn has
    exact ⟨nextConn ▸ old, (whole conn).mpr all, quiet, idle⟩
  · intro payload phase
    simp [idle] at phase
  · intro conn payload written deadline phase
    simp [idle] at phase
  · intro conn rest running
    obtain ⟨_, payload, k, part, remaining⟩ := tasks conn rest running
    exact ⟨payload, k, (upto conn payload k).mpr part, remaining⟩
  · intro conn
    rcases sound.shape conn with all | ⟨payload, k, part⟩
    · exact .inl ((whole conn).mpr all)
    · exact .inr ⟨payload, k, (upto conn payload k).mpr part⟩
  · rw [begun, submitted]
    exact sound.order

/-- A detached task belongs to a connection that was made. -/
theorem Sound.task_old (sound : Sound s) {rest : Bytes} (running : s.background conn = some rest) :
    conn < s.nextConn := by
  by_contra new
  have quiet := (sound.fresh conn (Nat.not_lt.mp new)).2.2
  simp [quiet] at running

theorem Sound.tasks (sound : Sound s) (conn : ConnId) (rest : Bytes)
    (running : s.background conn = some rest) :
    conn < s.nextConn ∧ ∃ payload k, Upto s conn payload k ∧ rest = payload.drop k :=
  ⟨sound.task_old running, sound.task conn rest running⟩

/-- While a write or a connect runs, the sink holds no stream. -/
theorem Sound.not_held (sound : Sound s) (busy : s.phase ≠ .idle) : s.sink.stream = none := by
  cases held : s.sink.stream with
  | none => rfl
  | some conn => exact absurd (sound.held conn held).2.2.2 busy

/-- A failure: nothing is held afterwards. -/
theorem Sound.fail (sound : Sound s) (free : s.sink.stream = none) (now : Nat)
    (result : Except IoError Unit) : Sound ((s.backOff now).reply result) :=
  sound_idle sound rfl ⟨rfl, rfl⟩ ⟨rfl, rfl⟩
    (fun other held => by simp [State.reply, State.backOff, free] at held) sound.tasks

/-- Taking the stream out of the sink and starting a payload on it. -/
theorem sound_begin (sound : Sound s) (payload : Bytes) (now : Nat) (old : conn < s.nextConn)
    (all : Whole s conn) (quiet : s.background conn = none)
    (logged : ∃ earlier, s.submitted = earlier ++ [payload] ∧
      (s.begun.map Prod.snd).Sublist earlier) : Sound (s.begin conn payload now) := by
  have started : Upto (s.begin conn payload now) conn payload 0 := by
    refine ⟨s.payloads conn, payloads_begin_same s conn payload now, ?_⟩
    simpa [Whole] using all
  have upto : ∀ other p k, other ≠ conn →
      (Upto (s.begin conn payload now) other p k ↔ Upto s other p k) := fun other p k diff => by
    simp [Upto, payloads_begin_other s payload now diff]
  refine ⟨?_, ?_, ?_, ?_, ?_, ?_, ?_⟩
  · intro other new
    have diff : other ≠ conn := Nat.ne_of_gt (Nat.lt_of_lt_of_le old new)
    rw [payloads_begin_other s payload now diff]
    exact sound.fresh other new
  · intro other held
    simp [State.begin] at held
  · intro p phase
    simp [State.begin] at phase
  · intro other p written deadline phase
    obtain ⟨rfl, rfl, rfl, _⟩ := phase
    exact ⟨old, started, quiet⟩
  · intro other rest running
    have diff : other ≠ conn := by
      rintro rfl
      simp [quiet] at running
    obtain ⟨p, k, part, remaining⟩ := sound.task other rest running
    exact ⟨p, k, (upto other p k diff).mpr part, remaining⟩
  · intro other
    by_cases diff : other = conn
    · exact .inr ⟨payload, 0, diff ▸ started⟩
    · rcases sound.shape other with all' | ⟨p, k, part⟩
      · left
        simpa [Whole, payloads_begin_other s payload now diff] using all'
      · exact .inr ⟨p, k, (upto other p k diff).mpr part⟩
  · obtain ⟨earlier, submitted, inside⟩ := logged
    simp only [State.begin, map_append, map_cons, map_nil, submitted]
    exact List.Sublist.append inside (List.Sublist.refl _)

/-- The end of `write_payload`: the stream goes back to the sink only behind a whole payload. -/
theorem sound_settle (sound : Sound s) (phase : s.phase = .writing conn payload written deadline)
    (now : Nat) (runtime : Bool) (outcome : PayloadWrite)
    (whole : outcome = .complete → payload.length ≤ written)
    (counted : ∀ k, outcome = .stalled k → k = written ∧ written < payload.length) :
    Sound (s.settle conn payload now runtime outcome) := by
  obtain ⟨old, upto, quiet⟩ := sound.writing conn payload written deadline phase
  have free : s.sink.stream = none := sound.not_held (by simp [phase])
  cases outcome with
  | complete =>
    refine sound_idle sound rfl ⟨rfl, rfl⟩ ⟨rfl, rfl⟩ ?_ sound.tasks
    intro other held
    obtain rfl : conn = other := by simpa [State.settle, State.reply] using held
    exact ⟨old, whole_of_upto_length upto (whole rfl), quiet⟩
  | failed err => exact sound.fail free now _
  | stalled k =>
    obtain ⟨rfl, -⟩ := counted k rfl
    obtain ⟨err, shape⟩ := settle_stalled s conn payload now runtime k
    rw [shape]
    refine sound_idle sound rfl ⟨rfl, rfl⟩ ⟨rfl, rfl⟩ (fun other held => ?_)
      fun other rest running => ?_
    · simp [State.reply, State.backOff, free] at held
    · dsimp only at running
      split at running
      · by_cases same : other = conn
        · subst same
          rw [Function.update_self] at running
          exact ⟨old, payload, k, upto, (some.inj running).symm⟩
        · rw [Function.update_of_ne same] at running
          exact sound.tasks other rest running
      · exact sound.tasks other rest running

/-- The socket of the running write or of a task takes the next bytes of its payload. -/
theorem sound_emit (sound : Sound s) {k : Nat} (n : Nat) (old : conn < s.nextConn)
    (upto : Upto s conn payload k)
    (logs : next.begun = s.begun ∧ next.submitted = s.submitted ∧ next.nextConn = s.nextConn)
    (wire : next.wire = (s.emit conn ((payload.drop k).take n)).wire)
    (stream : next.sink.stream = s.sink.stream) (free : s.sink.stream ≠ some conn)
    (phase : ∀ p, next.phase = .connecting p ↔ s.phase = .connecting p)
    (idle : s.phase = .idle → next.phase = .idle)
    (writing : ∀ other p written deadline, next.phase = .writing other p written deadline →
      (other = conn ∧ p = payload ∧ written = k + n ∧ next.background conn = none) ∨
      (other ≠ conn ∧ s.phase = .writing other p written deadline))
    (task : ∀ rest, next.background conn = some rest → rest = payload.drop (k + n))
    (tasks : ∀ other, other ≠ conn → next.background other = s.background other) :
    Sound next := by
  obtain ⟨begun, submitted, nextConn⟩ := logs
  have payloads : ∀ other, next.payloads other = s.payloads other := fun other => by
    simp [State.payloads, begun]
  have grown : Upto next conn payload (k + n) := by
    obtain ⟨before, carried, wired⟩ := upto_emit n upto
    exact ⟨before, by rw [payloads]; exact carried, by rw [wire]; exact wired⟩
  have same : ∀ other, other ≠ conn → next.wire other = s.wire other := fun other diff => by
    rw [wire, wire_emit_other s _ diff]
  have whole : ∀ other, other ≠ conn → (Whole next other ↔ Whole s other) :=
    fun other diff => by simp [Whole, payloads, same other diff]
  have uptoOther : ∀ other p j, other ≠ conn → (Upto next other p j ↔ Upto s other p j) :=
    fun other p j diff => by simp [Upto, payloads, same other diff]
  refine ⟨?_, ?_, ?_, ?_, ?_, ?_, ?_⟩
  · intro other new
    rw [nextConn] at new
    have diff : other ≠ conn := Nat.ne_of_gt (Nat.lt_of_lt_of_le old new)
    rw [payloads, same other diff, tasks other diff]
    exact sound.fresh other new
  · intro other held
    rw [stream] at held
    obtain ⟨made, all, quiet, waits⟩ := sound.held other held
    have diff : other ≠ conn := fun eq => free (eq ▸ held)
    exact ⟨nextConn ▸ made, (whole other diff).mpr all, by rw [tasks other diff]; exact quiet,
      idle waits⟩
  · intro p connecting
    rw [begun, submitted]
    exact sound.connecting p ((phase p).mp connecting)
  · intro other p written deadline running
    rcases writing other p written deadline running with ⟨rfl, rfl, rfl, quiet⟩ | ⟨diff, before⟩
    · exact ⟨nextConn ▸ old, grown, quiet⟩
    · obtain ⟨made, part, quiet⟩ := sound.writing other p written deadline before
      exact ⟨nextConn ▸ made, (uptoOther other p written diff).mpr part,
        by rw [tasks other diff]; exact quiet⟩
  · intro other rest running
    by_cases diff : other = conn
    · subst diff
      exact ⟨payload, k + n, grown, task rest running⟩
    · rw [tasks other diff] at running
      obtain ⟨p, j, part, remaining⟩ := sound.task other rest running
      exact ⟨p, j, (uptoOther other p j diff).mpr part, remaining⟩
  · intro other
    by_cases diff : other = conn
    · exact .inr ⟨payload, k + n, diff ▸ grown⟩
    · rcases sound.shape other with all | ⟨p, j, part⟩
      · exact .inl ((whole other diff).mpr all)
      · exact .inr ⟨p, j, (uptoOther other p j diff).mpr part⟩
  · rw [begun, submitted]
    exact sound.order

theorem sound_call (sound : Sound s) (idle : s.phase = .idle) (now : Nat) (payload : Bytes) :
    Sound (call s now payload) := by
  let logged : State := { s with submitted := s.submitted ++ [payload] }
  have grown : Sound logged :=
    { sound with
      connecting := fun p phase => by simp [logged, idle] at phase
      order := sound.order.trans (sublist_append_left _ _) }
  simp only [call]
  split
  · rename_i conn held
    obtain ⟨old, all, quiet, _⟩ := grown.held conn held
    exact sound_begin grown payload now old all quiet ⟨s.submitted, rfl, sound.order⟩
  · rename_i free
    have noStream : s.sink.stream = none := free
    split
    · refine sound_idle grown rfl ⟨rfl, rfl⟩ ⟨rfl, rfl⟩ ?_ grown.tasks
      intro conn held
      simp [State.reply, noStream] at held
    · refine { grown with held := ?_, connecting := ?_, writing := ?_ }
      · intro conn held
        simp [noStream] at held
      · intro p phase
        obtain rfl : payload = p := by simpa using phase
        exact ⟨s.submitted, rfl, sound.order⟩
      · intro conn p written deadline phase
        simp at phase

theorem sound_connect (sound : Sound s) (phase : s.phase = .connecting payload) (now : Nat)
    (outcome : ConnectOutcome) :
    Sound (connect s payload now outcome) := by
  have free : s.sink.stream = none := sound.not_held (by simp [phase])
  cases outcome with
  | connected =>
    obtain ⟨none_, empty, quiet⟩ := sound.fresh s.nextConn (Nat.le_refl _)
    let made : State :=
      { s with
        sink := { s.sink.connected s.nextConn with stream := none }
        nextConn := s.nextConn + 1 }
    have grown : Sound made :=
      { sound with
        fresh := fun conn new => sound.fresh conn (Nat.le_of_succ_le new)
        held := fun conn held => by simp [made] at held
        writing := fun conn p written deadline running => by simp [made, phase] at running }
    -- the fresh connection is whole because nothing was put on it yet
    have all : Whole made s.nextConn := by
      have empty' : made.payloads s.nextConn = [] := none_
      simp [Whole, empty', made, empty]
    exact sound_begin grown payload now (Nat.lt_succ_self _) all quiet
      (sound.connecting payload phase)
  | refused err | timedOut => exact sound.fail free now _

theorem step_move {e : Event} (stepped : step s e = some next) : Move s e next := by
  cases e with
  | call now payload =>
    simp only [step] at stepped
    split at stepped
    · rename_i idle
      exact some.inj stepped ▸ .call now payload idle
    · cases stepped
  | connect now outcome =>
    simp only [step] at stepped
    split at stepped
    · rename_i payload phase
      exact some.inj stepped ▸ .connect now outcome phase
    · cases stepped
  | write start outcome now runtime =>
    simp only [step] at stepped
    split at stepped
    · rename_i conn payload written deadline phase
      have stalls : StallsWithRuntime s (.write start outcome now runtime) ↔
          runtime = true ∧ (deadline ≤ start ∨ outcome = .timedOut) := by
        constructor
        · rintro ⟨runtime_, _, _, _, deadline', same, stall⟩
          obtain ⟨-, -, -, rfl⟩ := Phase.writing.inj (phase.symm.trans same)
          exact ⟨runtime_, stall⟩
        · rintro ⟨runtime_, stall⟩
          exact ⟨runtime_, _, _, _, _, phase, stall⟩
      unfold write at stepped
      split at stepped
      · rename_i left
        have counted : ∀ k, PayloadWrite.stalled written = .stalled k →
            k = written ∧ written < payload.length :=
          fun k same => ⟨(PayloadWrite.stalled.inj same).symm, left⟩
        split at stepped
        · rename_i late
          exact some.inj stepped ▸
            .settle phase now runtime _ (by simp) counted (by simp [stalls, late])
        · rename_i early
          split at stepped
          · exact some.inj stepped ▸
              .settle phase now runtime _ (by simp) (by simp) (by simp [stalls, early])
          · split at stepped
            · exact some.inj stepped ▸ .emit phase _
            · cases stepped
          · exact some.inj stepped ▸
              .settle phase now runtime _ (by simp) (by simp) (by simp [stalls, early])
          · exact some.inj stepped ▸
              .settle phase now runtime _ (by simp) counted (by simp [stalls])
      · cases stepped
    · cases stepped
  | flush now outcome =>
    simp only [step] at stepped
    split at stepped
    · rename_i phase
      unfold flush at stepped
      split at stepped
      · cases stepped
      · rename_i all
        split at stepped <;> exact some.inj stepped ▸ .settle phase now true _
          (fun _ => Nat.not_lt.mp all) (by simp) (by simp [StallsWithRuntime])
    · cases stepped
  | task conn outcome =>
    simp only [step] at stepped
    split at stepped
    · rename_i rest running
      have ended := fun outcome => Move.task running outcome 0 none (by simp)
      simp only [take_zero, State.emit, append_nil, Function.update_eq_self] at ended
      cases outcome with
      | accepted n =>
        simp only [task] at stepped
        split at stepped
        · refine some.inj stepped ▸ .task running (.accepted n) n _ fun more same => ?_
          split at same
          · cases same
          · exact (some.inj same).symm
        · cases stepped
      | error err | timedOut => exact some.inj stepped ▸ ended _
    · cases stepped
  | rebuild sink =>
    simp only [step] at stepped
    split at stepped
    · rename_i idle
      exact some.inj stepped ▸ .rebuild sink idle
    · cases stepped
  | kill sink => exact some.inj stepped ▸ .kill sink

theorem step_sound (s : State) (e : Event) (next : State) (sound : Sound s)
    (stepped : step s e = some next) : Sound next := by
  cases step_move stepped with
  | call now payload idle => exact sound_call sound idle now payload
  | connect now outcome phase => exact sound_connect sound phase now outcome
  | settle phase now runtime ended whole counted _ =>
    exact sound_settle sound phase now runtime ended whole counted
  | emit phase n =>
    obtain ⟨old, upto, quiet⟩ := sound.writing _ _ _ _ phase
    have free : s.sink.stream = none := sound.not_held (by simp [phase])
    refine sound_emit sound n old upto ⟨rfl, rfl, rfl⟩ rfl rfl (by simp [free])
      (fun p => by simp [phase]) (fun idle => by simp [phase] at idle) ?_ ?_ (fun _ _ => rfl)
    · intro other p w d running
      cases running
      exact .inl ⟨rfl, rfl, rfl, quiet⟩
    · intro rest running
      simp [State.emit, quiet] at running
  | @task conn _ running outcome n left behind =>
    obtain ⟨payload, k, upto, rfl⟩ := sound.task conn _ running
    have free : s.sink.stream ≠ some conn := fun held => by
      simp [(sound.held conn held).2.2.1] at running
    refine sound_emit sound n (sound.task_old running) upto ⟨rfl, rfl, rfl⟩ rfl rfl free
      (fun _ => Iff.rfl) id ?_ ?_ (fun other diff => by simp [diff])
    · intro other p w d phase
      refine .inr ⟨?_, phase⟩
      rintro rfl
      simp [(sound.writing other p w d phase).2.2] at running
    · intro more remaining
      simpa using behind more (by simpa using remaining)
  | rebuild sink idle =>
    exact sound_idle sound idle ⟨rfl, rfl⟩ ⟨rfl, rfl⟩ (fun conn held => by simp at held) sound.tasks
  | kill sink =>
    exact sound_idle sound rfl ⟨rfl, rfl⟩ ⟨rfl, rfl⟩ (fun conn held => by simp at held)
      (fun conn rest running => by simp at running)

theorem sound_run {sink : TcpRecordSink} {events : List Event}
    (ran : run step (start sink) events = some s) : Sound s :=
  run_induction step_sound (sound_start sink) ran

/-! ## A connection that was let go of is never written by the foreground again -/

/-- What a step may do to the foreground's connection: keep it, or make a fresh one. -/
structure Handover (s next : State) : Prop where
  made : s.nextConn ≤ next.nextConn
  held : ∀ conn, next.sink.stream = some conn → s.sink.stream = some conn ∨
    ∃ payload written deadline, s.phase = .writing conn payload written deadline
  writing : ∀ conn payload written deadline, next.phase = .writing conn payload written deadline →
    s.sink.stream = some conn ∨ conn = s.nextConn ∨
      ∃ payload' written' deadline', s.phase = .writing conn payload' written' deadline'
  payloads : ∀ conn, s.sink.stream ≠ some conn → conn ≠ s.nextConn →
    next.payloads conn = s.payloads conn

/-- A return to idle that logs nothing and hands back at most the stream it had. -/
theorem handover_idle (idle : next.phase = .idle) (begun : next.begun = s.begun)
    (made : next.nextConn = s.nextConn)
    (held : ∀ conn, next.sink.stream = some conn → s.sink.stream = some conn ∨
      ∃ payload written deadline, s.phase = .writing conn payload written deadline) :
    Handover s next :=
  ⟨Nat.le_of_eq made.symm, held, fun conn p w d phase => by simp [idle] at phase,
    fun conn _ _ => by simp [State.payloads, begun]⟩

theorem handover_settle (phase : s.phase = .writing conn payload written deadline) (now : Nat)
    (runtime : Bool) (outcome : PayloadWrite) :
    Handover s (s.settle conn payload now runtime outcome) := by
  cases outcome with
  | complete =>
    refine handover_idle rfl rfl rfl fun other held => ?_
    obtain rfl : conn = other := by simpa [State.settle, State.reply] using held
    exact .inr ⟨payload, written, deadline, phase⟩
  | failed err => exact handover_idle rfl rfl rfl fun other held => .inl held
  | stalled k =>
    obtain ⟨err, shape⟩ := settle_stalled s conn payload now runtime k
    rw [shape]
    exact handover_idle rfl rfl rfl fun other held => .inl held

theorem handover_begin {mid : State} (payload : Bytes) (now : Nat) (begun : mid.begun = s.begun)
    (made : s.nextConn ≤ mid.nextConn) (source : s.sink.stream = some conn ∨ conn = s.nextConn) :
    Handover s (mid.begin conn payload now) where
  made := made
  held other held := by simp [State.begin] at held
  writing other p w d phase := by
    obtain ⟨rfl, _⟩ := phase
    exact source.elim .inl (fun fresh => .inr (.inl fresh))
  payloads other notHeld notFresh := by
    have diff : other ≠ conn := fun eq => by
      subst eq
      exact source.elim notHeld notFresh
    rw [payloads_begin_other mid payload now diff]
    simp [State.payloads, begun]

theorem handover_call (s : State) (now : Nat) (payload : Bytes) :
    Handover s (call s now payload) := by
  simp only [call]
  split
  · rename_i conn held
    exact handover_begin payload now rfl (Nat.le_refl _) (.inl held)
  · split
    · exact handover_idle rfl rfl rfl fun conn held => .inl held
    · exact ⟨Nat.le_refl _, fun conn held => .inl held, fun conn p w d phase => by simp at phase,
        fun conn _ _ => rfl⟩

theorem handover_connect (s : State) (payload : Bytes) (now : Nat) (outcome : ConnectOutcome) :
    Handover s (connect s payload now outcome) := by
  cases outcome with
  | connected => exact handover_begin payload now rfl (Nat.le_succ _) (.inr rfl)
  | refused err | timedOut => exact handover_idle rfl rfl rfl fun conn held => .inl held

theorem step_handover (s : State) (e : Event) (next : State) (stepped : step s e = some next) :
    Handover s next := by
  cases step_move stepped with
  | call now payload _ => exact handover_call s now payload
  | connect now outcome _ => exact handover_connect s _ now outcome
  | settle phase now runtime ended _ _ _ => exact handover_settle phase now runtime ended
  | emit phase n =>
    refine ⟨Nat.le_refl _, fun other held => .inl held, fun other p w d running => ?_,
      fun other _ _ => rfl⟩
    cases running
    exact .inr (.inr ⟨_, _, _, phase⟩)
  | task =>
    exact ⟨Nat.le_refl _, fun conn held => .inl held,
      fun conn p w d running => .inr (.inr ⟨p, w, d, running⟩), fun conn _ _ => rfl⟩
  | rebuild sink idle => exact handover_idle idle rfl rfl fun conn held => by simp at held
  | kill sink => exact handover_idle rfl rfl rfl fun conn held => by simp at held

theorem retired_step (handover : Handover s next) (retired : Retired s conn) :
    Retired next conn ∧ next.payloads conn = s.payloads conn := by
  refine ⟨⟨Nat.lt_of_lt_of_le retired.old handover.made, ?_, ?_⟩,
    handover.payloads conn retired.notHeld (Nat.ne_of_lt retired.old)⟩
  · intro held
    rcases handover.held conn held with before | ⟨p, w, d, before⟩
    · exact retired.notHeld before
    · exact retired.notWritten p w d before
  · intro p w d phase
    rcases handover.writing conn p w d phase with before | fresh | ⟨p', w', d', before⟩
    · exact retired.notHeld before
    · exact Nat.ne_of_lt retired.old fresh
    · exact retired.notWritten p' w' d' before

/-- Over any continuation, a connection the foreground let go of gets no further payload. -/
theorem retired_run {final : State} {events : List Event} (retired : Retired s conn)
    (ran : run step s events = some final) :
    final.payloads conn = s.payloads conn :=
  (run_related (R := fun a b => Retired a conn → Retired b conn ∧ b.payloads conn = a.payloads conn)
    (fun _ held => ⟨held, rfl⟩)
    (fun _ _ _ first second held =>
      ⟨(second (first held).1).1, (second (first held).1).2.trans (first held).2⟩)
    (fun a e b stepped held => retired_step (step_handover a e b stepped) held) ran retired).2

/-- A connection whose last payload is cut is either being written or was let go of. -/
theorem cut_owner (sound : Sound s) {k : Nat} (upto : Upto s conn payload k)
    (cut : k < payload.length) :
    (∃ written deadline, s.phase = .writing conn payload written deadline) ∨ Retired s conn := by
  obtain ⟨before, carried, wired⟩ := upto
  by_cases writes : ∃ p w d, s.phase = .writing conn p w d
  · obtain ⟨p, w, d, phase⟩ := writes
    obtain ⟨_, ⟨before', carried', _⟩, _⟩ := sound.writing conn p w d phase
    have same : before ++ [payload] = before' ++ [p] := carried.symm.trans carried'
    have last : payload = p := by simpa using (append_inj' same rfl).2
    exact .inl ⟨w, d, last ▸ phase⟩
  · refine .inr ⟨?_, ?_, fun p w d phase => writes ⟨p, w, d, phase⟩⟩
    · by_contra new
      have none_ := (sound.fresh conn (Nat.not_lt.mp new)).1
      simp [carried] at none_
    · intro held
      have all := (sound.held conn held).2.1
      rw [Whole, carried, wired] at all
      have length := congrArg List.length all
      simp only [flatten_append, flatten_cons, flatten_nil, append_nil,
        length_append, length_take] at length
      omega

/-- **Stream integrity.** After any run of calls, partial writes, stalls, timeouts, link errors and
background completions, the bytes on a connection are the payloads the foreground put there, whole
and in send order, except that the last one may be cut to a proper prefix. A cut payload is the
one being written at this moment, or no later foreground payload ever goes to its connection. -/
theorem wire_of_run (sink : TcpRecordSink) (events : List Event) (s : State)
    (ran : run step (start sink) events = some s) (conn : ConnId) :
    (s.payloads conn).Sublist s.submitted ∧
    (s.wire conn = (s.payloads conn).flatten ∨
      ∃ before payload part, s.payloads conn = before ++ [payload] ∧
        s.wire conn = before.flatten ++ part ∧ part <+: payload ∧ part ≠ payload ∧
        ((∃ written deadline, s.phase = .writing conn payload written deadline) ∨
          ∀ later final, run step s later = some final →
            final.payloads conn = s.payloads conn)) := by
  have sound := sound_run ran
  refine ⟨(filter_sublist.map Prod.snd).trans sound.order, ?_⟩
  rcases sound.shape conn with all | ⟨payload, k, upto⟩
  · exact .inl all
  · by_cases cut : k < payload.length
    · right
      obtain ⟨before, carried, wired⟩ := upto
      refine ⟨before, payload, payload.take k, carried, wired, take_prefix k payload, ?_, ?_⟩
      · intro whole
        have length := congrArg List.length whole
        simp only [length_take] at length
        omega
      · rcases cut_owner sound ⟨before, carried, wired⟩ cut with writes | retired
        · exact .inl writes
        · exact .inr fun later final ran' => retired_run retired ran'
    · exact .inl (whole_of_upto_length upto (Nat.not_lt.mp cut))

/-- A frame stalls after its first byte; the retry goes out whole on a second connection. -/
def stalledFrame : List Event :=
  [.call 0 [97, 98], .connect 1 .connected, .write 2 (.accepted 1) 3 true,
    .write 3 .timedOut 5003 true, .call 8000 [97, 98], .connect 8001 .connected,
    .write 8002 (.accepted 2) 8003 true, .flush 8003 (.ok ())]

/-- The first connection keeps the cut frame, and its fate is settled by the theorem. -/
theorem wire_of_run_stalledFrame :
    ∃ s, run step (start (.new "10.0.0.1" 9000 .line)) stalledFrame = some s ∧
      s.wire 0 = [97] ∧ s.wire 1 = [97, 98] ∧ s.background 0 = some [98] ∧
      (s.payloads 0).Sublist s.submitted ∧
      (s.wire 0 = (s.payloads 0).flatten ∨
        ∃ before payload part, s.payloads 0 = before ++ [payload] ∧
          s.wire 0 = before.flatten ++ part ∧ part <+: payload ∧ part ≠ payload ∧
          ((∃ written deadline, s.phase = .writing 0 payload written deadline) ∨
            ∀ later final, run step s later = some final →
              final.payloads 0 = s.payloads 0)) :=
  ⟨_, rfl, by decide, by decide, by decide,
    wire_of_run (.new "10.0.0.1" 9000 .line) stalledFrame _ rfl 0⟩

/-- **What a receiver decodes** from a connection with length framing are the first frames of the
batches put on it, which were handed over in this order: all frames of all batches but the last, and
all frames of the last one too while the connection is kept. -/
theorem receiver_decodes (sink : TcpRecordSink) (events : List Event)
    (ran : run step (start sink) events = some s) (batches : List (List Bytes))
    (framed : s.submitted = batches.map lenStream) (conn : ConnId) :
    ∃ sent : List (List Bytes), sent.Sublist batches ∧ s.payloads conn = sent.map lenStream ∧
      sent.dropLast.flatten <+: decodeFrames (s.wire conn) ∧
      decodeFrames (s.wire conn) <+: sent.flatten ∧
      (s.sink.stream = some conn → decodeFrames (s.wire conn) = sent.flatten) := by
  have sound := sound_run ran
  have order : (s.payloads conn).Sublist (batches.map lenStream) :=
    framed ▸ (filter_sublist.map Prod.snd).trans sound.order
  obtain ⟨sent, among, same⟩ := sublist_map_iff.1 order
  have decoded (all : Whole s conn) : decodeFrames (s.wire conn) = sent.flatten := by
    rw [all, same, lenStream_flatten, decodeFrames_lenStream]
  suffices bounds : sent.dropLast.flatten <+: decodeFrames (s.wire conn) ∧
      decodeFrames (s.wire conn) <+: sent.flatten from
    ⟨sent, among, same, bounds.1, bounds.2, fun held => decoded (sound.held conn held).2.1⟩
  rcases sound.shape conn with all | ⟨payload, k, before, carried, wired⟩
  · rw [decoded all]
    exact ⟨IsPrefix.flatten <| dropLast_prefix sent, prefix_rfl⟩
  · -- the last batch is cut, those before it are whole
    have earlier : before = sent.dropLast.map lenStream := by
      rw [map_dropLast, ← same, carried, dropLast_concat]
    refine ⟨?_, decodeFrames_part _ _ ?_⟩
    · rw [wired, earlier, lenStream_flatten, decodeFrames_lenStream_append]
      exact prefix_append _ _
    · rw [← lenStream_flatten, ← same, carried, wired, flatten_append, flatten_singleton,
        prefix_append_right_inj]
      exact take_prefix k payload

def oneFrame : List Event :=
  [.call 0 (lenStream [[97]]), .connect 1 .connected, .write 2 (.accepted 3) 3 true, .flush 3 (.ok ())]

theorem receiver_decodes_oneFrame :
    ∃ s, run step (start (.new "10.0.0.1" 9000 .len)) oneFrame = some s ∧
      ∃ sent : List (List Bytes), sent.Sublist [[[97]]] ∧ s.payloads 0 = sent.map lenStream ∧
        decodeFrames (s.wire 0) = sent.flatten :=
  ⟨_, rfl, (receiver_decodes (.new "10.0.0.1" 9000 .len) oneFrame rfl [[[97]]] rfl 0).imp
    fun _ read => ⟨read.1, read.2.1, read.2.2.2.2 rfl⟩⟩

end WistAgentd.Telemetry.TcpStream

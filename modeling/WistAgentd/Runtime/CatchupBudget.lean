/- # Runtime.CatchupBudget -- how long an input may catch up in one tick

`process_telemetry_inputs` gives every input its turn. An input that goes on reading lines is
processed again within its turn, as long as its slice and the budget of the whole tick allow it. The
end of the slice is worked out anew before every batch.

* `catchUp`: the loop of `process_telemetry_input`.
* `started_iff`: which batches a turn starts.
* `slice_kept_iff`: the turns that end with their slice. -/
import WistAgentd.Telemetry.Files.FileInput

namespace WistAgentd.Runtime.Catchup
open Telemetry (IoError ProcessOutcome)
open List Option
set_option autoImplicit false

/-- Instants and durations in nanoseconds. -/
def millis (n : Nat) : Nat := n * 1000000

structure CatchupBudget where
  slice : Option Nat
  deadline : Option Nat

/-- `LogsSection`, as far as it is read here. -/
structure LogsSection where
  catchupSliceMs : Nat
  catchupBudgetMs : Nat

def CatchupBudget.new (logs : LogsSection) (now : Nat) : CatchupBudget :=
  if logs.catchupSliceMs = 0 ∨ logs.catchupBudgetMs = 0 then ⟨none, none⟩
  else ⟨some (millis logs.catchupSliceMs), some (now + millis logs.catchupBudgetMs)⟩

def CatchupBudget.sliceDeadline (budget : CatchupBudget) (now : Nat) : Option Nat :=
  budget.slice.map fun slice =>
    match budget.deadline with
    | some deadline => if deadline < now + slice then deadline else now + slice
    | none => now + slice

def CatchupBudget.exhausted (budget : CatchupBudget) (now : Nat) : Bool :=
  budget.deadline.any fun deadline => decide (deadline ≤ now)

/-- `InputTickReports::made_progress`. -/
def madeProgress (outcome : ProcessOutcome) : Bool :=
  decide (0 < outcome.readLines) && !outcome.paused && outcome.sinkError.isNone

/-- A batch as its surroundings decide it. -/
structure Batch where
  duration : Nat
  outcome : Except IoError ProcessOutcome

/-- Lines were read, and nothing stands in the way of the next batch. -/
def Batch.goesOn (batch : Batch) : Bool :=
  match batch.outcome with
  | .ok outcome => madeProgress outcome
  | .error _ => false

/-- The loop over the batches of one input: when each one started, and when the turn was over. -/
def catchUp (budget : CatchupBudget) (now : Nat) : List Batch → List Nat × Nat
  | [] => ([], now)
  | batch :: rest =>
    let sliceEnd := budget.sliceDeadline now
    let later := now + batch.duration
    if batch.goesOn && sliceEnd.isSome &&
        !(sliceEnd.any (fun deadline => decide (deadline ≤ later)) || budget.exhausted later) then
      let more := catchUp budget later rest
      (now :: more.1, more.2)
    else ([now], later)

/-- What `process_telemetry_input` finds out about the target first. -/
inductive Target
  | unsupported
  /-- Only the spool is replayed, which takes its time. -/
  | missing (replay : Nat)
  | present

structure Input where
  target : Target
  /-- The batches it would run if it was never stopped. -/
  batches : List Batch

def processTelemetryInput (budget : CatchupBudget) (now : Nat) (input : Input) : List Nat × Nat :=
  match input.target with
  | .unsupported => ([], now)
  | .missing replay => ([], now + replay)
  | .present => catchUp budget now input.batches

/-- An input, when its turn came, and when its batches started. -/
structure Turn where
  input : Input
  came : Nat
  starts : List Nat

/-- The loop of `process_telemetry_inputs`. -/
def turns (budget : CatchupBudget) (now : Nat) : List Input → List Turn
  | [] => []
  | input :: rest =>
    let done := processTelemetryInput budget now input
    ⟨input, now, done.1⟩ :: turns budget done.2 rest

def processTelemetryInputs (logs : LogsSection) (now : Nat) (inputs : List Input) : List Turn :=
  turns (.new logs now) now inputs

/-! ## Which batches are started -/

/-- The time the first `count` batches take. -/
def spent (batches : List Batch) (count : Nat) : Nat := ((batches.take count).map Batch.duration).sum

@[simp] theorem spent_zero (batches : List Batch) : spent batches 0 = 0 := by simp [spent]

theorem spent_succ (batch : Batch) (rest : List Batch) (count : Nat) :
    spent (batch :: rest) (count + 1) = batch.duration + spent rest count := by
  simp [spent]

/-- The first `count` batches all go on, each before the slice that began with it is over, and
together before the deadline of the tick. -/
def GoesOn (slice deadline now : Nat) (batches : List Batch) (count : Nat) : Prop :=
  (∀ batch ∈ batches.take count, batch.goesOn = true ∧ batch.duration < slice) ∧
    now + spent batches count < deadline

theorem goesOn_succ {slice deadline now : Nat} {batch : Batch} {rest : List Batch} {count : Nat} :
    GoesOn slice deadline now (batch :: rest) (count + 1) ↔
      (batch.goesOn = true ∧ batch.duration < slice) ∧
        GoesOn slice deadline (now + batch.duration) rest count := by
  simp only [GoesOn, take_succ_cons, forall_mem_cons, spent_succ, and_assoc, Nat.add_assoc]

section Turn

variable {slice deadline : Nat}

/-- Whether there is a further batch is decided by the last one alone. -/
theorem catchUp_cons (now : Nat) (batch : Batch) (rest : List Batch) :
    (catchUp ⟨some slice, some deadline⟩ now (batch :: rest)).1 =
      if batch.goesOn = true ∧ batch.duration < slice ∧ now + batch.duration < deadline then
        now :: (catchUp ⟨some slice, some deadline⟩ (now + batch.duration) rest).1
      else [now] := by
  rw [catchUp]
  simp only [CatchupBudget.sliceDeadline, CatchupBudget.exhausted, map_some, any_some,
    isSome_some, Bool.and_true, Bool.not_or, Bool.and_eq_true, Bool.not_eq_true',
    decide_eq_false_iff_not, apply_ite Prod.fst]
  refine if_congr (and_congr_right fun _ => ?_) rfl rfl
  split <;> omega

theorem catchUp_head (now : Nat) (batch : Batch) (rest : List Batch) :
    ∃ tail, (catchUp ⟨some slice, some deadline⟩ now (batch :: rest)).1 = now :: tail := by
  rw [catchUp_cons]
  split
  · exact ⟨_, rfl⟩
  · exact ⟨[], rfl⟩

theorem catchUp_closed {budget : CatchupBudget} (closed : budget.slice = none) (now : Nat)
    (batch : Batch) (rest : List Batch) : (catchUp budget now (batch :: rest)).1 = [now] := by
  simp [catchUp, CatchupBudget.sliceDeadline, closed]

/-- **A further batch is started** exactly if there is one and all batches before it go on. -/
theorem started_iff (batches : List Batch) : ∀ (now count : Nat), 0 < count →
    ((catchUp ⟨some slice, some deadline⟩ now batches).1[count]? = some (now + spent batches count) ∨
      (catchUp ⟨some slice, some deadline⟩ now batches).1[count]? = none) ∧
    ((catchUp ⟨some slice, some deadline⟩ now batches).1[count]?.isSome = true ↔
      count < batches.length ∧ GoesOn slice deadline now batches count) := by
  induction batches with
  | nil => simp [catchUp]
  | cons batch rest ih =>
    intro now count positive
    obtain ⟨count, rfl⟩ : ∃ less, count = less + 1 := ⟨count - 1, by omega⟩
    rw [catchUp_cons, spent_succ, goesOn_succ, length_cons, Nat.add_lt_add_iff_right,
      ← Nat.add_assoc]
    split
    case isTrue goes =>
      rw [List.getElem?_cons_succ]
      cases count with
      | zero =>
        cases rest with
        | nil => simp [catchUp]
        | cons next more =>
          obtain ⟨tail, starts⟩ :=
            @catchUp_head slice deadline (now + batch.duration) next more
          simp [starts, GoesOn, goes]
      | succ less =>
        have later := ih (now + batch.duration) (less + 1) (by omega)
        refine ⟨later.1, later.2.trans ?_⟩
        simp [goes]
    case isFalse stops =>
      have beyond : [now][count + 1]? = none := rfl
      refine ⟨.inr beyond, ?_⟩
      rw [beyond]
      simp only [isSome_none, Bool.false_eq_true, false_iff, not_and]
      rintro _ ⟨goes, short⟩ ⟨-, early⟩
      exact stops ⟨goes, short, by omega⟩

end Turn

/-! ## The slice of a turn -/

/-- The input was processed, and each further batch started within the slice that began with the
first one and before the deadline of the tick. -/
def Turn.Kept (slice deadline : Nat) (turn : Turn) : Prop :=
  (turn.input.target = .present → turn.input.batches ≠ [] → turn.starts ≠ []) ∧
    ∀ first rest, turn.starts = first :: rest → ∀ start ∈ rest, start < first + slice ∧ start < deadline

/-- Batches that go on one by one do not add up to more than the slice. -/
def Turn.Brief (slice deadline : Nat) (turn : Turn) : Prop :=
  turn.input.target = .present → ∀ count, 0 < count → count < turn.input.batches.length →
    GoesOn slice deadline turn.came turn.input.batches count → spent turn.input.batches count < slice

theorem open_kept_iff {slice deadline : Nat} (now : Nat) (batch : Batch) (rest : List Batch) :
    Turn.Kept slice deadline ⟨⟨.present, batch :: rest⟩, now,
        (catchUp ⟨some slice, some deadline⟩ now (batch :: rest)).1⟩ ↔
      Turn.Brief slice deadline ⟨⟨.present, batch :: rest⟩, now,
        (catchUp ⟨some slice, some deadline⟩ now (batch :: rest)).1⟩ := by
  obtain ⟨tail, starts⟩ := @catchUp_head slice deadline now batch rest
  have each := @started_iff slice deadline (batch :: rest) now
  simp only [starts] at each
  constructor
  · intro kept _ count positive short (goes : GoesOn slice deadline now (batch :: rest) count)
    obtain ⟨less, rfl⟩ : ∃ less, count = less + 1 := ⟨count - 1, by omega⟩
    have there := (each (less + 1) positive).2.2 ⟨short, goes⟩
    rcases (each (less + 1) positive).1 with start | none_
    · have late := (kept.2 now tail starts _ (mem_of_getElem? start)).1
      show spent (batch :: rest) (less + 1) < slice
      omega
    · rw [none_] at there
      cases there
  · intro brief
    refine ⟨fun _ _ => by simp [starts], fun first more split start mem => ?_⟩
    rw [starts] at split
    obtain ⟨rfl, rfl⟩ := List.cons.inj split
    obtain ⟨index, found⟩ := List.getElem?_of_mem mem
    have start_ := each (index + 1) (Nat.succ_pos index)
    rw [List.getElem?_cons_succ, found] at start_
    obtain ⟨short, goes⟩ := start_.2.1 rfl
    have is : start = now + spent (batch :: rest) (index + 1) := by simpa using start_.1
    have within_ : spent (batch :: rest) (index + 1) < slice :=
      brief rfl (index + 1) (Nat.succ_pos index) short goes
    exact ⟨by omega, is ▸ goes.2⟩

theorem kept_iff_brief {logs : LogsSection} {opened now : Nat} (later : opened ≤ now) (input : Input) :
    Turn.Kept (millis logs.catchupSliceMs) (opened + millis logs.catchupBudgetMs)
        ⟨input, now, (processTelemetryInput (.new logs opened) now input).1⟩ ↔
      Turn.Brief (millis logs.catchupSliceMs) (opened + millis logs.catchupBudgetMs)
        ⟨input, now, (processTelemetryInput (.new logs opened) now input).1⟩ := by
  obtain ⟨target, batches⟩ := input
  cases target with
  | unsupported | missing replay => simp [Turn.Kept, Turn.Brief, processTelemetryInput]
  | present =>
    cases batches with
    | nil => simp [Turn.Kept, Turn.Brief, processTelemetryInput, catchUp]
    | cons batch rest =>
      by_cases closed : logs.catchupSliceMs = 0 ∨ logs.catchupBudgetMs = 0
      · -- one batch, and no batch fits into an empty slice or before a deadline that is over
        have none_ : (CatchupBudget.new logs opened).slice = none := by
          simp [CatchupBudget.new, closed]
        simp only [Turn.Kept, Turn.Brief, processTelemetryInput, catchUp_closed none_]
        refine iff_of_true (by simp) fun _ count positive _ goes => ?_
        obtain ⟨less, rfl⟩ : ∃ less, count = less + 1 := ⟨count - 1, by omega⟩
        have short := (goesOn_succ.1 goes).1.2
        have early := goes.2
        rcases closed with zero | zero <;> simp only [zero, millis] at short early <;> omega
      · have budget : CatchupBudget.new logs opened = ⟨some (millis logs.catchupSliceMs),
            some (opened + millis logs.catchupBudgetMs)⟩ := by
          simp [CatchupBudget.new, closed]
        rw [budget]
        exact open_kept_iff now batch rest

theorem catchUp_later (budget : CatchupBudget) (batches : List Batch) : ∀ now,
    now ≤ (catchUp budget now batches).2 := by
  induction batches with
  | nil => exact fun now => Nat.le_refl now
  | cons batch rest ih =>
    intro now
    rw [catchUp]
    split
    · exact Nat.le_trans (Nat.le_add_right _ _) (ih (now + batch.duration))
    · exact Nat.le_add_right _ _

theorem processTelemetryInput_later (budget : CatchupBudget) (now : Nat) (input : Input) :
    now ≤ (processTelemetryInput budget now input).2 := by
  unfold processTelemetryInput
  split
  · exact Nat.le_refl now
  · exact Nat.le_add_right now _
  · exact catchUp_later budget input.batches now

/-- Each turn of a tick on its own. -/
theorem turns_kept_iff {logs : LogsSection} {opened : Nat} (inputs : List Input) :
    ∀ now, opened ≤ now → ∀ turn ∈ turns (.new logs opened) now inputs,
      turn.Kept (millis logs.catchupSliceMs) (opened + millis logs.catchupBudgetMs) ↔
        turn.Brief (millis logs.catchupSliceMs) (opened + millis logs.catchupBudgetMs) := by
  induction inputs with
  | nil => exact fun _ _ _ wrong => absurd wrong (not_mem_nil)
  | cons input rest ih =>
    intro now later turn mem
    rcases mem_cons.1 mem with rfl | after
    · exact kept_iff_brief later input
    · exact ih _ (Nat.le_trans later (processTelemetryInput_later _ now input)) turn after

/-- Five batches of 0.1 s in a slice of 0.4 s: the fifth starts when the slice is over. -/
def steadyInput : Input :=
  ⟨.present, List.replicate 6
    ⟨millis 100, .ok { ProcessOutcome.spoolReplayOnly 0 with readLines := 4096 }⟩⟩

end WistAgentd.Runtime.Catchup

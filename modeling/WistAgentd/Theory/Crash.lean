/- # Theory.Crash -- programs whose effects may fail or be cut off, and Hoare rules

A program acts on a durable state through labelled effects. The environment decides the fate of
each one: it is done, it fails with an error and changes nothing, or the process crashes before
it and nothing after it happens. `Triple` has one postcondition for each way to end: a value, an
error, a crash. The rules take a condition on the events of the run, so that a result can be
stated for the runs in which certain effects are not disturbed at certain states.

* `triple_effect`, `triple_bind`, `triple_attempt`: the rules of the constructs.
* `triple_forEach`: a loop over a list, by an invariant on what is left of it.
* `triple_weaken`, `triple_assume`, `triple_and`: consequence and conjunction.
* `Keeps` and its rules: an invariant that holds however the program ends.
* `Succeeds` and its rules: a program none of whose effects is disturbed ends with a value.
* `Leaves` and its rules: a part of the state is what it was, however the program ends.
* `Guarded`, `Tolerates` and their rules: an event that spoils the state is seen at the end. -/
import Mathlib.Data.List.Basic

namespace WistAgentd.Theory.Crash
open List
set_option autoImplicit false

variable {L σ ε α β : Type}

/-- What the environment does to one effect. -/
inductive Fate (ε : Type)
  | done
  | fail (err : ε)
  | crash
  deriving DecidableEq

def Fate.failed {ε : Type} : Fate ε → Bool
  | .fail _ => true
  | .done | .crash => false

inductive Outcome (ε α : Type)
  | ok (value : α)
  | err (error : ε)
  | crashed
  deriving DecidableEq

/-- The value of a run that ended with one. -/
def Outcome.value? : Outcome ε α → Option α
  | .ok value => some value
  | _ => none

variable {value : α} {s : σ} {error : ε}

theorem Outcome.value?_eq_some {outcome : Outcome ε α} :
    outcome.value? = some value ↔ outcome = .ok value := by
  cases outcome <;> simp [Outcome.value?]

/-- One effect as it came up: what it was, the state it met, what became of it. -/
structure Event (L σ ε : Type) where
  label : L
  before : σ
  fate : Fate ε

structure Result (L σ ε α : Type) where
  outcome : Outcome ε α
  state : σ
  /-- Fates not used up; when they run out, everything is done. -/
  fates : List (Fate ε)
  trace : List (Event L σ ε)

/-- A program, as a function of the fates of its effects and the state it starts in. -/
def Prog (L σ ε α : Type) := List (Fate ε) → σ → Result L σ ε α

namespace Prog

protected def pure (value : α) : Prog L σ ε α := fun fates s => ⟨.ok value, s, fates, []⟩

protected def bind (first : Prog L σ ε α) (next : α → Prog L σ ε β) : Prog L σ ε β :=
  fun fates s =>
    let r := first fates s
    match r.outcome with
    | .ok value =>
      let r' := next value r.fates r.state
      { r' with trace := r.trace ++ r'.trace }
    | .err error => ⟨.err error, r.state, r.fates, r.trace⟩
    | .crashed => ⟨.crashed, r.state, r.fates, r.trace⟩

instance : Monad (Prog L σ ε) where
  pure := Prog.pure
  bind := Prog.bind

def throw (error : ε) : Prog L σ ε α := fun fates s => ⟨.err error, s, fates, []⟩

def get : Prog L σ ε σ := fun fates s => ⟨.ok s, s, fates, []⟩

/-- A change of the state that is not an effect: program variables, ghost logs. -/
def modify (update : σ → σ) : Prog L σ ε Unit := fun fates s => ⟨.ok (), update s, fates, []⟩

def effect (label : L) (update : σ → σ) : Prog L σ ε Unit := fun fates s =>
  match fates.headD .done with
  | .done => ⟨.ok (), update s, fates.tail, [⟨label, s, .done⟩]⟩
  | .fail error => ⟨.err error, s, fates.tail, [⟨label, s, .fail error⟩]⟩
  | .crash => ⟨.crashed, s, fates.tail, [⟨label, s, .crash⟩]⟩

/-- Run to a value or an error; only a crash gets past it. -/
def attempt (prog : Prog L σ ε α) : Prog L σ ε (Except ε α) := fun fates s =>
  let r := prog fates s
  match r.outcome with
  | .ok value => ⟨.ok (.ok value), r.state, r.fates, r.trace⟩
  | .err error => ⟨.ok (.error error), r.state, r.fates, r.trace⟩
  | .crashed => ⟨.crashed, r.state, r.fates, r.trace⟩

/-- Put an error in other words. -/
def mapError (words : ε → ε) (prog : Prog L σ ε α) : Prog L σ ε α := fun fates s =>
  let r := prog fates s
  match r.outcome with
  | .ok value => ⟨.ok value, r.state, r.fates, r.trace⟩
  | .err error => ⟨.err (words error), r.state, r.fates, r.trace⟩
  | .crashed => ⟨.crashed, r.state, r.fates, r.trace⟩

def forEach (items : List α) (body : α → Prog L σ ε Unit) : Prog L σ ε Unit :=
  match items with
  | [] => pure ()
  | item :: rest => do body item; forEach rest body

end Prog

variable {first : Prog L σ ε α} {next : α → Prog L σ ε β}

/-- After a value the second program runs; anything else ends both. -/
theorem bind_cases (first : Prog L σ ε α) (next : α → Prog L σ ε β) (fates : List (Fate ε)) (s : σ) :
    let r := first fates s
    (∃ value, r.outcome = .ok value ∧ (first >>= next) fates s =
      { next value r.fates r.state with trace := r.trace ++ (next value r.fates r.state).trace }) ∨
    ∃ stopped : Outcome ε β, stopped.value? = none ∧
      (first >>= next) fates s = ⟨stopped, r.state, r.fates, r.trace⟩ := by
  cases ended : (first fates s).outcome with
  | ok value => exact .inl ⟨value, ended, by simp only [bind, Prog.bind, ended]⟩
  | err error => exact .inr ⟨.err error, rfl, by simp only [bind, Prog.bind, ended]⟩
  | crashed => exact .inr ⟨.crashed, rfl, by simp only [bind, Prog.bind, ended]⟩

/-- A value comes from the second program, and there from a value of the first. -/
theorem bind_returned {fates : List (Fate ε)} {value : β}
    (returned : ((first >>= next) fates s).outcome = .ok value) :
    ∃ mid, (first fates s).outcome = .ok mid ∧
      (next mid (first fates s).fates (first fates s).state).outcome = .ok value := by
  rcases bind_cases first next fates s with ⟨mid, ended, ran⟩ | ⟨_, stopped, ran⟩ <;>
    rw [ran] at returned
  · exact ⟨mid, ended, returned⟩
  · cases returned
    cases stopped

/-- From `P`, if every event meets `A`: `Q` at a value, `E` at an error, `C` at a crash. -/
def Triple (A : Event L σ ε → Prop) (P : σ → Prop) (prog : Prog L σ ε α) (Q : α → σ → Prop)
    (E : ε → σ → Prop) (C : σ → Prop) : Prop :=
  ∀ fates s, P s → (∀ e ∈ (prog fates s).trace, A e) →
    match (prog fates s).outcome with
    | .ok value => Q value (prog fates s).state
    | .err error => E error (prog fates s).state
    | .crashed => C (prog fates s).state

variable {update : σ → σ} {label : L} {prog : Prog L σ ε α} {words : ε → ε}
  {body : α → Prog L σ ε Unit}

section Rules

variable {A : Event L σ ε → Prop} {P P' : σ → Prop} {Q Q' : α → σ → Prop}
variable {E E' : ε → σ → Prop} {C C' : σ → Prop}

theorem triple_pure (holds : ∀ s, P s → Q value s) : Triple A P (pure value) Q E C :=
  fun _ s pre _ => holds s pre

theorem triple_throw (holds : ∀ s, P s → E error s) :
    Triple A P (Prog.throw error : Prog L σ ε α) Q E C :=
  fun _ s pre _ => holds s pre

theorem triple_get {Q : σ → σ → Prop} (holds : ∀ s, P s → Q s s) :
    Triple A P Prog.get Q E C :=
  fun _ s pre _ => holds s pre

theorem triple_modify {Q : Unit → σ → Prop} (holds : ∀ s, P s → Q () (update s)) :
    Triple A P (Prog.modify update) Q E C :=
  fun _ s pre _ => holds s pre

theorem triple_effect {Q : Unit → σ → Prop}
    (done : ∀ s, P s → A ⟨label, s, .done⟩ → Q () (update s))
    (fail : ∀ s error, P s → A ⟨label, s, .fail error⟩ → E error s)
    (crash : ∀ s, P s → A ⟨label, s, .crash⟩ → C s) :
    Triple A P (Prog.effect label update) Q E C := by
  intro fates s pre allowed
  cases next : fates.headD .done with
  | done =>
    simp only [Prog.effect, next, mem_singleton, forall_eq] at allowed ⊢
    exact done s pre allowed
  | fail error =>
    simp only [Prog.effect, next, mem_singleton, forall_eq] at allowed ⊢
    exact fail s error pre allowed
  | crash =>
    simp only [Prog.effect, next, mem_singleton, forall_eq] at allowed ⊢
    exact crash s pre allowed

theorem triple_bind {R : β → σ → Prop} (head : Triple A P first Q E C)
    (tail : ∀ value, Triple A (Q value) (next value) R E C) :
    Triple A P (first >>= next) R E C := by
  intro fates s pre allowed
  have ran := head fates s pre
  change ∀ e ∈ (Prog.bind first next fates s).trace, A e at allowed
  change match (Prog.bind first next fates s).outcome with
    | .ok value => R value (Prog.bind first next fates s).state
    | .err error => E error (Prog.bind first next fates s).state
    | .crashed => C (Prog.bind first next fates s).state
  cases ended : (first fates s).outcome with
  | ok value =>
    simp only [Prog.bind, ended, mem_append] at allowed ran ⊢
    exact tail value _ _ (ran fun e mem => allowed e (.inl mem))
      (fun e mem => allowed e (.inr mem))
  | err error | crashed =>
    simp only [Prog.bind, ended] at allowed ran ⊢
    exact ran allowed

theorem triple_attempt {R : Except ε α → σ → Prop}
    (inner : Triple A P prog (fun value => R (.ok value)) (fun error => R (.error error)) C) :
    Triple A P prog.attempt R E C := by
  intro fates s pre allowed
  have ran := inner fates s pre
  cases ended : (prog fates s).outcome <;>
    simp only [Prog.attempt, ended] at allowed ran ⊢ <;> exact ran allowed

theorem triple_mapError (inner : Triple A P prog Q (fun error => E (words error)) C) :
    Triple A P (prog.mapError words) Q E C := by
  intro fates s pre allowed
  have ran := inner fates s pre
  cases ended : (prog fates s).outcome <;>
    simp only [Prog.mapError, ended] at allowed ran ⊢ <;> exact ran allowed

theorem triple_weaken (inner : Triple A P' prog Q' E' C') (pre : ∀ s, P s → P' s)
    (post : ∀ value s, Q' value s → Q value s) (error : ∀ err s, E' err s → E err s)
    (crash : ∀ s, C' s → C s) :
    Triple A P prog Q E C := by
  intro fates s holds allowed
  have ran := inner fates s (pre s holds) allowed
  cases ended : (prog fates s).outcome <;> simp only [ended] at ran ⊢
  · exact post _ _ ran
  · exact error _ _ ran
  · exact crash _ ran

theorem Triple.before (inner : Triple A P' prog Q E C) (pre : ∀ s, P s → P' s) :
    Triple A P prog Q E C :=
  fun fates s holds => inner fates s (pre s holds)

theorem Triple.after (inner : Triple A P prog Q' E C) (post : ∀ value s, Q' value s → Q value s) :
    Triple A P prog Q E C :=
  triple_weaken inner (fun _ => id) post (fun _ _ => id) fun _ => id

/-- Another description of the ends without a value. -/
theorem Triple.failing (inner : Triple A P prog Q E' C') (error : ∀ err s, E' err s → E err s)
    (crash : ∀ s, C' s → C s) : Triple A P prog Q E C :=
  triple_weaken inner (fun _ => id) (fun _ _ => id) error crash

/-- `Q` at a value, and `C` at an error as at a crash. -/
abbrev TripleOr (A : Event L σ ε → Prop) (P : σ → Prop) (prog : Prog L σ ε α) (Q : α → σ → Prop)
    (C : σ → Prop) : Prop :=
  Triple A P prog Q (fun _ => C) C

theorem Triple.cut (inner : TripleOr A P prog Q C') (weaken : ∀ s, C' s → C s) :
    TripleOr A P prog Q C :=
  inner.failing (fun _ => weaken) weaken

theorem tripleOr_effect {Q : Unit → σ → Prop} (done : ∀ s, P s → Q () (update s))
    (cut : ∀ s, P s → C s) : TripleOr A P (Prog.effect label update) Q C :=
  triple_effect (fun s held _ => done s held) (fun s _ held _ => cut s held)
    fun s held _ => cut s held

/-- What is read is what is there. -/
theorem triple_read {rest : σ → Prog L σ ε α}
    (tail : ∀ seen, Triple A (fun s => seen = s ∧ P s) (rest seen) Q E C) :
    Triple A P (Prog.get >>= rest) Q E C :=
  triple_bind (triple_get fun _ held => ⟨rfl, held⟩) tail

/-- Two specifications of one program hold together. -/
theorem triple_and (left : Triple A P prog Q E C) (right : Triple A P' prog Q' E' C') :
    Triple A (fun s => P s ∧ P' s) prog (fun value s => Q value s ∧ Q' value s)
      (fun error s => E error s ∧ E' error s) (fun s => C s ∧ C' s) := by
  intro fates s pre allowed
  have first := left fates s pre.1 allowed
  have second := right fates s pre.2 allowed
  cases ended : (prog fates s).outcome <;> simp only [ended] at first second ⊢ <;>
    exact ⟨first, second⟩

/-- A fact that does not depend on the state can be taken out of the precondition. -/
theorem triple_assume {fact : Prop} (inner : fact → Triple A P prog Q E C) :
    Triple A (fun s => fact ∧ P s) prog Q E C :=
  fun fates s held => inner held.1 fates s held.2

/-- One starting point at a time. -/
theorem triple_start (each : ∀ s, P s → Triple A (fun start => start = s) prog Q E C) :
    Triple A P prog Q E C :=
  fun fates s held => each s held fates s rfl

theorem triple_absurd (never : ∀ s, ¬ P s) : Triple A P prog Q E C :=
  fun _ s held => absurd held (never s)

/-- One statement about every end: the value, if there is one, and the state. -/
def Ends (A : Event L σ ε → Prop) (P : σ → Prop) (prog : Prog L σ ε α) (R : Option α → σ → Prop) :
    Prop :=
  Triple A P prog (fun value => R (some value)) (fun _ => R none) (R none)

theorem ends_bind {R : Option β → σ → Prop} {F : σ → Prop}
    (head : Triple A P first Q (fun _ => F) F) (cut : ∀ s, F s → R none s)
    (tail : ∀ value, Ends A (Q value) (next value) R) : Ends A P (first >>= next) R :=
  triple_bind (head.failing (fun _ => cut) cut) tail

theorem Ends.result {R : Option α → σ → Prop} (inner : Ends A P prog R) (fates : List (Fate ε))
    (pre : P s) (allowed : ∀ e ∈ (prog fates s).trace, A e) :
    R (prog fates s).outcome.value? (prog fates s).state := by
  have ran := inner fates s pre allowed
  cases ended : (prog fates s).outcome <;> simpa only [ended, Outcome.value?] using ran

/-- A loop: the invariant speaks of the items still to come. -/
theorem triple_forEach {I : List α → σ → Prop}
    (turn : ∀ item rest, Triple A (I (item :: rest)) (body item) (fun _ => I rest) E C) :
    ∀ items, Triple A (I items) (Prog.forEach items body) (fun _ => I []) E C
  | [] => triple_pure fun _ => id
  | item :: rest => triple_bind (turn item rest) fun _ => triple_forEach turn rest

end Rules

/-! ## Invariants -/

/-- The program keeps `I`, however it ends. -/
def Keeps (A : Event L σ ε → Prop) (I : σ → Prop) (prog : Prog L σ ε α) : Prop :=
  Triple A I prog (fun _ => I) (fun _ => I) I

section Keeps

variable {A : Event L σ ε → Prop} {I : σ → Prop}

theorem keeps_pure : Keeps A I (pure value) := triple_pure fun _ => id

theorem keeps_throw : Keeps A I (Prog.throw error : Prog L σ ε α) :=
  triple_throw fun _ => id

theorem keeps_get : Keeps A I (Prog.get : Prog L σ ε σ) := triple_get fun _ => id

theorem keeps_modify (kept : ∀ s, I s → I (update s)) :
    Keeps A I (Prog.modify update) :=
  triple_modify kept

theorem keeps_effect (kept : ∀ s, I s → I (update s)) :
    Keeps A I (Prog.effect label update) :=
  triple_effect (fun s held _ => kept s held) (fun _ _ held _ => held) fun _ held _ => held

theorem keeps_bind (head : Keeps A I first) (tail : ∀ value, Keeps A I (next value)) :
    Keeps A I (first >>= next) :=
  triple_bind head tail

theorem keeps_attempt (inner : Keeps A I prog) : Keeps A I prog.attempt :=
  triple_attempt inner

theorem keeps_mapError (inner : Keeps A I prog) :
    Keeps A I (prog.mapError words) :=
  triple_mapError inner

theorem keeps_forEach (turn : ∀ item, Keeps A I (body item)) (items : List α) :
    Keeps A I (Prog.forEach items body) :=
  triple_forEach (I := fun _ => I) (fun item _ => turn item) items

theorem Keeps.under (keeps : Keeps (fun _ => True) I prog) : Keeps A I prog :=
  fun fates s held _ => keeps fates s held fun _ _ => trivial

/-- Whatever the outcome, the state at the end meets the invariant. -/
theorem Keeps.state (keeps : Keeps A I prog) (fates : List (Fate ε)) (held : I s)
    (allowed : ∀ e ∈ (prog fates s).trace, A e) : I (prog fates s).state := by
  have ran := keeps fates s held allowed
  cases ended : (prog fates s).outcome <;> simpa only [ended] using ran

end Keeps

/-! ## Undisturbed runs -/

/-- No effect will be disturbed. -/
def Calm (fates : List (Fate ε)) : Prop := ∀ fate ∈ fates, fate = .done

/-- From `P`, if no effect is disturbed, the program ends with a value and `Q`. -/
def Succeeds (P : σ → Prop) (prog : Prog L σ ε α) (Q : α → σ → Prop) : Prop :=
  ∀ fates s, Calm fates → P s → ∃ value, (prog fates s).outcome = .ok value ∧
    Q value (prog fates s).state ∧ Calm (prog fates s).fates

section Succeeds

variable {P P' : σ → Prop} {Q Q' : α → σ → Prop}

theorem succeeds_pure (holds : ∀ s, P s → Q value s) : Succeeds (L := L) (ε := ε) P (pure value) Q :=
  fun _ s calm held => ⟨value, rfl, holds s held, calm⟩

theorem succeeds_get {Q : σ → σ → Prop} (holds : ∀ s, P s → Q s s) :
    Succeeds (L := L) (ε := ε) P Prog.get Q :=
  fun _ s calm held => ⟨s, rfl, holds s held, calm⟩

theorem succeeds_modify {Q : Unit → σ → Prop} (holds : ∀ s, P s → Q () (update s)) :
    Succeeds (L := L) (ε := ε) P (Prog.modify update) Q :=
  fun _ s calm held => ⟨(), rfl, holds s held, calm⟩

theorem succeeds_effect {Q : Unit → σ → Prop} (holds : ∀ s, P s → Q () (update s)) :
    Succeeds (ε := ε) P (Prog.effect label update) Q := by
  intro fates s calm held
  have next : fates.headD .done = .done := by
    cases fates with
    | nil => rfl
    | cons fate rest => exact calm fate mem_cons_self
  have ran : Prog.effect label update fates s =
      ⟨.ok (), update s, fates.tail, [⟨label, s, .done⟩]⟩ := by
    simp only [Prog.effect, next]
  rw [ran]
  exact ⟨(), rfl, holds s held, fun fate mem => calm fate (mem_of_mem_tail mem)⟩

theorem succeeds_bind {R : β → σ → Prop} (head : Succeeds P first Q)
    (tail : ∀ value, Succeeds (Q value) (next value) R) :
    Succeeds P (first >>= next) R := by
  intro fates s calm held
  obtain ⟨value, ended, mid, still⟩ := head fates s calm held
  obtain ⟨last, finished, post, rest⟩ := tail value _ _ still mid
  change ∃ value, (Prog.bind first next fates s).outcome = .ok value ∧
    R value (Prog.bind first next fates s).state ∧ Calm (Prog.bind first next fates s).fates
  simp only [Prog.bind, ended]
  exact ⟨last, finished, post, rest⟩

theorem succeeds_attempt {R : Except ε α → σ → Prop}
    (inner : Succeeds P prog fun value => R (.ok value)) : Succeeds P prog.attempt R := by
  intro fates s calm held
  obtain ⟨value, ended, post, rest⟩ := inner fates s calm held
  simp only [Prog.attempt, ended]
  exact ⟨.ok value, rfl, post, rest⟩

theorem succeeds_weaken (inner : Succeeds P' prog Q') (pre : ∀ s, P s → P' s)
    (post : ∀ value s, Q' value s → Q value s) : Succeeds P prog Q := by
  intro fates s calm held
  obtain ⟨value, ended, inside, rest⟩ := inner fates s calm (pre s held)
  exact ⟨value, ended, post value _ inside, rest⟩

theorem succeeds_assume {fact : Prop} (inner : fact → Succeeds P prog Q) :
    Succeeds (fun s => fact ∧ P s) prog Q :=
  fun fates s calm held => inner held.1 fates s calm held.2

theorem succeeds_absurd (never : ∀ s, ¬ P s) : Succeeds P prog Q :=
  fun _ s _ held => absurd held (never s)

theorem succeeds_forEach {I : σ → Prop} (turn : ∀ item, Succeeds I (body item) fun _ => I) :
    ∀ items, Succeeds I (Prog.forEach items body) fun _ => I
  | [] => succeeds_pure fun _ => id
  | item :: rest => succeeds_bind (turn item) fun _ => succeeds_forEach turn rest

/-- What a program that succeeds meets at a value in any case. -/
theorem Succeeds.and (succeeds : Succeeds P prog Q) {E : ε → σ → Prop} {C : σ → Prop}
    (more : Triple (fun _ => True) P' prog Q' E C) :
    Succeeds (fun s => P s ∧ P' s) prog fun value s => Q value s ∧ Q' value s := by
  intro fates s calm held
  obtain ⟨value, ended, post, rest⟩ := succeeds fates s calm held.1
  have also := more fates s held.2 fun _ _ => trivial
  simp only [ended] at also
  exact ⟨value, ended, ⟨post, also⟩, rest⟩

end Succeeds

/-! ## Parts of the state -/

/-- The program leaves `view` as it was, however it ends, and all its events meet `A`. -/
def Leaves {τ : Type} (A : Event L σ ε → Prop) (view : σ → τ) (prog : Prog L σ ε α) : Prop :=
  ∀ fates s, view (prog fates s).state = view s ∧ ∀ e ∈ (prog fates s).trace, A e

section Leaves

variable {τ : Type} {A : Event L σ ε → Prop} {view : σ → τ}

theorem leaves_pure : Leaves A view (pure value) :=
  fun _ _ => ⟨rfl, nofun⟩

theorem leaves_throw : Leaves A view (Prog.throw error : Prog L σ ε α) :=
  fun _ _ => ⟨rfl, nofun⟩

theorem leaves_get : Leaves A view (Prog.get : Prog L σ ε σ) :=
  fun _ _ => ⟨rfl, nofun⟩

theorem leaves_modify (same : ∀ s, view (update s) = view s) :
    Leaves A view (Prog.modify update) :=
  fun _ s => ⟨same s, nofun⟩

theorem leaves_effect (same : ∀ s, view (update s) = view s) (meets : ∀ s fate, A ⟨label, s, fate⟩) :
    Leaves A view (Prog.effect label update) := by
  intro fates s
  cases next : fates.headD .done <;> simp only [Prog.effect, next, mem_singleton, forall_eq]
  · exact ⟨same s, meets s _⟩
  · exact ⟨trivial, meets s _⟩
  · exact ⟨trivial, meets s _⟩

theorem leaves_bind (head : Leaves A view first) (tail : ∀ value, Leaves A view (next value)) :
    Leaves A view (first >>= next) := by
  intro fates s
  obtain ⟨same, meets⟩ := head fates s
  rcases bind_cases first next fates s with ⟨value, -, ran⟩ | ⟨_, -, ran⟩ <;> rw [ran]
  · obtain ⟨later, rest⟩ := tail value (first fates s).fates (first fates s).state
    exact ⟨later.trans same, fun e mem => (mem_append.1 mem).elim (meets e) (rest e)⟩
  · exact ⟨same, meets⟩

theorem leaves_attempt (inner : Leaves A view prog) : Leaves A view prog.attempt := by
  intro fates s
  have ran := inner fates s
  cases ended : (prog fates s).outcome <;> simpa only [Prog.attempt, ended] using ran

theorem leaves_mapError (inner : Leaves A view prog) : Leaves A view (prog.mapError words) := by
  intro fates s
  have ran := inner fates s
  cases ended : (prog fates s).outcome <;> simpa only [Prog.mapError, ended] using ran

theorem leaves_forEach (turn : ∀ item, Leaves A view (body item)) :
    ∀ items, Leaves A view (Prog.forEach items body)
  | [] => leaves_pure
  | item :: rest => leaves_bind (turn item) fun _ => leaves_forEach turn rest

theorem Leaves.mono {B : Event L σ ε → Prop} (leaves : Leaves A view prog) (meets : ∀ e, A e → B e) :
    Leaves B view prog :=
  fun fates s => ⟨(leaves fates s).1, fun e mem => meets e ((leaves fates s).2 e mem)⟩

/-- What depends on the view alone is kept. -/
theorem Leaves.keeps (leaves : Leaves A view prog) {I : σ → Prop} {B : Event L σ ε → Prop}
    (only : ∀ s t, view t = view s → I s → I t) : Keeps B I prog := by
  intro fates s held _
  have same := (leaves fates s).1
  cases (prog fates s).outcome <;> exact only s _ same held

end Leaves

/-! ## Events that spoil the state -/

/-- An event that misses `A` leaves `H` behind. -/
def Shows (A : Event L σ ε → Prop) (H : σ → Prop) (prog : Prog L σ ε α) : Prop :=
  ∀ fates s, (∃ e ∈ (prog fates s).trace, ¬ A e) → H (prog fates s).state

/-- It also ends the program without a value. -/
def Aborts (A : Event L σ ε → Prop) (H : σ → Prop) (prog : Prog L σ ε α) : Prop :=
  ∀ fates s, (∃ e ∈ (prog fates s).trace, ¬ A e) →
    H (prog fates s).state ∧ (prog fates s).outcome.value? = none

section Spoiled

variable {A : Event L σ ε → Prop} {H : σ → Prop}

theorem aborts_of_no_events (none : ∀ fates s, (prog fates s).trace = []) :
    Aborts A H prog := by
  rintro fates s ⟨e, mem, -⟩
  rw [none] at mem
  cases mem

theorem aborts_pure : Aborts A H (pure value) := aborts_of_no_events fun _ _ => rfl

theorem aborts_throw : Aborts A H (Prog.throw error : Prog L σ ε α) :=
  aborts_of_no_events fun _ _ => rfl

theorem aborts_get : Aborts A H (Prog.get : Prog L σ ε σ) := aborts_of_no_events fun _ _ => rfl

theorem aborts_effect (spoils : ∀ s fate, ¬ A ⟨label, s, fate⟩ → fate ≠ .done ∧ H s) :
    Aborts A H (Prog.effect label update) := by
  rintro fates s ⟨e, mem, missed⟩
  cases next : fates.headD .done <;>
    simp only [Prog.effect, next, mem_singleton] at mem ⊢ <;>
    rw [mem] at missed
  · exact absurd rfl (spoils s _ missed).1
  · exact ⟨(spoils s _ missed).2, rfl⟩
  · exact ⟨(spoils s _ missed).2, rfl⟩

theorem aborts_bind (head : Aborts A H first) (tail : ∀ value, Aborts A H (next value)) :
    Aborts A H (first >>= next) := by
  rintro fates s ⟨e, mem, missed⟩
  have early := head fates s
  rcases bind_cases first next fates s with ⟨value, ended, ran⟩ | ⟨_, stopped, ran⟩ <;>
    rw [ran] at mem ⊢
  · rw [ended] at early
    rcases mem_append.1 mem with mem | mem
    · cases (early ⟨e, mem, missed⟩).2
    · exact tail value _ _ ⟨e, mem, missed⟩
  · exact ⟨(early ⟨e, mem, missed⟩).1, stopped⟩

theorem aborts_forEach (turn : ∀ item, Aborts A H (body item)) :
    ∀ items, Aborts A H (Prog.forEach items body)
  | [] => aborts_pure
  | item :: rest => aborts_bind (turn item) fun _ => aborts_forEach turn rest

theorem aborts_mapError (inner : Aborts A H prog) : Aborts A H (prog.mapError words) := by
  rintro fates s ⟨e, mem, missed⟩
  have ran := inner fates s
  cases ended : (prog fates s).outcome <;>
    simp only [Prog.mapError, ended] at mem ran ⊢ <;>
    have spoiled := ran ⟨e, mem, missed⟩
  · cases spoiled.2
  · exact ⟨spoiled.1, rfl⟩
  · exact ⟨spoiled.1, rfl⟩

theorem Leaves.aborts {τ : Type} {view : σ → τ} (leaves : Leaves A view prog) :
    Aborts A H prog := by
  rintro fates s ⟨e, mem, missed⟩
  exact absurd ((leaves fates s).2 e mem) missed

theorem Aborts.shows (aborts : Aborts A H prog) : Shows A H prog :=
  fun fates s spoiled => (aborts fates s spoiled).1

theorem shows_attempt (inner : Shows A H prog) : Shows A H prog.attempt := by
  rintro fates s ⟨e, mem, missed⟩
  have ran := inner fates s
  cases ended : (prog fates s).outcome <;>
    simp only [Prog.attempt, ended] at mem ran ⊢ <;> exact ran ⟨e, mem, missed⟩

/-- Events that meet `A` keep `I`; one that misses it ends the program, and in `H`. -/
structure Guarded (A : Event L σ ε → Prop) (I H : σ → Prop) (prog : Prog L σ ε α) : Prop where
  keeps : Keeps A I prog
  aborts : Aborts A H prog

variable {I : σ → Prop}

theorem guarded_pure : Guarded A I H (pure value) :=
  ⟨keeps_pure, aborts_pure⟩

theorem guarded_throw : Guarded A I H (Prog.throw error : Prog L σ ε α) :=
  ⟨keeps_throw, aborts_throw⟩

theorem guarded_get : Guarded A I H (Prog.get : Prog L σ ε σ) := ⟨keeps_get, aborts_get⟩

theorem guarded_bind (head : Guarded A I H first) (tail : ∀ value, Guarded A I H (next value)) :
    Guarded A I H (first >>= next) :=
  ⟨keeps_bind head.keeps fun value => (tail value).keeps,
    aborts_bind head.aborts fun value => (tail value).aborts⟩

/-- What follows is only asked for the values the first program can return. -/
theorem guarded_bind_of_returns {V : α → Prop} (head : Guarded A I H first)
    (returns : ∀ fates s value, (first fates s).outcome = .ok value → V value)
    (tail : ∀ value, V value → Guarded A I H (next value)) : Guarded A I H (first >>= next) := by
  have same : first >>= next = (first >>= fun value fates s =>
      open Classical in if V value then next value fates s else ⟨.crashed, s, fates, []⟩) := by
    funext fates s
    change Prog.bind first next fates s = Prog.bind first _ fates s
    simp only [Prog.bind]
    cases ended : (first fates s).outcome with
    | ok value => simp only [if_pos (returns fates s value ended)]
    | err error | crashed => rfl
  rw [same]
  refine guarded_bind head fun value => ?_
  by_cases possible : V value
  · simpa only [if_pos possible] using tail value possible
  · simp only [if_neg possible]
    exact ⟨fun _ _ held _ => held, aborts_of_no_events fun _ _ => rfl⟩

theorem guarded_mapError (inner : Guarded A I H prog) :
    Guarded A I H (prog.mapError words) :=
  ⟨keeps_mapError inner.keeps, aborts_mapError inner.aborts⟩

theorem Leaves.guarded {τ : Type} {view : σ → τ} (leaves : Leaves A view prog)
    (only : ∀ s t, view t = view s → I s → I t) :
    Guarded A I H prog :=
  ⟨leaves.keeps only, leaves.aborts⟩

/-- Where every event is allowed, none spoils the state. -/
theorem Keeps.guarded (keeps : Keeps (fun _ => True) I prog) : Guarded (fun _ => True) I H prog :=
  ⟨keeps, fun _ _ ⟨_, _, missed⟩ => absurd trivial missed⟩

/-- Events that meet `A` keep `I`; after one that misses it the program may go on, and ends in
`H`. -/
structure Tolerates (A : Event L σ ε → Prop) (I H : σ → Prop) (prog : Prog L σ ε α) : Prop where
  keeps : Keeps A I prog
  shows : Shows A H prog

theorem Guarded.tolerates (guarded : Guarded A I H prog) :
    Tolerates A I H prog :=
  ⟨guarded.keeps, guarded.aborts.shows⟩

theorem tolerates_attempt (inner : Tolerates A I H prog) :
    Tolerates A I H prog.attempt :=
  ⟨keeps_attempt inner.keeps, shows_attempt inner.shows⟩

/-- A first program that aborts leaves nothing to what follows. -/
theorem tolerates_bind (head : Guarded A I H first) (tail : ∀ value, Tolerates A I H (next value)) :
    Tolerates A I H (first >>= next) := by
  refine ⟨keeps_bind head.keeps fun value => (tail value).keeps, ?_⟩
  rintro fates s ⟨e, mem, missed⟩
  have early := head.aborts fates s
  rcases bind_cases first next fates s with ⟨value, ended, ran⟩ | ⟨_, -, ran⟩ <;>
    rw [ran] at mem ⊢
  · rw [ended] at early
    rcases mem_append.1 mem with mem | mem
    · cases (early ⟨e, mem, missed⟩).2
    · exact (tail value).shows _ _ ⟨e, mem, missed⟩
  · exact (early ⟨e, mem, missed⟩).1

/-- Otherwise what follows must not touch what `I` and `H` depend on. -/
theorem tolerates_bind_leaves {τ : Type} {view : σ → τ} (head : Tolerates A I H first)
    (tail : ∀ value, Leaves A view (next value)) (sound : ∀ s t, view t = view s → I s → I t)
    (spoiled : ∀ s t, view t = view s → H s → H t) : Tolerates A I H (first >>= next) := by
  refine ⟨keeps_bind head.keeps fun value => (tail value).keeps sound, ?_⟩
  rintro fates s ⟨e, mem, missed⟩
  have early := head.shows fates s
  rcases bind_cases first next fates s with ⟨value, -, ran⟩ | ⟨_, -, ran⟩ <;> rw [ran] at mem ⊢
  · obtain ⟨same, meets⟩ := tail value (first fates s).fates (first fates s).state
    rcases mem_append.1 mem with mem | mem
    · exact spoiled _ _ same (early ⟨e, mem, missed⟩)
    · exact absurd (meets e mem) missed
  · exact early ⟨e, mem, missed⟩

/-- If spoiled states do not meet `I`, the events decide. -/
theorem Tolerates.kept_iff (tolerates : Tolerates A I H prog) (apart : ∀ s, H s → ¬ I s)
    (fates : List (Fate ε)) (held : I s) :
    I (prog fates s).state ↔ ∀ e ∈ (prog fates s).trace, A e := by
  refine ⟨fun kept e mem => ?_, tolerates.keeps.state fates held⟩
  by_contra missed
  exact apart _ (tolerates.shows fates s ⟨e, mem, missed⟩) kept

end Spoiled

end WistAgentd.Theory.Crash

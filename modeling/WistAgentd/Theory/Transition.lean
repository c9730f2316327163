/- # Theory.Transition -- runs of a partial step function

A system is a function `step : σ → ε → Option σ`: the event either is not possible in the
state (`none`) or leads to the next one. Every state machine of the development is run by
`run`, and every safety argument goes through one of the rules here.

* `run_append`: a run over two event lists is the two runs in turn.
* `run_induction`: what holds at the start and is kept by every step holds at the end.
* `run_induction_along`: the same when only steps meeting a condition (`Along`) are taken.
* `run_related`: a reflexive, transitive relation kept by single steps holds across a run. -/
import Mathlib.Data.Option.Basic

namespace WistAgentd.Theory.Transition
open List Option
set_option autoImplicit false

variable {σ ε : Type}

/-- Feed the events to `step` in order; `none` as soon as one is not possible. -/
def run (step : σ → ε → Option σ) : σ → List ε → Option σ
  | s, [] => some s
  | s, e :: rest => (step s e).bind fun next => run step next rest

@[simp] theorem run_nil (step : σ → ε → Option σ) (s : σ) : run step s [] = some s := rfl

theorem run_cons (step : σ → ε → Option σ) (s : σ) (e : ε) (rest : List ε) :
    run step s (e :: rest) = (step s e).bind fun next => run step next rest := rfl

variable {step : σ → ε → Option σ}

theorem run_cons_some {s final : σ} {e : ε} {rest : List ε}
    (ran : run step s (e :: rest) = some final) :
    ∃ next, step s e = some next ∧ run step next rest = some final :=
  bind_eq_some_iff.mp ran

theorem run_append (step : σ → ε → Option σ) (s : σ) (first second : List ε) :
    run step s (first ++ second) = (run step s first).bind fun mid => run step mid second := by
  induction first generalizing s with
  | nil => rfl
  | cons e rest ih =>
    rw [cons_append, run_cons, run_cons]
    cases step s e with
    | none => rfl
    | some next => exact ih next

/-- Every step of the run meets `allowed`, judged at the state it is taken in. -/
def Along (step : σ → ε → Option σ) (allowed : σ → ε → Prop) : σ → List ε → Prop
  | _, [] => True
  | s, e :: rest => allowed s e ∧ ∀ next, step s e = some next → Along step allowed next rest

variable {allowed : σ → ε → Prop}

theorem along_of_forall (always : ∀ s e, allowed s e) :
    ∀ (events : List ε) (s : σ), Along step allowed s events
  | [], _ => trivial
  | e :: rest, s => ⟨always s e, fun next _ => along_of_forall always rest next⟩

instance decidableAlong (step : σ → ε → Option σ) (allowed : σ → ε → Prop)
    [decided : ∀ s e, Decidable (allowed s e)] :
    ∀ (s : σ) (events : List ε), Decidable (Along step allowed s events)
  | _, [] => .isTrue trivial
  | s, e :: rest =>
    match stepped : step s e with
    | none => decidable_of_iff (allowed s e) (by simp [Along, stepped])
    | some next =>
      have := decidableAlong step allowed next rest
      decidable_of_iff (allowed s e ∧ Along step allowed next rest) (by simp [Along, stepped])

theorem Along.left {first second : List ε} {s : σ} (along : Along step allowed s (first ++ second)) :
    Along step allowed s first := by
  induction first generalizing s with
  | nil => trivial
  | cons e rest ih => exact ⟨along.1, fun next stepped => ih (along.2 next stepped)⟩

/-- A condition on the events alone can be added. -/
theorem Along.and {also : ε → Prop} {events : List ε} {s : σ} (along : Along step allowed s events)
    (each : ∀ e ∈ events, also e) :
    Along step (fun s e => allowed s e ∧ also e) s events := by
  induction events generalizing s with
  | nil => trivial
  | cons e rest ih =>
    refine ⟨⟨along.1, each e mem_cons_self⟩, fun next stepped => ?_⟩
    exact ih (along.2 next stepped) fun other later => each other (mem_cons_of_mem _ later)

/-- The invariant rule for runs whose steps all meet a condition. -/
theorem run_induction_along {I : σ → Prop}
    (keeps : ∀ s e next, I s → allowed s e → step s e = some next → I next) :
    ∀ {events : List ε} {s final : σ}, I s → Along step allowed s events →
      run step s events = some final → I final
  | [], _, _, holds, _, ran => some.inj ran ▸ holds
  | e :: _, s, _, holds, along, ran => by
      obtain ⟨next, stepped, later⟩ := run_cons_some ran
      exact run_induction_along keeps (keeps s e next holds along.1 stepped)
        (along.2 next stepped) later

/-- The invariant rule: initial and preserved, hence true after every run. -/
theorem run_induction {I : σ → Prop} (keeps : ∀ s e next, I s → step s e = some next → I next) :
    ∀ {events : List ε} {s final : σ}, I s → run step s events = some final → I final
  | [], _, _, holds, ran => some.inj ran ▸ holds
  | e :: _, s, _, holds, ran => by
      obtain ⟨next, stepped, later⟩ := run_cons_some ran
      exact run_induction keeps (keeps s e next holds stepped) later

/-- A preorder kept by each single step relates the two ends of a run. -/
theorem run_related {R : σ → σ → Prop} (refl : ∀ s, R s s) (trans : ∀ a b c, R a b → R b c → R a c)
    (single : ∀ s e next, step s e = some next → R s next) {events : List ε} {s final : σ}
    (ran : run step s events = some final) : R s final :=
  run_induction (I := R s) (fun a e b held stepped => trans s a b held (single a e b stepped))
    (refl s) ran

end WistAgentd.Theory.Transition

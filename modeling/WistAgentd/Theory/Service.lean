/- # Theory.Service -- one process that runs jobs, crashes and comes back

A service runs one job at a time over a host. Between two requests of the job the surroundings act;
the process may crash at any moment, which loses its memory, and be started again.

* `Service.step`: the events of its life.
* `Service.Kept`, `Service.kept_run`: invariants of whole runs from the specification of the jobs. -/
import WistAgentd.Theory.Interaction
import WistAgentd.Theory.Transition

namespace WistAgentd.Theory.Interaction
open Theory.Transition
open Option
set_option autoImplicit false

variable {Op : Type} {Ans : Op → Type} {ε α σ χ ι ν : Type}

structure Service (Op : Type) (Ans : Op → Type) (ε α σ χ ι ν : Type) where
  perform : Perform Op Ans ε σ χ
  job : ι → Prog Op Ans ε α
  /-- What the process finds when it starts. -/
  boot : σ → σ
  /-- What a crash leaves. -/
  crash : σ → σ
  /-- What the surroundings do. -/
  nature : σ → ν → Option σ

variable {S : Setting Op Ans ε σ χ}

namespace Service

structure State (Op : Type) (Ans : Op → Type) (ε α σ : Type) where
  host : σ
  up : Bool := false
  program : Option (Prog Op Ans ε α) := none

inductive Event (χ ι ν : Type)
  | start
  | begin (job : ι)
  | act (choice : χ)
  | finish
  | crash
  | nature (event : ν)
  deriving DecidableEq

/-- The operation the running job waits for. -/
def State.asks (state : State Op Ans ε α σ) : Option Op := state.program.bind Prog.asks

def step (service : Service Op Ans ε α σ χ ι ν) (state : State Op Ans ε α σ) :
    Event χ ι ν → Option (State Op Ans ε α σ)
  | .start =>
    if state.up then none
    else some { state with host := service.boot state.host, up := true }
  | .begin job =>
    if state.up && state.program.isNone then some { state with program := some (service.job job) }
    else none
  | .act choice =>
    state.program.bind fun program =>
      (program.step service.perform choice state.host).map fun next =>
        { state with host := next.2, program := some next.1 }
  | .finish =>
    if (state.program.bind Prog.ended).isSome then some { state with program := none } else none
  | .crash =>
    if state.up then some { host := service.crash state.host, up := false, program := none }
    else none
  | .nature event => (service.nature state.host event).map fun host => { state with host }

section Inversion

variable {service : Service Op Ans ε α σ χ ι ν} {state next : State Op Ans ε α σ}

theorem step_start (stepped : service.step state .start = some next) :
    state.up = false ∧ next = { state with host := service.boot state.host, up := true } := by
  simp only [step] at stepped
  split at stepped
  · cases stepped
  · rename_i down
    exact ⟨by simpa using down, (some.inj stepped).symm⟩

theorem step_begin {job : ι} (stepped : service.step state (.begin job) = some next) :
    state.up = true ∧ state.program = none ∧
      next = { state with program := some (service.job job) } := by
  simp only [step] at stepped
  split at stepped
  · rename_i ready
    rw [Bool.and_eq_true, isNone_iff_eq_none] at ready
    exact ⟨ready.1, ready.2, (some.inj stepped).symm⟩
  · cases stepped

theorem step_act {choice : χ} (stepped : service.step state (.act choice) = some next) :
    ∃ op rest answer host, state.program = some (.request op rest) ∧
      service.perform op choice state.host = some (answer, host) ∧
      next = { state with host, program := some (rest answer) } := by
  obtain ⟨program, running, acted⟩ := bind_eq_some_iff.1 stepped
  cases program with
  | pure value | throw error => cases acted
  | request op rest =>
    obtain ⟨⟨later, host⟩, answered, rfl⟩ := map_eq_some_iff.1 acted
    obtain ⟨⟨answer, _⟩, ran, ⟨⟩⟩ := map_eq_some_iff.1 answered
    exact ⟨op, rest, answer, _, running, ran, rfl⟩

theorem step_finish (stepped : service.step state .finish = some next) :
    (∃ result, state.program.bind Prog.ended = some result) ∧
      next = { state with program := none } := by
  simp only [step] at stepped
  split at stepped
  · rename_i ended
    exact ⟨isSome_iff_exists.1 ended, (some.inj stepped).symm⟩
  · cases stepped

theorem step_crash (stepped : service.step state .crash = some next) :
    state.up = true ∧ next = { host := service.crash state.host, up := false, program := none } := by
  simp only [step] at stepped
  split at stepped
  · rename_i up
    exact ⟨up, (some.inj stepped).symm⟩
  · cases stepped

theorem step_nature {event : ν} (stepped : service.step state (.nature event) = some next) :
    ∃ host, service.nature state.host event = some host ∧ next = { state with host } := by
  obtain ⟨host, acted, rfl⟩ := map_eq_some_iff.1 stepped
  exact ⟨host, acted, rfl⟩

end Inversion

/-! ## Invariants of runs -/

/-- What holds when: at every moment, while the process is down, between jobs, after a job. -/
structure Claims (σ : Type) where
  always : σ → Prop
  off : σ → Prop
  rest : σ → Prop
  done : σ → Prop

/-- The state has what is claimed, and a running job is safe and will end in `done`. -/
structure Kept (S : Setting Op Ans ε σ χ) (claims : Claims σ) (state : State Op Ans ε α σ) :
    Prop where
  always : claims.always state.host
  off : state.up = false → state.program = none ∧ claims.off state.host
  rest : state.up = true → state.program = none → claims.rest state.host
  safe : ∀ program, state.program = some program →
    Safe S (fun _ => claims.done) (fun _ => claims.done) program state.host

variable {claims : Claims σ} {state : State Op Ans ε α σ}

theorem Kept.ended (kept : Kept S claims state) {result : Except ε α}
    (ended : state.program.bind Prog.ended = some result) : claims.done state.host := by
  obtain ⟨program, running, spent⟩ := bind_eq_some_iff.1 ended
  have safe := kept.safe program running
  cases program with
  | pure value | throw error => exact safe _ (S.rely_refl _)
  | request op next => cases spent

/-- A process that is up and between jobs. -/
theorem kept_of_rest (up : state.up = true) (free : state.program = none)
    (always : claims.always state.host) (rest : claims.rest state.host) : Kept S claims state where
  always := always
  off down := by
    rw [up] at down
    cases down
  rest _ _ := rest
  safe program running := by
    rw [free] at running
    cases running

/-- A process that has not been started. -/
theorem kept_of_off {host : σ} (always : claims.always host) (off : claims.off host) :
    Kept S claims ({ host } : State Op Ans ε α σ) where
  always := always
  off _ := ⟨rfl, off⟩
  rest := nofun
  safe := nofun

/-- What has to be shown of a service for `Kept` to last, over steps that meet `allowed`. -/
structure Lasting (service : Service Op Ans ε α σ χ ι ν) (S : Setting Op Ans ε σ χ)
    (claims : Claims σ) (allowed : State Op Ans ε α σ → Event χ ι ν → Prop) : Prop where
  performs : S.perform = service.perform
  guaranteed : ∀ {s t}, S.guar s t → claims.always t
  starts : ∀ state, allowed state .start → claims.always state.host → claims.off state.host →
    claims.always (service.boot state.host) ∧ claims.rest (service.boot state.host)
  begins : ∀ state job, allowed state (.begin job) → claims.always state.host →
    claims.rest state.host →
      Safe S (fun _ => claims.done) (fun _ => claims.done) (service.job job) state.host
  acts : ∀ state choice op, allowed state (.act choice) → state.asks = some op →
    S.allowed op choice state.host
  finishes : ∀ state, allowed state .finish → claims.done state.host → claims.rest state.host
  crashes : ∀ state, allowed state .crash → claims.always state.host →
    claims.always (service.crash state.host) ∧ claims.off (service.crash state.host)
  others : ∀ state event host, allowed state (.nature event) → claims.always state.host →
    service.nature state.host event = some host →
      claims.always host ∧ S.rely state.host host ∧ (claims.rest state.host → claims.rest host) ∧
        (claims.off state.host → claims.off host)

section Rule

variable {service : Service Op Ans ε α σ χ ι ν} {S : Setting Op Ans ε σ χ} {claims : Claims σ}
  {allowed : State Op Ans ε α σ → Event χ ι ν → Prop}

theorem kept_step (lasting : Lasting service S claims allowed) {next : State Op Ans ε α σ}
    {event : Event χ ι ν} (kept : Kept S claims state) (fine : allowed state event)
    (stepped : service.step state event = some next) : Kept S claims next := by
  cases event with
  | start =>
    obtain ⟨down, rfl⟩ := step_start stepped
    obtain ⟨free, off⟩ := kept.off down
    obtain ⟨still, resting⟩ := lasting.starts state fine kept.always off
    exact kept_of_rest rfl free still resting
  | begin job =>
    obtain ⟨up, free, rfl⟩ := step_begin stepped
    refine ⟨kept.always, fun down => ?_, nofun, fun program running => ?_⟩
    · rw [up] at down
      cases down
    · cases running
      exact lasting.begins state job fine kept.always (kept.rest up free)
  | act choice =>
    obtain ⟨op, rest, answer, host, running, ran, rfl⟩ := step_act stepped
    have asked : state.asks = some op := by
      rw [State.asks, running]
      rfl
    rw [← lasting.performs] at ran
    obtain ⟨guar, later⟩ :=
      (kept.safe _ running).step (lasting.acts state choice op fine asked) ran
    refine ⟨lasting.guaranteed guar, fun down => ?_, nofun, fun program held => ?_⟩
    · rw [(kept.off down).1] at running
      cases running
    · cases held
      exact later
  | finish =>
    obtain ⟨⟨result, ended⟩, rfl⟩ := step_finish stepped
    refine ⟨kept.always, fun down => ⟨rfl, (kept.off down).2⟩, fun _ _ => ?_, nofun⟩
    exact lasting.finishes state fine (kept.ended ended)
  | crash =>
    obtain ⟨-, rfl⟩ := step_crash stepped
    obtain ⟨still, off⟩ := lasting.crashes state fine kept.always
    exact kept_of_off still off
  | nature event =>
    obtain ⟨host, acted, rfl⟩ := step_nature stepped
    obtain ⟨still, others, resting, off⟩ := lasting.others state event host fine kept.always acted
    exact ⟨still, fun down => ⟨(kept.off down).1, off (kept.off down).2⟩,
      fun up free => resting (kept.rest up free),
      fun program running => (kept.safe program running).interfere others⟩

/-- Along every run whose steps are allowed. -/
theorem kept_run (lasting : Lasting service S claims allowed) {events : List (Event χ ι ν)}
    {final : State Op Ans ε α σ} (kept : Kept S claims state)
    (along : Along service.step allowed state events)
    (ran : run service.step state events = some final) : Kept S claims final :=
  run_induction_along (fun _ _ _ held fine stepped => kept_step lasting held fine stepped) kept
    along ran

end Rule

end Service

end WistAgentd.Theory.Interaction

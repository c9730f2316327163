/- # Exec.Vanishing -- no enqueued execution vanishes

`Held` joins what the files say with what every running program still promises. Each event keeps it:
the programs by their specifications, the rest because it leaves the files alone.

* `Solo`, `step_solo`: whoever works is alone, if programs start in turn.
* `step_held`, `run_held`: one event, a whole run.
* `accepted_tracked`: an accepted submission is queued, reported or set aside, as long as no queue is
  stored over a newer one; `accepted_lost_storedOver` is the drain that stores its old copy.
* `enqueued_tracked`: without concurrent submissions that condition always holds. -/
import WistAgentd.Exec.CustodyDaemon
import WistAgentd.Exec.CustodySubmission

namespace WistAgentd.Exec
open Function
open Telemetry (Path IoError ErrorKind)
open Theory.Interaction Theory.Transition
open List Option
set_option autoImplicit false

variable {world s : World} {party : Party} {event : Event}

/-- Outside the agent nothing but results is written. -/
theorem nature_files {after : World} {nature : Nature} (changed : world.nature nature = some after) :
    (∀ file : File, file.isResult = false → after.files file = world.files file) ∧
      after.ledger = world.ledger := by
  cases nature with
  | startProcess pid token =>
    simp only [World.nature] at changed
    split at changed
    · cases changed
      exact ⟨fun _ _ => rfl, rfl⟩
    · cases changed
  | exitProcess pid =>
    cases changed
    exact ⟨fun _ _ => rfl, rfl⟩
  | reapProcess pid =>
    simp only [World.nature] at changed
    split at changed
    · split at changed
      · cases changed
      · cases changed
        exact ⟨fun _ _ => rfl, rfl⟩
    · cases changed
  | writeResult pid content =>
    simp only [World.nature] at changed
    split at changed
    · split at changed
      · cases changed
        refine ⟨fun file notResult => world.files_put_ne _ _ ?_, rfl⟩
        rintro rfl
        cases notResult
      · cases changed
    · cases changed

/-- Nothing is under way. -/
def System.Idle (system : System) : Prop :=
  (system.config.programs .daemon).isNone = true ∧
    ∀ executionId ∈ system.issued, (system.config.programs (.submission executionId)).isNone = true

/-- The event puts a program to work. -/
def Event.opens : Event → Bool
  | .begin _ | .submit _ _ => true
  | _ => false

/-- Submissions run under issued ids. -/
def Enrolled (system : System) : Prop :=
  ∀ executionId, system.config.programs (.submission executionId) ≠ none →
    executionId ∈ system.issued

/-- Whoever is at work is alone, and nobody stored a queue since it began. -/
def Solo (system : System) : Prop :=
  ∀ party, system.config.programs party ≠ none →
    system.world.ledger.overtaken party = false ∧
      ∀ other, other ≠ party → system.config.programs other = none

section Turns

variable {setup : Setup} {system next : System}

/-- One's own operations do not overtake oneself. -/
theorem overtaken_perform {op : Op} {choice : Choice} {t : World}
    {answer : Except RuntimeError op.Ans} (ran : perform party op choice s = some (answer, t))
    (unseen : s.ledger.overtaken party = false) : t.ledger.overtaken party = false := by
  cases perform_effect ran with
  | wrote file value =>
    cases file with
    | queue => exact if_pos rfl
    | _ => exact unseen
  | looked => exact update_self ..
  | _ => exact unseen

theorem Solo.left (solo : Solo system) (party : Party) (ledger : world.ledger = system.world.ledger) :
    Solo (system.leave party world) := by
  have none : ∀ other, system.config.programs other = none →
      (system.leave party world).config.programs other = none := by
    intro other idle
    by_cases same : other = party
    · subst same
      exact system.leave_self other world
    · exact (system.leave_other same world).trans idle
  intro other running
  obtain ⟨unseen, alone⟩ := solo other fun idle => running (none other idle)
  exact ⟨(congrArg (·.overtaken other) ledger).trans unseen,
    fun third apart => none third (alone third apart)⟩

theorem Solo.started (idle : ∀ party, system.config.programs party = none) (party : Party)
    (task : Task) : Solo (system.start party task) := by
  intro other running
  have same : other = party := by
    by_contra different
    exact running ((system.start_other different task).trans (idle other))
  subst same
  exact ⟨update_self .., fun third apart => (system.start_other apart task).trans (idle third)⟩

theorem System.Idle.all (idle : system.Idle) (enrolled : Enrolled system) (party : Party) :
    system.config.programs party = none := by
  cases party with
  | daemon => exact isNone_iff_eq_none.1 idle.1
  | submission executionId =>
    by_contra running
    exact running (isNone_iff_eq_none.1 (idle.2 executionId (enrolled executionId running)))

theorem step_solo (enrolled : Enrolled system) (solo : Solo system)
    (inTurn : event.opens = true → system.Idle) (step : system.step setup event = some next) :
    Solo next := by
  cases System.stepped_of_step step with
  | begun job idle => exact Solo.started (System.Idle.all (inTurn rfl) enrolled) .daemon _
  | submitted executionId plan unused =>
    have started := Solo.started (System.Idle.all (inTurn rfl) enrolled) (.submission executionId)
      (setup.submission executionId plan)
    exact started
  | acted party choice config acted =>
    obtain ⟨op, rest, answer, running, ran, programs⟩ := Config.act_some acted
    obtain ⟨unseen, alone⟩ := solo party (by rw [running]; exact some_ne_none _)
    have others : ∀ other, other ≠ party → config.programs other = none := by
      intro other different
      rw [programs, update_of_ne different]
      exact alone other different
    intro other active
    have same : other = party := by
      by_contra different
      exact active (others other different)
    subst same
    exact ⟨overtaken_perform ran unseen, others⟩
  | returned party outcome spent | threw party error spent =>
    exact solo.left party rfl
  | crashed => exact solo.left .daemon rfl
  | abandoned executionId => exact solo.left _ rfl
  | changed nature world changed =>
    intro party running
    obtain ⟨unseen, alone⟩ := solo party running
    exact ⟨by rw [← unseen, ← (nature_files changed).2], alone⟩

end Turns

/-! ## The invariant -/

/-- How a program of a party may end. -/
def Ending (strict : Prop) (runDir : Path) (result : Option SchedulerOutcome) (s : World) : Prop :=
  Kept strict runDir s ∧
    ∀ outcome, result = some outcome → Enqueued outcome.executionId outcome.planDigest s

structure Held (strict : Prop) (setup : Setup) (system : System) : Prop where
  kept : Kept strict setup.request.runDir system.world
  secure : Secure (custody strict setup.request.runDir)
    (fun _ => Ending strict setup.request.runDir) (fun _ _ => Kept strict setup.request.runDir)
    system.config
  issued : ∀ executionId, system.config.programs (.submission executionId) ≠ none →
    executionId ∈ system.issued
  enqueued : ∀ item ∈ system.world.ledger.enqueued, item.executionId ∈ system.issued
  accepted : ∀ outcome ∈ system.accepted,
    Enqueued outcome.executionId outcome.planDigest system.world

/-- The answers considered at an event. -/
def FairEvent (strict : Prop) (system : System) : Event → Prop
  | .act party choice => ∀ op, system.config.asks party = some op →
      Fair strict party op choice system.world
  | _ => True

instance (strict : Prop) [Decidable strict] (system : System) :
    ∀ event, Decidable (FairEvent strict system event)
  | .act party choice =>
    match asked : system.config.asks party with
    | none => .isTrue (by simp [FairEvent, asked])
    | some op => decidable_of_iff (Fair strict party op choice system.world)
        (by simp [FairEvent, asked])
  | .begin _ | .submit _ _ | .finish _ | .crash | .abandon _ | .nature _ => .isTrue trivial

section Held

variable {strict : Prop} {setup : Setup} {system next : System}

theorem held_initial : Held strict setup .initial where
  kept :=
    { readable := fun _ _ wrong => by cases wrong
      queued := nofun
      unique := nofun
      running := fun _ _ wrong => by cases wrong
      reports := fun _ _ wrong => by cases wrong
      histories := fun _ _ _ wrong => by cases wrong
      plans := nofun
      tracked := nofun }
  secure := fun _ _ wrong => by cases wrong
  issued := fun _ wrong => absurd rfl wrong
  enqueued := nofun
  accepted := nofun

/-- Nothing the parties rely on changes. -/
theorem steady_congr {runDir : Path} {t : World}
    (files : ∀ file : File, file.isResult = false → t.files file = s.files file)
    (enqueued : t.ledger.enqueued = s.ledger.enqueued)
    (overtaken : t.ledger.overtaken party = s.ledger.overtaken party) :
    Steady strict runDir party s t where
  kept := fun kept => kept.congr files enqueued
  unseen := fun unseen => ⟨overtaken ▸ unseen, files .queue rfl⟩
  enqueued := fun _ mem => enqueued ▸ mem
  own := fun _ _ _ mem _ => enqueued ▸ mem
  ownPlan := fun _ _ _ => files (.plan _) rfl
  grows := fun _ _ mem => queueItems_congr (files .queue rfl) ▸ mem
  daemons := by
    intro _ file daemons
    refine files file ?_
    cases file <;> first | rfl | cases daemons

/-- The world changed behind the programs, none started. -/
theorem Held.outside (held : Held strict setup system)
    (files : ∀ file : File, file.isResult = false → world.files file = system.world.files file)
    (ledger : world.ledger = system.world.ledger) :
    Held strict setup { system with config := { system.config with state := world } } where
  kept := held.kept.congr files (by rw [ledger])
  secure := held.secure.interfere fun party _ => steady_congr files (by rw [ledger]) (by rw [ledger])
  issued := held.issued
  enqueued := fun item mem => held.enqueued item (by rwa [ledger] at mem)
  accepted := by
    intro outcome mem
    obtain ⟨item, known, same⟩ := held.accepted outcome mem
    exact ⟨item, by rwa [ledger], same⟩

/-- A program is taken away. -/
theorem Held.without (held : Held strict setup system) (party : Party) :
    Held strict setup { system with config := system.config.assign party none } where
  kept := held.kept
  secure := held.secure.stop party
  issued := by
    intro executionId running
    refine held.issued executionId ?_
    by_cases same : Party.submission executionId = party
    · rw [same, Config.assign_self] at running
      exact absurd rfl running
    · rwa [Config.assign_ne _ same] at running
  enqueued := held.enqueued
  accepted := held.accepted

theorem Held.left (held : Held strict setup system) (party : Party)
    (files : world.files = system.world.files) (ledger : world.ledger = system.world.ledger) :
    Held strict setup (system.leave party world) :=
  (held.without party).outside (fun file _ => congrFun files file) ledger

theorem Held.started (held : Held strict setup system) {task : Task} {issued : List String}
    (idle : system.config.programs party = none)
    (more : ∀ executionId ∈ system.issued, executionId ∈ issued)
    (own : ∀ executionId, party = .submission executionId → executionId ∈ issued)
    (safe : ∀ s, s.files = system.world.files → s.ledger.enqueued = system.world.ledger.enqueued →
      Kept strict setup.request.runDir s →
      Safe (custody strict setup.request.runDir party) (Ending strict setup.request.runDir)
        (fun _ => Kept strict setup.request.runDir) task s) :
    Held strict setup { system.start party task with issued } := by
  have kept : Kept strict setup.request.runDir (System.admitted system.world party) :=
    held.kept.congr (fun _ _ => rfl) rfl
  have others : Secure (custody strict setup.request.runDir)
      (fun _ => Ending strict setup.request.runDir) (fun _ _ => Kept strict setup.request.runDir)
      { system.config with state := System.admitted system.world party } := by
    refine held.secure.interfere fun other running => steady_congr (fun _ _ => rfl) rfl ?_
    refine update_of_ne ?_ ..
    rintro rfl
    exact running idle
  refine ⟨kept, others.start (safe _ rfl rfl kept), ?_, ?_, ?_⟩
  · intro executionId running
    by_cases same : Party.submission executionId = party
    · exact own executionId same.symm
    · refine more executionId (held.issued executionId ?_)
      exact fun wrong => running ((Config.assign_ne _ same _).trans wrong)
  · exact fun item mem => more _ (held.enqueued item mem)
  · exact held.accepted

theorem Held.acted (held : Held strict setup system) {choice : Choice}
    {config : Config Party Op Op.Ans RuntimeError (Option SchedulerOutcome) World}
    (acted : system.config.act perform party choice = some config)
    (fair : ∀ op, system.config.asks party = some op → Fair strict party op choice system.world) :
    Held strict setup { system with config } := by
  obtain ⟨secure, kept, steady⟩ := held.secure.act (fun other _ different _ guar =>
    guar.2 other different) acted fair
  obtain ⟨op, rest, answer, running, -, programs⟩ := Config.act_some acted
  have active : ∀ executionId, party = .submission executionId → executionId ∈ system.issued := by
    rintro executionId rfl
    exact held.issued executionId (by rw [running]; exact some_ne_none _)
  refine ⟨kept, secure, ?_, ?_, ?_⟩
  · intro executionId running
    by_cases same : Party.submission executionId = party
    · exact active executionId same.symm
    · refine held.issued executionId ?_
      rwa [programs, update_of_ne same] at running
  · intro item mem
    by_cases same : Party.submission item.executionId = party
    · exact active _ same.symm
    · exact held.enqueued item ((steady _ same).own _ rfl item mem rfl)
  · intro outcome mem
    obtain ⟨item, known, same⟩ := held.accepted outcome mem
    obtain ⟨other, different⟩ : ∃ other, other ≠ party := by
      cases party with
      | daemon => exact ⟨.submission "", by simp⟩
      | submission executionId => exact ⟨.daemon, by simp⟩
    exact ⟨item, (steady other different).enqueued item known, same⟩

theorem safe_job (job : Job) (kept : Kept strict setup.request.runDir s) :
    Safe (custody strict setup.request.runDir .daemon) (Ending strict setup.request.runDir)
      (fun _ => Kept strict setup.request.runDir) (setup.job job) s := by
  have none : (setup.job job).Returns (· = none) := by
    cases job <;> exact Prog.returns_bind fun _ => rfl
  refine ((spec_job rfl job s kept).returning none).weaken (fun result s held => ⟨held.1, ?_⟩)
    fun _ _ => id
  rw [held.2]
  exact nofun

/-- **One event.** -/
theorem step_held (held : Held strict setup system) (fair : FairEvent strict system event)
    (stepped : system.step setup event = some next) : Held strict setup next := by
  cases System.stepped_of_step stepped with
  | begun job idle =>
    exact held.started idle (fun _ => id) nofun fun s _ _ kept => safe_job job kept
  | submitted executionId plan unused =>
    have idle : system.config.programs (.submission executionId) = none := by
      by_contra running
      exact unused (held.issued executionId running)
    refine held.started idle (fun _ mem => mem_cons_of_mem _ mem) ?_ ?_
    · rintro _ ⟨⟩
      exact mem_cons_self
    · intro s _ enqueued kept
      refine spec_submission rfl executionId plan s ⟨kept, fun item mem same => ?_⟩
      rw [enqueued] at mem
      exact unused (same ▸ held.enqueued item mem)
  | acted party choice config acted => exact held.acted acted fair
  | returned party outcome spent =>
    have left := held.left party rfl rfl
    refine ⟨left.kept, left.secure, left.issued, left.enqueued, fun found mem => ?_⟩
    rcases mem_append.1 mem with old | new
    · exact left.accepted found old
    · obtain ⟨item, known, same⟩ := (held.secure.returned spent).2 found
        (mem_toList.1 new)
      exact ⟨item, known, same⟩
  | threw party error spent =>
    exact held.left party rfl rfl
  | crashed => exact held.left .daemon rfl rfl
  | abandoned executionId => exact held.left _ rfl rfl
  | changed nature world changed =>
    obtain ⟨files, ledger⟩ := nature_files changed
    exact held.outside files ledger

theorem run_held {events : List Event} (along : Along (System.step setup) (FairEvent strict) .initial
    events) (ran : runSystem setup .initial events = some system) : Held strict setup system :=
  run_induction_along (fun _ _ _ held fair stepped => step_held held fair stepped) held_initial along
    ran

end Held

/-! ## Submissions beside a drain -/

/-- **An accepted submission is queued, reported or set aside**, in every run in which no party stores
a queue while a queue stored by another since it last looked is on disk, and in which `Path::exists`
does not fail on the queue for a submission. -/
theorem accepted_tracked {setup : Setup} {events : List Event} {system : System}
    (unraced : Along (System.step setup) (FairEvent False) .initial events)
    (ran : runSystem setup .initial events = some system) :
    ∀ outcome ∈ system.accepted, ∃ item : ExecutionQueueItem,
      item.executionId = outcome.executionId ∧ item.planDigest = outcome.planDigest ∧
        Tracked system.world item := by
  have held := run_held unraced ran
  intro outcome mem
  obtain ⟨item, enqueued, same⟩ := held.accepted outcome mem
  exact ⟨item, same.1, same.2, held.kept.tracked item enqueued⟩

namespace Sample

/-- The search of submission `B` for a duplicate while process 7 runs. -/
def submitBSearches : List Event :=
  .submit "B" (plan "b") ::
    acts (.submission "B") [tick, .done, .done, .done, .names ["A"], .done, .done, .names [], .done,
      .names [], .done, .done]

/-- `B` loads the queue and stores it with its item. -/
def submitBStores : List Event :=
  acts (.submission "B") [.done, .done, tick, tick, .done] ++ [.finish (.submission "B")]

/-- The drain stores its copy between the search and the store of `B`. -/
def inTurn : List Event := submitA ++ drainStarts ++ submitBSearches ++ drainEnds ++ submitBStores

/-- `B` is accepted while process 7 runs; then the drain stores its copy. -/
def storedOver : List Event := submitA ++ drainStarts ++ submitBSearches ++ submitBStores ++ drainEnds

end Sample

theorem accepted_tracked_inTurn : ∃ system, runSystem Sample.setup .initial Sample.inTurn = some system ∧
    system.accepted.map (·.executionId) = ["A", "B"] ∧
    ∀ outcome ∈ system.accepted, ∃ item : ExecutionQueueItem,
      item.executionId = outcome.executionId ∧ item.planDigest = outcome.planDigest ∧
        Tracked system.world item := by
  have accepted : (runSystem Sample.setup .initial Sample.inTurn).map
      (·.accepted.map (·.executionId)) = some ["A", "B"] := by decide +kernel
  obtain ⟨system, ran, both⟩ := map_eq_some_iff.1 accepted
  exact ⟨system, ran, both, accepted_tracked (by decide +kernel) ran⟩

/-- The accepted execution `B` is in no file any more. -/
theorem accepted_lost_storedOver : ∃ system,
    runSystem Sample.setup .initial Sample.storedOver = some system ∧
    ∃ outcome ∈ system.accepted, ∀ item : ExecutionQueueItem,
      item.executionId = outcome.executionId → ¬ Tracked system.world item := by
  have final : (runSystem Sample.setup .initial Sample.storedOver).map (fun system =>
      (system.accepted.map (·.executionId), system.world.queueItems.map (·.executionId),
        (system.world.files (.reporting "B")).present, (system.world.files (.history "B")).present)) =
      some (["A", "B"], [], false, false) := by decide +kernel
  obtain ⟨system, ran, final⟩ := map_eq_some_iff.1 final
  simp only [Prod.mk.injEq] at final
  obtain ⟨accepted, queue, reporting, history⟩ := final
  have mem : "B" ∈ system.accepted.map (·.executionId) := by rw [accepted]; simp
  obtain ⟨outcome, accepted, is⟩ := mem_map.1 mem
  refine ⟨system, ran, outcome, accepted, fun item same tracked => ?_⟩
  rw [is] at same
  rcases tracked with queued | reported | aside
  · rw [map_eq_nil_iff.1 queue] at queued
    cases queued
  · rw [same] at reported
    exact reported.1 (Stored.present_eq_false.1 reporting)
  · rw [SetAside, same] at aside
    exact aside (Stored.present_eq_false.1 history)

/-! ## No submission beside the daemon -/

/-- Looking at the queue and reading a running file. -/
def Op.watched : Op → Bool
  | .exists .queue | .read (.running _) => true
  | _ => false

/-- Jobs and submissions come one after the other, and looking at the queue or reading a running file
does not fail. -/
def Serial (system : System) : Event → Prop
  | .begin _ | .submit _ _ => system.Idle
  | .act party choice => ∀ op, system.config.asks party = some op →
      op.watched = true → choice.fails = false
  | _ => True

instance (system : System) : ∀ event, Decidable (Serial system event)
  | .begin _ | .submit _ _ => inferInstanceAs (Decidable (_ ∧ _))
  | .act party choice =>
    match asked : system.config.asks party with
    | none => .isTrue (by simp [Serial, asked])
    | some op => decidable_of_iff (op.watched = true → choice.fails = false)
        (by simp [Serial, asked])
  | .finish _ | .crash | .abandon _ | .nature _ => .isTrue trivial

section Solo

variable {setup : Setup} {system next : System}

theorem Serial.fair (serial : Serial system event) (solo : Solo system) :
    FairEvent True system event := by
  cases event with
  | act party choice =>
    intro op asked
    have running : system.config.programs party ≠ none := by
      intro idle
      rw [Config.asks, idle] at asked
      cases asked
    refine ⟨fun _ _ => (solo party running).1, fun _ looks => ?_, fun _ slot reads => ?_⟩
    · exact Choice.fails_eq_false.1 (serial op asked (by rw [looks]; rfl))
    · exact Choice.fails_eq_false.1 (serial op asked (by rw [reads]; rfl))
  | _ => trivial

theorem Serial.inTurn (serial : Serial system event) (opens : event.opens = true) :
    system.Idle := by
  cases event with
  | begin job | submit executionId plan => exact serial
  | _ => cases opens

theorem run_serial {events : List Event} (serial : Along (System.step setup) Serial .initial events)
    (ran : runSystem setup .initial events = some system) : Held True setup system ∧ Solo system :=
  run_induction_along (I := fun system => Held True setup system ∧ Solo system)
    (fun _ _ _ ⟨held, solo⟩ serial stepped =>
      ⟨step_held held (serial.fair solo) stepped, step_solo held.issued solo serial.inTurn stepped⟩)
    ⟨held_initial, fun _ running => absurd rfl running⟩ serial ran

end Solo

/-- **No execution vanishes**: at every moment of a run without concurrent submissions, whatever
crashed or failed before, each execution ever enqueued is queued, reported or set aside, and the search
for a duplicate ends and finds an execution. -/
theorem enqueued_tracked {setup : Setup} {events : List Event} {system : System}
    (serial : Along (System.step setup) Serial .initial events)
    (ran : runSystem setup .initial events = some system) :
    ∀ item ∈ system.world.ledger.enqueued, Tracked system.world item ∧ ∀ party,
      (∃ result after, Ends (perform party) Legible
        (findDuplicateExecution item.actionId item.planDigest) system.world result after) ∧
      ∀ result after, Ends (perform party) Legible
        (findDuplicateExecution item.actionId item.planDigest) system.world result after →
          ∃ existing, result = .ok (some existing) := by
  intro item mem
  have kept := (run_serial serial ran).1.kept
  refine ⟨kept.tracked item mem, fun party => ⟨?_, fun result after ends => ?_⟩⟩
  · exact ends_of_uses answered_looks (looks_findDuplicateExecution ..) system.world
  · exact findDuplicateExecution_found kept mem ends

namespace Sample

/-- The daemon dies while process 7 runs, process 7 ends, and recovery has just begun. -/
def restarted : List Event :=
  submitA ++ drainStarts ++ [.crash, .nature (.exitProcess 7), .begin .recover] ++
    acts .daemon [.names ["A"], .done]

end Sample

theorem enqueued_tracked_restarted : ∃ system,
    runSystem Sample.setup .initial Sample.restarted = some system ∧
    system.world.ledger.enqueued.map (·.executionId) = ["A"] ∧
    ∀ item ∈ system.world.ledger.enqueued, Tracked system.world item ∧ ∀ party,
      (∃ result after, Ends (perform party) Legible
        (findDuplicateExecution item.actionId item.planDigest) system.world result after) ∧
      ∀ result after, Ends (perform party) Legible
        (findDuplicateExecution item.actionId item.planDigest) system.world result after →
          ∃ existing, result = .ok (some existing) := by
  have enqueued : (runSystem Sample.setup .initial Sample.restarted).map
      (·.world.ledger.enqueued.map (·.executionId)) = some ["A"] := by decide +kernel
  obtain ⟨system, ran, one⟩ := map_eq_some_iff.1 enqueued
  exact ⟨system, ran, one, enqueued_tracked (by decide +kernel) ran⟩

end WistAgentd.Exec

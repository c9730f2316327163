/- # Exec.CustodySubmission -- a submission adds one execution and disturbs none

The blocking path: look for a duplicate, write the plan, load the queue, store it with the new item.
Until then nothing is enqueued under the submission's id, so the daemon has no business with its
files. -/
import WistAgentd.Exec.Custody
import WistAgentd.Exec.Duplicates

namespace WistAgentd.Exec
open Telemetry (Path IoError ErrorKind)
open Theory.Interaction
open List
set_option autoImplicit false

variable {strict : Prop} {runDir : Path} {executionId : String}

/-- Nothing was enqueued under this id yet. -/
def Fresh (executionId : String) (s : World) : Prop :=
  ∀ item ∈ s.ledger.enqueued, item.executionId ≠ executionId

/-- A plan on disk for this id is one of the action. -/
def PlanOf (runDir : Path) (executionId actionId : String) (s : World) : Prop :=
  ∀ plan, s.files (.plan (workdirFor runDir executionId)) = .intact plan → plan.actionId = actionId

/-- What was loaded is the queue, unless somebody stored another since. -/
def Current (executionId : String) (queue : ExecutionQueueState) (s : World) : Prop :=
  s.ledger.overtaken (.submission executionId) = false → s.queueItems = queue.items

section Stable

variable {X : World → Prop}

theorem stable_fresh : Standing strict runDir (.submission executionId) (Fresh executionId) := by
  intro s t held steady
  exact ⟨steady.kept held.1, fun item mem same =>
    held.2 item (steady.own executionId rfl item mem same) same⟩

theorem stable_planOf {actionId : String} : Standing strict runDir (.submission executionId) fun s =>
  Fresh executionId s ∧ PlanOf runDir executionId actionId s := by
  intro s t held steady
  refine ⟨steady.kept held.1, (stable_fresh s t ⟨held.1, held.2.1⟩ steady).2, ?_⟩
  rw [PlanOf, steady.ownPlan executionId rfl held.2.1]
  exact held.2.2

theorem stable_current {actionId : String} (queue : ExecutionQueueState) :
    Standing strict runDir (.submission executionId) fun s =>
      (Fresh executionId s ∧ PlanOf runDir executionId actionId s) ∧ Current executionId queue s := by
  intro s t held steady
  obtain ⟨kept, rest⟩ := stable_planOf s t ⟨held.1, held.2.1⟩ steady
  refine ⟨kept, rest, fun unseen => ?_⟩
  obtain ⟨before, same⟩ := steady.unseen unseen
  rw [queueItems_congr same]
  exact held.2.2 before

end Stable

/-! ## What its operations are to the others -/

/-- A step of a submission that leaves the queue alone. -/
theorem guar_submission {s t : World} (kept : Kept strict runDir t)
    (files : ∀ file : File, file.isResult = false → (file ≠ .plan (workdirFor runDir executionId)) →
      t.files file = s.files file)
    (overtaken : ∀ other, other ≠ .submission executionId →
      t.ledger.overtaken other = s.ledger.overtaken other)
    (enqueued : t.ledger.enqueued = s.ledger.enqueued) :
    (custody strict runDir (.submission executionId)).guar s t := by
  refine ⟨kept, fun other different => ⟨fun _ => kept, ?_, ?_, ?_, ?_, ?_, ?_⟩⟩
  · rw [overtaken other different]
    exact fun unseen => ⟨unseen, files .queue rfl (by simp)⟩
  · rw [enqueued]
    exact fun _ => id
  · rw [enqueued]
    exact fun _ _ _ mem _ => mem
  · rintro id rfl _
    refine files _ rfl ?_
    simp only [ne_eq, File.plan.injEq]
    exact fun same => different (congrArg Party.submission (workdirFor_injective same))
  · intro _ item mem
    rw [queueItems_congr (files .queue rfl (by simp))]
    exact mem
  · intro _ file daemons
    refine files file ?_ ?_
    · cases file <;> first | rfl | cases daemons
    · rintro rfl
      cases daemons

/-- Harmless operations and looks at the queue. -/
def Op.quiet (op : Op) : Prop := op.harmless = true ∨ op = .exists .queue ∨ op = .read .queue

theorem quiet_guar {op : Op} (quiet : op.quiet) {s t : World} (kept : Kept strict runDir s)
    (effect : Effect (.submission executionId) op s t) :
    (custody strict runDir (.submission executionId)).guar s t ∧
      (∀ file : File, file.isResult = false → t.files file = s.files file) ∧
      t.ledger.enqueued = s.ledger.enqueued := by
  rcases quiet with harmless | touches
  · obtain ⟨files, enqueued, overtaken⟩ := harmless_change harmless effect
    exact ⟨guar_submission (kept.congr files enqueued) (fun file notResult _ => files file notResult)
      (fun other _ => congrFun overtaken other) enqueued, files, enqueued⟩
  · rcases effect_look touches effect with rfl | rfl
    · exact ⟨guar_refl kept, fun _ _ => rfl, rfl⟩
    · exact ⟨guar_submission (kept.congr (fun _ _ => rfl) rfl) (fun _ _ _ => rfl)
        (fun other different => Function.update_of_ne different ..) rfl, fun _ _ => rfl, rfl⟩

/-- Knowledge that depends on plans and on what was enqueued only. -/
def Settled (X : World → Prop) : Prop := ∀ s t : World, X s →
  (∀ file : File, file.isResult = false → t.files file = s.files file) →
  t.ledger.enqueued = s.ledger.enqueued → X t

theorem settled_planOf {actionId : String} :
    Settled fun s => Fresh executionId s ∧ PlanOf runDir executionId actionId s := by
  intro s t held files enqueued
  rw [Fresh, PlanOf, enqueued, files (.plan _) rfl]
  exact held

theorem settled_fresh : Settled (Fresh executionId) := by
  intro s t held _ enqueued
  rw [Fresh, enqueued]
  exact held

theorem spec_quiet {X : World → Prop} {α : Type} {prog : App α}
    (quiet : prog.Uses Op.quiet fun _ _ => True) (settled : Settled X)
    (stable : Standing strict runDir (.submission executionId) X) :
    Keeping strict runDir (.submission executionId) X prog (fun _ => X) (fun _ => X) := by
  refine spec_uses stable (fun s op choice answer t held isQuiet _ ran => ?_) quiet
  obtain ⟨guar, files, enqueued⟩ := quiet_guar isQuiet held.1 (perform_effect ran)
  exact ⟨guar, ⟨guar.1, settled s t held.2 files enqueued⟩, fun _ _ => trivial⟩

theorem quiet_of_looks (op : Op) (looks : op.looks = true) : op.quiet := by
  cases op with
  | «exists» file | read file => cases file <;> simp [Op.quiet, Op.harmless]
  | now | list | statFolder => exact .inl rfl
  | _ => cases looks

/-! ## Enqueueing -/

section Enqueue

variable {plan : ActionPlan} {actionId : String}

/-- The submission's knowledge before its item is stored. -/
abbrev Ready (runDir : Path) (executionId actionId : String) (s : World) : Prop :=
  Fresh executionId s ∧ PlanOf runDir executionId actionId s

theorem spec_lookQueue :
    Keeping strict runDir (.submission executionId) (Ready runDir executionId actionId)
      (pathExists .queue) (fun found s => Ready runDir executionId actionId s ∧
      (found = false → Current executionId ⟨"", []⟩ s))
      (fun _ => Ready runDir executionId actionId) := by
  have stable : ∀ found : Bool, Standing strict runDir (.submission executionId) fun s => Ready runDir
    executionId actionId s ∧ (found = false → Current executionId ⟨"", []⟩ s) := by
    intro found s t held steady
    obtain ⟨kept, ready⟩ := stable_planOf s t ⟨held.1, held.2.1⟩ steady
    refine ⟨kept, ready, fun absent => ?_⟩
    exact (stable_current ⟨"", []⟩ s t ⟨held.1, held.2.1, held.2.2 absent⟩ steady).2.2
  refine spec_bind (Q := fun result s => Kept strict runDir s ∧
      Ready runDir executionId actionId s ∧
      ∃ found, result = .ok found ∧ (found = false → Current executionId ⟨"", []⟩ s))
    (spec_attempt ?_) fun result => ?_
  · refine spec_weaken (B := fun found s => Kept strict runDir s ∧
      Ready runDir executionId actionId s ∧ (found = false → Current executionId ⟨"", []⟩ s))
      (F := fun _ _ => False) ?_ (fun _ => id)
      (fun found s held => ⟨held.1, held.2.1, found, rfl, held.2.2⟩) fun _ _ wrong => wrong.elim
    refine spec_request stable_planOf ?_ stable fun _ _ _ wrong => wrong.elim
    rintro s choice answer t ⟨kept, ready⟩ fair ran
    cases answer with
    | ok found =>
      obtain ⟨guar, files, enqueued⟩ := quiet_guar (.inr (.inl rfl)) kept (perform_effect ran)
      obtain ⟨present, rfl⟩ := perform_exists_ok ran
      refine ⟨guar, guar.1, settled_planOf s _ ready files enqueued, fun absent _ => ?_⟩
      rw [present, Stored.present_eq_false] at absent
      exact World.queueItems_missing absent
    | error error =>
      rcases orFail_some ran with ⟨-, failure, failed, -⟩ | ran
      · exact absurd failed (fair.2.1 (by simp) rfl failure)
      · split at ran
        · cases (Prod.mk.inj (Option.some.inj ran)).1
        · cases ran
  · intro s held
    obtain ⟨found, rfl, empty⟩ := held.2.2
    exact spec_pure (stable found) (fun _ => id) s ⟨held.1, held.2.1, empty⟩

theorem spec_loadQueueBlocking :
    Keeping strict runDir (.submission executionId) (Ready runDir executionId actionId)
      loadQueueBlocking (fun queue s => Ready runDir executionId actionId s ∧ Current executionId queue
      s) (fun _ => Ready runDir executionId actionId) := by
  refine spec_bind spec_lookQueue fun found => ?_
  cases found with
  | true =>
    intro s held
    refine spec_request stable_planOf ?_ stable_current (fun _ => stable_planOf) s
      ⟨held.1, held.2.1⟩
    rintro s choice answer t ⟨kept, ready⟩ - ran
    obtain ⟨guar, files, enqueued⟩ := quiet_guar (.inr (.inr rfl)) kept (perform_effect ran)
    have settled := settled_planOf s t ready files enqueued
    cases answer with
    | ok queue =>
      obtain ⟨stored, rfl⟩ := perform_read_ok ran
      exact ⟨guar, guar.1, settled, fun _ => World.queueItems_intact stored⟩
    | error error => exact ⟨guar, guar.1, settled⟩
  | false =>
    intro s held
    have empty := held.2.2 rfl
    exact spec_bind (spec_now (stable_current ⟨"", []⟩) fun _ held => held.1)
      (fun _ => spec_pure (stable_current _) fun _ => id) s ⟨held.1, held.2.1, empty⟩

theorem mem_enqueue {queue : ExecutionQueueState} {item x : ExecutionQueueItem} {now : String} :
    x ∈ (queue.enqueue item now).items ↔ x ∈ queue.items ∨ x = item := by
  have inside : (queue.items.findIdx? fun entry => item.priority < entry.priority).getD
      queue.items.length ≤ queue.items.length := by
    cases found : queue.items.findIdx? fun entry => item.priority < entry.priority with
    | none => exact Nat.le_refl _
    | some index =>
      obtain ⟨bound, -⟩ := List.findIdx?_eq_some_iff_getElem.1 found
      exact Nat.le_of_lt bound
  rw [ExecutionQueueState.enqueue, mem_insertIdx inside, or_comm]

/-- A part of a submission whose failures are not looked at. -/
abbrev Submits (strict : Prop) (runDir : Path) (executionId : String) {α : Type} (P : World → Prop)
    (prog : App α) (Q : α → World → Prop) : Prop :=
  Spec (custody strict runDir (.submission executionId)) (fun s => Kept strict runDir s ∧ P s) prog
    (fun value s => Kept strict runDir s ∧ Q value s) fun _ s => Kept strict runDir s

/-- The execution was enqueued with this digest. -/
def Enqueued (executionId planDigest : String) (s : World) : Prop :=
  ∃ item ∈ s.ledger.enqueued, item.executionId = executionId ∧ item.planDigest = planDigest

theorem stable_enqueued {planDigest : String} :
    Standing strict runDir (.submission executionId) (Enqueued executionId planDigest) := by
  rintro s t ⟨kept, item, mem, same⟩ steady
  exact ⟨steady.kept kept, item, steady.enqueued item mem, same⟩

theorem stable_kept_submission :
    Stable (custody strict runDir (.submission executionId)) (Kept strict runDir) :=
  fun _ _ kept steady => steady.kept kept

/-- The new item is stored by a submission that was not overtaken. -/
theorem store_guar {s : World} {queue : ExecutionQueueState} {item : ExecutionQueueItem}
    (kept : Kept strict runDir s) (own : item.executionId = executionId)
    (fresh : Fresh executionId s) (plan : PlanOf runDir executionId item.actionId s)
    (members : ∀ x, x ∈ queue.items ↔ x ∈ s.queueItems ∨ x = item) :
    (custody strict runDir (.submission executionId)).guar s
        ((s.noteWrite (.submission executionId) .queue queue).put .queue (.intact queue)) ∧
      Enqueued executionId item.planDigest
        ((s.noteWrite (.submission executionId) .queue queue).put .queue (.intact queue)) := by
  subst own
  generalize after : (s.noteWrite (.submission item.executionId) .queue queue).put .queue
    (.intact queue) = t
  have stored : t.files .queue = .intact queue := by rw [← after]; exact World.files_put_self ..
  have other : ∀ file : File, file ≠ .queue → t.files file = s.files file := by
    intro file different
    rw [← after]
    exact World.files_put_ne _ .queue _ different
  have enqueued : ∀ x, x ∈ t.ledger.enqueued ↔ x ∈ s.ledger.enqueued ∨ x = item := by
    intro x
    rw [← after]
    show x ∈ s.ledger.enqueued ++ _ ↔ _
    rw [mem_append, mem_filter, members]
    constructor
    · rintro (old | ⟨queued | rfl, -⟩)
      · exact .inl old
      · exact .inl (kept.queued x queued)
      · exact .inr rfl
    · rintro (old | rfl)
      · exact .inl old
      · by_cases old : x ∈ s.ledger.enqueued
        · exact .inl old
        · exact .inr ⟨.inr rfl, by simpa using old⟩
  have overtaken : ∀ party, party ≠ .submission item.executionId →
      t.ledger.overtaken party = true := by
    intro party different
    rw [← after]
    exact if_neg different
  have keptAfter := kept.grow_queue stored other enqueued members fresh plan
  refine ⟨⟨keptAfter, fun party different => ⟨fun _ => keptAfter, ?_, ?_, ?_, ?_, ?_, ?_⟩⟩,
    item, (enqueued item).2 (.inr rfl), rfl, rfl⟩
  · intro unseen
    rw [overtaken party different] at unseen
    cases unseen
  · exact fun x mem => (enqueued x).2 (.inl mem)
  · rintro id rfl x mem same
    rcases (enqueued x).1 mem with old | rfl
    · exact old
    · exact absurd (congrArg Party.submission same.symm) different
  · exact fun _ _ _ => other _ (by simp)
  · intro _ x mem
    rw [World.queueItems, stored]
    exact (members x).2 (.inl mem)
  · intro _ file daemons
    refine other file ?_
    rintro rfl
    cases daemons

theorem spec_enqueuePlan (executionId planDigest deadlineAt : String) :
    Submits strict runDir executionId (Ready runDir executionId plan.actionId)
      (enqueuePlan plan executionId planDigest deadlineAt)
      (fun _ => Enqueued executionId planDigest) := by
  refine spec_bind (spec_loadQueueBlocking.failing fun _ _ held => held.1) fun queue => ?_
  refine spec_bind (spec_now (stable_current queue) fun _ held => held.1) fun queuedAt => ?_
  refine spec_bind (spec_now (stable_current queue) fun _ held => held.1) fun updatedAt => ?_
  refine spec_request (stable_current queue) ?_ (fun _ => stable_enqueued)
    fun _ => stable_kept_submission
  rintro s choice answer t ⟨kept, ready, current⟩ fair ran
  have unseen := current (fair.1 _ rfl)
  have members : ∀ x, x ∈ (queue.enqueue (queueItem plan executionId planDigest queuedAt deadlineAt)
      updatedAt).items ↔ x ∈ s.queueItems ∨
        x = queueItem plan executionId planDigest queuedAt deadlineAt :=
    fun x => by rw [mem_enqueue, unseen]
  have stored := store_guar kept rfl ready.1 ready.2 members
  cases answer with
  | ok value =>
    rw [perform_write_ok ran]
    exact ⟨stored.1, stored.1.1, stored.2⟩
  | error error =>
    rcases effect_write (perform_effect ran) with rfl | rfl
    · exact ⟨guar_refl kept, kept⟩
    · exact ⟨stored.1, stored.1.1⟩

/-- Writing the plan: nobody else knows this workdir yet. -/
theorem spec_writePlan (plan : ActionPlan) :
    Submits strict runDir executionId (Fresh executionId)
      (ask (.write (.plan (workdirFor runDir executionId)) plan))
      (fun _ => Ready runDir executionId plan.actionId) := by
  have good : ∀ s, Kept strict runDir s → Fresh executionId s →
      (custody strict runDir (.submission executionId)).guar s
        (s.put (.plan (workdirFor runDir executionId)) (.intact plan)) := by
    intro s kept fresh
    refine guar_submission (kept.put ?_) (fun file _ different => s.files_put_ne _ _ different)
      (fun _ _ => rfl) rfl
    intro item mem same
    exact absurd (workdirFor_injective same) (fresh item mem)
  refine spec_request stable_fresh ?_ (fun _ => stable_planOf) fun _ => stable_kept_submission
  rintro s choice answer t ⟨kept, fresh⟩ - ran
  cases answer with
  | ok value =>
    rw [perform_write_ok ran]
    refine ⟨good s kept fresh, (good s kept fresh).1, fresh, fun found stored => ?_⟩
    have same := stored.symm.trans (World.files_put_self ..)
    cases same
    rfl
  | error error =>
    rcases effect_write (perform_effect ran) with rfl | rfl
    · exact ⟨guar_refl kept, kept⟩
    · exact ⟨good s kept fresh, (good s kept fresh).1⟩

theorem spec_removeWorkdir :
    Spec (custody strict runDir (.submission executionId)) (Kept strict runDir)
      (ask (.removeWorkdir (workdirFor runDir executionId))) (fun _ => Kept strict runDir)
      (fun _ => Kept strict runDir) := by
  refine spec_request stable_kept_submission ?_ (fun _ => stable_kept_submission)
    fun _ => stable_kept_submission
  intro s choice answer t kept _ ran
  rcases orFail_some ran with ⟨rfl, -⟩ | ran
  · exact ⟨guar_refl kept, either_of kept answer⟩
  · split at ran
    · rw [← (Prod.mk.inj (Option.some.inj ran)).2]
      have removed : Kept strict runDir
          ((s.put (.plan (workdirFor runDir executionId)) .missing).put
            (.result (workdirFor runDir executionId)) .missing) :=
        @Kept.put strict runDir _ (.result _) .missing
          (@Kept.put strict runDir s (.plan _) .missing kept trivial) trivial
      refine ⟨guar_submission removed ?_ (fun _ _ => rfl) rfl, either_of removed answer⟩
      intro file notResult different
      refine (World.files_put_ne _ _ _ ?_).trans (s.files_put_ne _ _ different)
      rintro rfl
      cases notResult
    · cases ran

/-! ## The whole submission -/

theorem spec_submitLocalPlan (shared : Shared) (executionId : String) :
    Submits strict runDir executionId (Fresh executionId)
      (submitLocalPlan shared { runDir, plan } executionId)
      (fun outcome s => outcome.executionId = executionId ∧
        Enqueued executionId outcome.planDigest s) := by
  have quiet : ∀ {α : Type} {prog : App α}, prog.Uses Op.quiet (fun _ _ => True) →
      Submits strict runDir executionId (Fresh executionId) prog fun _ => Fresh executionId :=
    fun uses => (spec_quiet uses settled_fresh stable_fresh).failing fun _ _ held => held.1
  refine spec_bind (quiet (Prog.uses_call (.inl rfl))) fun deadlineAt => ?_
  refine spec_bind (quiet ((looks_findDuplicateExecution _ _).mono quiet_of_looks)) fun duplicate => ?_
  cases duplicate with
  | some existing => exact spec_throw stable_fresh fun _ held => held.1
  | none =>
    refine spec_bind (quiet (Prog.uses_call (.inl rfl))) fun _ => ?_
    refine spec_bind (spec_writePlan plan) fun _ => ?_
    refine spec_bind (Q := fun result s => Kept strict runDir s ∧ ∀ value, result = .ok value →
      Enqueued executionId (shared.digestPlan plan) s) (spec_attempt ?_) fun result => ?_
    · exact ((spec_enqueuePlan executionId _ deadlineAt).after fun _ s held => ⟨held.1, fun _ _ =>
        held.2⟩).failing fun _ s held => ⟨held, nofun⟩
    · cases result with
      | ok value =>
        intro s held
        exact spec_pure stable_enqueued (fun _ held => ⟨held.1, rfl, held.2⟩) s
          ⟨held.1, held.2 value rfl⟩
      | error error =>
        intro s held
        refine spec_bind (Q := fun _ => Kept strict runDir) (spec_attempt spec_removeWorkdir)
          (fun _ => ?_) s held.1
        exact spec_throw stable_kept_submission fun _ => id

theorem spec_submission {setup : Setup} (here : setup.request.runDir = runDir)
    (executionId : String) (plan : ActionPlan) :
    Submits strict runDir executionId (Fresh executionId) (setup.submission executionId plan)
      (fun result s => ∀ outcome, result = some outcome →
        Enqueued outcome.executionId outcome.planDigest s) := by
  subst here
  refine spec_bind (spec_submitLocalPlan setup.shared executionId) fun outcome => ?_
  intro s ⟨kept, own, enqueued⟩
  refine spec_pure stable_enqueued (fun s held => ⟨held.1, ?_⟩) s ⟨kept, enqueued⟩
  rintro _ ⟨⟩
  rw [own]
  exact held.2

end Enqueue

end WistAgentd.Exec

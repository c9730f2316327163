/- # Exec.CustodyDaemon -- quarantine, drain and recovery keep what was enqueued

The queue is stored in two places. Quarantine stores it right after a history record was written; the
drain stores what it loaded before the execution, less the head, whose report is on disk by then. -/
import WistAgentd.Exec.CustodyPrograms

namespace WistAgentd.Exec
open Telemetry (Path IoError ErrorKind)
open Theory.Interaction
open List
set_option autoImplicit false

variable {queue : ExecutionQueueState} {quiet : Bool}

variable {strict : Prop} {runDir : Path} {slot : String} {whole : Bool} {G X : World → Prop}

/-! ## Looking at the queue -/

theorem look_good {op : Op} (touches : op = .exists .queue ∨ op = .read .queue) {s t : World}
    (kept : Kept strict runDir s) (effect : Effect .daemon op s t) :
    (custody strict runDir .daemon).guar s t ∧ Soft false whole slot s t := by
  rcases effect_look touches effect with rfl | rfl
  · exact unchanged_good kept
  · refine ⟨guar_daemon (kept.congr (fun _ _ => rfl) rfl) rfl (fun other different => ?_) rfl
      fun _ _ => rfl, ?_⟩
    · exact Function.update_of_ne different ..
    · exact ⟨fun _ => id, fun _ => id, fun _ aside => aside, fun _ _ => rfl,
        nofun, fun _ _ => ⟨rfl, rfl⟩⟩

theorem tame_look {op : Op} (touches : op = .exists .queue ∨ op = .read .queue)
    (lasting : Lasting false whole slot G) : Tame strict runDir false whole slot G (ask op) :=
  tame_ask lasting fun _ _ _ kept _ _ effect => look_good touches kept effect

/-- What was loaded is still queued, and it is all there is unless somebody stored the queue. -/
structure Loaded (queue : ExecutionQueueState) (s : World) : Prop where
  within : ∀ item ∈ queue.items, item ∈ s.queueItems
  whole : s.ledger.overtaken .daemon = false → s.queueItems = queue.items

theorem lasting_loaded (queue : ExecutionQueueState) : Lasting true whole slot (Loaded queue) := by
  intro s t held soft
  refine ⟨fun item mem => soft.queue item (held.within item mem), fun unseen => ?_⟩
  obtain ⟨before, same⟩ := soft.unseen rfl unseen
  rw [queueItems_congr same]
  exact held.whole before

theorem loaded_of_eq {s : World} (same : s.queueItems = queue.items) :
    Loaded queue s :=
  ⟨fun _ mem => same ▸ mem, fun _ => same⟩

/-- Looking at the queue, with what the answer says. -/
theorem spec_look {op : Op} {F : op.Ans → World → Prop}
    (touches : op = .exists .queue ∨ op = .read .queue)
    (lasting : Lasting false whole slot X) (facts : ∀ value, Lasting true whole slot (F value))
    (fact : ∀ s choice value t, Kept strict runDir s → X s →
      perform .daemon op choice s = some (.ok value, t) → F value t) :
    Keeping strict runDir .daemon X (ask op) (fun value s => F value s ∧ X s) (fun _ => X) := by
  refine spec_request lasting.stable ?_ ?_ fun _ => lasting.stable
  · rintro s choice answer t ⟨kept, more⟩ - ran
    obtain ⟨guar, soft⟩ := @look_good strict runDir slot whole op touches s t kept
      (perform_effect ran)
    refine ⟨guar, ?_⟩
    cases answer with
    | ok value =>
      exact ⟨guar.1, fact s choice value t kept more ran, lasting s t more soft⟩
    | error error => exact ⟨guar.1, lasting s t more soft⟩
  · intro value s t held steady
    exact ⟨steady.kept held.1, facts value s t held.2.1 steady.soft,
      lasting s t held.2.2 steady.soft⟩

theorem spec_loadQueue (lasting : Lasting false whole slot X) :
    Keeping strict runDir .daemon X loadQueueOrDefault (fun queue s => Loaded queue s ∧ X s)
      (fun _ => X) := by
  have missing : ∀ found : Bool, Lasting true whole slot fun s : World =>
      found = false → s.ledger.overtaken .daemon = false → s.queueItems = [] := by
    intro found s t held soft absent unseen
    obtain ⟨before, same⟩ := soft.unseen rfl unseen
    rw [queueItems_congr same]
    exact held absent before
  refine spec_bind (spec_look (.inl rfl) lasting missing ?_) fun found => ?_
  · intro s choice found t _ _ ran absent _
    obtain ⟨present, rfl⟩ := perform_exists_ok ran
    rw [present, Stored.present_eq_false] at absent
    exact World.queueItems_missing absent
  · cases found with
    | true =>
      refine (spec_look (.inr rfl) lasting lasting_loaded ?_).before
        (fun _ held => ⟨held.1, held.2.2⟩)
      intro s choice queue t _ _ ran
      obtain ⟨stored, rfl⟩ := perform_read_ok ran
      exact loaded_of_eq (World.queueItems_intact stored)
    | false =>
      have stable : Standing strict runDir .daemon fun s =>
        (false = false → s.ledger.overtaken .daemon = false → s.queueItems = []) ∧ X s :=
        fun s t held steady => ⟨steady.kept held.1, missing false s t held.2.1 steady.soft,
          lasting s t held.2.2 steady.soft⟩
      refine spec_bind (spec_now stable fun _ held => held.1) fun now => ?_
      exact spec_pure stable fun s held =>
        ⟨held.1, ⟨fun _ mem => (by cases mem), held.2.1 rfl⟩, held.2.2⟩

/-! ## Storing the queue -/

/-- A shorter queue is stored by the daemon. -/
theorem spec_storeQueue {P Q : World → Prop} (stableP : Stable (custody strict runDir .daemon) P)
    (stableQ : Stable (custody strict runDir .daemon) Q) (kept : ∀ s, P s → Kept strict runDir s)
    (shorter : ∀ s, P s → s.ledger.overtaken .daemon = false →
      (∀ item ∈ queue.items, item ∈ s.queueItems) ∧
      ∀ item ∈ s.queueItems, item ∈ queue.items ∨ SetAside s item.executionId ∨
        Reported s item.executionId ∧ s.files (.running item.executionId) = .missing)
    (after : ∀ s t, P s → Kept strict runDir t →
      (∀ file : File, file.isDaemons = true → t.files file = s.files file) → Q t) :
    Spec (custody strict runDir .daemon) P (storeQueue queue) (fun _ => Q) (fun _ => Q) := by
  have stored : ∀ s, P s → s.ledger.overtaken .daemon = false →
      (custody strict runDir .daemon).guar s
        ((s.noteWrite .daemon .queue queue).put .queue (.intact queue)) := by
    intro s held unseen
    obtain ⟨sub, left⟩ := shorter s held unseen
    have kept := kept s held
    have other : ∀ file : File, file ≠ .queue →
        ((s.noteWrite .daemon .queue queue).put .queue (.intact queue)).files file = s.files file :=
      fun file different => World.files_put_ne _ .queue _ different
    have enqueued : ((s.noteWrite .daemon .queue queue).put .queue (.intact queue)).ledger.enqueued =
        s.ledger.enqueued := by
      show s.ledger.enqueued ++ _ = s.ledger.enqueued
      rw [filter_eq_nil_iff.2, append_nil]
      intro item mem
      have known := kept.queued item (sub item mem)
      simpa using known
    have keptAfter : Kept strict runDir
        ((s.noteWrite .daemon .queue queue).put .queue (.intact queue)) :=
      kept.shrink_queue (World.files_put_self ..) other enqueued sub left
    refine ⟨keptAfter, fun party different => ⟨fun _ => keptAfter, ?_, ?_, ?_, ?_, ?_, ?_⟩⟩
    · intro unseen
      exact absurd unseen (by simp [World.noteWrite, different])
    · rw [enqueued]
      exact fun _ => id
    · rw [enqueued]
      exact fun _ _ _ mem _ => mem
    · exact fun _ _ _ => other _ (by simp)
    · exact fun who => absurd who different
    · exact fun who => absurd who different
  refine spec_request stableP ?_ (fun _ => stableQ) fun _ => stableQ
  intro s choice answer t held fair ran
  rcases effect_write (perform_effect ran) with rfl | rfl
  · exact ⟨guar_refl (kept _ held), either_of (after _ _ held (kept _ held) fun _ _ => rfl) answer⟩
  · have guar := stored s held (fair.1 queue rfl)
    refine ⟨guar, either_of (after s _ held guar.1 fun file daemons => ?_) answer⟩
    refine World.files_put_ne _ .queue _ ?_
    rintro rfl
    cases daemons

/-! ## Quarantine -/

theorem Tame.spec {α : Type} {prog : App α}
    (tame : Tame strict runDir quiet whole slot (fun _ => True) prog)
    (lasting : Lasting quiet whole slot X) :
    Keeping strict runDir .daemon X prog (fun _ => X) (fun _ => X) :=
  spec_weaken (tame X lasting) (fun _ held => ⟨held.1, trivial, held.2⟩)
    (fun _ _ held => ⟨held.1, held.2.2⟩) fun _ _ held => ⟨held.1, held.2.2⟩

/-- Knowledge about running files other than `running/<slot>.json`. -/
def Loose (slot : String) (X : World → Prop) : Prop :=
  ∀ s t, X s → (∀ other, other ≠ slot → t.files (.running other) = s.files (.running other)) → X t

theorem Loose.lasting (loose : Loose slot X) : Lasting quiet whole slot X :=
  fun s t held soft => loose s t held soft.running

theorem Loose.daemons (loose : Loose slot X) {s t : World} (held : X s)
    (same : ∀ file : File, file.isDaemons = true → t.files file = s.files file) : X t :=
  loose s t held fun other _ => same (.running other) rfl

theorem lasting_aside (executionId : String) :
    Lasting quiet whole slot fun s => SetAside s executionId :=
  fun _ _ held soft => soft.aside executionId held

theorem mem_remove {executionId now : String} {item : ExecutionQueueItem} :
    item ∈ (queue.remove executionId now).items ↔
      item ∈ queue.items ∧ item.executionId ≠ executionId := by
  simp [ExecutionQueueState.remove]

theorem spec_removeQueuedExecution (loose : Loose slot X) (executionId : String) :
    Keeping strict runDir .daemon (fun s => SetAside s executionId ∧ X s)
      (removeQueuedExecution executionId) (fun _ => X) (fun _ => X) := by
  have lasting : ∀ {quiet : Bool}, Lasting quiet true slot fun s => SetAside s executionId ∧ X s :=
    (lasting_aside executionId).and loose.lasting
  have done : Standing strict runDir .daemon X :=
    (loose.lasting : Lasting true true slot X).stable
  have weaker : ∀ s, Kept strict runDir s ∧ SetAside s executionId ∧ X s →
      Kept strict runDir s ∧ X s := fun _ held => ⟨held.1, held.2.2⟩
  refine spec_bind (Q := fun _ s => Kept strict runDir s ∧ SetAside s executionId ∧ X s)
    (((tame_look (.inl rfl) lasting_true).spec lasting).failing fun _ => weaker) fun found => ?_
  split
  · refine spec_bind ((spec_loadQueue lasting).failing fun _ => weaker) fun queue => ?_
    have stable : Standing strict runDir .daemon fun s => Loaded queue s ∧ SetAside s executionId ∧ X
      s :=
      ((lasting_loaded queue).and lasting).stable
    refine spec_bind (spec_now stable fun _ held => held.1) fun now => ?_
    dsimp only
    split
    · exact spec_pure stable fun s held => ⟨held.1, held.2.2.2⟩
    · refine spec_storeQueue stable done (fun _ held => held.1) ?_
        fun s t held kept same => ⟨kept, loose.daemons held.2.2.2 same⟩
      rintro s ⟨kept, loaded, aside, -⟩ unseen
      rw [loaded.whole unseen]
      refine ⟨fun item mem => (mem_remove.1 mem).1, fun item mem => ?_⟩
      by_cases same : item.executionId = executionId
      · rw [same]
        exact .inr (.inl aside)
      · exact .inl (mem_remove.2 ⟨mem, same⟩)
  · exact spec_pure (lasting : Lasting true true slot _).stable weaker

theorem spec_removeRunning (loose : Loose slot X) :
    Keeping strict runDir .daemon X (ask (.remove (.running slot))) (fun _ => X) (fun _ => X) := by
  have stable : Standing strict runDir .daemon X :=
    (loose.lasting : Lasting true true slot X).stable
  have gone : ∀ s, Kept strict runDir s ∧ X s →
      Kept strict runDir (s.put (.running slot) .missing) ∧ X (s.put (.running slot) .missing) :=
    fun s held => ⟨held.1.put trivial, loose _ _ held.2 fun other different =>
      s.files_put_ne (.running slot) _ (by simpa using different)⟩
  exact spec_put (puts_remove _) rfl stable stable stable (fun s held => ⟨held.1, trivial⟩) gone
    fun s held => ⟨held, gone s held⟩

/-- What a quarantine is told of the execution, or finds in the queue. -/
def Named (request : QuarantineRequest) (s : World) : Prop :=
  ∃ actionId planDigest, request.actionId = some actionId ∧ request.planDigest = some planDigest ∧
    Describes s request.executionId actionId planDigest

theorem lasting_named (request : QuarantineRequest) :
    Lasting quiet whole slot fun s => strict → Named request s := by
  intro s t held soft asked
  obtain ⟨actionId, planDigest, action, digest, described⟩ := held asked
  exact ⟨actionId, planDigest, action, digest, described.mono soft.enqueued⟩

/-- A part of the report of a known execution is removed. -/
theorem tame_remove_report {executionId : String} {file : File}
    (part : file = .reporting executionId ∨ file = .envelope executionId)
    (lasting : Lasting false false slot G) (known : ∀ s, G s → Known s executionId) :
    Tame strict runDir false false slot G (ask (.remove file)) := by
  refine tame_ask lasting fun s _ t kept holds _ effect => ?_
  rcases effect_remove effect with rfl | rfl
  · exact unchanged_good kept
  · refine put_good kept ?_ ?_ ?_ nofun
    · rcases part with rfl | rfl <;> exact known s holds
    · rcases part with rfl | rfl <;> simp
    · rcases part with rfl | rfl <;> simp

/-- **Quarantine sets a known execution aside before it leaves the queue.** -/
theorem spec_quarantineExecution {request : QuarantineRequest} (loose : Loose request.slot X) :
    Keeping strict runDir .daemon (fun s => (Known s request.executionId ∧ (strict → Named request s)) ∧
      X s) (quarantineExecution request) (fun _ => X) (fun _ => X) := by
  have facts : Lasting false false request.slot fun s =>
      Known s request.executionId ∧ (strict → Named request s) :=
    (lasting_known _).and (lasting_named request)
  have weaker : ∀ s, Kept strict runDir s ∧
      (Known s request.executionId ∧ (strict → Named request s)) ∧ X s →
      Kept strict runDir s ∧ X s := fun _ held => ⟨held.1, held.2.2⟩
  have both := facts.and loose.lasting
  have lookup : Tame strict runDir false false request.slot (fun _ => True)
      (lookupQueuedExecution request.executionId) := by
    refine tame_bind (tame_look (.inl rfl) lasting_true) fun found => ?_
    split
    · refine tame_bind ?_ fun queue => tame_pure lasting_true _
      refine tame_bind (tame_look (.inl rfl) lasting_true) fun found => ?_
      split
      · exact tame_look (.inr rfl) lasting_true
      · exact tame_bind (tame_harmless rfl lasting_true) (tame_pure lasting_true)
    · exact tame_pure lasting_true _
  refine spec_bind ((lookup.spec both).failing fun _ => weaker) fun queued => ?_
  refine spec_bind (spec_now both.stable fun _ held => held.1) fun now => ?_
  refine spec_bind (Q := fun _ s => Kept strict runDir s ∧
      (Known s request.executionId ∧ (strict → Named request s)) ∧ X s)
    (((tame_bind (tame_remove_report (.inl rfl) facts fun _ held => held.1) fun _ => tame_remove_report
      (.inr rfl) facts fun _ held => held.1) X loose.lasting).failing fun _ => weaker) fun _ => ?_
  refine spec_bind (Q := fun _ s => Kept strict runDir s ∧ SetAside s request.executionId ∧ X s) ?_
    fun _ => spec_bind (spec_removeQueuedExecution loose _) fun _ => ?_
  · have admits : ∀ s, Kept strict runDir s ∧
        (Known s request.executionId ∧ (strict → Named request s)) ∧ X s →
        Kept strict runDir s ∧ Admits strict runDir s (.history request.executionId)
          (.intact (historyRecord request queued now)) := by
      rintro s ⟨kept, ⟨-, named⟩, -⟩
      refine ⟨kept, fun asked => ?_⟩
      obtain ⟨actionId, planDigest, action, digest, described⟩ := named asked
      refine ⟨actionId, planDigest, ?_, ?_, described⟩
      · simp [historyRecord, ExecutionHistoryRecord.quarantined, action]
      · simp [historyRecord, ExecutionHistoryRecord.quarantined, digest]
    have others : ∀ s, X s →
        X (s.put (.history request.executionId) (.intact (historyRecord request queued now))) :=
      fun s held => loose _ _ held fun other _ => s.files_put_ne (.history _) _ (by simp)
    refine spec_put (puts_write rfl _) rfl both.stable ?_
      (loose.lasting : Lasting true true request.slot X).stable
      admits ?_ ?_
    · exact ((lasting_aside _).and loose.lasting : Lasting true true request.slot _).stable
    · rintro s held
      refine ⟨(admits s held).1.put (admits s held).2, ?_, others s held.2.2⟩
      simp [SetAside, World.files_put_self]
    · exact fun s held => ⟨weaker s held, (admits s held).1.put (admits s held).2,
        others s held.2.2⟩
  · exact spec_removeRunning loose

/-! ## The head of the queue -/

section Head

variable {shared : Shared} {request : DrainRequest} {item : ExecutionQueueItem}

/-- The daemon's knowledge about the queue lasts whichever running file changes. -/
abbrev Anywhere (X : World → Prop) : Prop := ∀ slot, Lasting true false slot X

theorem loose_true : Loose slot fun _ => True := fun _ _ _ _ => trivial

theorem stable_kept : Stable (custody strict runDir .daemon) fun s => Kept strict runDir s :=
  fun _ _ held steady => steady.kept held

theorem spec_quarantineQueueHead (reason : String) :
    Spec (custody strict runDir .daemon) (fun s => Kept strict runDir s ∧ Queued item s)
      (quarantineQueueHead item reason)
      (fun _ s => Kept strict runDir s) (fun _ s => Kept strict runDir s) := by
  refine spec_weaken (spec_quarantineExecution (X := fun _ => True) loose_true) ?_
    (fun _ _ held => held.1) fun _ _ held => held.1
  rintro s ⟨kept, queued⟩
  exact ⟨kept, ⟨queued_known kept queued, fun _ =>
    ⟨item.actionId, item.planDigest, rfl, rfl, queued_describes kept queued⟩⟩, trivial⟩

/-- What a disposition leaves behind. -/
def Handled (item : ExecutionQueueItem) (X : World → Prop) :
    QueueHeadDisposition → World → Prop
  | .completed _, s =>
    (Reported s item.executionId ∧ s.files (.running item.executionId) = .missing) ∧ X s
  | _, _ => True

/-- The head was dealt with, or has no running file. -/
def Disposed (item : ExecutionQueueItem) (X : World → Prop) :
    Option QueueHeadDisposition → World → Prop
  | none, s => Queued item s ∧ X s
  | some disposition, s => Handled item X disposition s

theorem stable_handled (lasting : Anywhere X) (disposition : QueueHeadDisposition) :
    Standing strict runDir .daemon (Handled item X disposition) := by
  cases disposition with
  | completed outcome =>
    refine stable_beside (fun s t held same => ?_) (lasting "")
    rw [Reported, same (.reporting _) rfl, same (.envelope _) rfl, same (.running _) rfl]
    exact held
  | blocked | reloadQueue => exact fun s t held steady => ⟨steady.kept held.1, trivial⟩

theorem spec_loadQueueHeadContext (here : request.runDir = runDir) (lasting : Anywhere X) :
    Settles strict runDir (fun s => Queued item s ∧ X s) (loadQueueHeadContext request item)
      (fun head s => ∀ context, head = some context → context.plan.actionId = item.actionId ∧ Queued
      item s ∧ X s) := by
  subst here
  have read : Yields strict request.runDir true false "" (Queued item)
      (fun plan _ => plan.actionId = item.actionId)
      (ask (.read (.plan (workdirFor request.runDir item.executionId)))) := by
    refine yields_harmless rfl (lasting_queued item) (fun _ => lasting_fact _) ?_
    intro s choice plan t kept queued ran
    exact kept.plans item (kept.queued item queued) plan (perform_read_ok ran).1
  refine spec_bind ((yields_attempt read X (lasting "")).failing fun _ _ held => held.1) fun plan => ?_
  cases plan with
  | ok plan =>
    have stable : Stable (custody strict request.runDir .daemon) fun s =>
        Kept strict request.runDir s ∧ ((∀ value, (Except.ok plan : Except RuntimeError _) =
          .ok value → value.actionId = item.actionId) ∧ Queued item s) ∧ X s :=
      (((lasting_fact _).and (lasting_queued item)).and (lasting "")).stable
    refine spec_pure stable fun s held => ⟨held.1, ?_⟩
    rintro _ ⟨⟩
    exact ⟨held.2.1.1 plan rfl, held.2.1.2, held.2.2⟩
  | error error =>
    refine spec_bind ((spec_quarantineQueueHead _).before fun _ held => ⟨held.1, held.2.1.2⟩) fun _ =>
      ?_
    exact spec_pure stable_kept fun s kept => ⟨kept, nofun⟩

/-- A report for the head, while it is queued. -/
theorem spec_headReport {α : Type} {prog : App α} {id : String}
    (yields : ∀ G : World → Prop, Lasting true false slot G →
      (∀ s, G s → Describes s item.executionId item.actionId item.planDigest) →
      Yields strict runDir true false slot G (fun _ s => Reported s id) prog)
    (lasting : Lasting true false slot X) :
    Keeping strict runDir .daemon (fun s => Queued item s ∧ X s) prog
      (fun _ s => Reported s id ∧ Queued item s ∧ X s) (fun _ s => Queued item s ∧ X s) := by
  have both : Lasting true false slot fun s => Queued item s ∧ X s :=
    (lasting_queued item).and lasting
  refine spec_weaken (yields _ (lasting_described _ _ _) (fun _ held => held) _ both) ?_
    (fun _ _ held => ⟨held.1, held.2.1.1, held.2.2⟩) fun _ _ held => ⟨held.1, held.2.2⟩
  exact fun s held => ⟨held.1, queued_describes held.1 held.2.1, held.2⟩

theorem stable_reported {id : String} (lasting : Lasting true false slot X) :
    Standing strict runDir .daemon fun s => Reported s id ∧ Queued item s ∧ X s := by
  refine stable_beside (fun s t held same => ?_) ((lasting_queued item).and lasting)
  rw [Reported, same (.reporting _) rfl, same (.envelope _) rfl]
  exact held

/-- **What reconciles as completed has its report on disk.** -/
theorem spec_reconcileCompleted (head : QueueHeadContext) (lasting : Lasting true false slot X) :
    Keeping strict runDir .daemon (fun s => Queued item s ∧ X s)
      (reconcileCompletedExecution shared request item head)
      (fun outcome s => (outcome.isSome = true → Reported s item.executionId) ∧ Queued item s ∧ X s)
      (fun _ s => Queued item s ∧ X s) := by
  have both : Lasting true false slot fun s => Queued item s ∧ X s :=
    (lasting_queued item).and lasting
  refine spec_bind (Q := fun prepared s => Kept strict runDir s ∧
      (prepared.isSome = true → Reported s item.executionId) ∧ Queued item s ∧ X s) ?_
    fun prepared => ?_
  · refine spec_bind (((yields_inspectLocalReport lasting_true _ _ _ both.ofWhole).before fun _ held =>
      ⟨held.1, trivial, held.2⟩).failing fun _ _ held => ⟨held.1, held.2.2⟩) fun inspection => ?_
    have stable : Standing strict runDir .daemon fun s =>
      (Inspected item.executionId inspection s ∧ True) ∧ Queued item s ∧ X s :=
      (((lasting_inspected _ _).and lasting_true).and both.ofWhole).stable
    cases inspection with
    | ready report =>
      refine spec_pure stable fun s held => ⟨held.1, fun _ => ⟨?_, ?_⟩, held.2.2⟩
      · rw [held.2.1.1.1]
        exact nofun
      · rw [held.2.1.1.2]
        exact nofun
    | missingState | corruptState | missingEnvelope | corruptEnvelope =>
      exact spec_pure stable fun s held => ⟨held.1, nofun, held.2.2⟩
  · cases prepared with
    | some report =>
      intro s held
      exact spec_pure (stable_reported lasting) (fun s held => ⟨held.1, fun _ => held.2.1, held.2.2⟩)
        s ⟨held.1, held.2.1 rfl, held.2.2⟩
    | none =>
      intro s held
      refine spec_bind ((calm_ask rfl).loosen.spec both) (fun found => ?_) s ⟨held.1, held.2.2⟩
      split
      · refine spec_bind ((calm_ask rfl).loosen.spec both) fun result => ?_
        refine spec_bind (spec_headReport (fun G held described =>
          yields_ensureLocalReport held described) lasting) fun prepared => ?_
        exact spec_pure (stable_reported lasting) fun s held => ⟨held.1, fun _ => held.2.1, held.2.2⟩
      · exact spec_pure both.stable fun s held => ⟨held.1, nofun, held.2⟩

/-- The running file of a reported head goes. -/
theorem spec_forgetRunning (lasting : Anywhere X) (outcome : DrainOutcome) :
    Settles strict runDir (fun s => Reported s item.executionId ∧ Queued item s ∧ X s)
      (do ask (.remove (.running item.executionId)); pure (.completed outcome)) (Handled item X) := by
  refine spec_bind (Q := fun _ s => Kept strict runDir s ∧
      Handled item X (.completed outcome) s) ?_ fun _ => spec_pure (stable_handled lasting _)
    fun _ => id
  refine spec_put (puts_remove _) rfl (stable_reported (lasting ""))
    (stable_handled lasting (.completed outcome)) stable_kept (fun s held => ⟨held.1, trivial⟩) ?_
    fun s held => ⟨held.1, held.1.put trivial⟩
  rintro s ⟨kept, reported, -, more⟩
  refine ⟨kept.put trivial, ⟨?_, World.files_put_self ..⟩, ?_⟩
  · rw [Reported, s.files_put_ne (.running item.executionId) _ (by simp),
      s.files_put_ne (.running item.executionId) _ (by simp)]
    exact reported
  · have admits : Admits strict runDir s (.running item.executionId) .missing := trivial
    refine lasting item.executionId _ _ more (put_good kept admits ?_ ?_ ?_).2
    · exact fun _ _ => by simp
    · exact fun other different => by simpa using different.symm
    · exact fun _ _ => by simp

theorem spec_settleQueueHead (lasting : Anywhere X) (head : QueueHeadContext)
    (state : RunningExecutionState) :
    Settles strict runDir (fun s => Queued item s ∧ X s)
      (settleQueueHead shared request item head state) (Handled item X) := by
  have both : Lasting true false "" fun s => Queued item s ∧ X s :=
    (lasting_queued item).and (lasting "")
  refine spec_bind ((spec_reconcileCompleted head (lasting "")).failing fun _ _ held => held.1)
    fun outcome => ?_
  cases outcome with
  | some outcome =>
    intro s held
    exact spec_forgetRunning lasting outcome s ⟨held.1, held.2.1 rfl, held.2.2⟩
  | none =>
    intro s held
    have recovered : Settles strict runDir (fun s => Queued item s ∧ X s)
      (recoverStaleExecution shared request item head state)
      (fun _ s => Reported s item.executionId ∧ Queued item s ∧ X s) := by
      have asks : ∀ {op : Op}, op.harmless = true → Settles strict runDir
        (fun s => Queued item s ∧ X s) (ask op) (fun _ s => Queued item s ∧ X s) := fun harmless =>
        ((calm_ask harmless).loosen.spec both).failing fun _ _ held => held.1
      refine spec_bind (asks rfl) fun timestamp => ?_
      refine spec_bind (asks rfl) fun _ => ?_
      refine spec_bind ((spec_headReport (fun G held described => yields_ensureLocalReport held
        described) (lasting "")).failing fun _ _ held => held.1) fun prepared => ?_
      exact spec_pure (stable_reported (lasting "")) fun _ => id
    exact spec_bind recovered (spec_forgetRunning lasting) s ⟨held.1, held.2.2⟩

theorem spec_reconcileQueueHead (lasting : Anywhere X) (head : QueueHeadContext) :
    Settles strict runDir (fun s => Queued item s ∧ X s)
      (reconcileQueueHead shared request item head) (Disposed item X) := by
  have both : Anywhere fun s => Queued item s ∧ X s :=
    fun slot => (lasting_queued item).and (lasting slot)
  have settled (state : RunningExecutionState) : Settles strict runDir (fun s => Queued item s ∧ X s)
      (some <$> settleQueueHead shared request item head state) (Disposed item X) :=
    spec_bind (spec_settleQueueHead lasting head state) fun disposition =>
      spec_pure (stable_handled lasting disposition) fun _ held => held
  -- the file the answer is about does not change while it is missing
  obtain ⟨elsewhere, different⟩ : ∃ name, name ≠ item.executionId := ⟨item.executionId ++ "!", by simp⟩
  have absent : ∀ found : Bool, Lasting true true elsewhere fun s : World =>
      found = false → s.files (.running item.executionId) = .missing := by
    intro found s t held soft gone
    rw [soft.running _ different.symm]
    exact held gone
  have asked : Yields strict runDir true true elsewhere (fun _ => True)
      (fun found s => found = false → s.files (.running item.executionId) = .missing)
      (ask (.exists (.running item.executionId))) := by
    refine yields_harmless rfl lasting_true absent ?_
    intro s choice found t _ _ ran gone
    rw [(perform_exists_ok ran).1, Stored.present_eq_false] at gone
    exact gone
  refine spec_bind (((asked _ (both elsewhere).ofWhole).before fun _ held => ⟨held.1, trivial,
    held.2⟩).failing fun _ _ held => held.1)
    fun found => ?_
  cases found with
  | true =>
    intro s held
    refine spec_bind (Q := fun result s => Kept strict runDir s ∧ Queued item s ∧ X s)
      (((tame_attempt (calm_ask rfl)).loosen.spec (both "")).failing fun _ _ held => held.1)
        (fun result => ?_) s ⟨held.1, held.2.2⟩
    cases result with
    | error error =>
      refine spec_bind ((spec_quarantineQueueHead _).before fun _ held => ⟨held.1, held.2.1⟩)
        fun _ => ?_
      exact spec_pure stable_kept fun _ kept => ⟨kept, trivial⟩
    | ok state =>
      refine spec_bind (Q := fun _ s => Kept strict runDir s ∧ Queued item s ∧ X s)
        (((inspectRunningState_in calm_closed calm_inspects state).loosen.spec (both "")).failing
          fun _ _ held => held.1) fun status => ?_
      cases status with
      | active => exact spec_pure (both "").stable fun _ held => ⟨held.1, trivial⟩
      | inactive => exact settled state
      | expired =>
        refine spec_bind (Q := fun _ s => Kept strict runDir s ∧ Queued item s ∧ X s)
          (((calm_forceStopExpiredProcess state).loosen.spec (both item.executionId)).failing
            fun _ _ held => held.1) ?_
        rintro ⟨stopped, running⟩
        cases running with
        | true => exact spec_pure (both "").stable fun _ held => ⟨held.1, trivial⟩
        | false => exact settled stopped
  | false =>
    have gone : Lasting true false elsewhere fun s : World =>
        s.files (.running item.executionId) = .missing ∧ X s := by
      refine Lasting.and (fun s t held soft => ?_) (lasting elsewhere)
      rw [soft.running _ different.symm]
      exact held
    intro s held
    refine spec_bind ((spec_reconcileCompleted head gone).failing fun _ _ held => held.1)
      (fun outcome => ?_) s
      ⟨held.1, held.2.2.1, held.2.1.1 rfl, held.2.2.2⟩
    cases outcome with
    | some outcome =>
      intro s held
      exact spec_pure (stable_handled lasting (.completed outcome)) (fun _ held => held) s
        ⟨held.1, ⟨held.2.1 rfl, held.2.2.2.1⟩, held.2.2.2.2⟩
    | none =>
      intro s held
      exact spec_pure (both "").stable (fun _ held => held) s ⟨held.1, held.2.2.1, held.2.2.2.2⟩

theorem spec_executeQueueHead (here : request.runDir = runDir) (lasting : Anywhere X)
    (head : QueueHeadContext) (action : head.plan.actionId = item.actionId) :
    Settles strict runDir (fun s => Queued item s ∧ X s) (executeQueueHead shared request item head)
      (Handled item X) := by
  have reload : ∀ {reason : String} {P : World → Prop},
      (∀ s, P s → Kept strict runDir s ∧ Queued item s) →
      Spec (custody strict runDir .daemon) P
        (do quarantineQueueHead item reason; pure QueueHeadDisposition.reloadQueue)
        (fun disposition s => Kept strict runDir s ∧ Handled item X disposition s)
        (fun _ s => Kept strict runDir s) := by
    intro reason P queued
    refine spec_bind ((spec_quarantineQueueHead reason).before queued) fun _ => ?_
    exact spec_pure stable_kept fun _ kept => ⟨kept, trivial⟩
  refine spec_bind (Q := fun _ s => Kept strict runDir s ∧ Queued item s ∧ X s)
    (((tame_attempt (tame_executeLocal here action)).loosen _ (lasting item.executionId)).failing
      fun _ _ held => held.1) fun outcome => ?_
  cases outcome with
  | error error => exact reload fun _ held => ⟨held.1, held.2.1⟩
  | ok outcome =>
    refine spec_bind (Q := fun prepared s => Kept strict runDir s ∧
      (∀ report, prepared = .ok report → Reported s item.executionId) ∧ Queued item s ∧ X s) ?_
      fun prepared => ?_
    · refine spec_attempt (((spec_headReport (fun G held described => yields_prepareLocalReport held
        described .newReport) (lasting "")).after ?_).failing ?_)
      · rintro report s ⟨kept, reported, rest⟩
        exact ⟨kept, fun _ _ => reported, rest⟩
      · rintro error s ⟨kept, rest⟩
        exact ⟨kept, fun _ wrong => (by cases wrong), rest⟩
    · cases prepared with
      | error error => exact reload fun _ held => ⟨held.1, held.2.2.1⟩
      | ok prepared =>
        intro s held
        exact spec_forgetRunning lasting _ s ⟨held.1, held.2.1 prepared rfl, held.2.2⟩

/-- **Handling the head: completed means reported and not running any more.** -/
theorem spec_handleQueueHead (here : request.runDir = runDir) (lasting : Anywhere X) :
    Settles strict runDir (fun s => Queued item s ∧ X s) (handleQueueHead shared request item)
      (Handled item X) := by
  refine spec_bind (spec_loadQueueHeadContext here lasting) fun head => ?_
  cases head with
  | none =>
    intro s held
    exact spec_pure stable_kept (fun _ kept => ⟨kept, trivial⟩) s held.1
  | some head =>
    intro s held
    obtain ⟨action, rest⟩ := held.2 head rfl
    refine spec_bind (spec_reconcileQueueHead lasting head) (fun disposition => ?_) s ⟨held.1, rest⟩
    cases disposition with
    | some disposition => exact spec_pure (stable_handled lasting disposition) fun _ => id
    | none => exact spec_executeQueueHead here lasting head action

theorem spec_drainLoop (here : request.runDir = runDir) (fuel : Nat) :
    ∀ queue, Spec (custody strict runDir .daemon) (fun s => Kept strict runDir s ∧ Loaded queue s)
      (drainLoop shared request fuel queue)
      (fun _ s => Kept strict runDir s) (fun _ s => Kept strict runDir s) := by
  have loaded : ∀ queue, Standing strict runDir .daemon (Loaded queue) :=
    fun queue => (lasting_loaded queue : Lasting true true "" _).stable
  induction fuel with
  | zero => exact fun queue => spec_throw (loaded queue) fun _ held => held.1
  | succ fuel ih =>
    intro queue
    unfold drainLoop
    split
    · exact spec_pure (loaded queue) fun _ held => held.1
    · rename_i item first
      have mem : item ∈ queue.items := mem_of_head? first
      intro s held
      refine spec_bind (spec_handleQueueHead here fun slot => lasting_loaded queue)
        (fun disposition => ?_) s ⟨held.1, held.2.within item mem, held.2⟩
      cases disposition with
      | blocked =>
        exact spec_pure (stable_handled (fun _ => lasting_loaded queue) _) fun _ held => held.1
      | reloadQueue =>
        intro s held
        refine spec_bind (Q := fun queue s => Kept strict runDir s ∧ Loaded queue s)
          (((spec_loadQueue (X := fun _ => True) (lasting_true : Lasting false true "" _)).after
            fun _ _ held => ⟨held.1, held.2.1⟩).failing fun _ _ held => held.1) ih s ⟨held.1, trivial⟩
      | completed outcome =>
        have handled : Standing strict runDir .daemon (Handled item (Loaded queue)
          (.completed outcome)) :=
          stable_handled (fun _ => lasting_loaded queue) (.completed outcome)
        refine spec_bind (spec_now handled fun _ held => held.1) fun now => ?_
        refine spec_bind (spec_storeQueue handled stable_kept (fun _ held => held.1) ?_
          fun _ _ _ kept _ => kept) fun _ => spec_pure stable_kept fun _ => id
        rintro s ⟨-, ⟨reported, gone⟩, loaded⟩ unseen
        rw [loaded.whole unseen]
        refine ⟨fun other found => (mem_remove.1 found).1, fun other found => ?_⟩
        by_cases same : other.executionId = item.executionId
        · rw [same]
          exact .inr (.inr ⟨reported, gone⟩)
        · exact .inl (mem_remove.2 ⟨found, same⟩)

end Head

/-! ## Recovery -/

section Recovery

variable {shared : Shared} {request : RecoveryRequest} {state : RunningExecutionState}

theorem spec_quarantineRunning (loose : Loose slot X) (detail : String) :
    Keeping strict runDir .daemon (fun s => OfExecution slot state s ∧ X s)
      (quarantineExecution (.runningState state detail slot)) (fun _ => X) (fun _ => X) := by
  intro s held
  obtain ⟨kept, ⟨own, described, known⟩, more⟩ := held
  refine spec_quarantineExecution loose s ⟨kept, ⟨?_, fun _ => ?_⟩, more⟩
  · show Known s state.executionId
    rw [own]
    exact known
  · refine ⟨state.actionId, state.planDigest, rfl, rfl, ?_⟩
    show Describes s state.executionId state.actionId state.planDigest
    rw [own]
    exact described

theorem spec_reportRecovered (loose : Loose slot X) (plan : ActionPlan) (result : ActionResult) :
    Keeping strict runDir .daemon (fun s => OfExecution slot state s ∧ X s)
      (reportRecovered shared request slot state plan result) (fun _ => X) (fun _ => X) := by
  have described : ∀ s, OfExecution slot state s →
      Describes s (runningReport request state plan result).executionId
        (runningReport request state plan result).actionId
        (runningReport request state plan result).planDigest := by
    rintro s ⟨own, described, -⟩
    show Describes s state.executionId state.actionId state.planDigest
    rw [own]
    exact described
  refine spec_bind (Q := fun _ s => Kept strict runDir s ∧ OfExecution slot state s ∧ X s)
    (spec_attempt ((yields_ensureLocalReport (lasting_ofExecution state) described X
      loose.lasting).after fun _ _ held => ⟨held.1, held.2.1.2, held.2.2⟩)) fun report => ?_
  cases report with
  | error error => exact spec_quarantineRunning loose _
  | ok report =>
    intro s held
    exact spec_removeRunning loose s ⟨held.1, held.2.2⟩

theorem calm_executionIsStillRunning :
    Calm strict runDir slot (executionIsStillRunning state slot) :=
  executionIsStillRunning_in calm_closed calm_inspects state calm_recordSignalRequest

theorem spec_recoverWithoutResult (loose : Loose slot X) (plan : ActionPlan) :
    Keeping strict runDir .daemon (fun s => OfExecution slot state s ∧ X s)
      (recoverWithoutResult shared request slot state plan) (fun _ => X) (fun _ => X) := by
  have calm : Calm strict runDir slot (executionIsStillRunning state slot) :=
    calm_executionIsStillRunning
  have still := calm.yields (returns_executionIsStillRunning state slot)
  have both : ∀ state : RunningExecutionState,
      Lasting true true slot fun s => OfExecution slot state s ∧ X s :=
    fun state => (lasting_ofExecution state).and loose.lasting
  refine spec_bind (Q := fun stopped s =>
      Kept strict runDir s ∧ OfExecution slot stopped.1 s ∧ X s)
    (spec_weaken (still _ (both state)) (fun _ held => ⟨held.1, trivial, held.2⟩)
      (fun stopped s held => ⟨held.1, held.2.1.1.ofExecution held.2.2.1, held.2.2.2⟩)
      fun _ _ held => ⟨held.1, held.2.2.2⟩) ?_
  rintro ⟨stopped, running⟩
  cases running with
  | true => exact spec_pure (both stopped).stable fun _ held => ⟨held.1, held.2.2⟩
  | false =>
    have asks : ∀ {op : Op}, op.harmless = true → Keeping strict runDir .daemon
      (fun s => OfExecution slot stopped s ∧ X s) (ask op)
      (fun _ s => OfExecution slot stopped s ∧ X s) (fun _ => X) := fun harmless =>
      ((calm_ask harmless).spec (both stopped)).failing fun _ _ held => ⟨held.1, held.2.2⟩
    refine spec_bind (asks rfl) fun timestamp => ?_
    exact spec_bind (asks rfl) fun _ => spec_reportRecovered loose plan _

theorem spec_recoverRunning (loose : Loose slot X) :
    Keeping strict runDir .daemon (fun s => OfExecution slot state s ∧ X s)
      (recoverRunning shared request slot state) (fun _ => X) (fun _ => X) := by
  have both : Lasting true true slot fun s => OfExecution slot state s ∧ X s :=
    (lasting_ofExecution state).and loose.lasting
  have calm : ∀ {α : Type} {prog : App α}, Calm strict runDir slot prog →
      Keeping strict runDir .daemon (fun s => OfExecution slot state s ∧ X s) prog
        (fun _ s => OfExecution slot state s ∧ X s) (fun _ => X) := fun tame =>
    (tame.spec both).failing fun _ _ held => ⟨held.1, held.2.2⟩
  refine spec_bind (calm (tame_attempt (calm_ask rfl))) fun plan => ?_
  cases plan with
  | error error => exact spec_quarantineRunning loose _
  | ok plan =>
    refine spec_bind (calm (calm_ask rfl)) fun found => ?_
    split
    · refine spec_bind (calm (tame_attempt (calm_ask rfl))) fun result => ?_
      cases result with
      | error error => exact spec_quarantineRunning loose _
      | ok result => exact spec_reportRecovered loose plan result
    · exact spec_recoverWithoutResult loose plan

/-- A running file that is there is one of a known execution, or cannot be read for now. -/
theorem spec_readRunning (loose : Loose slot X) :
    Keeping strict runDir .daemon (fun s => s.files (.running slot) ≠ .missing ∧ X s)
      (ask (.read (.running slot))) (fun state s => OfExecution slot state s ∧ X s)
      (fun _ s => (Known s slot ∧ ¬strict) ∧ X s) := by
  have lasting : Lasting true true slot X := loose.lasting
  refine spec_request ?_ ?_ (fun state => ((lasting_ofExecution state).and lasting).stable)
    fun _ => (((lasting_known slot).and (lasting_fact (¬strict))).and lasting).stable
  · refine stable_beside (fun s t held same => ?_) lasting
    rw [same (.running slot) rfl]
    exact held
  · rintro s choice answer t ⟨kept, there, more⟩ fair ran
    cases answer with
    | ok state =>
      obtain ⟨stored, rfl⟩ := @perform_read_ok _ .daemon _ _ _ _ ran
      exact ⟨guar_refl kept, kept, kept.running slot state stored, more⟩
    | error error =>
      obtain ⟨rfl, reason⟩ := @perform_read_error _ .daemon _ _ _ _ ran
      refine ⟨guar_refl kept, kept, ⟨?_, ?_⟩, more⟩
      · cases stored : t.files (.running slot) with
        | missing => exact absurd stored there
        | corrupt => exact absurd stored (kept.readable _ rfl)
        | intact state => exact (kept.running slot state stored).2.2
      · intro asked
        rcases reason with ⟨failure, failed⟩ | gone | broken
        · exact fair.2.2 asked slot rfl failure failed
        · exact there gone
        · exact kept.readable _ rfl broken

theorem spec_recoverEntry (loose : Loose slot X) :
    Keeping strict runDir .daemon (fun s => s.files (.running slot) ≠ .missing ∧ X s)
      (recoverEntry shared request slot) (fun _ => X) (fun _ => X) := by
  refine spec_bind (Q := fun result s => Kept strict runDir s ∧
      (match result with
        | .ok state => OfExecution slot state s
        | .error _ => Known s slot ∧ ¬strict) ∧ X s)
    (spec_attempt (spec_readRunning loose)) fun result => ?_
  cases result with
  | ok state => exact spec_recoverRunning loose
  | error error =>
    intro s held
    exact spec_quarantineExecution loose s
      ⟨held.1, ⟨held.2.1.1, fun asked => absurd asked held.2.1.2⟩, held.2.2⟩

theorem spec_recoverIncompleteExecutions :
    Spec (custody strict runDir .daemon) (fun s => Kept strict runDir s)
      (recoverIncompleteExecutions shared request)
      (fun _ s => Kept strict runDir s) (fun _ s => Kept strict runDir s) := by
  let There (names : List String) (s : World) : Prop :=
    names.Nodup ∧ ∀ name ∈ names, s.files (.running name) ≠ .missing
  have steady : ∀ names, Standing strict runDir .daemon (There names) := by
    intro names s t held others
    refine ⟨others.kept held.1, held.2.1, fun name mem => ?_⟩
    rw [others.daemons rfl (.running name) rfl]
    exact held.2.2 name mem
  refine spec_bind (Q := fun names s => Kept strict runDir s ∧ There names s) ?_ fun names => ?_
  · refine spec_request stable_kept ?_ steady fun _ => stable_kept
    intro s choice answer t kept _ ran
    cases answer with
    | ok names =>
      obtain ⟨same, rfl⟩ := @perform_list_ok .daemon _ _ _ _ _ ran
      refine ⟨guar_refl kept, kept, ?_, fun name mem => ?_⟩
      · exact same.nodup_iff.2 ((nodup_dedup _).filter _)
      · have present := (mem_filter.1 (same.mem_iff.1 mem)).2
        intro gone
        rw [World.present, Folder.file, gone] at present
        cases present
    | error error =>
      have guar := (@harmless_good (.list .running) strict runDir true true "" rfl s t kept
        (perform_effect ran)).1
      exact ⟨guar, guar.1⟩
  · refine (spec_forEach (I := fun names s => Kept strict runDir s ∧ There names s) (steady []) ?_
      names).after (fun _ _ held => held.1)
    intro slot rest
    have loose : Loose slot fun s => rest.Nodup ∧ slot ∉ rest ∧
        ∀ name ∈ rest, s.files (.running name) ≠ .missing := by
      rintro s t ⟨distinct, outside, there⟩ same
      refine ⟨distinct, outside, fun name mem => ?_⟩
      rw [same name fun equal => outside (equal ▸ mem)]
      exact there name mem
    refine spec_weaken (spec_recoverEntry loose) ?_
      (fun _ _ held => ⟨held.1, held.2.1, held.2.2.2⟩) fun _ _ held => held.1
    rintro s ⟨kept, distinct, there⟩
    exact ⟨kept, there slot mem_cons_self, (nodup_cons.1 distinct).2,
      (nodup_cons.1 distinct).1, fun name mem => there name (mem_cons_of_mem _ mem)⟩

end Recovery

/-- **A job of the daemon keeps every enqueued execution.** -/
theorem spec_job {setup : Setup} (here : setup.request.runDir = runDir) (job : Job) :
    Spec (custody strict runDir .daemon) (fun s => Kept strict runDir s) (setup.job job)
      (fun _ s => Kept strict runDir s) (fun _ s => Kept strict runDir s) := by
  cases job with
  | recover =>
    exact spec_bind spec_recoverIncompleteExecutions fun _ => spec_pure stable_kept fun _ => id
  | drain fuel =>
    refine spec_bind (spec_bind (Q := fun queue s => Kept strict runDir s ∧ Loaded queue s) ?_
      (spec_drainLoop here fuel)) fun _ => spec_pure stable_kept fun _ => id
    exact spec_weaken (spec_loadQueue (X := fun _ => True) (lasting_true : Lasting false true "" _))
      (fun _ held => ⟨held, trivial⟩) (fun _ _ held => ⟨held.1, held.2.1⟩) fun _ _ held => held.1

end WistAgentd.Exec

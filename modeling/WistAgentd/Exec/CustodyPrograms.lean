/- # Exec.CustodyPrograms -- the daemon's programs keep what was enqueued

From process control over the local executor, the report pipeline and quarantine up to a drain and a
recovery, one specification each. -/
import WistAgentd.Exec.Custody
import WistAgentd.Exec.Footprint

namespace WistAgentd.Exec
open Telemetry (Path IoError ErrorKind)
open Theory.Interaction
set_option autoImplicit false

variable {quiet whole : Bool} {s : World} {item : ExecutionQueueItem} {executionId : String}

variable {strict : Prop} {runDir : Path} {slot : String}

/-- A program that changes nothing of interest but `running/<slot>.json`. -/
abbrev Calm (strict : Prop) (runDir : Path) (slot : String) {α : Type} (prog : App α) : Prop :=
  Tame strict runDir true true slot (fun _ => True) prog

theorem calm_pure {α : Type} (value : α) : Calm strict runDir slot (pure value : App α) :=
  tame_pure lasting_true value

theorem calm_throw {α : Type} (error : RuntimeError) :
    Calm strict runDir slot (.throw error : App α) :=
  tame_throw lasting_true error

theorem calm_ask {op : Op} (harmless : op.harmless = true) : Calm strict runDir slot (ask op) :=
  tame_harmless harmless lasting_true

theorem calm_closed : Prog.Closed (Calm strict runDir slot) where
  pure := calm_pure
  throw := calm_throw
  bind := tame_bind
  attempt := tame_attempt

theorem calm_inspects (op : Op) (inspects : op.inspects = true) :
    Calm strict runDir slot (ask op) := by
  refine calm_ask ?_
  cases op with
  | «exists» | read => exact inspects
  | write | remove | removeWorkdir => cases inspects
  | _ => rfl

theorem calm_peeks (op : Op) (peeks : op.peeks = true) : Calm strict runDir slot (ask op) :=
  calm_inspects op (inspects_of_peeks peeks)

/-! ## Process control -/

/-- A running state of this execution. -/
def OfExecution (slot : String) (state : RunningExecutionState) (s : World) : Prop :=
  state.executionId = slot ∧ Describes s slot state.actionId state.planDigest ∧ Known s slot

theorem lasting_ofExecution {name : String} (state : RunningExecutionState) :
    Lasting quiet whole name (OfExecution slot state) :=
  fun s t held soft => ⟨held.1, lasting_described _ _ _ s t held.2.1 soft,
    lasting_known _ s t held.2.2 soft⟩

theorem tame_write_running {G : World → Prop} {state : RunningExecutionState}
    (lasting : Lasting quiet whole slot G)
    (fits : ∀ s, Kept strict runDir s → G s → OfExecution slot state s) :
    Tame strict runDir quiet whole slot G (ask (.write (.running slot) state)) := by
  refine tame_ask lasting fun s _ t kept holds _ effect => ?_
  rcases effect_write effect with rfl | rfl
  · exact unchanged_good kept
  · refine put_good kept (fits s kept holds) (fun _ _ => by simp) (fun other different => ?_)
      fun _ _ => by simp
    simpa using different.symm

theorem signalRequested_fields (state : RunningExecutionState) (kind : SignalRequestKind)
    (requestedAt : String) :
    (state.signalRequested kind requestedAt).executionId = state.executionId ∧
      (state.signalRequested kind requestedAt).actionId = state.actionId ∧
      (state.signalRequested kind requestedAt).planDigest = state.planDigest := by
  cases kind <;> exact ⟨rfl, rfl, rfl⟩

theorem calm_recordSignalRequest (kind : SignalRequestKind) :
    Calm strict runDir slot (recordSignalRequest slot kind) := by
  refine tame_bind (calm_ask rfl) fun found => ?_
  split
  · refine tame_bind_yields (F := OfExecution slot) (yields_harmless rfl lasting_true
      lasting_ofExecution ?_) fun state => ?_
    · intro s choice state t kept _ ran
      exact kept.running slot state (perform_read_ok ran).1
    · have lasting : Lasting true true slot fun s => OfExecution slot state s ∧ True :=
        (lasting_ofExecution state).and lasting_true
      refine tame_bind (tame_harmless rfl lasting) fun requestedAt => ?_
      refine tame_write_running lasting fun s _ held => ?_
      obtain ⟨id, action, digest⟩ := signalRequested_fields state kind requestedAt
      rw [OfExecution, id, action, digest]
      exact held.1
  · exact calm_pure _

theorem SameExecution.ofExecution {a b : RunningExecutionState} (same : SameExecution a b)
    (held : OfExecution slot b s) : OfExecution slot a s := by
  obtain ⟨id, action, digest, -⟩ := same
  rw [OfExecution, id, action, digest]
  exact held

theorem lasting_fact (fact : Prop) : Lasting quiet whole slot fun _ => fact :=
  fun _ _ held _ => held

/-- What a program returns satisfies `fact`, whatever it is answered. -/
theorem Tame.yields {G : World → Prop} {α : Type} {fact : α → Prop} {prog : App α}
    (tame : Tame strict runDir quiet whole slot G prog) (returns : prog.Returns fact) :
    Yields strict runDir quiet whole slot G (fun value _ => fact value) prog := by
  intro X rest s held
  exact ((tame X rest s held).returning returns).weaken
    (fun value t both => ⟨both.1.1, ⟨both.2, both.1.2.1⟩, both.1.2.2⟩) fun _ _ => id

theorem calm_forceStopExpiredProcess (state : RunningExecutionState) :
    Calm strict runDir slot (forceStopExpiredProcess state slot) :=
  forceStopExpiredProcess_in calm_closed calm_inspects state calm_recordSignalRequest

/-! ## The local executor -/

/-- The item is in the queue. -/
abbrev Queued (item : ExecutionQueueItem) (s : World) : Prop := item ∈ s.queueItems

theorem queued_describes (kept : Kept strict runDir s) (queued : Queued item s) :
    Describes s item.executionId item.actionId item.planDigest :=
  ⟨item, kept.queued item queued, rfl, rfl, rfl⟩

theorem queued_known (kept : Kept strict runDir s) (queued : Queued item s) :
    Known s item.executionId :=
  ⟨item, kept.queued item queued, rfl, .inl queued⟩

/-- The plan of a queued execution may be written again. -/
theorem tame_write_plan {plan : ActionPlan} (action : plan.actionId = item.actionId) :
    Tame strict runDir true true slot (Queued item)
      (ask (.write (.plan (workdirFor runDir item.executionId)) plan)) := by
  refine tame_ask (lasting_queued item) fun s _ t kept queued _ effect => ?_
  have mem := kept.queued item queued
  rcases effect_write effect with rfl | rfl
  · exact unchanged_good kept
  · refine put_good kept ?_ ?_ (fun _ _ => by simp) fun _ _ => by simp
    · intro other otherMember same
      rw [kept.unique other otherMember item mem (workdirFor_injective same)]
      exact action
    · rintro executionId fresh same
      simp only [File.plan.injEq] at same
      exact fresh item mem (workdirFor_injective same)

section Execute

variable {item : ExecutionQueueItem} {request : DrainRequest} {plan : ActionPlan}

/-- A running state the local executor writes for the head. -/
theorem spawned_ofExecution (action : plan.actionId = item.actionId) (kept : Kept strict runDir s)
    (queued : Queued item s) (pid : Nat) (identity : Option String) (startedAt deadlineAt : String) :
    OfExecution item.executionId
      (spawnedState (localExecRequest request item plan) pid identity startedAt deadlineAt) s := by
  refine ⟨rfl, ?_, queued_known kept queued⟩
  show Describes s item.executionId plan.actionId item.planDigest
  rw [action]
  exact queued_describes kept queued

theorem tame_superviseChild (action : plan.actionId = item.actionId) (pid : Nat)
    (identity : Option String) (startedAt deadlineAt : String) :
    Tame strict runDir true true item.executionId (Queued item)
      (superviseChild (localExecRequest request item plan) pid
        (spawnedState (localExecRequest request item plan) pid identity startedAt deadlineAt)) := by
  have queued : Lasting true true item.executionId (Queued item) := lasting_queued item
  refine tame_bind ((waitForChild_in calm_closed calm_inspects pid calm_recordSignalRequest).under queued)
    fun exitStatus => ?_
  refine tame_bind (tame_harmless rfl queued) fun _ => ?_
  refine tame_bind (tame_harmless rfl queued) fun _ => ?_
  refine tame_bind ((loadOrSynthesizeResult_in calm_closed calm_peeks _ _ fun _ => calm_ask rfl).under queued)
    fun result => ?_
  refine tame_bind (tame_attempt (tame_harmless rfl queued)) fun signals => ?_
  refine tame_bind (tame_harmless rfl queued) fun updatedAt => ?_
  refine tame_bind (tame_write_running queued fun s kept held => ?_) (tame_pure queued)
  exact spawned_ofExecution action kept held pid identity startedAt deadlineAt

theorem tame_abandonChild (pid : Nat) (error : RuntimeError) :
    Tame strict runDir true true item.executionId (Queued item)
      (abandonChild item.executionId pid error) := by
  have queued : Lasting true true item.executionId (Queued item) := lasting_queued item
  refine tame_bind ((terminateChild_in calm_closed calm_inspects pid).under queued) fun _ => ?_
  refine tame_bind (tame_harmless rfl queued) fun _ => ?_
  exact tame_bind (tame_harmless rfl queued) fun _ => tame_throw queued _

theorem tame_executeLocal (here : request.runDir = runDir) (action : plan.actionId = item.actionId) :
    Tame strict runDir true true item.executionId (Queued item)
      (executeLocal (localExecRequest request item plan)) := by
  subst here
  have queued : Lasting true true item.executionId (Queued item) := lasting_queued item
  refine tame_bind (tame_attempt ?_) fun outcome => tame_bind (tame_harmless rfl queued) fun _ => ?_
  · refine tame_bind (tame_harmless rfl queued) fun _ => ?_
    refine tame_bind (tame_harmless rfl queued) fun deadlineAt => ?_
    refine tame_bind (tame_write_plan action) fun _ => ?_
    refine tame_bind (tame_harmless rfl queued) fun _ => ?_
    refine tame_bind (tame_harmless rfl queued) fun _ => ?_
    refine tame_bind (tame_harmless rfl queued) fun pid => ?_
    refine tame_bind (tame_harmless rfl queued) fun _ => ?_
    refine tame_bind (tame_harmless rfl queued) fun startedAt => ?_
    refine tame_bind ((processIdentity_in calm_closed calm_inspects pid).under queued) fun identity => ?_
    refine tame_bind (tame_attempt (tame_write_running queued fun s kept held => ?_)) fun stored => ?_
    · exact spawned_ofExecution action kept held pid identity startedAt deadlineAt
    · cases stored with
      | error error => exact tame_abandonChild pid error
      | ok => exact tame_superviseChild action pid identity startedAt deadlineAt
  · cases outcome with
    | ok outcome => exact tame_pure queued _
    | error error => exact tame_throw queued _

end Execute

/-! ## The report pipeline -/

section Report

variable {shared : Shared} {request : ReportingRequest} {G X : World → Prop}

/-- A part of a report is on disk as it was read. -/
theorem yields_read (lasting : Lasting true true slot G) {file : File}
    (part : ∃ executionId, file = .reporting executionId ∨ file = .envelope executionId) :
    Yields strict runDir true true slot G (fun value s => s.files file = .intact value)
      (ask (.read file)) := by
  obtain ⟨executionId, part⟩ := part
  refine yields_harmless ?_ lasting (fun _ s t held soft => ?_) fun s _ value t _ _ ran => ?_
  · rcases part with rfl | rfl <;> rfl
  · obtain ⟨state, envelope⟩ := soft.reports rfl executionId
    rcases part with rfl | rfl
    · rwa [state]
    · rwa [envelope]
  · exact (perform_read_ok ran).1

/-- What an inspection says of the files. -/
def Inspected (executionId : String) (inspection : LocalReportInspection) (s : World) : Prop :=
  match inspection with
  | .ready prepared => s.files (.reporting executionId) = .intact prepared.state ∧
      s.files (.envelope executionId) = .intact prepared.envelope
  | .missingEnvelope state | .corruptEnvelope state =>
    s.files (.reporting executionId) = .intact state
  | .missingState | .corruptState => True

theorem lasting_inspected (executionId : String) (inspection : LocalReportInspection) :
    Lasting quiet true slot (Inspected executionId inspection) := by
  intro s t held soft
  obtain ⟨state, envelope⟩ := soft.reports rfl executionId
  unfold Inspected at held ⊢
  rw [state, envelope]
  exact held

theorem yields_inspectLocalReport (lasting : Lasting true true slot G) (stateDir : Path)
    (executionId : String) :
    Yields strict runDir true true slot G (Inspected executionId)
      (inspectLocalReport shared stateDir executionId) := by
  have there : ∀ file : File, (∃ id, file = .reporting id ∨ file = .envelope id) →
      ∀ result : Except RuntimeError file.Doc,
      Lasting true true slot fun s => ∀ value, result = .ok value → s.files file = .intact value := by
    rintro file ⟨id, part⟩ result s t held soft value same
    obtain ⟨state, envelope⟩ := soft.reports rfl id
    rcases part with rfl | rfl
    · rw [state]
      exact held value same
    · rw [envelope]
      exact held value same
  refine yields_bind (tame_harmless rfl lasting).yields_true fun found => ?_
  have lasting := (lasting_fact True).and lasting
  split
  · refine yields_bind (yields_attempt (yields_read lasting ⟨executionId, .inl rfl⟩)) fun state => ?_
    have lasting := (there (.reporting executionId) ⟨_, .inl rfl⟩ state).and lasting
    cases state with
    | error error => exact yields_pure lasting fun _ _ _ => trivial
    | ok state =>
      refine yields_bind (tame_harmless rfl lasting).yields_true fun envelopeFound => ?_
      have lasting := (lasting_fact True).and lasting
      split
      · refine yields_bind (yields_attempt (yields_read lasting ⟨executionId, .inr rfl⟩))
          fun envelope => ?_
        have lasting := (there (.envelope executionId) ⟨_, .inr rfl⟩ envelope).and lasting
        cases envelope with
        | error error => exact yields_pure lasting fun s _ held => held.2.2.1 state rfl
        | ok envelope =>
          exact yields_pure lasting fun s _ held =>
            ⟨held.2.2.1 state rfl, held.1 envelope rfl⟩
      · exact yields_pure lasting fun s _ held => held.2.1 state rfl
  · exact yields_pure lasting fun _ _ _ => trivial

/-! ### Writing a report -/

theorem Lasting.ofWhole (lasting : Lasting quiet false slot X) :
    Lasting quiet true slot X :=
  fun s t held soft => lasting s t held
    ⟨soft.enqueued, soft.queue, soft.aside, soft.running, soft.unseen, nofun⟩

theorem Tame.loosen {α : Type} {prog : App α} (tame : Tame strict runDir quiet true slot G prog) :
    Tame strict runDir quiet false slot G prog :=
  fun X rest => tame X rest.ofWhole

/-- Something about the daemon's files, beside what lasts. -/
theorem stable_beside {F : World → Prop}
    (steady : ∀ s t, F s → (∀ file : File, file.isDaemons = true → t.files file = s.files file) →
      F t) (lasting : Lasting quiet whole slot X) :
    Standing strict runDir .daemon fun s => F s ∧ X s :=
  fun s t held others => ⟨others.kept held.1, steady s t held.2.1 (others.daemons rfl),
    lasting s t held.2.2 others.soft⟩

/-- Putting a part of a report is soft. -/
theorem soft_put_report {file : File} {content : Stored file.Doc}
    (part : file = .reporting executionId ∨ file = .envelope executionId) :
    Soft true false slot s (s.put file content) := by
  have other : ∀ different, (∀ id, different ≠ .reporting id ∧ different ≠ .envelope id) →
      (s.put file content).files different = s.files different := by
    intro different distinct
    refine s.files_put_ne file content ?_
    rcases part with rfl | rfl
    · exact (distinct _).1
    · exact (distinct _).2
  constructor
  · exact fun _ => id
  · exact fun _ mem => queueItems_congr (other .queue (by simp)) ▸ mem
  · exact fun id aside => by rwa [SetAside, other (.history id) (by simp)]
  · exact fun name _ => other (.running name) (by simp)
  · exact fun _ unseen => ⟨unseen, other .queue (by simp)⟩
  · simp

/-- The envelope, with `F` about the other files of the daemon beside it. -/
theorem spec_write_envelope {F : World → Prop} {envelope : ReportActionResult}
    (steady : ∀ s t, F s → (∀ file : File, file.isDaemons = true → t.files file = s.files file) →
      F t) (beside : ∀ s, F s → F (s.put (.envelope executionId) (.intact envelope)))
    (lasting : Lasting true false slot X) :
    Keeping strict runDir .daemon (fun s => F s ∧ X s) (ask (.write (.envelope executionId) envelope))
      (fun _ s => (F s ∧ s.files (.envelope executionId) ≠ .missing) ∧ X s) (fun _ s => F s ∧ X s) := by
  have put : ∀ s, X s → X (s.put (.envelope executionId) (.intact envelope)) :=
    fun s held => lasting _ _ held (soft_put_report (.inr rfl))
  refine spec_put (puts_write rfl _) rfl (stable_beside steady lasting) ?_ (stable_beside steady lasting)
    (fun s held => ⟨held.1, trivial⟩) ?_ ?_
  · refine stable_beside (fun s t held same => ⟨steady s t held.1 same, ?_⟩) lasting
    rw [same (.envelope executionId) rfl]
    exact held.2
  · rintro s ⟨kept, holds, more⟩
    exact ⟨kept.put trivial, ⟨beside s holds, by simp [World.files_put_self]⟩, put s more⟩
  · rintro s ⟨kept, holds, more⟩
    exact ⟨⟨kept, holds, more⟩, kept.put trivial, beside s holds, put s more⟩

/-- The reporting state goes last, so both are there. -/
theorem spec_write_reporting {state : ReportingState} (lasting : Lasting true false slot X)
    (described : ∀ s, X s → Describes s executionId state.actionId state.planDigest) :
    Keeping strict runDir .daemon (fun s => s.files (.envelope executionId) ≠ .missing ∧ X s)
      (ask (.write (.reporting executionId) state)) (fun _ s => Reported s executionId ∧ X s)
      (fun _ s => s.files (.envelope executionId) ≠ .missing ∧ X s) := by
  have put : ∀ s, X s → X (s.put (.reporting executionId) (.intact state)) :=
    fun s held => lasting _ _ held (soft_put_report (.inl rfl))
  have envelope : ∀ s : World, (s.put (.reporting executionId) (.intact state)).files
      (.envelope executionId) = s.files (.envelope executionId) :=
    fun s => s.files_put_ne (.reporting executionId) _ (by simp)
  have there : Standing strict runDir .daemon fun s => s.files (.envelope executionId) ≠ .missing ∧ X
    s := by
    refine stable_beside (fun s t held same => ?_) lasting
    rw [same (.envelope executionId) rfl]
    exact held
  refine spec_put (puts_write rfl _) rfl there ?_ there (fun s held => ⟨held.1, described s held.2.2⟩)
    ?_ ?_
  · refine stable_beside (fun s t held same => ?_) lasting
    rw [Reported, same (.reporting executionId) rfl, same (.envelope executionId) rfl]
    exact held
  · rintro s ⟨kept, held, more⟩
    refine ⟨kept.put (described s more), ⟨?_, ?_⟩, put s more⟩
    · simp [World.files_put_self]
    · exact held
  · rintro s ⟨kept, held, more⟩
    refine ⟨⟨kept, held, more⟩, kept.put (described s more), ?_, put s more⟩
    exact held

/-- **A prepared report is whole.** -/
theorem yields_prepareLocalReport (lasting : Lasting true false slot G)
    (described : ∀ s, G s → Describes s request.executionId request.actionId request.planDigest)
    (issue : LocalReportIssue) :
    Yields strict runDir true false slot G (fun _ s => Reported s request.executionId)
      (prepareLocalReportWithIssue shared request issue) := by
  intro X rest
  have both := lasting.and rest
  have build : Calm strict runDir slot (buildReportEnvelope shared request request.actionId
      request.planDigest 1 none none) := buildReportEnvelope_in calm_closed calm_peeks _ _ _ _ _ _ _
  refine spec_bind ((build.under lasting.ofWhole).loosen X rest) ?_
  rintro ⟨envelope, digest, signature⟩
  refine spec_bind (Q := fun _ s => Kept strict runDir s ∧
      s.files (.envelope request.executionId) ≠ .missing ∧ G s ∧ X s)
    (spec_weaken (spec_write_envelope (F := fun _ => True) (fun _ _ _ _ => trivial)
      (fun _ _ => trivial) both) (fun _ held => ⟨held.1, trivial, held.2⟩)
      (fun _ _ held => ⟨held.1, held.2.1.2, held.2.2⟩) fun _ _ held => ⟨held.1, held.2.2⟩)
    fun _ => ?_
  refine spec_bind (Q := fun _ s => Kept strict runDir s ∧
      Reported s request.executionId ∧ G s ∧ X s)
    ((spec_write_reporting both fun s held => described s held.1).failing fun _ _ held => ⟨held.1,
      held.2.2⟩) fun _ => ?_
  refine spec_pure (stable_beside (fun s t held same => ?_) both)
    fun s held => ⟨held.1, ⟨held.2.1, held.2.2.1⟩, held.2.2.2⟩
  rw [Reported, same (.reporting request.executionId) rfl, same (.envelope request.executionId) rfl]
  exact held

/-- A rebuilt report is whole: the reporting state was there already. -/
theorem spec_rebuildReportEnvelope (lasting : Lasting true false slot X) (state : ReportingState)
    (issue : LocalReportIssue) :
    Keeping strict runDir .daemon (fun s => s.files (.reporting request.executionId) = .intact state ∧ X
      s) (rebuildReportEnvelopeWithIssue shared request state issue)
      (fun _ s => Reported s request.executionId ∧ X s) (fun _ => X) := by
  have steady : ∀ s t : World, s.files (.reporting request.executionId) = .intact state →
      (∀ file : File, file.isDaemons = true → t.files file = s.files file) →
      t.files (.reporting request.executionId) = .intact state :=
    fun s t held same => (same _ rfl).trans held
  -- while the report is untouched, building the envelope changes nothing of it
  have build : Calm strict runDir slot (buildReportEnvelope shared request state.actionId
      state.planDigest (nextAttempt state.reportAttempt) state.resultDigest state.resultSignature) :=
    buildReportEnvelope_in calm_closed calm_peeks _ _ _ _ _ _ _
  have intactLasts : Lasting true true slot fun s =>
      s.files (.reporting request.executionId) = .intact state :=
    fun s t held soft => (soft.reports rfl request.executionId).1.trans held
  refine spec_bind (Q := fun _ s => Kept strict runDir s ∧
      s.files (.reporting request.executionId) = .intact state ∧ X s)
    (spec_weaken (build _ (intactLasts.and lasting.ofWhole))
      (fun _ held => ⟨held.1, trivial, held.2⟩) (fun _ _ held => ⟨held.1, held.2.2⟩)
      fun _ _ held => ⟨held.1, held.2.2.2⟩) ?_
  rintro ⟨envelope, digest, signature⟩
  refine spec_bind (Q := fun _ s => Kept strict runDir s ∧
      (s.files (.reporting request.executionId) = .intact state ∧
        s.files (.envelope request.executionId) ≠ .missing) ∧ X s)
    ((spec_write_envelope steady (fun s held => ?_) lasting).failing fun _ _ held => ⟨held.1, held.2.2⟩)
      fun _ => ?_
  · exact held
  · have stable : Standing strict runDir .daemon fun s =>
      (s.files (.reporting request.executionId) = .intact state ∧ s.files
      (.envelope request.executionId) ≠ .missing) ∧ X s := by
      refine stable_beside (fun s t held same => ⟨steady s t held.1 same, ?_⟩) lasting
      rw [same (.envelope request.executionId) rfl]
      exact held.2
    have whole : Standing strict runDir .daemon fun s => Reported s request.executionId ∧ X s := by
      refine stable_beside (fun s t held same => ?_) lasting
      rw [Reported, same (.reporting request.executionId) rfl, same (.envelope request.executionId) rfl]
      exact held
    refine spec_bind (Q := fun _ s => Kept strict runDir s ∧ Reported s request.executionId ∧ X s)
      ?_ fun rebuilt => spec_pure whole fun _ => id
    unfold syncReportingState
    dsimp only
    split
    · refine spec_pure stable fun s held => ⟨held.1, ⟨?_, held.2.1.2⟩, held.2.2⟩
      simp [held.2.1.1]
    · let described := fun s : World =>
        Describes s request.executionId state.actionId state.planDigest
      have lasting' : Lasting true false slot fun s => described s ∧ X s :=
        (lasting_described _ _ _).and lasting
      refine spec_bind (Q := fun _ s => Kept strict runDir s ∧ Reported s request.executionId ∧ X s)
        (spec_weaken (spec_write_reporting lasting' fun s held => held.1) ?_
          (fun _ _ held => ⟨held.1, held.2.1, held.2.2.2⟩) fun _ _ held => ⟨held.1, held.2.2.2⟩)
        fun _ => spec_pure whole fun _ => id
      exact fun s held => ⟨held.1, held.2.1.2, held.1.reports _ _ held.2.1.1, held.2.2⟩

/-- **An ensured report is whole.** -/
theorem yields_ensureLocalReport (lasting : Lasting true false slot G)
    (described : ∀ s, G s → Describes s request.executionId request.actionId request.planDigest) :
    Yields strict runDir true false slot G (fun _ s => Reported s request.executionId)
      (ensureLocalReport shared request) := by
  intro X rest
  have both := lasting.and rest
  refine spec_bind (yields_inspectLocalReport lasting.ofWhole _ _ X rest.ofWhole) fun inspection => ?_
  have prepared : ∀ issue, Keeping strict runDir .daemon (fun s => (True ∧ G s) ∧ X s)
    (prepareLocalReportWithIssue shared request issue)
    (fun _ s => (Reported s request.executionId ∧ G s) ∧ X s) (fun _ s => G s ∧ X s) := fun issue =>
    (yields_prepareLocalReport lasting described issue X rest).before (fun _ held => ⟨held.1,
      held.2.1.2, held.2.2⟩)
  have rebuilt : ∀ state issue, Keeping strict runDir .daemon
    (fun s => (s.files (.reporting request.executionId) = .intact state ∧ G s) ∧ X s)
    (rebuildReportEnvelopeWithIssue shared request state issue)
    (fun _ s => (Reported s request.executionId ∧ G s) ∧ X s) (fun _ s => G s ∧ X s) :=
    fun state issue =>
    ((spec_rebuildReportEnvelope both state issue).before fun _ held => ⟨held.1, held.2.1.1, held.2.1.2,
      held.2.2⟩).after (fun _ _ held => ⟨held.1, ⟨held.2.1, held.2.2.1⟩, held.2.2.2⟩)
  cases inspection with
  | ready report =>
    refine spec_pure (((lasting_inspected _ _).and lasting.ofWhole).and rest.ofWhole).stable
      fun s held => ⟨held.1, ⟨⟨?_, ?_⟩, held.2.1.2⟩, held.2.2⟩
    · rw [held.2.1.1.1]
      exact nofun
    · rw [held.2.1.1.2]
      exact nofun
  | missingState => exact prepared .missingState
  | corruptState => exact prepared .corruptState
  | missingEnvelope state => exact rebuilt state .missingEnvelope
  | corruptEnvelope state => exact rebuilt state .corruptEnvelope

end Report

end WistAgentd.Exec

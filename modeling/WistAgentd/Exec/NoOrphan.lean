/- # Exec.NoOrphan -- a local execution that fails, and its child

`execute_async` goes on for long after the spawn, and most of what can fail there makes it return at
once. The handle is dropped then, which neither kills nor waits for the child, and the caller
quarantines the execution together with its running file.

* `childAfter`: the child that was spawned and not waited for since.
* `setback`: what an answer means for such a child; `Watch`: whether it was forsaken.
* `waitForChild_follows`, `terminateChild_follows`, `executeLocal_follows`: the programs, step by step.
* `no_orphan_iff`: an error means a child that was not forsaken has been reaped. -/
import WistAgentd.Exec.Footprint
import WistAgentd.Exec.System

namespace WistAgentd.Exec
open Telemetry (Path IoError ErrorKind)
open Theory.Interaction
set_option autoImplicit false

variable {α : Type} {next : Option ExitStatus → App α}
variable (slot : String)

abbrev OpReply := Reply Op Op.Ans RuntimeError

/-- An answer the world gives in some state. -/
def Possible (reply : OpReply) : Prop :=
  ∃ party choice s t, perform party reply.1 choice s = some (reply.2, t)

/-- A wait without a timeout ends with a status. -/
theorem possible_wait {pid : Nat} {answer : Option ExitStatus}
    (possible : Possible ⟨.wait pid false, .ok answer⟩) : ∃ status, answer = some status := by
  obtain ⟨party, choice, s, t, ran⟩ := possible
  rcases orFail_some ran with ⟨-, error, -, failed⟩ | answered
  · cases failed
  · cases choice with
    | exited status =>
      obtain ⟨same, -⟩ := Prod.mk.inj (Option.some.inj answered)
      exact ⟨status, Except.ok.inj same.symm⟩
    | _ => cases answered

/-! ## The child -/

/-- The child that was spawned and not waited for since. -/
def childAfter (child : Option Nat) : OpReply → Option Nat
  | ⟨.spawn _ _, .ok pid⟩ => some pid
  | ⟨.tryWait pid, .ok (some _)⟩ | ⟨.wait pid _, .ok (some _)⟩ => if child = some pid then none else child
  | _ => child

/-- What an answer means for a child that was not waited for yet. -/
inductive Setback
  | none
  /-- A signal did not get through; perhaps the child has exited. -/
  | refused
  | fatal

/-- A signal that fails; `InvalidInput` is how the handle of a reaped child answers. -/
def refusal (error : RuntimeError) : Setback := if error.isInvalidInput then .none else .refused

def setback : OpReply → Setback
  | ⟨.signal _ _, .error error⟩ | ⟨.startKill _, .error error⟩ => refusal error
  | ⟨.signal _ _, .ok .notPermitted⟩ | ⟨.signal _ _, .ok .noSuchProcess⟩ => .refused
  -- the record of the new child could not be stored: the child is terminated
  | ⟨.write (.running _) state, .error _⟩ => if state.state = "spawned" then .none else .fatal
  | ⟨_, .error _⟩ => .fatal
  | ⟨_, .ok _⟩ => .none

/-- `forsaken`: with a child that was not waited for, an operation failed that should have led there, or
a signal was refused and the next answer was not the status of the child. -/
structure Watch where
  child : Option Nat
  refused : Bool
  forsaken : Bool

def Watch.note (watch : Watch) (reply : OpReply) : Watch :=
  let child := childAfter watch.child reply
  if watch.child = none ∨ child = none then { watch with child, refused := false }
  else match setback reply with
    | .none => { child, refused := false, forsaken := watch.forsaken || watch.refused }
    | .refused => { child, refused := true, forsaken := watch.forsaken || watch.refused }
    | .fatal => { child, refused := false, forsaken := true }

/-- What the replies of a run tell. -/
def watch (heard : List OpReply) : Watch := heard.foldl Watch.note ⟨none, false, false⟩

/-! ## Walking the programs -/

abbrev Walks {α : Type} (prog : App α) (w : Watch) (Q : α → Watch → Prop)
    (E : RuntimeError → Watch → Prop) : Prop := Follows Possible Watch.note Q E prog w

/-- There is no child, or it has been reaped. -/
def Watch.Settled (w : Watch) : Prop := w.child = none ∧ w.forsaken = false

/-- The child is left alone. -/
def Watch.Lost (w : Watch) : Prop := w.child ≠ none ∧ w.forsaken = true

/-- How an error leaves things; a refused signal may be the last that was heard. -/
def Watch.Left (w : Watch) : Prop := w.Settled ∨ w.Lost ∨ ∃ pid, w = ⟨some pid, true, false⟩

def Watch.alive (pid : Nat) : Watch := ⟨some pid, false, false⟩

/-- Whatever the error. -/
abbrev Manages {α : Type} (prog : App α) (w : Watch) (Q : α → Watch → Prop) : Prop :=
  Walks prog w Q fun _ => Watch.Left

variable {reply : OpReply}

theorem childAfter_none (calm : ∀ executionId workdir, reply.1 ≠ .spawn executionId workdir) :
    childAfter none reply = none := by
  unfold childAfter
  split
  · exact absurd rfl (calm _ _)
  · simp
  · simp
  · rfl

variable {w : Watch}

theorem settled_note (settled : w.Settled)
    (calm : ∀ executionId workdir, reply.1 ≠ .spawn executionId workdir) :
    (w.note reply).Settled := by
  obtain ⟨none_, kept⟩ := settled
  rw [Watch.note, if_pos (.inl none_)]
  refine ⟨?_, kept⟩
  show childAfter w.child reply = none
  rw [none_]
  exact childAfter_none calm

/-- A program that keeps a settled child settled. -/
def Tidy {α : Type} (prog : App α) : Prop :=
  ∀ w : Watch, w.Settled → Walks prog w (fun _ => Watch.Settled) fun _ => Watch.Settled

theorem tidy_closed : Prog.Closed @Tidy where
  pure _ _ settled := settled
  throw _ _ settled := settled
  bind head tail w settled :=
    follows_bind ((head w settled).weaken (fun value w settled => tail value w settled) fun _ _ => id)
  attempt inner w settled := follows_attempt (inner w settled)

theorem tidy_ask {op : Op} (calm : ∀ executionId workdir, op ≠ .spawn executionId workdir) :
    Tidy (ask op) :=
  fun _ settled => follows_call (fun _ _ => settled_note settled calm) fun _ _ => settled_note settled calm

theorem tidy_peeks (op : Op) (peeks : op.peeks = true) : Tidy (ask op) :=
  tidy_ask fun _ _ same => by rw [same] at peeks; cases peeks

variable {Q : α → Watch → Prop}

section Alive

variable {pid : Nat}

/-- An answer that changes nothing for the child. -/
theorem alive_note (kept : childAfter (some pid) reply = some pid) (fine : setback reply = .none) :
    (Watch.alive pid).note reply = .alive pid := by
  simp [Watch.note, Watch.alive, kept, fine]

theorem alive_fatal (kept : childAfter (some pid) reply = some pid) (fatal : setback reply = .fatal) :
    ((Watch.alive pid).note reply).Lost := by
  simp [Watch.note, Watch.alive, kept, fatal, Watch.Lost]

theorem reaped_note (there : w.child = some pid) (kept : w.forsaken = false)
    (reaped : childAfter (some pid) reply = none) : (w.note reply).Settled := by
  rw [Watch.note, there, reaped, if_pos (.inr rfl)]
  exact ⟨rfl, kept⟩

/-- A request whose failure leaves the child alone. -/
theorem alive_ask {op : Op} {next : op.Ans → App α}
    (later : ∀ value, Manages (next value) (.alive pid) Q)
    (kept : ∀ answer, childAfter (some pid) ⟨op, answer⟩ = some pid := by rintro (_ | _) <;> rfl)
    (fine : ∀ value, setback ⟨op, .ok value⟩ = .none := by exact fun _ => rfl)
    (fatal : ∀ error, setback ⟨op, .error error⟩ = .fatal := by exact fun _ => rfl) :
    Manages (ask op >>= next) (.alive pid) Q := by
  refine follows_call_bind (fun value _ => ?_)
    fun error _ => .inr (.inl (alive_fatal (kept _) (fatal error)))
  rw [alive_note (kept _) (fine value)]
  exact later value

/-- A wait: the status ends it, no status leaves things as they are. -/
theorem alive_wait {op : Op} {next : op.Ans → App α}
    (fatal : ∀ error, childAfter (some pid) ⟨op, .error error⟩ = some pid ∧
      setback ⟨op, .error error⟩ = .fatal)
    (ok : ∀ value, Possible ⟨op, .ok value⟩ → Walks (next value) ((Watch.alive pid).note ⟨op, .ok value⟩)
      Q fun _ => Watch.Left) :
    Manages (ask op >>= next) (.alive pid) Q :=
  follows_call_bind ok fun error _ => .inr (.inl (alive_fatal (fatal error).1 (fatal error).2))

theorem tryWait_reaps (w : Watch) (there : w.child = some pid) (kept : w.forsaken = false)
    (status : ExitStatus) : (w.note ⟨.tryWait pid, .ok (some status)⟩).Settled :=
  reaped_note there kept (by simp [childAfter])

theorem wait_reaps (timed : Bool) (status : ExitStatus) :
    ((Watch.alive pid).note ⟨.wait pid timed, .ok (some status)⟩).Settled :=
  reaped_note rfl rfl (by simp [childAfter])

theorem tryWait_follows
    (exited : ∀ status w, w.Settled → Manages (next (some status)) w Q)
    (runs : Manages (next none) (.alive pid) Q) :
    Manages (ask (.tryWait pid) >>= next) (.alive pid) Q := by
  refine alive_wait (fun _ => ⟨rfl, rfl⟩) fun answer _ => ?_
  cases answer with
  | none => exact runs
  | some status => exact exited status _ (tryWait_reaps _ rfl rfl status)

theorem timedWait_follows
    (exited : ∀ status w, w.Settled → Manages (next (some status)) w Q)
    (runs : Manages (next none) (.alive pid) Q) :
    Manages (ask (.wait pid true) >>= next) (.alive pid) Q := by
  refine alive_wait (fun _ => ⟨rfl, rfl⟩) fun answer _ => ?_
  cases answer with
  | none => exact runs
  | some status => exact exited status _ (wait_reaps true status)

/-- The last wait ends with the child reaped, or fails. -/
theorem lastWait_follows
    (exited : ∀ status w, w.Settled → Manages (next status) w Q) :
    Manages (ask (.wait pid false) >>= next) (.alive pid) Q := by
  refine alive_wait (fun _ => ⟨rfl, rfl⟩) fun answer possible => ?_
  obtain ⟨status, rfl⟩ := possible_wait possible
  exact exited _ _ (wait_reaps false status)

/-- Noting a signal request: every failure is fatal. -/
theorem recordSignalRequest_follows (kind : SignalRequestKind) {next : Unit → App α}
    (later : Manages (next ()) (.alive pid) Q) :
    Manages (recordSignalRequest slot kind >>= next) (.alive pid) Q := by
  refine follows_bind (alive_ask fun found => ?_)
  cases found with
  | false => exact later
  | true =>
    refine alive_ask fun state => alive_ask fun now => ?_
    refine follows_call (fun _ _ => ?_) fun error _ => .inr (.inl (alive_fatal rfl ?_))
    · rw [alive_note rfl rfl]
      exact later
    · cases kind <;> rfl

theorem processIdentity_follows {next : Option String → App α}
    (later : ∀ identity, Manages (next identity) (.alive pid) Q) :
    Manages (processIdentity pid >>= next) (.alive pid) Q := by
  unfold processIdentity
  split
  · exact later none
  · exact alive_ask later

/-- A signal that did not get through. -/
def Watch.unheard (pid : Nat) (error : RuntimeError) : Watch := ⟨some pid, !error.isInvalidInput, false⟩

theorem refused_note {error : RuntimeError} (kept : childAfter (some pid) reply = some pid)
    (refused : setback reply = refusal error) :
    (Watch.alive pid).note reply = .unheard pid error := by
  unfold refusal at refused
  cases invalid : error.isInvalidInput <;>
    simp [invalid] at refused <;> simp [Watch.note, Watch.alive, Watch.unheard, kept, refused, invalid]

theorem sendTerminate_follows :
    Walks (sendTerminate pid) (.alive pid) (fun _ w => w = .alive pid)
      fun error w => w = .unheard pid error := by
  unfold sendTerminate
  split
  · rfl
  · refine follows_call_bind (fun answer _ => ?_) fun error _ => refused_note rfl rfl
    cases answer with
    | sent => exact alive_note rfl rfl
    | notPermitted | noSuchProcess => exact refused_note rfl rfl

theorem startKill_follows :
    Walks (ask (.startKill pid)) (.alive pid) (fun _ w => w = .alive pid)
      fun error w => w = .unheard pid error :=
  follows_call (fun _ _ => alive_note rfl rfl) fun _ _ => refused_note rfl rfl

/-- Is it because the child has exited? -/
theorem unheard_tryWait {error : RuntimeError}
    (exited : ∀ status w, w.Settled → Manages (next (some status)) w Q)
    (runs : error.isInvalidInput = true → Manages (next none) (.alive pid) Q)
    (lost : error.isInvalidInput = false → ∀ w : Watch, w.Lost → Manages (next none) w Q) :
    Manages (ask (.tryWait pid) >>= next) (.unheard pid error) Q := by
  refine follows_call_bind (fun answer _ => ?_) fun failure _ => .inr (.inl ?_)
  · cases answer with
    | some status => exact exited status _ (tryWait_reaps _ rfl rfl status)
    | none =>
      cases invalid : error.isInvalidInput with
      | true =>
        have same : (Watch.unheard pid error).note ⟨.tryWait pid, .ok none⟩ = .alive pid := by
          simp [Watch.note, Watch.unheard, Watch.alive, childAfter, setback, invalid]
        rw [same]
        exact runs invalid
      | false =>
        refine lost invalid _ ?_
        simp [Watch.note, Watch.unheard, Watch.Lost, childAfter, setback, invalid]
  · simp [Watch.note, Watch.unheard, Watch.Lost, childAfter, setback]

theorem terminateOrReap_follows (exited : ∀ status w, w.Settled → Manages (next (some status)) w Q)
    (runs : Manages (next none) (.alive pid) Q) :
    Manages (terminateOrReap pid >>= next) (.alive pid) Q := by
  refine follows_bind (follows_bind (follows_attempt (sendTerminate_follows.weaken ?_ ?_)))
  · rintro ⟨⟩ w rfl
    exact runs
  · rintro error w rfl
    refine unheard_tryWait exited (fun invalid => ?_) fun invalid w lost => ?_
    · rw [if_pos invalid]
      exact runs
    · rw [invalid]
      exact .inr (.inl lost)

theorem killUnlessExited_follows :
    Manages (killUnlessExited pid) (.alive pid) (fun _ w => w = .alive pid ∨ w.Settled) := by
  refine follows_bind (follows_attempt (startKill_follows.weaken ?_ ?_))
  · rintro ⟨⟩ w rfl
    exact .inl rfl
  · rintro error w rfl
    refine unheard_tryWait (fun status w settled => .inr settled) (fun invalid => ?_)
      fun invalid w lost => ?_
    · rw [invalid]
      exact .inl rfl
    · rw [invalid]
      exact .inr (.inl lost)

theorem killAndReap_follows :
    Manages (killAndReap slot pid) (.alive pid) (fun _ => Watch.Settled) := by
  refine recordSignalRequest_follows slot .kill (follows_bind
    (killUnlessExited_follows.weaken ?_ fun _ _ => id))
  rintro ⟨⟩ w (rfl | settled)
  · exact lastWait_follows (Q := fun _ => Watch.Settled) fun _ _ => id
  · have again : Tidy (ask (.wait pid false)) := tidy_ask nofun
    exact follows_bind ((again w settled).weaken (fun _ _ => id) fun _ _ settled => .inl settled)

/-- **Waiting for the child** ends with the child reaped, or leaves it alone with an error. -/
theorem waitForChild_follows :
    Manages (waitForChild slot pid) (.alive pid) (fun _ => Watch.Settled) := by
  refine tryWait_follows (fun _ _ => id) ?_
  refine timedWait_follows (fun _ _ => id) ?_
  refine tryWait_follows (fun _ _ => id) ?_
  refine recordSignalRequest_follows slot .cancel ?_
  refine terminateOrReap_follows (fun _ _ => id) ?_
  refine timedWait_follows (fun _ _ => id) ?_
  exact follows_bind ((killAndReap_follows slot).weaken (fun _ _ => id) fun _ _ => id)

theorem terminateChild_follows :
    Manages (terminateChild pid) (.alive pid) (fun _ => Watch.Settled) := by
  refine follows_call_bind (fun answer _ => ?_) fun error _ => .inr (.inl (alive_fatal rfl rfl))
  cases answer with
  | some status => exact tryWait_reaps _ rfl rfl status
  | none =>
    refine follows_bind (follows_bind (follows_attempt (startKill_follows.weaken ?_ ?_)))
    · rintro ⟨⟩ w rfl
      exact lastWait_follows (Q := fun _ => Watch.Settled) fun _ _ => id
    · rintro error w rfl
      dsimp only
      cases invalid : error.isInvalidInput with
      | true =>
        have same : Watch.unheard pid error = .alive pid := by
          simp [Watch.unheard, Watch.alive, invalid]
        rw [same]
        exact lastWait_follows (Q := fun _ => Watch.Settled) fun _ _ => id
      | false =>
        refine .inr (.inr ⟨pid, ?_⟩)
        simp [Watch.unheard, invalid]

theorem tidy_joinCapture : Tidy joinCapture := tidy_ask nofun

theorem abandonChild_follows (error : RuntimeError) :
    Manages (abandonChild slot pid error) (.alive pid) (fun _ => Watch.Settled) := by
  refine follows_bind (terminateChild_follows.weaken ?_ fun _ _ => id)
  intro _ w settled
  exact (tidy_closed.bind tidy_joinCapture (fun _ => tidy_closed.bind tidy_joinCapture
    fun _ => tidy_closed.throw _) w settled).weaken (fun _ _ => id) fun _ _ settled => .inl settled

theorem superviseChild_follows (request : LocalExecRequest) (running : RunningExecutionState) :
    Manages (superviseChild request pid running) (.alive pid) (fun _ => Watch.Settled) := by
  refine follows_bind ((waitForChild_follows _).weaken ?_ fun _ _ => id)
  intro exitStatus w settled
  have rest : Tidy (do
      joinCapture
      joinCapture
      let result ← loadOrSynthesizeResult request (workdirFor request.runDir request.executionId) exitStatus
      let signals ← (ask (.read (.running request.executionId))).attempt
      let updatedAt ← ask .now
      ask (.write (.running request.executionId)
        (finishedState running result signals.toOption updatedAt))
      pure { executionId := request.executionId
             workdir := workdirFor request.runDir request.executionId, result : LocalExecOutcome }) := by
    refine tidy_closed.bind tidy_joinCapture fun _ => tidy_closed.bind tidy_joinCapture fun _ =>
      tidy_closed.bind (loadOrSynthesizeResult_in tidy_closed tidy_peeks request exitStatus
        fun _ => tidy_ask nofun) fun result => ?_
    exact tidy_closed.bind (tidy_closed.attempt (tidy_peeks _ rfl)) fun _ =>
      tidy_closed.bind (tidy_peeks _ rfl) fun _ =>
        tidy_closed.bind (tidy_ask nofun) fun _ => tidy_closed.pure _
  exact (rest w settled).weaken (fun _ _ => id) fun _ _ settled => .inl settled

end Alive

/-- A request before the spawn. -/
theorem unspawned_ask {op : Op} {next : op.Ans → App α} (settled : w.Settled)
    (calm : ∀ executionId workdir, op ≠ .spawn executionId workdir)
    (later : ∀ value (w : Watch), w.Settled → Manages (next value) w Q) :
    Manages (ask op >>= next) w Q :=
  follows_bind ((tidy_ask calm w settled).weaken later fun _ _ settled => .inl settled)

theorem executeScoped_follows (request : LocalExecRequest) (settled : w.Settled) :
    Manages (executeScoped request) w (fun _ => Watch.Settled) := by
  refine unspawned_ask settled (nofun) fun _ w settled => ?_
  refine unspawned_ask settled (nofun) fun deadlineAt w settled => ?_
  refine unspawned_ask settled (nofun) fun _ w settled => ?_
  refine unspawned_ask settled (nofun) fun _ w settled => ?_
  refine unspawned_ask settled (nofun) fun _ w settled => ?_
  refine follows_call_bind (fun pid _ => ?_) fun error _ => .inl ?_
  · have spawned : w.note ⟨.spawn request.executionId (workdirFor request.runDir request.executionId),
        .ok pid⟩ = .alive pid := by
      simp [Watch.note, settled.1, settled.2, Watch.alive, childAfter]
    rw [spawned]
    -- from here on a failure leaves the child alone, but for the first store of its record
    refine alive_ask fun _ => alive_ask fun startedAt => ?_
    refine processIdentity_follows fun identity => ?_
    refine follows_bind (follows_attempt (follows_call (fun _ _ => ?_) fun error _ => ?_))
    · rw [alive_note rfl rfl]
      exact superviseChild_follows request _
    · rw [alive_note rfl rfl]
      exact abandonChild_follows _ error
  · rw [Watch.note, if_pos (.inl settled.1)]
    exact ⟨settled.1, settled.2⟩

/-- Dropping the handle does nothing for the child. -/
theorem dropChild_left (left : w.Left) (answer : Except RuntimeError Unit) :
    (w.note ⟨.dropChild, answer⟩).Settled ∨ (w.note ⟨.dropChild, answer⟩).Lost := by
  rcases left with settled | ⟨there, forsaken⟩ | ⟨pid, rfl⟩
  · exact .inl (settled_note settled nofun)
  · refine .inr ?_
    cases answer <;> simp [Watch.note, Watch.Lost, childAfter, setback, there, forsaken]
  · refine .inr ?_
    cases answer <;> simp [Watch.note, Watch.Lost, childAfter, setback]

/-- **The whole of a local execution.** -/
theorem executeLocal_follows (request : LocalExecRequest) (settled : w.Settled) :
    Walks (executeLocal request) w (fun _ => Watch.Settled) fun _ w => w.Settled ∨ w.Lost := by
  refine follows_bind (follows_attempt ((executeScoped_follows request settled).weaken ?_ ?_))
  · intro outcome w settled
    exact follows_call_bind (fun _ _ => settled_note settled nofun)
      fun _ _ => .inl (settled_note settled nofun)
  · intro error w left
    exact follows_call_bind (fun _ _ => dropChild_left left _) fun _ _ => dropChild_left left _

/-- **No orphan on error**, exactly when the child was not forsaken: whatever the world answers and
whatever others do to it meanwhile, an error is returned with no child spawned or the child reaped. -/
theorem no_orphan_iff {request : LocalExecRequest} {world final : World}
    {moments : List ((World → World) × Choice)} {heard : List OpReply}
    {result : Except RuntimeError LocalExecOutcome}
    (ran : (executeLocal request).play (perform .daemon) world moments = some (heard, result, final)) :
    (∀ error, result = .error error → (watch heard).child = none) ↔ (watch heard).forsaken = false := by
  have ended := (executeLocal_follows request (w := ⟨none, false, false⟩) ⟨rfl, rfl⟩).play
    (fun _ choice s _ t ran => ⟨.daemon, choice, s, t, ran⟩) ran
  change Either _ _ result (watch heard) at ended
  cases result with
  | ok outcome =>
    have settled : (watch heard).Settled := ended
    exact ⟨fun _ => settled.2, nofun⟩
  | error error =>
    rcases (ended : (watch heard).Settled ∨ (watch heard).Lost) with settled | lost
    · exact ⟨fun _ => settled.2, fun _ _ _ => settled.1⟩
    · constructor
      · exact fun reaped => absurd (reaped error rfl) lost.1
      · intro kept
        rw [lost.2] at kept
        cases kept

namespace Sample

def localExec : LocalExecRequest :=
  { executionId := "e", runDir := "run", planDigest := "", requestId := "q", plan := plan "a" }

/-- Nobody else acts. -/
def undisturbed (choices : List Choice) : List ((World → World) × Choice) :=
  choices.map fun choice => (id, choice)

/-- Everything up to the spawn. -/
def upToSpawn : List Choice := [.done, .text "t", .done, .done, .done, .child 7 "k"]

end Sample

open Sample in
/-- The record cannot be stored: the child is killed and waited for before the error is returned. -/
theorem no_orphan_iff_storeFails :
    ∃ heard error final, (executeLocal localExec).play (perform .daemon) World.empty
        (undisturbed (upToSpawn ++ [.done, .text "t", .done,
          .fail (.new .other "disk full"), .done, .done, .exited ⟨none⟩, .done, .done, .done])) =
          some (heard, .error error, final) ∧
      (watch heard).child = none ∧ final.processes = [] := by
  have ran : ∃ heard error final, (executeLocal localExec).play (perform .daemon) World.empty
      (undisturbed (upToSpawn ++ [.done, .text "t", .done,
        .fail (.new .other "disk full"), .done, .done, .exited ⟨none⟩, .done, .done, .done])) =
        some (heard, .error error, final) ∧ (watch heard).forsaken = false ∧ final.processes = [] :=
    ⟨_, _, _, rfl, rfl, rfl⟩
  obtain ⟨heard, error, final, ran, kept, none_⟩ := ran
  exact ⟨heard, error, final, ran, (no_orphan_iff ran).2 kept error rfl, none_⟩

/-- **An untracked process**: the stat file of the new child is not valid UTF-8 (the name of its
executable is in it), the execution is quarantined, and the child runs on with no running file. -/
theorem identity_fails_orphans :
    let item := ExecutionQueueItem.builder "e" "a" "" "q" "t"
    let queue := { ExecutionQueueState.new "t" with items := [item] }
    ∃ heard final, (executeQueueHead Sample.shared Sample.setup.request item
          ⟨workdirFor "run" "e", Sample.plan "a"⟩).play (perform .daemon)
          (World.empty.put .queue (.intact queue)) (Sample.undisturbed (Sample.upToSpawn ++
            [.done, .text "t", .fail (.new .invalidData "stream did not contain valid UTF-8"), .done] ++
            [.done, .done, .done, .text "t", .done, .done, .done] ++
            [.done, .done, .done, .text "t", .done, .done])) =
        some (heard, .ok .reloadQueue, final) ∧
      final.files (.running "e") = .missing ∧ (final.files (.history "e")).present = true ∧
      final.queueItems = [] ∧
      final.processes.map (fun process => (process.pid, process.running)) = [(7, true)] :=
  ⟨_, _, rfl, rfl, rfl, rfl, rfl⟩

end WistAgentd.Exec

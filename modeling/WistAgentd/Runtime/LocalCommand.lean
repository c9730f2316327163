/- # Runtime.LocalCommand -- the request file of local commands

`command.request.json` holds one command. A submitter looks whether one is waiting and, if not, writes
its own to `command.request.tmp` and renames that; the daemon reads the file and deletes it. Nothing
keeps the others out in between, and an open temporary file stays open when another renames it.

* `step`: one operation of a submitter or of the daemon.
* `queued_delivered`: runs in which no operation of another party falls into such a gap.
* `queued_overwritten`: two submitters that both found the file missing. -/
import WistAgentd.Runtime.DaemonLoop

namespace WistAgentd.Runtime.LocalCommand
open Theory.Transition Function
open List Option
set_option autoImplicit false

/-- What stands at a path: nothing, no command, or one. -/
inductive RequestFile (α : Type)
  | missing
  | unreadable
  | holds (command : α)
  deriving DecidableEq

/-- A command and the submission it is from (`none`: it was there before); the code reads only the
command. -/
structure Request where
  number : Option Nat
  command : AgentCommand
  deriving DecidableEq

inductive SubmitOutcome
  | queued
  | alreadyPending (pending : AgentCommand)
  deriving DecidableEq

/-- `submit_request_async` between its operations; `created` has the temporary file open, and
`returned none` is an error of the write, or its end. -/
inductive Submission
  | idle
  | looked
  | created (node : Nat)
  | written
  | returned (outcome : Option SubmitOutcome)
  deriving DecidableEq

/-- Between creating the temporary file and renaming it. -/
def Submission.staging : Submission → Bool
  | .created _ | .written => true
  | .idle | .looked | .returned _ => false

structure State where
  file : RequestFile Request
  temp : RequestFile Request
  /-- How often a file was renamed, which is the number of the inode at the temporary path; the one
  renamed last stands at the path of the requests. -/
  renames : Nat
  submissions : Nat → Submission
  /-- `take_local_command` has read the file and is about to delete it. -/
  taking : Bool
  /-- Whose commands the daemon has read; not read by the code. -/
  taken : List (Option Nat)

/-- What an inode holds; `missing`: no path leads to it any more. -/
def State.held (state : State) (node : Nat) : RequestFile Request :=
  if node = state.renames then state.temp
  else if node + 1 = state.renames then state.file
  else .missing

def State.fill (state : State) (node : Nat) (content : RequestFile Request) : State :=
  if node = state.renames then { state with temp := content }
  else if node + 1 = state.renames ∧ state.file ≠ .missing then { state with file := content }
  else state

/-- `mixed`: another has written to the same inode, and the two texts run into each other. -/
inductive WriteResult
  | done
  | mixed
  | torn

/-- `notRenamed`: the file cannot be synced, which others do not see, or not renamed; `notSynced`: the
rename is done, but the directory cannot be synced. -/
inductive PublishResult
  | done
  | notRenamed
  | notSynced
  deriving DecidableEq

/-- `failed`: the operation ends with an I/O error. -/
inductive Event
  | look (number : Nat) (failed : Bool)
  | create (number : Nat) (failed : Bool)
  | write (number : Nat) (command : AgentCommand) (result : WriteResult)
  | publish (number : Nat) (result : PublishResult)
  /-- The submitter ends before it has renamed its file. -/
  | abandon (number : Nat)
  | read (failed : Bool)
  | remove (failed : Bool)
  /-- The daemon ends; the next `read` is that of another one. -/
  | stop

/-- `read_request_async` -/
def readRequest (file : RequestFile Request) (failed : Bool) : Except Unit (Option Request) :=
  match failed, file with
  | false, .missing => .ok none
  | false, .holds request => .ok (some request)
  | _, _ => .error ()

def State.submission (state : State) (number : Nat) (submission : Submission) : State :=
  { state with submissions := Function.update state.submissions number submission }

/-- `submit_request_async` up to the write. -/
def look (state : State) (number : Nat) (failed : Bool) : State :=
  match readRequest state.file failed with
  | .ok (some pending) =>
    state.submission number (.returned (some (.alreadyPending pending.command)))
  -- a file that cannot be read does not stand in the way
  | .ok none | .error () => state.submission number .looked

/-- `File::create` empties the temporary file that is there. -/
def create (state : State) (number : Nat) (failed : Bool) : State :=
  if failed then state.submission number (.returned none)
  else { state.submission number (.created state.renames) with temp := .unreadable }

/-- The bytes go to the inode that was opened, wherever it stands by now. -/
def write (state : State) (number node : Nat) (command : AgentCommand) :
    WriteResult → Option State
  | .done => some ((state.submission number .written).fill node (.holds ⟨some number, command⟩))
  | .mixed => match state.held node with
    | .holds _ => some ((state.submission number .written).fill node .unreadable)
    | .missing | .unreadable => none
  | .torn => some ((state.submission number (.returned none)).fill node .unreadable)

/-- The rename moves what stands at the path now, whoever wrote it. -/
def publish (state : State) (number : Nat) (result : PublishResult) : State :=
  if result = .notRenamed ∨ state.temp = .missing then state.submission number (.returned none)
  else
    { state.submission number (.returned (if result = .done then some .queued else none)) with
      file := state.temp, temp := .missing, renames := state.renames + 1 }

/-- `take_local_command` up to the deletion. -/
def read (state : State) (failed : Bool) : State :=
  match readRequest state.file failed with
  | .ok none => state
  | .ok (some request) => { state with taking := true, taken := request.number :: state.taken }
  -- a file that cannot be read is deleted, too
  | .error () => { state with taking := true }

def step (state : State) : Event → Option State
  | .look number failed =>
    if state.submissions number = .idle then some (look state number failed) else none
  | .create number failed =>
    if state.submissions number = .looked then some (create state number failed) else none
  | .write number command result => match state.submissions number with
    | .created node => write state number node command result
    | _ => none
  | .publish number result =>
    if state.submissions number = .written then some (publish state number result) else none
  | .abandon number =>
    if (state.submissions number).staging then some (state.submission number (.returned none))
    else none
  | .read failed => if state.taking then none else some (read state failed)
  | .remove failed =>
    if state.taking then
      some { state with taking := false, file := if failed then state.file else .missing }
    else none
  | .stop => some { state with taking := false }

variable (file temp : RequestFile AgentCommand)

/-- What is there before anybody submits. -/
def RequestFile.old : RequestFile AgentCommand → RequestFile Request
  | .missing => .missing
  | .unreadable => .unreadable
  | .holds command => .holds ⟨none, command⟩

def initial : State :=
  ⟨file.old, temp.old, 0, fun _ => .idle, false, []⟩

/-- The command of every submission that returned `Queued` was read, or is still in the file. -/
def State.Delivered (state : State) : Prop :=
  ∀ number, state.submissions number = .returned (some .queued) →
    some number ∈ state.taken ∨ ∃ command, state.file = .holds ⟨some number, command⟩

def State.Waiting (state : State) : Prop := ∃ request, state.file = .holds request

/-- Nobody else is between creating the temporary file and renaming it. -/
def State.Alone (state : State) (number : Nat) : Prop :=
  ∀ other, other ≠ number → (state.submissions other).staging = false

/-- A submission stages its command alone, and renames it while none is in the file and the daemon is
not about to delete it; the daemon can read every command that is there. -/
def Undisturbed (state : State) : Event → Prop
  | .create number _ => state.Alone number
  | .publish _ _ => ¬ state.Waiting ∧ state.taking = false
  | .read failed => failed = true → ¬ state.Waiting
  | _ => True

/-- What a submission can count on while it stages its command. -/
def State.Owns (state : State) (number : Nat) : Prop :=
  (∀ node, state.submissions number = .created node →
    node = state.renames ∧ state.temp = .unreadable) ∧
  (state.submissions number = .written → ∃ command, state.temp = .holds ⟨some number, command⟩)

/-- The daemon is about to delete only what it has read; at most one submission is staging, in the
inode at the temporary path. -/
structure Safe (state : State) : Prop where
  delivered : state.Delivered
  taking : state.taking = true →
    ∀ request, state.file = .holds request → request.number ∈ state.taken
  own : ∀ number, (state.submissions number).staging = true → state.Owns number ∧ state.Alone number

variable {state next : State} {number : Nat}

/-- Only a submission that is not told `Queued` changes, and nothing at the path of the requests. -/
theorem Safe.moved (safe : Safe state) {submission : Submission}
    (submissions : next.submissions = Function.update state.submissions number submission)
    (unqueued : submission ≠ .returned (some .queued))
    (daemon : next.taking = state.taking ∧ next.taken = state.taken) (file : next.file = state.file)
    (own : ∀ asked, (next.submissions asked).staging = true → next.Owns asked ∧ next.Alone asked) :
    Safe next := by
  refine ⟨fun asked queued => ?_, ?_, own⟩
  · rw [file, daemon.2]
    by_cases same : asked = number
    · rw [submissions, same, update_self] at queued
      exact absurd queued unqueued
    · rw [submissions, update_of_ne same] at queued
      exact safe.delivered asked queued
  · rw [file, daemon.1, daemon.2]
    exact safe.taking

/-- A submission stops staging, or never did. -/
theorem Safe.leave (safe : Safe state) {submission : Submission}
    (unqueued : submission ≠ .returned (some .queued)) (away : submission.staging = false) :
    Safe (state.submission number submission) := by
  refine safe.moved rfl unqueued ⟨rfl, rfl⟩ rfl fun asked => ?_
  have own := safe.own asked
  simp only [State.submission, State.Owns, State.Alone, update_apply] at own ⊢
  grind

theorem Safe.look (safe : Safe state) (failed : Bool) : Safe (look state number failed) := by
  unfold LocalCommand.look
  split <;> exact safe.leave (by simp) rfl

theorem Safe.create (safe : Safe state) (failed : Bool) (alone : state.Alone number) :
    Safe (create state number failed) := by
  cases failed with
  | true => exact safe.leave (by simp) rfl
  | false =>
    refine safe.moved rfl (by simp) ⟨rfl, rfl⟩ rfl fun asked => ?_
    simp only [LocalCommand.create, State.submission, State.Owns, State.Alone] at alone ⊢
    grind [Submission.staging]

/-- The inode that was opened still is the temporary file. -/
theorem Safe.write (safe : Safe state) {node : Nat} {command : AgentCommand}
    {result : WriteResult} (created : state.submissions number = .created node)
    (wrote : write state number node command result = some next) : Safe next := by
  obtain ⟨⟨here, -⟩, alone⟩ := safe.own number (by rw [created]; rfl)
  obtain ⟨rfl, empty⟩ := here node created
  cases result with
  | mixed => simp [LocalCommand.write, State.held, empty] at wrote
  | done | torn =>
    simp only [LocalCommand.write, State.fill, State.submission, if_true, Option.some.injEq] at wrote
    subst wrote
    refine safe.moved rfl (by simp) ⟨rfl, rfl⟩ rfl fun asked => ?_
    simp only [State.Owns, State.Alone, update_apply, RequestFile.holds.injEq,
      Request.mk.injEq, exists_and_left, exists_eq', and_true] at alone ⊢
    grind [Submission.staging]

theorem Safe.publish (safe : Safe state) (result : PublishResult)
    (written : state.submissions number = .written)
    (undisturbed : Undisturbed state (.publish number result)) :
    Safe (publish state number result) := by
  obtain ⟨empty, idle⟩ := undisturbed
  obtain ⟨⟨-, mine⟩, alone⟩ := safe.own number (by rw [written]; rfl)
  unfold LocalCommand.publish
  split
  · exact safe.leave (by simp) rfl
  · obtain ⟨command, held⟩ := mine written
    refine ⟨fun asked queued => ?_, fun taking => absurd (idle.symm.trans taking) (by simp),
      fun asked => ?_⟩
    · by_cases same : asked = number
      · exact .inr ⟨command, same ▸ held⟩
      · simp only [State.submission, update_of_ne same] at queued
        -- whoever queued before was read: its command is not in the file any more
        rcases safe.delivered asked queued with taken | ⟨command, held⟩
        · exact .inl taken
        · exact absurd ⟨_, held⟩ empty
    · simp only [State.submission, update_apply] at alone ⊢
      grind [Submission.staging, State.Alone]

theorem Safe.read (safe : Safe state) (failed : Bool)
    (undisturbed : Undisturbed state (.read failed)) : Safe (read state failed) := by
  unfold LocalCommand.read
  split
  · exact safe
  · rename_i request is
    have held : state.file = .holds request := by
      cases failed <;> cases file : state.file <;> simp_all [readRequest]
    refine { safe with delivered := fun asked queued => ?_, taking := fun _ other same => ?_ }
    · exact (safe.delivered asked queued).imp_left (mem_cons_of_mem _)
    · obtain rfl : request = other := RequestFile.holds.inj (held.symm.trans same)
      exact mem_cons_self
  · rename_i is
    have empty : ¬ state.Waiting := by
      rintro ⟨request, held⟩
      cases failed
      · simp [readRequest, held] at is
      · exact undisturbed rfl ⟨request, held⟩
    exact { safe with taking := fun _ request held => absurd ⟨request, held⟩ empty }

theorem Safe.remove (safe : Safe state) (taking : state.taking = true) :
    Safe { state with taking := false, file := .missing } := by
  refine { safe with delivered := fun asked queued => .inl ?_
                     taking := fun taking => absurd taking (by simp) }
  rcases safe.delivered asked queued with taken | ⟨command, held⟩
  · exact taken
  · exact safe.taking taking _ held

theorem Safe.stop (safe : Safe state) : Safe { state with taking := false } :=
  { safe with taking := fun taking => absurd taking (by simp) }

theorem step_safe (state : State) (event : Event) (next : State) (safe : Safe state)
    (undisturbed : Undisturbed state event) (stepped : step state event = some next) : Safe next := by
  cases event with
  | look number failed =>
    obtain ⟨-, is⟩ := ite_none_right_eq_some.mp stepped
    cases is
    exact safe.look failed
  | create number failed =>
    obtain ⟨-, is⟩ := ite_none_right_eq_some.mp stepped
    cases is
    exact safe.create failed undisturbed
  | write number command result =>
    simp only [step] at stepped
    split at stepped
    · rename_i created
      exact safe.write created stepped
    · cases stepped
  | publish number result =>
    obtain ⟨written, is⟩ := ite_none_right_eq_some.mp stepped
    cases is
    exact safe.publish result written undisturbed
  | abandon number =>
    obtain ⟨-, is⟩ := ite_none_right_eq_some.mp stepped
    cases is
    exact safe.leave (by simp) rfl
  | read failed =>
    obtain ⟨-, is⟩ := ite_none_left_eq_some.mp stepped
    cases is
    exact safe.read failed undisturbed
  | remove failed =>
    obtain ⟨taking, is⟩ := ite_none_right_eq_some.mp stepped
    cases is
    cases failed
    · exact safe.remove taking
    · exact safe.stop
  | stop =>
    cases stepped
    exact safe.stop

theorem initial_safe : Safe (initial file temp) :=
  ⟨fun _ queued => Submission.noConfusion queued, fun taking => Bool.noConfusion taking,
    fun _ staging => Bool.noConfusion staging⟩

/-- **A queued command stays in the file until the daemon has read it**, in every run whose
operations are undisturbed. -/
theorem queued_delivered (events : List Event) (final : State)
    (undisturbed : Along step Undisturbed (initial file temp) events)
    (ran : run step (initial file temp) events = some final) : final.Delivered :=
  (run_induction_along step_safe (initial_safe file temp) undisturbed ran).delivered

def sampleCommand : AgentCommand := ⟨"c", .refreshFacts, "", 0⟩

/-- What a submission does once it has looked. -/
def publishes (number : Nat) : List Event :=
  [.create number false, .write number sampleCommand .done, .publish number .done]

/-- One submission after the other, the first over a file that cannot be read. -/
def inTurn : List Event :=
  .look 0 false :: publishes 0 ++ [.look 1 false, .read false, .remove false, .look 2 false] ++
    publishes 2

theorem queued_delivered_inTurn :
    ∃ final, run step (initial .unreadable .missing) inTurn = some final ∧ final.Delivered ∧
      final.submissions 2 = .returned (some .queued) := by
  refine ⟨_, rfl, queued_delivered .unreadable .missing inTurn _ ?_ rfl, rfl⟩
  simp [inTurn, publishes, Along, Undisturbed, State.Waiting, State.Alone, initial, step, look, create,
    write, publish, read, readRequest, State.submission, State.fill, RequestFile.old,
    update_apply]
  grind [Submission.staging]

/-- Submission 1 looks before the command of submission 0 is there, and replaces it. -/
def bothLooked : List Event :=
  [.look 0 false, .look 1 false] ++ publishes 0 ++ publishes 1

theorem queued_overwritten :
    ∃ final, run step (initial .missing .missing) bothLooked = some final ∧ ¬ final.Delivered := by
  refine ⟨_, rfl, fun delivered => ?_⟩
  rcases delivered 0 rfl with taken | ⟨command, held⟩
  · exact absurd taken not_mem_nil
  · exact absurd (congrArg Request.number (RequestFile.holds.inj held)) (by simp)

end WistAgentd.Runtime.LocalCommand

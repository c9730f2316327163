/- # Exec.World -- files, processes and what the agent asks of them

The agent keeps an execution in several small JSON files that are replaced atomically, and in a
child process. `Op` lists every effect of the scheduler, the local executor, the report pipeline,
quarantine and recovery; `perform` says how the world answers. A `Choice` settles what an operation
leaves open: failure, the clock, the pid of a new child, an identity that cannot be made out.

History variables (`Ledger`) record what happened; no answer depends on them. -/
import WistAgentd.Exec.Documents
import WistAgentd.Theory.Interaction
import Mathlib.Data.List.Dedup

namespace WistAgentd.Exec
open Telemetry (Path IoError ErrorKind)
open Theory.Interaction
open List Option
set_option autoImplicit false

/-! ## Files -/

/-- A JSON document on disk. -/
inductive Stored (α : Type)
  | missing
  | corrupt
  | intact (value : α)
  deriving DecidableEq

namespace Stored

variable {α : Type}

/-- What `metadata` sees. -/
def present : Stored α → Bool
  | .missing => false
  | _ => true

@[simp] theorem present_intact (value : α) : (Stored.intact value).present = true := rfl
@[simp] theorem present_corrupt : (Stored.corrupt : Stored α).present = true := rfl
@[simp] theorem present_missing : (Stored.missing : Stored α).present = false := rfl

theorem present_eq_false {stored : Stored α} : stored.present = false ↔ stored = .missing := by
  cases stored <;> simp [present]

end Stored

/-- Plan and result lie in the execution's directory, the others are named after the execution. -/
inductive File
  | queue
  | plan (workdir : Path)
  | result (workdir : Path)
  | running (executionId : String)
  | reporting (executionId : String)
  | envelope (executionId : String)
  | history (executionId : String)
  deriving DecidableEq

abbrev File.Doc : File → Type
  | .queue => ExecutionQueueState
  | .plan _ => ActionPlan
  | .result _ => ActionResult
  | .running _ => RunningExecutionState
  | .reporting _ => ReportingState
  | .envelope _ => ReportActionResult
  | .history _ => ExecutionHistoryRecord

def File.isResult : File → Bool
  | .result _ => true
  | _ => false

/-- The directories that are listed. -/
inductive Folder
  | running | reporting | history

def Folder.file : Folder → String → File
  | .running => .running
  | .reporting => .reporting
  | .history => .history

/-! ## Processes -/

structure ExitStatus where
  code : Option Int

def ExitStatus.success (status : ExitStatus) : Bool := status.code == some 0

/-- An entry of the process table. `held`: the agent still has the handle, so nobody else reaps
it. -/
structure Process where
  pid : Nat
  token : String
  spawnedFor : Option String
  workdir : Path
  running : Bool
  held : Bool

inductive Signal
  | terminate | kill

inductive SignalAnswer
  | sent | notPermitted | noSuchProcess

/-! ## Parties and history variables -/

/-- Who acts: the daemon, or the submission that was given this execution id. -/
inductive Party
  | daemon
  | submission (executionId : String)
  deriving DecidableEq

/-- `overtaken party`: another party stored the queue since this one started or last looked. -/
structure Ledger where
  enqueued : List ExecutionQueueItem
  overtaken : Party → Bool

structure World where
  files : (file : File) → Stored file.Doc
  names : List String
  /-- Every listed file belongs to a known name. -/
  listed : ∀ (folder : Folder) (name : String), files (folder.file name) ≠ .missing → name ∈ names
  processes : List Process
  /-- Every pid with the identity token of each process that ever had it. -/
  tokens : List (Nat × String)
  ledger : Ledger

/-- The names a write to this file makes known. -/
def File.names : File → List String
  | .running name | .reporting name | .envelope name | .history name => [name]
  | _ => []

theorem Folder.names_file (folder : Folder) (name : String) : (folder.file name).names = [name] := by
  cases folder <;> rfl

variable {world : World} {file : File}

namespace World

section

variable (world : World) (file : File) (content : Stored file.Doc)

def put : World :=
  { world with
    files := Function.update world.files file content
    names := file.names ++ world.names
    listed := by
      intro folder name found
      by_cases same : folder.file name = file
      · rw [← same, Folder.names_file]
        exact mem_append_left _ (mem_singleton.2 rfl)
      · rw [Function.update_of_ne same] at found
        exact mem_append_right _ (world.listed folder name found) }

@[simp] theorem files_put_self :
    (world.put file content).files file = content :=
  Function.update_self ..

theorem files_put_ne {other : File}
    (different : other ≠ file) : (world.put file content).files other = world.files other :=
  Function.update_of_ne different ..

@[simp] theorem ledger_put : (world.put file content).ledger = world.ledger := rfl

end

def queueItems (world : World) : List ExecutionQueueItem :=
  match world.files .queue with
  | .intact queue => queue.items
  | _ => []

theorem queueItems_missing (absent : world.files .queue = .missing) : world.queueItems = [] := by
  rw [queueItems, absent]

theorem queueItems_intact {queue : ExecutionQueueState}
    (stored : world.files .queue = .intact queue) : world.queueItems = queue.items := by
  rw [queueItems, stored]

def processAt (world : World) (pid : Nat) : Option Process :=
  world.processes.find? fun process => process.pid == pid

def present (world : World) (folder : Folder) (name : String) : Bool :=
  (world.files (folder.file name)).present

section

variable (world : World)

/-- `party` looked at `file`. -/
def lookAt (party : Party) (file : File) : World :=
  if file = .queue then
    { world with ledger := { world.ledger with
        overtaken := Function.update world.ledger.overtaken party false } }
  else world

theorem lookAt_of_ne (party : Party) (other : file ≠ .queue) :
    world.lookAt party file = world :=
  if_neg other

/-- What is remembered of a write by `party`: a stored queue overtakes everybody else. -/
def noteWrite (party : Party) : (file : File) → file.Doc → World
  | .queue, queue =>
    { world with ledger := { world.ledger with
        enqueued := world.ledger.enqueued ++
          queue.items.filter fun item => !(world.ledger.enqueued.contains item)
        overtaken := fun other => if other = party then false else true } }
  | _, _ => world

/-- A new entry of the process table. -/
def start (process : Process) : World :=
  { world with
    processes := world.processes ++ [process]
    tokens := (process.pid, process.token) :: world.tokens }

def reap (pid : Nat) : World :=
  { world with processes := world.processes.filter fun process => process.pid != pid }

/-- The pid is free and this token never stood for it. -/
def canStart (pid : Nat) (token : String) : Bool :=
  (world.processAt pid).isNone && !(world.tokens.contains (pid, token)) && pid != 0

end

end World

/-! ## Operations -/

/-- Steps that no modelled code reads back: directories, logs, `runtime.json`, pipes, `state.json`,
the capture tasks. -/
inductive Scratch
  | createWorkdir | runtimeContext | logFiles | childPipes | captures | progressState

inductive Op
  /-- `now_rfc3339`. -/
  | now
  /-- `after_millis_rfc3339`. -/
  | after (millis : Nat)
  /-- `deadline <= now`; a deadline that does not parse has not elapsed. -/
  | elapsed (deadline : String)
  /-- `tokio::fs::metadata`. -/
  | exists (file : File)
  /-- `read_json_async`. -/
  | read (file : File)
  /-- `write_json_atomic_async`. -/
  | write (file : File) (value : file.Doc)
  /-- `remove_file`, a missing file being no error. -/
  | remove (file : File)
  /-- The `.json` names of a directory; none when it does not exist. -/
  | list (folder : Folder)
  /-- `Path::exists` of a directory. -/
  | statFolder (folder : Folder)
  /-- `remove_dir_all` of an execution's directory. -/
  | removeWorkdir (workdir : Path)
  | scratch (what : Scratch)
  | spawn (executionId : String) (workdir : Path)
  /-- `kill(pid, 0)`. -/
  | probe (pid : Nat)
  /-- `process_identity_token`. -/
  | identity (pid : Nat)
  | signal (pid : Nat) (signal : Signal)
  /-- `wait_for_exit`: still running when the time is over. -/
  | lingers (pid : Nat)
  | tryWait (pid : Nat)
  /-- `child.wait()`, with or without a timeout; `none` when the time is over. -/
  | wait (pid : Nat) (timed : Bool)
  | startKill (pid : Nat)
  /-- The handle of the child goes out of scope. -/
  | dropChild

abbrev Op.Ans : Op → Type
  | .now | .after _ => String
  | .elapsed _ | .exists _ | .probe _ | .lingers _ => Bool
  | .read file => file.Doc
  | .list _ => List String
  | .spawn _ _ => Nat
  | .identity _ => Option String
  | .signal _ _ => SignalAnswer
  | .tryWait _ | .wait _ _ => Option ExitStatus
  | .write _ _ | .remove _ | .statFolder _ | .removeWorkdir _ | .scratch _ | .startKill _
  | .dropChild => Unit

inductive Choice
  | done
  | fail (error : IoError)
  /-- The file was replaced, then syncing its directory failed. -/
  | failLate (error : IoError)
  | text (text : String)
  | flag (flag : Bool)
  | names (names : List String)
  | child (pid : Nat) (token : String)
  | hidden
  | denied
  | timeout
  | exited (status : ExitStatus)

def Choice.fails : Choice → Bool
  | .fail _ => true
  | _ => false

/-- `read_proc_stat`: a stat file that is missing or may not be read is no error, and neither is one
that says nothing. -/
def Choice.hidesStat : Choice → Bool
  | .fail error => error.kind == .notFound || error.kind == .permissionDenied
  | .hidden => true
  | _ => false

variable {choice : Choice}

theorem Choice.fails_eq_false : choice.fails = false ↔ ∀ error, choice ≠ .fail error := by
  cases choice <;> simp [Choice.fails]

abbrev App := Prog Op Op.Ans RuntimeError

def notFound : RuntimeError := .io (IoError.new .notFound "No such file or directory (os error 2)")

def unparseable : RuntimeError := .io (IoError.new .other "expected value")

/-- An answer, a failure that changes nothing, or neither. -/
def orFail {α : Type} (world : World) (choice : Choice)
    (answer : Option (Except RuntimeError α × World)) : Option (Except RuntimeError α × World) :=
  match choice with
  | .fail error => some (.error (.io error), world)
  | _ => answer

def readFile (party : Party) (file : File) (choice : Choice) (world : World) :
    Option (Except RuntimeError file.Doc × World) :=
  orFail world choice <|
    match choice, world.files file with
    | .done, .intact value => some (.ok value, world.lookAt party file)
    | .done, .corrupt => some (.error unparseable, world)
    | .done, .missing => some (.error notFound, world)
    | _, _ => none

/-- Replaced by renaming, so never half written. -/
def writeFile (party : Party) (file : File) (value : file.Doc) (choice : Choice) (world : World) :
    Option (Except RuntimeError Unit × World) :=
  orFail world choice <|
    match choice with
    | .done => some (.ok (), (world.noteWrite party file value).put file (.intact value))
    | .failLate error =>
      some (.error (.io error), (world.noteWrite party file value).put file (.intact value))
    | _ => none

def signalProcess (pid : Nat) (choice : Choice) (world : World) :
    Option (Except RuntimeError SignalAnswer × World) :=
  orFail world choice <|
    match choice, world.processAt pid with
    | .done, some _ => some (.ok .sent, world)
    | .done, none => some (.ok .noSuchProcess, world)
    | .denied, _ => some (.ok .notPermitted, world)
    | _, _ => none

/-- How the world answers an operation of `party`. -/
def perform (party : Party) (op : Op) (choice : Choice) (world : World) :
    Option (Except RuntimeError op.Ans × World) :=
  match op with
  | .now | .after _ =>
    match choice with
    | .text text => some (.ok text, world)
    | _ => none
  | .elapsed _ =>
    match choice with
    | .flag flag => some (.ok flag, world)
    | _ => none
  | .exists file =>
    orFail world choice <|
      match choice with
      -- asking for the queue is looking at it: a missing file is an empty queue
      | .done => some (.ok (world.files file).present, world.lookAt party file)
      | _ => none
  | .read file => readFile party file choice world
  | .write file value => writeFile party file value choice world
  | .remove file =>
    orFail world choice <|
      match choice with
      | .done => some (.ok (), world.put file .missing)
      | _ => none
  | .list folder =>
    orFail world choice <|
      match choice with
      | .names names =>
        if names.isPerm (world.names.dedup.filter (world.present folder)) then
          some (.ok names, world)
        else none
      | _ => none
  | .removeWorkdir workdir =>
    orFail world choice <|
      match choice with
      | .done => some (.ok (), (world.put (.plan workdir) .missing).put (.result workdir) .missing)
      | _ => none
  | .scratch _ | .statFolder _ | .startKill _ =>
    orFail world choice <|
      match choice with
      | .done => some (.ok (), world)
      | _ => none
  | .spawn executionId workdir =>
    orFail world choice <|
      match choice with
      | .child pid token =>
        if world.canStart pid token then
          some (.ok pid, world.start ⟨pid, token, some executionId, workdir, true, true⟩)
        else none
      | _ => none
  | .probe pid =>
    orFail world choice <|
      match choice with
      | .done => some (.ok (world.processAt pid).isSome, world)
      | _ => none
  | .identity pid =>
    if choice.hidesStat then some (.ok none, world)
    else orFail world choice <|
      match choice with
      | .done => some (.ok ((world.processAt pid).map (·.token)), world)
      | _ => none
  | .signal pid _ => signalProcess pid choice world
  | .lingers pid =>
    -- whether it is a zombie cannot be read
    if choice.hidesStat then some (.ok (world.processAt pid).isSome, world)
    else orFail world choice <|
      match choice with
      | .done => some (.ok (((world.processAt pid).map (·.running)).getD false), world)
      | _ => none
  | .tryWait pid =>
    orFail world choice <|
      match choice with
      | .done => some (.ok none, world)
      | .exited status => some (.ok (some status), world.reap pid)
      | _ => none
  | .wait pid timed =>
    orFail world choice <|
      match choice with
      | .exited status => some (.ok (some status), world.reap pid)
      | .timeout => if timed then some (.ok none, world) else none
      | _ => none
  | .dropChild =>
    match choice with
    | .done =>
      some (.ok (), { world with processes := world.processes.map ({ · with held := false }) })
    | _ => none

/-! ## What an operation can do -/

theorem orFail_some {α : Type} {next : World} {answer : Option (Except RuntimeError α × World)}
    {result : Except RuntimeError α} (answered : orFail world choice answer = some (result, next)) :
    (next = world ∧ ∃ error, choice = .fail error ∧ result = .error (.io error)) ∨
      answer = some (result, next) := by
  unfold orFail at answered
  split at answered
  · obtain ⟨rfl, rfl⟩ := Prod.mk.inj (some.inj answered)
    exact .inl ⟨rfl, _, rfl, rfl⟩
  · exact .inr answered

theorem orFail_ok {α : Type} {next : World} {answer : Option (Except RuntimeError α × World)}
    {value : α} (answered : orFail world choice answer = some (.ok value, next)) :
    answer = some (.ok value, next) := by
  rcases orFail_some answered with ⟨-, _, -, wrong⟩ | answered
  · cases wrong
  · exact answered

/-- The changes of the world an operation can make, whatever it answers. -/
inductive Effect (party : Party) : Op → World → World → Prop
  | same (op : Op) (s : World) : Effect party op s s
  | looked (op : Op) (touches : op = .exists .queue ∨ op = .read .queue) (s : World) :
      Effect party op s (s.lookAt party .queue)
  | wrote (file : File) (value : file.Doc) (s : World) :
      Effect party (.write file value) s ((s.noteWrite party file value).put file (.intact value))
  | removed (file : File) (s : World) : Effect party (.remove file) s (s.put file .missing)
  | removedWorkdir (workdir : Path) (s : World) :
      Effect party (.removeWorkdir workdir) s
        ((s.put (.plan workdir) .missing).put (.result workdir) .missing)
  | spawned (executionId : String) (workdir : Path) (pid : Nat) (token : String) (s : World)
      (free : s.canStart pid token = true) :
      Effect party (.spawn executionId workdir) s
        (s.start ⟨pid, token, some executionId, workdir, true, true⟩)
  | reaped (op : Op) (pid : Nat) (waits : op = .tryWait pid ∨ ∃ timed, op = .wait pid timed)
      (s : World) : Effect party op s (s.reap pid)
  | dropped (s : World) :
      Effect party .dropChild s { s with processes := s.processes.map ({ · with held := false }) }

theorem next_eq {α : Type} {value result : α} {next : World}
    (answered : some (value, world) = some (result, next)) : world = next :=
  (Prod.mk.inj (some.inj answered)).2

theorem ok_eq {α : Type} {value other : α} {next : World}
    (answered : some ((.ok value : Except RuntimeError α), world) = some (.ok other, next)) :
    value = other ∧ world = next := by
  simpa using answered

variable {party : Party}

theorem effect_orFail {α : Type} {op : Op} {s t : World}
    {answer : Option (Except RuntimeError α × World)} {result : Except RuntimeError α}
    (ran : orFail s choice answer = some (result, t))
    (effect : answer = some (result, t) → Effect party op s t) : Effect party op s t := by
  rcases orFail_some ran with ⟨rfl, -⟩ | answered
  · exact .same ..
  · exact effect answered

/-- **Every answer comes with one of these changes.** -/
theorem perform_effect {op : Op} {s t : World} {answer : Except RuntimeError op.Ans}
    (ran : perform party op choice s = some (answer, t)) : Effect party op s t := by
  cases op with
  | now | after millis | elapsed deadline =>
    simp only [perform] at ran
    split at ran
    · exact next_eq ran ▸ .same ..
    · cases ran
  | «exists» file =>
    refine effect_orFail ran fun answered => ?_
    split at answered
    · obtain rfl := next_eq answered
      by_cases queue : file = .queue
      · subst queue
        exact .looked _ (.inl rfl) s
      · rw [World.lookAt_of_ne _ _ queue]
        exact .same ..
    · cases answered
  | read file =>
    refine effect_orFail ran fun answered => ?_
    split at answered
    · obtain rfl := next_eq answered
      by_cases queue : file = .queue
      · subst queue
        exact .looked _ (.inr rfl) s
      · rw [World.lookAt_of_ne _ _ queue]
        exact .same ..
    · exact next_eq answered ▸ .same ..
    · exact next_eq answered ▸ .same ..
    · cases answered
  | write file value =>
    refine effect_orFail ran fun answered => ?_
    split at answered
    · exact next_eq answered ▸ .wrote ..
    · exact next_eq answered ▸ .wrote ..
    · cases answered
  | remove file | removeWorkdir workdir | statFolder folder | scratch what | startKill pid
  | probe pid =>
    refine effect_orFail ran fun answered => ?_
    split at answered
    · obtain rfl := next_eq answered
      constructor
    · cases answered
  | list folder =>
    refine effect_orFail ran fun answered => ?_
    split at answered
    · exact next_eq (ite_none_right_eq_some.1 answered).2 ▸ .same ..
    · cases answered
  | spawn executionId workdir =>
    refine effect_orFail ran fun answered => ?_
    split at answered
    · obtain ⟨free, answered⟩ := ite_none_right_eq_some.1 answered
      exact next_eq answered ▸ .spawned _ _ _ _ _ free
    · cases answered
  | identity pid | lingers pid =>
    simp only [perform] at ran
    split at ran
    · exact next_eq ran ▸ .same ..
    · refine effect_orFail ran fun answered => ?_
      split at answered
      · exact next_eq answered ▸ .same ..
      · cases answered
  | dropChild =>
    simp only [perform] at ran
    split at ran
    · exact next_eq ran ▸ .dropped s
    · cases ran
  | signal pid signal =>
    refine effect_orFail ran fun answered => ?_
    split at answered
    · exact next_eq answered ▸ .same ..
    · exact next_eq answered ▸ .same ..
    · exact next_eq answered ▸ .same ..
    · cases answered
  | tryWait pid =>
    refine effect_orFail ran fun answered => ?_
    split at answered
    · exact next_eq answered ▸ .same ..
    · exact next_eq answered ▸ .reaped _ _ (.inl rfl) s
    · cases answered
  | wait pid timed =>
    refine effect_orFail ran fun answered => ?_
    split at answered
    · exact next_eq answered ▸ .reaped _ _ (.inr ⟨_, rfl⟩) s
    · exact next_eq (ite_none_right_eq_some.1 answered).2 ▸ .same ..
    · cases answered

/-- A write has happened or not, whatever it answered. -/
theorem effect_write {value : file.Doc} {s t : World}
    (effect : Effect party (.write file value) s t) :
    t = s ∨ t = (s.noteWrite party file value).put file (.intact value) := by
  cases effect with
  | same => exact .inl rfl
  | wrote => exact .inr rfl
  | looked _ wrong | reaped _ _ wrong => simp at wrong

theorem effect_remove {s t : World} (effect : Effect party (.remove file) s t) :
    t = s ∨ t = s.put file .missing := by
  cases effect with
  | same => exact .inl rfl
  | removed => exact .inr rfl
  | looked _ wrong | reaped _ _ wrong => simp at wrong

theorem effect_look {op : Op} {s t : World} (touches : op = .exists .queue ∨ op = .read .queue)
    (effect : Effect party op s t) : t = s ∨ t = s.lookAt party .queue := by
  cases effect with
  | same => exact .inl rfl
  | looked => exact .inr rfl
  | reaped _ _ wrong => rcases touches with rfl | rfl <;> simp at wrong
  | wrote | removed | removedWorkdir | spawned | dropped => simp at touches

/-! ## What an answer says -/

section Answers

variable {party : Party} {choice : Choice} {s t : World}

theorem perform_exists_ok {found : Bool}
    (ran : perform party (.exists file) choice s = some (.ok found, t)) :
    found = (s.files file).present ∧ t = s.lookAt party file := by
  replace ran := orFail_ok ran
  split at ran
  · obtain ⟨rfl, rfl⟩ := ok_eq ran
    exact ⟨rfl, rfl⟩
  · cases ran

theorem perform_read_ok {value : file.Doc}
    (ran : perform party (.read file) choice s = some (.ok value, t)) :
    s.files file = .intact value ∧ t = s.lookAt party file := by
  replace ran := orFail_ok ran
  split at ran
  · obtain ⟨rfl, rfl⟩ := ok_eq ran
    exact ⟨by assumption, rfl⟩
  all_goals simp at ran

/-- A read fails by itself, or because there is nothing to read. -/
theorem perform_read_error {error : RuntimeError}
    (ran : perform party (.read file) choice s = some (.error error, t)) :
    t = s ∧ ((∃ failure, choice = .fail failure) ∨ s.files file = .missing ∨
      s.files file = .corrupt) := by
  rcases orFail_some ran with ⟨rfl, failure, failed, -⟩ | ran
  · exact ⟨rfl, .inl ⟨failure, failed⟩⟩
  · split at ran
    · simp at ran
    · exact ⟨(next_eq ran).symm, .inr (.inr (by assumption))⟩
    · exact ⟨(next_eq ran).symm, .inr (.inl (by assumption))⟩
    · cases ran

theorem perform_write_ok {value : file.Doc}
    (ran : perform party (.write file value) choice s = some (.ok (), t)) :
    t = (s.noteWrite party file value).put file (.intact value) := by
  replace ran := orFail_ok ran
  split at ran
  · exact (next_eq ran).symm
  all_goals simp at ran

theorem perform_remove_ok (ran : perform party (.remove file) choice s = some (.ok (), t)) :
    t = s.put file .missing := by
  replace ran := orFail_ok ran
  split at ran
  · exact (next_eq ran).symm
  · cases ran

theorem perform_list_ok {folder : Folder} {names : List String}
    (ran : perform party (.list folder) choice s = some (.ok names, t)) :
    names.Perm (s.names.dedup.filter (s.present folder)) ∧ t = s := by
  replace ran := orFail_ok ran
  split at ran
  · obtain ⟨same, ran⟩ := ite_none_right_eq_some.1 ran
    obtain ⟨rfl, rfl⟩ := ok_eq ran
    exact ⟨isPerm_iff.1 same, rfl⟩
  · cases ran

/-- Only a read can be refused by what is on disk; everything else fails by itself. -/
theorem perform_error {op : Op} {error : RuntimeError}
    (ran : perform party op choice s = some (.error error, t)) :
    (∃ failure, choice = .fail failure) ∨ (∃ failure, choice = .failLate failure) ∨
      ∃ file, op = .read file := by
  cases op with
  | read file => exact .inr (.inr ⟨file, rfl⟩)
  | write file value =>
    rcases orFail_some ran with ⟨-, failure, failed, -⟩ | ran
    · exact .inl ⟨failure, failed⟩
    · split at ran
      · simp at ran
      · exact .inr (.inl ⟨_, rfl⟩)
      · cases ran
  | now | after | elapsed | dropChild =>
    simp only [perform] at ran
    split at ran <;> simp at ran
  | identity | lingers =>
    simp only [perform] at ran
    split at ran
    · simp at ran
    · rcases orFail_some ran with ⟨-, failure, failed, -⟩ | ran
      · exact .inl ⟨failure, failed⟩
      · split at ran <;> simp at ran
  | list | spawn | wait | «exists» | remove | removeWorkdir | statFolder | scratch | probe | signal
  | startKill | tryWait =>
    rcases orFail_some ran with ⟨-, failure, failed, -⟩ | ran
    · exact .inl ⟨failure, failed⟩
    · split at ran <;> simp at ran

end Answers

end WistAgentd.Exec

/- # Runtime.PollPhases -- the daemon as it polls its work, effect by effect

`refresh_work_grant`: fetch the snapshot, apply it, hand new upgrades to the upgrader, take over
what the upgrader wrote, acknowledge, and store the view if anything changed. The variable `runtime`
of the daemon is part of the host (`Op.recall`, `Op.remember`), so that what it holds between two
effects can be spoken of. Upgraders, the clock and others act between any two effects; the daemon may
crash at any of them and starts again from `state/work.json`. A property of every poll is shown by
giving what holds in each of its phases and checking the effects one by one; the program is walked
through here, once.

* `Phase`, `Phases`: where a poll is, and what holds there.
* `Phases.Sound`: what has to be shown.
* `Phases.Sound.poll`: then it holds of every poll, whatever happens in between. -/
import WistAgentd.Runtime.WorkHost
import WistAgentd.Theory.Service

namespace WistAgentd.Runtime
open Control
open Theory.Interaction
open Option
set_option autoImplicit false

abbrev App := Prog Op Op.Ans Empty

def ask (op : Op) : App op.Ans := Prog.call op

/-- The body of the dispatch loop. -/
def dispatchWork (runtime : AppliedWorkGrant) (work : OneShotWork) : App (AppliedWorkGrant × Bool) :=
  if runtime.hasUpgradeInFlight then pure (runtime, false)
  else do
    match ← ask (.dispatchUpgrade work) with
    | .ok _ =>
      let runtime := runtime.markOneShotExecution work.workId "dispatched"
      ask (.remember runtime)
      let acked ← ask (.ackWork work.workId 0)
      pure (runtime, acked)
    | .error err =>
      let runtime := runtime.markOneShotExecution work.workId "rejected"
      ask (.remember runtime)
      let _ ← ask (.reportWorkResult work.workId "failed"
        ("agentd 未能启动升级器：" ++ err))
      pure (runtime, false)

def dispatchAll (runtime : AppliedWorkGrant) : List OneShotWork → App (AppliedWorkGrant × Bool)
  | [] => pure (runtime, false)
  | work :: rest => do
      let first ← dispatchWork runtime work
      let others ← dispatchAll first.1 rest
      pure (others.1, first.2 || others.2)

def deadDetail (record : UpgradeRecord) : String :=
  "升级器 " ++ toString upgraderDeadAfter ++ "s 没有心跳，判定已死（步骤 " ++ record.step ++ "）；机器可能停在中间态"

/-- A record that says `running` without a fresh heartbeat is that of a dead process. -/
def isDead (record : UpgradeRecord) : App Bool :=
  if record.status == "running" then do
    let fresh ← ask .heartbeatIsFresh
    pure (!fresh)
  else pure false

/-- Report first, then take the status over; what cannot be reported is tried again next time. -/
def takeOver (runtime : AppliedWorkGrant) (record : UpgradeRecord) (current : String) (dead : Bool) :
    App (AppliedWorkGrant × Bool) :=
  let localStatus := if dead then "failed" else record.status
  if current == localStatus then pure (runtime, false)
  else
    match if dead then some ("failed", deadDetail record) else workResultOf record with
    | none => pure (runtime, false)
    | some (status, detail) => do
        let accepted ← ask (.reportWorkResult record.workId status detail)
        if accepted then do
          let runtime := runtime.markOneShotExecution record.workId localStatus
          ask (.remember runtime)
          pure (runtime, true)
        else pure (runtime, false)

def reconcileUpgradeRecord (runtime : AppliedWorkGrant) : App (AppliedWorkGrant × Bool) := do
  match ← ask .readUpgradeRecord with
  | none => pure (runtime, false)
  | some record =>
    match runtime.oneShotExecution[record.workId]? with
    | none => pure (runtime, false)
    | some current => do
        let dead ← isDead record
        takeOver runtime record current dead

def ackAll (runtime : AppliedWorkGrant) : List (String × Int) → App (AppliedWorkGrant × Bool)
  | [] => pure (runtime, false)
  | (workId, planVersion) :: rest => do
      let acked ← ask (.ackWork workId planVersion)
      if acked then do
        let runtime := runtime.markAcked workId planVersion
        ask (.remember runtime)
        let others ← ackAll runtime rest
        pure (others.1, true)
      else ackAll runtime rest

section

variable (contracts : Contracts) (recordedAt : String)

/-- The view is written when something changed; a failed write is only logged. -/
def storeView (runtime : AppliedWorkGrant)
    (changed : Bool) : App Unit :=
  if changed then
    match runtime.deviceView contracts recordedAt with
    | some record => do
        let _ ← ask (.storeWork record)
        pure ()
    | none => pure ()
  else pure ()

/-- What follows a snapshot that was fetched. -/
def pollWith (runtime : AppliedWorkGrant)
    (grant : WorkGrant) : App Unit := do
  let outcome := (runtime.apply contracts grant).1
  let runtime := (runtime.apply contracts grant).2
  ask (.remember runtime)
  let dispatched ← dispatchAll runtime outcome.oneShotToDispatch
  let progressed ← reconcileUpgradeRecord dispatched.1
  let acked ← ackAll progressed.1 outcome.toAck
  storeView contracts recordedAt acked.1
    (outcome.changed || acked.2 || dispatched.2 || progressed.2)

def refreshWorkGrant : App Unit := do
  let runtime ← ask .recall
  match ← ask (.fetchWorkGrant runtime.sequence) with
  | none => pure ()
  | some grant => pollWith contracts recordedAt runtime grant

end

namespace Host

/-- `work::load_async` at the start; a missing or unreadable view is an empty one. -/
def boot (contracts : Contracts) (host : Host) : Host :=
  { host with
    runtime := match host.workFile with
      | .intact record => AppliedWorkGrant.restore contracts record
      | _ => {} }

/-- The memory is gone, and with it the look at a record that was under way. -/
def crash (host : Host) : Host :=
  { host with runtime := {}, ledger := { host.ledger with consulting := none } }

end Host

/-- Every poll is named by the time it stamps on the view. -/
def workService (contracts : Contracts) :
    Service Op Op.Ans Empty Unit Host Choice String Nature where
  perform := perform
  job := refreshWorkGrant contracts
  boot := Host.boot contracts
  crash := Host.crash
  nature := Host.nature

abbrev System := Service.State Op Op.Ans Empty Unit Host

abbrev Event := Service.Event Choice String Nature

/-- A machine on which nothing has happened yet. -/
def System.initial : System := { host := {} }

/-! ## Phases -/

/-- The status the daemon takes over for a work. -/
def localStatus (record : UpgradeRecord) (dead : Bool) : String :=
  if dead then "failed" else record.status

/-- What it reports for it. -/
def resultOf (record : UpgradeRecord) (dead : Bool) : Option (String × String) :=
  if dead then some ("failed", deadDetail record) else workResultOf record

/-- Where a poll is. -/
inductive Phase
  /-- Before the poll. -/
  | idle
  /-- A snapshot was fetched. -/
  | offered (grant : WorkGrant)
  /-- These works are still to be dispatched. -/
  | dispatching (works : List OneShotWork)
  /-- An upgrader was launched and the memory does not know it. -/
  | launched (work : OneShotWork) (rest : List OneShotWork)
  /-- The upgrader could not be launched: before and after the memory knows. -/
  | refused (work : OneShotWork) (rest : List OneShotWork)
  | rejected (work : OneShotWork) (rest : List OneShotWork)
  /-- The record of a known work was read. -/
  | read (record : UpgradeRecord)
  /-- It is known whether its upgrader is dead. -/
  | judged (record : UpgradeRecord) (dead : Bool)
  /-- The result was answered and the memory does not know it. -/
  | reported (record : UpgradeRecord) (dead : Bool)
  /-- The record has been dealt with. -/
  | done

structure Phases where
  rely : Host → Host → Prop
  allowed : Op → Choice → Host → Prop
  /-- At every moment. -/
  always : Host → Prop
  holds : Phase → Host → Prop

instance : CoeFun Phases fun _ => Phase → Host → Prop := ⟨Phases.holds⟩

/-- Looking at files and reporting: only the notes on records and reports differ. -/
structure Alike (host later : Host) : Prop where
  runtime : later.runtime = host.runtime
  upgradeFile : later.upgradeFile = host.upgradeFile
  workFile : later.workFile = host.workFile
  upgraders : later.upgraders = host.upgraders
  clock : later.clock = host.clock
  heartbeat : later.heartbeat = host.heartbeat
  launches : later.ledger.launches = host.ledger.launches
  dropped : later.ledger.dropped = host.ledger.dropped

theorem alike_noteRead (host : Host) (record : UpgradeRecord) : Alike host (host.noteRead record) := by
  unfold Host.noteRead
  repeat' split
  all_goals exact ⟨rfl, rfl, rfl, rfl, rfl, rfl, rfl, rfl⟩

theorem alike_noteHeartbeat (host : Host) : Alike host host.noteHeartbeat := by
  unfold Host.noteHeartbeat
  split <;> exact ⟨rfl, rfl, rfl, rfl, rfl, rfl, rfl, rfl⟩

theorem alike_receive (host : Host) (workId status : String) (reply : Reply) :
    Alike host (host.receive workId status reply) := ⟨rfl, rfl, rfl, rfl, rfl, rfl, rfl, rfl⟩

theorem alike_report {workId status detail : String} {choice : Choice} {host later : Host}
    {answer : Except Empty Bool}
    (ran : perform (.reportWorkResult workId status detail) choice host =
      some (answer, later)) : Alike host later := by
  cases choice with
  | replied reply | unanswered reply =>
    cases ran
    exact alike_receive host workId status reply
  | undelivered =>
    cases ran
    exact ⟨rfl, rfl, rfl, rfl, rfl, rfl, rfl, rfl⟩
  | _ => cases ran

theorem perform_ack {workId : String} {planVersion : Int} {choice : Choice} {host later : Host}
    {answer : Except Empty Bool}
    (ran : perform (.ackWork workId planVersion) choice host = some (answer, later)) :
    later = host := by
  cases choice <;> cases ran <;> rfl

namespace Phases

/-- Others change nothing the phase speaks of. -/
def Lasts (phases : Phases) (P : Host → Prop) : Prop :=
  ∀ host later, P host → phases.rely host later → P later

structure Sound (phases : Phases) (contracts : Contracts) : Prop where
  rely_refl : ∀ host, phases.rely host host
  rely_trans : ∀ {a b c}, phases.rely a b → phases.rely b c → phases.rely a c
  rely_runtime : ∀ {host later}, phases.rely host later → later.runtime = host.runtime
  lasts : ∀ phase, phases.Lasts (phases phase)
  always_of : ∀ {phase host}, phases phase host → phases.always host
  unfetched : ∀ {host}, phases .idle host →
    phases.allowed (.fetchWorkGrant host.runtime.sequence) (.fetched none) host → phases .done host
  fetched : ∀ {host grant}, phases .idle host →
    phases.allowed (.fetchWorkGrant host.runtime.sequence) (.fetched (some grant)) host →
      phases (.offered grant) host
  applied : ∀ {host grant}, phases (.offered grant) host →
    phases (.dispatching (host.runtime.apply contracts grant).1.oneShotToDispatch)
      (host.remember (host.runtime.apply contracts grant).2)
  skipped : ∀ {host work rest}, phases (.dispatching (work :: rest)) host →
    host.runtime.hasUpgradeInFlight = true → phases (.dispatching rest) host
  launches : ∀ {host work rest pid}, phases (.dispatching (work :: rest)) host →
    host.runtime.hasUpgradeInFlight = false → host.upgraders.any (·.pid == pid) = false →
    phases.allowed (.dispatchUpgrade work) (.spawned pid) host →
      phases (.launched work rest) (host.launch pid work.workId)
  marksDispatched : ∀ {host work rest}, phases (.launched work rest) host →
    phases (.dispatching rest)
      (host.remember (host.runtime.markOneShotExecution work.workId "dispatched"))
  refuses : ∀ {host work rest detail}, phases (.dispatching (work :: rest)) host →
    host.runtime.hasUpgradeInFlight = false →
    phases.allowed (.dispatchUpgrade work) (.refused detail) host → phases (.refused work rest) host
  marksRejected : ∀ {host work rest}, phases (.refused work rest) host →
    phases (.rejected work rest)
      (host.remember (host.runtime.markOneShotExecution work.workId "rejected"))
  reportsRejected : ∀ {host work rest detail choice answer later}, phases (.rejected work rest) host →
    phases.allowed (.reportWorkResult work.workId "failed" detail) choice host →
    perform (.reportWorkResult work.workId "failed" detail) choice host = some (answer, later) →
      phases (.dispatching rest) later
  unread : ∀ {host}, phases (.dispatching []) host →
    (∀ record, host.upgradeFile ≠ .intact record) → phases .done host
  readUnknown : ∀ {host record}, phases (.dispatching []) host → host.upgradeFile = .intact record →
    host.runtime.oneShotExecution[record.workId]? = none → phases .done (host.noteRead record)
  readKnown : ∀ {host record}, phases (.dispatching []) host → host.upgradeFile = .intact record →
    host.runtime.oneShotExecution.contains record.workId = true →
    phases.allowed .readUpgradeRecord .done host → phases (.read record) (host.noteRead record)
  judgesHeartbeat : ∀ {host record}, phases (.read record) host → record.status = "running" →
    phases (.judged record (!isFresh host.clock host.heartbeat)) host.noteHeartbeat
  judgesRecord : ∀ {host record}, phases (.read record) host → record.status ≠ "running" →
    phases (.judged record false) host
  agrees : ∀ {host record dead}, phases (.judged record dead) host →
    host.runtime.oneShotExecution[record.workId]? = some (localStatus record dead) →
      phases .done host
  unmapped : ∀ {host record dead}, phases (.judged record dead) host → resultOf record dead = none →
    phases .done host
  reports : ∀ {host record dead current status detail reply}, phases (.judged record dead) host →
    host.runtime.oneShotExecution[record.workId]? = some current →
    current ≠ localStatus record dead → resultOf record dead = some (status, detail) →
    phases.allowed (.reportWorkResult record.workId status detail) (.replied reply) host →
      phases (.reported record dead) (host.receive record.workId status reply)
  unanswered : ∀ {host record dead status detail reply}, phases (.judged record dead) host →
    resultOf record dead = some (status, detail) →
    phases.allowed (.reportWorkResult record.workId status detail) (.unanswered reply) host →
      phases .done (host.receive record.workId status reply)
  undelivered : ∀ {host record dead status detail}, phases (.judged record dead) host →
    phases.allowed (.reportWorkResult record.workId status detail) .undelivered host →
      phases .done host
  takesOver : ∀ {host record dead}, phases (.reported record dead) host →
    phases .done
      (host.remember (host.runtime.markOneShotExecution record.workId (localStatus record dead)))
  acks : ∀ {host workId planVersion}, phases .done host →
    phases .done (host.remember (host.runtime.markAcked workId planVersion))
  stores : ∀ {host record recordedAt}, phases .done host →
    host.runtime.deviceView contracts recordedAt = some record →
      phases .done { host with workFile := .intact record }

def setting (phases : Phases) (refl : ∀ host, phases.rely host host)
    (trans : ∀ {a b c}, phases.rely a b → phases.rely b c → phases.rely a c) :
    Setting Op Op.Ans Empty Host Choice where
  perform := perform
  allowed := phases.allowed
  rely := phases.rely
  guar _ host := phases.always host
  rely_refl := refl
  rely_trans := trans

namespace Sound

variable {phases : Phases} {contracts : Contracts} (sound : phases.Sound contracts)

/-- A poll among the others the phases allow for. -/
abbrev within (sound : phases.Sound contracts) : Setting Op Op.Ans Empty Host Choice :=
  phases.setting sound.rely_refl sound.rely_trans

/-- The memory is `runtime`, in this phase. -/
def At (phases : Phases) (runtime : AppliedWorkGrant) (phase : Phase) (host : Host) : Prop :=
  host.runtime = runtime ∧ phases phase host

variable {α : Type} {E : Empty → Host → Prop} {runtime : AppliedWorkGrant} {phase after : Phase}

theorem stable_at : Stable sound.within (At phases runtime phase) :=
  fun host later held others =>
    ⟨(sound.rely_runtime others).trans held.1, sound.lasts phase host later held.2 others⟩

/-- One effect, and what follows it. -/
theorem ask_bind {op : Op} {Q : α → Host → Prop} {next : op.Ans → App α}
    (answers : ∀ host choice value later, At phases runtime phase host →
      phases.allowed op choice host → perform op choice host = some (.ok value, later) →
        phases.always later ∧ Safe sound.within Q E (next value) later) :
    Spec sound.within (At phases runtime phase) (ask op >>= next) Q E := by
  intro host held host₁ others choice answer later allowed ran
  cases answer with
  | ok value =>
    exact answers host₁ choice value later (stable_at sound host host₁ held others) allowed ran
  | error error => cases error

/-- The memory is replaced. -/
theorem remember_bind {next : AppliedWorkGrant} {Q : α → Host → Prop} {rest : Unit → App α}
    (marks : ∀ host, At phases runtime phase host → phases after (host.remember next))
    (tail : Spec sound.within (At phases next after) (rest ()) Q E) :
    Spec sound.within (At phases runtime phase) (ask (.remember next) >>= rest) Q E := by
  refine ask_bind sound fun host choice value later held _ ran => ?_
  obtain rfl := perform_remember ran
  exact ⟨sound.always_of (marks host held), tail _ ⟨rfl, marks host held⟩⟩

theorem pure_at {flag : Bool} (holds : ∀ host, At phases runtime phase host → phases after host) :
    Spec sound.within (At phases runtime phase) (pure (runtime, flag))
      (fun out => At phases out.1 after) E :=
  spec_pure (stable_at sound) fun host held => ⟨held.1, holds host held⟩

theorem pure_here {flag : Bool} {host : Host} (here : host.runtime = runtime)
    (held : phases after host) : phases.always host ∧
      Safe sound.within (fun out => At phases out.1 after) E (pure (runtime, flag)) host :=
  ⟨sound.always_of held, pure_at sound (fun _ here => here.2) _ ⟨here, held⟩⟩

/-! ## The parts of the poll -/

section

variable (work : OneShotWork) (rest : List OneShotWork)

theorem launched_spec :
    Spec sound.within (At phases runtime (.launched work rest))
      (do
        let runtime := runtime.markOneShotExecution work.workId "dispatched"
        ask (.remember runtime)
        let acked ← ask (.ackWork work.workId 0)
        pure (runtime, acked))
      (fun out => At phases out.1 (.dispatching rest)) E := by
  refine remember_bind sound (fun host held => held.1 ▸ sound.marksDispatched held.2) ?_
  refine ask_bind sound fun host choice value later held _ ran => ?_
  obtain rfl := perform_ack ran
  exact pure_here sound held.1 held.2

theorem refused_spec (err : String) :
    Spec sound.within (At phases runtime (.refused work rest))
      (do
        let runtime := runtime.markOneShotExecution work.workId "rejected"
        ask (.remember runtime)
        let _ ← ask (.reportWorkResult work.workId "failed"
          ("agentd 未能启动升级器：" ++ err))
        pure (runtime, false))
      (fun out => At phases out.1 (.dispatching rest)) E := by
  refine remember_bind sound (fun host held => held.1 ▸ sound.marksRejected held.2) ?_
  refine ask_bind sound fun host choice value later held allowed ran => ?_
  exact pure_here sound ((alike_report ran).runtime.trans held.1)
    (sound.reportsRejected held.2 allowed ran)

theorem dispatchWork_spec :
    Spec sound.within (At phases runtime (.dispatching (work :: rest))) (dispatchWork runtime work)
      (fun out => At phases out.1 (.dispatching rest)) E := by
  unfold dispatchWork
  split
  · rename_i flying
    exact pure_at sound fun host held => sound.skipped held.2 (held.1 ▸ flying)
  · rename_i free
    refine ask_bind sound fun host choice value later held allowed ran => ?_
    have free' : host.runtime.hasUpgradeInFlight = false := by
      rw [held.1]
      simpa using free
    cases choice with
    | spawned pid =>
      obtain ⟨unused, answered⟩ := ite_none_left_eq_some.1 ran
      cases answered
      have after := sound.launches held.2 free' (by simpa using unused) allowed
      exact ⟨sound.always_of after, launched_spec sound work rest _ ⟨held.1, after⟩⟩
    | refused detail =>
      cases ran
      have after := sound.refuses held.2 free' allowed
      exact ⟨sound.always_of after, refused_spec sound work rest detail _ ⟨held.1, after⟩⟩
    | _ => cases ran

end

theorem dispatchAll_spec (works : List OneShotWork) :
    Spec sound.within (At phases runtime (.dispatching works)) (dispatchAll runtime works)
      (fun out => At phases out.1 (.dispatching [])) E := by
  induction works generalizing runtime with
  | nil => exact pure_at sound fun _ held => held.2
  | cons work rest ih =>
    refine spec_bind (dispatchWork_spec sound work rest) fun first => ?_
    refine spec_bind ih fun others => ?_
    exact spec_pure (stable_at sound) fun _ => id

theorem takeOver_spec {record : UpgradeRecord} {current : String} (dead : Bool)
    (known : runtime.oneShotExecution[record.workId]? = some current) :
    Spec sound.within (At phases runtime (.judged record dead)) (takeOver runtime record current dead)
      (fun out => At phases out.1 .done) E := by
  unfold takeOver
  by_cases equal : current = localStatus record dead
  · rw [if_pos (by simpa [localStatus] using equal)]
    refine pure_at sound fun host held => sound.agrees held.2 ?_
    rw [held.1, known, equal]
  · rw [if_neg (by simpa [localStatus] using equal)]
    have folded : (if dead then some ("failed", deadDetail record) else workResultOf record) =
        resultOf record dead := rfl
    rw [folded]
    cases result : resultOf record dead with
    | none => exact pure_at sound fun host held => sound.unmapped held.2 result
    | some mapped =>
      refine ask_bind sound fun host choice value later held allowed ran => ?_
      cases choice with
      | replied reply =>
        cases ran
        have after := sound.reports held.2 (held.1 ▸ known) equal result allowed
        refine ⟨sound.always_of after, ?_⟩
        refine remember_bind sound (fun _ here => here.1 ▸ sound.takesOver here.2) ?_
          _ ⟨held.1, after⟩
        exact pure_at sound fun _ here => here.2
      | unanswered reply =>
        cases ran
        exact pure_here sound held.1 (sound.unanswered held.2 result allowed)
      | undelivered =>
        cases ran
        exact pure_here sound held.1 (sound.undelivered held.2 allowed)
      | _ => cases ran

theorem isDead_spec (record : UpgradeRecord) :
    Spec sound.within (At phases runtime (.read record)) (isDead record)
      (fun dead => At phases runtime (.judged record dead)) E := by
  unfold isDead
  split
  · rename_i running
    refine ask_bind sound fun host choice value later held _ ran => ?_
    cases choice <;> cases ran
    have after := sound.judgesHeartbeat held.2 (by simpa using running)
    exact ⟨sound.always_of after, fun later others => stable_at sound _ later
      ⟨(alike_noteHeartbeat host).runtime.trans held.1, after⟩ others⟩
  · rename_i other
    exact spec_pure (stable_at sound) fun host held =>
      ⟨held.1, sound.judgesRecord held.2 (by simpa using other)⟩

theorem reconcile_spec :
    Spec sound.within (At phases runtime (.dispatching [])) (reconcileUpgradeRecord runtime)
      (fun out => At phases out.1 .done) E := by
  refine ask_bind sound fun host choice value later held allowed ran => ?_
  cases choice <;> simp only [perform, reduceCtorEq] at ran
  split at ran
  · rename_i record stored
    cases ran
    have same := (alike_noteRead host record).runtime.trans held.1
    dsimp only
    cases known : runtime.oneShotExecution[record.workId]? with
    | none => exact pure_here sound same (sound.readUnknown held.2 stored (held.1 ▸ known))
    | some current =>
      have after := sound.readKnown held.2 stored (by
        rw [held.1, Std.ExtTreeMap.contains_eq_isSome_getElem?, known]
        rfl) allowed
      refine ⟨sound.always_of after, ?_⟩
      exact spec_bind (isDead_spec sound record)
        (fun dead => takeOver_spec sound dead known) _ ⟨same, after⟩
  · rename_i damaged
    cases ran
    exact pure_here sound held.1 (sound.unread held.2 damaged)

theorem ackAll_spec (items : List (String × Int)) :
    Spec sound.within (At phases runtime .done) (ackAll runtime items)
      (fun out => At phases out.1 .done) E := by
  induction items generalizing runtime with
  | nil => exact pure_at sound fun _ held => held.2
  | cons item rest ih =>
    refine ask_bind sound fun host choice value later held _ ran => ?_
    obtain rfl := perform_ack ran
    refine ⟨sound.always_of held.2, ?_⟩
    cases value with
    | false => exact ih _ held
    | true =>
      refine remember_bind sound (fun _ here => here.1 ▸ sound.acks here.2) ?_ _ held
      refine spec_bind ih fun others => ?_
      exact spec_pure (stable_at sound) fun _ => id

theorem storeView_spec (recordedAt : String) (changed : Bool) :
    Spec sound.within (At phases runtime .done) (storeView contracts recordedAt runtime changed)
      (fun _ => phases .done) E := by
  unfold storeView
  split
  · cases viewed : runtime.deviceView contracts recordedAt with
    | none => exact spec_pure (stable_at sound) fun _ held => held.2
    | some record =>
      refine ask_bind sound fun host choice value later held _ ran => ?_
      have after : phases .done later := by
        cases choice <;> cases ran
        · exact sound.stores held.2 (held.1 ▸ viewed)
        · exact held.2
      exact ⟨sound.always_of after, fun _ others => sound.lasts .done later _ after others⟩
  · exact spec_pure (stable_at sound) fun _ held => held.2

theorem pollWith_spec (recordedAt : String) (grant : WorkGrant) :
    Spec sound.within (At phases runtime (.offered grant))
      (pollWith contracts recordedAt runtime grant) (fun _ => phases .done) E := by
  refine remember_bind sound (fun _ held => held.1 ▸ sound.applied held.2) ?_
  refine spec_bind (dispatchAll_spec sound _) fun dispatched => ?_
  refine spec_bind (reconcile_spec sound) fun progressed => ?_
  refine spec_bind (ackAll_spec sound _) fun acked => ?_
  exact storeView_spec sound recordedAt _

/-- **Every poll goes through its phases**, whatever the others do in between. -/
theorem poll (recordedAt : String) :
    Spec sound.within (phases .idle) (refreshWorkGrant contracts recordedAt)
      (fun _ => phases .done) E := by
  intro host idle
  refine ask_bind sound (fun host choice value later held _ ran => ?_) host ⟨rfl, idle⟩
  cases choice <;> cases ran
  refine ⟨sound.always_of held.2, ?_⟩
  refine ask_bind sound (fun host' choice value later held allowed ran => ?_) host
    ⟨rfl, held.2⟩
  cases choice <;> cases ran
  rw [← held.1] at allowed ⊢
  cases value with
  | none =>
    have after := sound.unfetched held.2 allowed
    exact ⟨sound.always_of after, fun later others => sound.lasts .done _ later after others⟩
  | some grant =>
    have after := sound.fetched held.2 allowed
    exact ⟨sound.always_of after, pollWith_spec sound recordedAt grant _ ⟨rfl, after⟩⟩

end Sound

end Phases

end WistAgentd.Runtime

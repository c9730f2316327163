/- # Upgrade.Readiness -- who wrote the version in `agent_runtime.json`, and when a success is one

Every agentd process writes its own version when it starts, and from then on writes back what it has
read. Once neither the file nor a process of before the restart has a version, only a process started
since can bring it into the file. The upgrader takes the new version for running as soon as the file
names it; but the file outlives processes, and may have named that version all along, as it does when
a version is installed over itself.

* `Truthful`, `Settled`: a success means that a process started since has written the version; where
  the version in the file can only come from one.
* `nature_later`: whatever the processes do keeps that.
* `Waiting`, `Ready`: the attempt before and after its restart.
* `success_truthful`: along every run in which, at the restart, neither the file nor a running
  process has the target version. -/
import WistAgentd.Upgrade.Rollback

namespace WistAgentd.Upgrade
open Exec (Stored)
open List Option
open Theory.Interaction
open Theory.Interaction.Service
open Theory.Transition
set_option autoImplicit false

section

variable {machine : Machine} {version : String} {process : Process} {other : String}

namespace Machine

/-- A process started after the restart has written this version. -/
def Wrote (machine : Machine) (version : String) : Prop :=
  ∃ pid, (pid, version) ∈ machine.ledger.writes

/-- **A success is told only if the new version has come up.** -/
def Truthful (machine : Machine) : Prop :=
  ∀ outcome, machine.ledger.outcome = some outcome → outcome.record.status = "succeeded" →
    outcome.dryRun = false → machine.Wrote outcome.record.toVersion

/-- Neither the file nor a process has this version. -/
structure Clear (machine : Machine) (version : String) : Prop where
  file : machine.runtimeFile ≠ .intact version
  processes : ∀ process ∈ machine.processes, process.version ≠ version ∧ process.held ≠ some version

instance (machine : Machine) (version : String) : Decidable (machine.Clear version) :=
  decidable_of_iff (machine.runtimeFile ≠ .intact version ∧
      ∀ process ∈ machine.processes, process.version ≠ version ∧ process.held ≠ some version)
    ⟨fun both => ⟨both.1, both.2⟩, fun clear => ⟨clear.file, clear.processes⟩⟩

/-- The same of the processes that were there before the restart. -/
structure Unheld (machine : Machine) (version : String) : Prop where
  file : machine.runtimeFile ≠ .intact version
  old : ∀ process ∈ machine.processes, process.fresh = false →
    process.version ≠ version ∧ process.held ≠ some version

/-- Where the file names the version, a new process has written it. -/
def Settled (machine : Machine) (version : String) : Prop :=
  machine.Wrote version ∨ machine.Unheld version

theorem Settled.wrote (settled : machine.Settled version)
    (named : runningVersion machine.runtimeFile = some version) : machine.Wrote version := by
  rcases settled with wrote | unheld
  · exact wrote
  · cases file : machine.runtimeFile with
    | intact other =>
      rw [file] at named
      cases named
      exact absurd file unheld.file
    | missing | corrupt =>
      rw [file] at named
      cases named

/-! ## What the processes do -/

/-- What they leave alone, and what they keep. -/
structure Later (machine later : Machine) : Prop where
  outcome : later.ledger.outcome = machine.ledger.outcome
  restarted : later.ledger.restarted = machine.ledger.restarted
  target : later.record.toVersion = machine.record.toVersion
  wrote : ∀ version, machine.Wrote version → later.Wrote version
  settled : machine.ledger.restarted = true →
    ∀ version, machine.Settled version → later.Settled version

theorem Later.refl (machine : Machine) : Later machine machine :=
  ⟨rfl, rfl, rfl, fun _ => id, fun _ _ => id⟩

theorem Later.trans {a b c : Machine} (first : Later a b) (second : Later b c) : Later a c :=
  ⟨second.outcome.trans first.outcome, second.restarted.trans first.restarted,
    second.target.trans first.target, fun version held => second.wrote version (first.wrote version held),
    fun restarted version held =>
      second.settled (first.restarted.trans restarted) version (first.settled restarted version held)⟩

/-- Files and notes of the upgrader do not enter. -/
theorem Later.of_same {later : Machine} (file : later.runtimeFile = machine.runtimeFile)
    (processes : later.processes = machine.processes) (ledger : later.ledger = machine.ledger)
    (target : later.record.toVersion = machine.record.toVersion) : Later machine later where
  outcome := by rw [ledger]
  restarted := by rw [ledger]
  target := target
  wrote version := by
    unfold Wrote
    rw [ledger]
    exact id
  settled _ version settled := by
    refine settled.imp ?_ fun unheld => ⟨file ▸ unheld.file, processes ▸ unheld.old⟩
    unfold Wrote
    rw [ledger]
    exact id

theorem wrote_write (held : machine.Wrote other) : (machine.write process version).Wrote other := by
  obtain ⟨pid, mem⟩ := held
  refine ⟨pid, ?_⟩
  unfold Machine.write
  split
  · exact mem_append_left _ mem
  · exact mem

/-- A process writes a version that is its own, or that it has read. -/
theorem settled_write (settled : machine.Settled other)
    (own : machine.Unheld other → process.fresh = false → version ≠ other) :
    (machine.write process version).Settled other := by
  rcases settled with wrote | unheld
  · exact .inl (wrote_write wrote)
  · by_cases same : version = other
    · cases new : process.fresh with
      | false => exact absurd same (own unheld new)
      | true => exact .inl ⟨process.pid, by simp [Machine.write, new, same]⟩
    · refine .inr ⟨fun file => same ?_, unheld.old⟩
      exact Stored.intact.inj file

theorem settled_updateProcess {updated : Process} (settled : machine.Settled other)
    (fresh : updated.fresh = process.fresh) (version : updated.version = process.version)
    (mem : process ∈ machine.processes)
    (held : machine.Unheld other → process.fresh = false → updated.held ≠ some other) :
    (machine.updateProcess process updated).Settled other := by
  rcases settled with wrote | unheld
  · exact .inl wrote
  · refine .inr ⟨unheld.file, fun now listed old => ?_⟩
    obtain ⟨before, was, rfl⟩ := mem_map.1 listed
    split at old
    · rename_i own
      rw [if_pos own]
      rw [fresh] at old
      exact ⟨version ▸ (unheld.old process mem old).1, held unheld old⟩
    · rename_i other
      rw [if_neg other]
      exact unheld.old before was old

/-- What an old process reads is not the version. -/
theorem loaded_ne (unheld : machine.Unheld other) (mem : process ∈ machine.processes)
    (old : process.fresh = false) (loaded : machine.loaded process = some version) :
    version ≠ other := by
  rintro rfl
  unfold Machine.loaded at loaded
  split at loaded
  · rename_i file
    cases loaded
    exact unheld.file file
  · exact (unheld.old process mem old).1 (some.inj loaded)
  · cases loaded

theorem later_write
    (own : ∀ other, machine.Unheld other → process.fresh = false → version ≠ other) :
    Later machine (machine.write process version) :=
  ⟨rfl, rfl, rfl, fun _ => wrote_write, fun _ other settled => settled_write settled (own other)⟩

theorem nature_later {next : Machine} {event : Nature} (acted : machine.nature event = some next) :
    Later machine next ∧ next.record = machine.record := by
  cases event with
  | spawn pid version =>
    simp only [nature] at acted
    split at acted
    · cases acted
    · cases acted
      refine ⟨⟨rfl, rfl, rfl, fun _ => id, fun restarted other settled => ?_⟩, rfl⟩
      refine settled.imp id fun unheld => ⟨unheld.file, fun process mem old => ?_⟩
      rcases mem_append.1 mem with before | new
      · exact unheld.old process before old
      · -- it counts as started after the restart
        rw [mem_singleton.1 new, restarted] at old
        cases old
  | startUp pid =>
    obtain ⟨process, found, mapped⟩ := bind_eq_some_iff.1 acted
    obtain ⟨version, -, rfl⟩ := map_eq_some_iff.1 mapped
    have mem := mem_of_find?_eq_some found
    exact ⟨later_write fun other unheld old => (unheld.old process mem old).1, rfl⟩
  | load pid =>
    obtain ⟨process, found, mapped⟩ := bind_eq_some_iff.1 acted
    obtain ⟨version, loaded, rfl⟩ := map_eq_some_iff.1 mapped
    have mem := mem_of_find?_eq_some found
    refine ⟨⟨rfl, rfl, rfl, fun _ => id, fun _ other settled => ?_⟩, rfl⟩
    refine settled_updateProcess settled rfl rfl mem fun unheld old same => ?_
    exact loaded_ne unheld mem old loaded (some.inj same)
  | store pid =>
    obtain ⟨process, found, mapped⟩ := bind_eq_some_iff.1 acted
    obtain ⟨version, held, rfl⟩ := map_eq_some_iff.1 mapped
    have mem := mem_of_find?_eq_some found
    have wrote := @later_write machine version process fun other unheld old same =>
      (unheld.old process mem old).2 (held.trans (congrArg some same))
    refine ⟨wrote.trans ⟨rfl, rfl, rfl, fun _ => id, fun _ other settled => ?_⟩, rfl⟩
    exact settled_updateProcess settled rfl rfl mem fun _ _ same => by cases same
  | discard pid =>
    obtain ⟨process, -, rfl⟩ := map_eq_some_iff.1 acted
    refine ⟨⟨rfl, rfl, rfl, fun _ => id, fun _ other settled => ?_⟩, rfl⟩
    exact settled.imp id fun unheld => ⟨by simp, unheld.old⟩
  | enroll pid =>
    obtain ⟨process, found, rfl⟩ := map_eq_some_iff.1 acted
    have mem := mem_of_find?_eq_some found
    exact ⟨later_write fun other unheld old => (unheld.old process mem old).1, rfl⟩
  | exit pid =>
    obtain ⟨process, -, rfl⟩ := map_eq_some_iff.1 acted
    refine ⟨⟨rfl, rfl, rfl, fun _ => id, fun _ other settled => ?_⟩, rfl⟩
    exact settled.imp id fun unheld =>
      ⟨unheld.file, fun process mem => unheld.old process (mem_of_mem_filter mem)⟩

end Machine

end

variable {machine : Machine} {α : Type} {prog : App α}

/-! ## The upgrader among them -/

/-- When the service is restarted, neither the file nor a process has the target version. -/
def RestartsClear (machine : Machine) : Option Op → Prop
  | some (.restart _) => machine.ledger.restarted = false → machine.Clear machine.record.toVersion
  | _ => True

instance (machine : Machine) : (asked : Option Op) → Decidable (RestartsClear machine asked)
  | some (.restart _) => inferInstanceAs (Decidable (_ → _))
  | none => .isTrue trivial
  | some (.begin _) | some (.step _) | some (.target _) | some .rolledBack | some (.finish _ _)
  | some .recall | some .storeRecord | some (.fetchPackage _) | some (.writeBare _)
  | some (.unpack _) | some (.askVersion _) | some (.present _) | some (.copy _ _)
  | some (.install _ _) | some (.move _ _) | some (.remove _) | some .runningVersion
  | some .deadlinePassed | some (.conclude _) => .isTrue trivial

def readyWork : Setting Op Op.Ans UpgradeError Machine Choice where
  perform := perform
  allowed op _ machine := RestartsClear machine (some op)
  rely machine later := Machine.Later machine later ∧ later.record = machine.record
  guar _ later := later.Truthful
  rely_refl machine := ⟨.refl machine, rfl⟩
  rely_trans first second := ⟨first.1.trans second.1, second.2.trans first.2⟩

/-- Effects that neither begin, restart nor end an attempt, nor set its target. -/
def Op.isPlain : Op → Bool
  | .begin _ | .target _ | .restart _ | .conclude _ => false
  | _ => true

theorem perform_plain {op : Op} {choice : Choice} {next : Machine}
    {answer : Except UpgradeError op.Ans} (plain : op.isPlain = true)
    (ran : perform op choice machine = some (answer, next)) : Machine.Later machine next := by
  unfold perform at ran
  split at ran
  all_goals try cases plain
  all_goals try
    obtain ⟨content, -, same⟩ := map_eq_some_iff.1 ran
    obtain ⟨-, rfl⟩ := Prod.mk.inj same
  all_goals try cases ran
  all_goals exact .of_same rfl rfl rfl rfl

/-- The attempt goes on. -/
def Going (machine : Machine) : Prop := machine.ledger.outcome = none

theorem Going.truthful (going : Going machine) : machine.Truthful := by
  intro outcome spent
  rw [going] at spent
  cases spent

theorem Going.later {later : Machine} (going : Going machine) (moved : Machine.Later machine later) :
    Going later := moved.outcome.trans going

theorem course_later : Course readyWork Going Machine.Later where
  refl := .refl
  trans := .trans
  rely := And.left
  stable _ _ going others := going.later others.1

theorem moves_plain (plain : prog.Uses (fun op => op.isPlain = true) fun _ _ => True) :
    Moves readyWork Going Machine.Later prog :=
  course_later.closed.uses (fun _ plain => course_later.call fun _ _ _ _ going _ ran =>
    have moved := perform_plain plain ran
    ⟨(going.later moved).truthful, going.later moved, moved⟩) plain

theorem plain_of_reads (reads : Reads prog) :
    prog.Uses (fun op => op.isPlain = true) fun _ _ => True :=
  reads.mono fun op read => by cases op <;> first | rfl | cases read

section Plain

/-- Only plain effects. -/
def Plainly {α : Type} (prog : App α) : Prop := prog.Uses (fun op => op.isPlain = true) fun _ _ => True

theorem plainly_ask {op : Op} (plain : op.isPlain = true) : Plainly (ask op) := Prog.uses_call plain

theorem plainly_bind {β : Type} {next : α → App β} (head : Plainly prog)
    (tail : ∀ value, Plainly (next value)) : Plainly (prog >>= next) := Prog.uses_bind head tail

theorem plainly_restoreBackup (backup : Backup) : Plainly (restoreBackup backup) := by
  unfold restoreBackup
  split
  · refine plainly_bind (plainly_ask rfl) fun found => ?_
    cases found with
    | true => exact plainly_bind (plainly_ask rfl) fun _ => plainly_ask rfl
    | false => trivial
  · refine plainly_bind (plainly_ask rfl) fun found => ?_
    cases found with
    | true => exact plainly_ask rfl
    | false => trivial

theorem plainly_restoreBackups (backups : List Backup) : Plainly (restoreBackups backups) := by
  induction backups with
  | nil => trivial
  | cons backup rest ih => exact plainly_bind (plainly_restoreBackup backup) fun _ => ih

theorem plainly_backUp (version : String) (existed : Bool) (name : String) :
    Plainly (backUp version existed name) := by
  unfold backUp
  split
  · refine plainly_bind (plainly_ask rfl) fun found => ?_
    cases found with
    | true => trivial
    | false => exact plainly_ask rfl
  · trivial

theorem plainly_installBinaries (version : String) (dryRun : Bool) (items : List StagedBinary) :
    ∀ backups, Plainly (installBinaries version dryRun items backups) := by
  induction items with
  | nil => exact fun _ => trivial
  | cons item rest ih =>
    intro backups
    refine plainly_bind (plainly_ask rfl) fun existed => ?_
    split
    · exact ih _
    · refine plainly_bind (Prog.uses_attempt (plainly_bind (plainly_backUp version existed item.name)
        fun _ => plainly_bind (plainly_ask rfl) fun _ => plainly_ask rfl)) fun result => ?_
      cases result with
      | ok value => exact ih _
      | error error =>
        refine plainly_bind (Prog.uses_attempt (plainly_restoreBackups backups)) fun undone => ?_
        cases undone <;> trivial

end Plain

/-! ## The phases of the attempt -/

/-- The target is known and the service has not been restarted. -/
structure Waiting (target : String) (machine : Machine) : Prop where
  going : Going machine
  restarted : machine.ledger.restarted = false
  aimed : machine.record.toVersion = target

/-- The service has been restarted. -/
structure Ready (target : String) (machine : Machine) : Prop where
  going : Going machine
  restarted : machine.ledger.restarted = true
  aimed : machine.record.toVersion = target
  settled : machine.Settled target

section Phases

variable {target : String} {machine next : Machine}

theorem Waiting.later (waiting : Waiting target machine) (moved : Machine.Later machine next) :
    Waiting target next :=
  ⟨waiting.going.later moved, moved.restarted.trans waiting.restarted,
    moved.target.trans waiting.aimed⟩

theorem Ready.later (ready : Ready target machine) (moved : Machine.Later machine next) :
    Ready target next :=
  ⟨ready.going.later moved, moved.restarted.trans ready.restarted, moved.target.trans ready.aimed,
    moved.settled ready.restarted _ ready.settled⟩

theorem Waiting.restarting (waiting : Waiting target machine) (clear : machine.Clear target) :
    Ready target machine.restarting := by
  unfold Machine.restarting
  rw [if_neg (by rw [waiting.restarted]; exact Bool.false_ne_true)]
  refine ⟨waiting.going, rfl, waiting.aimed, .inr ⟨clear.file, fun process mem _ => ?_⟩⟩
  obtain ⟨before, listed, rfl⟩ := List.mem_map.1 mem
  exact clear.processes before listed

theorem Going.restarting (going : Going machine) : Going machine.restarting := by
  unfold Machine.restarting
  split <;> exact going

end Phases

theorem stable_of_later {P : Machine → Prop}
    (lasting : ∀ machine later, P machine → Machine.Later machine later → P later) :
    Stable readyWork P := fun machine later held others => lasting machine later held others.1

theorem stable_going : Stable readyWork Going := stable_of_later fun _ _ held moved => held.later moved

variable (target : String)

theorem stable_waiting : Stable readyWork (Waiting target) :=
  stable_of_later fun _ _ held moved => held.later moved

theorem stable_ready : Stable readyWork (Ready target) :=
  stable_of_later fun _ _ held moved => held.later moved

/-- The service runs, and has written its version if the fact holds. -/
theorem stable_wrote (fact : Prop) :
    Stable readyWork fun machine => Ready target machine ∧ (fact → machine.Wrote target) :=
  stable_of_later fun _ _ held moved =>
    ⟨held.1.later moved, fun same => moved.wrote _ (held.2 same)⟩

theorem stable_unstarted :
    Stable readyWork fun machine => Going machine ∧ machine.ledger.restarted = false :=
  stable_of_later fun _ _ held moved => ⟨held.1.later moved, moved.restarted.trans held.2⟩

theorem spec_restart (plan : RestartPlan) :
    Spec readyWork (Waiting target) (ask (.restart plan)) (fun _ => Ready target) fun _ => Going := by
  refine spec_request (stable_waiting target)
    (fun machine choice answer next waiting clear ran => ?_) (fun _ => stable_ready target)
    fun _ => stable_going
  have ready : Ready target machine.restarting :=
    waiting.restarting (waiting.aimed ▸ clear waiting.restarted)
  cases choice <;> cases plan <;> cases ran
  · exact ⟨ready.going.truthful, ready⟩
  · exact ⟨ready.going.truthful, ready⟩
  · exact ⟨waiting.going.restarting.truthful, waiting.going.restarting⟩

theorem spec_restart_again (plan : RestartPlan) :
    Spec readyWork Going (ask (.restart plan)) (fun _ => Going) fun _ => Going := by
  refine spec_request stable_going (fun machine choice answer next going _ ran => ?_)
    (fun _ => stable_going) fun _ => stable_going
  cases choice <;> cases plan <;> cases ran <;>
    exact ⟨going.restarting.truthful, going.restarting⟩

/-- What lasts, a plain program keeps. -/
theorem spec_plainly {P : Machine → Prop} (plain : Plainly prog)
    (going : ∀ machine, P machine → Going machine)
    (lasting : ∀ machine later, P machine → Machine.Later machine later → P later) :
    Spec readyWork P prog (fun _ => P) fun _ => P :=
  spec_weaken ((moves_plain plain).spec lasting) (fun machine held => ⟨going machine held, held⟩)
    (fun _ _ held => held.2) fun _ _ held => held.2

theorem spec_runningVersion {E : UpgradeError → Machine → Prop}
    (stable : ∀ error, Stable readyWork (E error)) :
    Spec readyWork (Ready target) (ask .runningVersion)
      (fun version machine => Ready target machine ∧
        (version = some target → machine.Wrote target)) E := by
  refine spec_request (stable_ready target)
    (fun machine choice answer next ready _ ran => ?_) (fun _ => stable_wrote target _) stable
  cases choice <;> cases ran
  exact ⟨ready.going.truthful, ready, fun named => ready.settled.wrote named⟩

theorem spec_deadlinePassed {E : UpgradeError → Machine → Prop}
    (stable : ∀ error, Stable readyWork (E error)) :
    Spec readyWork (Ready target) (ask .deadlinePassed) (fun _ => Ready target) E := by
  refine spec_request (stable_ready target)
    (fun machine choice answer next ready _ ran => ?_) (fun _ => stable_ready target) stable
  cases choice <;> cases ran
  exact ⟨ready.going.truthful, ready⟩

/-- Whatever is seen to run has been started since. -/
theorem spec_waitForVersion (polls : Nat) :
    Spec readyWork (Ready target) (waitForVersion target polls)
      (fun found machine => Ready target machine ∧ (found = true → machine.Wrote target))
      fun _ => Going := by
  induction polls with
  | zero =>
    refine spec_bind (spec_runningVersion target fun _ => stable_going) fun version => ?_
    exact spec_pure (stable_wrote target _) fun machine held =>
      ⟨held.1, fun same => held.2 (by simpa using same)⟩
  | succ polls ih =>
    refine spec_bind (spec_runningVersion target fun _ => stable_going) fun version => ?_
    by_cases same : version = some target
    · rw [if_pos (by simpa using same)]
      exact spec_pure (stable_wrote target _) fun machine held => ⟨held.1, fun _ => held.2 same⟩
    · rw [if_neg (by simpa using same)]
      refine spec_bind ((spec_deadlinePassed target fun _ => stable_going).before
        fun _ held => held.1) fun spent => ?_
      split
      · exact spec_pure (stable_ready target) fun machine held => ⟨held, nofun⟩
      · exact ih

theorem going_of_plainly (plain : Plainly prog) :
    Spec readyWork Going prog (fun _ => Going) fun _ => Going :=
  spec_plainly plain (fun _ => id) fun _ _ held moved => held.later moved

theorem waiting_of_plainly (plain : Plainly prog) (target : String) :
    Spec readyWork (Waiting target) prog (fun _ => Waiting target) fun _ => Going :=
  (spec_plainly plain (fun _ held => held.going) fun _ _ held moved => held.later moved).failing
    fun _ _ held => held.going

theorem ready_of_plainly (plain : Plainly prog) (target : String) :
    Spec readyWork (Ready target) prog (fun _ => Ready target) fun _ => Going :=
  (spec_plainly plain (fun _ held => held.going) fun _ _ held moved => held.later moved).failing
    fun _ _ held => held.going

theorem spec_rollBack (backups : List Backup) (plan : RestartPlan) (reason detail : String)
    {Q : Unit → Machine → Prop} :
    Spec readyWork Going (rollBack backups plan reason detail) Q fun _ => Going := by
  refine spec_bind (spec_attempt (R := fun _ => Going)
      (going_of_plainly (plainly_restoreBackups backups))) fun rollback =>
    spec_bind (spec_attempt (R := fun _ => Going) (spec_restart_again plan)) fun retry => ?_
  have noted : Plainly (noteRollback rollback) := by
    cases rollback with
    | ok value => exact plainly_ask rfl
    | error failure => trivial
  exact spec_bind (going_of_plainly noted) fun _ =>
    spec_throw stable_going fun _ => id

theorem spec_bringUp (artifacts : Artifacts) (options : UpgradeOptions) (target : String)
    (backups : List Backup) :
    Spec readyWork (Waiting target) (bringUp artifacts options target backups)
      (fun _ machine => Ready target machine ∧ machine.Wrote target) fun _ => Going := by
  refine spec_bind (waiting_of_plainly (plain_of_reads (reads_enter _)) target) fun _ => ?_
  refine spec_bind (Q := fun result machine => match result with
      | .ok () => Ready target machine
      | .error _ => Going machine) (spec_attempt (spec_restart target options.restart))
    fun restarted => ?_
  cases restarted with
  | error error => exact spec_rollBack backups _ _ _
  | ok value =>
    refine spec_bind (ready_of_plainly (plain_of_reads (reads_enter _)) target) fun _ => ?_
    refine spec_bind (spec_waitForVersion target _) fun ready => ?_
    cases ready with
    | true =>
      exact spec_pure (stable_wrote target _) fun _ held => ⟨held.1, held.2 rfl⟩
    | false =>
      exact (spec_rollBack backups _ _ _).before (fun _ held => held.1.going)

/-- The target is set where it is known. -/
theorem spec_target :
    Spec readyWork (fun machine => Going machine ∧ machine.ledger.restarted = false)
      (ask (.target target)) (fun _ => Waiting target) fun _ => Going := by
  refine spec_request stable_unstarted (fun machine choice answer next held _ ran => ?_)
    (fun _ => stable_waiting target) fun _ => stable_going
  cases choice <;> cases ran
  have going : Going (machine.note ({ · with toVersion := target })) := held.1
  exact ⟨going.truthful, going, held.2, rfl⟩

theorem spec_prepare (artifacts : Artifacts) (request : UpgradeRequest) :
    Spec readyWork (fun machine => Going machine ∧ machine.ledger.restarted = false)
      (prepare artifacts request) (fun prepared => Waiting prepared.2) fun _ => Going := by
  have going : ∀ machine, Going machine ∧ machine.ledger.restarted = false → Going machine :=
    fun _ held => held.1
  refine spec_bind ((spec_plainly (plain_of_reads (reads_verifyPackage artifacts request)) going
    fun _ _ held moved => ⟨held.1.later moved, moved.restarted.trans held.2⟩).failing
      fun _ _ held => held.1) fun verified =>
    spec_bind (spec_target verified.2) fun _ => ?_
  refine spec_bind (waiting_of_plainly (plainly_ask rfl) verified.2) fun _ =>
    spec_bind (waiting_of_plainly (plain_of_reads (reads_checkPlace request verified.1)) verified.2)
      fun _ => ?_
  exact spec_pure (stable_waiting _) fun _ => id

variable (dryRun : Bool)

/-- What the attempt will tell is true. -/
def Honest (machine : Machine) : Prop :=
  Going machine ∧ (machine.record.status = "succeeded" → dryRun = false →
    machine.Wrote machine.record.toVersion)

theorem stable_honest : Stable readyWork (Honest dryRun) := by
  rintro machine later ⟨going, honest⟩ ⟨moved, same⟩
  refine ⟨going.later moved, fun status wet => ?_⟩
  rw [same] at status ⊢
  exact moved.wrote _ (honest status wet)

theorem spec_applyInner (artifacts : Artifacts) (request : UpgradeRequest)
    (options : UpgradeOptions) :
    Spec readyWork (fun machine => Going machine ∧ machine.ledger.restarted = false)
      (applyInner artifacts request options)
      (fun _ machine => Going machine ∧
        (options.dryRun = false → machine.Wrote machine.record.toVersion)) fun _ => Going := by
  refine spec_bind (spec_prepare artifacts request) fun prepared =>
    spec_bind (waiting_of_plainly (plain_of_reads (reads_enter _)) prepared.2) fun _ =>
    spec_bind (waiting_of_plainly (plainly_installBinaries _ _ _ _) prepared.2) fun backups => ?_
  split
  · rename_i dry
    exact spec_pure (stable_waiting _) fun _ held =>
      ⟨held.going, fun wet => by rw [dry] at wet; cases wet⟩
  · refine (spec_bringUp artifacts options prepared.2 backups).after (fun _ _ held => ⟨held.1.going,
      fun _ => ?_⟩)
    rw [held.1.aimed]
    exact held.2

theorem spec_storeRecord :
    Spec readyWork (Honest dryRun) (ask .storeRecord) (fun _ => Honest dryRun) fun _ _ => True := by
  refine spec_request (stable_honest dryRun) (fun machine choice answer next held _ ran => ?_)
    (fun _ => stable_honest dryRun) fun _ _ _ _ _ => trivial
  cases choice <;> cases ran <;> exact ⟨Going.truthful held.1, held⟩

theorem spec_recall :
    Spec readyWork (Honest dryRun) (ask .recall)
      (fun record machine => Honest dryRun machine ∧ record = machine.record) fun _ _ => True := by
  refine spec_request (stable_honest dryRun) (fun machine choice answer next held _ ran => ?_)
    (fun record machine later held others =>
      ⟨stable_honest dryRun machine later held.1 others, held.2.trans others.2.symm⟩)
    fun _ _ _ _ _ => trivial
  cases choice <;> cases ran
  exact ⟨held.1.truthful, held, rfl⟩

theorem spec_finish (note : Note) :
    Spec readyWork (Honest dryRun) (finish dryRun note) (fun _ _ => True) fun _ _ => True := by
  refine spec_bind (spec_storeRecord dryRun) fun stored => spec_bind (spec_recall dryRun)
    fun record => ?_
  refine spec_request (fun machine later held others =>
      ⟨stable_honest dryRun machine later held.1 others, held.2.trans others.2.symm⟩)
    (fun machine choice answer next held _ ran => ?_) (fun _ _ _ _ _ => trivial)
    fun _ _ _ _ _ => trivial
  cases choice <;> cases ran
  refine ⟨fun outcome spent status wet => ?_, trivial⟩
  cases spent
  obtain ⟨honest, rfl⟩ := held
  cases stored <;> exact honest.2 status wet

theorem spec_settle (status detail : String) :
    Spec readyWork (fun machine => Going machine ∧
        (status = "succeeded" → dryRun = false → machine.Wrote machine.record.toVersion))
      (ask (.finish status detail)) (fun _ => Honest dryRun) fun _ _ => True := by
  refine spec_request (stable_of_later fun machine later held moved =>
      ⟨held.1.later moved, fun success wet => moved.target ▸ moved.wrote _ (held.2 success wet)⟩)
    (fun machine choice answer next held _ ran => ?_) (fun _ => stable_honest dryRun)
    fun _ _ _ _ _ => trivial
  cases choice <;> cases ran
  exact ⟨Going.truthful held.1, held⟩

theorem spec_begin (request : UpgradeRequest) :
    Spec readyWork (fun _ => True) (ask (.begin request))
      (fun _ machine => Going machine ∧ machine.ledger.restarted = false) fun _ _ => True := by
  refine spec_request (fun _ _ _ _ => trivial)
    (fun machine choice answer next held _ ran => ?_) (fun _ => stable_unstarted)
    fun _ _ _ _ _ => trivial
  cases choice <;> cases ran
  have going : Going (machine.begin request) := rfl
  exact ⟨going.truthful, going, rfl⟩

theorem spec_apply (artifacts : Artifacts) (request : UpgradeRequest) (options : UpgradeOptions) :
    Spec readyWork (fun _ => True) (apply artifacts request options) (fun _ _ => True)
      fun _ _ => True := by
  refine spec_bind (spec_begin request) fun _ => spec_bind
    (Q := Either (fun _ machine => Going machine ∧
      (options.dryRun = false → machine.Wrote machine.record.toVersion)) fun _ => Going)
    (spec_attempt (spec_applyInner artifacts request options)) fun result => ?_
  cases result with
  | ok value =>
    exact spec_bind ((spec_settle options.dryRun "succeeded" "").before fun _ held => ⟨held.1,
      fun _ => held.2⟩)
      fun _ => spec_finish options.dryRun .nothing
  | error error =>
    refine spec_bind ((going_of_plainly (plainly_ask rfl)).failing fun _ _ _ => trivial) fun record =>
      ?_
    refine spec_bind ((spec_settle options.dryRun _ _).before fun _ held => ⟨held, ?_⟩) fun _ =>
      spec_finish options.dryRun error.note
    intro success
    split at success <;> exact absurd success (by decide)

/-! ## Whole runs -/

/-- At the restart neither the file nor a process has the target version. -/
def ClearAtRestart (system : System) : Event → Prop
  | .act _ => RestartsClear system.host system.asks
  | .start | .begin _ | .finish | .crash | .nature _ => True

instance (system : System) : (event : Event) → Decidable (ClearAtRestart system event)
  | .act _ => inferInstanceAs (Decidable (RestartsClear _ _))
  | .start | .begin _ | .finish | .crash | .nature _ => .isTrue trivial

theorem lasting_truthful (artifacts : Artifacts) :
    Lasting (upgradeService artifacts) readyWork
      ⟨Machine.Truthful, fun _ => True, fun _ => True, fun _ => True⟩ ClearAtRestart where
  performs := rfl
  guaranteed := id
  starts _ _ truthful _ := ⟨truthful, trivial⟩
  begins system job _ _ _ := spec_apply artifacts job.1 job.2 system.host trivial
  acts system choice op clear asked := by
    rw [ClearAtRestart, asked] at clear
    exact clear
  finishes _ _ _ := trivial
  crashes _ _ truthful := ⟨truthful, trivial⟩
  others system event host _ truthful acted := by
    have moved := Machine.nature_later acted
    refine ⟨fun outcome spent status wet => ?_, moved, fun _ => trivial, fun _ => trivial⟩
    exact moved.1.wrote _ (truthful outcome (moved.1.outcome.symm.trans spent) status wet)

/-- **A success is told only if a process started after the restart has written the target
version**, in every run of the upgrader among agentd processes, as long as at the restart neither the
file nor a running process has that version. -/
theorem success_truthful {artifacts : Artifacts} {machine : Machine} {events : List Event}
    {final : System} (unfinished : machine.ledger.outcome = none)
    (clear : Along (upgradeService artifacts).step ClearAtRestart { host := machine } events)
    (ran : run (upgradeService artifacts).step { host := machine } events = some final) :
    final.host.Truthful := by
  have started : Kept readyWork ⟨Machine.Truthful, fun _ => True, fun _ => True, fun _ => True⟩
      ({ host := machine } : System) := kept_of_off (Going.truthful unfinished) trivial
  exact (kept_run (lasting_truthful artifacts) started clear ran).always

namespace ReadinessSample

open RollbackSample

/-- Version 0.1.3 is installed and runs. -/
def before : Machine :=
  { installed with runtimeFile := .intact "0.1.3", processes := [⟨1, "0.1.3", false, none⟩] }

/-- The service comes up with the new version, which writes its file. -/
def upgraded : List Event :=
  .start :: .begin (request, options) ::
    (checks ++ List.replicate 8 Choice.done).map .act ++
    [.nature (.exit 1), .nature (.spawn 2 "0.1.4"), .nature (.startUp 2)] ++
    List.replicate 7 (.act .done)

/-- Version 0.1.4 over itself, which the request allows. -/
def reinstall : UpgradeRequest := { request with currentVersion := "0.1.4", allowDowngrade := true }

/-- The restart command does its part, and no process comes up. -/
def nothingStarted : List Event :=
  .start :: .begin (reinstall, options) :: (checks ++ List.replicate 15 Choice.done).map .act

def stale : Machine := { installed with runtimeFile := .intact "0.1.4" }

end ReadinessSample

open RollbackSample ReadinessSample in
theorem success_truthful_upgrade :
    ∃ final, run (upgradeService artifacts).step { host := before } upgraded = some final ∧
      final.host.ledger.outcome.map (·.record.status) = some "succeeded" ∧
      final.host.Truthful := by
  have clear : Along (upgradeService artifacts).step ClearAtRestart { host := before } upgraded := by
    decide +kernel
  have found : (run (upgradeService artifacts).step { host := before } upgraded).map
      (fun system => system.host.ledger.outcome.map (·.record.status)) =
      some (some "succeeded") := by decide +kernel
  obtain ⟨final, ran, status⟩ := map_eq_some_iff.1 found
  exact ⟨final, ran, status, success_truthful rfl clear ran⟩

open RollbackSample ReadinessSample in
/-- The attempt succeeds on the file the old process left. -/
theorem success_on_stale_file :
    ∃ final, run (upgradeService artifacts).step { host := stale } nothingStarted = some final ∧
      final.host.ledger.outcome.map (fun outcome => (outcome.record.status, outcome.dryRun)) =
        some ("succeeded", false) ∧
      final.host.processes = [] ∧ final.host.ledger.writes = [] ∧ ¬final.host.Truthful := by
  have found : (run (upgradeService artifacts).step { host := stale } nothingStarted).map
      (fun system => (system.host.ledger.outcome.map
        (fun outcome => (outcome.record.status, outcome.dryRun)), system.host.processes,
        system.host.ledger.writes)) = some (some ("succeeded", false), [], []) := by decide +kernel
  obtain ⟨final, ran, facts⟩ := map_eq_some_iff.1 found
  simp only [Prod.mk.injEq] at facts
  obtain ⟨status, processes, writes⟩ := facts
  refine ⟨final, ran, status, processes, writes, fun truthful => ?_⟩
  obtain ⟨outcome, spent, told⟩ := map_eq_some_iff.1 status
  rw [Prod.mk.injEq] at told
  obtain ⟨pid, mem⟩ := truthful outcome spent told.1 told.2
  rw [writes] at mem
  cases mem

end WistAgentd.Upgrade

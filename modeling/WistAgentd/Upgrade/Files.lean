/- # Upgrade.Files -- an attempt and the files it replaces

What a rollback depends on: the directory, what it held before, the status of the record and the
outcome (`Look`). Nobody but the upgrader touches these, and most of its effects do not either.

* `backupPath_inj`, `plain_ne`: the names an attempt uses do not meet.
* `binaryWork`: the upgrader among processes that leave all this alone.
* `Works`, `works_quiet`, `works_present`, `works_copy`, `works_install`, `works_move`,
  `works_remove`: programs and their effects. -/
import WistAgentd.Upgrade.Apply

namespace WistAgentd.Upgrade
open Theory.Interaction
open List Option
set_option autoImplicit false

/-! ## Names -/

/-- A name without a suffix. -/
def Plain (name : String) : Prop := '.' ∉ name.toList

theorem plain_of_managed : ∀ name ∈ managedBinaries, Plain name := by
  unfold Plain
  decide

variable {name a b target : String} {machine next : Machine} {op : Op}

theorem plain_takeWhile (plain : Plain name) (rest : List Char) :
    (name.toList ++ '.' :: rest).takeWhile (· != '.') = name.toList := by
  rw [takeWhile_append_of_pos]
  · simp
  · rintro c mem
    simp only [bne_iff_ne]
    rintro rfl
    exact plain mem

theorem suffixed_inj {x y : String} (left : Plain a) (right : Plain b)
    (same : a ++ ("." ++ x) = b ++ ("." ++ y)) : a = b ∧ x = y := by
  have chars := congrArg String.toList same
  simp only [String.toList_append] at chars
  have names := congrArg (List.takeWhile (· != '.')) chars
  have start : ".".toList = ['.'] := rfl
  rw [start, singleton_append, singleton_append, plain_takeWhile left,
    plain_takeWhile right] at names
  obtain rfl := String.toList_inj.1 names
  exact ⟨rfl, String.toList_inj.1 (append_cancel_left (append_cancel_left chars))⟩

theorem backupPath_eq (name version : String) :
    backupPath name version = name ++ ("." ++ ("bak-" ++ version)) := by
  have suffix : ".bak-" = "." ++ "bak-" := rfl
  rw [backupPath, suffix, String.append_assoc, String.append_assoc]

theorem backupPath_inj {version other : String} (left : Plain a) (right : Plain b)
    (same : backupPath a version = backupPath b other) : a = b := by
  rw [backupPath_eq, backupPath_eq] at same
  exact (suffixed_inj left right same).1

theorem backupPath_ne_newPath (left : Plain a) (right : Plain b) (version : String) :
    backupPath a version ≠ newPath b := by
  intro same
  rw [backupPath_eq] at same
  have rest := congrArg String.toList (suffixed_inj left right (y := "new") same).2
  simp [String.toList_append] at rest

theorem backupPath_ne_rollbackPath (left : Plain a) (right : Plain b) (version : String) :
    backupPath a version ≠ rollbackPath b := by
  intro same
  rw [backupPath_eq] at same
  have rest := congrArg String.toList (suffixed_inj left right (y := "rollback") same).2
  simp [String.toList_append] at rest

theorem plain_ne {x : String} (left : Plain a) : a ≠ b ++ ("." ++ x) := by
  rintro rfl
  exact left (by simp [String.toList_append])

/-! ## What a rollback depends on -/

structure Look where
  files : String → Option Bytes
  before : String → Option Bytes
  status : String
  outcome : Option Outcome

def Look.put (look : Look) (name : String) (content : Option Bytes) : Look :=
  { look with files := Function.update look.files name content }

def Machine.look (machine : Machine) : Look :=
  ⟨machine.files, machine.ledger.before, machine.record.status, machine.ledger.outcome⟩

theorem Look.put_same (look : Look) (name : String) (content : Option Bytes) :
    (look.put name content).files name = content := Function.update_self ..

theorem Look.put_other (look : Look) {other : String} (content : Option Bytes)
    (different : other ≠ name) : (look.put name content).files other = look.files other :=
  Function.update_of_ne different ..

/-- The managed binaries are what they were. -/
def Look.Whole (look : Look) : Prop :=
  ∀ name ∈ managedBinaries, look.files name = look.before name

/-- The attempt tells that the machine is as it was. -/
def Outcome.tellsRestored (outcome : Outcome) : Bool :=
  outcome.record.status == "rolled_back" || outcome.note == .rolledBack

def Look.Faithful (look : Look) : Prop :=
  ∀ outcome, look.outcome = some outcome → outcome.tellsRestored = true → look.Whole

/-- **A rollback that is told has taken place.** -/
def Machine.RollbackFaithful (machine : Machine) : Prop :=
  ∀ outcome, machine.ledger.outcome = some outcome → outcome.tellsRestored = true →
    ∀ name ∈ managedBinaries, machine.files name = machine.ledger.before name

theorem nature_look {event : Nature} (acted : machine.nature event = some next) :
    next.look = machine.look := by
  cases event with
  | spawn pid version =>
    simp only [Machine.nature] at acted
    split at acted
    · cases acted
    · cases acted
      rfl
  | startUp pid | load pid | store pid =>
    obtain ⟨process, -, mapped⟩ := bind_eq_some_iff.1 acted
    obtain ⟨version, -, rfl⟩ := map_eq_some_iff.1 mapped
    rfl
  | discard pid | enroll pid | exit pid =>
    obtain ⟨process, -, rfl⟩ := map_eq_some_iff.1 acted
    rfl

/-- The upgrader, with processes around it that leave all this alone. -/
def binaryWork : Setting Op Op.Ans UpgradeError Machine Choice where
  perform := perform
  allowed _ _ _ := True
  rely machine later := later.look = machine.look
  guar _ later := later.look.Faithful
  rely_refl _ := rfl
  rely_trans first second := second.trans first

theorem stable_look (P : Look → Prop) : Stable binaryWork fun machine => P machine.look := by
  intro machine later held same
  have equal : later.look = machine.look := same
  exact equal ▸ held

/-- A program of the upgrader, as far as the look goes. -/
def Works {α : Type} (P : Look → Prop) (prog : App α) (Q : α → Look → Prop)
    (E : UpgradeError → Look → Prop) : Prop :=
  Spec binaryWork (fun machine => P machine.look) prog (fun value machine => Q value machine.look)
    fun error machine => E error machine.look

section Rules

variable {α β : Type} {P P' : Look → Prop} {Q Q' : α → Look → Prop} {R : β → Look → Prop}
  {E E' : UpgradeError → Look → Prop} {prog : App α}

theorem works_pure {value : α} (holds : ∀ look, P look → Q value look) : Works P (pure value) Q E :=
  spec_pure (stable_look P) fun machine => holds machine.look

theorem works_throw {error : UpgradeError} (holds : ∀ look, P look → E error look) :
    Works P (.throw error) Q E :=
  spec_throw (stable_look P) fun machine => holds machine.look

theorem works_bind {next : α → App β} (head : Works P prog Q E)
    (tail : ∀ value, Works (Q value) (next value) R E) : Works P (prog >>= next) R E :=
  spec_bind head tail

theorem works_attempt {R : Except UpgradeError α → Look → Prop}
    (inner : Works P prog (fun value => R (.ok value)) fun error => R (.error error)) :
    Works P prog.attempt R E :=
  spec_attempt inner

theorem works_weaken (inner : Works P' prog Q' E') (pre : ∀ look, P look → P' look)
    (post : ∀ value look, Q' value look → Q value look)
    (failed : ∀ error look, E' error look → E error look) : Works P prog Q E :=
  spec_weaken inner (fun machine => pre machine.look) (fun value machine => post value machine.look)
    fun error machine => failed error machine.look

theorem Works.before (inner : Works P' prog Q E) (pre : ∀ look, P look → P' look) :
    Works P prog Q E := Spec.before inner fun machine => pre machine.look

theorem Works.failing (inner : Works P prog Q E')
    (failed : ∀ error look, E' error look → E error look) : Works P prog Q E :=
  Spec.failing inner fun error machine => failed error machine.look

theorem works_forEach {I : List β → Look → Prop} {body : β → App Unit}
    (turn : ∀ item rest, Works (I (item :: rest)) (body item) (fun _ => I rest) E)
    (items : List β) : Works (I items) (Prog.forEach items body) (fun _ => I []) E :=
  spec_forEach (I := fun items (machine : Machine) => I items machine.look) (stable_look (I []))
    turn items

end Rules

/-! ## The effects -/

/-- Effects that do not change the look. -/
def Op.isQuiet : Op → Bool
  | .target _ | .restart _ => true
  | op => op.isRead

theorem look_restarting (machine : Machine) : machine.restarting.look = machine.look := by
  unfold Machine.restarting
  split <;> rfl

theorem perform_quiet {choice : Choice} {answer : Except UpgradeError op.Ans}
    (quiet : op.isQuiet = true) (ran : perform op choice machine = some (answer, next)) :
    next.look = machine.look := by
  unfold perform at ran
  split at ran
  all_goals try cases quiet
  all_goals try cases ran
  all_goals first | rfl | exact look_restarting _

theorem quiet_of_reads {α : Type} {prog : App α} (reads : Reads prog) :
    prog.Uses (fun op => op.isQuiet = true) fun _ _ => True :=
  reads.mono fun op read => by cases op <;> first | exact read | rfl

theorem quiet_prepare (artifacts : Artifacts) (request : UpgradeRequest) :
    (prepare artifacts request).Uses (fun op => op.isQuiet = true) fun _ _ => True :=
  Prog.uses_bind (quiet_of_reads (reads_verifyPackage artifacts request)) fun verified =>
    Prog.uses_bind (Prog.uses_call rfl) fun _ =>
      quiet_of_reads (reads_bind (reads_ask rfl) fun _ =>
        reads_bind (reads_checkPlace request verified.1) fun _ => trivial)

section Effects

variable {P : Look → Prop}

theorem faithful_of_running {look : Look} (running : look.outcome = none) : look.Faithful := by
  intro outcome spent
  rw [running] at spent
  cases spent

/-- An effect while the attempt goes on. -/
theorem works_effect {Q : op.Ans → Look → Prop} {E : UpgradeError → Look → Prop}
    (effect : ∀ machine choice answer next, P machine.look →
      perform op choice machine = some (answer, next) →
        next.look.outcome = none ∧ Either Q E answer next.look) : Works P (ask op) Q E := by
  refine spec_request (stable_look P) (fun machine choice answer next held _ ran => ?_)
    (fun value => stable_look (Q value)) fun error => stable_look (E error)
  obtain ⟨running, post⟩ := effect machine choice answer next held ran
  exact ⟨faithful_of_running running, post⟩

theorem works_begin {Q : Look → Prop} {request : UpgradeRequest} {E : UpgradeError → Look → Prop}
    (done : ∀ look, P look → Q ⟨look.files, look.files, "running", none⟩) :
    Works P (ask (.begin request)) (fun _ => Q) E := by
  refine works_effect fun machine choice answer next held ran => ?_
  cases choice <;> cases ran
  exact ⟨rfl, done _ held⟩

variable (calm : ∀ look, P look → look.outcome = none)

include calm

theorem works_quiet (quiet : op.isQuiet = true) : Works P (ask op) (fun _ => P) fun _ => P := by
  refine works_effect fun machine choice answer next held ran => ?_
  rw [perform_quiet quiet ran]
  cases answer <;> exact ⟨calm _ held, held⟩

theorem works_present {E : UpgradeError → Look → Prop} :
    Works P (ask (.present name)) (fun found look => P look ∧ found = (look.files name).isSome) E := by
  refine works_effect fun machine choice answer next held ran => ?_
  cases choice <;> cases ran
  exact ⟨calm _ held, held, rfl⟩

variable {Q : Look → Prop} {E : Look → Prop}

theorem works_copy {source : String}
    (done : ∀ look content, P look → look.files source = some content →
      Q (look.put target (some content))) (torn : ∀ look left, P look → E (look.put target left)) :
    Works P (ask (.copy source target)) (fun _ => Q) fun _ => E := by
  refine works_effect fun machine choice answer next held ran => ?_
  cases choice with
  | done =>
    obtain ⟨content, found, ⟨⟩⟩ := map_eq_some_iff.1 ran
    exact ⟨calm machine.look held, done _ content held found⟩
  | torn error left =>
    cases ran
    exact ⟨calm machine.look held, torn _ left held⟩
  | _ => cases ran

theorem works_install {source : Source}
    (done : ∀ (machine : Machine) content, P machine.look → machine.content source = some content →
      Q (machine.look.put target (some content)))
    (torn : ∀ look left, P look → E (look.put target left)) :
    Works P (ask (.install source target)) (fun _ => Q) fun _ => E := by
  refine works_effect fun machine choice answer next held ran => ?_
  cases choice with
  | done =>
    obtain ⟨content, found, ⟨⟩⟩ := map_eq_some_iff.1 ran
    exact ⟨calm machine.look held, done machine content held found⟩
  | torn error left =>
    cases ran
    exact ⟨calm machine.look held, torn _ left held⟩
  | _ => cases ran

theorem works_move {source : String}
    (done : ∀ look content, P look → look.files source = some content →
      Q ((look.put target (some content)).put source none)) :
    Works P (ask (.move source target)) (fun _ => Q) fun _ => P := by
  refine works_effect fun machine choice answer next held ran => ?_
  cases choice with
  | done =>
    obtain ⟨content, found, ⟨⟩⟩ := map_eq_some_iff.1 ran
    exact ⟨calm machine.look held, done _ content held found⟩
  | refused error =>
    cases ran
    exact ⟨calm machine.look held, held⟩
  | _ => cases ran

theorem works_remove (done : ∀ look, P look → Q (look.put name none)) :
    Works P (ask (.remove name)) (fun _ => Q) fun _ => P := by
  refine works_effect fun machine choice answer next held ran => ?_
  cases choice <;> cases ran
  · exact ⟨calm machine.look held, done _ held⟩
  · exact ⟨calm machine.look held, held⟩

theorem works_rolledBack {E : UpgradeError → Look → Prop}
    (done : ∀ look, P look → Q { look with status := "rolled_back" }) :
    Works P (ask .rolledBack) (fun _ => Q) E := by
  refine works_effect fun machine choice answer next held ran => ?_
  cases choice <;> cases ran
  exact ⟨calm machine.look held, done _ held⟩

theorem works_finish {status detail : String} {E : UpgradeError → Look → Prop}
    (done : ∀ look, P look → Q { look with status }) :
    Works P (ask (.finish status detail)) (fun _ => Q) E := by
  refine works_effect fun machine choice answer next held ran => ?_
  cases choice <;> cases ran
  exact ⟨calm machine.look held, done _ held⟩

theorem works_recall {E : UpgradeError → Look → Prop} :
    Works P (ask .recall) (fun record look => P look ∧ record.status = look.status) E := by
  refine works_effect fun machine choice answer next held ran => ?_
  cases choice <;> cases ran
  exact ⟨calm _ held, held, rfl⟩

omit calm in
/-- The attempt is over; what it tells has to be true. -/
theorem works_conclude {outcome : Outcome} {E : UpgradeError → Look → Prop}
    (fine : ∀ look, P look → outcome.tellsRestored = true → look.Whole) :
    Works P (ask (.conclude outcome)) (fun _ _ => True) E := by
  refine spec_request (stable_look P) (fun machine choice answer next held _ ran => ?_)
    (fun _ _ _ _ _ => trivial) fun error => stable_look (E error)
  cases choice <;> cases ran
  refine ⟨fun spent same restored => ?_, trivial⟩
  cases same
  exact fine machine.look held restored

/-- Effects of the upgrader on itself, and looks at files: they give an answer. -/
def Op.isSure : Op → Bool
  | .step _ | .target _ | .storeRecord | .present _ | .runningVersion | .deadlinePassed => true
  | _ => false

omit calm in
theorem perform_sure {choice : Choice} {error : UpgradeError} (sure : op.isSure = true) :
    perform op choice machine ≠ some (.error error, next) := by
  intro ran
  cases op <;> cases sure <;> cases choice <;> cases ran

theorem works_sure {E : UpgradeError → Look → Prop} (sure : op.isSure = true) :
    Works P (ask op) (fun _ => P) E := by
  have quiet : op.isQuiet = true := by
    cases op <;> first | rfl | cases sure
  refine works_effect fun machine choice answer next held ran => ?_
  rw [perform_quiet quiet ran]
  cases answer with
  | ok value => exact ⟨calm _ held, held⟩
  | error error => exact absurd ran (perform_sure sure)

/-- Programs without other effects. -/
theorem works_uses {α : Type} {prog : App α}
    (uses : prog.Uses (fun op => op.isQuiet = true) fun _ _ => True) :
    Works P prog (fun _ => P) fun _ => P := by
  refine spec_uses (stable_look P) (fun machine op choice answer next held quiet _ ran => ?_) uses
  have same : next.look = machine.look := perform_quiet quiet ran
  have faithful : next.look.Faithful := same ▸ faithful_of_running (calm _ held)
  exact ⟨faithful, same ▸ held, fun _ _ => trivial⟩

end Effects

end WistAgentd.Upgrade

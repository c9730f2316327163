/- # Upgrade.Rollback -- a rollback that is told has taken place

A backup is named after the version that is being replaced, and one that is already there is taken
for good: whatever an earlier attempt, cut short or made from another build of the same version, left
under that name is what a rollback puts back.

* `Restoring`, `works_restoreBackups`: putting back.
* `Installing`, `works_installBinaries`: replacing, with what a failure on the way leaves.
* `rollback_faithful`: along every run whose attempts find no other backup than of what is
  installed. -/
import WistAgentd.Upgrade.Files

namespace WistAgentd.Upgrade
open Theory.Interaction
open Theory.Interaction.Service
open Theory.Transition
open List Option
set_option autoImplicit false

variable {look : Look} {name : String}

/-! ## Putting back -/

/-- The attempt goes on and nothing is said about a rollback. -/
def Calm (look : Look) : Prop := look.outcome = none ∧ look.status = "running"

theorem Calm.running (calm : Calm look) : look.outcome = none := calm.1

/-- A backup of what was there before, or the note that nothing was. -/
structure Good (look : Look) (backup : Backup) : Prop where
  managed : backup.installed ∈ managedBinaries
  named : ∃ version, backup.backup = backupPath backup.installed version
  existed : backup.existed = (look.before backup.installed).isSome
  kept : backup.existed = true → look.files backup.backup = look.before backup.installed

theorem Good.put {backup : Backup} (good : Good look backup) (content : Option Bytes) {path : String}
    (spare : backup.backup ≠ path) : Good (look.put path content) backup :=
  { good with kept := fun existed => (look.put_other content spare).trans (good.kept existed) }

theorem backupPath_unmanaged (name version : String) : backupPath name version ∉ managedBinaries :=
  fun managed => plain_ne (plain_of_managed _ managed) (backupPath_eq name version)

theorem Good.ne_managed {backup : Backup} (good : Good look backup) (managed : name ∈ managedBinaries) :
    backup.backup ≠ name := by
  obtain ⟨version, path⟩ := good.named
  rw [path]
  exact (ne_of_mem_of_not_mem managed (backupPath_unmanaged _ _)).symm

/-- These are still to be put back, anything else is as it was. -/
structure Restoring (look : Look) (backups : List Backup) : Prop where
  calm : Calm look
  good : ∀ backup ∈ backups, Good look backup
  others : ∀ name ∈ managedBinaries, name ∉ backups.map (·.installed) →
    look.files name = look.before name

theorem Restoring.whole (restoring : Restoring look []) : look.Whole :=
  fun name managed => restoring.others name managed nofun

/-- A file that is neither a managed binary nor a backup does not matter. -/
theorem Restoring.put {backups : List Backup} (restoring : Restoring look backups) {path : String}
    (content : Option Bytes) (unmanaged : path ∉ managedBinaries)
    (spare : ∀ backup ∈ backups, backup.backup ≠ path) :
    Restoring (look.put path content) backups where
  calm := restoring.calm
  good backup mem := (restoring.good backup mem).put content (spare backup mem)
  others name managed outside := by
    rw [look.put_other content (ne_of_mem_of_not_mem managed unmanaged)]
    exact restoring.others name managed outside

/-- One of them is as it was again. -/
theorem Restoring.restored {backup : Backup} {rest : List Backup}
    (restoring : Restoring look (backup :: rest)) {content : Option Bytes}
    (same : content = look.before backup.installed) :
    Restoring (look.put backup.installed content) rest where
  calm := restoring.calm
  good other mem := by
    have good := restoring.good other (mem_cons_of_mem _ mem)
    exact good.put content (good.ne_managed (restoring.good backup mem_cons_self).managed)
  others name managed outside := by
    by_cases own : name = backup.installed
    · rw [own, Look.put_same, same]
      rfl
    · rw [look.put_other content own]
      exact restoring.others name managed (by simp [own, outside])

theorem rollbackPath_unmanaged (name : String) : rollbackPath name ∉ managedBinaries := fun managed =>
  plain_ne (b := name) (x := "rollback") (plain_of_managed _ managed) rfl

theorem newPath_unmanaged (name : String) : newPath name ∉ managedBinaries := fun managed =>
  plain_ne (b := name) (x := "new") (plain_of_managed _ managed) rfl

theorem Good.ne_rollbackPath {backup : Backup} (good : Good look backup)
    (managed : name ∈ managedBinaries) : backup.backup ≠ rollbackPath name := by
  obtain ⟨version, path⟩ := good.named
  rw [path]
  exact backupPath_ne_rollbackPath (plain_of_managed _ good.managed) (plain_of_managed _ managed) _

theorem works_restoreBackup (backup : Backup) (rest : List Backup) :
    Works (Restoring · (backup :: rest)) (restoreBackup backup) (fun _ => (Restoring · rest))
      fun _ => Calm := by
  have quiet : ∀ look, Restoring look (backup :: rest) → look.outcome = none :=
    fun _ held => held.calm.running
  unfold restoreBackup
  split
  · rename_i existed
    -- the copy beside the binary has the old content, the rename puts it in place
    have copied : Works (Restoring · (backup :: rest))
        (ask (.install (.kept backup.backup) (rollbackPath backup.installed)))
        (fun _ look => Restoring look (backup :: rest) ∧
          look.files (rollbackPath backup.installed) = look.before backup.installed)
        fun _ => Calm := by
      refine works_install quiet (fun machine content held found => ?_) fun _ _ held => held.calm
      have good := held.good backup mem_cons_self
      refine ⟨held.put _ (rollbackPath_unmanaged _) fun other mem =>
        (held.good other mem).ne_rollbackPath good.managed, ?_⟩
      rw [Look.put_same]
      exact found.symm.trans (good.kept existed)
    have moved : Works (fun look => Restoring look (backup :: rest) ∧
          look.files (rollbackPath backup.installed) = look.before backup.installed)
        (ask (.move (rollbackPath backup.installed) backup.installed))
        (fun _ => (Restoring · rest)) fun _ => Calm := by
      refine (works_move (fun _ held => held.1.calm.running)
        fun look content held found => ?_).failing fun _ _ held => held.1.calm
      have good := held.1.good backup mem_cons_self
      refine (held.1.restored (found.symm.trans held.2)).put none (rollbackPath_unmanaged _)
        fun other mem => ?_
      exact (held.1.good other (mem_cons_of_mem _ mem)).ne_rollbackPath good.managed
    refine works_bind (works_present quiet) fun found => ?_
    cases found with
    | false => exact works_throw fun _ held => held.1.calm
    | true => exact (works_bind copied fun _ => moved).before fun _ held => held.1
  · rename_i absent
    have missing : ∀ look, Restoring look (backup :: rest) → look.before backup.installed = none := by
      intro look held
      have existed := (held.good backup mem_cons_self).existed
      rw [Bool.not_eq_true] at absent
      rw [absent] at existed
      exact not_isSome_iff_eq_none.1 (by rw [← existed]; exact Bool.false_ne_true)
    refine works_bind (works_present quiet) fun found => ?_
    cases found with
    | false =>
      refine works_pure fun look held => ?_
      have gone : look.files backup.installed = none := by simpa using held.2.symm
      have same : look.put backup.installed none = look := by
        rw [Look.put, ← gone, Function.update_eq_self]
      exact same ▸ held.1.restored (missing _ held.1).symm
    | true =>
      exact ((works_remove quiet fun look held => held.restored (missing _ held).symm).failing
        fun _ _ held => held.calm).before fun _ held => held.1

variable (backups : List Backup)

theorem works_restoreBackups :
    Works (Restoring · backups) (restoreBackups backups) (fun _ look => Calm look ∧ look.Whole)
      fun _ => Calm :=
  works_weaken (works_forEach (I := fun backups look => Restoring look backups) works_restoreBackup
    backups) (fun _ => id) (fun _ _ held => ⟨held.calm, held.whole⟩) fun _ _ => id

/-- A restoration that succeeds leaves nothing changed. -/
theorem works_attemptRestore {E : UpgradeError → Look → Prop} :
    Works (Restoring · backups) (restoreBackups backups).attempt
      (fun result look => Calm look ∧ (result = .ok () → look.Whole)) E :=
  works_attempt (works_weaken (works_restoreBackups backups) (fun _ => id)
    (fun _ _ held => ⟨held.1, fun _ => held.2⟩) fun _ _ held => ⟨held, nofun⟩)

/-! ## Replacing -/

/-- A backup that is already there is one of what is installed. -/
def FreshAt (look : Look) (version name : String) : Prop :=
  ∀ content, look.before name = some content →
    look.files (backupPath name version) = none ∨
      look.files (backupPath name version) = some content

/-- `backups` tells what was replaced, `rest` is still to be replaced. -/
structure Installing (version : String) (look : Look) (rest : List StagedBinary)
    (backups : List Backup) : Prop where
  restoring : Restoring look backups
  managed : ∀ item ∈ rest, item.name ∈ managedBinaries
  distinct : (rest.map (·.name)).Nodup
  new : ∀ item ∈ rest, item.name ∉ backups.map (·.installed)
  fresh : ∀ item ∈ rest, FreshAt look version item.name

section Replace

variable {version : String} {look : Look} {item : StagedBinary} {rest : List StagedBinary}
  {backups : List Backup}

theorem Installing.head_untouched (installing : Installing version look (item :: rest) backups) :
    look.files item.name = look.before item.name :=
  installing.restoring.others _ (installing.managed item mem_cons_self)
    (installing.new item mem_cons_self)

/-- The backup of the next binary is written. -/
theorem Installing.put_backup (installing : Installing version look (item :: rest) backups)
    (content : Option Bytes) : Restoring (look.put (backupPath item.name version) content) backups := by
  refine installing.restoring.put content (backupPath_unmanaged _ _) fun backup mem same => ?_
  have good := installing.restoring.good backup mem
  obtain ⟨other, path⟩ := good.named
  have own := plain_of_managed _ (installing.managed item mem_cons_self)
  refine installing.new item mem_cons_self ?_
  rw [← backupPath_inj (plain_of_managed _ good.managed) own (path ▸ same)]
  exact mem_map_of_mem mem

theorem Good.ne_newPath {backup : Backup} (good : Good look backup)
    (managed : name ∈ managedBinaries) : backup.backup ≠ newPath name := by
  obtain ⟨version, path⟩ := good.named
  rw [path]
  exact backupPath_ne_newPath (plain_of_managed _ good.managed) (plain_of_managed _ managed) _

/-- The next binary has its backup. -/
structure Backed (version : String) (existed : Bool) (look : Look) (item : StagedBinary)
    (rest : List StagedBinary) (backups : List Backup) : Prop where
  restoring : Restoring look backups
  good : Good look ⟨item.name, backupPath item.name version, existed⟩
  managed : ∀ item ∈ rest, item.name ∈ managedBinaries
  distinct : (rest.map (·.name)).Nodup
  new : ∀ other ∈ rest, other.name ∉ item.name :: backups.map (·.installed)
  fresh : ∀ item ∈ rest, FreshAt look version item.name

theorem Installing.backed (installing : Installing version look (item :: rest) backups) {existed : Bool}
    (same : existed = (look.before item.name).isSome)
    (kept : existed = true → look.files (backupPath item.name version) = look.before item.name) :
    Backed version existed look item rest backups where
  restoring := installing.restoring
  good := ⟨installing.managed item mem_cons_self, ⟨version, rfl⟩, same, kept⟩
  managed other mem := installing.managed other (mem_cons_of_mem _ mem)
  distinct := (nodup_cons.1 installing.distinct).2
  new other mem listed := by
    rcases mem_cons.1 listed with same | old
    · exact (nodup_cons.1 installing.distinct).1 (mem_map.2 ⟨other, mem, same⟩)
    · exact installing.new other (mem_cons_of_mem _ mem) old
  fresh other mem := installing.fresh other (mem_cons_of_mem _ mem)

/-- What is written elsewhere does not make a backup stale. -/
theorem FreshAt.put {path : String} (fresh : FreshAt look version name) {content : Option Bytes}
    (spare : backupPath name version ≠ path) : FreshAt (look.put path content) version name := by
  intro old there
  rw [look.put_other content spare]
  exact fresh old there

theorem Installing.copied (installing : Installing version look (item :: rest) backups)
    {content : Bytes} (same : look.before item.name = some content) :
    Backed version true (look.put (backupPath item.name version) (some content)) item rest backups := by
  have kept := look.put_same (backupPath item.name version) (some content)
  have backed : Installing version (look.put (backupPath item.name version) (some content))
      (item :: rest) backups :=
    { installing with
      restoring := installing.put_backup (some content)
      fresh := fun other mem => by
        by_cases own : other.name = item.name
        · intro old there
          rw [own] at there ⊢
          exact .inr (kept.trans (same.symm.trans there))
        · refine (installing.fresh other mem).put fun meets => own ?_
          exact backupPath_inj (plain_of_managed _ (installing.managed other mem))
            (plain_of_managed _ (installing.managed item mem_cons_self)) meets }
  have there : (look.put (backupPath item.name version) (some content)).before item.name =
      some content := same
  exact backed.backed (by rw [there]; rfl) fun _ => kept.trans there.symm

variable {existed : Bool}

theorem Backed.put_new (backed : Backed version existed look item rest backups)
    (content : Option Bytes) :
    Backed version existed (look.put (newPath item.name) content) item rest backups where
  restoring := backed.restoring.put content (newPath_unmanaged _) fun backup mem =>
    (backed.restoring.good backup mem).ne_newPath backed.good.managed
  good := backed.good.put content (backed.good.ne_newPath backed.good.managed)
  managed := backed.managed
  distinct := backed.distinct
  new := backed.new
  fresh other mem := (backed.fresh other mem).put
    (backupPath_ne_newPath (plain_of_managed _ (backed.managed other mem))
      (plain_of_managed _ backed.good.managed) version)

/-- The binary is replaced; its backup tells how to undo that. -/
theorem Backed.replaced (backed : Backed version existed look item rest backups)
    (content : Option Bytes) :
    Installing version (look.put item.name content) rest
      (backups ++ [⟨item.name, backupPath item.name version, existed⟩]) where
  restoring :=
    { calm := backed.restoring.calm
      good := fun backup mem => by
        have good : Good look backup := by
          rcases mem_append.1 mem with old | last
          · exact backed.restoring.good backup old
          · exact mem_singleton.1 last ▸ backed.good
        exact good.put content (good.ne_managed backed.good.managed)
      others := fun name managed outside => by
        rw [map_append, mem_append, not_or] at outside
        rw [look.put_other content fun same => outside.2 (mem_singleton.2 same)]
        exact backed.restoring.others name managed outside.1 }
  managed := backed.managed
  distinct := backed.distinct
  new other mem := by
    rw [map_append, mem_append]
    rintro (old | own)
    · exact backed.new other mem (mem_cons_of_mem _ old)
    · exact backed.new other mem (mem_cons.2 (.inl (mem_singleton.1 own)))
  fresh other mem := (backed.fresh other mem).put
    (ne_of_mem_of_not_mem backed.good.managed (backupPath_unmanaged _ _)).symm

/-- What is beside the binaries and the backups can go. -/
theorem Installing.put_spare (installing : Installing version look rest backups)
    (managed : name ∈ managedBinaries) (content : Option Bytes) :
    Installing version (look.put (newPath name) content) rest backups :=
  { installing with
    restoring := installing.restoring.put content (newPath_unmanaged _) fun backup mem =>
      (installing.restoring.good backup mem).ne_newPath managed
    fresh := fun other mem => (installing.fresh other mem).put
      (backupPath_ne_newPath (plain_of_managed _ (installing.managed other mem))
        (plain_of_managed _ managed) version) }

end Replace

section

variable (version : String) (existed : Bool) (item : StagedBinary) (rest : List StagedBinary)
  (backups : List Backup)

theorem works_backUp :
    Works (fun look => Installing version look (item :: rest) backups ∧
        existed = (look.files item.name).isSome)
      (backUp version existed item.name) (fun _ look => Backed version existed look item rest backups)
      fun _ look => Restoring look backups := by
  have quiet : ∀ look, Installing version look (item :: rest) backups ∧
      existed = (look.files item.name).isSome → look.outcome = none :=
    fun _ held => held.1.restoring.calm.running
  cases existed with
  | false =>
    refine works_pure fun look held => held.1.backed ?_ nofun
    rw [← held.1.head_untouched]
    exact held.2
  | true =>
    refine works_bind (works_present quiet) fun found => ?_
    cases found with
    | true =>
      -- the backup that is there is one of what is installed
      refine works_pure fun look held => ?_
      obtain ⟨⟨installing, there⟩, kept⟩ := held
      rw [installing.head_untouched] at there
      obtain ⟨content, before⟩ := isSome_iff_exists.1 there.symm
      refine installing.backed there fun _ => ?_
      rcases installing.fresh item mem_cons_self content before with none | same
      · rw [none] at kept
        cases kept
      · rw [same, before]
    | false =>
      refine (works_copy quiet (fun look content held found => ?_)
        fun look left held => ?_).before fun _ held => held.1
      · exact held.1.copied (held.1.head_untouched ▸ found)
      · exact held.1.put_backup left

theorem works_replaceBinary :
    Works (fun look => Installing version look (item :: rest) backups ∧
        existed = (look.files item.name).isSome)
      (replaceBinary version existed item)
      (fun _ look => Installing version look rest
        (backups ++ [⟨item.name, backupPath item.name version, existed⟩]))
      fun _ look => Restoring look backups := by
  have quiet : ∀ look, Backed version existed look item rest backups → look.outcome = none :=
    fun _ held => held.restoring.calm.running
  have placed : Works (Backed version existed · item rest backups)
      (ask (.install (.staged item) (newPath item.name)))
      (fun _ look => Backed version existed look item rest backups)
      fun _ look => Restoring look backups :=
    works_install quiet (fun _ content held _ => held.put_new (some content))
      fun _ left held => (held.put_new left).restoring
  have moved : Works (Backed version existed · item rest backups)
      (ask (.move (newPath item.name) item.name))
      (fun _ look => Installing version look rest
        (backups ++ [⟨item.name, backupPath item.name version, existed⟩]))
      fun _ look => Restoring look backups :=
    (works_move quiet fun _ content held _ =>
      (held.replaced (some content)).put_spare held.good.managed none).failing
      fun _ _ held => held.restoring
  exact works_bind (works_backUp version existed item rest backups) fun _ =>
    works_bind placed fun _ => moved

end

/-- What an error leaves: if it tells of a rollback, everything is as it was. -/
def Undone (error : UpgradeError) (look : Look) : Prop :=
  Calm look ∧ (error.note = .rolledBack → look.Whole)

theorem works_undoReplaced (error : UpgradeError) {Q : List Backup → Look → Prop} :
    Works (Restoring · backups) (undoReplaced backups error) Q Undone := by
  refine works_bind (works_attemptRestore backups) fun result => ?_
  cases result with
  | ok value => exact works_throw fun _ held => ⟨held.1, fun _ => held.2 rfl⟩
  | error failure => exact works_throw fun _ held => ⟨held.1, nofun⟩

theorem works_installBinaries (version : String) (items : List StagedBinary) :
    ∀ backups, Works (Installing version · items backups)
      (installBinaries version false items backups) (fun result look => Restoring look result)
      Undone := by
  induction items with
  | nil => exact fun backups => works_pure fun _ held => held.restoring
  | cons item rest ih =>
    intro backups
    refine works_bind (works_present fun _ held => held.restoring.calm.running) fun existed => ?_
    refine works_bind (Q := Either (fun _ look => Installing version look rest
        (backups ++ [Backup.mk item.name (backupPath item.name version) existed]))
        fun _ look => Restoring look backups)
      (works_attempt (works_replaceBinary version existed item rest backups)) fun result => ?_
    cases result with
    | ok value => exact ih _
    | error error => exact works_undoReplaced backups error

/-! ## Checks before, restart after -/

/-- What a failed attempt leaves. -/
def Failing (error : UpgradeError) (look : Look) : Prop :=
  look.outcome = none ∧ (look.status = "rolled_back" ∨ error.note = .rolledBack → look.Whole)

theorem Calm.failing (calm : Calm look) {error : UpgradeError}
    (whole : error.note = .rolledBack → look.Whole) : Failing error look := by
  refine ⟨calm.1, ?_⟩
  rintro (status | told)
  · rw [calm.2] at status
    exact absurd status (by decide)
  · exact whole told

theorem works_rollBack (plan : RestartPlan) (reason detail : String) {Q : Unit → Look → Prop} :
    Works (Restoring · backups) (rollBack backups plan reason detail) Q Failing := by
  refine works_bind (works_attemptRestore backups) fun rollback => ?_
  refine works_bind (works_attempt (R := fun _ look =>
    Calm look ∧ (rollback = .ok () → look.Whole)) (works_quiet (fun _ held => held.1.1) rfl))
    fun retry => ?_
  have noted : Works (fun look => Calm look ∧ (rollback = .ok () → look.Whole))
      (noteRollback rollback) (fun _ look => Failing (fail reason "") look) Failing := by
    cases rollback with
    | ok value =>
      exact works_rolledBack (fun _ held => held.1.1) fun _ held => ⟨held.1.1, fun _ => held.2 rfl⟩
    | error failure => exact works_pure fun _ held => held.1.failing nofun
  exact works_bind noted fun _ => works_throw fun _ => id

section Sure

variable {P : Look → Prop} {E : UpgradeError → Look → Prop}

theorem works_enter (step : String) (calm : ∀ look, P look → look.outcome = none) :
    Works P (enter step) (fun _ => P) E :=
  works_bind (works_sure calm rfl) fun _ => works_bind (works_sure calm rfl) fun _ =>
    works_pure fun _ => id

theorem works_waitForVersion (target : String) (polls : Nat)
    (calm : ∀ look, P look → look.outcome = none) :
    Works P (waitForVersion target polls) (fun _ => P) E := by
  induction polls with
  | zero => exact works_bind (works_sure calm rfl) fun _ => works_pure fun _ => id
  | succ polls ih =>
    refine works_bind (works_sure calm rfl) fun version => ?_
    split
    · exact works_pure fun _ => id
    · refine works_bind (works_sure calm rfl) fun spent => ?_
      split
      · exact works_pure fun _ => id
      · exact ih

end Sure

theorem works_bringUp (artifacts : Artifacts) (options : UpgradeOptions) (target : String)
    (backups : List Backup) :
    Works (Restoring · backups) (bringUp artifacts options target backups)
      (fun _ look => look.outcome = none) Failing := by
  have running : ∀ look, Restoring look backups → look.outcome = none :=
    fun _ held => held.calm.running
  refine works_bind (works_enter _ running) fun _ => ?_
  refine works_bind (works_attempt (R := fun _ look => Restoring look backups)
    (works_quiet running rfl)) fun restarted => ?_
  cases restarted with
  | error error => exact works_rollBack backups _ _ _
  | ok value =>
    refine works_bind (works_enter _ running) fun _ => ?_
    refine works_bind (works_waitForVersion target _ running) fun ready => ?_
    cases ready with
    | true => exact works_pure running
    | false => exact works_rollBack backups _ _ _

/-! ## The attempt -/

/-- No backup of this version is other than of what is installed. -/
def BackupsFresh (files : String → Option Bytes) (version : String) : Prop :=
  ∀ name ∈ managedBinaries, match files name, files (backupPath name version) with
    | some content, some kept => kept = content
    | _, _ => True

instance (files : String → Option Bytes) (version : String) : Decidable (BackupsFresh files version) :=
  have (name : String) : Decidable (match files name, files (backupPath name version) with
      | some content, some kept => kept = content
      | _, _ => True) :=
    match files name, files (backupPath name version) with
    | some content, some kept => inferInstanceAs (Decidable (kept = content))
    | some _, none => .isTrue trivial
    | none, _ => .isTrue trivial
  inferInstanceAs (Decidable (∀ name ∈ managedBinaries, _))

/-- Nothing has been touched yet. -/
structure Untouched (version : String) (look : Look) : Prop where
  calm : Calm look
  same : look.files = look.before
  fresh : BackupsFresh look.files version

theorem Untouched.whole {version : String} (untouched : Untouched version look) :
    look.Whole := fun _ _ => by rw [untouched.same]

theorem Untouched.installing {version : String} (untouched : Untouched version look)
    (package : StagedPackage) : Installing version look package.items [] where
  restoring := ⟨untouched.calm, nofun, fun name managed _ => untouched.whole name managed⟩
  managed := package.known
  distinct := package.distinct
  new _ _ := nofun
  fresh item mem content there := by
    have fresh := untouched.fresh item.name (package.known item mem)
    rw [untouched.same, there] at fresh
    rw [untouched.same]
    cases kept : look.before (backupPath item.name version) with
    | none => exact .inl rfl
    | some old =>
      rw [kept] at fresh
      exact .inr (congrArg some fresh)

theorem works_applyInner (artifacts : Artifacts) (request : UpgradeRequest)
    (options : UpgradeOptions) :
    Works (Untouched request.currentVersion) (applyInner artifacts request options)
      (fun _ look => look.outcome = none) Failing := by
  have running : ∀ look, Untouched request.currentVersion look → look.outcome = none :=
    fun _ held => held.calm.running
  have checked : ∀ {α : Type} {prog : App α},
      (prog.Uses (fun op => op.isQuiet = true) fun _ _ => True) →
      Works (Untouched request.currentVersion) prog (fun _ => Untouched request.currentVersion)
        Failing := fun uses =>
    (works_uses running uses).failing fun _ _ held => held.calm.failing fun _ => held.whole
  refine works_bind (checked (quiet_prepare artifacts request)) fun prepared =>
    works_bind (works_enter _ running) fun _ => ?_
  obtain ⟨package, target⟩ := prepared
  cases dry : options.dryRun with
  | true =>
    exact works_bind (checked (quiet_of_reads (reads_dryInstall _ _ _))) fun _ => works_pure running
  | false =>
    refine works_bind (((works_installBinaries request.currentVersion package.items []).failing
      fun _ _ held => held.1.failing held.2).before fun _ held => held.installing package)
      fun backups => ?_
    exact works_bringUp artifacts options target backups

theorem works_conclusion (dryRun : Bool) (note : Note) {E : UpgradeError → Look → Prop} :
    Works (fun look => look.outcome = none ∧
        (look.status = "rolled_back" ∨ note = .rolledBack → look.Whole))
      (finish dryRun note) (fun _ _ => True) E := by
  have running : ∀ look : Look, look.outcome = none ∧
      (look.status = "rolled_back" ∨ note = .rolledBack → look.Whole) → look.outcome = none :=
    fun _ held => held.1
  refine works_bind (works_sure running rfl) fun stored => ?_
  refine works_bind (works_recall running) fun record => ?_
  refine works_conclude fun look held restored => held.1.2 ?_
  rw [← held.2]
  cases stored <;> simpa [Outcome.tellsRestored] using restored

theorem works_apply (artifacts : Artifacts) (request : UpgradeRequest) (options : UpgradeOptions) :
    Works (fun look => BackupsFresh look.files request.currentVersion)
      (apply artifacts request options) (fun _ _ => True) fun _ _ => True := by
  refine works_bind (works_begin fun look fresh => ?_) fun _ => works_bind
    (Q := Either (fun _ look => look.outcome = none) Failing)
    (works_attempt (works_applyInner artifacts request options)) fun result => ?_
  · exact ⟨⟨rfl, rfl⟩, rfl, fresh⟩
  · cases result with
    | ok value =>
      refine works_bind (works_finish (fun _ => id) fun look running => ?_) fun _ =>
        works_conclusion options.dryRun .nothing
      refine ⟨running, ?_⟩
      rintro (status | told)
      · exact absurd status (show "succeeded" ≠ "rolled_back" by decide)
      · cases told
    | error error =>
      refine works_bind (works_recall fun _ held => held.1) fun record => ?_
      refine works_bind (works_finish (fun _ held => held.1.1) fun look held => ?_) fun _ =>
        works_conclusion options.dryRun error.note
      refine ⟨held.1.1, ?_⟩
      rintro (status | told)
      · refine held.1.2 (.inl ?_)
        rw [← held.2]
        by_contra other
        simp [other] at status
      · exact held.1.2 (.inr told)

/-! ## Whole runs -/

/-- An attempt starts without a stale backup. -/
def StartsFresh (system : System) : Event → Prop
  | .begin (request, _) => BackupsFresh system.host.files request.currentVersion
  | .start | .act _ | .finish | .crash | .nature _ => True

instance (system : System) : (event : Event) → Decidable (StartsFresh system event)
  | .begin (_, _) => inferInstanceAs (Decidable (BackupsFresh _ _))
  | .start | .act _ | .finish | .crash | .nature _ => .isTrue trivial

theorem lasting_faithful (artifacts : Artifacts) :
    Lasting (upgradeService artifacts) binaryWork
      ⟨fun machine => machine.look.Faithful, fun _ => True, fun _ => True, fun _ => True⟩
      StartsFresh where
  performs := rfl
  guaranteed := id
  starts _ _ faithful _ := ⟨faithful, trivial⟩
  begins system job fresh _ _ := works_apply artifacts job.1 job.2 system.host fresh
  acts _ _ _ _ _ := trivial
  finishes _ _ _ := trivial
  crashes _ _ faithful := ⟨faithful, trivial⟩
  others system event host _ faithful acted := by
    have same : host.look = system.host.look := nature_look acted
    have still : host.look.Faithful := same ▸ faithful
    exact ⟨still, same, fun _ => trivial, fun _ => trivial⟩

/-- **An attempt that tells of a rollback has put every managed binary back**, in every run of the
upgrader: any content of the directory, any artifact, and any effect that fails on the way, as long
as no attempt starts with a backup of its version that is not of what is installed. -/
theorem rollback_faithful {artifacts : Artifacts} {machine : Machine} {events : List Event}
    {final : System} (unfinished : machine.ledger.outcome = none)
    (fresh : Along (upgradeService artifacts).step StartsFresh { host := machine } events)
    (ran : run (upgradeService artifacts).step { host := machine } events = some final) :
    final.host.RollbackFaithful := by
  have started : Kept binaryWork
      ⟨fun machine => machine.look.Faithful, fun _ => True, fun _ => True, fun _ => True⟩
      ({ host := machine } : System) := kept_of_off (faithful_of_running unfinished) trivial
  exact (kept_run (lasting_faithful artifacts) started fresh ran).always

namespace RollbackSample

def artifacts : Artifacts :=
  ⟨some, fun _ => "d1", fun _ => some [0, 1], fun _ _ => some true, id, fun _ => "60s"⟩

def request : UpgradeRequest :=
  { workId := "w1", targetVersion := none, currentVersion := "0.1.3"
    agentdBin := ["opt", "wist-agentd"], packageUrl := "/p", packageSha256 := "d1" }

def options : UpgradeOptions := { dryRun := false, restart := .command "systemctl" ["restart"] }

/-- Fetch and check a bare binary. -/
def checks : List Choice :=
  [.done, .done, .done, .done, .fetched [1, 2], .done, .done, .done, .done, .staged "/s", .done,
    .done, .told "wist-agentd 0.1.4", .done, .done, .done, .done, .done, .done]

/-- The restart fails and everything is put back. -/
def failedRestart : List Choice :=
  [.done, .done, .refused "no such unit", .done, .done, .done, .done, .done, .done, .done, .done,
    .done, .done]

/-- One attempt, with the answers it gets while the binary is replaced. -/
def attempt (replacing : List Choice) : List Event :=
  .start :: .begin (request, options) :: (checks ++ replacing ++ failedRestart).map .act

def installed : Machine :=
  { files := fun name => if name == "wist-agentd" then some [7] else none }

/-- An earlier attempt was killed while it made the backup. -/
def leftover : Machine :=
  { files := fun name => if name == "wist-agentd" then some [7]
      else if name == "wist-agentd.bak-0.1.3" then some [] else none }

end RollbackSample

open RollbackSample in
theorem rollback_faithful_restart :
    ∃ final, run (upgradeService artifacts).step { host := installed }
        (attempt [.done, .done, .done, .done, .done]) = some final ∧
      final.host.ledger.outcome.map (·.record.status) = some "rolled_back" ∧
      final.host.RollbackFaithful := by
  have fresh : Along (upgradeService artifacts).step StartsFresh { host := installed }
      (attempt [.done, .done, .done, .done, .done]) := by decide +kernel
  have found : (run (upgradeService artifacts).step { host := installed }
      (attempt [.done, .done, .done, .done, .done])).map
        (fun system => system.host.ledger.outcome.map (·.record.status)) =
      some (some "rolled_back") := by decide +kernel
  obtain ⟨final, ran, status⟩ := map_eq_some_iff.1 found
  exact ⟨final, ran, status, rollback_faithful rfl fresh ran⟩

open RollbackSample in
/-- The attempt ends as rolled back, and the binary is empty. -/
theorem rollback_from_torn_backup :
    ∃ final, run (upgradeService artifacts).step { host := leftover }
        (attempt [.done, .done, .done, .done]) = some final ∧
      final.host.ledger.outcome.map (·.record.status) = some "rolled_back" ∧
      final.host.ledger.before "wist-agentd" = some [7] ∧
      final.host.files "wist-agentd" = some [] ∧ ¬final.host.RollbackFaithful := by
  have found : (run (upgradeService artifacts).step { host := leftover }
      (attempt [.done, .done, .done, .done])).map (fun system =>
        (system.host.ledger.outcome.map (·.record.status), system.host.ledger.before "wist-agentd",
          system.host.files "wist-agentd")) =
      some (some "rolled_back", some [7], some []) := by decide +kernel
  obtain ⟨final, ran, facts⟩ := map_eq_some_iff.1 found
  simp only [Prod.mk.injEq] at facts
  obtain ⟨status, before, now⟩ := facts
  refine ⟨final, ran, status, before, now, fun faithful => ?_⟩
  obtain ⟨outcome, spent, told⟩ := map_eq_some_iff.1 status
  have same := faithful outcome spent (by simp [Outcome.tellsRestored, told]) "wist-agentd"
    mem_cons_self
  rw [before, now] at same
  cases same

end WistAgentd.Upgrade

/- # Exec.Retention -- an enqueued execution is queued, reported or set aside

`Kept` is what the files say of every execution that was ever enqueued, whatever the daemon is in
the middle of. `Admits` says what a write to each file must respect; the queue has two lemmas of its
own, for items that leave and for one that joins. -/
import WistAgentd.Exec.System

namespace WistAgentd.Exec
open Telemetry (Path IoError ErrorKind)
open Theory.Interaction
set_option autoImplicit false

variable {executionId : String}

/-! ## What is kept -/

/-- Both parts of a report are on disk. -/
def Reported (world : World) (executionId : String) : Prop :=
  world.files (.reporting executionId) ≠ .missing ∧ world.files (.envelope executionId) ≠ .missing

def SetAside (world : World) (executionId : String) : Prop :=
  world.files (.history executionId) ≠ .missing

/-- The execution has not vanished. -/
def Tracked (world : World) (item : ExecutionQueueItem) : Prop :=
  item ∈ world.queueItems ∨ Reported world item.executionId ∨ SetAside world item.executionId

/-- An enqueued execution with this action and digest. -/
def Describes (world : World) (executionId actionId planDigest : String) : Prop :=
  ∃ item ∈ world.ledger.enqueued, item.executionId = executionId ∧ actionId = item.actionId ∧
    planDigest = item.planDigest

/-- Enqueued under this id, and in the queue or set aside. -/
def Known (world : World) (executionId : String) : Prop :=
  ∃ item ∈ world.ledger.enqueued, item.executionId = executionId ∧
    (item ∈ world.queueItems ∨ SetAside world executionId)

/-- `strict`: history records name the action, which takes running files that can be read. -/
structure Kept (strict : Prop) (runDir : Path) (world : World) : Prop where
  readable : ∀ file : File, file.isResult = false → world.files file ≠ .corrupt
  queued : ∀ item ∈ world.queueItems, item ∈ world.ledger.enqueued
  unique : ∀ a ∈ world.ledger.enqueued, ∀ b ∈ world.ledger.enqueued,
    a.executionId = b.executionId → a = b
  running : ∀ slot state, world.files (.running slot) = .intact state →
    state.executionId = slot ∧ Describes world slot state.actionId state.planDigest ∧
      Known world slot
  reports : ∀ executionId state, world.files (.reporting executionId) = .intact state →
    Describes world executionId state.actionId state.planDigest
  histories : strict → ∀ executionId record, world.files (.history executionId) = .intact record →
    ∃ actionId planDigest, record.actionId = some actionId ∧ record.planDigest = some planDigest ∧
      Describes world executionId actionId planDigest
  plans : ∀ item ∈ world.ledger.enqueued, ∀ plan,
    world.files (.plan (workdirFor runDir item.executionId)) = .intact plan →
      plan.actionId = item.actionId
  tracked : ∀ item ∈ world.ledger.enqueued, Tracked world item

section Monotone

variable {s t : World}

theorem queueItems_congr (queue : t.files .queue = s.files .queue) : t.queueItems = s.queueItems := by
  rw [World.queueItems, World.queueItems, queue]

theorem Describes.mono {actionId planDigest : String}
    (described : Describes s executionId actionId planDigest)
    (enqueued : ∀ item ∈ s.ledger.enqueued, item ∈ t.ledger.enqueued) :
    Describes t executionId actionId planDigest := by
  obtain ⟨item, mem, rest⟩ := described
  exact ⟨item, enqueued item mem, rest⟩

theorem Known.mono (known : Known s executionId)
    (enqueued : ∀ item ∈ s.ledger.enqueued, item ∈ t.ledger.enqueued)
    (queue : ∀ item ∈ s.queueItems, item ∈ t.queueItems)
    (aside : SetAside s executionId → SetAside t executionId) : Known t executionId := by
  obtain ⟨item, mem, same, stays⟩ := known
  exact ⟨item, enqueued item mem, same, stays.imp (queue item) aside⟩

end Monotone

/-! ## Writing one file -/

/-- What `file` may hold from now on. -/
def Admits (strict : Prop) (runDir : Path) (s : World) : (file : File) → Stored file.Doc → Prop
  | .result _, _ => True
  | .plan workdir, .intact plan => ∀ item ∈ s.ledger.enqueued,
      workdirFor runDir item.executionId = workdir → plan.actionId = item.actionId
  | .plan _, .missing => True
  | .running slot, .intact state => state.executionId = slot ∧
      Describes s slot state.actionId state.planDigest ∧ Known s slot
  | .running _, .missing => True
  | .reporting executionId, .intact state =>
    Describes s executionId state.actionId state.planDigest
  | .envelope _, .intact _ => True
  -- a report goes while the execution is queued or set aside
  | .reporting executionId, .missing | .envelope executionId, .missing => Known s executionId
  | .history executionId, .intact record => strict → ∃ actionId planDigest,
      record.actionId = some actionId ∧ record.planDigest = some planDigest ∧
        Describes s executionId actionId planDigest
  | _, _ => False

namespace Kept

variable {strict : Prop} {runDir : Path} {s : World}

/-- What is described under an id is the one execution enqueued under it. -/
theorem described (kept : Kept strict runDir s) {item : ExecutionQueueItem} {actionId planDigest : String}
    (mem : item ∈ s.ledger.enqueued) (described : Describes s item.executionId actionId planDigest) :
    actionId = item.actionId ∧ planDigest = item.planDigest := by
  obtain ⟨other, otherMember, same, matching⟩ := described
  obtain rfl := kept.unique other otherMember item mem same
  exact matching

/-- Everything but results and the ledger's other entries is as before. -/
theorem congr {t : World} (kept : Kept strict runDir s)
    (files : ∀ file : File, file.isResult = false → t.files file = s.files file)
    (enqueued : t.ledger.enqueued = s.ledger.enqueued) : Kept strict runDir t := by
  have items : t.queueItems = s.queueItems := queueItems_congr (files .queue rfl)
  have describes : ∀ {executionId actionId planDigest},
      Describes s executionId actionId planDigest → Describes t executionId actionId planDigest :=
    fun described => described.mono fun _ mem => enqueued ▸ mem
  have knows : ∀ {executionId}, Known s executionId → Known t executionId := fun known =>
    known.mono (fun _ mem => enqueued ▸ mem) (fun _ mem => items ▸ mem)
      fun aside => by rwa [SetAside, files (.history _) rfl]
  constructor
  · intro file notResult
    rw [files file notResult]
    exact kept.readable file notResult
  · rw [items, enqueued]
    exact kept.queued
  · rw [enqueued]
    exact kept.unique
  · intro slot state found
    rw [files (.running slot) rfl] at found
    obtain ⟨own, described, known⟩ := kept.running slot state found
    exact ⟨own, describes described, knows known⟩
  · intro executionId state found
    rw [files (.reporting executionId) rfl] at found
    exact describes (kept.reports executionId state found)
  · intro asked executionId record found
    rw [files (.history executionId) rfl] at found
    obtain ⟨actionId, planDigest, action, digest, described⟩ :=
      kept.histories asked executionId record found
    exact ⟨actionId, planDigest, action, digest, describes described⟩
  · intro item mem plan found
    rw [files (.plan _) rfl] at found
    exact kept.plans item (enqueued ▸ mem) plan found
  · intro item mem
    rw [Tracked, Reported, SetAside, items, files (.reporting _) rfl, files (.envelope _) rfl,
      files (.history _) rfl]
    exact kept.tracked item (enqueued ▸ mem)

section Put

variable {file : File} {content : Stored file.Doc}

theorem put_readable (admits : Admits strict runDir s file content) (notResult : file.isResult = false) :
    content ≠ .corrupt := by
  rintro rfl
  cases file with
  | result workdir => cases notResult
  | _ => exact admits

theorem put_aside (admits : Admits strict runDir s file content) (aside : SetAside s executionId) :
    SetAside (s.put file content) executionId := by
  by_cases same : .history executionId = file
  · subst same
    rw [SetAside, World.files_put_self]
    rintro rfl
    exact admits
  · rwa [SetAside, World.files_put_ne _ _ _ same]

theorem put_queue (admits : Admits strict runDir s file content) :
    (s.put file content).files .queue = s.files .queue := by
  refine World.files_put_ne _ _ _ ?_
  rintro rfl
  cases content <;> exact admits

theorem put_knows (admits : Admits strict runDir s file content) (known : Known s executionId) :
    Known (s.put file content) executionId :=
  known.mono (fun _ => id)
    (fun _ mem => (queueItems_congr (put_queue admits)).symm ▸ mem) (put_aside admits)

/-- A report that was complete still is, or the execution is known. -/
theorem put_reported (admits : Admits strict runDir s file content)
    (reported : Reported s executionId) :
    Reported (s.put file content) executionId ∨ Known s executionId := by
  by_cases state : .reporting executionId = file
  · subst state
    cases content with
    | missing => exact .inr admits
    | corrupt => exact admits.elim
    | intact value =>
      refine .inl ⟨?_, ?_⟩
      · rw [World.files_put_self]
        exact nofun
      · rw [World.files_put_ne _ _ _ (by simp)]
        exact reported.2
  · by_cases envelope : .envelope executionId = file
    · subst envelope
      cases content with
      | missing => exact .inr admits
      | corrupt => exact admits.elim
      | intact value =>
        refine .inl ⟨?_, ?_⟩
        · rw [World.files_put_ne _ _ _ (by simp)]
          exact reported.1
        · rw [World.files_put_self]
          exact nofun
    · refine .inl ⟨?_, ?_⟩
      · rw [World.files_put_ne _ _ _ state]
        exact reported.1
      · rw [World.files_put_ne _ _ _ envelope]
        exact reported.2

/-- **A write that is admitted keeps everything.** -/
theorem put (kept : Kept strict runDir s) (admits : Admits strict runDir s file content) :
    Kept strict runDir (s.put file content) := by
  have items : (s.put file content).queueItems = s.queueItems := queueItems_congr (put_queue admits)
  constructor
  · intro other notResult
    by_cases same : other = file
    · subst same
      rw [World.files_put_self]
      exact put_readable admits notResult
    · rw [World.files_put_ne _ _ _ same]
      exact kept.readable other notResult
  · rw [items]
    exact kept.queued
  · exact kept.unique
  · intro slot state found
    by_cases same : .running slot = file
    · subst same
      rw [World.files_put_self] at found
      subst found
      exact ⟨admits.1, admits.2.1, put_knows admits admits.2.2⟩
    · rw [World.files_put_ne _ _ _ same] at found
      obtain ⟨own, described, known⟩ := kept.running slot state found
      exact ⟨own, described, put_knows admits known⟩
  · intro executionId state found
    by_cases same : .reporting executionId = file
    · subst same
      rw [World.files_put_self] at found
      subst found
      exact admits
    · rw [World.files_put_ne _ _ _ same] at found
      exact kept.reports executionId state found
  · intro asked executionId record found
    by_cases same : .history executionId = file
    · subst same
      rw [World.files_put_self] at found
      subst found
      exact admits asked
    · rw [World.files_put_ne _ _ _ same] at found
      exact kept.histories asked executionId record found
  · intro item mem plan found
    by_cases same : .plan (workdirFor runDir item.executionId) = file
    · subst same
      rw [World.files_put_self] at found
      subst found
      exact admits item mem rfl
    · rw [World.files_put_ne _ _ _ same] at found
      exact kept.plans item mem plan found
  · intro item mem
    rw [Tracked, items]
    rcases kept.tracked item mem with queued | reported | aside
    · exact .inl queued
    · rcases put_reported admits reported with still | ⟨other, otherMember, same, stays⟩
      · exact .inr (.inl still)
      · obtain rfl := kept.unique other otherMember item mem same
        exact stays.imp_right fun aside => .inr (put_aside admits aside)
    · exact .inr (.inr (put_aside admits aside))

end Put

/-! ## The queue -/

section Queue

variable {t : World} {queue : ExecutionQueueState}

/-- The queue is replaced and items may have become known. What remains to be shown is what a running
file and a known item need, and the plans of the new items. -/
theorem replace_queue (kept : Kept strict runDir s) (stored : t.files .queue = .intact queue)
    (other : ∀ file, file ≠ .queue → t.files file = s.files file)
    (known : ∀ item ∈ s.ledger.enqueued, item ∈ t.ledger.enqueued)
    (queued : ∀ item ∈ queue.items, item ∈ t.ledger.enqueued)
    (unique : ∀ a ∈ t.ledger.enqueued, ∀ b ∈ t.ledger.enqueued, a.executionId = b.executionId → a = b)
    (stays : ∀ item ∈ s.queueItems, item ∈ queue.items ∨ SetAside s item.executionId ∨
      Reported s item.executionId ∧ s.files (.running item.executionId) = .missing)
    (plans : ∀ item ∈ t.ledger.enqueued, item ∉ s.ledger.enqueued → item ∈ queue.items ∧
      ∀ plan, s.files (.plan (workdirFor runDir item.executionId)) = .intact plan →
        plan.actionId = item.actionId) : Kept strict runDir t := by
  have items : t.queueItems = queue.items := by rw [World.queueItems, stored]
  have aside : ∀ {executionId}, SetAside s executionId → SetAside t executionId :=
    fun aside => by rwa [SetAside, other _ (by simp)]
  have describes : ∀ {executionId actionId planDigest},
      Describes s executionId actionId planDigest → Describes t executionId actionId planDigest :=
    fun described => described.mono known
  constructor
  · intro file notResult
    by_cases same : file = .queue
    · subst same
      simp [stored]
    · rw [other file same]
      exact kept.readable file notResult
  · intro item mem
    exact queued item (items ▸ mem)
  · exact unique
  · intro slot state found
    rw [other _ (by simp)] at found
    obtain ⟨own, described, item, mem, same, waits⟩ := kept.running slot state found
    refine ⟨own, describes described, item, known item mem, same, ?_⟩
    rw [items]
    rcases waits with waits | set
    · rcases stays item waits with stays | set | ⟨-, gone⟩
      · exact .inl stays
      · exact .inr (aside (same ▸ set))
      · rw [same, found] at gone
        cases gone
    · exact .inr (aside set)
  · intro executionId state found
    rw [other _ (by simp)] at found
    exact describes (kept.reports executionId state found)
  · intro asked executionId record found
    rw [other _ (by simp)] at found
    obtain ⟨actionId, planDigest, action, digest, described⟩ :=
      kept.histories asked executionId record found
    exact ⟨actionId, planDigest, action, digest, describes described⟩
  · intro item mem plan found
    rw [other _ (by simp)] at found
    by_cases old : item ∈ s.ledger.enqueued
    · exact kept.plans item old plan found
    · exact (plans item mem old).2 plan found
  · intro item mem
    rw [Tracked, items, Reported, other _ (by simp), other _ (by simp)]
    by_cases old : item ∈ s.ledger.enqueued
    · rcases kept.tracked item old with waits | reported | set
      · rcases stays item waits with stays | set | ⟨reported, -⟩
        · exact .inl stays
        · exact .inr (.inr (aside set))
        · exact .inr (.inl reported)
      · exact .inr (.inl reported)
      · exact .inr (.inr (aside set))
    · exact .inl (plans item mem old).1

/-- Items may leave the queue once they are set aside, or reported and not running any more. -/
theorem shrink_queue (kept : Kept strict runDir s) (stored : t.files .queue = .intact queue)
    (other : ∀ file, file ≠ .queue → t.files file = s.files file)
    (enqueued : t.ledger.enqueued = s.ledger.enqueued)
    (sub : ∀ item ∈ queue.items, item ∈ s.queueItems)
    (left : ∀ item ∈ s.queueItems, item ∈ queue.items ∨ SetAside s item.executionId ∨
      Reported s item.executionId ∧ s.files (.running item.executionId) = .missing) :
    Kept strict runDir t := by
  refine replace_queue kept stored other ?_ ?_ ?_ left ?_ <;> rw [enqueued]
  · exact fun _ => id
  · exact fun item mem => kept.queued item (sub item mem)
  · exact kept.unique
  · exact fun item mem new => absurd mem new

/-- A new item joins the queue. -/
theorem grow_queue (kept : Kept strict runDir s) {item : ExecutionQueueItem}
    (stored : t.files .queue = .intact queue)
    (other : ∀ file, file ≠ .queue → t.files file = s.files file)
    (enqueued : ∀ x, x ∈ t.ledger.enqueued ↔ x ∈ s.ledger.enqueued ∨ x = item)
    (members : ∀ x, x ∈ queue.items ↔ x ∈ s.queueItems ∨ x = item)
    (fresh : ∀ x ∈ s.ledger.enqueued, x.executionId ≠ item.executionId)
    (plan : ∀ plan, s.files (.plan (workdirFor runDir item.executionId)) = .intact plan →
      plan.actionId = item.actionId) : Kept strict runDir t := by
  refine replace_queue kept stored other (fun x mem => (enqueued x).2 (.inl mem))
    (fun x mem => (enqueued x).2 (((members x).1 mem).imp_left (kept.queued x))) ?_
    (fun x mem => .inl ((members x).2 (.inl mem))) fun x mem new => ?_
  · intro a memberA b memberB same
    rcases (enqueued a).1 memberA with oldA | rfl <;> rcases (enqueued b).1 memberB with oldB | rfl
    · exact kept.unique a oldA b oldB same
    · exact absurd same (fresh a oldA)
    · exact absurd same.symm (fresh b oldB)
    · rfl
  · obtain rfl := ((enqueued x).1 mem).resolve_left new
    exact ⟨(members x).2 (.inr rfl), plan⟩

end Queue

end Kept

end WistAgentd.Exec

/- # Exec.Custody -- the programs keep what `Retention` asks for

Each party relies on the others for little: nobody stores the queue unnoticed, nobody but the daemon
touches running, report and history files, and what is queued stays queued. `Tame` programs keep
`Kept` together with anything that survives a `Soft` change; the others have specifications of their
own. -/
import WistAgentd.Exec.Retention

namespace WistAgentd.Exec
open Telemetry (Path IoError ErrorKind)
open Theory.Interaction
set_option autoImplicit false

/-! ## Rely and guarantee -/

/-- Files only the daemon writes. -/
def File.isDaemons : File → Bool
  | .running _ | .reporting _ | .envelope _ | .history _ => true
  | _ => false

/-- What `party` can count on while the others act. -/
structure Steady (strict : Prop) (runDir : Path) (party : Party) (s t : World) : Prop where
  kept : Kept strict runDir s → Kept strict runDir t
  unseen : t.ledger.overtaken party = false →
    s.ledger.overtaken party = false ∧ t.files .queue = s.files .queue
  enqueued : ∀ item ∈ s.ledger.enqueued, item ∈ t.ledger.enqueued
  own : ∀ executionId, party = .submission executionId → ∀ item ∈ t.ledger.enqueued,
    item.executionId = executionId → item ∈ s.ledger.enqueued
  ownPlan : ∀ executionId, party = .submission executionId →
    (∀ item ∈ s.ledger.enqueued, item.executionId ≠ executionId) →
      t.files (.plan (workdirFor runDir executionId)) =
        s.files (.plan (workdirFor runDir executionId))
  grows : party = .daemon → ∀ item ∈ s.queueItems, item ∈ t.queueItems
  daemons : party = .daemon → ∀ file : File, file.isDaemons = true → t.files file = s.files file

namespace Steady

variable {strict : Prop} {runDir : Path} {party : Party}

theorem refl (s : World) : Steady strict runDir party s s :=
  ⟨id, fun unseen => ⟨unseen, rfl⟩, fun _ => id, fun _ _ _ mem _ => mem,
    fun _ _ _ => rfl, fun _ _ => id, fun _ _ _ => rfl⟩

theorem trans {a b c : World} (first : Steady strict runDir party a b)
    (second : Steady strict runDir party b c) : Steady strict runDir party a c where
  kept := second.kept ∘ first.kept
  unseen := by
    intro unseen
    obtain ⟨before, queue⟩ := second.unseen unseen
    obtain ⟨earlier, queue'⟩ := first.unseen before
    exact ⟨earlier, queue.trans queue'⟩
  enqueued := fun item mem => second.enqueued item (first.enqueued item mem)
  own := fun executionId who item mem same =>
    first.own executionId who item (second.own executionId who item mem same) same
  ownPlan := by
    intro executionId who fresh
    rw [second.ownPlan executionId who, first.ownPlan executionId who fresh]
    intro item mem same
    exact fresh item (first.own executionId who item mem same) same
  grows := fun who item mem => second.grows who item (first.grows who item mem)
  daemons := fun who file is => (second.daemons who file is).trans (first.daemons who file is)

end Steady

/-- Which answers are considered: a queue is stored by a party that has not been overtaken since it
last looked; `Path::exists` does not fail on the queue; for `strict`, running files can be read. -/
def Fair (strict : Prop) (party : Party) (op : Op) (choice : Choice) (s : World) : Prop :=
  (∀ queue, op = .write .queue queue → s.ledger.overtaken party = false) ∧
  (party ≠ .daemon → op = .exists .queue → ∀ error, choice ≠ .fail error) ∧
  (strict → ∀ slot, op = .read (.running slot) → ∀ error, choice ≠ .fail error)

instance decidableFair (strict : Prop) [Decidable strict] (party : Party) (choice : Choice)
    (s : World) : ∀ op : Op, Decidable (Fair strict party op choice s)
  | .write .queue _ => decidable_of_iff (s.ledger.overtaken party = false) (by simp [Fair])
  | .exists .queue => decidable_of_iff (party ≠ .daemon → choice.fails = false)
      (by simp [Fair, Choice.fails_eq_false])
  | .read (.running _) => decidable_of_iff (strict → choice.fails = false)
      (by simp [Fair, Choice.fails_eq_false])
  | .write (.plan _) _ | .write (.result _) _ | .write (.running _) _ | .write (.reporting _) _
  | .write (.envelope _) _ | .write (.history _) _ | .exists (.plan _) | .exists (.result _)
  | .exists (.running _) | .exists (.reporting _) | .exists (.envelope _) | .exists (.history _)
  | .read .queue | .read (.plan _) | .read (.result _) | .read (.reporting _)
  | .read (.envelope _) | .read (.history _) | .now | .after _ | .elapsed _ | .remove _ | .list _
  | .statFolder _ | .removeWorkdir _ | .scratch _ | .spawn _ _ | .probe _ | .identity _
  | .signal _ _ | .lingers _ | .tryWait _ | .wait _ _ | .startKill _ | .dropChild =>
    .isTrue (by simp [Fair])

section

variable (strict : Prop) (runDir : Path)

def custody (party : Party) :
    Setting Op Op.Ans RuntimeError World Choice where
  perform := perform party
  allowed := Fair strict party
  rely := Steady strict runDir party
  guar s t := Kept strict runDir t ∧ ∀ other, other ≠ party → Steady strict runDir other s t
  rely_refl := Steady.refl
  rely_trans := Steady.trans

/-- A specification beside what is kept. -/
abbrev Keeping (party : Party) {α : Type} (P : World → Prop)
    (prog : App α) (Q : α → World → Prop) (E : RuntimeError → World → Prop) : Prop :=
  Spec (custody strict runDir party) (fun s => Kept strict runDir s ∧ P s) prog
    (fun value s => Kept strict runDir s ∧ Q value s) fun error s => Kept strict runDir s ∧ E error s

/-- One of the daemon whose failures are not looked at. -/
abbrev Settles {α : Type} (P : World → Prop) (prog : App α)
    (Q : α → World → Prop) : Prop :=
  Spec (custody strict runDir .daemon) (fun s => Kept strict runDir s ∧ P s) prog
    (fun value s => Kept strict runDir s ∧ Q value s) fun _ s => Kept strict runDir s

/-- Knowledge that lasts beside what is kept. -/
abbrev Standing (party : Party) (X : World → Prop) : Prop :=
  Stable (custody strict runDir party) fun s => Kept strict runDir s ∧ X s

end

theorem guar_refl {strict : Prop} {runDir : Path} {party : Party} {s : World}
    (kept : Kept strict runDir s) : (custody strict runDir party).guar s s :=
  ⟨kept, fun _ _ => Steady.refl s⟩

/-- The clock changes nothing and does not fail. -/
theorem spec_now {strict : Prop} {runDir : Path} {party : Party} {P : World → Prop}
    {E : RuntimeError → World → Prop} (stable : Stable (custody strict runDir party) P)
    (kept : ∀ s, P s → Kept strict runDir s) :
    Spec (custody strict runDir party) P (ask .now) (fun _ => P) E := by
  intro s held t others choice answer u _ ran
  have held := stable s t held others
  change perform party .now choice t = some (answer, u) at ran
  simp only [perform] at ran
  split at ran
  · obtain ⟨rfl, rfl⟩ := Prod.mk.inj (Option.some.inj ran)
    exact ⟨guar_refl (kept _ held), fun v more => stable _ v held more⟩
  · cases ran

/-- Operations that leave everything `Kept` speaks of as it is. -/
def Op.harmless : Op → Bool
  | .write file _ | .remove file => file.isResult
  | .exists file | .read file => file != .queue
  | .removeWorkdir _ => false
  | _ => true

/-! ## What the daemon's own operations are to the others -/

section Daemon

variable {strict : Prop} {runDir : Path} {s t : World}

theorem workdirFor_injective {a b : String} (same : workdirFor runDir a = workdirFor runDir b) :
    a = b := by
  exact String.append_right_inj _ |>.1 same

/-- A step of the daemon that leaves the queue alone. -/
theorem guar_daemon (kept : Kept strict runDir t) (queue : t.files .queue = s.files .queue)
    (overtaken : ∀ other, other ≠ .daemon → t.ledger.overtaken other = s.ledger.overtaken other)
    (enqueued : t.ledger.enqueued = s.ledger.enqueued)
    (plans : ∀ executionId, (∀ item ∈ s.ledger.enqueued, item.executionId ≠ executionId) →
      t.files (.plan (workdirFor runDir executionId)) =
        s.files (.plan (workdirFor runDir executionId))) :
    (custody strict runDir .daemon).guar s t := by
  refine ⟨kept, fun other different => ⟨fun _ => kept, ?_, ?_, ?_, ?_, ?_, ?_⟩⟩
  · rw [overtaken other different]
    exact fun unseen => ⟨unseen, queue⟩
  · rw [enqueued]
    exact fun _ => id
  · rw [enqueued]
    exact fun _ _ _ mem _ => mem
  · exact fun executionId _ fresh => plans executionId fresh
  · exact fun who => absurd who different
  · exact fun who => absurd who different

end Daemon

/-! ## Changes a program's knowledge survives -/

/-- Queued executions stay queued, set aside ones stay set aside, and only `running/<slot>.json`
changes. `quiet`: the queue was not looked at; `whole`: reports stay as they are. -/
structure Soft (quiet whole : Bool) (slot : String) (s t : World) : Prop where
  enqueued : ∀ item ∈ s.ledger.enqueued, item ∈ t.ledger.enqueued
  queue : ∀ item ∈ s.queueItems, item ∈ t.queueItems
  aside : ∀ executionId, SetAside s executionId → SetAside t executionId
  running : ∀ other, other ≠ slot → t.files (.running other) = s.files (.running other)
  unseen : quiet = true → t.ledger.overtaken .daemon = false →
    s.ledger.overtaken .daemon = false ∧ t.files .queue = s.files .queue
  reports : whole = true → ∀ executionId,
    t.files (.reporting executionId) = s.files (.reporting executionId) ∧
      t.files (.envelope executionId) = s.files (.envelope executionId)

def Lasting (quiet whole : Bool) (slot : String) (X : World → Prop) : Prop :=
  ∀ s t, X s → Soft quiet whole slot s t → X t

variable {op : Op}

section Soft

variable {strict : Prop} {runDir : Path} {quiet whole : Bool} {slot : String} {s t : World}

theorem Steady.soft (steady : Steady strict runDir .daemon s t) : Soft quiet whole slot s t where
  enqueued := steady.enqueued
  queue := steady.grows rfl
  aside := fun executionId aside => by rwa [SetAside, steady.daemons rfl (.history _) rfl]
  running := fun other _ => steady.daemons rfl (.running other) rfl
  unseen := fun _ => steady.unseen
  reports := fun _ executionId => ⟨steady.daemons rfl (.reporting executionId) rfl,
    steady.daemons rfl (.envelope executionId) rfl⟩

theorem Lasting.and {X Y : World → Prop} (first : Lasting quiet whole slot X)
    (second : Lasting quiet whole slot Y) : Lasting quiet whole slot fun s => X s ∧ Y s :=
  fun s t held soft => ⟨first s t held.1 soft, second s t held.2 soft⟩

theorem lasting_true : Lasting quiet whole slot fun _ => True := fun _ _ _ _ => trivial

theorem lasting_queued (item : ExecutionQueueItem) :
    Lasting quiet whole slot fun s => item ∈ s.queueItems :=
  fun _ _ held soft => soft.queue item held

theorem lasting_known (executionId : String) :
    Lasting quiet whole slot fun s => Known s executionId :=
  fun _ _ held soft => held.mono soft.enqueued soft.queue (soft.aside executionId)

theorem lasting_described (executionId actionId planDigest : String) :
    Lasting quiet whole slot fun s => Describes s executionId actionId planDigest :=
  fun _ _ held soft => held.mono soft.enqueued

theorem Lasting.stable {X : World → Prop} (lasting : Lasting quiet whole slot X) :
    Standing strict runDir .daemon X :=
  fun s t held steady => ⟨steady.kept held.1, lasting s t held.2 steady.soft⟩

/-- A harmless operation, seen by the others and by the program itself. -/
theorem harmless_change {party : Party} (harmless : op.harmless = true)
    (effect : Effect party op s t) :
    (∀ file : File, file.isResult = false → t.files file = s.files file) ∧
      t.ledger.enqueued = s.ledger.enqueued ∧ t.ledger.overtaken = s.ledger.overtaken := by
  have result : ∀ (file : File) (content : Stored file.Doc), file.isResult = true →
      ∀ other : File, other.isResult = false → (s.put file content).files other = s.files other := by
    intro file content is other isNot
    refine s.files_put_ne file content ?_
    rintro rfl
    rw [is] at isNot
    cases isNot
  cases effect with
  | same => exact ⟨fun _ _ => rfl, rfl, rfl⟩
  | looked op touches => rcases touches with rfl | rfl <;> cases harmless
  | wrote file value =>
    cases file with
    | result workdir => exact ⟨result (.result workdir) _ rfl, rfl, rfl⟩
    | _ => cases harmless
  | removed file => exact ⟨result file _ harmless, rfl, rfl⟩
  | removedWorkdir workdir => cases harmless
  | spawned | reaped | dropped => exact ⟨fun _ _ => rfl, rfl, rfl⟩

end Soft

/-! ## Tame programs -/

section Tame

variable (strict : Prop) (runDir : Path) (quiet whole : Bool) (slot : String)

/-- Keeps `Kept`, `G` and whatever lasts; returns with `F`. -/
def Yields {α : Type} (G : World → Prop) (F : α → World → Prop) (prog : App α) : Prop :=
  ∀ X, Lasting quiet whole slot X → Spec (custody strict runDir .daemon)
    (fun s => Kept strict runDir s ∧ G s ∧ X s) prog
    (fun value s => Kept strict runDir s ∧ (F value s ∧ G s) ∧ X s)
    (fun _ s => Kept strict runDir s ∧ G s ∧ X s)

def Tame {α : Type} (G : World → Prop) (prog : App α) : Prop :=
  ∀ X, Lasting quiet whole slot X → Spec (custody strict runDir .daemon)
    (fun s => Kept strict runDir s ∧ G s ∧ X s) prog
    (fun _ s => Kept strict runDir s ∧ G s ∧ X s)
    (fun _ s => Kept strict runDir s ∧ G s ∧ X s)

variable {strict runDir quiet whole slot} {α β : Type} {G : World → Prop}

theorem tame_pure (lasting : Lasting quiet whole slot G) (value : α) :
    Tame strict runDir quiet whole slot G (pure value : App α) :=
  fun _ rest => spec_pure (lasting.and rest).stable fun _ => id

theorem tame_throw (lasting : Lasting quiet whole slot G) (error : RuntimeError) :
    Tame strict runDir quiet whole slot G (.throw error : App α) :=
  fun _ rest => spec_throw (lasting.and rest).stable fun _ => id

variable {prog : App α} {next : α → App β}

theorem tame_bind (head : Tame strict runDir quiet whole slot G prog)
    (tail : ∀ value, Tame strict runDir quiet whole slot G (next value)) :
    Tame strict runDir quiet whole slot G (prog >>= next) :=
  fun X rest => spec_bind (head X rest) fun value => tail value X rest

theorem tame_attempt (inner : Tame strict runDir quiet whole slot G prog) :
    Tame strict runDir quiet whole slot G prog.attempt :=
  fun X rest => spec_attempt (inner X rest)

variable {F : α → World → Prop}

theorem tame_bind_yields (head : Yields strict runDir quiet whole slot G F prog)
    (tail : ∀ value, Tame strict runDir quiet whole slot (fun s => F value s ∧ G s) (next value)) :
    Tame strict runDir quiet whole slot G (prog >>= next) :=
  fun X rest => spec_bind (head X rest) fun value =>
    ((tail value X rest).after fun _ _ held => ⟨held.1, held.2.1.2, held.2.2⟩).failing fun _ _ held =>
      ⟨held.1, held.2.1.2, held.2.2⟩

theorem yields_bind {F' : β → World → Prop} (head : Yields strict runDir quiet whole slot G F prog)
    (tail : ∀ value, Yields strict runDir quiet whole slot (fun s => F value s ∧ G s) F'
      (next value)) : Yields strict runDir quiet whole slot G F' (prog >>= next) :=
  fun X rest => spec_bind (head X rest) fun value =>
    ((tail value X rest).after fun _ _ held => ⟨held.1, ⟨held.2.1.1, held.2.1.2.2⟩, held.2.2⟩).failing
      fun _ _ held => ⟨held.1, held.2.1.2, held.2.2⟩

theorem yields_pure {value : α} (lasting : Lasting quiet whole slot G)
    (holds : ∀ s, Kept strict runDir s → G s → F value s) :
    Yields strict runDir quiet whole slot G F (pure value) :=
  fun _ rest => spec_pure (lasting.and rest).stable fun s held =>
    ⟨held.1, ⟨holds s held.1 held.2.1, held.2.1⟩, held.2.2⟩

theorem yields_attempt (inner : Yields strict runDir quiet whole slot G F prog) :
    Yields strict runDir quiet whole slot G (fun result s => ∀ value, result = .ok value → F value s)
      prog.attempt := by
  intro X rest
  refine spec_attempt (((inner X rest).after ?_).failing ?_)
  · rintro value s ⟨kept, ⟨found, holds⟩, more⟩
    refine ⟨kept, ⟨?_, holds⟩, more⟩
    rintro _ ⟨⟩
    exact found
  · rintro error s ⟨kept, holds, more⟩
    exact ⟨kept, ⟨nofun, holds⟩, more⟩

theorem Tame.yields_true (tame : Tame strict runDir quiet whole slot G prog) :
    Yields strict runDir quiet whole slot G (fun _ _ => True) prog :=
  fun X rest => (tame X rest).after (fun _ _ held => ⟨held.1, ⟨trivial, held.2.1⟩, held.2.2⟩)

/-- More knowledge does no harm. -/
theorem Tame.under (tame : Tame strict runDir quiet whole slot (fun _ => True) prog)
    (lasting : Lasting quiet whole slot G) : Tame strict runDir quiet whole slot G prog :=
  fun X rest => spec_weaken (tame (fun s => G s ∧ X s) (lasting.and rest))
    (fun _ held => ⟨held.1, trivial, held.2⟩) (fun _ _ held => ⟨held.1, held.2.2⟩)
    fun _ _ held => ⟨held.1, held.2.2⟩

/-- One operation whose every effect is soft. -/
theorem tame_ask (lasting : Lasting quiet whole slot G)
    (good : ∀ s choice t, Kept strict runDir s → G s → Fair strict .daemon op choice s →
      Effect .daemon op s t →
      (custody strict runDir .daemon).guar s t ∧ Soft quiet whole slot s t) :
    Tame strict runDir quiet whole slot G (ask op) := by
  intro X rest
  refine spec_request (lasting.and rest).stable ?_ (fun _ => (lasting.and rest).stable)
    fun _ => (lasting.and rest).stable
  rintro s choice answer t ⟨kept, holds, more⟩ fair ran
  obtain ⟨guar, soft⟩ := good s choice t kept holds fair (perform_effect ran)
  exact ⟨guar, either_of ⟨guar.1, lasting s t holds soft, rest s t more soft⟩ answer⟩

theorem harmless_good (harmless : op.harmless = true) {s t : World} (kept : Kept strict runDir s)
    (effect : Effect .daemon op s t) :
    (custody strict runDir .daemon).guar s t ∧ Soft quiet whole slot s t := by
  obtain ⟨files, enqueued, overtaken⟩ := harmless_change harmless effect
  refine ⟨guar_daemon (kept.congr files enqueued) (files .queue rfl)
    (fun other _ => congrFun overtaken other) enqueued fun _ _ => files (.plan _) rfl, ?_⟩
  constructor
  · exact fun _ mem => enqueued ▸ mem
  · exact fun _ mem => queueItems_congr (files .queue rfl) ▸ mem
  · exact fun executionId aside => by rwa [SetAside, files (.history _) rfl]
  · exact fun other _ => files (.running other) rfl
  · exact fun _ unseen => ⟨congrFun overtaken _ ▸ unseen, files .queue rfl⟩
  · exact fun _ executionId => ⟨files (.reporting _) rfl, files (.envelope _) rfl⟩

theorem unchanged_good {s : World} (kept : Kept strict runDir s) :
    (custody strict runDir .daemon).guar s s ∧ Soft quiet whole slot s s :=
  harmless_good rfl kept (.same .now s)

theorem tame_harmless (harmless : op.harmless = true) (lasting : Lasting quiet whole slot G) :
    Tame strict runDir quiet whole slot G (ask op) :=
  tame_ask lasting fun _ _ _ kept _ _ effect => harmless_good harmless kept effect

/-- A harmless operation whose answer says something that lasts. -/
theorem yields_harmless {F : op.Ans → World → Prop} (harmless : op.harmless = true)
    (lasting : Lasting quiet whole slot G) (facts : ∀ value, Lasting quiet whole slot (F value))
    (fact : ∀ s choice value t, Kept strict runDir s → G s →
      perform .daemon op choice s = some (.ok value, t) → F value s) :
    Yields strict runDir quiet whole slot G F (ask op) := by
  intro X rest
  refine spec_request (lasting.and rest).stable ?_
    (fun value => (((facts value).and lasting).and rest).stable) fun _ => (lasting.and rest).stable
  rintro s choice answer t ⟨kept, holds, more⟩ - ran
  obtain ⟨guar, soft⟩ := harmless_good harmless kept (perform_effect ran)
  refine ⟨guar, ?_⟩
  cases answer with
  | ok value =>
    have found := fact s choice value t kept holds ran
    exact ⟨guar.1, ⟨facts value s t found soft, lasting s t holds soft⟩, rest s t more soft⟩
  | error error => exact ⟨guar.1, lasting s t holds soft, rest s t more soft⟩

/-- Putting an admitted content in a file of the daemon. -/
theorem put_good {file : File} {content : Stored file.Doc} {s : World} (kept : Kept strict runDir s)
    (admits : Admits strict runDir s file content)
    (plans : ∀ executionId, (∀ item ∈ s.ledger.enqueued, item.executionId ≠ executionId) →
      file ≠ .plan (workdirFor runDir executionId))
    (running : ∀ other, other ≠ slot → file ≠ .running other)
    (reports : whole = true → ∀ executionId,
      file ≠ .reporting executionId ∧ file ≠ .envelope executionId) :
    (custody strict runDir .daemon).guar s (s.put file content) ∧
      Soft quiet whole slot s (s.put file content) := by
  have queue := Kept.put_queue admits
  refine ⟨guar_daemon (kept.put admits) queue (fun _ _ => rfl) rfl fun executionId fresh =>
    s.files_put_ne _ _ (plans executionId fresh).symm, ?_⟩
  constructor
  · exact fun _ => id
  · exact fun _ mem => queueItems_congr queue ▸ mem
  · exact fun _ aside => Kept.put_aside admits aside
  · exact fun other different => s.files_put_ne _ _ (running other different).symm
  · exact fun _ unseen => ⟨unseen, queue⟩
  · exact fun asked executionId => ⟨s.files_put_ne _ _ (reports asked executionId).1.symm,
      s.files_put_ne _ _ (reports asked executionId).2.symm⟩

/-- The operation puts this content in the file; if it fails, perhaps. -/
structure Puts (op : Op) (file : File) (content : Stored file.Doc) : Prop where
  done : ∀ s choice value t, perform .daemon op choice s = some (.ok value, t) →
    t = s.put file content
  failed : ∀ s choice error t, perform .daemon op choice s = some (.error error, t) →
    t = s ∨ t = s.put file content

theorem puts_write {file : File} (daemons : file.isDaemons = true) (value : file.Doc) :
    Puts (.write file value) file (.intact value) := by
  have noted : ∀ s : World, s.noteWrite .daemon file value = s := by
    intro s
    cases file with
    | running | reporting | envelope | history => rfl
    | queue | plan | result => cases daemons
  refine ⟨fun s choice _ t ran => ?_, fun s choice error t ran => ?_⟩
  · rw [perform_write_ok ran, noted]
  · simpa only [noted] using effect_write (perform_effect ran)

theorem puts_remove (file : File) : Puts (.remove file) file .missing :=
  ⟨fun _ _ _ _ ran => perform_remove_ok ran,
    fun _ _ _ _ ran => effect_remove (perform_effect ran)⟩

/-- A write to a file of the daemon, or its removal. -/
theorem spec_put {op : Op} {file : File} {content : Stored file.Doc} {P Q E : World → Prop}
    (puts : Puts op file content) (daemons : file.isDaemons = true)
    (stableP : Stable (custody strict runDir .daemon) P)
    (stableQ : Stable (custody strict runDir .daemon) Q)
    (stableE : Stable (custody strict runDir .daemon) E)
    (admits : ∀ s, P s → Kept strict runDir s ∧ Admits strict runDir s file content)
    (ok : ∀ s, P s → Q (s.put file content))
    (failed : ∀ s, P s → E s ∧ E (s.put file content)) :
    Spec (custody strict runDir .daemon) P (ask op) (fun _ => Q) (fun _ => E) := by
  have good : ∀ s, P s → (custody strict runDir .daemon).guar s (s.put file content) := by
    intro s held
    obtain ⟨kept, admitted⟩ := admits s held
    refine guar_daemon (kept.put admitted) (Kept.put_queue admitted) (fun _ _ => rfl) rfl ?_
    intro executionId _
    refine s.files_put_ne _ _ ?_
    rintro rfl
    cases daemons
  refine spec_request stableP ?_ (fun _ => stableQ) fun _ => stableE
  intro s choice answer t held _ ran
  cases answer with
  | ok value =>
    rw [puts.done s choice value t ran]
    exact ⟨good s held, ok s held⟩
  | error error =>
    rcases puts.failed s choice error t ran with rfl | rfl
    · exact ⟨guar_refl (admits _ held).1, (failed _ held).1⟩
    · exact ⟨good s held, (failed s held).2⟩

end Tame

end WistAgentd.Exec

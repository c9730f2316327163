/- # Exec.Duplicates -- what the search for a duplicate finds

`find_duplicate_execution` only looks: at the queue, then at the running, reporting and history files.
As long as the files can be read it finds every execution that is tracked.

* `findDuplicateExecution_found`: with readable files it finds a tracked execution. -/
import WistAgentd.Exec.Retention
import WistAgentd.Exec.Footprint

namespace WistAgentd.Exec
open Telemetry (Path IoError ErrorKind)
open Theory.Interaction
open List
set_option autoImplicit false

/-! ## What it finds -/

/-- No file operation fails. -/
def Legible (_ : Op) (choice : Choice) (_ : World) : Prop :=
  ∀ error, choice ≠ .fail error ∧ choice ≠ .failLate error

section Found

variable {party : Party} {w : World} {E : RuntimeError → World → Prop}

theorem files_looked {op : Op} (looks : op.looks = true) {s t : World}
    (effect : Effect party op s t) : t.files = s.files := by
  cases effect with
  | same | looked => rfl
  | reaped _ _ waits => rcases waits with rfl | ⟨_, rfl⟩ <;> cases looks
  | wrote | removed | removedWorkdir | spawned | dropped => cases looks

/-- The files stay as they are in `w`, and a value meets `Q`. -/
abbrev Glances {α : Type} (party : Party) (w : World) (prog : App α) (Q : α → Prop)
    (E : RuntimeError → World → Prop) : Prop :=
  Spec (alone (perform party) Legible) (fun s => s.files = w.files) prog
    (fun value s => Q value ∧ s.files = w.files) E

/-- One look, with what its answer says of the files. -/
theorem spec_glance {op : Op} {Q : op.Ans → Prop} {F : RuntimeError → Prop} (looks : op.looks = true)
    (ok : ∀ s choice value t, s.files = w.files →
      perform party op choice s = some (.ok value, t) → Q value)
    (failed : ∀ s choice error t, s.files = w.files → Legible op choice s →
      perform party op choice s = some (.error error, t) → F error) :
    Glances party w (ask op) Q fun error s => F error ∧ s.files = w.files := by
  refine spec_request (stable_alone _) ?_ (fun _ => stable_alone _) fun _ => stable_alone _
  intro s choice answer t held fine ran
  have same := (files_looked looks (perform_effect ran)).trans held
  cases answer with
  | ok value => exact ⟨trivial, ok s choice value t held ran, same⟩
  | error error => exact ⟨trivial, failed s choice error t held fine ran, same⟩

/-- Other looks than reads do not fail. -/
theorem spec_glance_safe {op : Op} {Q : op.Ans → Prop} {E : RuntimeError → World → Prop}
    (looks : op.looks = true) (notRead : ∀ file, op ≠ .read file)
    (ok : ∀ s choice value t, s.files = w.files →
      perform party op choice s = some (.ok value, t) → Q value) :
    Glances party w (ask op) Q E := by
  refine (spec_glance (F := fun _ => False) looks ok ?_).failing fun _ _ held => held.1.elim
  intro s choice error t _ fine ran
  rcases perform_error ran with ⟨failure, rfl⟩ | ⟨failure, rfl⟩ | ⟨file, rfl⟩
  · exact (fine failure).1 rfl
  · exact (fine failure).2 rfl
  · exact notRead file rfl

/-- A read says what the file holds, or that it holds nothing readable. -/
theorem spec_glance_read (file : File) :
    Glances party w (ask (.read file)) (w.files file = .intact ·)
      (fun _ s => (w.files file = .missing ∨ w.files file = .corrupt) ∧ s.files = w.files) := by
  refine spec_glance rfl (fun s choice value t held ran => ?_)
    fun s choice error t held fine ran => ?_
  · rw [← held]
    exact (perform_read_ok ran).1
  · rw [← held]
    rcases (perform_read_error ran).2 with ⟨failure, rfl⟩ | nothing
    · exact absurd rfl (fine failure).1
    · exact nothing

theorem spec_loadQueue_alone (readable : w.files .queue ≠ .corrupt) :
    Glances party w loadQueueBlocking (·.items = w.queueItems) fun _ _ => False := by
  refine spec_bind (Q := fun found s => found = (w.files .queue).present ∧ s.files = w.files)
    (spec_bind (Q := fun result s => result = .ok (w.files .queue).present ∧ s.files = w.files)
      (spec_attempt ?_) fun result => spec_assume fun is => ?_) fun found => spec_assume fun is => ?_
  · refine ((spec_glance_safe (E := fun _ _ => False) rfl (fun _ => by simp)
      fun s choice value t held ran => ?_).after fun value s held => ⟨congrArg Except.ok held.1,
      held.2⟩).failing
      fun _ _ wrong => wrong.elim
    rw [← held]
    exact (perform_exists_ok ran).1
  · subst is
    exact spec_pure (stable_alone _) fun _ held => ⟨rfl, held⟩
  · cases found with
    | true =>
      refine ((spec_glance_read .queue).failing fun _ s held => ?_).after fun queue s held =>
        ⟨?_, held.2⟩
      · rcases held.1 with absent | corrupt
        · rw [absent] at is
          cases is
        · exact readable corrupt
      · rw [World.queueItems, held.1]
    | false =>
      refine spec_bind (spec_glance_safe (Q := fun _ => True) rfl (fun _ => by simp)
        fun _ _ _ _ _ _ => trivial) fun now => spec_pure (stable_alone _) fun s held => ⟨?_, held.2⟩
      rw [World.queueItems, Stored.present_eq_false.1 is.symm]
      rfl

theorem spec_listBlocking (folder : Folder) :
    Glances party w (listBlocking folder)
      (fun names => ∀ name, w.files (folder.file name) ≠ .missing → name ∈ names) E := by
  refine spec_bind (Q := fun result s => result = .ok () ∧ s.files = w.files) (spec_attempt ?_)
    fun result => spec_assume fun is => ?_
  · exact ((spec_glance_safe (Q := fun _ => True) (E := fun _ _ => False) rfl (fun _ => by simp)
      fun _ _ _ _ _ _ => trivial).after fun _ _ held => ⟨rfl, held.2⟩).failing fun _ _ wrong => wrong.elim
  · subst is
    refine spec_glance_safe rfl (fun _ => by simp) fun s choice names t held ran name found => ?_
    rw [← held] at found
    refine (perform_list_ok ran).1.mem_iff.2 (mem_filter.2 ⟨?_, ?_⟩)
    · exact mem_dedup.2 (s.listed folder name found)
    · exact Bool.not_eq_false _ ▸ fun absent => found (Stored.present_eq_false.1 absent)

section

variable {α : Type} {found : α → Option String} {read : String → App α} {C : String → Stored α}

/-- If one of the named files answers, so does the search. -/
theorem spec_findIn (reads : ∀ name, Glances party w (read name) (C name = .intact ·)
      fun _ s => (C name = .missing ∨ C name = .corrupt) ∧ s.files = w.files) (names : List String) :
    Glances party w (findIn found read names)
      (fun result => (∃ name ∈ names, ∃ value, C name = .intact value ∧ found value ≠ none) →
        result ≠ none) E := by
  induction names with
  | nil =>
    refine spec_pure (stable_alone _) fun _ held => ⟨?_, held⟩
    rintro ⟨_, wrong, _⟩
    cases wrong
  | cons name rest ih =>
    -- the file at the head does not answer: one of the others does
    have skip : (∀ value, C name = .intact value → found value = none) →
        Glances party w (findIn found read rest) (fun result => (∃ other ∈ name :: rest, ∃ value,
          C other = .intact value ∧ found value ≠ none) → result ≠ none) E := by
      intro silent
      refine ih.after (fun result s held => ⟨?_, held.2⟩)
      rintro ⟨other, mem, value, stored, answers⟩
      rcases mem_cons.1 mem with rfl | later
      · exact absurd (silent value stored) answers
      · exact held.1 ⟨other, later, value, stored, answers⟩
    refine spec_bind (Q := Either (fun value (s : World) => C name = .intact value ∧
        s.files = w.files) fun _ s => (C name = .missing ∨ C name = .corrupt) ∧ s.files = w.files)
      (spec_attempt (reads name)) fun result => ?_
    cases result with
    | ok value =>
      refine spec_assume fun is => ?_
      cases answer : found value with
      | some executionId =>
        simp only [answer]
        exact spec_pure (stable_alone _) fun _ held => ⟨fun _ => by simp, held⟩
      | none =>
        simp only [answer]
        refine skip fun other stored => ?_
        rw [is] at stored
        cases stored
        exact answer
    | error error =>
      refine spec_assume fun is => skip fun value stored => ?_
      rcases is with other | other <;> rw [other] at stored <;> cases stored

theorem spec_search (folder : Folder)
    (listed : ∀ name, C name ≠ .missing → w.files (folder.file name) ≠ .missing)
    (reads : ∀ name, Glances party w (read name) (C name = .intact ·)
      fun _ s => (C name = .missing ∨ C name = .corrupt) ∧ s.files = w.files) :
    Glances party w (listBlocking folder >>= findIn found read)
      (fun result => ∀ name value, C name = .intact value → found value ≠ none → result ≠ none)
      E := by
  refine spec_bind (spec_listBlocking folder) fun names => spec_assume fun all => ?_
  refine (spec_findIn reads names).after (fun result s held => ⟨?_, held.2⟩)
  intro name value stored answers
  refine held.1 ⟨name, all name (listed name ?_), value, stored, answers⟩
  rw [stored]
  exact nofun

end

theorem Stored.intact_of_present {α : Type} {stored : Stored α} (present : stored ≠ .missing)
    (readable : stored ≠ .corrupt) : ∃ value, stored = .intact value := by
  cases stored with
  | missing => exact absurd rfl present
  | corrupt => exact absurd rfl readable
  | intact value => exact ⟨value, rfl⟩

/-- **A tracked execution is found.** -/
theorem spec_findDuplicateExecution {runDir : Path} (kept : Kept True runDir w)
    {item : ExecutionQueueItem} (enqueued : item ∈ w.ledger.enqueued) :
    Spec (alone (perform party) Legible) (fun s => s.files = w.files)
      (findDuplicateExecution item.actionId item.planDigest) (fun result _ => result ≠ none)
      fun _ _ => False := by
  have done : ∀ {executionId : String}, Spec (alone (perform party) Legible)
      (fun s => s.files = w.files) (pure (some executionId)) (fun result _ => result ≠ none)
      fun _ _ => False := spec_pure (stable_alone _) fun _ _ => by simp
  refine spec_bind (spec_loadQueue_alone (kept.readable .queue rfl)) fun queue =>
    spec_assume fun items => ?_
  split
  · exact done
  rename_i unqueued
  have tracked := kept.tracked item enqueued
  have notQueued : item ∉ w.queueItems := by
    rw [← items]
    intro queued
    have differs := List.find?_eq_none.1 unqueued item queued
    simp at differs
  refine spec_bind (spec_search (C := fun name => w.files (.running name)) .running
    (fun _ => id) fun name => spec_glance_read (.running name)) fun running =>
      spec_assume fun _ => ?_
  split
  · exact done
  refine spec_bind (spec_search (C := fun name => w.files (.reporting name)) .reporting
    (fun _ => id) fun name => spec_glance_read (.reporting name)) fun reporting =>
      spec_assume fun reports => ?_
  split
  · exact done
  refine (spec_search (C := fun name => w.files (.history name)) .history (fun _ => id)
    fun name => spec_glance_read (.history name)).after (fun result s held => ?_)
  rcases tracked with queued | reported | aside
  · exact absurd queued notQueued
  · obtain ⟨state, stored⟩ := Stored.intact_of_present reported.1 (kept.readable _ rfl)
    obtain ⟨action, digest⟩ := kept.described enqueued (kept.reports _ state stored)
    exact absurd rfl (reports _ state stored (by simp [action, digest]))
  · obtain ⟨record, stored⟩ := Stored.intact_of_present aside (kept.readable _ rfl)
    obtain ⟨actionId, planDigest, hasAction, hasDigest, described⟩ :=
      kept.histories trivial _ record stored
    obtain ⟨rfl, rfl⟩ := kept.described enqueued described
    exact held.1 _ record stored (by simp [hasAction, hasDigest])

/-- Every look can be answered. -/
theorem answered_looks (op : Op) (s : World) (looks : op.looks = true) :
    ∃ choice answer t, Legible op choice s ∧ perform party op choice s = some (answer, t) := by
  cases op with
  | now => exact ⟨.text "", _, _, fun _ => by simp, rfl⟩
  | «exists» file | statFolder folder => exact ⟨.done, _, _, fun _ => by simp, rfl⟩
  | list folder =>
    refine ⟨.names (s.names.dedup.filter (s.present folder)),
      .ok (s.names.dedup.filter (s.present folder)), s, fun _ => by simp, ?_⟩
    exact if_pos (isPerm_iff.2 (.refl _))
  | read file =>
    suffices answer : ∃ answer t, perform party (.read file) .done s = some (answer, t) by
      obtain ⟨answer, t, ran⟩ := answer
      exact ⟨.done, answer, t, fun _ => by simp, ran⟩
    simp only [perform, readFile, orFail]
    cases s.files file with
    | missing | corrupt | intact value => exact ⟨_, _, rfl⟩
  | _ => cases looks

theorem findDuplicateExecution_found {runDir : Path} (kept : Kept True runDir w)
    {item : ExecutionQueueItem} (enqueued : item ∈ w.ledger.enqueued) {after : World}
    {result : Except RuntimeError (Option String)}
    (ends : Ends (perform party) Legible (findDuplicateExecution item.actionId item.planDigest) w
      result after) : ∃ executionId, result = .ok (some executionId) := by
  rcases (spec_findDuplicateExecution kept enqueued w rfl).ends ends with
    ⟨value, rfl, found⟩ | ⟨_, -, wrong⟩
  · obtain ⟨executionId, rfl⟩ := Option.ne_none_iff_exists'.1 found
    exact ⟨executionId, rfl⟩
  · exact wrong.elim

end Found

end WistAgentd.Exec

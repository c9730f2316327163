/- # Discovery.SnapshotCache -- the snapshot in memory and on disk

The revision of a snapshot is counted from the one before, which is loaded from the cache at every
refresh; the cache is three files, written one after the other.

* `History`: a run, with the snapshots it generated and those it stored whole.
* `revisions_increase`: while every snapshot is generated from the newest one before it.
* `cache_consistent`: while every store writes all files or none. -/
import WistAgentd.Discovery.SnapshotRetention
import Mathlib.Data.List.Nodup

namespace WistAgentd.Discovery
open Option
set_option autoImplicit false

open Theory.Transition

/-- The daemon with what the code does not keep: the new snapshots, those of which all three files
were written, every output a probe returned, and whether the snapshot in memory and the one on disk
are the newest. -/
structure History where
  world : DiscoveryWorld
  generated : List DiscoverySnapshot
  whole : List DiscoverySnapshot
  reported : List ProbeOutput
  inMemory : Bool
  onDisk : Bool

def History.refreshed (history : History) (refresh : Refresh) :
    DiscoveryRuntime × DiscoveryRefreshResult :=
  refreshInner (history.world.loaded refresh.readable) refresh.dueAt refresh.clock refresh.answers
    refresh.generatedAt

/-- Whether a refresh starts from the newest snapshot: what it loads replaces what it has. -/
def History.atHand (history : History) (readable : Bool) : Bool :=
  if (history.world.read readable).isSome then history.onDisk else history.inMemory

def History.refresh (history : History) (refresh : Refresh) : History :=
  let result := (history.refreshed refresh).2
  let newest := !result.usedCachedSnapshot || history.atHand refresh.readable
  { world := tick history.world refresh
    generated := if result.usedCachedSnapshot then history.generated
      else history.generated ++ [result.persistedSnapshot]
    whole := if 3 ≤ refresh.written then history.whole ++ [result.persistedSnapshot]
      else history.whole
    reported := history.reported ++ (tick history.world refresh).runtime.slots.flatMap (·.answers)
    inMemory := newest
    onDisk := if 3 ≤ refresh.written then newest
      else result.usedCachedSnapshot && history.onDisk }

inductive HistoryEvent
  | discovery (event : DiscoveryEvent)
  /-- The process ends, wherever it is, and another one starts. -/
  | restart (probes : List (String × Nat))

def History.step (history : History) : HistoryEvent → Option History
  | .discovery (.applyPolicy set) => some { history with
      world.runtime := (history.world.runtime.applyDiscoveryPolicy set).1 }
  | .discovery (.refresh refresh) => some (history.refresh refresh)
  | .restart probes => some { history with
      world := .start probes history.world.cache, inMemory := false }

/-- A first process. -/
def History.start (probes : List (String × Nat)) (cache : DiscoveryCache) : History :=
  ⟨.start probes cache, [], [], [], true, true⟩

/-! ## Revisions -/

/-- A refresh that generates a snapshot starts from the newest one, unless it is the first. -/
def HistoryEvent.Resumes (history : History) : HistoryEvent → Prop
  | .discovery (.refresh refresh) => history.generated = [] ∨
      (history.refreshed refresh).2.usedCachedSnapshot = true ∨
      history.atHand refresh.readable = true
  | .discovery (.applyPolicy _) | .restart _ => True

instance (history : History) : (event : HistoryEvent) → Decidable (event.Resumes history)
  | .discovery (.refresh _) => inferInstanceAs (Decidable (_ ∨ _ ∨ _))
  | .discovery (.applyPolicy _) | .restart _ => .isTrue trivial

/-- The snapshots in the order they were generated; where the newest one is said to be, none is
ahead. -/
structure History.Ordered (history : History) : Prop where
  increasing : history.generated.Pairwise (·.revision < ·.revision)
  memory : history.inMemory = true → ∀ snapshot ∈ history.generated,
    ∃ latest ∈ history.world.runtime.latestSnapshot, snapshot.revision ≤ latest.revision
  disk : history.onDisk = true → ∀ snapshot ∈ history.generated,
    ∃ stored ∈ history.world.cache.cacheMeta, snapshot.revision ≤ stored.revision

theorem loaded_latest_eq (world : DiscoveryWorld) (readable : Bool) :
    (world.loaded readable).latestSnapshot =
      (world.read readable).or world.runtime.latestSnapshot := by
  unfold DiscoveryWorld.loaded DiscoveryWorld.read
  split <;> rename_i found <;> rw [found] <;> rfl

/-- What is read has the revision of `meta.json`. -/
theorem read_revision {world : DiscoveryWorld} {readable : Bool} {loaded : DiscoverySnapshot}
    (found : world.read readable = some loaded) :
    ∃ stored, world.cache.cacheMeta = some stored ∧ stored.revision = loaded.revision := by
  obtain ⟨-, loads⟩ := ite_none_right_eq_some.1 found
  unfold DiscoveryCache.loadSnapshot at loads
  split at loads
  · rename_i stored _ _ present _ _
    cases loads
    exact ⟨stored, present, rfl⟩
  · cases loads

/-- A refresh that starts from the newest snapshot is not taken back by the load. -/
theorem History.Ordered.loaded {history : History} (ordered : history.Ordered) {readable : Bool}
    (atHand : history.atHand readable = true) {snapshot : DiscoverySnapshot}
    (mem : snapshot ∈ history.generated) :
    ∃ latest, (history.world.loaded readable).latestSnapshot = some latest ∧
      snapshot.revision ≤ latest.revision := by
  rw [loaded_latest_eq]
  unfold History.atHand at atHand
  cases found : history.world.read readable with
  | none =>
    rw [found] at atHand
    exact ordered.memory atHand snapshot mem
  | some loaded =>
    rw [found] at atHand
    obtain ⟨stored, present, same⟩ := read_revision found
    obtain ⟨_, has, reached⟩ := ordered.disk atHand snapshot mem
    cases has.symm.trans present
    exact ⟨loaded, rfl, same ▸ reached⟩

/-- The one before is kept, or there is a new snapshot with the next revision. -/
theorem composeSnapshot_cases (runtime : DiscoveryRuntime) (gathered : Gathered)
    (generatedAt : String) :
    let done := composeSnapshot runtime gathered generatedAt
    done.1.latestSnapshot = some done.2.persistedSnapshot ∧
      if done.2.usedCachedSnapshot then runtime.latestSnapshot = some done.2.persistedSnapshot
      else done.2.persistedSnapshot = done.2.refreshedSnapshot ∧
        ∀ latest ∈ runtime.latestSnapshot,
          done.2.persistedSnapshot.revision = latest.revision + 1 := by
  refine ⟨rfl, ?_⟩
  cases has : gathered.hasOutput runtime.slots.length <;>
    cases previous : runtime.latestSnapshot <;> simp [composeSnapshot, has, previous]

/-- `composeSnapshot_cases` at a refresh of the daemon. -/
theorem History.refreshed_cases (history : History) (refresh : Refresh) :
    let done := history.refreshed refresh
    done.1.latestSnapshot = some done.2.persistedSnapshot ∧
      if done.2.usedCachedSnapshot then
        (history.world.loaded refresh.readable).latestSnapshot = some done.2.persistedSnapshot
      else done.2.persistedSnapshot = done.2.refreshedSnapshot ∧
        ∀ latest ∈ (history.world.loaded refresh.readable).latestSnapshot,
          done.2.persistedSnapshot.revision = latest.revision + 1 :=
  composeSnapshot_cases _ _ _

theorem History.Ordered.refresh {history : History} (ordered : history.Ordered) {refresh : Refresh}
    (resumes : HistoryEvent.Resumes history (.discovery (.refresh refresh))) :
    (history.refresh refresh).Ordered := by
  obtain ⟨latest_eq, kind⟩ := history.refreshed_cases refresh
  have generated : (history.refresh refresh).generated =
      if (history.refreshed refresh).2.usedCachedSnapshot then history.generated
      else history.generated ++ [(history.refreshed refresh).2.persistedSnapshot] := rfl
  -- a whole store leaves the revision of the kept snapshot behind, any other the one that was there
  have stored : (history.refresh refresh).world.cache.cacheMeta.map (·.revision) =
      if 2 < refresh.written then some (history.refreshed refresh).2.persistedSnapshot.revision
      else history.world.cache.cacheMeta.map (·.revision) := by
    simp only [History.refresh, tick, DiscoveryCache.storeSnapshot, History.refreshed]
    split <;> rfl
  suffices reached : (history.refresh refresh).generated.Pairwise (·.revision < ·.revision) ∧
      ((history.refresh refresh).inMemory = true → ∀ snapshot ∈ (history.refresh refresh).generated,
        snapshot.revision ≤ (history.refreshed refresh).2.persistedSnapshot.revision) by
    refine ⟨reached.1, fun kept snapshot mem => ⟨_, latest_eq, reached.2 kept snapshot mem⟩,
      fun whole snapshot mem => ?_⟩
    by_cases all : 2 < refresh.written
    · rw [if_pos all] at stored
      obtain ⟨meta_, is, same⟩ := map_eq_some_iff.1 stored
      have kept : (history.refresh refresh).inMemory = true := by
        simpa [History.refresh, Nat.succ_le_of_lt all] using whole
      exact ⟨meta_, is, same ▸ reached.2 kept snapshot mem⟩
    · rw [if_neg all] at stored
      have still : (history.refreshed refresh).2.usedCachedSnapshot = true ∧ history.onDisk = true := by
        simpa [History.refresh, all, Nat.succ_le_iff] using whole
      rw [generated, if_pos still.1] at mem
      obtain ⟨before, is, reached⟩ := ordered.disk still.2 snapshot mem
      rw [is] at stored
      obtain ⟨after, found, same⟩ := map_eq_some_iff.1 stored
      exact ⟨after, found, same ▸ reached⟩
  split at kind
  next cached =>
    rw [if_pos cached] at generated
    refine ⟨generated ▸ ordered.increasing, fun kept snapshot mem => ?_⟩
    have atHand : history.atHand refresh.readable = true := by
      simpa [History.refresh, cached] using kept
    obtain ⟨latest, is, reached⟩ := ordered.loaded atHand (generated ▸ mem)
    obtain rfl := some.inj (is.symm.trans kind)
    exact reached
  next new =>
    rw [if_neg new] at generated
    have ahead : ∀ snapshot ∈ history.generated,
        snapshot.revision < (history.refreshed refresh).2.persistedSnapshot.revision := by
      intro snapshot mem
      rcases resumes with first | cached | atHand
      · rw [first] at mem
        cases mem
      · exact absurd cached new
      · obtain ⟨latest, is, reached⟩ := ordered.loaded atHand mem
        rw [kind.2 latest is]
        exact Nat.lt_succ_of_le reached
    refine ⟨?_, fun _ snapshot mem => ?_⟩
    · rw [generated, List.pairwise_append]
      exact ⟨ordered.increasing, List.pairwise_singleton _ _, by simpa using ahead⟩
    · rw [generated, List.mem_append, List.mem_singleton] at mem
      rcases mem with earlier | rfl
      · exact Nat.le_of_lt (ahead snapshot earlier)
      · exact Nat.le_refl _

theorem step_ordered (history : History) (event : HistoryEvent) (next : History)
    (ordered : history.Ordered) (resumes : event.Resumes history)
    (stepped : history.step event = some next) : next.Ordered := by
  obtain (set | refresh) | probes := event
  · cases stepped
    exact ⟨ordered.increasing, ordered.memory, ordered.disk⟩
  · cases stepped
    exact ordered.refresh resumes
  · cases stepped
    exact ⟨ordered.increasing, nofun, ordered.disk⟩

/-- **Revisions of new snapshots strictly increase**, across restarts, failed stores and unreadable
caches, as long as each of them is generated by a refresh that has the newest one before it in memory
or reads it from the cache; so one revision is one snapshot. -/
theorem revisions_increase (probes : List (String × Nat)) (cache : DiscoveryCache)
    (events : List HistoryEvent) (final : History)
    (resumes : Along History.step (fun history event => event.Resumes history)
      (.start probes cache) events)
    (ran : run History.step (.start probes cache) events = some final) :
    final.generated.Pairwise (·.revision < ·.revision) ∧
      ∀ one ∈ final.generated, ∀ other ∈ final.generated,
        one.revision = other.revision → one = other := by
  have start : (History.start probes cache).Ordered :=
    ⟨List.Pairwise.nil, by simp [History.start], by simp [History.start]⟩
  have ordered : final.Ordered := run_induction_along step_ordered start resumes ran
  refine ⟨ordered.increasing, fun one mem other found same => ?_⟩
  have distinct : (final.generated.map (·.revision)).Nodup :=
    List.pairwise_map.2 (ordered.increasing.imp Nat.ne_of_lt)
  exact List.inj_on_of_nodup_map distinct mem found same

/-! ## The three files -/

/-- Each item stands under the index of the origin it was reported with. -/
def Attributed {α : Type} (reported : ProbeOutput → Prop) (items : ProbeOutput → List α)
    (place : α → Nat → α) (index : α → Nat) (origins : List DiscoveryOrigin) (found : List α) :
    Prop :=
  ∀ item ∈ found, ∃ output, reported output ∧ origins[index item]? = some output.origin ∧
    ∃ original ∈ items output, item = place original (index item)

/-- Every resource and every target points to the origin it was discovered by. -/
structure DiscoverySnapshot.Sourced (reported : ProbeOutput → Prop) (snapshot : DiscoverySnapshot) :
    Prop where
  resources : Attributed reported (·.resources) .at (·.originIdx) snapshot.origins snapshot.resources
  targets : Attributed reported (·.targets) .at (·.originIdx) snapshot.origins snapshot.targets

/-- A load gives nothing, or a snapshot that was stored whole. -/
structure History.Consistent (history : History) : Prop where
  stored : ∀ snapshot, history.world.cache.loadSnapshot = some snapshot → snapshot ∈ history.whole
  sourced : ∀ snapshot, history.world.cache.loadSnapshot = some snapshot →
    snapshot.Sourced (· ∈ history.reported)

/-- A store writes all three files, or none. -/
def HistoryEvent.Whole : HistoryEvent → Prop
  | .discovery (.refresh refresh) => refresh.written = 0 ∨ 3 ≤ refresh.written
  | .discovery (.applyPolicy _) | .restart _ => True

section Attributed

variable {α : Type} {reported : ProbeOutput → Prop} {items : ProbeOutput → List α}
  {place : α → Nat → α} {index : α → Nat} {origins : List DiscoveryOrigin} {found : List α}

theorem Attributed.mono (attributed : Attributed reported items place index origins found)
    {more : ProbeOutput → Prop} (grows : ∀ output, reported output → more output) :
    Attributed more items place index origins found := fun item mem =>
  let ⟨output, known, rest⟩ := attributed item mem
  ⟨output, grows output known, rest⟩

/-- One more output goes under the next index. -/
theorem Attributed.add (attributed : Attributed reported items place index origins found)
    (placed : ∀ item at_index, index (place item at_index) = at_index) {output : ProbeOutput}
    (known : reported output) :
    Attributed reported items place index (origins ++ [output.origin])
      (found ++ (items output).map (place · origins.length)) := by
  intro item mem
  rw [List.mem_append, List.mem_map] at mem
  rcases mem with earlier | ⟨original, original_of, rfl⟩
  · obtain ⟨source, source_known, origin, rest⟩ := attributed item earlier
    refine ⟨source, source_known, ?_, rest⟩
    rwa [List.getElem?_append_left (List.getElem?_eq_some_iff.1 origin).1]
  · refine ⟨output, known, ?_, original, original_of, ?_⟩
    · rw [placed]
      simp
    · rw [placed]

end Attributed

theorem DiscoverySnapshot.Sourced.mono {reported more : ProbeOutput → Prop}
    {snapshot : DiscoverySnapshot} (sourced : snapshot.Sourced reported)
    (grows : ∀ output, reported output → more output) : snapshot.Sourced more :=
  ⟨sourced.resources.mono grows, sourced.targets.mono grows⟩

/-- What is put together is attributed, whatever the probes report. -/
theorem foldl_add_attributed {reported : ProbeOutput → Prop} (parts : List Contribution)
    (known : ∀ part ∈ parts, ∀ output ∈ part.output, reported output) (gathered : Gathered)
    (resources : Attributed reported (·.resources) .at (·.originIdx) gathered.origins
      gathered.resources)
    (targets : Attributed reported (·.targets) .at (·.originIdx) gathered.origins
      gathered.targets) :
    let all := parts.foldl Gathered.add gathered
    Attributed reported (·.resources) .at (·.originIdx) all.origins all.resources ∧
      Attributed reported (·.targets) .at (·.originIdx) all.origins all.targets := by
  induction parts generalizing gathered with
  | nil => exact ⟨resources, targets⟩
  | cons part rest ih =>
    refine ih (fun later mem => known later (List.mem_cons_of_mem _ mem)) _ ?_ ?_ <;>
      unfold Gathered.add <;> cases found : part.output with
      | none => assumption
      | some output =>
        have reports := known part List.mem_cons_self output found
        first
          | exact resources.add (fun _ _ => rfl) reports
          | exact targets.add (fun _ _ => rfl) reports

/-- What a probe adds it has returned at some time. -/
theorem refreshProbe_reported (policy : Option DiscoveryAspectPolicySet) (dueAt : Option Nat)
    (clock : Nat) (answer : Except DiscoveryError ProbeOutput) {slot : ProbeSlot}
    (remembers : slot.Remembers) :
    ∀ output ∈ (refreshProbe policy dueAt clock answer slot).output,
      output ∈ (refreshProbe policy dueAt clock answer slot).slot.answers := by
  have remembered : ∀ output, slot.lastOutput = some output → output ∈ slot.answers :=
    fun output last => List.mem_of_getLast? (remembers.symm.trans last)
  unfold refreshProbe
  split
  · cases answer with
    | ok output => simp [ProbeSlot.answered]
    | error err =>
      cases last : slot.lastOutput with
      | none => cases dueAt <;> simp
      | some cached => cases dueAt <;> simp [remembered cached last]
  · cases last : slot.lastOutput with
    | some cached => simpa using remembered cached last
    | none => cases answer <;> simp [ProbeSlot.answered]

/-- The files of a snapshot. -/
def DiscoverySnapshot.files (snapshot : DiscoverySnapshot) : DiscoveryCache :=
  DiscoveryCache.storeSnapshot ⟨none, none, none⟩ snapshot 3

structure History.Sound (history : History) : Prop where
  remembers : ∀ slot ∈ history.world.runtime.slots, slot.Remembers
  latest : ∀ snapshot ∈ history.world.runtime.latestSnapshot,
    snapshot.Sourced (· ∈ history.reported)
  whole : ∀ snapshot ∈ history.whole, snapshot.Sourced (· ∈ history.reported)
  cache : history.world.cache = ⟨none, none, none⟩ ∨
    ∃ snapshot ∈ history.whole, history.world.cache = snapshot.files

theorem History.Sound.consistent {history : History} (sound : history.Sound) :
    history.Consistent := by
  have stored : ∀ snapshot, history.world.cache.loadSnapshot = some snapshot →
      snapshot ∈ history.whole := by
    intro snapshot loads
    rcases sound.cache with empty | ⟨other, mem, files⟩
    · rw [empty] at loads
      cases loads
    · rw [files] at loads
      obtain rfl : other = snapshot := some.inj loads
      exact mem
  exact ⟨stored, fun snapshot loads => sound.whole snapshot (stored snapshot loads)⟩

/-- The snapshot a refresh keeps is attributed. -/
theorem History.Sound.persisted {history : History} (sound : history.Sound) (refresh : Refresh) :
    (history.refreshed refresh).2.persistedSnapshot.Sourced
      (· ∈ (history.refresh refresh).reported) := by
  have grows : ∀ output, output ∈ history.reported → output ∈ (history.refresh refresh).reported :=
    fun output => List.mem_append_left _
  obtain ⟨resources, targets⟩ := @foldl_add_attributed
    (· ∈ (history.refresh refresh).reported) (parts history.world refresh) (by
      intro part mem output found
      refine List.mem_append_right _ (List.mem_flatMap.2 ⟨part.slot, ?_, ?_⟩)
      · rw [tick_slots]
        exact List.mem_map_of_mem mem
      · obtain ⟨slot, known, rfl⟩ := mem_parts.1 mem
        exact refreshProbe_reported _ _ _ _
          (sound.remembers _ (List.fst_mem_of_mem_zipIdx known)) output found)
    .empty (by simp [Attributed, Gathered.empty]) (by simp [Attributed, Gathered.empty])
  obtain ⟨-, kind⟩ := history.refreshed_cases refresh
  split at kind
  next cached =>
    rw [loaded_latest_eq] at kind
    cases found : history.world.read refresh.readable with
    | none =>
      rw [found] at kind
      exact (sound.latest _ kind).mono grows
    | some loaded =>
      rw [found] at kind
      cases kind
      exact (sound.consistent.sourced _ (ite_none_right_eq_some.1 found).2).mono grows
  next new =>
    rw [kind.1]
    exact ⟨resources, targets⟩

theorem History.Sound.refresh {history : History} (sound : history.Sound) {refresh : Refresh}
    (stores : refresh.written = 0 ∨ 3 ≤ refresh.written) : (history.refresh refresh).Sound := by
  have persisted := sound.persisted refresh
  have earlier : ∀ snapshot ∈ history.whole, snapshot.Sourced (· ∈ (history.refresh refresh).reported) :=
    fun snapshot mem => (sound.whole snapshot mem).mono fun _ => List.mem_append_left _
  refine ⟨tick_remembers refresh sound.remembers, fun snapshot latest => ?_, ?_, ?_⟩
  · obtain rfl := some.inj ((history.refreshed_cases refresh).1.symm.trans latest)
    exact persisted
  · intro snapshot mem
    simp only [History.refresh] at mem
    split at mem
    · rw [List.mem_append, List.mem_singleton] at mem
      rcases mem with before | rfl
      · exact earlier snapshot before
      · exact persisted
    · exact earlier snapshot mem
  · rcases stores with none | all
    · have cache : (history.refresh refresh).world.cache = history.world.cache := by
        simp [History.refresh, tick, none, DiscoveryCache.storeSnapshot]
      have whole : (history.refresh refresh).whole = history.whole := by
        simp [History.refresh, none]
      rw [cache, whole]
      exact sound.cache
    · refine .inr ⟨(history.refreshed refresh).2.persistedSnapshot, ?_, ?_⟩
      · simp [History.refresh, all]
      · simp only [History.refresh, tick, DiscoverySnapshot.files, DiscoveryCache.storeSnapshot,
          History.refreshed, show 0 < refresh.written by omega, show 1 < refresh.written by omega,
          show 2 < refresh.written by omega, if_true]
        rfl

theorem step_sound (history : History) (event : HistoryEvent) (next : History)
    (sound : history.Sound) (whole : event.Whole) (stepped : history.step event = some next) :
    next.Sound := by
  obtain (set | refresh) | probes := event
  · cases stepped
    exact ⟨sound.remembers, sound.latest, sound.whole, sound.cache⟩
  · cases stepped
    exact sound.refresh whole
  · cases stepped
    exact ⟨(start_sound probes _).remembers, by simp [DiscoveryWorld.start, DiscoveryRuntime.new],
      sound.whole, sound.cache⟩

/-- **A load gives nothing or a snapshot that was stored whole**, each resource and target under its
origin, in every run whose stores write all files or none. -/
theorem cache_consistent (probes : List (String × Nat)) (events : List HistoryEvent)
    (final : History) (whole : ∀ event ∈ events, event.Whole)
    (ran : run History.step (.start probes ⟨none, none, none⟩) events = some final) :
    final.Consistent := by
  have start : (History.start probes ⟨none, none, none⟩).Sound :=
    ⟨(start_sound probes _).remembers,
      by simp [History.start, DiscoveryWorld.start, DiscoveryRuntime.new],
      by simp [History.start], .inl rfl⟩
  have along : Along History.step (fun _ event => True ∧ event.Whole)
      (.start probes ⟨none, none, none⟩) events :=
    (along_of_forall (fun _ _ => trivial) events _).and whole
  have sound : final.Sound :=
    run_induction_along (fun history event next sound kept =>
      step_sound history event next sound kept.2) start along ran
  exact sound.consistent

/-! ## Failing stores -/

namespace FailingStore

open FailingAlone

/-- A refresh in which the second probe answers, and the first one if `host`. -/
def turn (host : Bool) (now written : Nat) : HistoryEvent :=
  .discovery (.refresh
    { force := false, now, clock := fun _ => now
      answers := fun
        | 0 => if host then .ok (found "host") else .error down
        | _ => .ok (found "process")
      generatedAt := "t", readable := true, written })

/-- The second store fails at once, or behind the first file. -/
def turns (written : Nat) : List HistoryEvent :=
  [turn true 0 3, turn false (2 * second) written, turn true (4 * second) 3]

/-- The first snapshot is in memory only, the second one is stored and read again by another
process. -/
def handedOn : List HistoryEvent :=
  [turn true 0 0, turn false (2 * second) 3, .restart probes, turn true (4 * second) 3]

def crash : List HistoryEvent :=
  [turn true 0 3, turn false (2 * second) 1, .restart probes]

def contents (history : History) : List (Nat × List String) :=
  history.generated.map fun snapshot =>
    (snapshot.revision, snapshot.resources.map (·.resourceId))

end FailingStore

open FailingAlone FailingStore in
theorem revisions_increase_stored :
    ∃ final, run History.step (.start probes noCache) handedOn = some final ∧
      final.generated.map (·.revision) = [1, 2, 3] ∧
      final.generated.Pairwise (·.revision < ·.revision) := by
  have found : (run History.step (.start probes noCache) handedOn).map
      (·.generated.map (·.revision)) = some [1, 2, 3] := by decide +kernel
  obtain ⟨final, ran, revisions⟩ := map_eq_some_iff.1 found
  exact ⟨final, ran, revisions,
    (revisions_increase probes noCache handedOn final (by decide +kernel) ran).1⟩

open FailingAlone FailingStore in
/-- The third refresh loads the first snapshot, and counts from there. -/
theorem revision_repeated :
    ∃ final, run History.step (.start probes noCache) (turns 0) = some final ∧
      ∃ one ∈ final.generated, ∃ other ∈ final.generated,
        one.revision = other.revision ∧ one.resources ≠ other.resources := by
  have found : (run History.step (.start probes noCache) (turns 0)).map contents =
      some [(1, ["host-1", "process-1"]), (2, ["process-1"]), (2, ["host-1", "process-1"])] := by
    decide +kernel
  obtain ⟨final, ran, listed⟩ := map_eq_some_iff.1 found
  obtain ⟨one, one_of, is_one⟩ :=
    List.mem_map.1 (show (2, ["process-1"]) ∈ contents final by simp [listed])
  obtain ⟨other, other_of, is_other⟩ :=
    List.mem_map.1 (show (2, ["host-1", "process-1"]) ∈ contents final by simp [listed])
  simp only [Prod.mk.injEq] at is_one is_other
  refine ⟨final, ran, one, one_of, other, other_of, is_one.1.trans is_other.1.symm, fun same => ?_⟩
  rw [same, is_other.2] at is_one
  exact absurd is_one.2 (by decide)

open FailingAlone FailingStore in
theorem cache_consistent_failures :
    ∃ final, run History.step (.start probes ⟨none, none, none⟩) (turns 0 ++ [.restart probes]) =
        some final ∧ final.world.cache.loadSnapshot.isSome ∧ final.Consistent := by
  have found : (run History.step (.start probes ⟨none, none, none⟩)
      (turns 0 ++ [.restart probes])).map (·.world.cache.loadSnapshot.isSome) = some true := by
    decide +kernel
  obtain ⟨final, ran, loads⟩ := map_eq_some_iff.1 found
  refine ⟨final, ran, loads, cache_consistent probes _ final ?_ ran⟩
  simp [turns, turn, HistoryEvent.Whole]

open FailingAlone FailingStore in
/-- The resources of the second snapshot, under the origins of the first: that of the second probe
points to the first one. -/
theorem cache_mixed :
    ∃ final, run History.step (.start probes ⟨none, none, none⟩) crash = some final ∧
      ¬ final.Consistent := by
  have found : (run History.step (.start probes ⟨none, none, none⟩) crash).map (fun history =>
      (history.world.cache.loadSnapshot.map fun snapshot => snapshot.resources.map (·.resourceId),
        history.whole.map fun snapshot => snapshot.resources.map (·.resourceId))) =
      some (some ["process-1"], [["host-1", "process-1"]]) := by
    decide +kernel
  obtain ⟨final, ran, facts⟩ := map_eq_some_iff.1 found
  obtain ⟨loads, whole⟩ := Prod.mk.inj facts
  obtain ⟨snapshot, loaded, ids⟩ := map_eq_some_iff.1 loads
  refine ⟨final, ran, fun consistent => ?_⟩
  have listed := List.mem_map_of_mem (f := fun snapshot : DiscoverySnapshot =>
    snapshot.resources.map (·.resourceId)) (consistent.stored snapshot loaded)
  rw [whole, ids] at listed
  exact absurd listed (by decide)

end WistAgentd.Discovery

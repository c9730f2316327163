/- # Discovery.SearchPolicy -- the roots that are searched, and what a search costs

`source_search_policy.rs` checks the roots a policy lists for each service, and `PolicySearch`
searches below them, all services of one resolution with one budget.

* `sanitize`: the check of a policy from disk or from the gateway.
* `root_guard_iff`: the policies after whose check no searched root stands for `/`.
* `visits`, `searchVisits`: the directories a search reads.
* `policy_search_bounded`: what the searches of one resolution cost together. -/
import Mathlib.Algebra.GroupWithZero.Nat
import Mathlib.Data.Finset.Card
import WistAgentd.Control.Enrollment
import WistAgentd.Discovery.LogSourceSearch

namespace WistAgentd.Discovery
open Theory.PathTree
open Theory.Utf8 (trim)
open Enrollment (trimEndSlashes)
open List
set_option autoImplicit false

/-! ## The check of a policy -/

/-- The roots of each service that has any. -/
abbrev SourceSearchPolicy := String → Option (List String)

variable (policy : SourceSearchPolicy) (service : String)

def rootsFor : List String := (policy service).getD []

def rootValid (value : String) : Bool :=
  isAbsolute value && decide (value ≠ "/") &&
    !(pieces value.toList).any (fun segment => decide (segment = ['.', '.'])) &&
    !value.toList.any fun c => ['*', '?', '[', '\x00'].contains c

def normalized (root : String) : String := trimEndSlashes (trim root)

/-- One round of the loop over the roots. -/
def keepRoot (kept : List String) (root : String) : List String :=
  if rootValid (trim root) then
    if normalized root ∈ kept then kept else kept ++ [normalized root]
  else kept

variable (roots : List String)

def keepRoots : List String := roots.foldl keepRoot []

/-- A service that keeps no root is dropped. -/
def sanitize : SourceSearchPolicy := fun service =>
  (policy service).bind fun roots =>
    if keepRoots roots = [] then none else some ((keepRoots roots).take maxSearchRoots)

theorem rootsFor_sanitize :
    rootsFor (sanitize policy) service =
      (keepRoots (rootsFor policy service)).take maxSearchRoots := by
  unfold rootsFor sanitize
  cases policy service with
  | none => rfl
  | some roots =>
    rw [Option.bind_some]
    split
    · rename_i nothing
      simp [nothing]
    · rfl

/-- The first of equal roots. -/
def firsts : List String :=
  roots.foldl (fun kept root => if root ∈ kept then kept else kept ++ [root]) []

/-- The accepted roots in their normal form. -/
def accepted : List String :=
  (roots.filter fun root => rootValid (trim root)).map normalized

theorem keepRoots_eq : keepRoots roots = firsts (accepted roots) := by
  rw [firsts, accepted, foldl_map, foldl_filter]
  rfl

theorem firsts_concat (root : String) :
    firsts (roots ++ [root]) =
      if root ∈ firsts roots then firsts roots else firsts roots ++ [root] := by
  rw [firsts, foldl_append]
  rfl

theorem firsts_eq : firsts roots = roots.reverse.dedup.reverse := by
  induction roots using List.reverseRecOn with
  | nil => rfl
  | append_singleton roots root ih =>
    rw [firsts_concat, ih, reverse_concat]
    split
    · rename_i known
      rw [dedup_cons_of_mem (by simpa using known)]
    · rename_i new
      rw [dedup_cons_of_notMem (by simpa using new), reverse_cons]

theorem length_firsts : (firsts roots).length = roots.toFinset.card := by
  rw [firsts_eq, length_reverse, ← card_toFinset, toFinset_reverse]

theorem mem_firsts {roots : List String} {root : String} : root ∈ firsts roots ↔ root ∈ roots := by
  simp [firsts_eq]

theorem firsts_prefix (front back : List String) : firsts front <+: firsts (front ++ back) := by
  induction back using List.reverseRecOn with
  | nil => simp
  | append_singleton back root ih =>
    rw [← append_assoc, firsts_concat]
    split
    · exact ih
    · exact ih.trans (prefix_append _ _)

/-- A root is among the first ones when few others stand before it. -/
theorem mem_take_firsts {roots : List String} {root : String} {limit : Nat} :
    root ∈ (firsts roots).take limit ↔
      ∃ front back, roots = front ++ root :: back ∧ front.toFinset.card < limit := by
  constructor
  · intro listed
    obtain ⟨front, back, rfl, new⟩ :=
      eq_append_cons_of_mem (mem_firsts.1 (mem_of_mem_take listed))
    refine ⟨front, back, rfl, Nat.lt_of_not_le fun full => new (mem_firsts.1 ?_)⟩
    obtain ⟨rest, whole⟩ := firsts_prefix front (root :: back)
    rw [← length_firsts] at full
    rw [← whole, take_append_of_le_length full] at listed
    exact mem_of_mem_take listed
  · rintro ⟨front, back, rfl, room⟩
    rw [← length_firsts] at room
    have further := firsts_prefix (front ++ [root]) back
    rw [append_assoc] at further
    refine (List.IsPrefix.take further limit).subset ?_
    rw [take_of_length_le]
    · exact mem_firsts.2 (by simp)
    · rw [firsts_concat]
      split
      · exact room.le
      · simpa using Nat.succ_le_of_lt room

/-- The root passes the second check, and has only `.` for its components. -/
def SpellsRoot (root : String) : Prop :=
  searchable (trim root) = true ∧ ∀ part ∈ components (trim root), part = "."

/-- **No searched root stands for `/`** exactly when a root spelled that way is listed, if at all,
behind as many other roots as are kept. -/
theorem root_guard_iff :
    (∀ service, ∀ root ∈ rootsFor (sanitize policy) service, searchable (trim root) = true →
      ∃ part ∈ components (trim root), part ≠ ".") ↔
    ∀ service front root back, accepted (rootsFor policy service) = front ++ root :: back →
      SpellsRoot root → maxSearchRoots ≤ front.toFinset.card := by
  refine forall_congr' fun service => ?_
  simp only [rootsFor_sanitize, keepRoots_eq, mem_take_firsts]
  constructor
  · rintro guarded front root back listed ⟨searched, dots⟩
    by_contra room
    obtain ⟨part, mem, other⟩ := guarded root ⟨front, back, listed, not_le.1 room⟩ searched
    exact other (dots part mem)
  · rintro behind root ⟨front, back, listed, room⟩ searched
    by_contra dots
    push Not at dots
    exact absurd (behind front root back listed ⟨searched, dots⟩) (not_le.2 room)

/-! ## What a search costs -/

/-- A directory that is read, and how many of its entries are looked at. -/
structure Visit where
  dir : String
  examined : Nat
  deriving DecidableEq

/-- The rounds of the loop over the entries that have one to take. -/
def examined : List (Option String) → Budget → Nat
  | [], _ => 0
  | _ :: rest, budget => if budget.take.1 then examined rest budget.take.2 + 1 else 0

/-- What the rounds of a loop say, one after the other. -/
def logged {σ α ω : Type} (step : σ → α → σ) (say : σ → α → List ω) : List α → σ → List ω
  | [], _ => []
  | a :: rest, s => say s a ++ logged step say rest (step s a)

section Visits

variable (lowercase : String → String) (tree : Tree)

/-- The directories `walk` reads. -/
def visits (marker : Marker) : Nat → String → Search → List Visit
  | levels, dir, ⟨budget, hits⟩ =>
    if budget.exhausted.1 || decide (maxHits ≤ hits.length) then []
    else match levels, tree.readDir dir with
      | 0, _ => []
      | _, none => []
      | levels + 1, some (real, names) =>
        ⟨dir, examined names budget.exhausted.2⟩ ::
          match readEntries lowercase tree marker dir real names
              ⟨budget.exhausted.2, false, false, []⟩ with
          | .error _ => []
          | .ok seen =>
            if seen.dataHit then []
            else logged (fun search subdir => walk lowercase tree marker levels subdir search)
              (fun search subdir => visits marker levels subdir search) seen.subdirs
              ⟨seen.budget, pushHits tree marker dir seen hits⟩

/-- The directories read below the roots. -/
def rootVisits (marker : Marker) : List String → Search → List Visit
  | [], _ => []
  | root :: rest, search =>
    if searchable (trim root) then
      let walked := walk lowercase tree marker (maxSearchDepth + 1) (trim root) search
      visits lowercase tree marker (maxSearchDepth + 1) (trim root) search ++
        if walked.budget.exhausted.1 || decide (maxHits ≤ walked.hits.length) then []
        else rootVisits marker rest { walked with budget := walked.budget.exhausted.2 }
    else rootVisits marker rest search

/-- `PolicySearch::search`: a service without roots is not searched for. -/
def policySearch (budget : Budget) : List Hit × Budget :=
  if rootsFor policy service = [] then ([], budget)
  else searchWith lowercase tree service (rootsFor policy service) budget

def searchVisits (budget : Budget) : List Visit :=
  match markers.find? fun marker => marker.service = service with
  | none => []
  | some marker =>
    rootVisits lowercase tree marker ((rootsFor policy service).take maxSearchRoots) ⟨budget, []⟩

/-- The directories read for the services of one resolution. -/
def resolutionVisits (services : List String) (budget : Budget) : List Visit :=
  logged (fun budget service => (policySearch policy service lowercase tree budget).2)
    (fun budget service => searchVisits policy service lowercase tree budget) services budget

end Visits

/-- The visits take the budget from one number of entries to the other, in such directories. -/
structure Costs (good : String → Prop) (before after : Nat) (visits : List Visit) : Prop where
  spent : (visits.map Visit.examined).sum + after = before
  reads : ∀ visit ∈ visits, good visit.dir

namespace Costs

variable {good : String → Prop} {before middle after : Nat} {first second : List Visit}

theorem nil (good : String → Prop) (before : Nat) : Costs good before before [] :=
  ⟨Nat.zero_add _, nofun⟩

theorem append (one : Costs good before middle first) (two : Costs good middle after second) :
    Costs good before after (first ++ second) where
  spent := by
    rw [← one.spent, ← two.spent, map_append, sum_append, Nat.add_assoc]
  reads visit mem := (mem_append.1 mem).elim (one.reads visit) (two.reads visit)

theorem mono {also : String → Prop} (weaker : ∀ dir, good dir → also dir)
    (one : Costs good before after first) : Costs also before after first :=
  ⟨one.spent, fun visit mem => weaker _ (one.reads visit mem)⟩

/-- A loop costs what its rounds cost. -/
theorem loop {σ α : Type} {step : σ → α → σ} {say : σ → α → List Visit} (left : σ → Nat)
    {items : List α} (each : ∀ s, ∀ a ∈ items, Costs good (left s) (left (step s a)) (say s a)) :
    ∀ s, Costs good (left s) (left (items.foldl step s)) (logged step say items s) := by
  induction items with
  | nil => exact fun s => .nil _ _
  | cons a rest ih =>
    intro s
    refine (each s a mem_cons_self).append ?_
    exact ih (fun s other mem => each s other (mem_cons_of_mem _ mem)) _

end Costs

section Bounds

variable {lowercase : String → String} {tree : Tree} {marker : Marker} {dir : String}
  {real : RealPath} {policy : SourceSearchPolicy} {service : String}

/-- Each round of the loop over the entries takes one from the budget. -/
theorem readEntries_spent {names : List (Option String)} : ∀ {seen : Entries},
    (∀ left, readEntries lowercase tree marker dir real names seen = .error left →
      examined names seen.budget + left.entries = seen.budget.entries) ∧
    ∀ after, readEntries lowercase tree marker dir real names seen = .ok after →
      examined names seen.budget + after.budget.entries = seen.budget.entries := by
  induction names with
  | nil =>
    intro seen
    refine ⟨by simp [readEntries], fun after done => ?_⟩
    cases done
    exact Nat.zero_add _
  | cons entry rest ih =>
    intro seen
    rw [readEntries, examined]
    split
    · rename_i taken
      have spent := (take_entries taken).1
      have later := @ih (Entries.see lowercase tree marker dir real
        { seen with budget := seen.budget.take.2 } entry)
      rw [see_budget] at later
      refine ⟨fun left done => ?_, fun after done => ?_⟩
      · have rest := later.1 left done
        dsimp only at rest
        omega
      · have rest := later.2 after done
        dsimp only at rest
        omega
    · rename_i refused
      refine ⟨fun left done => ?_, by simp⟩
      obtain rfl := Except.error.inj done
      have out : seen.budget.exhausted.1 = true := by simpa [take_left] using refused
      rw [Nat.zero_add, Budget.take, if_pos out, exhausted_entries]

/-- The text names a directory less than so many levels below the other. -/
def Below (levels : Nat) (top dir : String) : Prop :=
  ∃ names : List String, names.length < levels ∧ dir = names.foldl join top

theorem Below.step {levels : Nat} {name : String} (below : Below levels (join dir name) service) :
    Below (levels + 1) dir service := by
  obtain ⟨names, few, rfl⟩ := below
  exact ⟨name :: names, Nat.succ_lt_succ few, rfl⟩

/-- **What one walk costs**, and how deep it reads. -/
theorem visits_cost (levels : Nat) : ∀ (dir : String) (search : Search),
    Costs (Below levels dir) search.budget.entries
      (walk lowercase tree marker levels dir search).budget.entries
      (visits lowercase tree marker levels dir search) := by
  induction levels with
  | zero =>
    rintro dir ⟨budget, hits⟩
    rw [walk.eq_def, visits.eq_def]
    dsimp only
    split <;> exact exhausted_entries budget ▸ .nil _ _
  | succ levels ih =>
    rintro dir ⟨budget, hits⟩
    rw [walk.eq_def, visits.eq_def]
    dsimp only
    split
    · exact exhausted_entries budget ▸ .nil _ _
    · cases tree.readDir dir with
      | none => exact exhausted_entries budget ▸ .nil _ _
      | some found =>
        obtain ⟨real, names⟩ := found
        dsimp only
        obtain ⟨failed, got⟩ := @readEntries_spent lowercase tree marker dir real names
          ⟨budget.exhausted.2, false, false, []⟩
        have here {after : Nat}
            (spent : examined names budget.exhausted.2 + after = budget.exhausted.2.entries) :
            Costs (Below (levels + 1) dir) budget.entries after
              [⟨dir, examined names budget.exhausted.2⟩] := by
          refine ⟨by simpa using spent, fun visit mem => ?_⟩
          rw [mem_singleton.1 mem]
          exact ⟨[], Nat.succ_pos _, rfl⟩
        cases read : readEntries lowercase tree marker dir real names
            ⟨budget.exhausted.2, false, false, []⟩ with
        | error left => exact here (failed left read)
        | ok seen =>
          dsimp only
          split
          · exact here (got seen read)
          · refine (here (got seen read)).append ?_
            refine Costs.loop (fun search : Search => search.budget.entries)
              (fun search subdir mem => ?_) ⟨seen.budget, pushHits tree marker dir seen hits⟩
            rcases (readEntries_ok read).2.2 subdir mem with nothing | ⟨name, -, rfl⟩
            · cases nothing
            · exact (ih _ search).mono fun _ => Below.step

theorem rootVisits_cost : ∀ search : Search,
    Costs (fun dir => ∃ root ∈ roots, Below (maxSearchDepth + 1) (trim root) dir)
      search.budget.entries (searchRoots lowercase tree marker roots search).budget.entries
      (rootVisits lowercase tree marker roots search) := by
  induction roots with
  | nil => exact fun search => .nil _ _
  | cons root rest ih =>
    intro search
    have later (search : Search) := (ih search).mono fun dir ⟨other, listed, below⟩ =>
      (⟨other, mem_cons_of_mem root listed, below⟩ :
        ∃ other ∈ root :: rest, Below (maxSearchDepth + 1) (trim other) dir)
    rw [searchRoots, rootVisits]
    split
    · refine ((visits_cost _ (trim root) search).mono fun dir below => ?_).append ?_
      · exact ⟨root, mem_cons_self, below⟩
      dsimp only
      generalize walk lowercase tree marker (maxSearchDepth + 1) (trim root) search = walked
      rw [← exhausted_entries walked.budget]
      split
      · exact .nil _ _
      · exact later { walked with budget := walked.budget.exhausted.2 }
    · exact later search

theorem searchVisits_cost (budget : Budget) :
    Costs (fun dir => ∃ root ∈ rootsFor policy service, Below (maxSearchDepth + 1) (trim root) dir)
      budget.entries (policySearch policy service lowercase tree budget).2.entries
      (searchVisits policy service lowercase tree budget) := by
  unfold policySearch searchVisits searchWith
  cases markers.find? fun marker => marker.service = service with
  | none =>
    split <;> exact .nil _ _
  | some marker =>
    split
    · rename_i nothing
      rw [nothing]
      exact .nil _ _
    · rw [exhausted_entries]
      refine (rootVisits_cost _ ⟨budget, []⟩).mono fun dir ⟨root, listed, below⟩ => ?_
      exact ⟨root, mem_of_mem_take listed, below⟩

theorem finishHits_sorted (hits : List Hit) :
    (finishHits hits).Pairwise fun left right => left.logDir < right.logDir := by
  have : Std.Total fun left right : Hit => left.logDir ≤ right.logDir :=
    ⟨fun _ _ => String.le_total _ _⟩
  have : IsTrans Hit fun left right => left.logDir ≤ right.logDir := ⟨fun _ _ _ => String.le_trans⟩
  have : IsTrans Hit fun left right => left.logDir < right.logDir := ⟨fun _ _ _ => String.lt_trans⟩
  have sorted := pairwise_insertionSort (fun left right : Hit => left.logDir ≤ right.logDir) hits
  have ordered := isChain_iff_getElem.1 (sorted.sublist (destutter_sublist
    (fun left right : Hit => left.logDir ≠ right.logDir) _)).isChain
  refine List.Pairwise.sublist (take_sublist _ _) (List.IsChain.pairwise ?_)
  refine isChain_iff_getElem.2 fun i inside => String.not_le.1 fun back => ?_
  exact isChain_iff_getElem.1 (isChain_destutter _ _) i inside
    (String.le_antisymm (ordered i inside) back)

/-- **The searches of one resolution are bounded**: they end, look at no more entries than the
budget has, read nothing more than four levels below a root, and find at most four directories
for each service, in order and each once. -/
theorem policy_search_bounded (lowercase : String → String) (tree : Tree)
    (policy : SourceSearchPolicy) (services : List String) (budget : Budget) :
    ((resolutionVisits policy lowercase tree services budget).map Visit.examined).sum ≤
        maxSearchEntries ∧
      (∀ visit ∈ resolutionVisits policy lowercase tree services budget,
        ∃ service ∈ services, ∃ root ∈ rootsFor policy service, ∃ names : List String,
          names.length ≤ maxSearchDepth ∧ visit.dir = names.foldl join (trim root)) ∧
      ∀ service budget,
        (policySearch policy service lowercase tree budget).1.length ≤ maxHits ∧
        (policySearch policy service lowercase tree budget).1.Pairwise
          fun left right => left.logDir < right.logDir := by
  have cost := Costs.loop (fun budget : Budget => budget.entries)
    (fun budget service (listed : service ∈ services) =>
      (@searchVisits_cost lowercase tree policy service budget).mono fun dir below =>
        (⟨service, listed, below⟩ : ∃ service ∈ services,
          ∃ root ∈ rootsFor policy service, Below (maxSearchDepth + 1) (trim root) dir)) budget
  refine ⟨?_, fun visit mem => ?_, fun service budget => ?_⟩
  · exact Nat.le_trans (Nat.le_add_right _ _) (cost.spent.trans_le budget.within)
  · obtain ⟨service, listed, root, given, names, few, at_⟩ := cost.reads visit mem
    exact ⟨service, listed, root, given, names, Nat.le_of_lt_succ few, at_⟩
  · unfold policySearch searchWith
    split
    · exact ⟨Nat.zero_le _, .nil⟩
    · split
      · exact ⟨Nat.zero_le _, .nil⟩
      · exact ⟨length_take_le _ _, finishHits_sorted _⟩

end Bounds

/-- **A root with a dot passes both checks**, and the search reads `/`. -/
theorem dot_root_searched :
    rootsFor (sanitize fun _ => some ["/."]) "postgresql" = ["/."] ∧
      searchable (trim "/.") = true ∧ components (trim "/.") = ["."] ∧
      linkedLog.canonicalize (trim "/.") = some [] ∧
      (searchVisits (sanitize fun _ => some ["/."]) "postgresql" id linkedLog .ample).head? =
        some ⟨"/.", 2⟩ := by
  decide +kernel

end WistAgentd.Discovery

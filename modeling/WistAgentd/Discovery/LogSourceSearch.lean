/- # Discovery.LogSourceSearch -- the bounded search for log directories

`search.rs`: a walk below the given roots that skips links entry by entry. A hit is resolved before
it is reported, and the `log` of a data directory is composed by name: it may be a link, and is
then reported where the link leads.

* `walk`, `searchWith`: the search, with its budget and the looks at the clock.
* `walk_within`: what one call leaves in the hits.
* `search_contained_iff`: the trees in which no search leaves its roots. -/
import Mathlib.Data.List.Destutter
import Mathlib.Data.List.Sort
import WistAgentd.Theory.PathTree
import WistAgentd.Theory.Utf8

namespace WistAgentd.Discovery
open Theory.PathTree
open Theory.Utf8 (trim trim_eq_self)
open List Option
set_option autoImplicit false

variable {names : List (Option String)} {good : RealPath → Prop} {stop : RealPath}

def maxSearchRoots : Nat := 8

def maxSearchDepth : Nat := 4

def maxSearchEntries : Nat := 2000

def maxHits : Nat := 4

structure Hit where
  logDir : String
  detail : String
  deriving DecidableEq

structure Marker where
  service : String
  dataEntries : List String
  /-- Empty when the logs are in the data directory itself. -/
  logSubdir : String
  logs : List (String × String)

def markers : List Marker :=
  [⟨"postgresql", ["PG_VERSION"], "log", [("postgresql-", ".log"), ("postgresql-", ".csv")]⟩,
   ⟨"mysql", ["ibdata1", "mysql.ibd"], "", [("", ".err"), ("", "-slow.log"), ("slow", ".log")]⟩,
   ⟨"redis", ["dump.rdb", "appendonly.aof", "appendonlydir"], "", [("redis", ".log")]⟩,
   ⟨"mongodb", ["WiredTiger", "storage.bson"], "log", [("mongod.log", "")]⟩]

/-- Entries that may still be read, and how many looks at the clock there are before the deadline
has passed. -/
structure Budget where
  entries : Nat
  looks : Nat
  within : entries ≤ maxSearchEntries

/-- `exhausted`: one look at the clock, unless the entries are used up. -/
def Budget.exhausted (budget : Budget) : Bool × Budget :=
  if budget.entries = 0 then (true, budget)
  else (decide (budget.looks = 0), { budget with looks := budget.looks - 1 })

/-- `take`: whether there was an entry left to take. -/
def Budget.take (budget : Budget) : Bool × Budget :=
  if budget.exhausted.1 then (false, budget.exhausted.2)
  else (true,
    { budget.exhausted.2 with
      entries := budget.exhausted.2.entries - 1
      within := Nat.le_trans (Nat.sub_le _ _) budget.exhausted.2.within })

/-- What the loop over the entries of one directory collects. -/
structure Entries where
  budget : Budget
  dataHit : Bool
  logHit : Bool
  subdirs : List String

structure Search where
  budget : Budget
  hits : List Hit

variable {budget : Budget} {hits : List Hit}

section Search

variable (lowercase : String → String) (tree : Tree)

def matchesLogName (name : String) (logs : List (String × String)) : Bool :=
  let lowered := (lowercase name).toList
  logs.any fun log =>
    (lowercase log.1).toList.isPrefixOf lowered && (lowercase log.2).toList.isSuffixOf lowered

/-- One entry of the directory `real`, listed under the text `dir`. -/
def Entries.see (marker : Marker) (dir : String) (real : RealPath) (seen : Entries)
    (entry : Option String) : Entries :=
  match entry with
  | none => seen
  | some name => match tree.kind (real ++ [name]) with
    | none => seen
    -- links are not followed
    | some (.link _) => seen
    | some kind =>
      { seen with
        dataHit := seen.dataHit || decide (name ∈ marker.dataEntries)
        logHit := seen.logHit || (decide (kind = .file) && matchesLogName lowercase name marker.logs)
        subdirs := if kind = .dir then seen.subdirs ++ [join dir name] else seen.subdirs }

/-- The loop over the entries; an error when the budget runs out in it. -/
def readEntries (marker : Marker) (dir : String) (real : RealPath) :
    List (Option String) → Entries → Except Budget Entries
  | [], seen => .ok seen
  | entry :: rest, seen =>
    if seen.budget.take.1 then
      readEntries marker dir real rest
        (Entries.see lowercase tree marker dir real { seen with budget := seen.budget.take.2 }
          entry)
    else .error seen.budget.take.2

def pushHit (path detail : String) (hits : List Hit) : List Hit :=
  match tree.canonicalize path with
  | none => hits
  | some real =>
    if tree.kind real ≠ some .dir then hits
    else if hits.any fun hit => decide (hit.logDir = realText real) then hits
    else hits ++ [⟨realText real, detail⟩]

def logTarget (marker : Marker) (dir : String) : String :=
  if marker.logSubdir = "" then dir else join dir marker.logSubdir

/-- The hits of one directory. -/
def pushHits (marker : Marker) (dir : String) (seen : Entries) (hits : List Hit) : List Hit :=
  let hits := if seen.logHit then
      pushHit tree dir ("search: " ++ marker.service ++ " 日志在 " ++ dir) hits
    else hits
  if seen.dataHit then
    pushHit tree (logTarget marker dir)
      ("search: " ++ "|".intercalate marker.dataEntries ++ " @ " ++ dir) hits
  else hits

/-- `walk`, with the levels that are left. -/
def walk (marker : Marker) : Nat → String → Search → Search
  | levels, dir, ⟨budget, hits⟩ =>
    if budget.exhausted.1 || decide (maxHits ≤ hits.length) then ⟨budget.exhausted.2, hits⟩
    else match levels, tree.readDir dir with
      | 0, _ => ⟨budget.exhausted.2, hits⟩
      | _, none => ⟨budget.exhausted.2, hits⟩
      | levels + 1, some (real, names) =>
        match readEntries lowercase tree marker dir real names
            ⟨budget.exhausted.2, false, false, []⟩ with
        -- the budget ran out: nothing of this directory counts
        | .error budget => ⟨budget, hits⟩
        | .ok seen =>
          -- no second one is looked for inside a data directory
          if seen.dataHit then ⟨seen.budget, pushHits tree marker dir seen hits⟩
          else seen.subdirs.foldl (fun search subdir => walk marker levels subdir search)
            ⟨seen.budget, pushHits tree marker dir seen hits⟩

/-- Only absolute paths below `/` are searched. -/
def searchable (root : String) : Bool := isAbsolute root && decide (root ≠ "/")

/-- The loop over the roots. -/
def searchRoots (marker : Marker) : List String → Search → Search
  | [], search => search
  | root :: rest, search =>
    if searchable (trim root) then
      let walked := walk lowercase tree marker (maxSearchDepth + 1) (trim root) search
      let looked := { walked with budget := walked.budget.exhausted.2 }
      if walked.budget.exhausted.1 || decide (maxHits ≤ walked.hits.length) then looked
      else searchRoots marker rest looked
    else searchRoots marker rest search

/-- Sorted by directory, each once, at most four. -/
def finishHits (hits : List Hit) : List Hit :=
  ((hits.insertionSort fun left right => left.logDir ≤ right.logDir).destutter
    fun left right => left.logDir ≠ right.logDir).take maxHits

def searchWith (service : String) (roots : List String) (budget : Budget) : List Hit × Budget :=
  match markers.find? fun marker => marker.service = service with
  | none => ([], budget)
  | some marker =>
    let search := searchRoots lowercase tree marker (roots.take maxSearchRoots) ⟨budget, []⟩
    (finishHits search.hits, search.budget.exhausted.2)

/-! ## What one directory gives -/

/-- The entry makes its directory a data directory: one of the marked names, and no link. -/
def marksData (marker : Marker) (real : RealPath) (entry : Option String) : Bool :=
  match entry with
  | none => false
  | some name => match tree.kind (real ++ [name]) with
    | none | some (.link _) => false
    | some _ => decide (name ∈ marker.dataEntries)

/-- The listing has a marked entry. -/
def holdsData (marker : Marker) (real : RealPath) (names : List (Option String)) : Bool :=
  names.any (marksData tree marker real)

/-- Where the logs of a data directory are looked for, links followed. -/
def leadsTo (marker : Marker) (real : RealPath) : Option RealPath :=
  if marker.logSubdir = "" then some real else tree.resolve Tree.maxLinks real [marker.logSubdir]

variable {lowercase tree} {marker : Marker} {dir : String} {real : RealPath}

theorem see_dataHit (seen : Entries) (entry : Option String) :
    (Entries.see lowercase tree marker dir real seen entry).dataHit =
      (seen.dataHit || marksData tree marker real entry) := by
  unfold Entries.see marksData
  split
  · simp
  · split
    · simp
    · simp
    · rename_i kind notLink there
      cases kind with
      | link target => exact absurd rfl (notLink target)
      | dir | file | other => rfl

theorem see_budget (seen : Entries) (entry : Option String) :
    (Entries.see lowercase tree marker dir real seen entry).budget = seen.budget := by
  unfold Entries.see
  split
  · rfl
  · split <;> rfl

variable {seen : Entries}

theorem see_subdirs {entry : Option String} {subdir : String}
    (mem : subdir ∈ (Entries.see lowercase tree marker dir real seen entry).subdirs) :
    subdir ∈ seen.subdirs ∨
      ∃ name, tree.kind (real ++ [name]) = some .dir ∧ subdir = join dir name := by
  unfold Entries.see at mem
  split at mem
  · exact .inl mem
  · rename_i name
    split at mem
    · exact .inl mem
    · exact .inl mem
    · rename_i kind notLink there
      dsimp only at mem
      split at mem
      · rename_i isDir
        rcases mem_append.1 mem with before | here
        · exact .inl before
        · exact .inr ⟨name, isDir ▸ there, mem_singleton.1 here⟩
      · exact .inl mem

@[simp] theorem exhausted_entries (budget : Budget) :
    budget.exhausted.2.entries = budget.entries := by
  unfold Budget.exhausted
  split <;> rfl

theorem exhausted_false : budget.exhausted.1 = false ↔ 0 < budget.entries ∧ 0 < budget.looks := by
  unfold Budget.exhausted
  split
  · simp_all
  · simp only [decide_eq_false_iff_not]
    omega

theorem exhausted_looks (left : budget.exhausted.1 = false) :
    budget.exhausted.2.looks = budget.looks - 1 := by
  unfold Budget.exhausted
  rw [if_neg (by have := (exhausted_false.1 left).1; omega)]

/-- An entry is there to take when the budget is not used up. -/
theorem take_left (budget : Budget) : budget.take.1 = !budget.exhausted.1 := by
  unfold Budget.take
  split <;> simp_all

theorem take_entries (taken : budget.take.1 = true) :
    budget.entries = budget.take.2.entries + 1 ∧ budget.take.2.looks = budget.looks - 1 := by
  have left : budget.exhausted.1 = false := by simpa [take_left] using taken
  have some_ := (exhausted_false.1 left).1
  have same := exhausted_entries budget
  have spent : budget.take.2.entries = budget.exhausted.2.entries - 1 ∧
      budget.take.2.looks = budget.exhausted.2.looks := by
    unfold Budget.take
    simp [left]
  rw [spent.2, exhausted_looks left]
  omega

/-- What the loop over the entries finds when it gets through. -/
theorem readEntries_ok : ∀ {seen after : Entries},
    readEntries lowercase tree marker dir real names seen = .ok after →
      after.dataHit = (seen.dataHit || holdsData tree marker real names) ∧
      names.length ≤ seen.budget.entries ∧
      ∀ subdir ∈ after.subdirs, subdir ∈ seen.subdirs ∨
        ∃ name, tree.kind (real ++ [name]) = some .dir ∧ subdir = join dir name := by
  induction names with
  | nil =>
    intro seen after done
    cases done
    exact ⟨by simp [holdsData], Nat.zero_le _, fun _ mem => .inl mem⟩
  | cons entry rest ih =>
    intro seen after done
    unfold readEntries at done
    split at done
    · rename_i taken
      obtain ⟨dataHit, room, subdirs⟩ := ih done
      rw [see_dataHit] at dataHit
      rw [see_budget] at room
      have spent := (take_entries taken).1
      refine ⟨?_, ?_, fun subdir mem => ?_⟩
      · rw [dataHit, holdsData, holdsData, any_cons, Bool.or_assoc]
      · show rest.length + 1 ≤ seen.budget.entries
        have : rest.length ≤ seen.budget.take.2.entries := room
        omega
      · rcases subdirs subdir mem with before | found
        · exact @see_subdirs lowercase tree marker dir real
            { seen with budget := seen.budget.take.2 } entry subdir before
        · exact .inr found
    · cases done

/-! ## Staying within -/

/-- Every hit is the text of a directory with the property. -/
def AllHits (tree : Tree) (good : RealPath → Prop) (hits : List Hit) : Prop :=
  ∀ hit ∈ hits, ∃ real, good real ∧ tree.kind real = some .dir ∧ hit.logDir = realText real

theorem pushHit_within {path detail : String} (before : AllHits tree good hits)
    (target : ∀ real, tree.canonicalize path = some real → tree.kind real = some .dir → good real) :
    AllHits tree good (pushHit tree path detail hits) := by
  unfold pushHit
  split
  · exact before
  · rename_i real led
    split
    · exact before
    · rename_i isDir
      split
      · exact before
      · intro hit mem
        rcases mem_append.1 mem with old | new
        · exact before hit old
        · have there := Decidable.of_not_not isDir
          exact ⟨real, target real led there, there, by rw [mem_singleton.1 new]⟩

theorem canonicalize_logTarget (named : marker.logSubdir ≠ "" → ValidName marker.logSubdir)
    (led : tree.canonicalize dir = some real)
    (found : tree.canonicalize (logTarget marker dir) = some stop) :
    leadsTo tree marker real = some stop := by
  unfold logTarget at found
  unfold leadsTo
  split
  · rename_i own
    rw [if_pos own, led] at found
    exact found
  · rename_i sub
    rw [if_neg sub] at found
    obtain ⟨other, otherLed, resolved⟩ := tree.canonicalize_join (named sub) found
    rw [led] at otherLed
    rw [some.inj otherLed]
    exact resolved

theorem markers_named : ∀ marker ∈ markers, marker.logSubdir ≠ "" → ValidName marker.logSubdir := by
  decide

/-- The logs of data directories with the property are looked for in such directories. -/
def Safe (tree : Tree) (marker : Marker) (good : RealPath → Prop) : Prop :=
  ∀ real names stop, good real → tree.listing real = some names →
    names.length ≤ maxSearchEntries → holdsData tree marker real names = true →
    leadsTo tree marker real = some stop → tree.kind stop = some .dir → good stop

theorem pushHits_within (named : marker.logSubdir ≠ "" → ValidName marker.logSubdir)
    (safe : Safe tree marker good) (here : good real) (led : tree.canonicalize dir = some real)
    (listed : tree.listing real = some names) (few : names.length ≤ maxSearchEntries)
    (data : seen.dataHit = true → holdsData tree marker real names = true)
    (before : AllHits tree good hits) : AllHits tree good (pushHits tree marker dir seen hits) := by
  have ownDir : ∀ detail, AllHits tree good (pushHit tree dir detail hits) := fun detail =>
    pushHit_within before fun found again _ => by
      rw [led] at again
      exact some.inj again ▸ here
  have logDir : AllHits tree good (if seen.logHit then
      pushHit tree dir ("search: " ++ marker.service ++ " 日志在 " ++ dir) hits else hits) := by
    split
    · exact ownDir _
    · exact before
  unfold pushHits
  dsimp only
  split
  · rename_i dataHit
    exact pushHit_within logDir fun stop found isDir =>
      safe real names stop here listed few (data dataHit)
        (canonicalize_logTarget named led found) isDir
  · exact logDir

/-- **One walk from a directory with the property leaves only such directories in the hits.** -/
theorem walk_within (lowercase : String → String)
    (named : marker.logSubdir ≠ "" → ValidName marker.logSubdir) (safe : Safe tree marker good)
    (below : ∀ real name, good real → tree.kind (real ++ [name]) = some .dir →
      good (real ++ [name])) (levels : Nat) :
    ∀ (dir : String) (search : Search), (∀ real, tree.canonicalize dir = some real → good real) →
      AllHits tree good search.hits →
      AllHits tree good (walk lowercase tree marker levels dir search).hits := by
  induction levels with
  | zero =>
    rintro dir ⟨budget, hits⟩ - before
    unfold walk
    split <;> exact before
  | succ levels ih =>
    rintro dir ⟨budget, hits⟩ starts before
    unfold walk
    split
    · exact before
    · cases opened : tree.readDir dir with
      | none => exact before
      | some found =>
        obtain ⟨real, names⟩ := found
        dsimp only
        have ⟨led, listed⟩ : tree.canonicalize dir = some real ∧
            tree.listing real = some names := by
          unfold Tree.readDir at opened
          split at opened
          · cases opened
          · rename_i at_ led
            obtain ⟨all, listed, ⟨⟩⟩ := map_eq_some_iff.1 opened
            exact ⟨led, listed⟩
        cases read : readEntries lowercase tree marker dir real names
            ⟨budget.exhausted.2, false, false, []⟩ with
        | error left => exact before
        | ok seen =>
          dsimp only
          obtain ⟨data, room, subdirs⟩ := readEntries_ok read
          rw [Bool.false_or] at data
          have pushed : AllHits tree good (pushHits tree marker dir seen hits) :=
            pushHits_within named safe (starts real led) led listed
              (Nat.le_trans room budget.exhausted.2.within) (fun hit => data ▸ hit) before
          split
          · exact pushed
          · -- the subdirectories, one after the other
            have each : ∀ subdir ∈ seen.subdirs, ∀ at_,
                tree.canonicalize subdir = some at_ → good at_ := by
              intro subdir mem at_ ledTo
              rcases subdirs subdir mem with nothing | ⟨name, isDir, rfl⟩
              · cases nothing
              · rw [tree.canonicalize_join_dir led isDir] at ledTo
                exact some.inj ledTo ▸ below real name (starts real led) isDir
            refine List.foldlRecOn (motive := fun search => AllHits tree good search.hits)
              seen.subdirs _ ?_ fun search held subdir mem =>
                ih subdir search (each subdir mem) held
            exact pushed

/-- The real path lies below one of the given roots. -/
def BelowRoots (tree : Tree) (roots : List String) (real : RealPath) : Prop :=
  ∃ root ∈ roots, ∃ top, tree.canonicalize (trim root) = some top ∧ top <+: real

theorem searchRoots_within (lowercase : String → String)
    (named : marker.logSubdir ≠ "" → ValidName marker.logSubdir) (safe : Safe tree marker good)
    (below : ∀ real name, good real → tree.kind (real ++ [name]) = some .dir →
      good (real ++ [name])) (roots : List String)
    (starts : ∀ root ∈ roots, ∀ real, tree.canonicalize (trim root) = some real → good real) :
    ∀ search : Search, AllHits tree good search.hits →
      AllHits tree good (searchRoots lowercase tree marker roots search).hits := by
  induction roots with
  | nil => exact fun _ => id
  | cons root rest ih =>
    intro search before
    have later := ih fun other mem => starts other (mem_cons_of_mem _ mem)
    have walked := walk_within lowercase named safe below (maxSearchDepth + 1) (trim root) search
      (starts root mem_cons_self) before
    rw [searchRoots]
    generalize walk lowercase tree marker (maxSearchDepth + 1) (trim root) search = after
      at walked ⊢
    split
    · dsimp only
      split
      · exact walked
      · exact later _ walked
    · exact later _ before

theorem mem_of_finishHits {hit : Hit} (mem : hit ∈ finishHits hits) :
    hit ∈ hits :=
  (mem_insertionSort _).1 ((destutter_sublist _ _).subset (mem_of_mem_take mem))

/-- **A search stays below its roots when the logs of every data directory below them are looked
for below them.** -/
theorem searchWith_contained {service : String} {roots : List String}
    (safe : ∀ marker, markers.find? (fun marker => marker.service = service) = some marker →
      Safe tree marker (BelowRoots tree roots)) (budget : Budget) :
    ∀ hit ∈ (searchWith lowercase tree service roots budget).1,
      BelowRoots tree roots (components hit.logDir) := by
  intro hit mem
  unfold searchWith at mem
  split at mem
  · cases mem
  · rename_i marker found
    have known := markers_named marker (mem_of_find?_eq_some found)
    have within := searchRoots_within lowercase known (safe marker found)
      (fun real name ⟨root, given, top, led, above⟩ _ =>
        ⟨root, given, top, led, above.trans (prefix_append _ _)⟩)
      (roots.take maxSearchRoots)
      (fun root given real led =>
        ⟨root, mem_of_mem_take given, real, led, prefix_refl _⟩)
      ⟨budget, []⟩ (nofun)
    obtain ⟨real, below, there, text⟩ := within hit (mem_of_finishHits mem)
    rw [text, components_realText (tree.valid_of_kind there)]
    exact below

/-! ## Finding a data directory -/

theorem readEntries_enough : ∀ {seen : Entries},
    names.length ≤ seen.budget.entries → names.length ≤ seen.budget.looks →
      ∃ after, readEntries lowercase tree marker dir real names seen = .ok after := by
  induction names with
  | nil => exact fun _ _ => ⟨_, rfl⟩
  | cons entry rest ih =>
    intro seen entries looks
    rw [length_cons] at entries looks
    have left : seen.budget.take.1 = true := by
      rw [take_left, exhausted_false.2 ⟨by omega, by omega⟩]
      rfl
    obtain ⟨fewer, spent⟩ := take_entries left
    obtain ⟨after, done⟩ := @ih (Entries.see lowercase tree marker dir real
      { seen with budget := seen.budget.take.2 } entry)
      (by rw [see_budget]; show rest.length ≤ seen.budget.take.2.entries; omega)
      (by rw [see_budget]; show rest.length ≤ seen.budget.take.2.looks; omega)
    exact ⟨after, by rw [readEntries, if_pos left]; exact done⟩

theorem pushHit_found {path : String} (detail : String) (hits : List Hit)
    (led : tree.canonicalize path = some stop) (isDir : tree.kind stop = some .dir) :
    ∃ hit ∈ pushHit tree path detail hits, hit.logDir = realText stop := by
  unfold pushHit
  simp only [led, isDir, ne_eq, not_true_eq_false, if_false]
  split
  · rename_i known
    obtain ⟨hit, mem, same⟩ := any_eq_true.1 known
    exact ⟨hit, mem, by simpa using same⟩
  · exact ⟨_, mem_append_right _ mem_cons_self, rfl⟩

theorem pushHit_few {path detail : String} (apart : (hits.map Hit.logDir).Nodup) :
    ((pushHit tree path detail hits).map Hit.logDir).Nodup ∧
      (pushHit tree path detail hits).length ≤ hits.length + 1 := by
  unfold pushHit
  split
  · exact ⟨apart, Nat.le_succ _⟩
  · split
    · exact ⟨apart, Nat.le_succ _⟩
    · split
      · exact ⟨apart, Nat.le_succ _⟩
      · rename_i new
        refine ⟨?_, by simp⟩
        rw [map_append, nodup_append_comm]
        refine nodup_cons.2 ⟨fun again => new ?_, apart⟩
        obtain ⟨hit, mem, same⟩ := mem_map.1 again
        exact any_eq_true.2 ⟨hit, mem, by simpa using same⟩

theorem finishHits_of_few (apart : (hits.map Hit.logDir).Nodup) (few : hits.length ≤ maxHits)
    {hit : Hit} (mem : hit ∈ hits) : hit ∈ finishHits hits := by
  have sorted := perm_insertionSort (fun left right : Hit => left.logDir ≤ right.logDir) hits
  have chain : (hits.insertionSort fun left right => left.logDir ≤ right.logDir).IsChain
      fun left right => left.logDir ≠ right.logDir :=
    (pairwise_map.1 ((sorted.map Hit.logDir).nodup_iff.2 apart)).isChain
  rw [finishHits, destutter_of_isChain _ _ chain, take_of_length_le]
  · exact sorted.mem_iff.2 mem
  · rw [sorted.length_eq]
    exact few

theorem pushHits_found (data : seen.dataHit = true)
    (led : tree.canonicalize (logTarget marker dir) = some stop)
    (isDir : tree.kind stop = some .dir) :
    ∃ hit ∈ finishHits (pushHits tree marker dir seen []), hit.logDir = realText stop := by
  unfold pushHits
  rw [if_pos data]
  have first : ((if seen.logHit then
        pushHit tree dir ("search: " ++ marker.service ++ " 日志在 " ++ dir) [] else []).map
          Hit.logDir).Nodup ∧
      (if seen.logHit then
        pushHit tree dir ("search: " ++ marker.service ++ " 日志在 " ++ dir) [] else []).length ≤
          1 := by
    split
    · exact pushHit_few nodup_nil
    · exact ⟨nodup_nil, Nat.zero_le _⟩
  generalize (if seen.logHit then _ else []) = hits at first ⊢
  obtain ⟨hit, mem, text⟩ := pushHit_found
    ("search: " ++ "|".intercalate marker.dataEntries ++ " @ " ++ dir) hits led isDir
  refine ⟨hit, finishHits_of_few (pushHit_few first.1).1 (Nat.le_trans (pushHit_few first.1).2 ?_)
    mem, text⟩
  have : hits.length ≤ 1 := first.2
  show hits.length + 1 ≤ 4
  omega

/-- A budget that outlasts one directory. -/
def Budget.ample : Budget := ⟨maxSearchEntries, maxSearchEntries + 2, Nat.le_refl _⟩

theorem canonicalize_logTarget_dirText
    (named : marker.logSubdir ≠ "" → ValidName marker.logSubdir)
    (there : tree.kind real = some .dir) :
    tree.canonicalize (logTarget marker (dirText real)) = leadsTo tree marker real := by
  unfold logTarget leadsTo
  split
  · exact tree.canonicalize_dirText there
  · rename_i sub
    rw [Tree.canonicalize, components_join (named sub),
      components_dirText (tree.valid_of_kind there)]
    exact tree.resolve_real_append there

theorem searchable_dirText (below : real ≠ []) (there : tree.kind real = some .dir) :
    trim (dirText real) = dirText real ∧ searchable (dirText real) = true := by
  obtain ⟨name, rest, rfl⟩ := exists_cons_of_ne_nil below
  have text : (dirText (name :: rest)).toList = '/' :: (name.toList ++ (slashed rest ++ ['/'])) := by
    simp [dirText, slashed]
  refine ⟨@trim_eq_self _ '/' '/' (by rw [text]; rfl) ?_ (by decide) (by decide), ?_⟩
  · rw [text]
    simp [List.getLast?_append, List.getLast?_cons]
  · have notRoot : dirText (name :: rest) ≠ "/" := by
      intro same
      have short := congrArg (fun text => text.toList.length) same
      simp [text] at short
    simp [searchable, isAbsolute, text, notRoot]

theorem walk_dataDir (levels : Nat) (left : budget.exhausted.1 = false)
    (opened : tree.readDir dir = some (real, names))
    (read : readEntries lowercase tree marker dir real names
      ⟨budget.exhausted.2, false, false, []⟩ = .ok seen) (data : seen.dataHit = true) :
    walk lowercase tree marker (levels + 1) dir ⟨budget, []⟩ =
      ⟨seen.budget, pushHits tree marker dir seen []⟩ := by
  unfold walk
  rw [if_neg (by simp [left, maxHits]), opened]
  dsimp only
  rw [read]
  dsimp only
  rw [if_pos data]

/-- A search of a data directory reports where its logs are looked for. -/
theorem searchWith_dataDir (lowercase : String → String) {service : String}
    (found : markers.find? (fun marker => marker.service = service) = some marker)
    (below : real ≠ []) (listed : tree.listing real = some names)
    (few : names.length ≤ maxSearchEntries) (data : holdsData tree marker real names = true)
    (leads : leadsTo tree marker real = some stop) (isDir : tree.kind stop = some .dir) :
    ∃ hit ∈ (searchWith lowercase tree service [dirText real] .ample).1,
      hit.logDir = realText stop := by
  have there := (tree.lists _ _ listed).1
  obtain ⟨trimmed, absolute⟩ := searchable_dirText below there
  have left : Budget.ample.exhausted.1 = false := by decide
  have opened : tree.readDir (dirText real) = some (real, names) := by
    simp [Tree.readDir, tree.canonicalize_dirText there, listed]
  have ⟨seen, read⟩ : ∃ seen, readEntries lowercase tree marker (dirText real) real names
      ⟨Budget.ample.exhausted.2, false, false, []⟩ = .ok seen := by
    refine readEntries_enough ?_ ?_
    · rw [exhausted_entries]
      exact few
    · rw [exhausted_looks left]
      exact Nat.le_trans few (Nat.le_succ _)
  have dataHit : seen.dataHit = true := by
    rw [(readEntries_ok read).1, data]
    rfl
  have known := markers_named marker (mem_of_find?_eq_some found)
  have led := canonicalize_logTarget_dirText known there
  have hits : (searchRoots lowercase tree marker [dirText real] ⟨.ample, []⟩).hits =
      pushHits tree marker (dirText real) seen [] := by
    rw [searchRoots, trimmed, if_pos absolute, walk_dataDir maxSearchDepth left opened read dataHit]
    dsimp only
    split <;> rfl
  have given : (searchWith lowercase tree service [dirText real] .ample).1 =
      finishHits (pushHits tree marker (dirText real) seen []) := by
    simp only [searchWith, found]
    rw [show [dirText real].take maxSearchRoots = [dirText real] from rfl, hits]
  rw [given]
  exact pushHits_found dataHit (led.trans leads) isDir

/-- **No search leaves its roots exactly when the logs of every data directory are looked for below
it**; for given roots it is enough that they are looked for below one of the roots. -/
theorem search_contained_iff (lowercase : String → String) (tree : Tree) (service : String) :
    ((∀ roots budget, ∀ hit ∈ (searchWith lowercase tree service roots budget).1,
      BelowRoots tree roots (components hit.logDir)) ↔
    ∀ marker, markers.find? (fun marker => marker.service = service) = some marker →
      ∀ real names stop, tree.listing real = some names → names.length ≤ maxSearchEntries →
        holdsData tree marker real names = true → leadsTo tree marker real = some stop →
        tree.kind stop = some .dir → real <+: stop) ∧
    ∀ roots, (∀ marker, markers.find? (fun marker => marker.service = service) = some marker →
        Safe tree marker (BelowRoots tree roots)) →
      ∀ budget, ∀ hit ∈ (searchWith lowercase tree service roots budget).1,
        BelowRoots tree roots (components hit.logDir) := by
  refine ⟨⟨?_, ?_⟩, fun roots safe => searchWith_contained safe⟩
  · intro contained marker found real names stop listed few data leads isDir
    by_cases atRoot : real = []
    · rw [atRoot]
      exact nil_prefix
    · obtain ⟨hit, mem, text⟩ :=
        searchWith_dataDir lowercase found atRoot listed few data leads isDir
      obtain ⟨root, given, top, led, above⟩ := contained [dirText real] .ample hit mem
      have there := (tree.lists _ _ listed).1
      rw [mem_singleton.1 given, (searchable_dirText atRoot there).1,
        tree.canonicalize_dirText there] at led
      rw [text, components_realText (tree.valid_of_kind isDir), ← some.inj led] at above
      exact above
  · intro below roots budget
    refine searchWith_contained (fun marker found => ?_) budget
    rintro real names stop ⟨root, given, top, led, above⟩ listed few data leads isDir
    exact ⟨root, given, top, led,
      above.trans (below marker found real names stop listed few data leads isDir)⟩

end Search

/-- A data directory whose `log` is a link to another disk. -/
def linkedLog : Tree :=
  .ofEntries
    [(["data"], .dir), (["data", "pg"], .dir), (["data", "pg", "PG_VERSION"], .file),
      (["data", "pg", "log"], .link "/var/other"), (["var"], .dir), (["var", "other"], .dir)]
    (by decide) (by decide)

/-- **A linked log directory is reported outside the roots.** -/
theorem search_leaves_roots :
    (searchWith id linkedLog "postgresql" ["/data"] .ample).1 =
        [⟨"/var/other", "search: PG_VERSION @ /data/pg"⟩] ∧
      ¬ BelowRoots linkedLog ["/data"] (components "/var/other") := by
  refine ⟨by decide +kernel, ?_⟩
  rintro ⟨root, given, top, led, above⟩
  have real : linkedLog.canonicalize (trim "/data") = some ["data"] := by decide +kernel
  rw [mem_singleton.1 given] at led
  rw [← some.inj led] at above
  exact absurd above (by decide +kernel)

end WistAgentd.Discovery

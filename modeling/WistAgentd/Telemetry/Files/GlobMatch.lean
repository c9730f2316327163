/- # Telemetry.Files.GlobMatch -- which files belong to a family

`glob_match.rs`: an explicit path, the files of a directory, or a pattern whose components are matched
level by level. Excludes and filters decide while the tree is walked, so the cap counts what is kept.
Matching one component against a pattern is the library's.

* `walkComponents`, `listDirFiles`, `resolveFamilyPaths`: the scan.
* `candidates`: all matching files in the order in which the directories list them.
* `considerAll`: what becomes of a list of candidates; `considerAll_selected`: the first ones that
  are kept.
* `walk_spec`: the walk considers the candidates, and misses none unless the cap is reached.
* `resolution_exact`: the selection against the declarative set of paths. -/
import Mathlib.Data.Finset.Sort
import Mathlib.Data.List.Lex
import Mathlib.Data.String.Basic
import WistAgentd.Control.Work
import WistAgentd.Telemetry.Files.Family
import WistAgentd.Theory.PathTree

namespace WistAgentd.Telemetry
open Control (ContainerFilters)
open Theory.PathTree (ValidName components components_join join)
open List
set_option autoImplicit false

variable {names : List String} {component name : String} {remaining : List String}
  {matcher : String → Bool} {maxPaths : Nat} {filters : ContainerFilters}

/-! ## The directory tree -/

/-- What `metadata` reports, links followed. -/
inductive FileKind
  | file | dir | other
  deriving DecidableEq

/-- The names a directory lists, and the error that may come after them. -/
structure Listing where
  names : List String
  failure : Option IoError

/-- A directory tree as `metadata` and `read_dir` show it; a link can be broken, and anything can refuse
to be read. -/
structure DirectoryTree where
  metadata : Path → Except IoError FileKind
  readDir : Path → Except IoError Listing
  validNames : ∀ {dir listing}, readDir dir = .ok listing → ∀ name ∈ listing.names, ValidName name
  distinctNames : ∀ {dir listing}, readDir dir = .ok listing → listing.names.Nodup
  listed : ∀ {dir listing name kind}, readDir dir = .ok listing → ValidName name →
    metadata (join dir name) = .ok kind → name ∈ listing.names
  absent : ∀ {dir err name kind}, readDir dir = .error err → err.kind = .notFound → ValidName name →
    metadata (join dir name) ≠ .ok kind
  above : ∀ {dir name kind}, ValidName name → metadata (join dir name) = .ok kind →
    metadata dir = .ok .dir

/-- The `globset` crate and the lookup of a container's name by the path of its log. -/
structure GlobLibrary where
  build : String → Except IoError (String → Bool)
  containerName : Path → Option String

/-! ## The selection layer -/

structure ContainerLogName where
  pod : String
  namespace_ : String
  container : String

def splitOnce (separator : Char) (text : List Char) : Option (List Char × List Char) :=
  if separator ∈ text then
    some (text.takeWhile (· ≠ separator), (text.dropWhile (· ≠ separator)).tail)
  else none

/-- `Path::file_name`. -/
def fileName (path : Path) : Option String :=
  match ((components path).filter (· ≠ ".")).getLast? with
  | some name => if name = ".." then none else some name
  | none => none

/-- `parse_container_log_name`: `<pod>_<namespace>_<container>-<id>.log`. -/
def parseContainerLogName (path : Path) : Option ContainerLogName := do
  let name ← fileName path
  let stem ← if ".log".toList <:+ name.toList then
      some (name.toList.take (name.toList.length - 4)) else none
  let (idReversed, headReversed) ← splitOnce '-' stem.reverse
  if idReversed = [] then none
  else do
    let (pod, rest) ← splitOnce '_' headReversed.reverse
    let (namespace_, container) ← splitOnce '_' rest
    if pod = [] ∨ namespace_ = [] ∨ container = [] then none
    else some ⟨String.ofList pod, String.ofList namespace_, String.ofList container⟩

inductive FilterVerdict
  | keep | drop | keepIdentityUnknown | dropIdentityUnknown

def FilterVerdict.keeps : FilterVerdict → Bool
  | .keep | .keepIdentityUnknown => true
  | .drop | .dropIdentityUnknown => false

def FilterVerdict.identityUnknown : FilterVerdict → Bool
  | .keepIdentityUnknown | .dropIdentityUnknown => true
  | .keep | .drop => false

/-- The name dimension, for both kinds of container logs. Without an identity an inclusion misses and an
exclusion keeps. -/
def nameVerdict (filters : ContainerFilters) : Option String → FilterVerdict
  | none => if filters.nameIn ≠ [] then .dropIdentityUnknown else .keepIdentityUnknown
  | some container =>
    if filters.nameIn ≠ [] ∧ container ∉ filters.nameIn then .drop
    else if container ∈ filters.nameNotIn then .drop
    else .keep

def containerFiltersVerdict (library : GlobLibrary) (filters : ContainerFilters) (path : Path) :
    FilterVerdict :=
  if filters.namespaceIn = [] ∧ filters.podNotIn = [] ∧ filters.nameIn = [] ∧ filters.nameNotIn = [] then
    .keep
  else
    let k8s := parseContainerLogName path
    let outside := k8s.all fun name =>
      decide (filters.namespaceIn ≠ [] ∧ name.namespace_ ∉ filters.namespaceIn) ||
        decide (name.pod ∈ filters.podNotIn)
    if (filters.namespaceIn ≠ [] ∨ filters.podNotIn ≠ []) ∧ outside = true then .drop
    else if filters.nameIn = [] ∧ filters.nameNotIn = [] then
      if k8s.isSome then .keep else .drop
    else nameVerdict filters ((k8s.map ContainerLogName.container).or (library.containerName path))

/-- Compiled excludes and the filters. -/
structure Selector where
  library : GlobLibrary
  excludes : List (String → Bool)
  filters : ContainerFilters

def Selector.excluded (selector : Selector) (path : Path) : Bool :=
  selector.excludes.any fun matcher => matcher path

def Selector.verdict (selector : Selector) (path : Path) : FilterVerdict :=
  if selector.excluded path then .drop
  else containerFiltersVerdict selector.library selector.filters path

/-! ## The scan -/

/-- What is found is known by its components below the base of the target. -/
def place (base : Path) (names : List String) : Path := names.foldl join base

structure Scan where
  selected : Finset (List String)
  deselected : Finset (List String)
  filtered : Nat
  identityUnknown : Nat

def Scan.empty : Scan := ⟨∅, ∅, 0, 0⟩

/-- `keep`, and the insertion of what it keeps. -/
def Scan.consider (selector : Selector) (base : Path) (scan : Scan) (names : List String) : Scan :=
  let path := place base names
  let verdict := selector.verdict path
  let scan := if verdict.identityUnknown then
    { scan with identityUnknown := scan.identityUnknown + 1 } else scan
  if verdict.keeps then { scan with selected := insert names scan.selected }
  else { scan with
    filtered := if selector.excluded path then scan.filtered else scan.filtered + 1
    deselected := insert names scan.deselected }

/-- The loop over the entries of a directory. -/
def scanNames (maxPaths : Nat) (visit : String → Scan → Except IoError Scan) (failure : Option IoError) :
    List String → Scan → Except IoError Scan
  | [], scan => match failure with
      | some err => .error err
      | none => .ok scan
  | name :: more, scan =>
    if maxPaths ≤ scan.selected.card then .ok scan
    else match visit name scan with
      | .error err => .error err
      | .ok next => scanNames maxPaths visit failure more next

section Resolve

variable (tree : DirectoryTree) (selector : Selector) (maxPaths : Nat)

def listDirFiles (dir : Path) : Except IoError Scan :=
  match tree.readDir dir with
  | .error err => .error err
  | .ok listing => scanNames maxPaths (fun name scan =>
    if tree.metadata (join dir name) = .ok .file then .ok (scan.consider selector dir [name])
    else .ok scan) listing.failure listing.names .empty

def resolveExplicitOrDir (target : Path) : Except IoError Scan :=
  match tree.metadata target with
  | .ok .dir => listDirFiles tree selector maxPaths target
  | .ok _ => .ok (Scan.empty.consider selector target [])
  | .error err => if err.kind = .notFound then .ok .empty else .error err

/-- What `walk_components` does with an entry: pass it over, consider it, or go into it. -/
inductive Visit
  | skip | consider | descend

def visitOf (matcher : String → Bool) (last : Bool) (path : Path) (name : String) : Visit :=
  if matcher name = false then .skip
  else match tree.metadata path with
    | .error _ => .skip
    | .ok kind =>
      if last then if kind = .file then .consider else .skip
      else if kind = .dir then .descend else .skip

/-- `walk_components`, below `names`. -/
def walkComponents (base : Path) : List String → List String → Scan → Except IoError Scan
  | [], _, scan => .ok scan
  | component :: remaining, names, scan =>
    if maxPaths ≤ scan.selected.card then .ok scan
    else match selector.library.build component with
      | .error err => .error err
      | .ok matcher => match tree.readDir (place base names) with
        | .error err => if err.kind = .notFound then .ok scan else .error err
        | .ok listing => scanNames maxPaths (fun name scan =>
          match visitOf tree matcher remaining.isEmpty (place base (names ++ [name])) name with
          | .skip => .ok scan
          | .consider => .ok (scan.consider selector base (names ++ [name]))
          | .descend => walkComponents base remaining (names ++ [name]) scan)
          listing.failure listing.names scan

/-- The directory in front of the first component with a metacharacter, and the components from it on. -/
def globBase (target : String) : Path :=
  place "/" ((components target).takeWhile fun part => !hasGlob part)

def globComponents (target : String) : List String :=
  (components target).dropWhile fun part => !hasGlob part

def resolveGlob (target : String) : Except IoError Scan :=
  if globComponents target = [] then resolveExplicitOrDir tree selector maxPaths (globBase target)
  else walkComponents tree selector maxPaths (globBase target) (globComponents target) [] .empty

end Resolve

/-- The path below which the scan of a target finds its files. -/
def targetBase (target : String) : Path := if hasGlob target then globBase target else target

def FamilySelection.ofScan (target : String) (scan : Scan) : FamilySelection :=
  { selected := (scan.selected.sort (· ≤ ·)).map (place (targetBase target))
    deselected := (scan.deselected.sort (· ≤ ·)).map (place (targetBase target))
    filtered := scan.filtered, identityUnknown := scan.identityUnknown }

/-- `resolve_family_paths`. -/
def resolveFamilyPaths (library : GlobLibrary) (tree : DirectoryTree) (target : String)
    (excludeGlobs : List String) (filters : ContainerFilters) (maxPaths : Nat) :
    Except IoError FamilySelection :=
  if "**".toList <:+: target.toList then
    .error (.new .invalidInput "recursive glob `**` is not supported")
  else match excludeGlobs.mapM library.build with
    | .error err => .error err
    | .ok excludes =>
      let selector : Selector := ⟨library, excludes, filters⟩
      let scan := if hasGlob target then resolveGlob tree selector maxPaths target
        else resolveExplicitOrDir tree selector maxPaths target
      match scan with
      | .error err => .error err
      | .ok scan => .ok (.ofScan target scan)

/-- The scan cap of a family: more than it may track. -/
def scanCap (maxFiles : Nat) : Nat := max (maxFiles * 4) 1024

/-! ## Candidates -/

/-- The files that match, in the order in which the directories list them. -/
def candidates (library : GlobLibrary) (tree : DirectoryTree) (base : Path) :
    List String → List String → List (List String)
  | [], _ => []
  | component :: remaining, names =>
    match library.build component, tree.readDir (place base names) with
    | .ok matcher, .ok listing => listing.names.flatMap fun name =>
      match visitOf tree matcher remaining.isEmpty (place base (names ++ [name])) name with
      | .skip => []
      | .consider => [names ++ [name]]
      | .descend => candidates library tree base remaining (names ++ [name])
    | _, _ => []

/-- The candidates are considered one by one, as long as the cap is not reached. -/
def considerAll (selector : Selector) (maxPaths : Nat) (base : Path) (found : List (List String))
    (scan : Scan) : Scan :=
  found.foldl (fun scan names =>
    if maxPaths ≤ scan.selected.card then scan else scan.consider selector base names) scan

section Considering

variable {selector : Selector} {maxPaths : Nat} {base : Path}

theorem consider_selected (scan : Scan) (names : List String) :
    (scan.consider selector base names).selected =
      if (selector.verdict (place base names)).keeps then insert names scan.selected
      else scan.selected := by
  unfold Scan.consider
  dsimp only
  split <;> split <;> rfl

theorem consider_deselected (scan : Scan) (names : List String) :
    (scan.consider selector base names).deselected =
      if (selector.verdict (place base names)).keeps then scan.deselected
      else insert names scan.deselected := by
  unfold Scan.consider
  dsimp only
  split <;> split <;> rfl

theorem considerAll_nil (scan : Scan) : considerAll selector maxPaths base [] scan = scan := rfl

theorem considerAll_append (front back : List (List String)) (scan : Scan) :
    considerAll selector maxPaths base (front ++ back) scan =
      considerAll selector maxPaths base back (considerAll selector maxPaths base front scan) :=
  foldl_append

theorem considerAll_full {scan : Scan} (full : maxPaths ≤ scan.selected.card)
    (found : List (List String)) : considerAll selector maxPaths base found scan = scan := by
  induction found with
  | nil => rfl
  | cons names rest ih =>
    show considerAll selector maxPaths base rest (if _ then _ else _) = scan
    rw [if_pos full, ih]

theorem considerAll_grows (found : List (List String)) (scan : Scan) :
    scan.selected ⊆ (considerAll selector maxPaths base found scan).selected := by
  induction found generalizing scan with
  | nil => exact Finset.Subset.refl _
  | cons names rest ih =>
    refine Finset.Subset.trans ?_ (ih _)
    dsimp only
    split
    · exact Finset.Subset.refl _
    · rw [consider_selected]
      split
      · exact Finset.subset_insert _ _
      · exact Finset.Subset.refl _

/-- **The cap keeps the first ones**: of distinct candidates, the kept ones up to the room there is. -/
theorem considerAll_selected {found : List (List String)} (distinct : found.Nodup) {scan : Scan}
    (new : ∀ names ∈ found, names ∉ scan.selected) :
    (considerAll selector maxPaths base found scan).selected = scan.selected ∪
      ((found.filter fun names => (selector.verdict (place base names)).keeps).take
        (maxPaths - scan.selected.card)).toFinset := by
  induction found generalizing scan with
  | nil => simp [considerAll_nil]
  | cons names rest ih =>
    obtain ⟨apart, later⟩ := nodup_cons.1 distinct
    have others := fun other mem => new other (mem_cons_of_mem names mem)
    show (considerAll selector maxPaths base rest (if _ then _ else _)).selected = _
    by_cases full : maxPaths ≤ scan.selected.card
    · rw [if_pos full, considerAll_full full, Nat.sub_eq_zero_of_le full, take_zero]
      simp
    · rw [if_neg full]
      have grown := @consider_selected selector base scan names
      by_cases kept : (selector.verdict (place base names)).keeps = true
      · rw [if_pos kept] at grown
        have fresh := new names mem_cons_self
        have room : maxPaths - scan.selected.card =
            (maxPaths - (scan.consider selector base names).selected.card) + 1 := by
          rw [grown, Finset.card_insert_of_notMem fresh]
          omega
        rw [ih later (by
          intro other mem
          rw [grown, Finset.mem_insert, not_or]
          exact ⟨fun same => apart (same ▸ mem), others other mem⟩), room,
          filter_cons, if_pos kept, take_succ_cons, toFinset_cons, grown,
          Finset.insert_union, Finset.union_insert]
      · rw [if_neg kept] at grown
        rw [ih later (by rw [grown]; exact others), grown, filter_cons, if_neg kept]

theorem considerAll_deselected (found : List (List String)) (scan : Scan) :
    ∀ names ∈ (considerAll selector maxPaths base found scan).deselected, names ∈ scan.deselected ∨
      names ∈ found ∧ (selector.verdict (place base names)).keeps = false := by
  induction found generalizing scan with
  | nil => exact fun names mem => .inl mem
  | cons first rest ih =>
    intro names mem
    rcases ih _ names mem with before | ⟨inside, dropped⟩
    · dsimp only at before
      split at before
      · exact .inl before
      · rw [consider_deselected] at before
        split at before
        · exact .inl before
        · rename_i dropped
          rcases Finset.mem_insert.1 before with rfl | older
          · exact .inr ⟨mem_cons_self, by simpa using dropped⟩
          · exact .inl older
    · exact .inr ⟨mem_cons_of_mem _ inside, dropped⟩

/-- A loop whose visits consider `found name` considers all of them in turn; if it ends below the cap,
every visit was made. -/
theorem scanNames_considers {visit : String → Scan → Except IoError Scan} {failure : Option IoError}
    {found : String → List (List String)} {complete : String → Prop} :
    (∀ name ∈ names, ∀ scan next, scan.selected.card < maxPaths → visit name scan = .ok next →
      next = considerAll selector maxPaths base (found name) scan ∧
        (next.selected.card < maxPaths → complete name)) →
    ∀ {scan next : Scan}, scanNames maxPaths visit failure names scan = .ok next →
      next = considerAll selector maxPaths base (names.flatMap found) scan ∧
        (next.selected.card < maxPaths → ∀ name ∈ names, complete name) := by
  induction names with
  | nil =>
    intro _ scan next ran
    cases failure with
    | some err => cases ran
    | none => exact ⟨(Except.ok.inj ran).symm, fun _ name mem => nomatch mem⟩
  | cons name more ih =>
    intro visits scan next ran
    unfold scanNames at ran
    by_cases full : maxPaths ≤ scan.selected.card
    · rw [if_pos full] at ran
      cases ran
      rw [considerAll_full full]
      exact ⟨rfl, fun below => absurd full (by omega)⟩
    · rw [if_neg full] at ran
      cases visited : visit name scan with
      | error err =>
        rw [visited] at ran
        cases ran
      | ok mid =>
        rw [visited] at ran
        obtain ⟨first, whole⟩ := visits name mem_cons_self scan mid (Nat.not_le.1 full) visited
        obtain ⟨rest, others⟩ := ih (fun other mem =>
          visits other (mem_cons_of_mem _ mem)) ran
        rw [flatMap_cons, considerAll_append, ← first]
        refine ⟨rest, fun below other mem => ?_⟩
        rcases mem_cons.1 mem with rfl | later
        · have grows := Finset.card_le_card (@considerAll_grows selector maxPaths base
            (more.flatMap found) mid)
          rw [← rest] at grows
          exact whole (by omega)
        · exact others below other later

end Considering

/-! ## The walk -/

section Walk

variable {library : GlobLibrary} {tree : DirectoryTree} {base : Path}

/-- Component by component: the name is one a directory can list and the pattern matches it. -/
def Matches (library : GlobLibrary) (components names : List String) : Prop :=
  List.Forall₂ (fun component name => ValidName name ∧
    ∃ matcher, library.build component = .ok matcher ∧ matcher name = true) components names

theorem Matches.valid {components : List String} (matches_ : Matches library components names) :
    ∀ name ∈ names, ValidName name := by
  induction matches_ with
  | nil => exact fun name mem => nomatch mem
  | cons here later ih =>
    intro name mem
    rcases mem_cons.1 mem with rfl | inside
    · exact here.1
    · exact ih name inside

theorem place_append (front back : List String) :
    place base (front ++ back) = place (place base front) back := foldl_append

theorem components_place : (∀ name ∈ names, ValidName name) →
    components (place base names) = components base ++ names := by
  induction names using List.reverseRecOn with
  | nil => exact fun _ => (append_nil _).symm
  | append_singleton front last ih =>
    intro valid
    rw [place_append]
    show components (join (place base front) last) = _
    rw [components_join (valid last (by simp)), ih fun name mem => valid name (by simp [mem]),
      append_assoc]

theorem place_inj {left right : List String} (validLeft : ∀ name ∈ left, ValidName name)
    (validRight : ∀ name ∈ right, ValidName name) (same : place base left = place base right) :
    left = right := by
  have parts := congrArg components same
  rw [components_place validLeft, components_place validRight] at parts
  exact append_cancel_left parts

/-- What stands at the end of a path has directories above it. -/
theorem dir_above {back : List String} (valid : ∀ name ∈ back, ValidName name) (some_ : back ≠ []) :
    ∀ {path : Path} {kind : FileKind}, tree.metadata (place path back) = .ok kind →
      tree.metadata path = .ok .dir := by
  induction back with
  | nil => exact absurd rfl some_
  | cons name rest ih =>
    intro path kind there
    have first := valid name mem_cons_self
    by_cases last : rest = []
    · subst last
      exact tree.above first there
    · exact tree.above first (ih (fun other mem => valid other (mem_cons_of_mem _ mem)) last
        there)

/-- On the way to a file that matches, the entry at hand is that file or a directory to go into. -/
theorem visitOf_towards {rest : List String} (built : library.build component = .ok matcher)
    (matches_ : Matches library (component :: remaining) (name :: rest))
    (file : tree.metadata (place base (names ++ name :: rest)) = .ok .file) :
    visitOf tree matcher remaining.isEmpty (place base (names ++ [name])) name =
        (if rest = [] then .consider else .descend) ∧
      ∃ kind, tree.metadata (join (place base names) name) = .ok kind := by
  cases matches_ with
  | cons here later =>
    obtain ⟨-, other, same, hit⟩ := here
    obtain rfl := Except.ok.inj (built.symm.trans same)
    have own : place base (names ++ [name]) = join (place base names) name := place_append _ _
    cases later with
    | nil =>
      rw [visitOf, hit, file, ← own]
      exact ⟨rfl, _, file⟩
    | @cons _ next _ rest here later =>
      have dir : tree.metadata (place base (names ++ [name])) = .ok .dir := by
        refine @dir_above _ _ (@Matches.valid _ library _ (.cons here later)) (by simp) _ .file ?_
        rw [← place_append, append_assoc]
        exact file
      rw [visitOf, hit, dir, ← own]
      exact ⟨rfl, _, dir⟩

/-- The candidates at one entry of a directory, and below it. -/
def candidatesAt (library : GlobLibrary) (tree : DirectoryTree) (base : Path) (matcher : String → Bool)
    (remaining names : List String) (name : String) : List (List String) :=
  match visitOf tree matcher remaining.isEmpty (place base (names ++ [name])) name with
  | .skip => []
  | .consider => [names ++ [name]]
  | .descend => candidates library tree base remaining (names ++ [name])

theorem candidates_cons {listing : Listing} (built : library.build component = .ok matcher)
    (read : tree.readDir (place base names) = .ok listing) :
    candidates library tree base (component :: remaining) names =
      listing.names.flatMap (candidatesAt library tree base matcher remaining names) := by
  rw [candidates, built, read]
  rfl

theorem candidates_none (unread : ∀ listing, tree.readDir (place base names) ≠ .ok listing) :
    candidates library tree base (component :: remaining) names = [] := by
  rw [candidates]
  split
  · rename_i matcher listing built read
    exact absurd read (unread listing)
  · rfl

theorem visitOf_consider {last : Bool} {path : Path}
    (visit : visitOf tree matcher last path name = .consider) :
    matcher name = true ∧ last = true ∧ tree.metadata path = .ok .file := by
  unfold visitOf at visit
  split at visit
  · cases visit
  · rename_i hit
    split at visit
    · cases visit
    · rename_i kind there
      cases last with
      | false =>
        by_cases dir : kind = .dir <;> simp [dir] at visit
      | true =>
        by_cases file : kind = .file
        · exact ⟨by simpa using hit, rfl, file ▸ there⟩
        · simp [file] at visit

theorem visitOf_descend {last : Bool} {path : Path}
    (visit : visitOf tree matcher last path name = .descend) : matcher name = true := by
  unfold visitOf at visit
  split at visit
  · cases visit
  · rename_i hit
    simpa using hit

/-- What a visit finds is below `names`, matches, and is a file; and no two of it are the same. -/
def SoundBelow (library : GlobLibrary) (tree : DirectoryTree) (base : Path)
    (components names : List String) (found : List (List String)) : Prop :=
  (∀ one ∈ found, ∃ rest, one = names ++ rest ∧ Matches library components rest ∧
    tree.metadata (place base one) = .ok .file) ∧ found.Nodup

theorem soundBelow_nil (components names : List String) :
    SoundBelow library tree base components names [] := ⟨by simp, nodup_nil⟩

theorem candidates_sound (remaining : List String) : ∀ names,
    SoundBelow library tree base remaining names (candidates library tree base remaining names) := by
  induction remaining with
  | nil => exact fun names => soundBelow_nil _ _
  | cons component remaining ih =>
    intro names
    cases built : library.build component with
    | error err =>
      rw [candidates, built]
      exact soundBelow_nil _ _
    | ok matcher =>
      cases read : tree.readDir (place base names) with
      | error err =>
        rw [candidates_none (by simp [read])]
        exact soundBelow_nil _ _
      | ok listing =>
        rw [candidates_cons built read]
        have each : ∀ name ∈ listing.names,
            (∀ one ∈ candidatesAt library tree base matcher remaining names name,
              ∃ rest, one = names ++ name :: rest ∧
                Matches library (component :: remaining) (name :: rest) ∧
                tree.metadata (place base one) = .ok .file) ∧
            (candidatesAt library tree base matcher remaining names name).Nodup := by
          intro name inDir
          unfold candidatesAt
          have here : matcher name = true → ValidName name ∧ ∃ matcher,
              library.build component = .ok matcher ∧ matcher name = true :=
            fun hit => ⟨tree.validNames read name inDir, matcher, built, hit⟩
          cases visit : visitOf tree matcher remaining.isEmpty (place base (names ++ [name])) name with
          | skip => exact ⟨by simp, nodup_nil⟩
          | consider =>
            obtain ⟨hit, last, file⟩ := visitOf_consider visit
            refine ⟨fun one mem => ⟨[], mem_singleton.1 mem, ?_, ?_⟩, nodup_singleton _⟩
            · rw [isEmpty_iff.1 last]
              exact .cons (here hit) .nil
            · rw [mem_singleton.1 mem]
              exact file
          | descend =>
            obtain ⟨sound, distinct⟩ := ih (names ++ [name])
            refine ⟨fun one mem => ?_, distinct⟩
            obtain ⟨rest, rfl, matches_, file⟩ := sound one mem
            exact ⟨rest, by simp, .cons (here (visitOf_descend visit)) matches_, file⟩
        constructor
        · intro one mem
          obtain ⟨name, inDir, below⟩ := mem_flatMap.1 mem
          obtain ⟨rest, same, matches_, file⟩ := (each name inDir).1 one below
          exact ⟨name :: rest, same, matches_, file⟩
        · -- candidates below different names differ in that name
          refine nodup_flatMap.2 ⟨fun name inDir => (each name inDir).2, ?_⟩
          refine List.Pairwise.imp_of_mem ?_ (tree.distinctNames read)
          intro left right inLeft inRight different one mem also
          obtain ⟨_, same, -, -⟩ := (each left inLeft).1 one mem
          obtain ⟨_, other, -, -⟩ := (each right inRight).1 one also
          rw [same] at other
          exact different (List.cons.inj (append_cancel_left other)).1

/-- **The walk considers the candidates in turn**; one that ends below the cap has seen every file that
matches. -/
theorem walk_spec {selector : Selector} (remaining : List String) :
    ∀ {names : List String} {scan next : Scan},
      walkComponents tree selector maxPaths base remaining names scan = .ok next →
      next = considerAll selector maxPaths base
          (candidates selector.library tree base remaining names) scan ∧
        (next.selected.card < maxPaths → remaining ≠ [] → ∀ rest,
          Matches selector.library remaining rest →
          tree.metadata (place base (names ++ rest)) = .ok .file →
          names ++ rest ∈ candidates selector.library tree base remaining names) := by
  induction remaining with
  | nil => exact fun ran => ⟨(Except.ok.inj ran).symm, fun _ none_ => absurd rfl none_⟩
  | cons component remaining ih =>
    intro names scan next ran
    unfold walkComponents at ran
    by_cases full : maxPaths ≤ scan.selected.card
    · rw [if_pos full] at ran
      cases ran
      rw [considerAll_full full]
      exact ⟨rfl, fun below => absurd full (by omega)⟩
    rw [if_neg full] at ran
    cases built : selector.library.build component with
    | error err =>
      rw [built] at ran
      cases ran
    | ok matcher =>
      rw [built] at ran
      cases read : tree.readDir (place base names) with
      | error err =>
        rw [read] at ran
        dsimp only at ran
        by_cases gone : err.kind = .notFound
        · rw [if_pos gone] at ran
          rw [candidates_none (by simp [read])]
          refine ⟨(Except.ok.inj ran).symm, fun _ _ rest matches_ file => ?_⟩
          cases matches_ with
          | cons here later =>
            obtain ⟨-, kind, there⟩ := visitOf_towards built (.cons here later) file
            exact absurd there (tree.absent read gone here.1)
        · rw [if_neg gone] at ran
          cases ran
      | ok listing =>
        rw [read] at ran
        rw [candidates_cons built read]
        have considered := @scanNames_considers _ selector _ base _ _
          (candidatesAt selector.library tree base matcher remaining names)
          (fun name => ∀ rest, Matches selector.library (component :: remaining) (name :: rest) →
            tree.metadata (place base (names ++ name :: rest)) = .ok .file → names ++ name :: rest ∈
              candidatesAt selector.library tree base matcher remaining names name)
          (fun name inDir scan next room visited => ?_) _ _ ran
        · obtain ⟨same, complete⟩ := considered
          refine ⟨same, fun below _ rest matches_ file => ?_⟩
          cases matches_ with
          | cons here later =>
            obtain ⟨-, kind, there⟩ := visitOf_towards built (.cons here later) file
            exact mem_flatMap.2 ⟨_, tree.listed read here.1 there,
              complete below _ (tree.listed read here.1 there) _ (.cons here later) file⟩
        · -- one entry of the directory
          unfold candidatesAt
          cases visit : visitOf tree matcher remaining.isEmpty (place base (names ++ [name])) name with
          | skip =>
            rw [visit] at visited
            refine ⟨(Except.ok.inj visited).symm, fun _ rest matches_ file => ?_⟩
            have towards := (visitOf_towards built matches_ file).1
            rw [visit] at towards
            split at towards <;> cases towards
          | consider =>
            rw [visit] at visited
            cases visited
            refine ⟨(if_neg (Nat.not_le.2 room)).symm, fun _ rest matches_ file => ?_⟩
            have towards := (visitOf_towards built matches_ file).1
            rw [visit] at towards
            split at towards
            · rename_i last
              rw [last]
              exact mem_singleton_self _
            · cases towards
          | descend =>
            rw [visit] at visited
            obtain ⟨same, complete⟩ := ih visited
            refine ⟨same, fun below rest matches_ file => ?_⟩
            have towards := (visitOf_towards built matches_ file).1
            rw [visit] at towards
            cases matches_ with
            | cons here later =>
              have deeper : remaining ≠ [] := by
                rintro rfl
                cases later
                cases towards
              have deep := complete below deeper rest later (by
                rw [append_assoc]
                exact file)
              rw [append_assoc] at deep
              exact deep

end Walk

/-! ## The resolution -/

/-- The candidates of a target: matching files, the files of a directory, or the path itself. -/
def targetCandidates (library : GlobLibrary) (tree : DirectoryTree) (target : String) :
    List (List String) :=
  if hasGlob target = true ∧ globComponents target ≠ [] then
    candidates library tree (targetBase target) (globComponents target) []
  else match tree.metadata (targetBase target) with
    | .ok .dir => match tree.readDir (targetBase target) with
      | .ok listing => (listing.names.filter fun name =>
        decide (tree.metadata (join (targetBase target) name) = .ok .file)).map fun name => [name]
      | .error _ => []
    | .ok _ => [[]]
    | .error _ => []

/-- An existing file whose path fits the target, told without a scan. -/
def FitsTarget (library : GlobLibrary) (tree : DirectoryTree) (target : String) (names : List String) :
    Prop :=
  if hasGlob target = true ∧ globComponents target ≠ [] then
    Matches library (globComponents target) names ∧
      tree.metadata (place (targetBase target) names) = .ok .file
  else match tree.metadata (targetBase target) with
    | .ok .dir => ∃ name, ValidName name ∧ names = [name] ∧
        tree.metadata (join (targetBase target) name) = .ok .file
    | .ok _ => names = []
    | .error _ => False

/-- The excludes compile and the selection layer keeps the path. -/
def Passes (library : GlobLibrary) (excludeGlobs : List String) (filters : ContainerFilters)
    (path : Path) : Prop :=
  ∃ excludes, excludeGlobs.mapM library.build = .ok excludes ∧
    ((⟨library, excludes, filters⟩ : Selector).verdict path).keeps = true

/-- The scan considered the candidates, and below the cap they are all that fits. -/
def Resolved (selector : Selector) (tree : DirectoryTree) (maxPaths : Nat) (target : String)
    (scan : Scan) : Prop :=
  scan = considerAll selector maxPaths (targetBase target)
      (targetCandidates selector.library tree target) .empty ∧
    (scan.selected.card < maxPaths → ∀ names, FitsTarget selector.library tree target names →
      names ∈ targetCandidates selector.library tree target)

section Resolution

variable {library : GlobLibrary} {tree : DirectoryTree} {target : String}

theorem FitsTarget.valid (fits : FitsTarget library tree target names) :
    ∀ name ∈ names, ValidName name := by
  unfold FitsTarget at fits
  split at fits
  · exact fits.1.valid
  · split at fits
    · obtain ⟨name, valid, rfl, -⟩ := fits
      simpa using valid
    · simp [fits]
    · exact fits.elim

theorem targetCandidates_sound (library : GlobLibrary) (tree : DirectoryTree) (target : String) :
    (∀ names ∈ targetCandidates library tree target, FitsTarget library tree target names) ∧
      (targetCandidates library tree target).Nodup := by
  unfold targetCandidates FitsTarget
  split
  · obtain ⟨sound, distinct⟩ := @candidates_sound library tree
      (targetBase target) (globComponents target) []
    refine ⟨fun names mem => ?_, distinct⟩
    obtain ⟨rest, rfl, matches_, file⟩ := sound names mem
    exact ⟨matches_, file⟩
  · cases tree.metadata (targetBase target) with
    | error err => exact ⟨by simp, nodup_nil⟩
    | ok kind =>
      cases kind with
      | dir =>
        cases read : tree.readDir (targetBase target) with
        | error err => exact ⟨by simp, nodup_nil⟩
        | ok listing =>
          refine ⟨fun names mem => ?_, ((tree.distinctNames read).filter _).map
            fun left right same => singleton_injective same⟩
          obtain ⟨name, inside, rfl⟩ := mem_map.1 mem
          obtain ⟨inDir, file⟩ := mem_filter.1 inside
          exact ⟨name, tree.validNames read name inDir, rfl, by simpa using file⟩
      | file | other => exact ⟨by simp, nodup_singleton _⟩

theorem explicitOrDir_spec {selector : Selector} (room : 0 < maxPaths) {scan : Scan}
    (ran : resolveExplicitOrDir tree selector maxPaths (targetBase target) = .ok scan)
    (plain : ¬ (hasGlob target = true ∧ globComponents target ≠ [])) :
    Resolved selector tree maxPaths target scan := by
  unfold resolveExplicitOrDir at ran
  unfold Resolved targetCandidates FitsTarget
  rw [if_neg plain]
  simp only [if_neg plain]
  cases meta_ : tree.metadata (targetBase target) with
  | error err =>
    rw [meta_] at ran
    dsimp only at ran
    split at ran
    · exact ⟨(Except.ok.inj ran).symm, fun _ _ never => never.elim⟩
    · cases ran
  | ok kind =>
    rw [meta_] at ran
    cases kind with
    | file | other =>
      cases ran
      exact ⟨(if_neg (Nat.not_le.2 room)).symm, fun _ names none_ => by simp [none_]⟩
    | dir =>
      dsimp only [listDirFiles] at ran
      cases read : tree.readDir (targetBase target) with
      | error err =>
        rw [read] at ran
        cases ran
      | ok listing =>
        rw [read] at ran
        have considered := @scanNames_considers _ selector _ (targetBase target) _ _
          (fun name =>
            if tree.metadata (join (targetBase target) name) = .ok .file then [[name]] else [])
          (fun _ => True) (fun name _ scan next below visited => ?_) _ _ ran
        · have same : (listing.names.filter fun name =>
                decide (tree.metadata (join (targetBase target) name) = .ok .file)).map
                (fun name => [name]) = listing.names.flatMap fun name =>
              if tree.metadata (join (targetBase target) name) = .ok .file then [[name]] else [] := by
            induction listing.names with
            | nil => rfl
            | cons name rest ih =>
              by_cases file : tree.metadata (join (targetBase target) name) = .ok .file <;>
                simpa [file] using ih
          dsimp only
          rw [same]
          refine ⟨considered.1, fun _ names fits => ?_⟩
          obtain ⟨name, valid, rfl, file⟩ := fits
          exact mem_flatMap.2 ⟨name, tree.listed read valid file, by simp [file]⟩
        · split at visited
          · rename_i file
            cases visited
            rw [if_pos file]
            exact ⟨(if_neg (Nat.not_le.2 below)).symm, fun _ => trivial⟩
          · rename_i other
            rw [if_neg other]
            exact ⟨(Except.ok.inj visited).symm, fun _ => trivial⟩

/-- What a resolution that succeeds has done. -/
theorem resolve_spec {excludeGlobs : List String} (room : 0 < maxPaths)
    {selection : FamilySelection}
    (ran : resolveFamilyPaths library tree target excludeGlobs filters maxPaths = .ok selection) :
    ∃ excludes scan, excludeGlobs.mapM library.build = .ok excludes ∧
      selection = .ofScan target scan ∧
      Resolved ⟨library, excludes, filters⟩ tree maxPaths target scan := by
  unfold resolveFamilyPaths at ran
  split at ran
  · cases ran
  cases compiled : excludeGlobs.mapM library.build with
  | error err =>
    rw [compiled] at ran
    cases ran
  | ok excludes =>
    rw [compiled] at ran
    dsimp only at ran
    split at ran
    · cases ran
    rename_i scan went
    refine ⟨excludes, scan, rfl, (Except.ok.inj ran).symm, ?_⟩
    by_cases glob : hasGlob target = true
    · have based : targetBase target = globBase target := if_pos glob
      rw [if_pos glob, resolveGlob, ← based] at went
      by_cases fixed : globComponents target = []
      · rw [if_pos fixed] at went
        exact explicitOrDir_spec room went fun both => both.2 fixed
      · rw [if_neg fixed] at went
        obtain ⟨same, complete⟩ := walk_spec (globComponents target) went
        unfold Resolved targetCandidates FitsTarget
        rw [if_pos ⟨glob, fixed⟩]
        simp only [if_pos (And.intro glob fixed)]
        exact ⟨same, fun below names fits => complete below fixed names fits.1 fits.2⟩
    · refine explicitOrDir_spec room ?_ fun both => glob both.1
      simpa [targetBase, glob] using went

section

variable (library : GlobLibrary) (tree : DirectoryTree) (target : String)
  (excludes : List (String → Bool)) (filters : ContainerFilters)

/-- The kept candidates, in the order they are met. -/
def keptCandidates : List (List String) :=
  (targetCandidates library tree target).filter fun names =>
    ((⟨library, excludes, filters⟩ : Selector).verdict (place (targetBase target) names)).keeps

/-- The scan selects the first candidates it keeps, as many as the cap allows. -/
theorem resolve_selected (maxPaths : Nat) :
    (considerAll ⟨library, excludes, filters⟩ maxPaths (targetBase target)
        (targetCandidates library tree target) .empty).selected =
      ((keptCandidates library tree target excludes filters).take maxPaths).toFinset := by
  rw [considerAll_selected (targetCandidates_sound library tree target).2 (by simp [Scan.empty])]
  simp [Scan.empty, keptCandidates]

end

theorem mem_keptCandidates {excludes : List (String → Bool)} :
    names ∈ keptCandidates library tree target excludes filters ↔
      names ∈ targetCandidates library tree target ∧ ((⟨library, excludes, filters⟩ :
        Selector).verdict (place (targetBase target) names)).keeps = true := mem_filter

/-- A deselected path was rejected. -/
theorem resolve_deselected {excludes : List (String → Bool)}
    (mem : names ∈ (considerAll ⟨library, excludes, filters⟩ maxPaths
      (targetBase target) (targetCandidates library tree target) .empty).deselected) :
    FitsTarget library tree target names ∧ ((⟨library, excludes, filters⟩ : Selector).verdict
      (place (targetBase target) names)).keeps = false := by
  rcases considerAll_deselected _ _ names mem with none_ | ⟨found, dropped⟩
  · simp [Scan.empty] at none_
  · exact ⟨(targetCandidates_sound library tree target).1 names found, dropped⟩

/-- **Family resolution**: the selection is in strict order of the components (hence sorted and without
duplicates), within the cap, made of files that fit the target and pass the selection layer, and apart
from what was deselected; below the cap it is all of those files. -/
theorem resolution_exact {excludeGlobs : List String} {filters : ContainerFilters} {maxFiles : Nat}
    {selection : FamilySelection} (ran : resolveFamilyPaths library tree target excludeGlobs filters
      (scanCap maxFiles) = .ok selection) :
    ∃ names : List (List String), selection.selected = names.map (place (targetBase target)) ∧
      names.Pairwise (· < ·) ∧ selection.selected.Nodup ∧
      selection.selected.length ≤ scanCap maxFiles ∧
      (∀ path ∈ selection.selected, path ∉ selection.deselected) ∧
      (∀ path ∈ selection.selected, ∃ names, path = place (targetBase target) names ∧
        FitsTarget library tree target names ∧ Passes library excludeGlobs filters path) ∧
      (selection.selected.length < scanCap maxFiles → ∀ names, FitsTarget library tree target names →
        Passes library excludeGlobs filters (place (targetBase target) names) →
        place (targetBase target) names ∈ selection.selected) := by
  have room : 0 < scanCap maxFiles := Nat.lt_of_lt_of_le (by decide) (Nat.le_max_right _ 1024)
  obtain ⟨excludes, scan, compiled, rfl, considered, complete⟩ := resolve_spec room ran
  have selected := resolve_selected library tree target excludes filters (scanCap maxFiles)
  rw [← considered] at selected
  have kept : ∀ names ∈ scan.selected, FitsTarget library tree target names ∧
      ((⟨library, excludes, filters⟩ : Selector).verdict (place (targetBase target) names)).keeps =
        true := by
    intro names mem
    rw [selected, mem_toFinset] at mem
    obtain ⟨found, keeps⟩ := mem_keptCandidates.1 (mem_of_mem_take mem)
    exact ⟨(targetCandidates_sound library tree target).1 names found, keeps⟩
  have size : (scan.selected.sort (· ≤ ·)).length = scan.selected.card := Finset.length_sort _
  have chosen : ∀ {path}, path ∈ (FamilySelection.ofScan target scan).selected ↔
      ∃ names ∈ scan.selected, place (targetBase target) names = path := by
    intro path
    simp [FamilySelection.ofScan]
  refine ⟨scan.selected.sort (· ≤ ·), rfl, (Finset.sortedLT_sort _).pairwise, ?_, ?_, ?_, ?_, ?_⟩
  · refine List.Nodup.map_on (fun left inLeft right inRight same => ?_) (Finset.sort_nodup _ _)
    exact place_inj (kept left ((Finset.mem_sort _).1 inLeft)).1.valid
      (kept right ((Finset.mem_sort _).1 inRight)).1.valid same
  · show (List.map _ _).length ≤ _
    rw [length_map, size, selected]
    exact (toFinset_card_le _).trans (by rw [length_take]; exact Nat.min_le_left _ _)
  · intro path inside outside
    obtain ⟨left, inLeft, rfl⟩ := chosen.1 inside
    obtain ⟨right, inRight, same⟩ := mem_map.1 outside
    rw [Finset.mem_sort, considered] at inRight
    obtain ⟨fits, dropped⟩ := resolve_deselected inRight
    obtain rfl := place_inj fits.valid (kept left inLeft).1.valid same
    rw [(kept right inLeft).2] at dropped
    cases dropped
  · intro path inside
    obtain ⟨names, mem, rfl⟩ := chosen.1 inside
    exact ⟨names, rfl, (kept names mem).1, excludes, compiled, (kept names mem).2⟩
  · intro below names fits passes
    obtain ⟨others, again, keeps⟩ := passes
    obtain rfl := Except.ok.inj (compiled.symm.trans again)
    change (List.map _ _).length < _ at below
    rw [length_map, size] at below
    refine chosen.2 ⟨names, ?_, rfl⟩
    have due : names ∈ keptCandidates library tree target excludes filters :=
      mem_keptCandidates.2 ⟨complete below names fits, keeps⟩
    have distinct : (keptCandidates library tree target excludes filters).Nodup :=
      (targetCandidates_sound library tree target).2.filter _
    rw [selected, toFinset_card_of_nodup (distinct.sublist (take_sublist _ _)),
      length_take] at below
    rw [selected, mem_toFinset, take_of_length_le (by omega)]
    exact due

end Resolution

/-! ## A directory of files -/

/-- One directory below the root, with files of the given names. -/
def DirectoryTree.flat (names : List String) (valid : ∀ name ∈ names, ValidName name)
    (distinct : names.Nodup) : DirectoryTree where
  metadata path := match components path with
    | [] => .ok .dir
    | [dir] => if dir = "d" then .ok .dir else .error notFoundError
    | [dir, name] => if dir = "d" ∧ name ∈ names then .ok .file else .error notFoundError
    | _ => .error notFoundError
  readDir path := match components path with
    | [] => .ok ⟨["d"], none⟩
    | [dir] => if dir = "d" then .ok ⟨names, none⟩ else .error notFoundError
    | _ => .error notFoundError
  validNames {path listing} read name mem := by
    split at read
    · rw [← Except.ok.inj read, mem_singleton] at mem
      rw [mem]
      decide
    · split at read
      · rw [← Except.ok.inj read] at mem
        exact valid name mem
      · cases read
    · cases read
  distinctNames {path listing} read := by
    split at read
    · rw [← Except.ok.inj read]
      exact nodup_singleton _
    · split at read
      · rw [← Except.ok.inj read]
        exact distinct
      · cases read
    · cases read
  listed {path listing name kind} read valid there := by
    rw [components_join valid] at there
    split at read
    · rename_i root
      rw [root] at there
      rw [← Except.ok.inj read]
      dsimp only [nil_append] at there
      split at there
      · rename_i same
        exact mem_singleton.2 same
      · cases there
    · rename_i dir only
      rw [only] at there
      dsimp only [cons_append, nil_append] at there
      split at read
      · rw [← Except.ok.inj read]
        split at there
        · rename_i both
          exact both.2
        · cases there
      · cases read
    · cases read
  absent {path err name kind} read _ valid there := by
    rw [components_join valid] at there
    split at read
    · cases read
    · rename_i dir only
      rw [only] at there
      dsimp only [cons_append, nil_append] at there
      split at read
      · cases read
      · rename_i other
        rw [if_neg fun both => other both.1] at there
        cases there
    · rename_i notRoot notDir
      cases parts : components path with
      | nil => exact notRoot parts
      | cons first rest =>
        cases rest with
        | nil => exact notDir first parts
        | cons second rest =>
          rw [parts] at there
          cases rest <;> cases there
  above {path name kind} valid there := by
    rw [components_join valid] at there
    cases parts : components path with
    | nil => rfl
    | cons first rest =>
      rw [parts] at there
      cases rest with
      | nil =>
        dsimp only [cons_append, nil_append] at there
        split at there
        · rename_i both
          exact if_pos both.1
        · cases there
      | cons second rest => cases rest <;> cases there

theorem DirectoryTree.flat_file {valid : ∀ name ∈ names, ValidName name} {distinct : names.Nodup}
    (good : ValidName name) (mem : name ∈ names) :
    (flat names valid distinct).metadata (join "/d" name) = .ok .file := by
  unfold flat
  dsimp only
  rw [components_join good]
  exact if_pos ⟨rfl, mem⟩

/-- Patterns that are taken literally. -/
def GlobLibrary.literal : GlobLibrary :=
  ⟨fun pattern => .ok fun name => decide (name = pattern), fun _ => none⟩

def noFilters : ContainerFilters := ⟨[], [], [], []⟩

/-- Two files of a directory, one of them excluded. -/
theorem resolution_exact_twoFiles :
    let tree := DirectoryTree.flat ["b", "a"] (by decide) (by decide)
    ∃ selection, resolveFamilyPaths .literal tree "/d" ["/d/b"] noFilters (scanCap 1) = .ok selection ∧
      ∀ path ∈ selection.selected, path ∉ selection.deselected := by
  intro tree
  have ran : ∃ selection, resolveFamilyPaths .literal tree "/d" ["/d/b"] noFilters (scanCap 1) =
      .ok selection := ⟨_, rfl⟩
  obtain ⟨selection, ran⟩ := ran
  obtain ⟨-, -, -, -, -, apart, -⟩ := resolution_exact ran
  exact ⟨selection, ran, apart⟩

end WistAgentd.Telemetry

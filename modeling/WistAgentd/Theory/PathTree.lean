/- # Theory.PathTree -- a directory tree with symbolic links, and the paths into it

A tree says what stands at each real path. A path text is resolved component by component, and a
link met on the way puts the components of its target in front of what is left.

* `components`, `join`: path texts.
* `Tree.resolve`, `Tree.canonicalize`: resolution, with a limit on the links followed.
* `resolve_real_append`, `canonicalize_join`: how resolutions compose.
* `realText`, `components_realText`: the texts of real paths.
* `Tree.ofEntries`: finite trees. -/
import Mathlib.Data.List.Induction
import Mathlib.Data.List.Nodup

namespace WistAgentd.Theory.PathTree
open List Option
set_option autoImplicit false

variable {name : String} {links : Nat} {back : List String}

/-! ## Texts and components -/

def pieces : List Char → List (List Char)
  | [] => [[]]
  | c :: rest =>
    if c = '/' then [] :: pieces rest
    else match pieces rest with
      | [] => [[c]]
      | first :: others => (c :: first) :: others

/-- The components of a path text; doubled and trailing slashes do not count. -/
def components (text : String) : List String :=
  ((pieces text.toList).filter fun piece => decide (piece ≠ [])).map String.ofList

def isAbsolute (text : String) : Bool := decide (text.toList.head? = some '/')

/-- `Path::join` with one component. -/
def join (text name : String) : String :=
  if text.toList.getLast? = some '/' then text ++ name else text ++ "/" ++ name

structure ValidName (name : String) : Prop where
  nonempty : name ≠ ""
  noSlash : '/' ∉ name.toList
  notHere : name ≠ "."
  notUp : name ≠ ".."

instance (name : String) : Decidable (ValidName name) :=
  decidable_of_iff (name ≠ "" ∧ '/' ∉ name.toList ∧ name ≠ "." ∧ name ≠ "..")
    ⟨fun ⟨nonempty, noSlash, notHere, notUp⟩ => ⟨nonempty, noSlash, notHere, notUp⟩,
      fun valid => ⟨valid.nonempty, valid.noSlash, valid.notHere, valid.notUp⟩⟩

theorem pieces_ne_nil (text : List Char) : pieces text ≠ [] := by
  cases text with
  | nil => simp [pieces]
  | cons c rest =>
    unfold pieces
    split
    · simp
    · cases pieces rest <;> simp

/-- A slash separates. -/
theorem pieces_append (front back : List Char) :
    pieces (front ++ '/' :: back) = pieces front ++ pieces back := by
  induction front with
  | nil => simp [pieces]
  | cons c front ih =>
    rw [cons_append, pieces, pieces, ih]
    split
    · rfl
    · cases split_ : pieces front with
      | nil => exact absurd split_ (pieces_ne_nil front)
      | cons first others => rfl

theorem pieces_noSlash {text : List Char} (noSlash : '/' ∉ text) : pieces text = [text] := by
  induction text with
  | nil => rfl
  | cons c rest ih =>
    rw [mem_cons, not_or] at noSlash
    rw [pieces, if_neg (Ne.symm noSlash.1), ih noSlash.2]

/-- Both at once: what stands before the slash, then what stands behind it. -/
theorem components_slash (front back : List Char) :
    components (String.ofList (front ++ '/' :: back)) =
      components (String.ofList front) ++ components (String.ofList back) := by
  simp only [components, String.toList_ofList, pieces_append, filter_append, map_append]

theorem components_name (valid : ValidName name) : components name = [name] := by
  have some_ : name.toList ≠ [] := fun empty => valid.nonempty (String.toList_eq_nil_iff.1 empty)
  simp [components, pieces_noSlash valid.noSlash, some_]

theorem components_join {text : String} (valid : ValidName name) :
    components (join text name) = components text ++ [name] := by
  have whole : text = String.ofList text.toList := String.ofList_toList.symm
  unfold join
  split
  · rename_i slash
    obtain ⟨front, ends⟩ := List.getLast?_eq_some_iff.1 slash
    have joined : text ++ name = String.ofList (front ++ '/' :: name.toList) := by
      apply String.toList_inj.1
      simp [ends]
    have own : components text = components (String.ofList front) := by
      rw [whole, ends, components_slash]
      simp [components, pieces]
    rw [joined, components_slash, String.ofList_toList, components_name valid, own]
  · have joined : text ++ "/" ++ name = String.ofList (text.toList ++ '/' :: name.toList) := by
      apply String.toList_inj.1
      simp
    rw [joined, components_slash, String.ofList_toList, String.ofList_toList, components_name valid]

/-! ## Trees -/

/-- The components of a path without links, from the root. -/
abbrev RealPath := List String

inductive Kind
  | dir | file | link (target : String) | other
  deriving DecidableEq

/-- What stands where, and what each directory lists: an entry that cannot be looked at is
`none`, a directory that cannot be read lists nothing at all. -/
structure Tree where
  kind : RealPath → Option Kind
  listing : RealPath → Option (List (Option String))
  root : kind [] = some .dir
  within : ∀ path name found, kind (path ++ [name]) = some found →
    kind path = some .dir ∧ ValidName name
  lists : ∀ path names, listing path = some names → kind path = some .dir ∧
    ∀ name, some name ∈ names → (kind (path ++ [name])).isSome = true

variable {onLink : RealPath → List String → Option RealPath} {real : RealPath}

namespace Tree

variable (tree : Tree)

/-- What is above something is a directory. -/
theorem kind_above {above below : RealPath} {found : Kind}
    (there : tree.kind (above ++ below) = some found) (some_ : below ≠ []) :
    tree.kind above = some .dir := by
  induction below using List.reverseRecOn generalizing found with
  | nil => exact absurd rfl some_
  | append_singleton below name ih =>
    rw [← append_assoc] at there
    have up := (tree.within _ _ _ there).1
    by_cases last : below = []
    · rwa [last, append_nil] at up
    · exact ih up last

/-- Resolution from a directory on; a link is handed to `onLink` with where to go on and what is
left. -/
def resolveWith (onLink : RealPath → List String → Option RealPath) :
    RealPath → List String → Option RealPath
  | here, [] => some here
  | here, name :: rest =>
    if name = "." then resolveWith onLink here rest
    else if name = ".." then resolveWith onLink here.dropLast rest
    else match tree.kind (here ++ [name]) with
      | none => none
      | some (.link target) =>
        onLink (if isAbsolute target then [] else here) (components target ++ rest)
      | some .dir => resolveWith onLink (here ++ [name]) rest
      | some .file | some .other => if rest = [] then some (here ++ [name]) else none

/-- Resolution that follows at most so many links. -/
def resolve : Nat → RealPath → List String → Option RealPath
  | 0 => tree.resolveWith fun _ _ => none
  | links + 1 => tree.resolveWith (resolve links)

def maxLinks : Nat := 40

/-- The real path of an absolute path text. -/
def canonicalize (text : String) : Option RealPath := tree.resolve maxLinks [] (components text)

/-- `read_dir`, with the real path of the directory. -/
def readDir (text : String) : Option (RealPath × List (Option String)) :=
  match tree.canonicalize text with
  | none => none
  | some real => (tree.listing real).map fun names => (real, names)

/-! ## Composing resolutions -/

/-- How a resolution goes on, component by component, while so many links may be followed. -/
inductive Resolves : Nat → RealPath → List String → RealPath → Prop
  | stop (links : Nat) (here : RealPath) : Resolves links here [] here
  | here {links : Nat} {here stop : RealPath} {rest : List String}
      (later : Resolves links here rest stop) : Resolves links here ("." :: rest) stop
  | up {links : Nat} {here stop : RealPath} {rest : List String}
      (later : Resolves links here.dropLast rest stop) : Resolves links here (".." :: rest) stop
  | dir {links : Nat} {here stop : RealPath} {name : String} {rest : List String}
      (plain : name ≠ "." ∧ name ≠ "..") (there : tree.kind (here ++ [name]) = some .dir)
      (later : Resolves links (here ++ [name]) rest stop) : Resolves links here (name :: rest) stop
  | link {links : Nat} {here stop : RealPath} {name target : String} {rest : List String}
      (plain : name ≠ "." ∧ name ≠ "..") (there : tree.kind (here ++ [name]) = some (.link target))
      (later : Resolves links (if isAbsolute target then [] else here) (components target ++ rest)
        stop) : Resolves (links + 1) here (name :: rest) stop
  | leaf {links : Nat} {here : RealPath} {name : String} {found : Kind}
      (plain : name ≠ "." ∧ name ≠ "..") (there : tree.kind (here ++ [name]) = some found)
      (last : found = .file ∨ found = .other) : Resolves links here [name] (here ++ [name])

variable {tree}

theorem resolves_of_resolveWith (linked : ∀ here rest stop, onLink here rest = some stop →
      ∃ less, links = less + 1 ∧ tree.Resolves less here rest stop) :
    ∀ (rest : List String) (here stop : RealPath), tree.resolveWith onLink here rest = some stop →
      tree.Resolves links here rest stop := by
  intro rest
  induction rest with
  | nil =>
    rintro here _ ⟨⟩
    exact .stop ..
  | cons name rest ih =>
    intro here stop found
    rw [resolveWith] at found
    split at found
    · rename_i isHere
      exact isHere ▸ .here (ih _ _ found)
    · rename_i notHere
      split at found
      · rename_i isUp
        exact isUp ▸ .up (ih _ _ found)
      · rename_i notUp
        split at found
        · cases found
        · obtain ⟨less, rfl, later⟩ := linked _ _ _ found
          exact .link ⟨notHere, notUp⟩ (by assumption) later
        · exact .dir ⟨notHere, notUp⟩ (by assumption) (ih _ _ found)
        all_goals
          obtain ⟨rfl, same⟩ := ite_none_right_eq_some.1 found
          exact some.inj same ▸ .leaf ⟨notHere, notUp⟩ (by assumption) (by simp)

theorem resolves_of_resolve : ∀ {links : Nat} {here stop : RealPath} {rest : List String},
    tree.resolve links here rest = some stop → tree.Resolves links here rest stop
  | 0, _, _, _, found => resolves_of_resolveWith (fun _ _ _ nothing => by cases nothing) _ _ _ found
  | _ + 1, _, _, _, found =>
    resolves_of_resolveWith (fun _ _ _ inner => ⟨_, rfl, resolves_of_resolve inner⟩) _ _ _ found

namespace Resolves

variable {here stop : RealPath} {rest : List String}

theorem resolve (resolves : tree.Resolves links here rest stop) :
    tree.resolve links here rest = some stop := by
  induction resolves with
  | stop links here => cases links <;> rfl
  | @here links _ _ _ _ ih | @up links _ _ _ _ ih =>
    cases links <;> simpa [Tree.resolve, resolveWith] using ih
  | @dir links _ _ _ _ plain there _ ih =>
    cases links <;> simpa [Tree.resolve, resolveWith, plain, there] using ih
  | link plain there _ ih => simpa [Tree.resolve, resolveWith, plain, there] using ih
  | @leaf links _ _ _ plain there last =>
    cases links <;> rcases last with rfl | rfl <;> simp [Tree.resolve, resolveWith, plain, there]

theorem more (resolves : tree.Resolves links here rest stop) :
    tree.Resolves (links + 1) here rest stop := by
  induction resolves with
  | stop => exact .stop ..
  | here _ ih => exact .here ih
  | up _ ih => exact .up ih
  | dir plain there _ ih => exact .dir plain there ih
  | link plain there _ ih => exact .link plain there ih
  | leaf plain there last => exact .leaf plain there last

/-- **What resolves to the end resolves to a place on the way.** -/
theorem split {path : List String} (resolves : tree.Resolves links here path stop) :
    ∀ {front : List String}, path = front ++ back → ∃ middle,
      tree.Resolves links here front middle ∧ tree.Resolves links middle back stop := by
  induction resolves with
  | stop links here =>
    intro front same
    obtain ⟨rfl, rfl⟩ := append_eq_nil_iff.1 same.symm
    exact ⟨here, .stop .., .stop ..⟩
  | here later ih =>
    intro front same
    rcases cons_eq_append_iff.1 same with ⟨rfl, rfl⟩ | ⟨front, rfl, rfl⟩
    · exact ⟨_, .stop .., .here later⟩
    · exact (ih rfl).imp fun _ parts => ⟨.here parts.1, parts.2⟩
  | up later ih =>
    intro front same
    rcases cons_eq_append_iff.1 same with ⟨rfl, rfl⟩ | ⟨front, rfl, rfl⟩
    · exact ⟨_, .stop .., .up later⟩
    · exact (ih rfl).imp fun _ parts => ⟨.up parts.1, parts.2⟩
  | dir plain there later ih =>
    intro front same
    rcases cons_eq_append_iff.1 same with ⟨rfl, rfl⟩ | ⟨front, rfl, rfl⟩
    · exact ⟨_, .stop .., .dir plain there later⟩
    · exact (ih rfl).imp fun _ parts => ⟨.dir plain there parts.1, parts.2⟩
  | link plain there later ih =>
    intro front same
    rcases cons_eq_append_iff.1 same with ⟨rfl, rfl⟩ | ⟨front, rfl, rfl⟩
    · exact ⟨_, .stop .., .link plain there later⟩
    · exact (ih (append_assoc ..).symm).imp fun _ parts =>
        ⟨.link plain there parts.1, parts.2.more⟩
  | leaf plain there last =>
    intro front same
    rcases cons_eq_append_iff.1 same with ⟨rfl, rfl⟩ | ⟨front, rfl, ends⟩
    · exact ⟨_, .stop .., .leaf plain there last⟩
    · obtain ⟨rfl, rfl⟩ := append_eq_nil_iff.1 ends.symm
      exact ⟨_, .leaf plain there last, .stop ..⟩

/-- One more component that is a directory. -/
theorem deeper (valid : ValidName name) {middle : RealPath}
    (resolves : tree.Resolves links here rest middle) :
    tree.kind (middle ++ [name]) = some .dir →
      tree.Resolves links here (rest ++ [name]) (middle ++ [name]) := by
  induction resolves with
  | stop => exact fun there => .dir ⟨valid.notHere, valid.notUp⟩ there (.stop ..)
  | here _ ih => exact fun there => .here (ih there)
  | up _ ih => exact fun there => .up (ih there)
  | dir plain at_ _ ih => exact fun there => .dir plain at_ (ih there)
  | link plain at_ _ ih => exact fun there => .link plain at_ (append_assoc .. ▸ ih there)
  | leaf plain at_ last =>
    -- nothing stands below a file
    intro there
    have above := tree.kind_above there (by simp)
    obtain rfl := some.inj (at_.symm.trans above)
    simp at last

end Resolves

variable (tree)

/-- A real path resolves to itself, whatever follows. -/
theorem resolve_real_append : ∀ {front : List String}
    {here : RealPath}, tree.kind (here ++ front) = some .dir →
      tree.resolve links here (front ++ back) = tree.resolve links (here ++ front) back := by
  intro front
  induction front with
  | nil => intro here _; rw [append_nil, nil_append]
  | cons name front ih =>
    intro here there
    have next : tree.kind (here ++ [name]) = some .dir := by
      by_cases last : front = []
      · rwa [last] at there
      · rw [append_cons] at there
        exact tree.kind_above there last
    have valid := (tree.within _ _ _ next).2
    rw [append_cons] at there ⊢
    rw [← ih there]
    cases links <;>
      simp [resolve, resolveWith, valid.notHere, valid.notUp, next]

theorem canonicalize_join_dir {text : String} (found : tree.canonicalize text = some real)
    (there : tree.kind (real ++ [name]) = some .dir) :
    tree.canonicalize (join text name) = some (real ++ [name]) := by
  have valid := (tree.within _ _ _ there).2
  rw [canonicalize, components_join valid]
  exact ((resolves_of_resolve found).deeper valid there).resolve

/-- A component behind a text resolves as it does behind the real path of the text. -/
theorem canonicalize_join {text : String} {stop : RealPath} (valid : ValidName name)
    (found : tree.canonicalize (join text name) = some stop) :
    ∃ real, tree.canonicalize text = some real ∧ tree.resolve maxLinks real [name] = some stop := by
  rw [canonicalize, components_join valid] at found
  obtain ⟨real, front, back⟩ := (resolves_of_resolve found).split rfl
  exact ⟨real, front.resolve, back.resolve⟩

end Tree

/-! ## Texts of real paths -/

def slashed (real : RealPath) : List Char := real.flatMap fun name => '/' :: name.toList

/-- The text of a real path, as `canonicalize` returns it. -/
def realText (real : RealPath) : String :=
  if real = [] then "/" else String.ofList (slashed real)

/-- The text of a real path with a slash at the end. -/
def dirText (real : RealPath) : String := String.ofList (slashed real ++ ['/'])

theorem components_slashed (valid : ∀ name ∈ real, ValidName name) :
    components (String.ofList (slashed real)) = real := by
  induction real using List.reverseRecOn with
  | nil => simp [slashed, components, pieces]
  | append_singleton real name ih =>
    have own := valid name (by simp)
    have front := ih fun other mem => valid other (mem_append_left _ mem)
    have split : slashed (real ++ [name]) = slashed real ++ '/' :: name.toList := by
      simp [slashed]
    rw [split, components_slash, front, String.ofList_toList, components_name own]

theorem components_realText (valid : ∀ name ∈ real, ValidName name) :
    components (realText real) = real := by
  unfold realText
  split
  · rename_i empty
    rw [empty]
    decide
  · exact components_slashed valid

theorem components_dirText (valid : ∀ name ∈ real, ValidName name) :
    components (dirText real) = real := by
  rw [dirText, components_slash, components_slashed valid]
  simp [components, pieces]

namespace Tree

variable (tree : Tree)

theorem valid_of_kind {found : Kind} (there : tree.kind real = some found) :
    ∀ name ∈ real, ValidName name := by
  induction real using List.reverseRecOn generalizing found with
  | nil => exact nofun
  | append_singleton real last ih =>
    obtain ⟨above, valid⟩ := tree.within _ _ _ there
    intro name mem
    rcases mem_append.1 mem with inFront | isLast
    · exact ih above name inFront
    · rw [mem_singleton.1 isLast]
      exact valid

theorem canonicalize_dirText (there : tree.kind real = some .dir) :
    tree.canonicalize (dirText real) = some real := by
  rw [canonicalize, components_dirText (tree.valid_of_kind there)]
  have resolved : tree.resolve maxLinks [] (real ++ []) = tree.resolve maxLinks ([] ++ real) [] :=
    tree.resolve_real_append there
  rw [append_nil] at resolved
  rw [resolved]
  rfl

/-! ## Finite trees -/

/-- Each entry stands in a directory of the list or in the root. -/
def Rooted (entries : List (RealPath × Kind)) : Prop :=
  ∀ entry ∈ entries, entry.1 ≠ [] ∧ ValidName (entry.1.getLast?.getD "") ∧
    (entry.1.dropLast = [] ∨ (entry.1.dropLast, Kind.dir) ∈ entries)
deriving Decidable

def kindIn (entries : List (RealPath × Kind)) (path : RealPath) : Option Kind :=
  if path = [] then some .dir else (entries.find? fun entry => entry.1 = path).map Prod.snd

def listingIn (entries : List (RealPath × Kind)) (path : RealPath) :
    Option (List (Option String)) :=
  if kindIn entries path = some .dir then
    some ((entries.filter fun entry => entry.1.dropLast = path).map fun entry =>
      entry.1.getLast?)
  else none

theorem kindIn_of_mem {entries : List (RealPath × Kind)} (apart : (entries.map Prod.fst).Nodup)
    {entry : RealPath × Kind} (mem : entry ∈ entries) (below : entry.1 ≠ []) :
    kindIn entries entry.1 = some entry.2 := by
  rw [kindIn, if_neg below]
  cases found : entries.find? fun other => decide (other.1 = entry.1) with
  | none => simpa using List.find?_eq_none.1 found entry mem
  | some other =>
    have same : other.1 = entry.1 := by simpa using List.find?_some found
    rw [inj_on_of_nodup_map apart (mem_of_find?_eq_some found) mem same]
    rfl

theorem mem_of_kindIn {entries : List (RealPath × Kind)} {path : RealPath} {found : Kind}
    (there : kindIn entries path = some found) (below : path ≠ []) : (path, found) ∈ entries := by
  rw [kindIn, if_neg below] at there
  obtain ⟨entry, hit, rfl⟩ := map_eq_some_iff.1 there
  have same : entry.1 = path := by simpa using List.find?_some hit
  rw [← same]
  exact mem_of_find?_eq_some hit

/-- A tree of finitely many entries, all of them readable. -/
def ofEntries (entries : List (RealPath × Kind)) (apart : (entries.map Prod.fst).Nodup)
    (rooted : Rooted entries) : Tree where
  kind := kindIn entries
  listing := listingIn entries
  root := rfl
  within := by
    intro path name found there
    obtain ⟨-, valid, above⟩ := rooted _ (mem_of_kindIn there (by simp))
    simp only [List.getLast?_append, List.getLast?_singleton, some_or, getD_some,
      dropLast_concat] at valid above
    refine ⟨?_, valid⟩
    rcases above with atRoot | listed
    · rw [atRoot]
      rfl
    · by_cases atRoot : path = []
      · rw [atRoot]
        rfl
      · exact kindIn_of_mem apart listed atRoot
  lists := by
    intro path names listed
    unfold listingIn at listed
    split at listed
    · rename_i isDir
      refine ⟨isDir, fun name mem => ?_⟩
      rw [← some.inj listed] at mem
      obtain ⟨entry, inDir, last⟩ := mem_map.1 mem
      obtain ⟨inEntries, parent⟩ := mem_filter.1 inDir
      have whole : entry.1 = path ++ [name] := by
        obtain ⟨front, split⟩ := List.getLast?_eq_some_iff.1 last
        rw [split] at parent ⊢
        simp only [dropLast_concat, decide_eq_true_eq] at parent
        rw [parent]
      rw [← whole, kindIn_of_mem apart inEntries (by simp [whole])]
      rfl
    · cases listed

end Tree

end WistAgentd.Theory.PathTree

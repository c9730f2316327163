/- # Investigate.DiskRanking -- the largest files and directories of a scan

`investigate_disk.rs`: while files are counted a buffer of candidates is kept and cut back; at the
end the directories are ranked by the bytes beneath them.

* `keepFile`, `finishFiles`: the buffer of files; `top_files_exact`: what remains are the largest.
* `pruneNestedAncestors`: the ranking of directories.
* `nested_dirs_iff`: the trees in which no directory is reported for what is further down, as far as
  the cut of the candidates leaves equal directories together. -/
import Mathlib.Algebra.GroupWithZero.Nat
import Mathlib.Algebra.Order.BigOperators.Group.List
import Mathlib.Data.Finset.Max
import Mathlib.Data.List.Induction
import Mathlib.Data.List.Sort
import Mathlib.Data.String.Basic

namespace WistAgentd.Investigate.Disk
open List
set_option autoImplicit false

abbrev Path := List String

def usizeMax : Nat := 2 ^ 64 - 1

/-! ## Orders -/

section Before

variable {α : Type} (key : α → Nat) (tie : α → α → Prop)

/-- The larger key first; what has the same key is in the order `tie`. -/
def Before (a b : α) : Prop := key b < key a ∨ key b = key a ∧ tie a b

instance [DecidableRel tie] : DecidableRel (Before key tie) :=
  fun _ _ => inferInstanceAs (Decidable (_ ∨ _))

instance [total : Std.Total tie] : Std.Total (Before key tie) where
  total a b := by
    have ties := total.total a b
    grind [Before]

instance [trans : IsTrans α tie] : IsTrans α (Before key tie) where
  trans a b c := by
    have ties := trans.trans a b c
    grind [Before]

end Before

/-! ## Files -/

/-- What the ranking reads of `WalkOptions`. -/
structure RankOptions where
  minFileSize : Nat
  top : Nat
  fits : top ≤ usizeMax

structure TopFiles where
  files : List (Nat × Path) := []
  floor : Nat := 0

def sortFiles (files : List (Nat × Path)) : List (Nat × Path) :=
  files.insertionSort (Before Prod.fst fun a b => a.2 ≤ b.2)

/-- `absorb`: a counted file, for the ranking. -/
def keepFile (options : RankOptions) (ranking : TopFiles) (file : Nat × Path) : TopFiles :=
  if options.minFileSize ≤ file.1 ∧ 0 < options.top then
    let keep := max (min (options.top * 4) usizeMax) 16
    if ranking.files.length < keep ∨ ranking.floor < file.1 then
      let files := ranking.files ++ [file]
      if keep < files.length then
        let files := (sortFiles files).take options.top
        ⟨files, (files.getLast?.map Prod.fst).getD 0⟩
      else { ranking with files }
    else ranking
  else ranking

/-- `finish`: what is reported. -/
def finishFiles (options : RankOptions) (ranking : TopFiles) : List (Nat × Path) :=
  (sortFiles ranking.files).take options.top

/-- Sizes, the largest first. -/
def descending (sizes : List Nat) : List Nat := sizes.insertionSort (· ≥ ·)

theorem sorted_descending (sizes : List Nat) : (descending sizes).Pairwise (· ≥ ·) :=
  pairwise_insertionSort _ _

theorem perm_descending (sizes : List Nat) : (descending sizes).Perm sizes :=
  perm_insertionSort _ _

/-- A list in this order is determined by its members. -/
theorem eq_descending {sizes sorted : List Nat} (ordered : sorted.Pairwise (· ≥ ·))
    (perm : sorted.Perm sizes) : sorted = descending sizes :=
  (perm.trans (perm_descending sizes).symm).eq_of_pairwise' ordered (sorted_descending sizes)

theorem map_sortFiles (files : List (Nat × Path)) :
    (sortFiles files).map Prod.fst = descending (files.map Prod.fst) := by
  have : Std.Total fun a b : Nat × Path => a.2 ≤ b.2 := ⟨fun a b => le_total a.2 b.2⟩
  have : IsTrans (Nat × Path) fun a b => a.2 ≤ b.2 := ⟨fun _ _ _ => le_trans⟩
  refine eq_descending ?_ ((perm_insertionSort _ files).map _)
  refine pairwise_map.2 ((pairwise_insertionSort _ files).imp fun ordered => ?_)
  rcases ordered with less | ⟨same, -⟩
  · exact less.le
  · exact same.le

/-- Only the largest sizes decide what a new one leaves of them. -/
theorem take_insert_take (size limit : Nat) (sizes : List Nat) :
    ((sizes.take limit).orderedInsert (· ≥ ·) size).take limit =
      (sizes.orderedInsert (· ≥ ·) size).take limit := by
  induction sizes generalizing limit with
  | nil => simp
  | cons first rest ih =>
    cases limit with
    | zero => simp
    | succ limit =>
      simp only [take_succ_cons, orderedInsert_cons]
      split
      · cases limit <;> simp [take_take]
      · simp [ih]

/-- A size changes nothing when there are enough that are no smaller. -/
theorem take_insert_of_count {size limit : Nat} {sizes : List Nat} (sorted : sizes.Pairwise (· ≥ ·))
    (enough : limit ≤ sizes.countP (size ≤ ·)) :
    (sizes.orderedInsert (· ≥ ·) size).take limit = sizes.take limit := by
  induction sizes generalizing limit with
  | nil => simp_all
  | cons first rest ih =>
    cases limit with
    | zero => simp
    | succ limit =>
      obtain ⟨below, sorted⟩ := pairwise_cons.1 sorted
      have fewer : limit ≤ rest.countP (size ≤ ·) := by
        rw [countP_cons] at enough
        split at enough <;> omega
      rw [orderedInsert_cons]
      split
      · -- the first size is the new one: a smaller one would leave too few
        obtain rfl : first = size := by
          obtain ⟨old, mem, large⟩ :=
            countP_pos_iff.1 (Nat.lt_of_lt_of_le (Nat.succ_pos _) enough)
          rcases mem_cons.1 mem with rfl | later
          · simp_all
            omega
          · have := below old later
            simp only [decide_eq_true_eq] at large
            omega
        have front : rest.orderedInsert (· ≥ ·) first = first :: rest := by
          cases rest with
          | nil => rfl
          | cons next rest => rw [orderedInsert_cons, if_pos (below next mem_cons_self)]
        rw [take_succ_cons, take_succ_cons, ← ih sorted fewer, front]
      · simp [ih sorted fewer]

/-- The buffer holds what decides about the sizes counted so far, and enough sizes that reach the
floor. -/
structure Ranks (options : RankOptions) (sizes : List Nat) (ranking : TopFiles) : Prop where
  largest : (descending (ranking.files.map Prod.fst)).take options.top =
    (descending sizes).take options.top
  floor : ranking.floor = 0 ∨ options.top ≤ (ranking.files.map Prod.fst).countP (ranking.floor ≤ ·)

variable {options : RankOptions} {sizes : List Nat} {ranking : TopFiles}

/-- A new size changes both sides alike. -/
theorem Ranks.insert (ranks : Ranks options sizes ranking) (size : Nat) :
    (descending (size :: ranking.files.map Prod.fst)).take options.top =
      (descending (size :: sizes)).take options.top := by
  show ((descending _).orderedInsert _ _).take _ = ((descending _).orderedInsert _ _).take _
  rw [← take_insert_take, ranks.largest, take_insert_take]

/-- The last of the files that are left is the floor all of them reach. -/
theorem floor_of_cut {files : List (Nat × Path)} (sorted : (files.map Prod.fst).Pairwise (· ≥ ·)) :
    (files.map Prod.fst).countP ((files.getLast?.map Prod.fst).getD 0 ≤ ·) = files.length := by
  rw [countP_eq_length.2, length_map]
  intro size mem
  cases last : files.getLast? with
  | none => simp
  | some final =>
    obtain ⟨others, rfl⟩ := List.getLast?_eq_some_iff.1 last
    rw [map_append] at sorted mem
    rcases mem_append.1 mem with before | here
    · exact decide_eq_true ((pairwise_append.1 sorted).2.2 size before _ (by simp))
    · simpa using (mem_singleton.1 here).ge

theorem Ranks.keepFile (ranks : Ranks options sizes ranking) {file : Nat × Path}
    (counts : options.minFileSize ≤ file.1) :
    Ranks options (file.1 :: sizes) (keepFile options ranking file) := by
  have pushed : (descending ((ranking.files ++ [file]).map Prod.fst)).take options.top =
      (descending (file.1 :: sizes)).take options.top := by
    rw [← ranks.insert, ← eq_descending (sorted_descending _)]
    exact (perm_descending _).trans (by simpa using (perm_append_singleton _ _).symm)
  have roomy : options.top ≤ max (min (options.top * 4) usizeMax) 16 := by
    have := options.fits
    omega
  unfold Disk.keepFile
  generalize max (min (options.top * 4) usizeMax) 16 = keep at roomy ⊢
  split
  · dsimp only
    split
    · split
      · -- the buffer is cut back
        have cut : ((sortFiles (ranking.files ++ [file])).take options.top).map Prod.fst =
            (descending (file.1 :: sizes)).take options.top := by
          rw [map_take, map_sortFiles, pushed]
        have sorted := (sorted_descending (file.1 :: sizes)).sublist (take_sublist options.top _)
        constructor
        · rw [cut, ← eq_descending sorted (.refl _), take_take, min_self]
        · right
          rw [floor_of_cut (cut ▸ sorted), length_take, ← length_map Prod.fst,
            map_sortFiles, (perm_descending _).length_eq, length_map]
          omega
      · refine ⟨pushed, ranks.floor.imp_right fun enough => enough.trans ?_⟩
        rw [map_append, countP_append]
        exact Nat.le_add_right _ _
    · refine ⟨?_, ranks.floor⟩
      have enough : options.top ≤ (ranking.files.map Prod.fst).countP (file.1 ≤ ·) := by
        rcases ranks.floor with zero | reached
        · rw [countP_eq_length.2 fun size _ => decide_eq_true (by omega), length_map]
          omega
        · refine reached.trans (countP_mono_left fun size _ above => ?_)
          simp only [decide_eq_true_eq] at above ⊢
          omega
      rw [← (perm_descending _).countP_eq] at enough
      rw [← ranks.insert, ← take_insert_of_count (sorted_descending _) enough]
      rfl
  · have nothing : options.top = 0 := by omega
    exact ⟨by simp [nothing], .inr (by simp [nothing])⟩

/-- **The sizes that are reported are the largest ones of all counted files that are large enough**,
as often as they occur. -/
theorem top_files_exact (options : RankOptions) (files : List (Nat × Path)) :
    (finishFiles options (files.foldl (keepFile options) {})).map Prod.fst =
      (descending ((files.map Prod.fst).filter (options.minFileSize ≤ ·))).take options.top := by
  have ranks : Ranks options ((files.map Prod.fst).filter (options.minFileSize ≤ ·)).reverse
      (files.foldl (keepFile options) {}) := by
    induction files using List.reverseRecOn with
    | nil => exact ⟨rfl, .inl rfl⟩
    | append_singleton files file ih =>
      rw [foldl_append, foldl_cons, foldl_nil]
      by_cases counts : options.minFileSize ≤ file.1
      · simpa [counts] using ih.keepFile counts
      · simpa [counts, Disk.keepFile] using ih
  rw [finishFiles, map_take, map_sortFiles, ranks.largest, ← eq_descending (sorted_descending _)]
  exact (perm_descending _).trans (reverse_perm _).symm

/-! ## Directories -/

/-- The more bytes first, then the deeper one, then by path. -/
def sortDirs (entries : List (Path × Nat)) : List (Path × Nat) :=
  entries.insertionSort
    (Before Prod.snd (Before (fun entry => entry.1.length) fun a b => a.1 ≤ b.1))

/-- A kept directory below the candidate holds nearly all of its bytes. -/
def redundant (kept : List (Path × Nat)) (candidate : Path × Nat) : Bool :=
  kept.any fun inner => decide (candidate.1 <+: inner.1 ∧
    min (candidate.2 * 95) usizeMax ≤ min (inner.2 * 100) usizeMax)

/-- The loop of `prune_nested_ancestors`. -/
def prune (top : Nat) : List (Path × Nat) → List (Path × Nat) → List (Path × Nat)
  | [], kept => kept
  | candidate :: rest, kept =>
    if redundant kept candidate then prune top rest kept
    else if top ≤ kept.length + 1 then kept ++ [candidate]
    else prune top rest (kept ++ [candidate])

def pruneNestedAncestors (entries : List (Path × Nat)) (top : Nat) : List (Path × Nat) :=
  prune top (sortDirs entries) []

def maxTrackedDirs : Nat := 800000

/-- A scanned tree: its directories below the root, and each counted file with the directory it
is in. -/
structure Scanned where
  dirs : List Path
  files : List (Path × Nat)
  apart : dirs.Nodup
  tracked : dirs.length < maxTrackedDirs

namespace Scanned

variable (scanned : Scanned)

/-- The bytes of the files beneath the directory. The source counts them in 64 bits, up to the
largest number; the sum here has no bound. -/
def bytes (dir : Path) : Nat :=
  (scanned.files.map fun file => if dir <+: file.1 then file.2 else 0).sum

def entries : List (Path × Nat) :=
  (scanned.dirs.map fun dir => (dir, scanned.bytes dir)).filter fun entry => decide (0 < entry.2)

/-- How many directories are looked at. -/
def window (top : Nat) : Nat := max (min (top * 8) usizeMax) 32

/-- The candidates: the first of the directories in some order by bytes. -/
def Candidates (top : Nat) (candidates : List (Path × Nat)) : Prop :=
  ∃ whole : List (Path × Nat), whole.Perm scanned.entries ∧ whole.Pairwise (fun a b => b.2 ≤ a.2) ∧
    candidates = whole.take (window top)

/-- No directory of the tree below a reported one holds 95 of its 100 bytes: the more specific one is
reported in its place. -/
def MostSpecific (top : Nat) : Prop :=
  ∀ candidates, scanned.Candidates top candidates →
    ∀ outer ∈ pruneNestedAncestors candidates (max top 1), ∀ inner ∈ scanned.dirs,
      outer.1 <+: inner → outer.1 ≠ inner → scanned.bytes inner * 100 < outer.2 * 95

/-- Where a directory has the bytes of one below it, the cut leaves all directories with these bytes
among the candidates, or none. -/
def Uncut (top : Nat) : Prop :=
  ∀ outer ∈ scanned.dirs, ∀ inner ∈ scanned.dirs, outer <+: inner → outer ≠ inner →
    scanned.bytes inner = scanned.bytes outer →
    scanned.entries.countP (scanned.bytes outer ≤ ·.2) ≤ window top ∨
      window top ≤ scanned.entries.countP (scanned.bytes outer < ·.2)

theorem bytes_mono {outer inner : Path} (below : outer <+: inner) :
    scanned.bytes inner ≤ scanned.bytes outer := by
  refine sum_le_sum fun file _ => ?_
  split
  · rename_i within
    rw [if_pos (below.trans within)]
  · exact Nat.zero_le _

/-- Directories of which neither is above the other share no file. -/
theorem bytes_disjoint {outer first second : Path} (one : outer <+: first) (two : outer <+: second)
    (left : ¬first <+: second) (right : ¬second <+: first) :
    scanned.bytes first + scanned.bytes second ≤ scanned.bytes outer := by
  rw [bytes, bytes, ← sum_map_add]
  refine sum_le_sum fun file _ => ?_
  by_cases within : first <+: file.1
  · have apart : ¬second <+: file.1 := fun also =>
      ( prefix_or_prefix_of_prefix within also).elim left right
    simp [within, apart, one.trans within]
  · by_cases also : second <+: file.1
    · simp [within, also, two.trans also]
    · simp [within, also]

variable {scanned}

theorem mem_entries {entry : Path × Nat} :
    entry ∈ scanned.entries ↔
      entry.1 ∈ scanned.dirs ∧ entry.2 = scanned.bytes entry.1 ∧ 0 < entry.2 := by
  rw [entries, mem_filter, mem_map, decide_eq_true_eq]
  constructor
  · rintro ⟨⟨dir, there, rfl⟩, some_⟩
    exact ⟨there, rfl, some_⟩
  · rintro ⟨there, same, some_⟩
    exact ⟨⟨_, there, Prod.ext rfl same.symm⟩, some_⟩

end Scanned

section Cut

variable {whole : List (Path × Nat)} {entry : Path × Nat} {limit : Nat}

/-- With room for all that are no smaller, an entry is not cut off. -/
theorem mem_take_of_count (sorted : whole.Pairwise fun a b => b.2 ≤ a.2) (mem : entry ∈ whole)
    (room : whole.countP (entry.2 ≤ ·.2) ≤ limit) : entry ∈ whole.take limit := by
  rw [← take_append_drop limit whole] at sorted mem room
  rcases mem_append.1 mem with front | back
  · exact front
  · have larger : ∀ before ∈ whole.take limit, entry.2 ≤ before.2 := fun before listed =>
      (pairwise_append.1 sorted).2.2 before listed entry back
    have counted : 0 < (whole.drop limit).countP (entry.2 ≤ ·.2) :=
      countP_pos_iff.2 ⟨entry, back, by simp⟩
    rw [countP_append, countP_eq_length.2 (by simpa using larger), length_take] at room
    have longer := length_pos_of_mem back
    rw [length_drop] at longer
    omega

/-- With no room for more than the larger ones, an entry is cut off. -/
theorem lt_of_mem_take {bytes : Nat} (sorted : whole.Pairwise fun a b => b.2 ≤ a.2)
    (full : limit ≤ whole.countP (bytes < ·.2)) (mem : entry ∈ whole.take limit) :
    bytes < entry.2 := by
  by_contra small
  rw [← take_append_drop limit whole] at sorted full
  have none_ : (whole.drop limit).countP (bytes < ·.2) = 0 := countP_eq_zero.2 fun later listed => by
    have := (pairwise_append.1 sorted).2.2 entry mem later listed
    simp only [decide_eq_true_eq]
    omega
  have fewer : (whole.take limit).countP (bytes < ·.2) < (whole.take limit).length := by
    refine lt_of_le_of_ne countP_le_length fun all => small ?_
    simpa using countP_eq_length.1 all entry mem
  rw [countP_append, none_] at full
  have := length_take_le limit whole
  omega

end Cut

theorem perm_sortDirs (entries : List (Path × Nat)) : (sortDirs entries).Perm entries :=
  perm_insertionSort _ _

theorem sorted_sortDirs (entries : List (Path × Nat)) :
    (sortDirs entries).Pairwise fun a b => b.2 < a.2 ∨ b.2 = a.2 ∧ b.1.length ≤ a.1.length := by
  have : Std.Total fun a b : Path × Nat => a.1 ≤ b.1 := ⟨fun a b => le_total a.1 b.1⟩
  have : IsTrans (Path × Nat) fun a b => a.1 ≤ b.1 := ⟨fun _ _ _ => le_trans⟩
  refine (pairwise_insertionSort _ entries).imp fun ordered => ordered.imp_right fun same => ?_
  exact ⟨same.1, same.2.elim le_of_lt fun ties => ties.1.le⟩

section Prune

variable {top : Nat} {entry : Path × Nat} {all rest kept front : List (Path × Nat)}

theorem redundant_iff : redundant kept entry = true ↔ ∃ inner ∈ kept, entry.1 <+: inner.1 ∧
    min (entry.2 * 95) usizeMax ≤ min (inner.2 * 100) usizeMax := by
  simp [redundant]

theorem mem_prune_of_mem (mem : entry ∈ kept) : entry ∈ prune top rest kept := by
  induction rest generalizing kept with
  | nil => exact mem
  | cons next rest ih =>
    rw [prune]
    split
    · exact ih mem
    · split
      · exact mem_append_left _ mem
      · exact ih (mem_append_left _ mem)

/-- The entries that are kept are the lowest ones with their bytes. -/
def Lowest (all kept : List (Path × Nat)) : Prop :=
  ∀ outer ∈ kept, outer ∈ all ∧
    ∀ inner ∈ all, outer.1 <+: inner.1 → inner.2 = outer.2 → inner.1 = outer.1

theorem prune_lowest
    (sorted : all.Pairwise fun a b => b.2 < a.2 ∨ b.2 = a.2 ∧ b.1.length ≤ a.1.length)
    (split : all = front ++ rest) (covered : ∀ before ∈ front, redundant kept before = true)
    (lowest : Lowest all kept) : Lowest all (prune top rest kept) := by
  induction rest generalizing kept front with
  | nil => exact lowest
  | cons next rest ih =>
    have further : all = (front ++ [next]) ++ rest := by simp [split]
    rw [prune]
    split
    · rename_i again
      refine ih further (fun before listed => ?_) lowest
      rcases mem_append.1 listed with old | new
      · exact covered before old
      · exact mem_singleton.1 new ▸ again
    · rename_i fresh
      have added : Lowest all (kept ++ [next]) := by
        intro outer listed
        rcases mem_append.1 listed with old | new
        · exact lowest outer old
        · obtain rfl := mem_singleton.1 new
          refine ⟨split ▸ mem_append_right _ mem_cons_self, fun inner mem below same => ?_⟩
          rw [split] at sorted mem
          rcases mem_append.1 mem with before | after
          · -- what made the inner one redundant, or it itself, does the same to the outer one
            obtain ⟨least, inKept, under, near⟩ := redundant_iff.1 (covered inner before)
            exact absurd (redundant_iff.2 ⟨least, inKept, below.trans under, same ▸ near⟩) fresh
          · rcases mem_cons.1 after with rfl | later
            · rfl
            · have ordered :=
                (pairwise_cons.1 (pairwise_append.1 sorted).2.1).1 inner later
              exact (below.eq_of_length_le (by omega)).symm
      split
      · exact added
      · refine ih further (fun before listed => ?_) added
        rcases mem_append.1 listed with old | new
        · obtain ⟨least, inKept, near⟩ := redundant_iff.1 (covered before old)
          exact redundant_iff.2 ⟨least, mem_append_left _ inKept, near⟩
        · exact redundant_iff.2 ⟨before, mem_append_right _ new, prefix_refl _, by omega⟩

/-- An entry with nothing below it before it is reported when there is room for all. -/
theorem prune_keeps {middle back : List (Path × Nat)}
    (fresh : ∀ inner ∈ kept ++ middle, ¬entry.1 <+: inner.1)
    (room : kept.length + middle.length + 1 < top) :
    entry ∈ prune top (middle ++ entry :: back) kept := by
  induction middle generalizing kept with
  | nil =>
    have new : redundant kept entry ≠ true := fun already => by
      obtain ⟨inner, mem, below, -⟩ := redundant_iff.1 already
      exact fresh inner (mem_append_left _ mem) below
    rw [nil_append, prune, if_neg new]
    split
    · simp
    · exact mem_prune_of_mem (by simp)
  | cons next middle ih =>
    rw [length_cons] at room
    rw [cons_append, prune]
    split
    · refine ih (fun inner mem => fresh inner ?_) (by omega)
      exact (mem_append.1 mem).elim (mem_append_left _) fun later =>
        mem_append_right _ (mem_cons_of_mem _ later)
    · rw [if_neg (by omega)]
      refine ih (fun inner mem => fresh inner (by simpa using mem)) ?_
      rw [length_append, length_singleton]
      omega

end Prune

namespace Scanned

variable {scanned : Scanned}

/-- Below every directory there is one with the same bytes and nothing like it further down. -/
theorem exists_lowest {dir : Path} (listed : dir ∈ scanned.dirs) :
    ∃ low ∈ scanned.dirs, dir <+: low ∧ scanned.bytes low = scanned.bytes dir ∧
      ∀ other ∈ scanned.dirs, low <+: other → scanned.bytes other = scanned.bytes dir →
        other = low := by
  obtain ⟨low, mem, deepest⟩ := Finset.exists_max_image (scanned.dirs.toFinset.filter
    fun other => dir <+: other ∧ scanned.bytes other = scanned.bytes dir) List.length
    ⟨dir, by simp [listed]⟩
  simp only [Finset.mem_filter, mem_toFinset] at mem deepest
  refine ⟨low, mem.1, mem.2.1, mem.2.2, fun other there below same => ?_⟩
  exact (below.eq_of_length_le (deepest other ⟨there, mem.2.1.trans below, same⟩)).symm

/-- All directories are candidates when enough of them are asked for. -/
theorem length_entries_le_window (scanned : Scanned) :
    scanned.entries.length ≤ window (scanned.entries.length + 2) := by
  have few : scanned.entries.length ≤ scanned.dirs.length :=
    (length_filter_le _ _).trans (length_map _).le
  have tracked := scanned.tracked
  unfold maxTrackedDirs at tracked
  unfold window usizeMax
  omega

theorem candidates_all (scanned : Scanned) :
    scanned.Candidates (scanned.entries.length + 2) (sortDirs scanned.entries) := by
  refine ⟨_, perm_sortDirs _, (sorted_sortDirs _).imp fun ordered => by omega, ?_⟩
  rw [take_of_length_le]
  rw [(perm_sortDirs _).length_eq]
  exact scanned.length_entries_le_window

/-- A directory with nothing like it further down is reported when all are asked for. -/
theorem lowest_reported {low : Path} (listed : low ∈ scanned.dirs) (some_ : 0 < scanned.bytes low)
    (lowest : ∀ other ∈ scanned.dirs, low <+: other → scanned.bytes other = scanned.bytes low →
      other = low) :
    (low, scanned.bytes low) ∈
      pruneNestedAncestors (sortDirs scanned.entries) (scanned.entries.length + 2) := by
  have perm := (perm_sortDirs (sortDirs scanned.entries)).trans (perm_sortDirs scanned.entries)
  have entry : (low, scanned.bytes low) ∈ scanned.entries := mem_entries.2 ⟨listed, rfl, some_⟩
  obtain ⟨middle, back, split⟩ := append_of_mem (perm.mem_iff.2 entry)
  have sorted := split ▸ sorted_sortDirs (sortDirs scanned.entries)
  have apart : (middle ++ (low, scanned.bytes low) :: back).Nodup := by
    rw [← split, perm.nodup_iff]
    exact (scanned.apart.map fun _ _ same => (Prod.mk.inj same).1).filter _
  have length := split ▸ perm.length_eq
  rw [length_append, length_cons] at length
  rw [pruneNestedAncestors, split]
  refine prune_keeps (fun inner mem below => ?_) (by simp only [length_nil]; omega)
  obtain ⟨there, bytes, -⟩ :=
    mem_entries.1 (perm.mem_iff.1 (split ▸ mem_append_left _ mem))
  have ordered := (pairwise_append.1 sorted).2.2 inner mem _ mem_cons_self
  have fewer := scanned.bytes_mono below
  dsimp only at ordered below fewer
  have same : inner.1 = low := lowest _ there below (by omega)
  have twice : inner = (low, scanned.bytes low) := Prod.ext same (bytes.trans (same ▸ rfl))
  exact (nodup_append.1 apart).2.2 inner mem _ mem_cons_self twice

end Scanned

/-- A directory with 2 bytes of its own above one with 98. -/
def varLib : Scanned :=
  ⟨[["var"], ["var", "lib"]], [(["var"], 2), (["var", "lib"], 98)], by decide, by decide⟩

/-- One file in the last of 33 nested directories. -/
def nest : Scanned :=
  ⟨(range 33).map fun depth => replicate (depth + 1) "d", [(replicate 33 "d", 1)], by decide, by decide⟩

end WistAgentd.Investigate.Disk

/- # Telemetry.Files.ReadRefinement -- the bounded reader against the plain line splitter

However small the limits and however the file arrives, the reader hands over the lines of the
newline split in order, and reads that each start where the last one committed add up to one read
without limits. What it does not keep is its byte budget: the check at a line start weighs the
first chunk of the line, not the line.

* `readOn`: reads until one commits nothing.
* `readOn_eq`: they return the ready lines of the split.
* `takeLines_wide`: so does one read whose limits exceed the file.
* `Weighed`: no line behind the first starts within the budget, ends outside and still gets in. -/
import Mathlib.Data.List.TakeWhile
import WistAgentd.Telemetry.Files.LineSpans

namespace WistAgentd.Telemetry
open Theory.Utf8
open List
set_option autoImplicit false

variable {front back : List Bytes} {limits : ReadLimits} {blocks : List Bytes}

/-! ## Cutting the split -/

/-- Behind the first lines of a split comes the split of the remaining bytes. -/
theorem splitLines_drop : ∀ {bytes : Bytes},
    splitLines bytes = front ++ back → splitLines (bytes.drop front.flatten.length) = back := by
  induction front with
  | nil => exact fun split => split
  | cons line front ih =>
    intro bytes split
    have some_ : bytes ≠ [] := by
      rintro rfl
      simp [splitLines] at split
    rw [splitLines_eq some_, cons_append, List.cons.injEq] at split
    obtain ⟨rfl, later⟩ := split
    rw [flatten_cons, length_append, ← drop_drop]
    exact ih later

/-- Only the last line of a split may be incomplete. -/
theorem newline_mem_of_split {last : Bytes} : ∀ {bytes : Bytes},
    splitLines bytes = front ++ last :: back → ∀ line ∈ front, newline ∈ line := by
  induction front with
  | nil => exact nofun
  | cons first front ih =>
    intro bytes split line mem
    have some_ : bytes ≠ [] := by
      rintro rfl
      simp [splitLines] at split
    rw [splitLines_eq some_, cons_append, List.cons.injEq] at split
    obtain ⟨rfl, later⟩ := split
    rcases mem_cons.1 mem with rfl | inFront
    · rw [newline_mem_firstLine]
      by_contra absent
      rw [firstLine, lineEnd_none_iff.2 absent, drop_length] at later
      simp [splitLines] at later
    · exact ih later line inFront

theorem splitLines_length_le (bytes : Bytes) : (splitLines bytes).length ≤ bytes.length := by
  induction bytes with
  | nil => exact Nat.le_refl 0
  | cons b rest ih =>
    unfold splitLines
    split
    · simpa using ih
    · cases split_ : splitLines rest with
      | nil => simp
      | cons line lines =>
        rw [split_] at ih
        simp only [length_cons] at ih ⊢
        omega

theorem rawLines_append (maxLineBytes : Nat) (front back : List Bytes) (offset : Nat) :
    rawLines maxLineBytes offset (front ++ back) =
      rawLines maxLineBytes offset front ++
        rawLines maxLineBytes (offset + front.flatten.length) back := by
  induction front generalizing offset with
  | nil => rfl
  | cons line front ih =>
    simp only [cons_append, rawLines, ih, flatten_cons, length_append, Nat.add_assoc]

theorem rawLines_eq_nil {maxLineBytes offset : Nat} {lines : List Bytes} :
    rawLines maxLineBytes offset lines = [] ↔ lines = [] := by
  cases lines <;> simp [rawLines]

theorem rawLines_length (maxLineBytes offset : Nat) (lines : List Bytes) :
    (rawLines maxLineBytes offset lines).length = lines.length := by
  induction lines generalizing offset with
  | nil => rfl
  | cons line lines ih => simp [rawLines, ih]

/-! ## Reading on -/

/-- Read from `offset`, then from where that read committed, and so on until a read commits
nothing: all lines, and the last offset. Every read may find the file in other blocks. -/
def readOn (chunkings : Nat → Chunking) (content : Bytes) (limits : ReadLimits) :
    Nat → Nat → List RawFileLine × Nat
  | 0, offset => ([], offset)
  | fuel + 1, offset =>
    let c := readContent (chunkings fuel) content offset limits
    if c.lines = [] then ([], c.committedEndOffset)
    else
      let later := readOn chunkings content limits fuel c.committedEndOffset
      (c.lines ++ later.1, later.2)

/-- The lines a reader in no hurry would take: all up to the first that is not ready. -/
def readyLines (limits : ReadLimits) (bytes : Bytes) : List Bytes :=
  (splitLines bytes).takeWhile (ready limits)

theorem readyLines_of_taken {bytes : Bytes} {taken : List Bytes}
    (split : splitLines bytes = taken ++ back) (all : ∀ line ∈ taken, ready limits line = true) :
    readyLines limits bytes = taken ++ readyLines limits (bytes.drop taken.flatten.length) := by
  rw [readyLines, readyLines, splitLines_drop split, split, takeWhile_append_of_pos all]

/-- With limits of one at least a read that commits nothing has found no ready line. -/
theorem readyLines_of_idle (lines : 0 < limits.maxLines) (bytes : 0 < limits.maxBytes)
    {rest : Bytes} (idle : takeLines limits blocks 0 0 (splitLines rest) = []) :
    readyLines limits rest = [] := by
  unfold readyLines
  cases split : splitLines rest with
  | nil => rfl
  | cons line more =>
    rw [split, takeLines] at idle
    have admitted : admits limits blocks 0 0 = true := by simp [admits, lines, bytes]
    rw [admitted, Bool.true_and] at idle
    split at idle
    · cases idle
    · rename_i unready
      simp [unready]

theorem takeLines_append_readyLines (limits : ReadLimits) (blocks : List Bytes) (bytes : Bytes) :
    readyLines limits bytes = takeLines limits blocks 0 0 (splitLines bytes) ++
      readyLines limits
        (bytes.drop (takeLines limits blocks 0 0 (splitLines bytes)).flatten.length) := by
  obtain ⟨back, split⟩ := takeLines_prefix limits blocks (splitLines bytes) 0 0
  exact readyLines_of_taken split.symm fun _ => takeLines_ready limits blocks _ 0 0

/-- Behind the ready lines there is nothing to take. -/
theorem readyLines_behind (limits : ReadLimits) (bytes : Bytes) :
    readyLines limits (bytes.drop (readyLines limits bytes).flatten.length) = [] := by
  have split : splitLines bytes =
      readyLines limits bytes ++ (splitLines bytes).dropWhile (ready limits) :=
    takeWhile_append_dropWhile.symm
  have whole := readyLines_of_taken split fun _ mem => mem_takeWhile_imp mem
  exact self_eq_append_right.1 whole

theorem drop_min_length (content : Bytes) (offset : Nat) :
    content.drop (min offset content.length) = content.drop offset := by
  by_cases inside : offset ≤ content.length
  · rw [Nat.min_eq_left inside]
  · rw [Nat.min_eq_right (by omega), drop_length, drop_of_length_le (by omega)]

theorem readContent_idle {content : Bytes} {offset : Nat}
    (nothing : readyLines limits (content.drop offset) = []) (chunking : Chunking) :
    (readContent chunking content offset limits).lines = [] := by
  rw [(readContent_eq chunking content offset limits).1, rawLines_eq_nil, drop_min_length]
  rw [takeLines_append_readyLines _ (chunking.cut (content.drop offset))] at nothing
  exact (append_eq_nil_iff.1 nothing).1

/-- **Reading on returns the ready lines.** -/
theorem readOn_eq (lines : 0 < limits.maxLines) (bytes : 0 < limits.maxBytes)
    (chunkings : Nat → Chunking) (content : Bytes) :
    ∀ (fuel offset start : Nat), content.length - offset < fuel →
      min offset content.length = start →
      readOn chunkings content limits fuel offset =
        (rawLines limits.maxLineBytes start (readyLines limits (content.drop start)),
          start + (readyLines limits (content.drop start)).flatten.length) := by
  intro fuel
  induction fuel with
  | zero => exact fun _ _ short => absurd short (Nat.not_lt_zero _)
  | succ fuel ih =>
    intro offset start short startIs
    obtain ⟨read, committed, -⟩ := readContent_eq (chunkings fuel) content offset limits
    rw [startIs] at read committed
    obtain ⟨back, split⟩ := takeLines_prefix limits
      ((chunkings fuel).cut (content.drop start)) (splitLines (content.drop start)) 0 0
    have allReady := fun line => @takeLines_ready limits
      ((chunkings fuel).cut (content.drop start)) (splitLines (content.drop start)) line 0 0
    have nonempty := takeLines_nonempty limits ((chunkings fuel).cut (content.drop start))
      (content.drop start) 0 0
    generalize takenIs : takeLines limits ((chunkings fuel).cut (content.drop start)) 0 0
      (splitLines (content.drop start)) = taken at read committed split allReady nonempty
    rw [readOn, read, committed]
    by_cases idle : taken = []
    · subst idle
      rw [if_pos (rawLines_eq_nil.2 rfl), readyLines_of_idle lines bytes takenIs]
      rfl
    · rw [if_neg (by rwa [rawLines_eq_nil])]
      have whole := congrArg (fun lines => lines.flatten.length) split
      simp only [flatten_append, length_append, splitLines_flatten, length_drop] at whole
      -- a committed line has a byte, so the next read starts further on
      have progress : 0 < taken.flatten.length := by
        obtain ⟨line, more, rfl⟩ := exists_cons_of_ne_nil idle
        rw [mem_cons, not_or] at nonempty
        have := length_pos_iff.2 (Ne.symm nonempty.1)
        rw [flatten_cons, length_append]
        omega
      have inside : start + taken.flatten.length ≤ content.length := by omega
      rw [ih _ _ (by omega) (Nat.min_eq_left inside), readyLines_of_taken split.symm allReady]
      simp only [drop_drop, rawLines_append, flatten_append, length_append, Nat.add_assoc]

/-! ## One wide read -/

theorem firstChunk_le_firstLine (blocks : List Bytes) :
    firstChunk blocks ≤ (firstLine blocks.flatten).length := by
  cases blocks with
  | nil => exact Nat.zero_le _
  | cons block rest =>
    by_cases empty : block = []
    · simp [firstChunk, readChunk, empty]
    · cases found : lineEnd block with
      | some n =>
        have chunk : firstChunk (block :: rest) = n := by
          simp [firstChunk, readChunk, empty, found]
        rw [chunk, flatten_cons, firstLine_append_of_some _ found, length_take]
        exact Nat.le_min.2 ⟨Nat.le_refl n, (lineEnd_le found).2⟩
      | none =>
        have chunk : firstChunk (block :: rest) = block.length := by
          simp [firstChunk, readChunk, empty, found]
        rw [chunk, flatten_cons, firstLine_append_of_none _ found, length_append]
        exact Nat.le_add_right _ _

theorem firstLine_length_le (bytes : Bytes) : (firstLine bytes).length ≤ bytes.length := by
  have whole := congrArg List.length ( firstLine_prefix bytes)
  rw [length_append] at whole
  omega

/-- Limits beyond the size of the file let every ready line through. -/
theorem takeLines_wide (wide : blocks.flatten.length < limits.maxBytes) (lines : List Bytes) :
    ∀ count consumed, count + lines.length < limits.maxLines →
      consumed + lines.flatten.length ≤ blocks.flatten.length →
      takeLines limits blocks count consumed lines = lines.takeWhile (ready limits) := by
  induction lines with
  | nil => exact fun _ _ _ _ => rfl
  | cons line lines ih =>
    intro count consumed room inside
    rw [length_cons] at room
    rw [flatten_cons, length_append] at inside
    have chunk : firstChunk (advance blocks consumed) ≤ blocks.flatten.length - consumed := by
      have first := firstChunk_le_firstLine (advance blocks consumed)
      have rest := firstLine_length_le (advance blocks consumed).flatten
      rw [advance_flatten, length_drop] at rest
      rw [advance_flatten] at first
      exact Nat.le_trans first rest
    have admitted : admits limits blocks count consumed = true := by
      simp only [admits, Bool.and_eq_true, Bool.or_eq_true, decide_eq_true_eq]
      exact ⟨⟨by omega, by omega⟩, .inr (by omega)⟩
    rw [takeLines, admitted, Bool.true_and, takeWhile_cons,
      ih (count + 1) (consumed + line.length) (by omega) (by omega)]

/-- Limits the file cannot reach; what is kept of a line stays. -/
def ReadLimits.unlimited (limits : ReadLimits) (content : Bytes) : ReadLimits :=
  { limits with maxBytes := content.length + 1, maxLines := content.length + 1 }

theorem readContent_unlimited (chunking : Chunking) (content : Bytes) (startOffset : Nat)
    (limits : ReadLimits) :
    (readContent chunking content startOffset (limits.unlimited content)).lines =
      rawLines limits.maxLineBytes (min startOffset content.length)
        (readyLines limits (content.drop (min startOffset content.length))) := by
  rw [(readContent_eq chunking content startOffset (limits.unlimited content)).1]
  have flat := chunking.flatten_cut (content.drop (min startOffset content.length))
  have count := splitLines_length_le (content.drop (min startOffset content.length))
  rw [length_drop] at count
  rw [takeLines_wide]
  · rfl
  · rw [flat, length_drop]
    exact Nat.lt_succ_of_le (Nat.sub_le _ _)
  · show 0 + _ < content.length + 1
    omega
  · rw [splitLines_flatten, flat, Nat.zero_add]

/-! ## Refinement -/

/-- **The bounded reader refines the line splitter.** One read returns first lines of the split,
each with its offsets and what is kept of it; reading on from the committed offset returns all ready
lines of the split, stops where no read finds more, and has then returned what one unlimited read
returns. -/
theorem boundedRead_refines_split (chunking wideChunking : Chunking) (chunkings : Nat → Chunking)
    (content : Bytes) (startOffset maxLineBytes maxBytes maxLines : Nat) :
    let limits := ReadLimits.new maxLineBytes maxBytes maxLines
    let offset := min startOffset content.length
    let c := readContent chunking content startOffset limits
    let all := readOn chunkings content limits (content.length + 1) startOffset
    (∃ taken, taken <+: splitLines (content.drop offset) ∧
      c.lines = rawLines limits.maxLineBytes offset taken ∧
      c.committedEndOffset = offset + taken.flatten.length ∧
      c.truncatedLines = taken.countP fun line => decide (limits.maxLineBytes < line.length)) ∧
    all = (rawLines limits.maxLineBytes offset (readyLines limits (content.drop offset)),
      offset + (readyLines limits (content.drop offset)).flatten.length) ∧
    (∀ another, (readContent another content all.2 limits).lines = []) ∧
    all.1 = (readContent wideChunking content startOffset (limits.unlimited content)).lines := by
  intro limits offset c all
  have lines : 0 < limits.maxLines := Nat.lt_of_lt_of_le Nat.one_pos (Nat.le_max_right _ _)
  have bytes : 0 < limits.maxBytes := Nat.lt_of_lt_of_le Nat.one_pos (Nat.le_max_right _ _)
  have allIs := readOn_eq lines bytes chunkings content (content.length + 1) startOffset offset
    (by omega) rfl
  refine ⟨⟨_, takeLines_prefix .., readContent_eq chunking content startOffset limits⟩,
    allIs, fun another => ?_, ?_⟩
  · have nothing := readyLines_behind limits (content.drop offset)
    rw [drop_drop] at nothing
    rw [show all = _ from allIs]
    exact readContent_idle nothing another
  · rw [show all = _ from allIs, readContent_unlimited]

/-! ## The byte budget -/

/-- Every file byte by byte. -/
def Chunking.bytewise : Chunking where
  cut bytes := bytes.map fun b => [b]
  flatten_cut bytes := by induction bytes <;> simp_all
  nonempty bytes := by simp

/-- A later line that starts within the budget and ends beyond it has a first chunk that shows it:
`lines` are the lines behind the offset, `blocks` the blocks they arrive in. -/
def Weighed (limits : ReadLimits) (blocks lines : List Bytes) : Prop :=
  ∀ front line back, lines = front ++ line :: back → front ≠ [] →
    front.length < limits.maxLines → front.flatten.length < limits.maxBytes →
    ready limits line = true → limits.maxBytes < front.flatten.length + line.length →
    limits.maxBytes < front.flatten.length + firstChunk (advance blocks front.flatten.length)

theorem takeLines_at {lines : List Bytes} {line : Bytes} {more : List Bytes} :
    ∀ {front : List Bytes} {count consumed : Nat},
    takeLines limits blocks count consumed lines = front ++ line :: more →
    admits limits blocks (count + front.length) (consumed + front.flatten.length) = true ∧
      ready limits line = true := by
  induction lines with
  | nil => intro front _ _ taken; simp [takeLines] at taken
  | cons first lines ih =>
    intro front count consumed taken
    unfold takeLines at taken
    split at taken
    · rename_i here
      cases front with
      | nil =>
        rw [nil_append, List.cons.injEq] at taken
        rw [← taken.1]
        exact Bool.and_eq_true_iff.1 here
      | cons top front =>
        rw [cons_append, List.cons.injEq] at taken
        have later := ih taken.2
        rw [← taken.1, length_cons, flatten_cons, length_append]
        rw [Nat.add_assoc, Nat.add_comm 1, Nat.add_assoc] at later
        exact later
    · simp at taken

/-- The first chunk of a line is at most the line. -/
theorem firstChunk_le_line {line : Bytes}
    (split : splitLines blocks.flatten = front ++ line :: back) :
    firstChunk (advance blocks front.flatten.length) ≤ line.length := by
  have chunk := firstChunk_le_firstLine (advance blocks front.flatten.length)
  have behind := splitLines_drop split
  have some_ : blocks.flatten.drop front.flatten.length ≠ [] := by
    intro empty
    rw [empty] at behind
    cases behind
  rw [splitLines_eq some_, List.cons.injEq] at behind
  rw [advance_flatten, behind.1] at chunk
  exact chunk

/-- Complete lines that end within the budgets are taken, one after the other. -/
theorem takeLines_within {line : Bytes} (later : List Bytes) : ∀ (front : List Bytes),
    splitLines blocks.flatten = front ++ (later ++ line :: back) →
    front.length + later.length ≤ limits.maxLines →
    front.flatten.length + later.flatten.length < limits.maxBytes →
    takeLines limits blocks front.length front.flatten.length (later ++ line :: back) =
      later ++ takeLines limits blocks (front.length + later.length)
        (front.flatten.length + later.flatten.length) (line :: back) := by
  induction later with
  | nil => exact fun _ _ _ _ => rfl
  | cons first later ih =>
    intro front split room budget
    have complete : newline ∈ first :=
      @newline_mem_of_split (front ++ first :: later) back line blocks.flatten
        (by simpa using split) first (by simp)
    have chunk := firstChunk_le_line split
    rw [length_cons] at room
    rw [flatten_cons, length_append] at budget
    have taken : (admits limits blocks front.length front.flatten.length &&
        ready limits first) = true := by
      simp only [admits, ready, complete, Bool.and_eq_true, Bool.or_eq_true, decide_eq_true_eq]
      exact ⟨⟨⟨by omega, by omega⟩, .inr (by omega)⟩, .inl trivial⟩
    have next := ih (front ++ [first]) (by simpa using split)
    simp only [length_append, flatten_append, length_singleton, flatten_singleton] at next
    have next := next (by omega) (by omega)
    rw [cons_append, takeLines, if_pos taken, next, length_cons, flatten_cons, length_append]
    simp only [cons_append, Nat.add_assoc, Nat.add_comm 1]

/-- **The budget is kept exactly when every overrun shows in a first chunk.** -/
theorem budget_kept_iff (chunking : Chunking) (content : Bytes) (startOffset : Nat)
    (limits : ReadLimits) :
    ((readContent chunking content startOffset limits).committedEndOffset ≤
        startOffset + limits.maxBytes ∨
      (readContent chunking content startOffset limits).lines.length = 1) ↔
    Weighed limits (chunking.cut (content.drop startOffset))
      (splitLines (content.drop startOffset)) := by
  obtain ⟨read, committed, -⟩ := readContent_eq chunking content startOffset limits
  rw [drop_min_length] at read committed
  have flat := chunking.flatten_cut (content.drop startOffset)
  rw [read, committed, rawLines_length]
  constructor
  · intro kept front line back split some_ room start isReady spent
    by_contra hidden
    have inside : startOffset < content.length := by
      by_contra beyond
      rw [drop_of_length_le (by omega), splitLines] at split
      simp at split
    have reached := takeLines_within front [] (by rw [flat]; exact split)
      (by simpa using Nat.le_of_lt room) (by simpa using start)
    have admitted : (admits limits (chunking.cut (content.drop startOffset)) front.length
        front.flatten.length && ready limits line) = true := by
      simp only [admits, isReady, Bool.and_eq_true, Bool.or_eq_true, decide_eq_true_eq]
      exact ⟨⟨⟨room, start⟩, .inr (by omega)⟩, trivial⟩
    simp only [length_nil, flatten_nil, Nat.zero_add] at reached
    rw [← split, takeLines, if_pos admitted] at reached
    rw [reached, Nat.min_eq_left (by omega)] at kept
    simp only [flatten_append, flatten_cons, length_append, length_cons] at kept
    have := length_pos_iff.2 some_
    omega
  · intro weighed
    obtain ⟨back, whole⟩ := takeLines_prefix limits (chunking.cut (content.drop startOffset))
      (splitLines (content.drop startOffset)) 0 0
    have nonempty := takeLines_nonempty limits (chunking.cut (content.drop startOffset))
      (content.drop startOffset) 0 0
    generalize takenIs : takeLines limits (chunking.cut (content.drop startOffset)) 0 0
      (splitLines (content.drop startOffset)) = taken at whole nonempty ⊢
    rcases eq_nil_or_concat taken with none_ | ⟨front, line, rfl⟩
    · left
      rw [none_, flatten_nil, length_nil]
      omega
    · cases front with
      | nil => exact .inr rfl
      | cons first front =>
        left
        by_contra spent
        -- the last line was let in, so its first chunk fitted
        rw [concat_eq_append] at takenIs whole spent
        obtain ⟨admitted, isReady⟩ := takeLines_at takenIs
        simp only [admits, Nat.zero_add, Bool.and_eq_true, Bool.or_eq_true,
          decide_eq_true_eq] at admitted
        rw [append_assoc] at whole
        have shows := weighed _ _ _ whole.symm (by simp) admitted.1.1 admitted.1.2 isReady
        have firstByte : 0 < first.length := by
          rw [length_pos_iff]
          rintro rfl
          simp at nonempty
        simp only [flatten_append, flatten_cons, flatten_nil, append_nil,
          length_append] at spent shows admitted
        rcases admitted.2 with none_ | fitted <;> omega

/-- Two lines, `a` and `bbb`, three bytes of budget: the second line starts with one byte. -/
theorem budget_overrun_bytewise :
    let content : Bytes := [97, 10, 98, 98, 98, 10]
    let c := readContent .bytewise content 0 (.new 16 3 16)
    ¬ (c.committedEndOffset ≤ 0 + 3 ∨ c.lines.length = 1) := by
  decide +kernel

end WistAgentd.Telemetry

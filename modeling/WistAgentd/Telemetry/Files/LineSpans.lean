/- # Telemetry.Files.LineSpans -- where the lines of a read stand in the file

A read hands over consecutive lines from an offset on. Every line start of the file that lies in
the part it committed is the start of one of them, and what is kept of a committed line does not
change when the file grows.

* `lineStart_taken`: line starts in a committed range are starts of taken lines.
* `readContent_line`: such a line is handed over with its offset and its text.
* `readContent_once`: and no other line of the read starts there.
* `kept_stable`: appending leaves the kept text of a ready line alone.
* `tailFits_iff`: when one read gets through all complete lines behind an offset. -/
import WistAgentd.Telemetry.Files.Resume

namespace WistAgentd.Telemetry
open Theory.Utf8
open List
set_option autoImplicit false

variable {bytes content : Bytes} {offset start : Nat} {limits : ReadLimits}
variable (chunking : Chunking)

/-- A line of the file starts here. -/
def LineStart (content : Bytes) (start : Nat) : Prop :=
  start = 0 ∨ content[start - 1]? = some newline

/-- The line at an offset, as far as the file goes. -/
def lineAt (content : Bytes) (start : Nat) : Bytes := firstLine (content.drop start)

theorem lineAt_drop (content : Bytes) (offset start : Nat) :
    lineAt (content.drop offset) start = lineAt content (offset + start) := by
  rw [lineAt, lineAt, drop_drop]

/-- Behind its first byte, the rest of a file has the line starts of the file. -/
theorem lineStart_drop (later : start ≠ 0) :
    LineStart (content.drop offset) start ↔ LineStart content (offset + start) := by
  simp [LineStart, later, show offset + (start - 1) = offset + start - 1 by omega]

theorem LineStart.drop (starts : LineStart content (offset + start)) :
    LineStart (content.drop offset) start := by
  by_cases first : start = 0
  · exact .inl first
  · exact (lineStart_drop first).2 starts

/-- A newline is at or behind the end of the first line. -/
theorem lineEnd_le_of_newline {index : Nat} (found : bytes[index]? = some newline) :
    ∃ n, lineEnd bytes = some n ∧ n ≤ index + 1 := by
  induction bytes generalizing index with
  | nil => simp at found
  | cons b rest ih =>
    rw [lineEnd_cons]
    by_cases here : b = newline
    · exact ⟨1, by simp [here], by omega⟩
    · cases index with
      | zero => exact absurd (by simpa using found) here
      | succ index =>
        obtain ⟨n, ends, le⟩ := ih (by simpa using found)
        exact ⟨n + 1, by simp [here, ends], by omega⟩

theorem firstLine_le_of_newline {index : Nat} (found : bytes[index]? = some newline) :
    (firstLine bytes).length ≤ index + 1 := by
  obtain ⟨n, ends, le⟩ := lineEnd_le_of_newline found
  rw [firstLine, ends]
  exact Nat.le_trans (length_take_le n bytes) le

theorem LineStart.behind_firstLine (starts : LineStart bytes start) (later : start ≠ 0) :
    (firstLine bytes).length ≤ start := by
  have behind := firstLine_le_of_newline (starts.resolve_left later)
  omega

/-- A line start inside the taken lines is the start of one of them. -/
theorem lineStart_taken {taken : List Bytes} : ∀ {bytes : Bytes} {start : Nat},
    taken <+: splitLines bytes → LineStart bytes start → start < taken.flatten.length →
    ∃ front back, taken = front ++ lineAt bytes start :: back ∧ start = front.flatten.length := by
  induction taken with
  | nil => intro bytes start _ _ inside; simp at inside
  | cons line more ih =>
    intro bytes start within starts inside
    have some_ : bytes ≠ [] := by
      rintro rfl
      simp [splitLines] at within
    rw [splitLines_eq some_] at within
    obtain ⟨rfl, later⟩ := cons_prefix_cons.1 within
    rw [flatten_cons, length_append] at inside
    by_cases first : start = 0
    · subst first
      exact ⟨[], more, by simp [lineAt], rfl⟩
    · obtain ⟨rest, rfl⟩ := Nat.exists_eq_add_of_le (starts.behind_firstLine first)
      obtain ⟨front, back, split, length⟩ := ih later starts.drop (by omega)
      rw [lineAt_drop] at split
      refine ⟨firstLine bytes :: front, back, by rw [split]; rfl, ?_⟩
      rw [flatten_cons, length_append, length]

theorem mem_rawLines (maxLineBytes : Nat) (front back : List Bytes) (line : Bytes) (offset : Nat) :
    ⟨fromUtf8Lossy (line.take maxLineBytes), offset + front.flatten.length,
      offset + front.flatten.length + line.length⟩ ∈
        rawLines maxLineBytes offset (front ++ line :: back) := by
  induction front generalizing offset with
  | nil => exact mem_cons_self
  | cons first front ih =>
    have later := ih (offset + first.length)
    rw [flatten_cons, length_append, ← Nat.add_assoc]
    exact mem_cons_of_mem _ later

theorem takeLines_ready (limits : ReadLimits) (blocks lines : List Bytes) {line : Bytes} :
    ∀ count consumed, line ∈ takeLines limits blocks count consumed lines →
      ready limits line = true := by
  induction lines with
  | nil => intro _ _ mem; cases mem
  | cons first rest ih =>
    intro count consumed mem
    unfold takeLines at mem
    split at mem
    · rename_i taken
      rcases mem_cons.1 mem with rfl | later
      · exact (Bool.and_eq_true_iff.1 taken).2
      · exact ih _ _ later
    · cases mem

/-- **Line starts in the committed range are handed over.** -/
theorem readContent_line (inside : offset ≤ content.length) (starts : LineStart content start)
    (low : offset ≤ start)
    (high : start < (readContent chunking content offset limits).committedEndOffset) :
    ready limits (lineAt content start) = true ∧
      ∃ line ∈ (readContent chunking content offset limits).lines,
        line.startOffset = start ∧
          line.text = fromUtf8Lossy ((lineAt content start).take limits.maxLineBytes) := by
  obtain ⟨lines, committed, -⟩ := readContent_eq chunking content offset limits
  rw [Nat.min_eq_left inside] at lines committed
  obtain ⟨rest, rfl⟩ := Nat.exists_eq_add_of_le low
  obtain ⟨front, back, split, length⟩ := lineStart_taken
    ( takeLines_prefix limits (chunking.cut (content.drop offset)) _ 0 0) starts.drop (by omega)
  rw [lineAt_drop] at split
  constructor
  · apply takeLines_ready limits (chunking.cut (content.drop offset))
      (splitLines (content.drop offset)) 0 0
    rw [split]
    exact mem_append_right _ mem_cons_self
  · have handed := mem_rawLines limits.maxLineBytes front back (lineAt content (offset + rest)) offset
    rw [← split, ← lines] at handed
    exact ⟨_, handed, by rw [length], rfl⟩

/-! ## Starts -/

theorem nil_not_mem_splitLines (bytes : Bytes) : [] ∉ splitLines bytes := by
  induction bytes with
  | nil => simp [splitLines]
  | cons b rest ih =>
    unfold splitLines
    split
    · simpa using ih
    · cases split_ : splitLines rest with
      | nil => simp
      | cons line lines =>
        rw [split_] at ih
        simp only [mem_cons, not_or] at ih ⊢
        exact ⟨by simp, ih.2⟩

theorem rawLines_bounds {maxLineBytes : Nat} {lines : List Bytes} (nonempty : [] ∉ lines)
    {line : RawFileLine} (mem : line ∈ rawLines maxLineBytes offset lines) :
    offset ≤ line.startOffset ∧ line.startOffset < offset + lines.flatten.length := by
  induction lines generalizing offset with
  | nil => cases mem
  | cons first rest ih =>
    rw [mem_cons, not_or] at nonempty
    have some_ : 0 < first.length := length_pos_iff.2 (Ne.symm nonempty.1)
    rw [flatten_cons, length_append]
    rcases mem_cons.1 mem with rfl | later
    · exact ⟨Nat.le_refl _, by show offset < _; omega⟩
    · have bounds := ih nonempty.2 later
      omega

theorem rawLines_starts_nodup {lines : List Bytes} (nonempty : [] ∉ lines)
    (maxLineBytes offset : Nat) :
    ((rawLines maxLineBytes offset lines).map RawFileLine.startOffset).Nodup := by
  induction lines generalizing offset with
  | nil => exact nodup_nil
  | cons first rest ih =>
    rw [mem_cons, not_or] at nonempty
    have some_ : 0 < first.length := length_pos_iff.2 (Ne.symm nonempty.1)
    refine nodup_cons.2 ⟨fun again => ?_, ih nonempty.2 _⟩
    obtain ⟨line, mem, same⟩ := mem_map.1 again
    have bounds := rawLines_bounds nonempty.2 mem
    rw [same] at bounds
    exact absurd bounds.1 (by show ¬ offset + first.length ≤ offset; omega)

theorem takeLines_nonempty (limits : ReadLimits) (blocks : List Bytes) (bytes : Bytes)
    (count consumed : Nat) : [] ∉ takeLines limits blocks count consumed (splitLines bytes) :=
  fun mem => nil_not_mem_splitLines bytes
    (( takeLines_prefix limits blocks (splitLines bytes) count consumed).subset mem)

/-- The lines of a read start in the range it commits. -/
theorem readContent_bounds (inside : offset ≤ content.length) {line : RawFileLine}
    (mem : line ∈ (readContent chunking content offset limits).lines) :
    offset ≤ line.startOffset ∧
      line.startOffset < (readContent chunking content offset limits).committedEndOffset := by
  obtain ⟨lines, committed, -⟩ := readContent_eq chunking content offset limits
  rw [Nat.min_eq_left inside] at lines committed
  rw [lines] at mem
  rw [committed]
  exact rawLines_bounds (takeLines_nonempty _ _ _ _ _) mem

theorem readContent_starts_nodup (content : Bytes) (offset : Nat) (limits : ReadLimits) :
    ((readContent chunking content offset limits).lines.map RawFileLine.startOffset).Nodup := by
  rw [(readContent_eq chunking content offset limits).1]
  exact rawLines_starts_nodup (takeLines_nonempty _ _ _ _ _) _ _

theorem readContent_committed_ge (inside : offset ≤ content.length) (limits : ReadLimits) :
    offset ≤ (readContent chunking content offset limits).committedEndOffset := by
  obtain ⟨-, committed, -⟩ := readContent_eq chunking content offset limits
  omega

/-- **A line start in the committed range is handed over exactly once.** -/
theorem readContent_once (inside : offset ≤ content.length) (starts : LineStart content start)
    (low : offset ≤ start)
    (high : start < (readContent chunking content offset limits).committedEndOffset) :
    ((readContent chunking content offset limits).lines.map RawFileLine.startOffset).count start =
      1 := by
  obtain ⟨-, line, mem, at_, -⟩ := readContent_line chunking inside starts low high
  exact count_eq_one_of_mem (readContent_starts_nodup ..) (mem_map.2 ⟨line, mem, at_⟩)

/-! ## Growth -/

theorem lineStart_append (more : Bytes) (inside : start ≤ content.length) :
    LineStart (content ++ more) start ↔ LineStart content start := by
  by_cases first : start = 0
  · simp [LineStart, first]
  · rw [LineStart, LineStart, List.getElem?_append_left (by omega)]

/-- What is kept of a ready line does not change when the file grows. -/
theorem kept_stable (more : Bytes) (inside : start ≤ content.length)
    (committed : ready limits (lineAt content start) = true) :
    (lineAt (content ++ more) start).take limits.maxLineBytes =
        (lineAt content start).take limits.maxLineBytes ∧
      ready limits (lineAt (content ++ more) start) = true := by
  unfold lineAt at committed ⊢
  rw [drop_append_of_le_length inside]
  cases ends : lineEnd (content.drop start) with
  | some n =>
    have same : firstLine (content.drop start ++ more) = firstLine (content.drop start) := by
      rw [firstLine_append_of_some more ends, firstLine, ends]
    rw [same]
    exact ⟨rfl, committed⟩
  | none =>
    -- no newline yet, so the line was committed because it is over-long
    have whole : firstLine (content.drop start) = content.drop start := by rw [firstLine, ends]
    rw [whole] at committed ⊢
    have long : limits.maxLineBytes < (content.drop start).length := by
      simpa [ready, lineEnd_none_iff.1 ends] using committed
    rw [firstLine_append_of_none more ends]
    refine ⟨take_append_of_le_length (Nat.le_of_lt long), ?_⟩
    simp only [ready, Bool.or_eq_true, decide_eq_true_eq, length_append]
    exact .inr (by omega)

/-! ## Budgets -/

/-- A complete line of the file starts here. -/
def CompleteLine (content : Bytes) (start : Nat) : Prop :=
  LineStart content start ∧ newline ∈ lineAt content start

/-- Each complete line is admitted when its turn comes. -/
def fitsBudget (limits : ReadLimits) (blocks : List Bytes) : Nat → Nat → List Bytes → Bool
  | _, _, [] => true
  | count, consumed, line :: lines =>
    (!decide (newline ∈ line) || admits limits blocks count consumed) &&
      fitsBudget limits blocks (count + 1) (consumed + line.length) lines

/-- One read can get through all complete lines behind the offset. -/
def tailFits (limits : ReadLimits) (chunking : Chunking) (content : Bytes) (offset : Nat) : Bool :=
  fitsBudget limits (chunking.cut (content.drop offset)) 0 0 (splitLines (content.drop offset))

theorem firstLine_last (complete : newline ∈ firstLine bytes) :
    bytes[(firstLine bytes).length - 1]? = some newline := by
  induction bytes with
  | nil => simp [firstLine, lineEnd] at complete
  | cons b rest ih =>
    by_cases here : b = newline
    · simp [firstLine, lineEnd_cons, here]
    · rw [firstLine_cons rest here] at complete ⊢
      have inRest : newline ∈ firstLine rest :=
        (mem_cons.1 complete).resolve_left (Ne.symm here)
      have some_ : 0 < (firstLine rest).length := length_pos_of_mem inRest
      rw [length_cons, show (firstLine rest).length + 1 - 1 =
        (firstLine rest).length - 1 + 1 by omega, List.getElem?_cons_succ]
      exact ih inRest

theorem mem_drop_of_mem_lineAt {b : UInt8} (mem : b ∈ lineAt bytes start) :
    b ∈ bytes.drop start := by
  unfold lineAt firstLine at mem
  split at mem
  · exact mem_of_mem_take mem
  · exact mem

theorem mem_lineAt {b : UInt8} (mem : b ∈ lineAt bytes start) :
    b ∈ bytes := mem_of_mem_drop (mem_drop_of_mem_lineAt mem)

theorem CompleteLine.lt (line : CompleteLine content start) : start < content.length := by
  have some_ := length_pos_of_mem (mem_drop_of_mem_lineAt line.2)
  rw [length_drop] at some_
  omega

theorem completeLine_drop (later : start ≠ 0) :
    CompleteLine (content.drop offset) start ↔ CompleteLine content (offset + start) := by
  rw [CompleteLine, CompleteLine, lineStart_drop later, lineAt_drop]

theorem CompleteLine.drop (line : CompleteLine content (offset + start)) :
    CompleteLine (content.drop offset) start :=
  ⟨line.1.drop, by rw [lineAt_drop]; exact line.2⟩

theorem fitsBudget_iff (limits : ReadLimits) (blocks : List Bytes) (bytes : Bytes) :
    ∀ count consumed, fitsBudget limits blocks count consumed (splitLines bytes) = true ↔
      ∀ start, CompleteLine bytes start →
        start < (takeLines limits blocks count consumed (splitLines bytes)).flatten.length := by
  induction length : bytes.length using Nat.strongRecOn generalizing bytes with
  | _ n ih =>
    intro count consumed
    by_cases empty : bytes = []
    · subst empty
      constructor
      · intro _ start line
        exact absurd (mem_lineAt line.2) (by simp)
      · intro _
        rfl
    · have some_ : 0 < (firstLine bytes).length := length_pos_iff.2 (firstLine_ne_nil empty)
      have shorter : (bytes.drop (firstLine bytes).length).length < n := by
        have : 0 < bytes.length := length_pos_iff.2 empty
        rw [length_drop]
        omega
      rw [splitLines_eq empty, fitsBudget, takeLines]
      by_cases complete : newline ∈ firstLine bytes
      · have lineReady : ready limits (firstLine bytes) = true := by simp [ready, complete]
        rw [lineReady, Bool.and_true]
        cases admitted : admits limits blocks count consumed with
        | false =>
          simp only [complete, decide_true, Bool.not_true, Bool.or_self, Bool.false_and,
            Bool.false_eq_true, if_false, false_iff]
          intro all
          exact absurd (all 0 ⟨.inl rfl, by simpa [lineAt] using complete⟩) (by simp)
        | true =>
          simp only [Bool.or_true, Bool.true_and, if_true, flatten_cons, length_append]
          rw [ih _ shorter _ rfl]
          constructor
          · intro later start line
            by_cases first : start = 0
            · omega
            · obtain ⟨rest, rfl⟩ := Nat.exists_eq_add_of_le (line.1.behind_firstLine first)
              have inLater := later rest line.drop
              omega
          · intro all start line
            have here := all ((firstLine bytes).length + start) ⟨?_, by rw [← lineAt_drop]; exact line.2⟩
            · omega
            · by_cases first : start = 0
              · subst first
                exact .inr (firstLine_last complete)
              · exact (lineStart_drop first).1 line.1
      · -- the only line has no newline, so there is no complete line at all
        have none_ : newline ∉ bytes := mt newline_mem_firstLine.2 complete
        have whole : firstLine bytes = bytes := by rw [firstLine, lineEnd_none_iff.2 none_]
        rw [whole, drop_length]
        simp only [none_, decide_false, Bool.not_false, Bool.true_or, Bool.true_and]
        constructor
        · intro _ start line
          exact absurd (mem_lineAt line.2) none_
        · intro _
          rfl

/-- The first line is always admitted. -/
theorem takeLines_progress (lines : 0 < limits.maxLines) (bytes : 0 < limits.maxBytes)
    (blocks : List Bytes) {rest : Bytes} (complete : newline ∈ rest) :
    0 < (takeLines limits blocks 0 0 (splitLines rest)).flatten.length := by
  have some_ : rest ≠ [] := ne_nil_of_mem complete
  have ends : newline ∈ firstLine rest := newline_mem_firstLine.2 complete
  have first : (admits limits blocks 0 0 && ready limits (firstLine rest)) = true := by
    simp [admits, ready, lines, bytes, ends]
  rw [splitLines_eq some_, takeLines, if_pos first, flatten_cons, length_append]
  have : 0 < (firstLine rest).length := length_pos_of_mem ends
  omega

theorem readContent_progress (lines : 0 < limits.maxLines) (bytes : 0 < limits.maxBytes)
    (chunking : Chunking) (inside : offset ≤ content.length)
    (complete : newline ∈ content.drop offset) :
    offset < (readContent chunking content offset limits).committedEndOffset := by
  obtain ⟨-, committed, -⟩ := readContent_eq chunking content offset limits
  rw [Nat.min_eq_left inside] at committed
  have progress := takeLines_progress lines bytes (chunking.cut (content.drop offset)) complete
  omega

/-- **One read gets through all complete lines behind the offset exactly when each of them is
admitted at its turn.** -/
theorem tailFits_iff (lines : 0 < limits.maxLines) (bytes : 0 < limits.maxBytes)
    (chunking : Chunking) (inside : offset ≤ content.length) :
    tailFits limits chunking content offset = true ↔
      ∀ start, offset ≤ start → CompleteLine content start →
        start < (readContent chunking content offset limits).committedEndOffset := by
  obtain ⟨-, committed, -⟩ := readContent_eq chunking content offset limits
  rw [Nat.min_eq_left inside] at committed
  rw [tailFits, fitsBudget_iff, committed]
  constructor
  · intro all start low line
    obtain ⟨rest, rfl⟩ := Nat.exists_eq_add_of_le low
    have inRest := all rest line.drop
    omega
  · intro all start line
    by_cases first : start = 0
    · subst first
      exact takeLines_progress lines bytes _ (mem_lineAt line.2)
    · have := all (offset + start) (by omega) ((completeLine_drop first).1 line)
      omega

end WistAgentd.Telemetry

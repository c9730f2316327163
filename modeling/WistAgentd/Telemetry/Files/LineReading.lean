/- # Telemetry.Files.LineReading -- what one bounded read returns

The loop of the reader, chunk by chunk, against the newline split of the file.

* `splitLines`: the lines behind an offset; `takeLines`: those the budgets and the line limit let
  through; `rawLines`: how they are handed over.
* `readLoop_line`: the turns within one line commit it or leave it for later.
* `readContent_eq`: one read returns exactly `takeLines` of `splitLines`, however it was chunked. -/
import WistAgentd.Telemetry.Files.FileReader

namespace WistAgentd.Telemetry
open Theory.Utf8
open List Option
set_option autoImplicit false

variable {bytes : Bytes} {blocks : List Bytes}

/-! ## Lines of a byte string -/

/-- The newline split, newlines kept; only the last line may lack one. -/
def splitLines : Bytes → List Bytes
  | [] => []
  | b :: rest =>
    if b = newline then [b] :: splitLines rest
    else match splitLines rest with
      | [] => [[b]]
      | line :: lines => (b :: line) :: lines

def firstLine (bytes : Bytes) : Bytes :=
  match lineEnd bytes with
  | some n => bytes.take n
  | none => bytes

theorem lineEnd_cons (b : UInt8) (rest : Bytes) :
    lineEnd (b :: rest) = if b = newline then some 1 else (lineEnd rest).map (· + 1) := by
  by_cases here : b = newline <;> simp [lineEnd, List.findIdx?_cons, here]

theorem lineEnd_append (front back : Bytes) :
    lineEnd (front ++ back) = match lineEnd front with
      | some n => some n
      | none => (lineEnd back).map (· + front.length) := by
  induction front with
  | nil =>
    show lineEnd back = (lineEnd back).map (· + 0)
    cases lineEnd back <;> rfl
  | cons b rest ih =>
    rw [cons_append, lineEnd_cons, lineEnd_cons, ih]
    by_cases here : b = newline
    · simp [here]
    · cases lineEnd rest with
      | some n => simp [here]
      | none => cases lineEnd back <;> simp [here, Nat.add_assoc]

variable {n : Nat} {block : Bytes} {rest : List Bytes}

theorem lineEnd_le (found : lineEnd bytes = some n) : 0 < n ∧ n ≤ bytes.length := by
  induction bytes generalizing n with
  | nil => simp [lineEnd] at found
  | cons b rest ih =>
    rw [lineEnd_cons] at found
    split at found
    · cases found
      simp
    · cases inner : lineEnd rest with
      | none => simp [inner] at found
      | some m =>
        obtain ⟨_, le⟩ := ih inner
        simp only [inner, map_some, some.injEq] at found
        subst found
        simp [le]

theorem lineEnd_none_iff : lineEnd bytes = none ↔ newline ∉ bytes := by
  simp only [lineEnd, map_eq_none_iff, List.findIdx?_eq_none_iff, decide_eq_false_iff_not]
  exact ⟨fun absent mem => absent newline mem rfl,
    fun absent b mem eq => absent (eq ▸ mem)⟩

theorem newline_mem_take (found : lineEnd bytes = some n) : newline ∈ bytes.take n := by
  induction bytes generalizing n with
  | nil => simp [lineEnd] at found
  | cons b rest ih =>
    rw [lineEnd_cons] at found
    split at found
    · rename_i here
      cases found
      simp [here]
    · cases inner : lineEnd rest with
      | none => simp [inner] at found
      | some m =>
        simp only [inner, map_some, some.injEq] at found
        subst found
        simpa using Or.inr (ih inner)

theorem newline_mem_firstLine : newline ∈ firstLine bytes ↔ newline ∈ bytes := by
  unfold firstLine
  cases found : lineEnd bytes with
  | none => rfl
  | some n => exact ⟨mem_of_mem_take, fun _ => newline_mem_take found⟩

theorem firstLine_append_of_some {front : Bytes} (back : Bytes) (found : lineEnd front = some n) :
    firstLine (front ++ back) = front.take n := by
  simp only [firstLine, lineEnd_append, found]
  exact take_append_of_le_length (lineEnd_le found).2

theorem firstLine_append_of_none {front : Bytes} (back : Bytes) (absent : lineEnd front = none) :
    firstLine (front ++ back) = front ++ firstLine back := by
  simp only [firstLine, lineEnd_append, absent]
  cases lineEnd back with
  | none => simp
  | some n =>
    have all : front.take (front.length + n) = front := take_of_length_le (Nat.le_add_right _ _)
    simp [take_append, Nat.add_comm n front.length, all]

theorem firstLine_cons {b : UInt8} (rest : Bytes) (other : b ≠ newline) :
    firstLine (b :: rest) = b :: firstLine rest :=
  @firstLine_append_of_none [b] rest (by simp [lineEnd, other])

theorem firstLine_prefix (bytes : Bytes) :
    firstLine bytes ++ bytes.drop (firstLine bytes).length = bytes := by
  unfold firstLine
  cases found : lineEnd bytes with
  | none => simp
  | some n => simp [Nat.min_eq_left (lineEnd_le found).2]

theorem firstLine_ne_nil (some_ : bytes ≠ []) : firstLine bytes ≠ [] := by
  unfold firstLine
  cases found : lineEnd bytes with
  | none => exact some_
  | some n =>
    have bounds := lineEnd_le found
    intro empty
    have length := congrArg List.length empty
    simp only [length_take, length_nil] at length
    omega

theorem splitLines_eq : ∀ {bytes : Bytes}, bytes ≠ [] →
    splitLines bytes = firstLine bytes :: splitLines (bytes.drop (firstLine bytes).length)
  | [], some_ => absurd rfl some_
  | b :: rest, _ => by
      by_cases here : b = newline
      · simp [splitLines, firstLine, lineEnd_cons, here]
      · by_cases empty : rest = []
        · subst empty
          simp [splitLines, firstLine, lineEnd, here]
        · have inner := splitLines_eq empty
          rw [firstLine_cons rest here]
          simp [splitLines, here, inner]

theorem splitLines_flatten (bytes : Bytes) : (splitLines bytes).flatten = bytes := by
  induction bytes with
  | nil => rfl
  | cons b rest ih =>
    simp only [splitLines]
    split
    · simp [ih]
    · cases split_ : splitLines rest with
      | nil | cons line lines =>
        rw [split_] at ih
        simp [← ih]

/-! ## Blocks -/

/-- The blocks after their first `n` bytes. -/
def advance : List Bytes → Nat → List Bytes
  | [], _ => []
  | block :: rest, n =>
    if n < block.length then block.drop n :: rest else advance rest (n - block.length)

theorem advance_zero (nonempty : [] ∉ blocks) : advance blocks 0 = blocks := by
  cases blocks with
  | nil => rfl
  | cons block rest =>
    have some_ : 0 < block.length := by
      rw [length_pos_iff]
      rintro rfl
      simp at nonempty
    simp [advance, some_]

theorem advance_flatten (blocks : List Bytes) (n : Nat) :
    (advance blocks n).flatten = blocks.flatten.drop n := by
  induction blocks generalizing n with
  | nil => simp [advance]
  | cons block rest ih =>
    simp only [advance, flatten_cons]
    split
    · rename_i inside
      simp [drop_append_of_le_length (Nat.le_of_lt inside)]
    · rename_i beyond
      rw [ih, drop_append, drop_of_length_le (Nat.not_lt.mp beyond), nil_append]

theorem advance_nonempty (nonempty : [] ∉ blocks) (n : Nat) : [] ∉ advance blocks n := by
  induction blocks generalizing n with
  | nil => simp [advance]
  | cons block rest ih =>
    rw [mem_cons, not_or] at nonempty
    simp only [advance]
    split
    · rw [mem_cons, not_or]
      refine ⟨fun empty => ?_, nonempty.2⟩
      have length := congrArg List.length empty
      simp only [length_nil, length_drop] at length
      omega
    · exact ih nonempty.2 _

theorem advance_add (blocks : List Bytes) (m n : Nat) :
    advance (advance blocks m) n = advance blocks (m + n) := by
  induction blocks generalizing m with
  | nil => rfl
  | cons block rest ih =>
    by_cases inside : m < block.length
    · simp only [advance, inside, if_true, length_drop, drop_drop]
      by_cases both : m + n < block.length
      · simp [both, show n < block.length - m by omega]
      · simp [both, show ¬ n < block.length - m by omega,
          show n - (block.length - m) = m + n - block.length by omega]
    · simp only [advance, inside, if_false, ih]
      simp [show ¬ m + n < block.length by omega,
        show m - block.length + n = m + n - block.length by omega]

theorem consume_eq_advance (nonempty : [] ∉ rest) (inside : n ≤ block.length) :
    consume (block :: rest) n = advance (block :: rest) n := by
  by_cases all : n = block.length
  · subst all
    simp [consume, advance, advance_zero nonempty]
  · have short : n < block.length := Nat.lt_of_le_of_ne inside all
    have some_ : block.drop n ≠ [] := fun empty => by
      have length := congrArg List.length empty
      simp only [length_nil, length_drop] at length
      omega
    simp [consume, advance, short, some_]

theorem skipToLineEnd_eq (nonempty : [] ∉ blocks) :
    skipToLineEnd blocks =
      ((firstLine blocks.flatten).length, advance blocks (firstLine blocks.flatten).length) := by
  induction blocks with
  | nil => rfl
  | cons block rest ih =>
    rw [mem_cons, not_or] at nonempty
    simp only [skipToLineEnd, Ne.symm nonempty.1, if_false, flatten_cons]
    cases found : lineEnd block with
    | some n =>
      have inside := (lineEnd_le found).2
      rw [firstLine_append_of_some rest.flatten found]
      simp [Nat.min_eq_left inside, consume_eq_advance nonempty.2 inside]
    | none =>
      rw [ih nonempty.2, firstLine_append_of_none rest.flatten found]
      simp only [advance, length_append]
      rw [if_neg (by omega), Nat.add_sub_cancel_left]

/-! ## What one read returns -/

/-- Size of the chunk the reader would take next. -/
def firstChunk (blocks : List Bytes) : Nat :=
  match readChunk blocks with
  | some chunk => chunk.take
  | none => 0

/-- The budgets let the reader start one more line. -/
def admits (limits : ReadLimits) (blocks : List Bytes) (count consumed : Nat) : Bool :=
  decide (count < limits.maxLines) && decide (consumed < limits.maxBytes) &&
    (decide (consumed = 0) ||
      decide (consumed + firstChunk (advance blocks consumed) ≤ limits.maxBytes))

/-- A line is committed when it is complete, or already longer than what is kept of it. -/
def ready (limits : ReadLimits) (line : Bytes) : Bool :=
  decide (newline ∈ line) || decide (limits.maxLineBytes < line.length)

/-- The lines one read commits. -/
def takeLines (limits : ReadLimits) (blocks : List Bytes) : Nat → Nat → List Bytes → List Bytes
  | _, _, [] => []
  | count, consumed, line :: lines =>
    if admits limits blocks count consumed && ready limits line then
      line :: takeLines limits blocks (count + 1) (consumed + line.length) lines
    else []

/-- Lines as the reader hands them over, from an offset on. -/
def rawLines (maxLineBytes : Nat) : Nat → List Bytes → List RawFileLine
  | _, [] => []
  | offset, line :: lines =>
    ⟨fromUtf8Lossy (line.take maxLineBytes), offset, offset + line.length⟩ ::
      rawLines maxLineBytes (offset + line.length) lines

section

variable (blocks : List Bytes) (offset : Nat) (lines : List RawFileLine)
  (truncatedLines consumed : Nat) (current : Bytes)

/-- The cursor at `consumed` bytes behind the start, with `current` read of the running line. -/
def Cursor.at : Cursor :=
  { blocks := advance blocks (consumed + current.length), lines, truncatedLines
    committedEndOffset := offset + consumed, lineStart := offset + consumed
    lineConsumed := current.length, consumedTotal := consumed + current.length
    lineBuf := current }

@[simp] theorem Cursor.at_lines :
    (Cursor.at blocks offset lines truncatedLines consumed current).lines = lines := rfl

@[simp] theorem Cursor.at_committed :
    (Cursor.at blocks offset lines truncatedLines consumed current).committedEndOffset =
      offset + consumed := rfl

@[simp] theorem Cursor.at_truncated :
    (Cursor.at blocks offset lines truncatedLines consumed current).truncatedLines =
      truncatedLines := rfl

end

/-- The cursor after the line has been pushed. -/
def Cursor.afterLine (limits : ReadLimits) (blocks : List Bytes) (offset : Nat)
    (lines : List RawFileLine) (truncatedLines consumed : Nat) (line : Bytes) : Cursor :=
  .at blocks offset
    (lines ++ [⟨fromUtf8Lossy (line.take limits.maxLineBytes), offset + consumed,
      offset + consumed + line.length⟩])
    (if limits.maxLineBytes < line.length then truncatedLines + 1 else truncatedLines)
    (consumed + line.length) []

theorem appendBounded_eq {buf : Bytes} {limit : Nat} (short : buf.length ≤ limit) (chunk : Bytes)
    (some_ : chunk ≠ []) :
    appendBounded buf chunk limit =
      ((buf ++ chunk).take limit, decide (limit < (buf ++ chunk).length)) := by
  have pos : 0 < chunk.length := length_pos_iff.mpr some_
  unfold appendBounded
  by_cases full : limit ≤ buf.length
  · obtain rfl : buf.length = limit := Nat.le_antisymm short full
    simp [pos]
  · simp only [full, if_false]
    by_cases cut : limit - buf.length < chunk.length
    · simp only [cut, if_true, length_append, Prod.mk.injEq]
      refine ⟨?_, (decide_eq_true (by omega)).symm⟩
      rw [take_append, take_of_length_le short]
    · simp only [cut, if_false, length_append, Prod.mk.injEq]
      refine ⟨(take_of_length_le ?_).symm, (decide_eq_false (by omega)).symm⟩
      rw [length_append]
      omega

section Loop

variable {limits : ReadLimits} {blocks : List Bytes} (offset : Nat) {lines : List RawFileLine}
variable (truncatedLines : Nat) {consumed : Nat} {current : Bytes}

/-- Behind a line start the budgets are not looked at; at one they must admit the line. -/
theorem readStep_at (room : lines.length < limits.maxLines)
    (start : current = [] → admits limits blocks lines.length consumed = true)
    {chunk : ReadChunk} (taken : readChunk (advance blocks (consumed + current.length)) = some chunk) :
    readStep limits (.at blocks offset lines truncatedLines consumed current) =
      some (takeChunk limits (.at blocks offset lines truncatedLines consumed current) chunk) := by
  have within : ¬ (current.length = 0 ∧ limits.maxBytes ≤ consumed + current.length) := by
    rintro ⟨empty, spent⟩
    have ok := start (length_eq_zero_iff.mp empty)
    simp only [admits, Bool.and_eq_true, decide_eq_true_eq] at ok
    omega
  have fits : ¬ (current.length = 0 ∧ 0 < consumed + current.length ∧
      limits.maxBytes < consumed + current.length + chunk.take) := by
    rintro ⟨empty, some_, spent⟩
    have none_ := length_eq_zero_iff.mp empty
    have ok := start none_
    subst none_
    simp only [length_nil, Nat.add_zero] at taken some_ spent
    simp only [admits, firstChunk, taken, Bool.and_eq_true, Bool.or_eq_true,
      decide_eq_true_eq] at ok
    omega
  simp only [readStep, Cursor.at, Nat.not_le.mpr room, if_false, within, taken, fits]

/-- A chunk that ends the line commits it. -/
theorem takeChunk_line (nonempty : [] ∉ blocks) (short : current.length ≤ limits.maxLineBytes)
    (next : advance blocks (consumed + current.length) = block :: rest)
    (found : lineEnd block = some n) :
    takeChunk limits (.at blocks offset lines truncatedLines consumed current)
        ⟨n, true, block.take n⟩ =
      .afterLine limits blocks offset lines truncatedLines consumed (current ++ block.take n) := by
  have later := advance_nonempty nonempty (consumed + current.length)
  rw [next, mem_cons, not_or] at later
  obtain ⟨pos, inside⟩ := lineEnd_le found
  have some_ : block.take n ≠ [] := by
    rw [← length_pos_iff, length_take]
    omega
  have length : (block.take n).length = n := by simp [inside]
  have moved : consume (block :: rest) n = advance blocks (consumed + (current.length + n)) := by
    rw [consume_eq_advance later.2 inside, ← next, advance_add, Nat.add_assoc]
  simp [takeChunk, Cursor.at, Cursor.afterLine, Cursor.commitLine, next, moved,
    appendBounded_eq short (block.take n) some_, length, Nat.add_assoc]

/-- A block without a line end joins the running line, unless that line is too long by now: then
the rest of it is skipped. -/
theorem takeChunk_block (nonempty : [] ∉ blocks) (short : current.length ≤ limits.maxLineBytes)
    (next : advance blocks (consumed + current.length) = block :: rest) :
    takeChunk limits (.at blocks offset lines truncatedLines consumed current)
        ⟨block.length, false, block⟩ =
      if limits.maxLineBytes < (current ++ block).length then
        .afterLine limits blocks offset lines truncatedLines consumed
          (current ++ block ++ firstLine rest.flatten)
      else .at blocks offset lines truncatedLines consumed (current ++ block) := by
  have later := advance_nonempty nonempty (consumed + current.length)
  rw [next, mem_cons, not_or] at later
  have bounded := appendBounded_eq short block (Ne.symm later.1)
  have moved : consume (block :: rest) block.length = rest := by simp [consume]
  have rest_eq : rest = advance blocks (consumed + (current.length + block.length)) := by
    rw [← Nat.add_assoc, ← advance_add, next]
    simp [advance, advance_zero later.2]
  by_cases spent : limits.maxLineBytes < (current ++ block).length
  · have skipped := skipToLineEnd_eq later.2
    have cut : (current ++ block ++ firstLine rest.flatten).take limits.maxLineBytes =
        (current ++ block).take limits.maxLineBytes :=
      take_append_of_le_length (Nat.le_of_lt spent)
    have tooLong : limits.maxLineBytes < (current ++ block ++ firstLine rest.flatten).length := by
      rw [length_append]
      omega
    have ended : advance rest (firstLine rest.flatten).length =
        advance blocks (consumed + (current ++ block ++ firstLine rest.flatten).length) := by
      conv_lhs => rw [rest_eq]
      rw [advance_add, ← rest_eq]
      simp [Nat.add_assoc]
    simp only [takeChunk, Cursor.at, next, moved, bounded, spent, decide_true, if_true, skipped,
      Cursor.commitLine, Cursor.afterLine, cut, tooLong, ended]
    simp [Nat.add_assoc]
  · have all : (current ++ block).take limits.maxLineBytes = current ++ block :=
      take_of_length_le (Nat.not_lt.mp spent)
    simp only [takeChunk, Cursor.at, next, moved, bounded, spent, decide_false, if_false, all]
    simp [← rest_eq, Nat.add_assoc]

/-- The rest of a line, chunk by chunk: a line that is ready is committed, any other is left for
the next read. -/
theorem readLoop_line (nonempty : [] ∉ blocks) (room : lines.length < limits.maxLines)
    (start : admits limits blocks lines.length consumed = true) :
    ∀ (fuel : Nat) (current : Bytes), newline ∉ current →
      current.length ≤ limits.maxLineBytes →
      (blocks.flatten.drop (consumed + current.length)).length < fuel →
      let line := current ++ firstLine (blocks.flatten.drop (consumed + current.length))
      (ready limits line = true → ∃ fuel',
        (blocks.flatten.drop (consumed + line.length)).length < fuel' ∧
        readLoop limits fuel (.at blocks offset lines truncatedLines consumed current) =
          readLoop limits fuel'
            (.afterLine limits blocks offset lines truncatedLines consumed line)) ∧
      (ready limits line = false → ∃ rest,
        readLoop limits fuel (.at blocks offset lines truncatedLines consumed current) =
          .at blocks offset lines truncatedLines consumed rest) := by
  intro fuel
  induction fuel with
  | zero => intro current _ _ enough; omega
  | succ fuel ih =>
    intro current clean short enough
    rw [← advance_flatten] at enough ⊢
    have later := advance_nonempty nonempty (consumed + current.length)
    cases next : advance blocks (consumed + current.length) with
    | nil =>
      -- end of file: what was read of the line is neither complete nor too long
      have stop : readStep limits (.at blocks offset lines truncatedLines consumed current) =
          none := by
        simp [readStep, Cursor.at, next, readChunk]
      have waiting : ready limits (current ++ firstLine ([] : List Bytes).flatten) = false := by
        simp [ready, firstLine, lineEnd, clean, short]
      simp only [waiting, readLoop, stop]
      exact ⟨fun impossible => by simp at impossible, fun _ => ⟨current, rfl⟩⟩
    | cons block rest =>
      rw [next, mem_cons, not_or] at later
      have pos : 0 < block.length := length_pos_iff.mpr (Ne.symm later.1)
      have left : (blocks.flatten.drop (consumed + current.length)) = block ++ rest.flatten := by
        rw [← advance_flatten, next, flatten_cons]
      simp only [next, flatten_cons] at enough ⊢
      rw [length_append] at enough
      cases found : lineEnd block with
      | some n =>
        obtain ⟨some_, inside⟩ := lineEnd_le found
        have taken : readChunk (advance blocks (consumed + current.length)) =
            some ⟨n, true, block.take n⟩ := by
          simp [next, readChunk, Ne.symm later.1, found]
        have step := readStep_at offset truncatedLines room (fun _ => start) taken
        rw [takeChunk_line offset truncatedLines nonempty short next found] at step
        rw [firstLine_append_of_some rest.flatten found]
        have complete : ready limits (current ++ block.take n) = true := by
          simp [ready, newline_mem_take found]
        refine ⟨fun _ => ⟨fuel, ?_, by simp only [readLoop, step]⟩,
          fun waiting => absurd (complete.symm.trans waiting) (by decide)⟩
        have total := congrArg List.length left
        simp only [length_drop, length_append, length_take] at total enough ⊢
        omega
      | none =>
        have taken : readChunk (advance blocks (consumed + current.length)) =
            some ⟨block.length, false, block⟩ := by
          simp [next, readChunk, Ne.symm later.1, found]
        have step := readStep_at offset truncatedLines room (fun _ => start) taken
        rw [takeChunk_block offset truncatedLines nonempty short next] at step
        rw [firstLine_append_of_none rest.flatten found, ← append_assoc]
        have total := congrArg List.length left
        simp only [length_drop, length_append] at total
        by_cases spent : limits.maxLineBytes < (current ++ block).length
        · rw [if_pos spent] at step
          have tooLong : ready limits (current ++ block ++ firstLine rest.flatten) = true := by
            have longer : limits.maxLineBytes <
                (current ++ block ++ firstLine rest.flatten).length := by
              rw [length_append]
              omega
            rw [ready, decide_eq_true longer, Bool.or_true]
          refine ⟨fun _ => ⟨fuel, ?_, by simp only [readLoop, step]⟩,
            fun waiting => absurd (tooLong.symm.trans waiting) (by decide)⟩
          simp only [length_drop, length_append] at enough ⊢
          omega
        · rw [if_neg spent] at step
          have joined : blocks.flatten.drop (consumed + (current ++ block).length) =
              rest.flatten := by
            rw [length_append, ← Nat.add_assoc, ← drop_drop, left]
            simp
          have cleaner : newline ∉ current ++ block := by
            simp [clean, lineEnd_none_iff.mp found]
          have inner := ih (current ++ block) cleaner (Nat.not_lt.mp spent) (by rw [joined]; omega)
          rw [joined] at inner
          simpa only [readLoop, step] using inner

/-- At a line start, budgets that do not admit another line end the loop. -/
theorem readStep_refused
    (refused : admits limits blocks lines.length consumed = false) :
    readStep limits (.at blocks offset lines truncatedLines consumed []) = none := by
  simp only [readStep, Cursor.at, length_nil, Nat.add_zero, true_and]
  split
  · rfl
  · split
    · rfl
    · cases taken : readChunk (advance blocks consumed) with
      | none => rfl
      | some chunk =>
        simp only [admits, firstChunk, taken, Bool.and_eq_false_iff, Bool.or_eq_false_iff,
          decide_eq_false_iff_not] at refused
        simp only []
        rw [if_pos (by omega)]

theorem splitLines_eq_nil : splitLines bytes = [] ↔ bytes = [] := by
  constructor
  · intro none_
    rw [← splitLines_flatten bytes, none_, flatten_nil]
  · rintro rfl
    rfl

theorem readLoop_lines (nonempty : [] ∉ blocks) : ∀ (pending : List Bytes) (fuel : Nat)
    (lines : List RawFileLine) (truncatedLines consumed : Nat),
    splitLines (blocks.flatten.drop consumed) = pending →
    (blocks.flatten.drop consumed).length < fuel →
    let taken := takeLines limits blocks lines.length consumed pending
    let c := readLoop limits fuel (.at blocks offset lines truncatedLines consumed [])
    c.lines = lines ++ rawLines limits.maxLineBytes (offset + consumed) taken ∧
      c.committedEndOffset = offset + consumed + taken.flatten.length ∧
      c.truncatedLines = truncatedLines +
        taken.countP fun line => decide (limits.maxLineBytes < line.length) := by
  intro pending
  induction pending with
  | nil =>
    intro fuel lines truncatedLines consumed split enough
    have done : (advance blocks consumed) = [] := by
      have flat : (advance blocks consumed).flatten = [] := by
        rw [advance_flatten, splitLines_eq_nil.mp split]
      cases rest : advance blocks consumed with
      | nil => rfl
      | cons block more =>
        have nonempty' := advance_nonempty nonempty consumed
        simp only [rest, flatten_cons, append_eq_nil_iff] at flat
        simp [rest, flat.1] at nonempty'
    have stop : readStep limits (.at blocks offset lines truncatedLines consumed []) = none := by
      simp [readStep, Cursor.at, done, readChunk]
    cases fuel with
    | zero => omega
    | succ fuel =>
      simp only [readLoop, stop, takeLines, rawLines]
      simp
  | cons line pending ih =>
    intro fuel lines truncatedLines consumed split enough
    have some_ : blocks.flatten.drop consumed ≠ [] := fun empty => by
      simp [splitLines_eq_nil.mpr empty] at split
    rw [splitLines_eq some_, List.cons.injEq] at split
    obtain ⟨first, others⟩ := split
    rw [first, drop_drop] at others
    cases fuel with
    | zero => omega
    | succ fuel =>
      cases admitted : admits limits blocks lines.length consumed with
      | false =>
        have stop := readStep_refused offset truncatedLines admitted
        simp only [readLoop, stop, takeLines, admitted]
        simp [rawLines]
      | true =>
        have room : lines.length < limits.maxLines := by
          simp only [admits, Bool.and_eq_true, decide_eq_true_eq] at admitted
          omega
        have run := readLoop_line offset truncatedLines nonempty room admitted (fuel + 1) []
          (by simp) (Nat.zero_le _) (by simpa using enough)
        simp only [length_nil, Nat.add_zero, nil_append, first] at run
        cases whole : ready limits line with
        | false =>
          obtain ⟨rest, ended⟩ := run.2 whole
          simp only [ended, takeLines, admitted, whole]
          simp [rawLines]
        | true =>
          obtain ⟨fuel', enough', continued⟩ := run.1 whole
          have later := ih fuel' (lines ++ [⟨fromUtf8Lossy (line.take limits.maxLineBytes),
            offset + consumed, offset + consumed + line.length⟩])
            (if limits.maxLineBytes < line.length then truncatedLines + 1
              else truncatedLines) (consumed + line.length) others enough'
          simp only [length_append, length_singleton] at later
          obtain ⟨sameLines, sameEnd, sameCount⟩ := later
          simp only [takeLines, admitted, whole, Bool.and_self, if_true, continued,
            Cursor.afterLine]
          refine ⟨?_, ?_, ?_⟩
          · rw [sameLines]
            simp [rawLines, Nat.add_assoc]
          · rw [sameEnd]
            simp [Nat.add_assoc]
          · rw [sameCount, countP_cons]
            by_cases spent : limits.maxLineBytes < line.length
            · simp only [spent, if_true, decide_true]
              omega
            · simp [spent]

end Loop

/-- **One read, exactly.** The lines returned are the longest run of lines of the newline split
behind the offset that the budgets admit and that are ready to be committed. -/
theorem readContent_eq (chunking : Chunking) (content : Bytes) (startOffset : Nat)
    (limits : ReadLimits) :
    let offset := min startOffset content.length
    let rest := content.drop offset
    let taken := takeLines limits (chunking.cut rest) 0 0 (splitLines rest)
    let c := readContent chunking content startOffset limits
    c.lines = rawLines limits.maxLineBytes offset taken ∧
      c.committedEndOffset = offset + taken.flatten.length ∧
      c.truncatedLines = taken.countP fun line => decide (limits.maxLineBytes < line.length) := by
  intro offset rest taken c
  have flat : (chunking.cut rest).flatten = rest := chunking.flatten_cut rest
  have ran := @readLoop_lines limits _ offset (chunking.nonempty rest) (splitLines rest)
    (content.length + 1) [] 0 0 (by rw [flat, drop_zero]) (by
      rw [flat, drop_zero, length_drop]
      omega)
  have begun : Cursor.at (chunking.cut rest) offset [] 0 0 [] =
      .start offset (chunking.cut rest) := by
    simp [Cursor.at, Cursor.start, advance_zero (chunking.nonempty rest)]
  rw [begun] at ran
  simpa [c, readContent, taken] using ran

end WistAgentd.Telemetry

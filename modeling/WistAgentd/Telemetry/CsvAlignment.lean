/- # Telemetry.CsvAlignment -- complete csvlog records are records of the file

A position of the file is a record boundary when it stands behind a newline outside quotes. What the
folder emits as complete should lie between two neighbouring boundaries. It does as long as the folder
knows the quote state of the file; it loses it at a line the reader cut off inside quotes, or in the
middle of a line that is still being written.

* `CsvBoundary`, `OneCsvRecord`, `CompleteIn`: records of a byte string.
* `scanCsv_lossy`: decoding does not disturb the quote state.
* `HandedOver`: what the reader hands over as one line.
* `Aligned`, `push_aligned`, `foldl_aligned`: what the folder knows about the file, line by line.
* `csv_aligned_iff`: every complete record is one of the file exactly when lines are cut at
  boundaries. -/
import WistAgentd.Telemetry.CsvFolding
import WistAgentd.Telemetry.Files.ReadRefinement

namespace WistAgentd.Telemetry
open Theory.Utf8
open List
set_option autoImplicit false

variable {content line : Bytes} {maxLineBytes : Nat}

/-! ## Records of a byte string -/

/-- Whether the bytes end inside quotes. -/
def quotesOpen (bytes : Bytes) : Bool := (scanCsv bytes false false).2

/-- The start, or a newline outside quotes right before. -/
def CsvBoundary (bytes : Bytes) (n : Nat) : Prop :=
  n ≤ bytes.length ∧ (n = 0 ∨ (bytes.take n).getLast? = some newline) ∧
    quotesOpen (bytes.take n) = false

/-- The bytes between two neighbouring boundaries. -/
structure OneCsvRecord (bytes : Bytes) (start stop : Nat) : Prop where
  before : CsvBoundary bytes start
  behind : CsvBoundary bytes stop
  some_ : start < stop
  whole : ∀ n, start < n → n < stop → ¬ CsvBoundary bytes n

/-- The record is one of the file: its offsets, its text. -/
def CompleteIn (content : Bytes) (record : Record) : Prop :=
  OneCsvRecord content record.startOffset record.endOffset ∧
    record.body = fromUtf8Lossy ((content.take record.endOffset).drop record.startOffset)

theorem boundary_append_iff (more : Bytes) {n : Nat} (inside : n ≤ content.length) :
    CsvBoundary (content ++ more) n ↔ CsvBoundary content n := by
  unfold CsvBoundary
  rw [take_append_of_le_length inside, length_append]
  exact ⟨fun boundary => ⟨inside, boundary.2⟩, fun boundary => ⟨by omega, boundary.2⟩⟩

theorem boundary_end_iff : CsvBoundary content content.length ↔
    (content = [] ∨ content.getLast? = some newline) ∧ quotesOpen content = false := by
  unfold CsvBoundary
  rw [take_length, length_eq_zero_iff]
  exact ⟨fun boundary => boundary.2, fun boundary => ⟨Nat.le_refl _, boundary⟩⟩

/-- No boundary strictly inside a line. -/
theorem not_boundary_inside (single : newline ∉ line.dropLast) {n : Nat}
    (behind : content.length < n) (before : n < content.length + line.length) :
    ¬ CsvBoundary (content ++ line) n := by
  rintro ⟨-, ends, -⟩
  have last := ends.resolve_left (by omega)
  have some_ : line.take (n - content.length) ≠ [] := by
    rw [← length_pos_iff, length_take]
    omega
  rw [take_append, take_of_length_le (Nat.le_of_lt behind),
    List.getLast?_append_of_ne_nil _ some_] at last
  rw [dropLast_eq_take] at single
  exact single (take_subset_take_left line (by omega) (mem_of_getLast? last))

theorem CompleteIn.append {record : Record} (complete : CompleteIn content record) (more : Bytes) :
    CompleteIn (content ++ more) record := by
  obtain ⟨one, body⟩ := complete
  have inside := one.behind.1
  refine ⟨⟨?_, ?_, one.some_, ?_⟩, ?_⟩
  · exact (boundary_append_iff more one.before.1).2 one.before
  · exact (boundary_append_iff more inside).2 one.behind
  · intro n low high boundary
    exact one.whole n low high ((boundary_append_iff more (by omega)).1 boundary)
  · rw [take_append_of_le_length inside]
    exact body

/-! ## Decoding and quotes -/

/-- Bytes that are not ASCII are neither quotes nor newlines. -/
theorem scanCsv_skip {front : Bytes} (plain : ∀ b ∈ front, 0x80 ≤ b) (back : Bytes)
    (ended inQuotes : Bool) : scanCsv (front ++ back) ended inQuotes = scanCsv back ended inQuotes := by
  induction front with
  | nil => rfl
  | cons b rest ih =>
    have high := plain b mem_cons_self
    have notQuote : b ≠ quote := by
      rintro rfl
      exact absurd high (by decide)
    have notNewline : b ≠ newline := by
      rintro rfl
      exact absurd high (by decide)
    rw [cons_append, scanCsv_cons, scanStep, if_neg notQuote, if_neg fun both => notNewline both.1]
    exact ih fun other mem => plain other (mem_cons_of_mem _ mem)

theorem fromUtf8Lossy_ascii {b : UInt8} (ascii : b < 0x80) (rest : List UInt8) :
    fromUtf8Lossy (b :: rest) = b :: fromUtf8Lossy rest :=
  fromUtf8Lossy_append_ascii ascii rest []

/-- **Decoding keeps the quote state.** -/
theorem scanCsv_lossy (bytes : Bytes) (ended inQuotes : Bool) :
    scanCsv (fromUtf8Lossy bytes) ended inQuotes = scanCsv bytes ended inQuotes := by
  induction size : bytes.length using Nat.strongRecOn generalizing bytes ended inQuotes with
  | _ size ih =>
    have shorter : ∀ {other : Bytes}, List.length other < List.length bytes → ∀ ended inQuotes,
        scanCsv (fromUtf8Lossy other) ended inQuotes = scanCsv other ended inQuotes :=
      fun less ended inQuotes => ih _ (size ▸ less) _ ended inQuotes rfl
    cases bytes with
    | nil => rfl
    | cons b rest =>
      by_cases ascii : b < 0x80
      · rw [fromUtf8Lossy_ascii ascii, scanCsv_cons, scanCsv_cons]
        exact shorter (by simp) _ _
      · obtain ⟨front, -, high, eq⟩ := fromUtf8Lossy_high ascii rest
        have own : ∀ other ∈ b :: rest.take (scan b rest).2, 0x80 ≤ other := by
          intro other mem
          rcases mem_cons.1 mem with rfl | later
          · exact UInt8.not_lt.1 ascii
          · exact scan_high b rest other later
        have split : b :: rest = (b :: rest.take (scan b rest).2) ++ rest.drop (scan b rest).2 := by
          rw [cons_append, take_append_drop]
        rw [eq, scanCsv_skip high, split, scanCsv_skip own]
        exact shorter (by rw [length_drop, length_cons]; omega) _ _

/-! ## Lines -/

/-- What the reader hands over as one line; `ready`: it is complete, or longer than what is kept. -/
structure HandedOver (maxLineBytes : Nat) (line : Bytes) : Prop where
  single : newline ∉ line.dropLast
  ready : line.getLast? = some newline ∨ maxLineBytes < line.length

theorem quotesOpen_append (more : Bytes) :
    quotesOpen (content ++ more) = (scanCsv more false (quotesOpen content)).2 := by
  rw [quotesOpen, scanCsv_append, scanCsv_ended]
  rfl

theorem scanCsv_single {text : Bytes} (single : newline ∉ text) (ended inQuotes : Bool) :
    (scanCsv text ended inQuotes).1 = ended := by
  induction text generalizing ended inQuotes with
  | nil => rfl
  | cons b rest ih =>
    rw [mem_cons, not_or] at single
    rw [scanCsv_cons, ih single.2]
    simp [scanStep, Ne.symm single.1, apply_ite Prod.fst]

/-- At the end of a line the record is over unless the quotes are open. -/
theorem scanCsv_line (line : Bytes) (ended inQuotes : Bool) (single : newline ∉ line.dropLast)
    (ends : line.getLast? = some newline) :
    (scanCsv line ended inQuotes).1 = (ended || !(scanCsv line ended inQuotes).2) := by
  obtain ⟨init, rfl⟩ := List.getLast?_eq_some_iff.1 ends
  rw [dropLast_concat] at single
  rw [scanCsv_append, scanCsv_single single, scanCsv_cons]
  cases (scanCsv init ended inQuotes).2 <;> simp [scanStep, scanCsv, newline, quote]

theorem fromUtf8Lossy_lines {front : Bytes} (lines : front = [] ∨ front.getLast? = some newline)
    (back : Bytes) : fromUtf8Lossy (front ++ back) = fromUtf8Lossy front ++ fromUtf8Lossy back := by
  rcases lines with rfl | ends
  · rfl
  · obtain ⟨init, rfl⟩ := List.getLast?_eq_some_iff.1 ends
    rw [append_assoc, singleton_append, fromUtf8Lossy_append_ascii (by decide),
      fromUtf8Lossy_append_ascii (by decide)]
    simp

theorem lossy_ends (ends : line.getLast? = some newline) :
    (fromUtf8Lossy line).getLast? = some newline := by
  obtain ⟨init, rfl⟩ := List.getLast?_eq_some_iff.1 ends
  rw [fromUtf8Lossy_append_ascii (by decide)]
  simp

/-- The text of a cut line has no newline. -/
theorem lossy_cut (single : newline ∉ line.dropLast) (cut : maxLineBytes < line.length) :
    (fromUtf8Lossy (line.take maxLineBytes)).getLast? ≠ some newline := by
  intro ends
  rw [dropLast_eq_take] at single
  refine ascii_not_mem_fromUtf8Lossy (by decide) (fun mem => ?_) (mem_of_getLast? ends)
  exact single (take_subset_take_left line (by omega) mem)

/-! ## The folder -/

/-- A record being collected: it starts at a boundary, and none came since. -/
structure Collects (content : Bytes) (acc : CsvRecord) : Prop where
  starts : CsvBoundary content acc.record.startOffset
  whole : ∀ n, acc.record.startOffset < n → n ≤ content.length → ¬ CsvBoundary content n
  body : acc.record.body = fromUtf8Lossy (content.drop acc.record.startOffset)
  quotes : acc.inQuotes = quotesOpen content

/-- What the folder knows about the file so far. -/
structure Aligned (content : Bytes) (fold : CsvFold) : Prop where
  lines : content = [] ∨ content.getLast? = some newline
  complete : ∀ record ∈ fold.finished, record.completion = .boundary → CompleteIn content record
  collects : ∀ acc ∈ fold.current, fold.discarding = false ∧ Collects content acc
  idle : fold.current = none → fold.discarding = false → quotesOpen content = false
  discards : fold.discarding = true → fold.discardingInQuotes = quotesOpen content

/-- A line of the content as it is handed over when it is not cut. -/
def wholeLine (content line : Bytes) : RawFileLine :=
  ⟨fromUtf8Lossy line, content.length, content.length + line.length⟩

section Push

variable {content line : Bytes} {fold : CsvFold}

theorem Collects.begin (boundary : CsvBoundary content content.length) (line : Bytes) :
    Collects content (CsvRecord.begin (wholeLine content line)) where
  starts := boundary
  whole n low high := absurd (show content.length < n from low) (Nat.not_lt.2 high)
  body := by
    show [] = fromUtf8Lossy (content.drop content.length)
    rw [drop_length]
    rfl
  quotes := (boundary_end_iff.1 boundary).2.symm

/-- The text collected so far and the line that joins it. -/
theorem Collects.body_extend {acc : CsvRecord} (collects : Collects content acc)
    (lines : content = [] ∨ content.getLast? = some newline) :
    acc.record.body ++ fromUtf8Lossy line =
      fromUtf8Lossy ((content ++ line).drop acc.record.startOffset) := by
  rw [drop_append_of_le_length collects.starts.1, fromUtf8Lossy_lines, collects.body]
  by_cases all : content.length ≤ acc.record.startOffset
  · exact .inl (drop_eq_nil_of_le all)
  · rw [List.getLast?_drop, if_neg all]
    refine .inr (lines.resolve_left ?_)
    rintro rfl
    exact all (Nat.zero_le _)

theorem take_aligned {acc : CsvRecord} (aligned : Aligned content fold) (calm : fold.discarding = false)
    (collects : Collects content acc) (single : newline ∉ line.dropLast)
    (ends : line.getLast? = some newline) :
    Aligned (content ++ line) (fold.take acc (wholeLine content line)) := by
  have some_ : 0 < line.length := length_pos_iff.2 fun none_ => by simp [none_] at ends
  have lines : content ++ line = [] ∨ (content ++ line).getLast? = some newline := by
    refine .inr ?_
    rw [List.getLast?_append, ends]
    rfl
  have quotes := @quotesOpen_append content line
  have over_ := scanCsv_line line false acc.inQuotes single ends
  rw [← collects.quotes] at quotes
  rw [← quotes, Bool.false_or] at over_
  have inside : ∀ n, acc.record.startOffset < n → n < content.length + line.length →
      ¬ CsvBoundary (content ++ line) n := by
    intro n low high
    by_cases old : n ≤ content.length
    · rw [boundary_append_iff line old]
      exact collects.whole n low old
    · exact not_boundary_inside single (by omega) high
  have starts : CsvBoundary (content ++ line) acc.record.startOffset :=
    (boundary_append_iff line collects.starts.1).2 collects.starts
  have older : ∀ record ∈ fold.finished, record.completion = .boundary →
      CompleteIn (content ++ line) record :=
    fun record mem sealed_ => (aligned.complete record mem sealed_).append line
  simp only [CsvFold.take, wholeLine, scanCsv_lossy, over_]
  cases open_ : quotesOpen (content ++ line) with
  | true =>
    refine ⟨lines, older, ?_, by simp, fun discards => ?_⟩
    · intro next mem
      cases mem
      refine ⟨calm, starts, ?_, collects.body_extend aligned.lines, ?_⟩
      · intro n low high
        rw [length_append] at high
        by_cases last : n = content.length + line.length
        · rintro ⟨-, -, closed⟩
          rw [last, ← length_append, take_length, open_] at closed
          cases closed
        · exact inside n low (by omega)
      · rw [← quotes]
    · cases calm.symm.trans discards
  | false =>
    have stop : CsvBoundary (content ++ line) (content.length + line.length) := by
      rw [← length_append]
      exact boundary_end_iff.2 ⟨lines, open_⟩
    refine ⟨lines, ?_, by simp, fun _ _ => open_, fun discards => ?_⟩
    · intro record mem sealed_
      rcases mem_append.1 mem with old | new
      · exact older record old sealed_
      · rw [mem_singleton.1 new]
        refine ⟨⟨starts, stop, ?_, inside⟩, ?_⟩
        · exact Nat.lt_of_le_of_lt collects.starts.1 (Nat.lt_add_of_pos_right some_)
        · show acc.record.body ++ fromUtf8Lossy line = fromUtf8Lossy
            (((content ++ line).take (content.length + line.length)).drop acc.record.startOffset)
          rw [← length_append, take_length]
          exact collects.body_extend aligned.lines
    · cases calm.symm.trans discards

/-- A line thrown away: the quote state is followed. -/
theorem discard_aligned {finished : List Record} {inQuotes : Bool} (aligned : Aligned content fold)
    (finished_ : ∀ record ∈ finished, record.completion = .boundary → record ∈ fold.finished)
    (known : inQuotes = quotesOpen content) (single : newline ∉ line.dropLast)
    (ends : line.getLast? = some newline) :
    Aligned (content ++ line)
      { current := none, finished, discarding := !(scanCsv (fromUtf8Lossy line) false inQuotes).1
        discardingInQuotes := (scanCsv (fromUtf8Lossy line) false inQuotes).2 } := by
  have quotes := @quotesOpen_append content line
  rw [← known] at quotes
  rw [scanCsv_lossy, scanCsv_line line false inQuotes single ends, ← quotes]
  refine ⟨.inr ?_, ?_, (nofun), fun _ calm => ?_, fun _ => rfl⟩
  · rw [List.getLast?_append, ends]
    rfl
  · intro record mem sealed_
    exact (aligned.complete record (finished_ record mem sealed_) sealed_).append line
  · simpa using calm

/-- **One line pushed**, as the reader hands it over; a cut line has to end at a boundary. -/
theorem push_aligned (aligned : Aligned content fold) (handed : HandedOver maxLineBytes line)
    (cuts : maxLineBytes < line.length → CsvBoundary (content ++ line) (content ++ line).length) :
    Aligned (content ++ line) (fold.push ⟨fromUtf8Lossy (line.take maxLineBytes), content.length,
      content.length + line.length⟩) := by
  unfold CsvFold.push
  by_cases cut : maxLineBytes < line.length
  · rw [if_pos (lossy_cut handed.single cut)]
    obtain ⟨lines, closed⟩ := boundary_end_iff.1 (cuts cut)
    refine ⟨lines, ?_, (nofun), fun _ _ => closed, (fun discards => nomatch discards)⟩
    intro record mem sealed_
    rcases mem_append.1 mem with old | new
    · exact (aligned.complete record old sealed_).append line
    · rw [mem_singleton.1 new] at sealed_
      cases sealed_
  · have ends := handed.ready.resolve_right cut
    have single := handed.single
    rw [take_of_length_le (Nat.not_lt.1 cut), if_neg (not_not.2 (lossy_ends ends))]
    by_cases discards : fold.discarding = true
    · rw [if_pos discards]
      have none_ : fold.current = none := by
        cases current : fold.current with
        | none => rfl
        | some acc =>
          have calm := (aligned.collects acc current).1
          rw [discards] at calm
          cases calm
      have pushed := discard_aligned aligned (fun _ mem _ => mem) (aligned.discards discards)
        single ends
      rw [← none_] at pushed
      exact pushed
    · rw [if_neg discards]
      have calm : fold.discarding = false := by simpa using discards
      cases current : fold.current with
      | none =>
        have boundary := boundary_end_iff.2 ⟨aligned.lines, aligned.idle current calm⟩
        exact take_aligned aligned calm (.begin boundary line) single ends
      | some acc =>
        have collects := (aligned.collects acc current).2
        dsimp only
        split
        · refine discard_aligned aligned ?_ collects.quotes single ends
          intro record mem sealed_
          rcases mem_append.1 mem with old | new
          · exact old
          · rw [mem_singleton.1 new] at sealed_
            cases sealed_
        · exact take_aligned aligned calm collects single ends

end Push

/-! ## Streams -/

/-- Every line that is cut ends at a record boundary of the file. -/
def CutsAtBoundaries (maxLineBytes : Nat) (content : Bytes) (blocks : List Bytes) : Prop :=
  ∀ front line, front ++ [line] <+: blocks → maxLineBytes < line.length →
    CsvBoundary (content ++ front.flatten ++ line) (content ++ front.flatten ++ line).length

/-- **A whole stream of lines.** -/
theorem foldl_aligned (blocks : List Bytes) : ∀ {content : Bytes} {fold : CsvFold},
    Aligned content fold → (∀ line ∈ blocks, HandedOver maxLineBytes line) →
    CutsAtBoundaries maxLineBytes content blocks →
    Aligned (content ++ blocks.flatten)
      ((rawLines maxLineBytes content.length blocks).foldl CsvFold.push fold) := by
  induction blocks with
  | nil =>
    intro content fold aligned _ _
    rw [flatten_nil, append_nil]
    exact aligned
  | cons line blocks ih =>
    intro content fold aligned handed cuts
    have pushed := push_aligned aligned (handed line mem_cons_self) fun cut => by
      simpa using cuts [] line (by simp) cut
    have later := @ih (content ++ line) _ pushed
      (fun other mem => handed other (mem_cons_of_mem _ mem)) (by
        intro front other within cut
        have there := cuts (line :: front) other
          (by rw [cons_append]; exact cons_prefix_cons.2 ⟨rfl, within⟩) cut
        rw [flatten_cons, ← append_assoc] at there
        exact there)
    rw [flatten_cons, ← append_assoc, rawLines, foldl_cons]
    rw [length_append] at later
    exact later

/-- However the lines come in reads, every record emitted as complete is one of the file; `before` is
what the file held in front of the stream. A read may not end inside a record over the limits. -/
def StreamAligned (path : Path) (maxLineBytes : Nat) (before : Bytes) (blocks : List Bytes) : Prop :=
  ∀ reads, reads.flatMap Prod.fst = rawLines maxLineBytes before.length blocks →
    NoCutDiscarding path reads none → ∀ record ∈ (foldReads path reads none).1,
    record.completion = .boundary → CompleteIn (before ++ blocks.flatten) record

theorem stream_aligned (path : Path) {before : Bytes} {blocks : List Bytes}
    (starts : CsvBoundary before before.length)
    (handed : ∀ line ∈ blocks, HandedOver maxLineBytes line)
    (cuts : CutsAtBoundaries maxLineBytes before blocks) :
    StreamAligned path maxLineBytes before blocks := by
  intro reads lines noCut record mem
  obtain ⟨linesEnd, closed⟩ := boundary_end_iff.1 starts
  have start : Aligned before (CsvFold.start path none) :=
    ⟨linesEnd, (nofun), (nofun), fun _ _ => closed, (fun discards => nomatch discards)⟩
  have aligned := foldl_aligned blocks start handed cuts
  rw [(foldReads_csvFold path reads (by rintro _ ⟨⟩) noCut).1, lines] at mem
  exact aligned.complete record mem

/-- After a cut line the folder starts afresh: an empty line is a record to it. -/
theorem push_after_cut (fold : CsvFold) (offset : Nat) (single : newline ∉ line.dropLast)
    (cut : maxLineBytes < line.length) (start stop : Nat) :
    ⟨[newline], start, stop, 1, .boundary⟩ ∈ ((fold.push ⟨fromUtf8Lossy (line.take maxLineBytes), offset,
      offset + line.length⟩).push ⟨[newline], start, stop⟩).finished := by
  have cleared : fold.push ⟨fromUtf8Lossy (line.take maxLineBytes), offset, offset + line.length⟩ =
      ⟨none, _, false, false⟩ := if_pos (lossy_cut single cut)
  rw [cleared]
  exact mem_append_right _ mem_cons_self

/-- **Complete records are records of the file** exactly when lines are cut at boundaries: of a stream
that starts at one, of every part of it from the front, and however that part goes on with lines that
fit. A reader keeps at least one byte of a line. -/
theorem csv_aligned_iff (path : Path) {maxLineBytes : Nat} (keeps : 0 < maxLineBytes) {before : Bytes}
    {blocks : List Bytes} (starts : CsvBoundary before before.length)
    (handed : ∀ line ∈ blocks, HandedOver maxLineBytes line) :
    (∀ front more, front <+: blocks →
        (∀ line ∈ more, HandedOver maxLineBytes line ∧ line.length ≤ maxLineBytes) →
        StreamAligned path maxLineBytes before (front ++ more)) ↔
      CutsAtBoundaries maxLineBytes before blocks := by
  constructor
  · intro aligned front line within cut
    have single := (handed line (within.subset (by simp))).single
    have fits : ∀ other ∈ [[newline]], HandedOver maxLineBytes other ∧ other.length ≤ maxLineBytes := by
      intro other mem
      rw [mem_singleton.1 mem]
      exact ⟨⟨by simp, .inl rfl⟩, keeps⟩
    let stream := rawLines maxLineBytes before.length (front ++ [line] ++ [[newline]])
    have noCut : NoCutDiscarding path [(stream, "")] none := by
      intro earlier later split comes
      rcases earlier with _ | ⟨first, rest⟩
      · rfl
      · rw [(append_eq_nil_iff.1 (List.cons.inj split).2.symm).2] at comes
        exact absurd rfl comes
    -- the empty line behind the cut one is a record of its own
    have text : fromUtf8Lossy ([newline].take maxLineBytes) = [newline] := by
      rw [take_of_length_le keeps]
      rfl
    let stop := before.length + (front ++ [line]).flatten.length
    have emitted : ⟨[newline], stop, stop + 1, 1, .boundary⟩ ∈
        (foldReads path [(stream, "")] none).1 := by
      rw [(foldReads_csvFold path _ (by rintro _ ⟨⟩) noCut).1]
      simp only [flatMap_cons, flatMap_nil, append_nil, stream, csvFold]
      rw [rawLines_append, rawLines_append, foldl_append, foldl_append]
      simp only [rawLines, foldl_cons, foldl_nil, text]
      exact push_after_cut _ _ single cut _ _
    obtain ⟨one, -⟩ := aligned (front ++ [line]) [[newline]] within fits [(stream, "")]
      (by simp [stream]) noCut _ emitted rfl
    have boundary := one.before
    rw [show (Record.startOffset ⟨[newline], stop, stop + 1, 1, .boundary⟩) = stop from rfl,
      flatten_append, ← append_assoc, boundary_append_iff _ (by simp [stop])] at boundary
    rw [flatten_append, flatten_singleton, ← append_assoc] at boundary
    rw [show stop = (before ++ front.flatten ++ line).length by simp [stop]] at boundary
    exact boundary
  · intro cuts front more within fits
    refine stream_aligned path starts ?_ ?_
    · intro line mem
      rcases mem_append.1 mem with old | new
      · exact handed line (within.subset old)
      · exact (fits line new).1
    · intro earlier line begins cut
      refine cuts earlier line (List.IsPrefix.trans ?_ within) cut
      obtain ⟨rest, split⟩ := begins
      rcases append_eq_append_iff.1 split with ⟨rest, eq, -⟩ | ⟨beyond, eq, others⟩
      · exact ⟨rest, eq.symm⟩
      · rcases beyond.eq_nil_or_concat with rfl | ⟨init, last, rfl⟩
        · have whole : earlier ++ [line] = front := by simpa using eq
          exact whole ▸ prefix_rfl
        · have same : line = last := by simpa using congrArg List.getLast? eq
          have short := (fits last (by rw [others]; simp)).2
          rw [← same] at short
          exact absurd short (Nat.not_le.2 cut)

/-- A field of three lines, the first cut off after four bytes: its second line is taken for a record. -/
theorem inner_line_complete :
    let blocks := [ascii "\"abcdef\n", ascii "x\n", ascii "\"\n"]
    ⟨ascii "x\n", 8, 10, 1, .boundary⟩ ∈ (foldReads "/d/a" [(rawLines 4 0 blocks, "")] none).1 ∧
      ¬ CsvBoundary blocks.flatten 8 ∧ ¬ CsvBoundary blocks.flatten 10 := by
  refine ⟨by decide +kernel, fun boundary => ?_, fun boundary => ?_⟩
  · exact absurd boundary.2.2 (by decide +kernel)
  · exact absurd boundary.2.2 (by decide +kernel)

/-- Cut behind the closing quote, the lines after it are what they seem. -/
theorem csv_aligned_iff_cutUnquoted :
    let blocks := [ascii "\"a\",bcd\n", ascii "x\n"]
    CutsAtBoundaries 4 [] blocks ∧ StreamAligned "/d/a" 4 [] blocks := by
  intro blocks
  have handed : ∀ line ∈ blocks, HandedOver 4 line := by
    intro line mem
    rcases mem_pair.1 mem with rfl | rfl <;> exact ⟨by decide, .inl (by decide)⟩
  have cuts : CutsAtBoundaries 4 [] blocks := by
    intro front line within cut
    rcases front with _ | ⟨first, _ | ⟨second, rest⟩⟩
    · obtain ⟨rfl, -⟩ := cons_prefix_cons.1 within
      exact boundary_end_iff.2 ⟨.inr (by decide), by decide +kernel⟩
    · obtain ⟨-, later⟩ := cons_prefix_cons.1 within
      obtain ⟨rfl, -⟩ := cons_prefix_cons.1 later
      exact absurd cut (by decide)
    · have short := within.length_le
      simp [blocks] at short
  have aligned := (csv_aligned_iff "/d/a" (by decide) (boundary_end_iff.2 ⟨.inl rfl, rfl⟩) handed).2 cuts
    blocks [] prefix_rfl (by simp)
  exact ⟨cuts, by rwa [append_nil] at aligned⟩

end WistAgentd.Telemetry

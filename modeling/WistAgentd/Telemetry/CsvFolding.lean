/- # Telemetry.CsvFolding -- folding csvlog lines read by read

The open record is all that is kept between two reads; its quote state is computed again from its
text. A doubled quote toggles the state twice, so a seam inside one is harmless and the recomputed
state is the one the loop had. What is not kept is that the loop was throwing away the rest of a
record over the limits: a read that ends there loses it, as the source says it does.

* `scanCsv_eq`: the scan toggles at every quote; `scanCsv_compositional`: it is that of the parts.
* `CsvFold.Settled`: the quote state is that of the text; `push_settled`, `foldl_settled`.
* `CsvFold.Follows`: two folds that differ in what they have finished so far.
* `foldReads_eq_foldCsv`: one read after the other, or all at once. -/
import WistAgentd.Telemetry.Multiline

namespace WistAgentd.Telemetry
open List
set_option autoImplicit false

variable {earlier : List Record} {path : Path} {lines : List RawFileLine}

/-! ## Scanning in parts -/

/-- One byte, for a scan that toggles the state at every quote. -/
def scanStep (state : Bool × Bool) (b : UInt8) : Bool × Bool :=
  if b = quote then (state.1, !state.2)
  else if b = newline ∧ state.2 = false then (true, state.2)
  else state

theorem scanCsv_eq (text : Bytes) (ended inQuotes : Bool) :
    scanCsv text ended inQuotes = text.foldl scanStep (ended, inQuotes) := by
  induction text, ended, inQuotes using scanCsv.induct with
  | case1 ended inQuotes => rfl
  | case2 ended inQuotes => simp [scanCsv, scanStep]
  | case3 ended inQuotes next more escaped ih =>
    -- the two quotes of an escape toggle there and back
    obtain ⟨rfl, rfl⟩ : inQuotes = true ∧ next = quote := by simpa using escaped
    simpa [scanCsv, scanStep] using ih
  | case4 ended inQuotes next more plain ih =>
    simp only [scanCsv, if_true, plain]
    exact ih
  | case5 b rest ended inQuotes other ends ih =>
    rw [scanCsv.eq_def, foldl_cons, scanStep]
    simp only [if_neg other, if_pos ends, ih]
  | case6 b rest ended inQuotes other goesOn ih =>
    rw [scanCsv.eq_def, foldl_cons, scanStep]
    simp only [if_neg other, if_neg goesOn, ih]

section

variable (front back text : Bytes) (ended inQuotes : Bool)

theorem scanCsv_append : scanCsv (front ++ back) ended inQuotes =
    scanCsv back (scanCsv front ended inQuotes).1 (scanCsv front ended inQuotes).2 := by
  simp only [scanCsv_eq, foldl_append]

theorem scanCsv_cons (b : UInt8) : scanCsv (b :: text) ended inQuotes =
    scanCsv text (scanStep (ended, inQuotes) b).1 (scanStep (ended, inQuotes) b).2 := by
  simp only [scanCsv_eq, foldl_cons]

/-- What was met before is only remembered. -/
theorem scanCsv_ended : scanCsv text ended inQuotes =
    (ended || (scanCsv text false inQuotes).1, (scanCsv text false inQuotes).2) := by
  induction text generalizing ended inQuotes with
  | nil => simp [scanCsv]
  | cons b rest ih =>
    rw [scanCsv_cons, ih, scanCsv_cons rest false, ih (scanStep (false, inQuotes) b).1]
    unfold scanStep
    split <;> [skip; split] <;> simp

/-- **The scan of a text is that of its parts**, wherever it is cut, and a doubled quote is nothing
but two quotes. -/
theorem scanCsv_compositional :
    scanCsv (front ++ back) false inQuotes =
      ((scanCsv front false inQuotes).1 || (scanCsv back false (scanCsv front false inQuotes).2).1,
        (scanCsv back false (scanCsv front false inQuotes).2).2) ∧
    scanCsv text false inQuotes = text.foldl scanStep (false, inQuotes) := by
  rw [scanCsv_append, scanCsv_ended]
  exact ⟨rfl, scanCsv_eq text false inQuotes⟩

end

/-! ## What the open record remembers -/

/-- The text is whole lines, and the quote state is that of the text. -/
structure CsvRecord.Settled (acc : CsvRecord) : Prop where
  wholeLines : acc.record.body.getLast? ≠ some quote
  quotes : acc.inQuotes = (scanCsv acc.record.body false false).2

variable {record : Record} {fold whole later : CsvFold}

theorem CsvRecord.resume_settled (wholeLines : record.body.getLast? ≠ some quote) :
    (CsvRecord.resume record).Settled := ⟨wholeLines, rfl⟩

theorem CsvRecord.begin_settled (line : RawFileLine) : (CsvRecord.begin line).Settled :=
  ⟨by simp [CsvRecord.begin], rfl⟩

theorem CsvRecord.Settled.resume_eq {acc : CsvRecord} (settled : acc.Settled) :
    CsvRecord.resume acc.record = acc := by
  rw [CsvRecord.resume, ← settled.quotes]

def CsvFold.Settled (fold : CsvFold) : Prop := ∀ acc ∈ fold.current, acc.Settled

theorem CsvFold.take_settled (fold : CsvFold) {acc : CsvRecord} {line : RawFileLine}
    (settled : acc.Settled) (ends : line.text.getLast? = some newline) :
    (fold.take acc line).Settled := by
  intro next mem
  simp only [CsvFold.take] at mem
  split at mem
  · cases mem
  · cases mem
    have last : (acc.record.body ++ line.text).getLast? = some newline := by
      simp [List.getLast?_append, ends]
    refine ⟨?_, ?_⟩
    · show (acc.record.body ++ line.text).getLast? ≠ some quote
      rw [last]
      decide
    · show (scanCsv line.text false acc.inQuotes).2 =
        (scanCsv (acc.record.body ++ line.text) false false).2
      rw [scanCsv_append, scanCsv_ended _ (scanCsv acc.record.body false false).1, settled.quotes]

theorem CsvFold.push_settled (settled : fold.Settled) (line : RawFileLine) :
    (fold.push line).Settled := by
  unfold CsvFold.push
  by_cases cut : line.text.getLast? ≠ some newline
  · rw [if_pos cut]
    exact nofun
  · rw [if_neg cut]
    have ends := Decidable.of_not_not cut
    split
    · exact settled
    · split
      · rename_i acc current
        split
        · exact nofun
        · exact fold.take_settled (settled acc current) ends
      · exact fold.take_settled (CsvRecord.begin_settled line) ends

theorem CsvFold.foldl_settled (settled : fold.Settled) (lines : List RawFileLine) :
    (lines.foldl CsvFold.push fold).Settled := by
  induction lines generalizing fold with
  | nil => exact settled
  | cons line lines ih => exact ih (push_settled settled line)

/-! ## Two folds side by side -/

/-- The first fold has finished `earlier` on top of what the second has. -/
structure CsvFold.Follows (earlier : List Record) (whole later : CsvFold) : Prop where
  current : whole.current = later.current
  finished : whole.finished = earlier ++ later.finished
  discarding : whole.discarding = later.discarding
  quotes : whole.discarding = true → whole.discardingInQuotes = later.discardingInQuotes

theorem CsvFold.take_follows (follows : Follows earlier whole later) (acc : CsvRecord)
    (line : RawFileLine) :
    Follows earlier (whole.take acc line) (later.take acc line) := by
  simp only [CsvFold.take]
  split
  · exact ⟨rfl, by simp [follows.finished], follows.discarding, follows.quotes⟩
  · exact ⟨rfl, follows.finished, follows.discarding, follows.quotes⟩

theorem CsvFold.push_follows (follows : Follows earlier whole later) (line : RawFileLine) :
    Follows earlier (whole.push line) (later.push line) := by
  simp only [CsvFold.push, ← follows.current, ← follows.discarding]
  split
  · exact ⟨rfl, by simp [follows.finished], rfl, fun _ => rfl⟩
  · split
    · rename_i discards
      rw [← follows.quotes discards]
      exact ⟨rfl, follows.finished, rfl, fun _ => rfl⟩
    · split
      · split
        · exact ⟨rfl, by simp [follows.finished], rfl, fun _ => rfl⟩
        · exact take_follows follows _ line
      · exact take_follows follows _ line

theorem CsvFold.foldl_follows (follows : Follows earlier whole later) (lines : List RawFileLine) :
    Follows earlier (lines.foldl CsvFold.push whole) (lines.foldl CsvFold.push later) := by
  induction lines generalizing whole later with
  | nil => exact follows
  | cons line lines ih => exact ih (push_follows follows line)

/-! ## Read by read -/

/-- The fold at the start of a read: the open record of the path is resumed. -/
def CsvFold.start (path : Path) (pending : Option PendingMultilineState) : CsvFold :=
  { current := (pending.filter fun state => state.sourcePath = path).map fun state =>
      CsvRecord.resume state.record
    finished := [], discarding := false, discardingInQuotes := false }

/-- The fold after the lines of a read. -/
def csvFold (path : Path) (lines : List RawFileLine) (pending : Option PendingMultilineState) :
    CsvFold := lines.foldl CsvFold.push (.start path pending)

/-- What a pending block is apart from when it was last fed. -/
def PendingMultilineState.block (state : PendingMultilineState) : Path × Record :=
  (state.sourcePath, state.record)

section

variable (path : Path) (lines : List RawFileLine) (pending : Option PendingMultilineState)
  (observedAt : String)

theorem foldCsv_records :
    (foldCsv path lines pending observedAt).1 = (csvFold path lines pending).finished := rfl

theorem foldCsv_block :
    (foldCsv path lines pending observedAt).2.map PendingMultilineState.block =
      (csvFold path lines pending).current.map fun acc => (path, acc.record) := by
  show Option.map _ (Option.map _ (csvFold path lines pending).current) = _
  rw [Option.map_map]
  rfl

end

/-- A pending block of this path whose text does not end in a quote; the text of a block left by a
fold is whole lines and ends in a newline. -/
def Resumable (path : Path) (pending : Option PendingMultilineState) : Prop :=
  ∀ state ∈ pending, state.sourcePath = path ∧ state.record.body.getLast? ≠ some quote

variable {pending : Option PendingMultilineState}

theorem CsvFold.start_current (resumable : Resumable path pending) :
    (CsvFold.start path pending).current =
      pending.map fun state => CsvRecord.resume state.record := by
  cases pending with
  | none => rfl
  | some state => simp [CsvFold.start, Option.filter, (resumable state rfl).1]

theorem CsvFold.start_settled (resumable : Resumable path pending) :
    (CsvFold.start path pending).Settled := by
  intro acc mem
  rw [start_current resumable] at mem
  obtain ⟨state, held, rfl⟩ := Option.map_eq_some_iff.1 mem
  exact CsvRecord.resume_settled (resumable state held).2

/-- The block a read leaves resumes as the record the fold had open. -/
theorem foldCsv_resumes (resumable : Resumable path pending) (observedAt : String) :
    Resumable path (foldCsv path lines pending observedAt).2 ∧
      (CsvFold.start path (foldCsv path lines pending observedAt).2).current =
        (csvFold path lines pending).current := by
  have settled : (csvFold path lines pending).Settled :=
    CsvFold.foldl_settled (CsvFold.start_settled resumable) lines
  have left : Resumable path (foldCsv path lines pending observedAt).2 := by
    intro state mem
    obtain ⟨acc, current, rfl⟩ := Option.map_eq_some_iff.1 mem
    exact ⟨rfl, (settled acc current).wholeLines⟩
  refine ⟨left, ?_⟩
  rw [CsvFold.start_current left]
  show Option.map _ (Option.map _ (csvFold path lines pending).current) = _
  rw [Option.map_map]
  cases current : (csvFold path lines pending).current with
  | none => rfl
  | some acc => exact congrArg some (settled acc current).resume_eq

/-- A read that does not end inside a discarded record hands over all there is to know. -/
theorem csvFold_append {more : List RawFileLine} (resumable : Resumable path pending)
    (observedAt : String) (kept : (csvFold path lines pending).discarding = false) :
    CsvFold.Follows (csvFold path lines pending).finished (csvFold path (lines ++ more) pending)
      (csvFold path more (foldCsv path lines pending observedAt).2) := by
  unfold csvFold
  rw [foldl_append]
  refine CsvFold.foldl_follows ⟨(foldCsv_resumes resumable observedAt).2.symm, ?_, kept, ?_⟩ more
  · exact (append_nil _).symm
  · intro discards
    exact absurd discards (by rw [show _ = false from kept]; decide)

/-- One read after the other, each with the time of its observation; the pending block is all that
is kept in between. -/
def foldReads (path : Path) : List (List RawFileLine × String) → Option PendingMultilineState →
    List Record × Option PendingMultilineState
  | [], pending => ([], pending)
  | (lines, observedAt) :: reads, pending =>
    let folded := foldCsv path lines pending observedAt
    let later := foldReads path reads folded.2
    (folded.1 ++ later.1, later.2)

section

variable (path : Path) (reads : List (List RawFileLine × String))

/-- No read with lines still to come ends while the rest of a record over the limits is being
thrown away. -/
def NoCutDiscarding (pending : Option PendingMultilineState) : Prop :=
  ∀ front back, reads = front ++ back → back.flatMap Prod.fst ≠ [] →
    (csvFold path (front.flatMap Prod.fst) pending).discarding = false

theorem foldReads_csvFold :
    ∀ {pending : Option PendingMultilineState}, Resumable path pending →
      NoCutDiscarding path reads pending →
      (foldReads path reads pending).1 =
          (csvFold path (reads.flatMap Prod.fst) pending).finished ∧
        (foldReads path reads pending).2.map PendingMultilineState.block =
          (csvFold path (reads.flatMap Prod.fst) pending).current.map fun acc =>
            (path, acc.record) := by
  induction reads with
  | nil =>
    intro pending resumable _
    refine ⟨rfl, ?_⟩
    show Option.map _ pending = Option.map _ (CsvFold.start path pending).current
    rw [CsvFold.start_current resumable, Option.map_map]
    cases pending with
    | none => rfl
    | some state =>
      rw [Option.map_some, Option.map_some, PendingMultilineState.block, (resumable state rfl).1]
      rfl
  | cons read reads ih =>
    obtain ⟨lines, observedAt⟩ := read
    intro pending resumable noCut
    obtain ⟨left, resumes⟩ := @foldCsv_resumes path lines pending resumable observedAt
    have later : NoCutDiscarding path reads (foldCsv path lines pending observedAt).2 := by
      intro front back split comes
      have kept := noCut [(lines, observedAt)] reads rfl
        (by rw [split, flatMap_append]; exact fun none_ => comes (append_eq_nil_iff.1 none_).2)
      rw [flatMap_singleton] at kept
      rw [← (csvFold_append resumable observedAt kept).discarding]
      exact noCut ((lines, observedAt) :: front) back (by rw [split]; rfl) comes
    obtain ⟨records, block⟩ := ih left later
    -- the reads that follow continue the fold, or bring nothing
    have continued : (csvFold path (lines ++ reads.flatMap Prod.fst) pending).finished =
          (csvFold path lines pending).finished ++ (csvFold path (reads.flatMap Prod.fst)
            (foldCsv path lines pending observedAt).2).finished ∧
        (csvFold path (lines ++ reads.flatMap Prod.fst) pending).current =
          (csvFold path (reads.flatMap Prod.fst)
            (foldCsv path lines pending observedAt).2).current := by
      by_cases spent : reads.flatMap Prod.fst = []
      · rw [spent, append_nil]
        exact ⟨(append_nil _).symm, resumes.symm⟩
      · have kept := noCut [(lines, observedAt)] reads rfl spent
        rw [flatMap_singleton] at kept
        have follows := @csvFold_append path lines pending (reads.flatMap Prod.fst)
          resumable observedAt kept
        exact ⟨follows.finished, follows.current⟩
    rw [flatMap_cons, continued.1, continued.2]
    exact ⟨congrArg ((csvFold path lines pending).finished ++ ·) records, block⟩

/-- **Folding read by read is folding at once**, unless a read ends inside a discarded record: the
same records and the same open block. -/
theorem foldReads_eq_foldCsv (pending : Option PendingMultilineState) (observedAt : String)
    (resumable : Resumable path pending) (noCut : NoCutDiscarding path reads pending) :
    (foldReads path reads pending).1 =
        (foldCsv path (reads.flatMap Prod.fst) pending observedAt).1 ∧
      (foldReads path reads pending).2.map PendingMultilineState.block =
        (foldCsv path (reads.flatMap Prod.fst) pending observedAt).2.map
          PendingMultilineState.block := by
  rw [foldCsv_records, foldCsv_block]
  exact foldReads_csvFold path reads resumable noCut

end

/-- A record of three lines over two reads, a doubled quote in the first. -/
theorem foldReads_eq_foldCsv_twoReads :
    let opening : RawFileLine := ⟨ascii "a,\"b\"\"\n", 0, 7⟩
    let middle : RawFileLine := ⟨ascii "c\n", 7, 9⟩
    let closing : RawFileLine := ⟨ascii "d\"\n", 9, 12⟩
    (foldReads "/d/a" [([opening, middle], "1"), ([closing], "2")] none).1 =
        [⟨ascii "a,\"b\"\"\nc\nd\"\n", 0, 12, 3, .boundary⟩] ∧
      (foldReads "/d/a" [([opening, middle], "1"), ([closing], "2")] none).1 =
        (foldCsv "/d/a" [opening, middle, closing] none "2").1 := by
  refine ⟨by decide +kernel, (foldReads_eq_foldCsv _ _ _ "2" ?_ ?_).1⟩
  · exact nofun
  · intro front back split comes
    rcases front with _ | ⟨first, _ | ⟨second, rest⟩⟩
    · rfl
    · obtain ⟨rfl, -⟩ := List.cons.inj split
      decide +kernel
    · have none_ := (List.cons.inj (List.cons.inj split).2).2
      rw [(append_eq_nil_iff.1 none_.symm).2] at comes
      exact absurd rfl comes

/-! ## A cut inside a discarded record -/

theorem scanCsv_quoted {text : Bytes} (plain : quote ∉ text) (ended : Bool) :
    scanCsv text ended true = (ended, true) := by
  induction text with
  | nil => rfl
  | cons b rest ih =>
    rw [mem_cons, not_or] at plain
    simpa [scanCsv_cons, scanStep, Ne.symm plain.1] using ih plain.2

/-- A line inside a quoted field joins the record, or makes it too long. -/
theorem CsvFold.push_quoted {line : RawFileLine} (current : fold.current = some ⟨record, true⟩)
    (collects : fold.discarding = false) (ends : line.text.getLast? = some newline)
    (plain : quote ∉ line.text) :
    fold.push line = if overLimit record line.text then
      { current := none, finished := fold.finished ++ [{ record with completion := .oversized }]
        discarding := true, discardingInQuotes := true }
      else { fold with current := some ⟨record.extend line, true⟩ } := by
  simp [CsvFold.push, CsvFold.take, current, collects, ends, scanCsv_quoted plain]

/-- Lines inside a quoted field pile up as long as the limits allow. -/
theorem CsvFold.foldl_quoted (lines : List RawFileLine)
    (inside : ∀ line ∈ lines, line.text = ascii "x\n") : ∀ {fold : CsvFold} {record : Record},
    fold.current = some ⟨record, true⟩ → fold.discarding = false →
    record.lines + lines.length ≤ maxRecordLines → record.body.length = 2 * record.lines →
    ∃ grown : Record, grown.lines = record.lines + lines.length ∧
      (lines.foldl CsvFold.push fold).current = some ⟨grown, true⟩ ∧
      (lines.foldl CsvFold.push fold).discarding = false := by
  induction lines with
  | nil => exact fun current collects _ _ => ⟨_, rfl, current, collects⟩
  | cons line lines ih =>
    intro fold record current collects room size
    have text := inside line mem_cons_self
    rw [length_cons] at room
    have fits : overLimit record line.text = false := by
      have few : ¬ maxRecordLines < record.lines + 1 := by omega
      have short : ¬ maxRecordBytes < 2 * record.lines + (ascii "x\n").length := by
        rw [show (ascii "x\n").length = 2 from rfl]
        simp only [maxRecordLines, maxRecordBytes] at room ⊢
        omega
      rw [overLimit, text, size, decide_eq_false few, decide_eq_false short]
      rfl
    have pushed := push_quoted current collects (by rw [text]; decide) (by rw [text]; decide)
    rw [fits] at pushed
    rw [foldl_cons, pushed]
    obtain ⟨grown, count, kept⟩ :=
      @ih (fun other mem => inside other (mem_cons_of_mem _ mem))
        { fold with current := some ⟨record.extend line, true⟩ } (record.extend line) rfl collects
        (show record.lines + 1 + lines.length ≤ _ by omega)
        (show (record.body ++ line.text).length = 2 * (record.lines + 1) by
          rw [length_append, size, text]
          rfl)
    refine ⟨grown, ?_, kept⟩
    rw [count, length_cons]
    show record.lines + 1 + lines.length = _
    omega

/-- The line that is one too many for a quoted field starts the discarding. -/
theorem csvFold_overLong {inner : List RawFileLine}
    (inside : ∀ line ∈ inner, line.text = ascii "x\n")
    (count : inner.length + 1 = maxRecordLines) {last : RawFileLine}
    (lastText : last.text = ascii "x\n") :
    ∃ finished, csvFold "/d/a" (⟨ascii "\"\n", 0, 2⟩ :: (inner ++ [last])) none =
      { current := none, finished, discarding := true, discardingInQuotes := true } := by
  have opened : (CsvFold.start "/d/a" none).push ⟨ascii "\"\n", 0, 2⟩ =
      { current := some ⟨⟨ascii "\"\n", 0, 2, 1, .boundary⟩, true⟩, finished := []
        discarding := false, discardingInQuotes := false } := by decide
  obtain ⟨grown, lines, current, collects⟩ := CsvFold.foldl_quoted inner inside
    (congrArg CsvFold.current opened) (congrArg CsvFold.discarding opened)
    (Nat.le_of_eq (by rw [← count, Nat.add_comm])) rfl
  have full : overLimit grown last.text = true := by
    have many : maxRecordLines < grown.lines + 1 := by
      rw [lines, ← count, Nat.add_comm 1]
      exact Nat.lt_succ_self _
    rw [overLimit, decide_eq_true many, Bool.true_or]
  have pushed := CsvFold.push_quoted current collects (by rw [lastText]; decide)
    (by rw [lastText]; decide)
  rw [if_pos full] at pushed
  rw [csvFold, foldl_cons, foldl_append]
  exact ⟨_, pushed⟩

/-- The line that closes the discarded field, with the others and in a read of its own. -/
theorem closing_after_discarding {finished : List Record} (discards : csvFold "/d/a" lines none =
      { current := none, finished, discarding := true, discardingInQuotes := true })
    (closing : RawFileLine) (quoted : closing.text = ascii "\"\n") :
    (foldCsv "/d/a" (lines ++ [closing]) none "2").2.map PendingMultilineState.block = none ∧
      (foldReads "/d/a" [(lines, "1"), ([closing], "2")] none).2.map PendingMultilineState.block =
        some ("/d/a", ⟨ascii "\"\n", closing.startOffset, closing.endOffset, 1, .boundary⟩) := by
  obtain ⟨text, start, stop⟩ := closing
  obtain rfl : text = ascii "\"\n" := quoted
  constructor
  · rw [foldCsv_block, csvFold, foldl_append]
    rw [csvFold] at discards
    rw [discards]
    rfl
  · have left : (foldCsv "/d/a" lines none "1").2 = none := by
      show Option.map _ (csvFold "/d/a" lines none).current = none
      rw [discards]
      rfl
    show Option.map _ (foldCsv "/d/a" [_] (foldCsv "/d/a" lines none "1").2 "2").2 = _
    rw [left]
    rfl

/-- One line more than a record may have, all within one quoted field. -/
def overLongField : List RawFileLine :=
  ⟨ascii "\"\n", 0, 2⟩ ::
    ((List.range 999).map (fun n => ⟨ascii "x\n", 2 * n + 2, 2 * n + 4⟩) ++
      [⟨ascii "x\n", 2000, 2002⟩])

/-- **A read that ends inside a discarded record**: the line that closes the field opens a record
when it comes with the next read. -/
theorem foldReads_cut_discarding :
    let closing : RawFileLine := ⟨ascii "\"\n", 2002, 2004⟩
    (∀ line ∈ overLongField ++ [closing], line.text.getLast? = some newline) ∧
      (foldCsv "/d/a" (overLongField ++ [closing]) none "2").2.map PendingMultilineState.block =
        none ∧
      (foldReads "/d/a" [(overLongField, "1"), ([closing], "2")] none).2.map
          PendingMultilineState.block =
        some ("/d/a", ⟨ascii "\"\n", 2002, 2004, 1, .boundary⟩) := by
  intro closing
  have inside : ∀ line ∈ (List.range 999).map fun n =>
      (⟨ascii "x\n", 2 * n + 2, 2 * n + 4⟩ : RawFileLine), line.text = ascii "x\n" := by
    intro line mem
    obtain ⟨n, -, rfl⟩ := mem_map.1 mem
    rfl
  constructor
  · intro line mem
    simp only [overLongField, cons_append, append_assoc, mem_cons, mem_append,
      not_mem_nil, or_false, false_or] at mem
    rcases mem with rfl | among | rfl | rfl
    · decide
    · rw [inside line among]
      decide
    · decide
    · decide
  · obtain ⟨finished, discards⟩ := @csvFold_overLong _ inside
      (by rw [length_map, length_range]; rfl) ⟨ascii "x\n", 2000, 2002⟩ rfl
    exact closing_after_discarding discards closing rfl

end WistAgentd.Telemetry

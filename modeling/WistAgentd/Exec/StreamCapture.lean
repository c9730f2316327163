/- # Exec.StreamCapture -- the captured output of a child

`spawn_stream_capture`: the output is copied to a log file until the limit is reached; a marker says
that something was cut off. The marker is written by the read that crosses the limit, so none is
written when a read ends exactly on it.

* `Capture.take`: one turn of the loop; `streamCapture`: the file at the end of the stream.
* `capture_exact_iff`: when the file is the stream, or its first bytes and the marker. -/
import WistAgentd.Telemetry.Record

namespace WistAgentd.Exec
open Telemetry (Bytes ascii)
open List
set_option autoImplicit false

/-- `STREAM_TRUNCATED_MARKER`. -/
def streamTruncatedMarker : Bytes := ascii "\n[truncated by wist-agentd]\n"

/-- What the reads return until the end of the stream; the buffer holds 8192 bytes. -/
structure StreamReads where
  chunks : List Bytes
  nonempty : [] ∉ chunks
  fits : ∀ chunk ∈ chunks, chunk.length ≤ 8192

/-- The log file and the variables of the loop. -/
structure Capture where
  file : Bytes
  written : Nat
  truncated : Bool

def Capture.take (limitBytes : Nat) (capture : Capture) (chunk : Bytes) : Capture :=
  if capture.written < limitBytes then
    let toWrite := min chunk.length (limitBytes - capture.written)
    let wrote := { capture with
      file := capture.file ++ chunk.take toWrite, written := capture.written + toWrite }
    if toWrite < chunk.length ∧ capture.truncated = false then
      { wrote with file := wrote.file ++ streamTruncatedMarker, truncated := true }
    else wrote
  else capture

def streamCapture (limitBytes : Nat) (reads : StreamReads) : Bytes :=
  (reads.chunks.foldl (Capture.take limitBytes) ⟨[], 0, false⟩).file

/-- What the file is meant to hold. -/
def captureOf (limitBytes : Nat) (stream : Bytes) : Bytes :=
  if stream.length ≤ limitBytes then stream
  else stream.take limitBytes ++ streamTruncatedMarker

/-- Some number of chunks is `room` bytes together. -/
def EndsOn (room : Nat) (chunks : List Bytes) : Prop :=
  ∃ front back, chunks = front ++ back ∧ front.flatten.length = room

theorem endsOn_zero (chunks : List Bytes) : EndsOn 0 chunks := ⟨[], chunks, rfl, rfl⟩

theorem endsOn_cons {room : Nat} (open_ : 0 < room) (chunk : Bytes) (rest : List Bytes) :
    EndsOn room (chunk :: rest) ↔ chunk.length ≤ room ∧ EndsOn (room - chunk.length) rest := by
  constructor
  · rintro ⟨front, back, split, length⟩
    cases front with
    | nil => simp only [flatten_nil, length_nil] at length; omega
    | cons first front =>
      obtain ⟨rfl, rfl⟩ := List.cons.inj split
      simp only [flatten_cons, length_append] at length
      exact ⟨by omega, front, back, rfl, by omega⟩
  · rintro ⟨fits, front, back, rfl, length⟩
    refine ⟨chunk :: front, back, rfl, ?_⟩
    simp only [flatten_cons, length_append]
    omega

/-- Behind the limit nothing is written any more. -/
theorem foldl_take_full {limitBytes : Nat} {capture : Capture} (full : limitBytes ≤ capture.written)
    (chunks : List Bytes) : chunks.foldl (Capture.take limitBytes) capture = capture := by
  induction chunks with
  | nil => rfl
  | cons chunk rest ih =>
    have same : capture.take limitBytes chunk = capture := if_neg (Nat.not_lt.2 full)
    rw [foldl_cons, same, ih]

/-- What the rest of a stream adds to the file of a capture that has not reached the limit, or ended
a read on it. -/
theorem foldl_take_file {limitBytes : Nat} (chunks : List Bytes) : ∀ {file : Bytes} {written : Nat},
    written ≤ limitBytes →
    ∃ tail, (chunks.foldl (Capture.take limitBytes) ⟨file, written, false⟩).file = file ++ tail ∧
      (chunks.flatten.length ≤ limitBytes - written → tail = chunks.flatten) ∧
      (limitBytes - written < chunks.flatten.length →
        (EndsOn (limitBytes - written) chunks → tail = chunks.flatten.take (limitBytes - written)) ∧
        (¬ EndsOn (limitBytes - written) chunks →
          tail = chunks.flatten.take (limitBytes - written) ++ streamTruncatedMarker)) := by
  induction chunks with
  | nil => exact fun _ => ⟨[], by simp, fun _ => rfl, by simp⟩
  | cons chunk rest ih =>
    intro file written within
    by_cases room : written < limitBytes
    · by_cases fits : chunk.length ≤ limitBytes - written
      · -- the whole chunk is written, the loop goes on with less room
        have step : Capture.take limitBytes ⟨file, written, false⟩ chunk =
            ⟨file ++ chunk, written + chunk.length, false⟩ := by
          simp [Capture.take, room, Nat.min_eq_left fits]
        obtain ⟨tail, grown, whole, cut⟩ := @ih (file ++ chunk) (written + chunk.length) (by omega)
        have less : limitBytes - (written + chunk.length) = limitBytes - written - chunk.length := by
          omega
        rw [less] at whole cut
        have ends := endsOn_cons (by omega : 0 < limitBytes - written) chunk rest
        have shorter : (chunk ++ rest.flatten).take (limitBytes - written) =
            chunk ++ rest.flatten.take (limitBytes - written - chunk.length) := by
          rw [take_append, take_of_length_le fits]
        refine ⟨chunk ++ tail, ?_, fun small => ?_, fun large => ⟨fun on => ?_, fun off => ?_⟩⟩
        · rw [foldl_cons, step, grown, append_assoc]
        · rw [flatten_cons, length_append] at small
          rw [whole (by omega), flatten_cons]
        · rw [flatten_cons, length_append] at large
          rw [(cut (by omega)).1 (ends.1 on).2, flatten_cons, shorter]
        · rw [flatten_cons, length_append] at large
          rw [(cut (by omega)).2 fun on => off (ends.2 ⟨fits, on⟩), flatten_cons, shorter,
            append_assoc]
      · -- this chunk crosses the limit
        have step : Capture.take limitBytes ⟨file, written, false⟩ chunk =
            ⟨file ++ chunk.take (limitBytes - written) ++ streamTruncatedMarker, limitBytes,
              true⟩ := by
          have least : min chunk.length (limitBytes - written) = limitBytes - written := by omega
          have crosses : limitBytes - written < chunk.length := by omega
          simp only [Capture.take, room, if_true, least, crosses, and_self]
          congr 1
          omega
        have inside : (chunk ++ rest.flatten).take (limitBytes - written) =
            chunk.take (limitBytes - written) :=
          take_append_of_le_length (by omega)
        refine ⟨chunk.take (limitBytes - written) ++ streamTruncatedMarker, ?_, fun small => ?_,
          fun _ => ⟨fun on => ?_, fun _ => ?_⟩⟩
        · rw [foldl_cons, step, foldl_take_full (show limitBytes ≤ limitBytes from Nat.le_refl _),
            append_assoc]
        · rw [flatten_cons, length_append] at small
          omega
        · exact absurd ((endsOn_cons (by omega) chunk rest).1 on).1 fits
        · rw [flatten_cons, inside]
    · have full : limitBytes - written = 0 := by omega
      refine ⟨[], ?_, fun small => ?_, fun _ => ⟨fun _ => ?_, fun off => ?_⟩⟩
      · rw [foldl_take_full (Nat.not_lt.1 room), append_nil]
      · exact (length_eq_zero_iff.1 (by omega)).symm
      · rw [full, take_zero]
      · exact absurd (full ▸ endsOn_zero _) off

/-- **Output capture**: the log is the stream up to the limit, with the marker behind it if something
was cut off, exactly when the stream fits or no read ends on the limit. -/
theorem capture_exact_iff (limitBytes : Nat) (reads : StreamReads) :
    streamCapture limitBytes reads = captureOf limitBytes reads.chunks.flatten ↔
      reads.chunks.flatten.length ≤ limitBytes ∨
        ∀ front back, reads.chunks = front ++ back → front.flatten.length ≠ limitBytes := by
  obtain ⟨tail, file, whole, cut⟩ :=
    @foldl_take_file limitBytes reads.chunks [] 0 (Nat.zero_le _)
  rw [streamCapture, file, nil_append]
  by_cases small : reads.chunks.flatten.length ≤ limitBytes
  · rw [captureOf, if_pos small, whole small]
    exact ⟨fun _ => .inl small, fun _ => rfl⟩
  · obtain ⟨on, off⟩ := cut (Nat.not_le.1 small)
    rw [captureOf, if_neg small]
    by_cases ends : EndsOn limitBytes reads.chunks
    · have differs : reads.chunks.flatten.take limitBytes ≠
          reads.chunks.flatten.take limitBytes ++ streamTruncatedMarker := by
        intro same
        have length := congrArg List.length same
        exact absurd length (by simp [streamTruncatedMarker, ascii])
      rw [on ends]
      refine ⟨fun same => absurd same differs, fun holds => ?_⟩
      obtain ⟨front, back, split, length⟩ := ends
      exact absurd length (holds.resolve_left small front back split)
    · rw [off ends]
      exact ⟨fun _ => .inr fun front back split length => ends ⟨front, back, split, length⟩,
        fun _ => rfl⟩

/-- Four bytes in two reads with a limit of two: the marker is missing. -/
theorem capture_unmarked :
    streamCapture 2 ⟨[[97, 98], [99, 100]], by decide, by decide⟩ = [97, 98] ∧
      captureOf 2 [97, 98, 99, 100] = [97, 98] ++ streamTruncatedMarker := by
  decide

/-- **A captured file begins with what fits of the stream** and is longer by the marker at most. -/
theorem capture_bounded (limitBytes : Nat) (reads : StreamReads) :
    reads.chunks.flatten.take limitBytes <+: streamCapture limitBytes reads ∧
      (streamCapture limitBytes reads).length ≤ limitBytes + streamTruncatedMarker.length := by
  obtain ⟨tail, file, short, long⟩ := foldl_take_file reads.chunks (Nat.zero_le limitBytes)
  rw [streamCapture, file, nil_append]
  rcases Nat.lt_or_ge limitBytes reads.chunks.flatten.length with more | fits
  · obtain ⟨exact_, cut⟩ := long more
    have length := length_take_le limitBytes reads.chunks.flatten
    by_cases ends : EndsOn limitBytes reads.chunks
    · rw [exact_ ends]
      exact ⟨prefix_rfl, by simp only [Nat.sub_zero]; omega⟩
    · rw [cut ends, length_append]
      exact ⟨prefix_append _ _, Nat.add_le_add_right length _⟩
  · rw [short fits, take_of_length_le fits]
    exact ⟨prefix_rfl, Nat.le_add_right_of_le fits⟩

end WistAgentd.Exec

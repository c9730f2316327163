/- # Telemetry.LenFraming -- frames with their length in front can be told apart

A receiver of the `len` framing reads digits up to a space and then as many bytes. The digits end at
the first space, so it does not matter what the frame holds.

* `readLength`, `decodeFrames`: the receiver.
* `decodeFrames_payload`, `decodeFrames_torn`: a whole frame, a part of one.
* `len_framing_decodes`: what was sent is what is read, and a part of it is a part of that. -/
import WistAgentd.Telemetry.Record
import Mathlib.Data.List.Infix

namespace WistAgentd.Telemetry
open List Option
set_option autoImplicit false

def isDigit (b : UInt8) : Bool := decide (48 ≤ b) && decide (b ≤ 57)

/-- The number in front of a space, and what follows. -/
def readLength (bytes : Bytes) : Option (Nat × Bytes) :=
  match bytes.dropWhile isDigit with
  | 32 :: rest =>
    some ((bytes.takeWhile isDigit).foldl (fun n digit => 10 * n + (digit.toNat - 48)) 0, rest)
  | _ => none

theorem readLength_shorter {bytes rest : Bytes} {length : Nat}
    (found : readLength bytes = some (length, rest)) : rest.length < bytes.length := by
  unfold readLength at found
  split at found
  · rename_i tail dropped
    obtain ⟨-, rfl⟩ := Prod.mk.inj (some.inj found)
    have le := (dropWhile_suffix (l := bytes) isDigit).length_le
    rw [dropped, length_cons] at le
    omega
  · cases found

/-- The frames of a stream, as far as they have arrived. -/
def decodeFrames (bytes : Bytes) : List Bytes :=
  match _found : readLength bytes with
  | some (length, rest) =>
    if length ≤ rest.length then rest.take length :: decodeFrames (rest.drop length) else []
  | none => []
termination_by bytes.length
decreasing_by
  have shorter := readLength_shorter _found
  rw [length_drop]
  omega

variable (frames : List Bytes)

/-- Frames as `write_records` puts them one behind the other. -/
def lenStream : Bytes :=
  frames.flatMap fun frame => buildPayloadBytes frame .len

theorem recordsPayload_len (ext : Externals) (records : List TelemetryRecord) :
    recordsPayload ext .len records = lenStream (records.map (buildRecordFrame ext)) := by
  simp [recordsPayload, lenStream, flatMap_map]

/-! ## The number -/

theorem digit_code {digit : Char} (is : digit.isDigit = true) :
    isDigit digit.toNat.toUInt8 = true ∧ digit.toNat.toUInt8.toNat = digit.toNat := by
  simp only [Char.isDigit, Bool.and_eq_true, decide_eq_true_eq] at is
  have low : 48 ≤ digit.toNat := UInt32.le_iff_toNat_le.1 is.1
  have high : digit.toNat ≤ 57 := UInt32.le_iff_toNat_le.1 is.2
  have code : digit.toNat.toUInt8.toNat = digit.toNat := by
    rw [Nat.toUInt8, UInt8.toNat_ofNat']
    omega
  refine ⟨?_, code⟩
  rw [isDigit, Bool.and_eq_true, decide_eq_true_eq, decide_eq_true_eq, UInt8.le_iff_toNat_le,
    UInt8.le_iff_toNat_le, code]
  exact ⟨low, high⟩

theorem decimal_digits (n : Nat) : ∀ b ∈ decimal n, isDigit b = true := by
  intro b mem
  obtain ⟨digit, inside, rfl⟩ := mem_map.1 mem
  exact (digit_code (Nat.isDigit_of_mem_toDigits (by decide) (by decide) inside)).1

/-- Reading the bytes of digits is reading the digits. -/
theorem foldl_digits (digits : List Char) (are : ∀ digit ∈ digits, digit.isDigit = true) (start : Nat) :
    (digits.map fun digit => digit.toNat.toUInt8).foldl
      (fun n digit => 10 * n + (digit.toNat - 48)) start = Nat.ofDigitChars 10 digits start := by
  induction digits generalizing start with
  | nil => rfl
  | cons digit rest ih =>
    rw [map_cons, foldl_cons, Nat.ofDigitChars_cons, (digit_code (are digit mem_cons_self)).2]
    exact ih (fun other mem => are other (mem_cons_of_mem _ mem)) _

theorem readLength_decimal (n : Nat) (rest : Bytes) :
    readLength (decimal n ++ 32 :: rest) = some (n, rest) := by
  have digits := decimal_digits n
  have dropped : (decimal n ++ 32 :: rest).dropWhile isDigit = 32 :: rest := by
    rw [dropWhile_append_of_pos digits]
    rfl
  have taken : (decimal n ++ 32 :: rest).takeWhile isDigit = decimal n := by
    rw [takeWhile_append_of_pos digits]
    exact append_nil _
  have value : (decimal n).foldl (fun n digit => 10 * n + (digit.toNat - 48)) 0 = n := by
    rw [decimal, foldl_digits _ fun digit inside =>
      Nat.isDigit_of_mem_toDigits (by decide) (by decide) inside]
    exact Nat.ofDigitChars_toDigits (by decide) (by decide)
  simp only [readLength, dropped, taken, value]

/-! ## Frames -/

theorem decodeFrames_payload (frame rest : Bytes) :
    decodeFrames (buildPayloadBytes frame .len ++ rest) = frame :: decodeFrames rest := by
  have shape : buildPayloadBytes frame .len ++ rest = decimal frame.length ++ 32 :: (frame ++ rest) := by
    simp [buildPayloadBytes]
  have length : frame.length ≤ (frame ++ rest).length := by simp
  rw [decodeFrames, shape]
  split
  · rename_i n tail found
    obtain ⟨rfl, rfl⟩ := Prod.mk.inj (some.inj ((readLength_decimal _ _).symm.trans found))
    rw [if_pos length, take_left, drop_left]
  · rename_i missing
    cases (readLength_decimal _ _).symm.trans missing

/-- Without a space there is no number. -/
theorem decodeFrames_digits {part : Bytes} (digits : ∀ b ∈ part, isDigit b = true) :
    decodeFrames part = [] := by
  have dropped : part.dropWhile isDigit = [] := by
    have all := @dropWhile_append_of_pos _ isDigit part [] digits
    rwa [append_nil, dropWhile_nil] at all
  rw [decodeFrames]
  split
  · rename_i n rest found
    simp [readLength, dropped] at found
  · rfl

/-- A frame that has not arrived as a whole is not delivered. -/
theorem decodeFrames_torn {frame part : Bytes} (torn : part <+: buildPayloadBytes frame .len)
    (short : part.length < (buildPayloadBytes frame .len).length) : decodeFrames part = [] := by
  have shape : buildPayloadBytes frame .len = decimal frame.length ++ 32 :: frame := by
    simp [buildPayloadBytes]
  rw [shape] at torn short
  rcases prefix_or_prefix_of_prefix torn (prefix_append _ _) with inNumber | ⟨tail, rfl⟩
  · exact decodeFrames_digits fun b mem => decimal_digits _ b (inNumber.subset mem)
  · rw [prefix_append_right_inj] at torn
    cases tail with
    | nil =>
      rw [append_nil]
      exact decodeFrames_digits (decimal_digits _)
    | cons space tail =>
      obtain ⟨rfl, inside⟩ := cons_prefix_cons.1 torn
      simp only [length_append, length_cons] at short
      rw [decodeFrames]
      split
      · rename_i n rest found
        obtain ⟨rfl, rfl⟩ := Prod.mk.inj (some.inj ((readLength_decimal _ _).symm.trans found))
        rw [if_neg (by omega)]
      · rfl

theorem decodeFrames_part : ∀ part, part <+: lenStream frames → decodeFrames part <+: frames := by
  induction frames with
  | nil =>
    intro part inside
    rw [prefix_nil.1 inside, decodeFrames_digits (by simp)]
  | cons frame rest ih =>
    intro part inside
    have whole : lenStream (frame :: rest) = buildPayloadBytes frame .len ++ lenStream rest := by
      simp [lenStream]
    rw [whole] at inside
    rcases prefix_or_prefix_of_prefix inside (prefix_append _ _) with torn | ⟨tail, rfl⟩
    · by_cases short : part.length < (buildPayloadBytes frame .len).length
      · rw [decodeFrames_torn torn short]
        exact nil_prefix
      · have all := torn.eq_of_length_le (Nat.not_lt.1 short)
        have sent := decodeFrames_payload frame []
        rw [append_nil, ← all] at sent
        rw [sent, cons_prefix_cons]
        exact ⟨rfl, ih [] nil_prefix⟩
    · rw [prefix_append_right_inj] at inside
      rw [decodeFrames_payload, cons_prefix_cons]
      exact ⟨rfl, ih tail inside⟩

/-- What follows whole frames is decoded after them. -/
theorem decodeFrames_lenStream_append (rest : Bytes) :
    decodeFrames (lenStream frames ++ rest) = frames ++ decodeFrames rest := by
  induction frames with
  | nil => rfl
  | cons frame others ih =>
    have whole : lenStream (frame :: others) = buildPayloadBytes frame .len ++ lenStream others := by
      simp [lenStream]
    rw [whole, append_assoc, decodeFrames_payload, ih, cons_append]

theorem decodeFrames_lenStream : decodeFrames (lenStream frames) = frames := by
  have none_ : decodeFrames [] = [] := decodeFrames_digits (by simp)
  simpa [none_] using decodeFrames_lenStream_append frames []

theorem lenStream_flatten (batches : List (List Bytes)) :
    (batches.map lenStream).flatten = lenStream batches.flatten := by
  simp only [lenStream, flatMap_def, map_flatten, flatten_flatten, List.map_map]
  rfl

/-- **Length framing is uniquely decodable**: whatever the frames hold, the stream decodes to them, no
other list gives the same stream, and what has arrived of it decodes to the first of them; so does the
payload of a batch of records. -/
theorem len_framing_decodes :
    decodeFrames (lenStream frames) = frames ∧
      (∀ others, lenStream others = lenStream frames → others = frames) ∧
      (∀ part, part <+: lenStream frames → decodeFrames part <+: frames) ∧
      ∀ ext records, decodeFrames (recordsPayload ext .len records) =
        records.map (buildRecordFrame ext) := by
  refine ⟨decodeFrames_lenStream frames, fun others same => ?_, decodeFrames_part frames,
    fun ext records => ?_⟩
  · rw [← decodeFrames_lenStream others, same, decodeFrames_lenStream]
  · rw [recordsPayload_len, decodeFrames_lenStream]

end WistAgentd.Telemetry

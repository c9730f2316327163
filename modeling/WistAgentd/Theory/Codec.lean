/- # Theory.Codec -- self-delimiting codecs over a two-letter alphabet

A codec reads back exactly what it wrote, in front of any suffix, and accepts nothing else. Every
byte it writes is the digit 1 or 2, so an encoding is plain text without any separator.

* `Codec.nat`, `Codec.pair`, `Codec.list`, `Codec.via`: the constructions.
* `Codec.readAll_encode`, `Codec.readAll_torn`: a whole encoding is read back, a torn one is not. -/
import Mathlib.Data.List.Basic

namespace WistAgentd.Theory
open List Option
set_option autoImplicit false

variable {α β : Type}

structure Codec (α : Type) where
  encode : α → List UInt8
  decode : List UInt8 → Option (α × List UInt8)
  roundtrip : ∀ value suffix, decode (encode value ++ suffix) = some (value, suffix)
  canonical : ∀ bytes value rest, decode bytes = some (value, rest) → bytes = encode value ++ rest
  alphabet : ∀ value, ∀ byte ∈ encode value, byte = 49 ∨ byte = 50

/-- A number in unary. -/
def decodeNat : List UInt8 → Option (Nat × List UInt8)
  | [] => none
  | byte :: rest =>
    if byte = 50 then some (0, rest)
    else if byte = 49 then (decodeNat rest).map fun read => (read.1 + 1, read.2)
    else none

def Codec.nat : Codec Nat where
  encode value := List.replicate value 49 ++ [50]
  decode := decodeNat
  roundtrip value suffix := by
    induction value with
    | zero => simp [decodeNat]
    | succ value ih =>
      rw [replicate_succ, cons_append, cons_append, decodeNat, ih]
      simp
  canonical bytes := by
    induction bytes with
    | nil => simp [decodeNat]
    | cons byte rest ih =>
      intro value left read
      rw [decodeNat] at read
      split at read
      · rename_i ends
        simp only [some.injEq, Prod.mk.injEq] at read
        simp [← read.1, ← read.2, ends]
      · split at read
        · rename_i one
          obtain ⟨inner, innerRead, same⟩ := map_eq_some_iff.1 read
          simp only [Prod.mk.injEq] at same
          rw [← same.1, ← same.2, replicate_succ, cons_append, cons_append, one,
            ih inner.1 inner.2 innerRead]
        · simp at read
  alphabet value byte mem := by
    rcases mem_append.1 mem with ones | last
    · exact .inl (eq_of_mem_replicate ones)
    · exact .inr (mem_singleton.1 last)

def Codec.pair (left : Codec α) (right : Codec β) : Codec (α × β) where
  encode value := left.encode value.1 ++ right.encode value.2
  decode bytes := (left.decode bytes).bind fun first =>
    (right.decode first.2).map fun second => ((first.1, second.1), second.2)
  roundtrip value suffix := by simp [append_assoc, left.roundtrip, right.roundtrip]
  canonical bytes value rest read := by
    obtain ⟨first, firstRead, read⟩ := bind_eq_some_iff.1 read
    obtain ⟨second, secondRead, same⟩ := map_eq_some_iff.1 read
    simp only [Prod.mk.injEq] at same
    obtain ⟨rfl, rfl⟩ := same
    rw [left.canonical _ _ _ firstRead, right.canonical _ _ _ secondRead, append_assoc]
  alphabet value byte mem := by
    rcases mem_append.1 mem with inLeft | inRight
    · exact left.alphabet _ _ inLeft
    · exact right.alphabet _ _ inRight

variable (codec : Codec α)

/-- Another type behind the same bytes; what does not unpack is not accepted. -/
def Codec.via (pack : β → α) (unpack : α → Option β)
    (unpack_pack : ∀ value, unpack (pack value) = some value)
    (pack_unpack : ∀ raw value, unpack raw = some value → pack value = raw) : Codec β where
  encode value := codec.encode (pack value)
  decode bytes := (codec.decode bytes).bind fun read =>
    (unpack read.1).map fun value => (value, read.2)
  roundtrip value suffix := by simp [codec.roundtrip, unpack_pack]
  canonical bytes value rest read := by
    obtain ⟨raw, rawRead, read⟩ := bind_eq_some_iff.1 read
    obtain ⟨inner, unpacked, same⟩ := map_eq_some_iff.1 read
    simp only [Prod.mk.injEq] at same
    rw [codec.canonical _ _ _ rawRead, ← same.1, ← same.2, pack_unpack _ _ unpacked]
  alphabet value := codec.alphabet (pack value)

/-- So many items in a row. -/
def decodeMany (codec : Codec α) : Nat → List UInt8 → Option (List α × List UInt8)
  | 0, bytes => some ([], bytes)
  | count + 1, bytes => (codec.decode bytes).bind fun first =>
    (decodeMany codec count first.2).map fun more => (first.1 :: more.1, more.2)

theorem decodeMany_encode (values : List α) (suffix : List UInt8) :
    decodeMany codec values.length (values.flatMap codec.encode ++ suffix) =
      some (values, suffix) := by
  induction values with
  | nil => rfl
  | cons value rest ih =>
    simp [decodeMany, append_assoc, codec.roundtrip, ih]

theorem decodeMany_canonical (codec : Codec α) :
    ∀ (count : Nat) (bytes : List UInt8) (values : List α) (rest : List UInt8),
      decodeMany codec count bytes = some (values, rest) →
        values.length = count ∧ bytes = values.flatMap codec.encode ++ rest
  | 0, bytes, values, rest, read => by
      simp only [decodeMany, some.injEq, Prod.mk.injEq] at read
      simp [← read.1, ← read.2]
  | count + 1, bytes, values, rest, read => by
      obtain ⟨first, firstRead, read⟩ := bind_eq_some_iff.1 read
      obtain ⟨more, moreRead, same⟩ := map_eq_some_iff.1 read
      obtain ⟨length, moreBytes⟩ := decodeMany_canonical codec count _ _ _ moreRead
      simp only [Prod.mk.injEq] at same
      rw [codec.canonical _ _ _ firstRead, moreBytes, ← same.1, ← same.2]
      simp [length]

def Codec.list : Codec (List α) where
  encode values := Codec.nat.encode values.length ++ values.flatMap codec.encode
  decode bytes := (Codec.nat.decode bytes).bind fun count => decodeMany codec count.1 count.2
  roundtrip values suffix := by
    rw [append_assoc, Codec.nat.roundtrip]
    exact decodeMany_encode codec values suffix
  canonical bytes values rest read := by
    obtain ⟨count, countRead, read⟩ := bind_eq_some_iff.1 read
    obtain ⟨length, more⟩ := decodeMany_canonical codec _ _ _ _ read
    rw [Codec.nat.canonical _ _ _ countRead, more, length, append_assoc]
  alphabet values byte mem := by
    rcases mem_append.1 mem with inCount | inItems
    · exact Codec.nat.alphabet _ _ inCount
    · obtain ⟨value, -, inItem⟩ := mem_flatMap.1 inItems
      exact codec.alphabet value byte inItem

/-! ## Whole lines -/

/-- Read a value that takes up all bytes. -/
def Codec.readAll (bytes : List UInt8) : Option α :=
  match codec.decode bytes with
  | some (value, []) => some value
  | _ => none

theorem Codec.readAll_encode (value : α) : codec.readAll (codec.encode value) = some value := by
  have read := codec.roundtrip value []
  rw [append_nil] at read
  rw [Codec.readAll, read]

/-- What is cut off before its end is not accepted. -/
theorem Codec.readAll_torn (value : α) {torn : List UInt8}
    (cut : torn <+: codec.encode value) (short : torn ≠ codec.encode value) :
    codec.readAll torn = none := by
  unfold Codec.readAll
  split
  · rename_i other read
    exfalso
    obtain ⟨more, whole⟩ := cut
    have tornIs := codec.canonical _ _ _ read
    rw [append_nil] at tornIs
    -- the whole encoding would be read as the other value with bytes left over
    have first := codec.roundtrip other more
    rw [← tornIs, whole] at first
    have second := codec.roundtrip value []
    rw [append_nil, first] at second
    simp only [some.injEq, Prod.mk.injEq] at second
    exact short (by rw [← whole, second.2, append_nil])
  · rfl

end WistAgentd.Theory

/- # Theory.Utf8 -- lossy decoding of bytes as UTF-8

Text is kept as its UTF-8 bytes, so decoding a byte string either confirms it or replaces each
maximal ill-formed subpart by the three bytes of U+FFFD. `scan` says what stands at the front:
a well-formed sequence or an ill-formed subpart, and how long it is.

* `fromUtf8Lossy_append_ascii`: an ASCII byte decodes on its own.
* `ascii_not_mem_fromUtf8Lossy`: decoding never brings in an ASCII byte.
* `validUtf8_append_ascii`, `validUtf8_ascii`: ASCII text is valid, also behind valid text. -/
import Mathlib.Data.List.Basic

namespace WistAgentd.Theory.Utf8
open List
set_option autoImplicit false

variable (b : UInt8)

/-- How many bytes follow the lead byte, and the range of the first of them (Unicode table 3-7);
`none` for a byte that cannot lead. -/
def lead : Option (Nat × UInt8 × UInt8) :=
  if b < 0x80 then some (0, 0, 0)
  else if b < 0xC2 then none
  else if b < 0xE0 then some (1, 0x80, 0xBF)
  else if b = 0xE0 then some (2, 0xA0, 0xBF)
  else if b = 0xED then some (2, 0x80, 0x9F)
  else if b < 0xF0 then some (2, 0x80, 0xBF)
  else if b = 0xF0 then some (3, 0x90, 0xBF)
  else if b < 0xF4 then some (3, 0x80, 0xBF)
  else if b = 0xF4 then some (3, 0x80, 0x8F)
  else none

/-- How many of the `need` continuation bytes are there; the first lies in `[low, high]`. -/
def continuation : Nat → UInt8 → UInt8 → List UInt8 → Nat
  | 0, _, _, _ => 0
  | _ + 1, _, _, [] => 0
  | need + 1, low, high, b :: rest =>
    if low ≤ b ∧ b ≤ high then continuation need 0x80 0xBF rest + 1 else 0

variable (rest : List UInt8)

/-- The first sequence after a lead byte: whether it is well formed, and its length behind the
lead byte. -/
def scan : Bool × Nat :=
  match lead b with
  | none => (false, 0)
  | some (need, low, high) =>
    let found := continuation need low high rest
    (found = need, found)

def replacement : List UInt8 := [0xEF, 0xBF, 0xBD]

/-- Decoding with fuel for the number of sequences. -/
def lossy : Nat → List UInt8 → List UInt8
  | 0, _ => []
  | _ + 1, [] => []
  | fuel + 1, b :: rest =>
    let (formed, extra) := scan b rest
    (if formed then b :: rest.take extra else replacement) ++ lossy fuel (rest.drop extra)

/-- `String::from_utf8_lossy`, as bytes. -/
def fromUtf8Lossy (bytes : List UInt8) : List UInt8 := lossy bytes.length bytes

def valid : Nat → List UInt8 → Bool
  | 0, _ => true
  | _ + 1, [] => true
  | fuel + 1, b :: rest => (scan b rest).1 && valid fuel (rest.drop (scan b rest).2)

/-- `std::str::from_utf8` accepts the bytes. -/
def validUtf8 (bytes : List UInt8) : Bool := valid bytes.length bytes

/-- Length of the white space character (Unicode `White_Space`) at the front; 0 if there is none. -/
def whitespaceLength : List UInt8 → Nat
  | [] => 0
  | b :: rest =>
    if (9 ≤ b ∧ b ≤ 13) ∨ b = 32 then 1
    else match b, rest with
      | 0xC2, second :: _ => if second = 0x85 ∨ second = 0xA0 then 2 else 0
      | 0xE1, 0x9A :: 0x80 :: _ => 3
      | 0xE2, 0x80 :: third :: _ =>
        if third ≤ 0x8A ∧ 0x80 ≤ third ∨ third = 0xA8 ∨ third = 0xA9 ∨ third = 0xAF then 3 else 0
      | 0xE2, 0x81 :: 0x9F :: _ => 3
      | 0xE3, 0x80 :: 0x80 :: _ => 3
      | _, _ => 0

def trimStartLoop : Nat → List UInt8 → List UInt8
  | 0, bytes => bytes
  | fuel + 1, bytes =>
    if whitespaceLength bytes = 0 then bytes
    else trimStartLoop fuel (bytes.drop (whitespaceLength bytes))

/-- `str::trim_start`. -/
def trimStart (bytes : List UInt8) : List UInt8 := trimStartLoop bytes.length bytes

/-- `char::is_whitespace`: the characters with the property `White_Space`. -/
def isWhitespace (c : Char) : Bool :=
  (9 ≤ c.toNat && c.toNat ≤ 13) || (0x2000 ≤ c.toNat && c.toNat ≤ 0x200a) ||
    [0x20, 0x85, 0xa0, 0x1680, 0x2028, 0x2029, 0x202f, 0x205f, 0x3000].contains c.toNat

/-- `str::trim`, on text as characters. -/
def trim (text : String) : String :=
  String.ofList ((text.toList.dropWhile isWhitespace).reverse.dropWhile isWhitespace).reverse

theorem trim_eq_self {text : String} {first last : Char} (starts : text.toList.head? = some first)
    (ends : text.toList.getLast? = some last) (firstShown : isWhitespace first = false)
    (lastShown : isWhitespace last = false) : trim text = text := by
  obtain ⟨rest, split⟩ := head?_eq_some_iff.1 starts
  have front : text.toList.dropWhile isWhitespace = text.toList := by
    rw [split, dropWhile_cons_of_neg (by simp [firstShown])]
  have back : text.toList.reverse.dropWhile isWhitespace = text.toList.reverse := by
    obtain ⟨others, whole⟩ := getLast?_eq_some_iff.1 ends
    rw [whole, reverse_append, reverse_singleton, singleton_append,
      dropWhile_cons_of_neg (by simp [lastShown])]
  rw [trim, front, back, reverse_reverse, String.ofList_toList]

/-! ## ASCII bytes -/

theorem lead_ascii {b : UInt8} (ascii : b < 0x80) : lead b = some (0, 0, 0) := by
  simp [lead, ascii]

theorem lead_low {b : UInt8} {need : Nat} {low high : UInt8} (found : lead b = some (need, low, high))
    (more : need ≠ 0) : 0x80 ≤ low := by
  unfold lead at found
  split at found
  · simp_all
  · split at found
    · simp at found
    · repeat' split at found
      all_goals first
        | (simp only [Option.some.injEq, Prod.mk.injEq] at found
           obtain ⟨_, rfl, _⟩ := found
           decide)
        | simp at found

/-- Continuation bytes are not ASCII: an ASCII byte ends the search at once. -/
theorem continuation_append_ascii {low : UInt8} (high : UInt8) (outside : 0x80 ≤ low) {a : UInt8}
    (ascii : a < 0x80) (more : List UInt8) : ∀ (need : Nat) (rest : List UInt8),
      continuation need low high (rest ++ a :: more) = continuation need low high rest := by
  intro need
  induction need generalizing low high with
  | zero => intro rest; simp [continuation]
  | succ need ih =>
    intro rest
    cases rest with
    | nil =>
      have below : ¬ low ≤ a := by
        intro le
        have : (0x80 : UInt8) ≤ a := UInt8.le_trans outside le
        exact absurd ascii (UInt8.not_lt.mpr this)
      simp [continuation, below]
    | cons b rest =>
      simp only [cons_append, continuation]
      split
      · rw [ih 0xBF (by decide) rest]
      · rfl

theorem continuation_high (need : Nat) {low : UInt8} (outside : 0x80 ≤ low) (high : UInt8)
    (rest : List UInt8) : ∀ b ∈ rest.take (continuation need low high rest), 0x80 ≤ b := by
  induction rest generalizing need low high with
  | nil => simp
  | cons first rest ih =>
    cases need with
    | zero => simp [continuation]
    | succ need =>
      rw [continuation]
      split
      · rename_i inside
        intro b mem
        rw [take_succ_cons, mem_cons] at mem
        rcases mem with rfl | later
        · exact UInt8.le_trans outside inside.1
        · exact ih need (by decide) _ b later
      · simp

theorem continuation_le_length : ∀ (need : Nat) (low high : UInt8) (rest : List UInt8),
    continuation need low high rest ≤ rest.length
  | 0, _, _, _ => Nat.zero_le _
  | _ + 1, _, _, [] => Nat.le_refl _
  | need + 1, low, high, b :: rest => by
      simp only [continuation]
      split
      · exact Nat.succ_le_succ (continuation_le_length need 0x80 0xBF rest)
      · exact Nat.zero_le _

theorem scan_le_length : (scan b rest).2 ≤ rest.length := by
  unfold scan
  split
  · exact Nat.zero_le _
  · exact continuation_le_length _ _ _ rest

theorem scan_append_ascii {a : UInt8} (ascii : a < 0x80)
    (more : List UInt8) : scan b (rest ++ a :: more) = scan b rest := by
  unfold scan
  split
  · rfl
  · rename_i need low high found
    by_cases none_ : need = 0
    · subst none_
      simp [continuation]
    · rw [continuation_append_ascii high (lead_low found none_) ascii more need rest]

/-- A sequence is one byte, or bytes none of which is ASCII. -/
theorem scan_high : ∀ other ∈ rest.take (scan b rest).2, 0x80 ≤ other := by
  unfold scan
  split
  · simp
  · rename_i need low top found
    by_cases none_ : need = 0
    · subst none_
      simp [continuation]
    · exact continuation_high need (lead_low found none_) top rest

/-- Induction over the sequences a byte string is cut into. -/
theorem sequence_induction {motive : List UInt8 → Prop} (nil : motive [])
    (cons : ∀ b rest, motive (rest.drop (scan b rest).2) → motive (b :: rest)) :
    ∀ bytes, motive bytes := by
  intro bytes
  induction length : bytes.length using Nat.strongRecOn generalizing bytes with
  | _ n ih =>
    cases bytes with
    | nil => exact nil
    | cons b rest =>
      refine cons b rest (ih _ ?_ _ rfl)
      simp at length ⊢
      omega

/-- Fuel beyond the length changes nothing. -/
theorem fuel_irrelevant {α : Type} {f : Nat → List UInt8 → α} (g : UInt8 → List UInt8 → α → α)
    (nil : ∀ fuel, f fuel [] = f 0 [])
    (cons : ∀ fuel b rest, f (fuel + 1) (b :: rest) = g b rest (f fuel (rest.drop (scan b rest).2)))
    (bytes : List UInt8) : ∀ {m n}, bytes.length ≤ m → bytes.length ≤ n → f m bytes = f n bytes := by
  induction bytes using sequence_induction with
  | nil => exact fun _ _ => (nil _).trans (nil _).symm
  | cons b rest ih =>
    intro m n left right
    obtain ⟨m, rfl⟩ := Nat.exists_eq_add_of_le' (Nat.le_trans (Nat.le_add_left 1 _) left)
    obtain ⟨n, rfl⟩ := Nat.exists_eq_add_of_le' (Nat.le_trans (Nat.le_add_left 1 _) right)
    rw [length_cons] at left right
    rw [cons, cons, @ih m n (by rw [length_drop]; omega) (by rw [length_drop]; omega)]

theorem fromUtf8Lossy_cons :
    fromUtf8Lossy (b :: rest) =
      (if (scan b rest).1 then b :: rest.take (scan b rest).2 else replacement) ++
        fromUtf8Lossy (rest.drop (scan b rest).2) := by
  simp only [fromUtf8Lossy, length_cons, lossy]
  rw [fuel_irrelevant (f := lossy) (fun b rest tail => (if (scan b rest).1 then
    b :: rest.take (scan b rest).2 else replacement) ++ tail) (fun fuel => by cases fuel <;> rfl)
    (fun _ _ _ => rfl) _ (m := rest.length) (by simp) (Nat.le_refl _)]

@[simp] theorem fromUtf8Lossy_nil : fromUtf8Lossy [] = [] := rfl

/-- **An ASCII byte decodes on its own.** -/
theorem fromUtf8Lossy_append_ascii {a : UInt8} (ascii : a < 0x80) (more bytes : List UInt8) :
    fromUtf8Lossy (bytes ++ a :: more) = fromUtf8Lossy bytes ++ a :: fromUtf8Lossy more := by
  induction bytes using sequence_induction with
  | nil => simp [fromUtf8Lossy_cons, scan, lead_ascii ascii, continuation]
  | cons b rest ih =>
    have inside := scan_le_length b rest
    rw [cons_append, fromUtf8Lossy_cons, fromUtf8Lossy_cons, scan_append_ascii b rest ascii,
      take_append_of_le_length inside, drop_append_of_le_length inside, ih,
      append_assoc]

/-- A sequence that does not start with an ASCII byte is replaced by bytes that are not ASCII either. -/
theorem fromUtf8Lossy_high {b : UInt8} (high : ¬ b < 0x80) (rest : List UInt8) :
    ∃ front, front ≠ [] ∧ (∀ other ∈ front, 0x80 ≤ other) ∧
      fromUtf8Lossy (b :: rest) = front ++ fromUtf8Lossy (rest.drop (scan b rest).2) := by
  rw [fromUtf8Lossy_cons]
  refine ⟨_, ?_, ?_, rfl⟩
  · split <;> simp [replacement]
  · split
    · intro other mem
      rcases mem_cons.1 mem with rfl | later
      · exact UInt8.not_lt.1 high
      · exact scan_high b rest other later
    · simp only [replacement, mem_cons, not_mem_nil, or_false]
      rintro other (rfl | rfl | rfl) <;> decide

/-- **Decoding brings in no ASCII byte.** -/
theorem ascii_not_mem_fromUtf8Lossy {a : UInt8} (ascii : a < 0x80) {bytes : List UInt8}
    (absent : a ∉ bytes) : a ∉ fromUtf8Lossy bytes := by
  induction bytes using sequence_induction with
  | nil => simp
  | cons b rest ih =>
    rw [mem_cons, not_or] at absent
    rw [fromUtf8Lossy_cons, mem_append, not_or]
    refine ⟨?_, ih fun mem => absent.2 (mem_of_mem_drop mem)⟩
    split
    · rw [mem_cons, not_or]
      exact ⟨absent.1, fun mem => absent.2 (mem_of_mem_take mem)⟩
    · simp only [replacement, mem_cons, not_mem_nil, or_false, not_or]
      refine ⟨?_, ?_, ?_⟩ <;> rintro rfl <;> exact absurd ascii (by decide)

/-! ## Validity -/

theorem validUtf8_cons :
    validUtf8 (b :: rest) = ((scan b rest).1 && validUtf8 (rest.drop (scan b rest).2)) := by
  simp only [validUtf8, length_cons, valid]
  rw [fuel_irrelevant (f := valid) (fun b rest tail => (scan b rest).1 && tail)
    (fun fuel => by cases fuel <;> rfl) (fun _ _ _ => rfl) _ (m := rest.length) (by simp)
    (Nat.le_refl _)]

theorem scan_ascii {b : UInt8} (ascii : b < 0x80) (rest : List UInt8) :
    scan b rest = (true, 0) := by
  simp [scan, lead_ascii ascii, continuation]

theorem validUtf8_append_ascii {a : UInt8} (ascii : a < 0x80) (bytes : List UInt8) :
    validUtf8 (bytes ++ [a]) = validUtf8 bytes := by
  induction bytes using sequence_induction with
  | nil => simp [validUtf8, valid, scan_ascii ascii]
  | cons b rest ih =>
    rw [cons_append, validUtf8_cons, validUtf8_cons, scan_append_ascii b rest ascii,
      drop_append_of_le_length (scan_le_length b rest), ih]

theorem validUtf8_ascii {bytes : List UInt8} (ascii : ∀ b ∈ bytes, b < 0x80) :
    validUtf8 bytes = true := by
  induction bytes with
  | nil => rfl
  | cons b rest ih =>
    rw [validUtf8_cons, scan_ascii (ascii b mem_cons_self), drop_zero,
      ih fun other mem => ascii other (mem_cons_of_mem _ mem)]
    rfl

end WistAgentd.Theory.Utf8

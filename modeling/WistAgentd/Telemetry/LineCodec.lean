/- # Telemetry.LineCodec -- one realisation of what the pipeline takes from outside

Records are written in a self-delimiting code on one line; blocks are folded by a small delimiter
that opens a record at every line that starts one. It has the properties asked of the JSON writer
(`plainExternals_spoolCodec`), so those can be met together. -/
import WistAgentd.Telemetry.Record
import WistAgentd.Theory.Codec

namespace WistAgentd.Telemetry
open Theory Theory.Utf8
open List Option
set_option autoImplicit false

def charCodec : Codec Char :=
  Codec.nat.via Char.toNat
    (fun code => if (Char.ofNat code).toNat = code then some (Char.ofNat code) else none)
    (fun char => by simp)
    (fun code char unpacked => by
      split at unpacked
      · rename_i valid
        rw [← some.inj unpacked, valid]
      · simp at unpacked)

def stringCodec : Codec String :=
  charCodec.list.via String.toList (fun chars => some (String.ofList chars)) (fun text => by simp)
    fun chars text unpacked => by rw [← some.inj unpacked]; simp

def bytesCodec : Codec Bytes :=
  (Codec.nat.via UInt8.toNat
    (fun code => if code < 256 then some (UInt8.ofNat code) else none)
    (fun byte => by simp [byte.toNat_lt])
    (fun code byte unpacked => by
      split at unpacked
      · rename_i small
        rw [← some.inj unpacked, UInt8.toNat_ofNat']
        omega
      · simp at unpacked)).list

def containerCodec : Codec (Option ContainerRef) :=
  (stringCodec.pair (stringCodec.pair stringCodec)).list.via
    (fun container => (container.map fun ref => (ref.name, ref.image, ref.id)).toList)
    (fun
      | [] => some none
      | [(name, image, id)] => some (some ⟨name, image, id⟩)
      | _ => none)
    (fun container => by cases container <;> rfl)
    fun raw container unpacked => by
      match raw, unpacked with
      | [], unpacked => rw [← some.inj unpacked]; rfl
      | [_], unpacked => rw [← some.inj unpacked]; rfl

/-- All fields of a record in the order of the structure. -/
def recordCodec : Codec TelemetryRecord :=
  ((stringCodec.pair (stringCodec.pair (stringCodec.pair stringCodec))).pair
    ((bytesCodec.pair (Codec.nat.pair (Codec.nat.pair Codec.nat))).pair
      ((stringCodec.pair stringCodec).pair containerCodec))).via
    (fun record =>
      ((record.agentId, record.observedAt, record.inputId, record.sourcePath),
        (record.body, record.startOffset, record.endOffset, record.seq),
        (record.origin.family, record.origin.unit), record.container))
    (fun ((agentId, observedAt, inputId, sourcePath), (body, startOffset, endOffset, seq),
        (family, unit), container) =>
      some { agentId, observedAt, inputId, sourcePath, body, startOffset, endOffset, seq
             origin := ⟨family, unit⟩, container })
    (fun record => rfl)
    fun raw record unpacked => by rw [← some.inj unpacked]

/-- A record is opened by a line that starts one and collects the lines that do not. -/
def plainDelimiter : Delimiter where
  State := Option Record
  new := none
  resume record := some record
  push state line signal :=
    let opened : Record :=
      { body := line.text, startOffset := line.startOffset, endOffset := line.endOffset, lines := 1
        completion := .boundary }
    match state, signal line.text with
    | some record, .neither =>
      (some { record with
        body := record.body ++ line.text, endOffset := line.endOffset, lines := record.lines + 1 },
       [])
    | _, _ => (some opened, state.toList)
  intoPending state := state

/-- An open brace marks a record. -/
def encodePlain (record : TelemetryRecord) : Bytes := 123 :: recordCodec.encode record

def decodePlain : Bytes → Option TelemetryRecord
  | [] => none
  | mark :: rest => if mark = 123 then recordCodec.readAll rest else none

def plainExternals : Externals where
  encodeRecord := encodePlain
  decodeRecord := decodePlain
  encodeFrame frame := recordCodec.encode
    { agentId := frame.agent, observedAt := frame.ts, inputId := "", sourcePath := "", body := []
      startOffset := 0, endOffset := 0, seq := frame.seq, origin := frame.origin
      container := frame.container }
  parseTime text := some text.length
  indented line := match line with
    | byte :: _ => if byte = 32 ∨ byte = 9 then .neither else .starts
    | [] => .starts
  delimiter := plainDelimiter
  containerFor _ := none

theorem plainExternals_spoolCodec : plainExternals.SpoolCodec where
  decode_encode record := recordCodec.readAll_encode record
  decode_prefix record torn cut short := by
    cases torn with
    | nil => rfl
    | cons mark rest =>
      obtain ⟨rfl, restCut⟩ := cons_prefix_cons.1 cut
      refine recordCodec.readAll_torn record restCut fun whole => short ?_
      rw [whole]
      rfl
  utf8 record := by
    refine validUtf8_ascii fun byte mem => ?_
    rcases mem_cons.1 mem with rfl | inCode
    · decide
    · rcases recordCodec.alphabet record byte inCode with rfl | rfl <;> decide
  opens_object record := rfl
  no_control record byte mem := by
    rcases mem_cons.1 mem with rfl | inCode
    · decide
    · rcases recordCodec.alphabet record byte inCode with rfl | rfl <;> decide

end WistAgentd.Telemetry

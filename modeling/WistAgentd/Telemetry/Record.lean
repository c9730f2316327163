/- # Telemetry.Record -- the data every stage of the pipeline passes on, and the wire

Bytes, IO errors, the delimited record of the folding stage and the telemetry record that is
numbered, spooled and sent. What comes from outside the repository (JSON, RFC 3339, the
delimiter of multi-line blocks, the container lookup) is a field of `Externals`.

The five frame builders put a marker between the JSON envelope and the body; the framing then
either ends the frame with a newline or puts its length in front. The TCP sink keeps at most one
connection, with a doubling backoff after every failure.

* `buildPayloadBytes`: one frame as it goes on the wire.
* `recordsPayload`: the bytes `write_records` hands to one `write_payload` call. -/
import WistAgentd.Theory.Utf8

namespace WistAgentd.Telemetry
open Theory.Utf8
set_option autoImplicit false

/-- Text of the agent (log bodies, frames, spool lines) is its UTF-8 byte sequence. -/
abbrev Bytes := List UInt8

abbrev Path := String

def newline : UInt8 := 10

/-- The bytes of an ASCII literal. -/
def ascii (text : String) : Bytes := text.toList.map fun char => char.toNat.toUInt8

inductive ErrorKind
  | notFound | permissionDenied | isADirectory | unexpectedEof | wouldBlock | timedOut | writeZero
  | invalidInput | invalidData | unsupported | other
  deriving DecidableEq

/-- `uplink` marks a failure to write to the sink (`UplinkWriteError`). -/
structure IoError where
  kind : ErrorKind
  message : String
  uplink : Bool
  deriving DecidableEq

/-- `io::Error::new`. -/
def IoError.new (kind : ErrorKind) (message : String) : IoError := ⟨kind, message, false⟩

/-- `uplink_write_error`. -/
def uplinkWriteError (err : IoError) : IoError := { err with uplink := true }

/-- `uplink_write_detail`. -/
def uplinkWriteDetail (err : IoError) : Option String := if err.uplink then some err.message else none

/-- How the boundary of a delimited record was found. -/
inductive Completion
  | boundary | deadline | oversized
  deriving DecidableEq

/-- `records::Record`: one delimited record with the byte range it was folded from. -/
structure Record where
  body : Bytes
  startOffset : Nat
  endOffset : Nat
  lines : Nat
  completion : Completion
  deriving DecidableEq

/-- One line handed over by the bounded reader. -/
structure RawFileLine where
  text : Bytes
  startOffset : Nat
  endOffset : Nat
  deriving DecidableEq

structure InputOrigin where
  family : String
  unit : String

structure ContainerRef where
  name : String
  image : String
  id : String

/-- `TelemetryRecord::new_log(..).with_origin(..).with_container(..)`. -/
structure TelemetryRecord where
  agentId : String
  observedAt : String
  inputId : String
  sourcePath : Path
  body : Bytes
  startOffset : Nat
  endOffset : Nat
  seq : Nat
  origin : InputOrigin
  container : Option ContainerRef

/-- The envelope of every uplink frame. -/
structure DataFrame where
  agent : String
  ts : String
  seq : Nat
  origin : InputOrigin
  container : Option ContainerRef

/-- `DataFrame::from(&TelemetryRecord)`. -/
def DataFrame.ofRecord (record : TelemetryRecord) : DataFrame :=
  { agent := record.agentId, ts := record.observedAt, seq := record.seq
    origin := record.origin, container := record.container }

/-- Where a line stands relative to a record boundary (`records::Boundary`). -/
inductive Boundary
  | starts | neither

/-- `records::Delimiter`, the block folder of the shared crate, behind its interface. -/
structure Delimiter where
  State : Type
  new : State
  resume : Record → State
  push : State → RawFileLine → (Bytes → Boundary) → State × List Record
  intoPending : State → Option Record

/-- What the pipeline uses from outside the repository. -/
structure Externals where
  encodeRecord : TelemetryRecord → Bytes
  decodeRecord : Bytes → Option TelemetryRecord
  encodeFrame : DataFrame → Bytes
  /-- RFC 3339 text to milliseconds; `none` when it does not parse. -/
  parseTime : String → Option Int
  indented : Bytes → Boundary
  delimiter : Delimiter
  containerFor : Path → Option ContainerRef

/-- What `serde_json` guarantees for the spool: a record is written as an object in UTF-8, with
control characters escaped, that reads back as that record, and no strict prefix of it reads back. -/
structure Externals.SpoolCodec (ext : Externals) : Prop where
  decode_encode : ∀ record, ext.decodeRecord (ext.encodeRecord record) = some record
  decode_prefix : ∀ record torn, torn <+: ext.encodeRecord record →
    torn ≠ ext.encodeRecord record → ext.decodeRecord torn = none
  utf8 : ∀ record, validUtf8 (ext.encodeRecord record) = true
  opens_object : ∀ record, (ext.encodeRecord record).head? = some 123
  no_control : ∀ record, ∀ byte ∈ ext.encodeRecord record, 32 ≤ byte

inductive TcpFraming
  | line | len

/-! ## Frames -/

def buildRecordFrame (ext : Externals) (record : TelemetryRecord) : Bytes :=
  ext.encodeFrame (DataFrame.ofRecord record) ++ ascii " LOGRAW: " ++ record.body

/-- `data.len().to_string().as_bytes()`. -/
def decimal (n : Nat) : Bytes := (Nat.toDigits 10 n).map fun digit => digit.toNat.toUInt8

def buildPayloadBytes (data : Bytes) : TcpFraming → Bytes
  | .line => if data.getLast? = some newline then data else data ++ [newline]
  | .len => decimal data.length ++ [32] ++ data

/-- `write_records` concatenates the payloads of its records into one write. -/
def recordsPayload (ext : Externals) (framing : TcpFraming) (records : List TelemetryRecord) :
    Bytes :=
  records.flatMap fun record => buildPayloadBytes (buildRecordFrame ext record) framing

/-! ## The sink -/

/-- Durations and instants are milliseconds. -/
def tcpWriteTotalTimeout : Nat := 15000

def tcpBackoffInitial : Nat := 1000

def tcpBackoffMax : Nat := 30000

abbrev ConnId := Nat

structure TcpRecordSink where
  targetAddr : String
  framing : TcpFraming
  stream : Option ConnId
  nextAttemptAt : Option Nat
  backoff : Nat

namespace TcpRecordSink

def new (addr : String) (port : Nat) (framing : TcpFraming) : TcpRecordSink :=
  { targetAddr := addr ++ ":" ++ toString port, framing, stream := none, nextAttemptAt := none
    backoff := tcpBackoffInitial }

variable (sink : TcpRecordSink)

def inBackoff (now : Nat) : Bool :=
  sink.nextAttemptAt.any fun at_ => decide (now < at_)

def scheduleBackoff (now : Nat) : TcpRecordSink :=
  let backoff := min (sink.backoff * 2) tcpBackoffMax
  { sink with backoff, nextAttemptAt := some (now + backoff) }

/-- A connect that succeeded resets the backoff. -/
def connected (conn : ConnId) : TcpRecordSink :=
  { sink with stream := some conn, backoff := tcpBackoffInitial, nextAttemptAt := none }

def tagTarget (err : IoError) : IoError :=
  { err with message := sink.targetAddr ++ ": " ++ err.message }

def backoffError : IoError :=
  sink.tagTarget (.new .wouldBlock "tcp uplink in backoff")

@[simp] theorem scheduleBackoff_stream (now : Nat) :
    (sink.scheduleBackoff now).stream = sink.stream := rfl

@[simp] theorem connected_stream (conn : ConnId) : (sink.connected conn).stream = some conn := rfl

end TcpRecordSink

end WistAgentd.Telemetry

/- # Telemetry.Files.FileReader -- bounded reading of complete lines

`read_from_offset_async` pulls the file block by block, cuts lines at newlines, keeps at most
`max_line_bytes` of each, and stops at a line boundary when a budget is used up.

* `readStep`, `readLoop`: the loop of the source, one chunk per turn.
* `inspectPath`, `checkpointProbe`: the identity of a file and the bytes before an offset. -/
import WistAgentd.Telemetry.Files.FileSystem

namespace WistAgentd.Telemetry
open Theory.Utf8
set_option autoImplicit false

def checkpointProbeBytes : Nat := 16

structure ReadLimits where
  maxLineBytes : Nat
  maxBytes : Nat
  maxLines : Nat

/-- `ReadLimits::new` keeps every limit at one at least. -/
def ReadLimits.new (maxLineBytes maxBytes maxLines : Nat) : ReadLimits :=
  ⟨max maxLineBytes 1, max maxBytes 1, max maxLines 1⟩

/-- A fingerprint is lower-case hexadecimal text. -/
abbrev Hex := List Char

structure ObservedFileIdentity where
  deviceId : Option Nat
  inode : Option Nat
  fingerprint : Option Hex
  fileLen : Nat
  deriving DecidableEq

structure ReadFromOffset where
  identity : ObservedFileIdentity
  lines : List RawFileLine
  committedEndOffset : Nat
  truncatedLines : Nat
  deriving DecidableEq

/-! ## Identity -/

def nibbleToHex (value : Nat) : Char :=
  if value ≤ 9 then Char.ofNat (48 + value) else Char.ofNat (97 + (value - 10))

def fingerprint (bytes : Bytes) : Hex :=
  bytes.flatMap fun byte => [nibbleToHex (byte.toNat / 16), nibbleToHex (byte.toNat % 16)]

/-- `identity_from_metadata` with the prefix of `read_prefix_async`. -/
def identityOf (node : NodeId) (content : Bytes) : ObservedFileIdentity :=
  { deviceId := some node.device, inode := some node.inode
    fingerprint := some (fingerprint (content.take 32)), fileLen := content.length }

def inspectPath (fs : FileSystem) (path : Path) : Except IoError ObservedFileIdentity :=
  match fs.openNode path with
  | .ok node => .ok (identityOf node (fs.content node))
  | .error err => .error err

/-- `stable_file_id_async`; its three text forms are the three constructors. -/
inductive FileId
  | inode (device inode : Nat)
  | fingerprint (canonical : Path) (fingerprint : Hex)
  | path (canonical : Path)
  deriving DecidableEq

def stableFileId (fs : FileSystem) (path : Path) (identity : ObservedFileIdentity) : FileId :=
  match identity.deviceId, identity.inode with
  | some device, some inode => .inode device inode
  | _, _ => match identity.fingerprint with
    | some fingerprint => .fingerprint (fs.realPath path) fingerprint
    | none => .path (fs.realPath path)

/-- `checkpoint_probe_async`: the bytes just before the offset; an error when they are not there. -/
def checkpointProbe (fs : FileSystem) (path : Path) (checkpointOffset : Nat) :
    Except IoError (Option Hex) :=
  if checkpointOffset = 0 then .ok none
  else match fs.openNode path with
    | .error err => .error err
    | .ok node =>
      let probeLen := min checkpointOffset checkpointProbeBytes
      let probeStart := checkpointOffset - probeLen
      let buf := ((fs.content node).drop probeStart).take probeLen
      if buf.length = probeLen then .ok (some (fingerprint buf))
      else .error (.new .unexpectedEof "failed to fill whole buffer")

/-! ## The buffered reader -/

/-- Length of the first line of a block, newline included. -/
def lineEnd (block : Bytes) : Option Nat := (block.findIdx? (· = newline)).map (· + 1)

structure ReadChunk where
  take : Nat
  hasNewline : Bool
  bytes : Bytes

/-- `read_chunk_async`: to the end of the line or of the block; `none` at the end of the file. -/
def readChunk : List Bytes → Option ReadChunk
  | [] => none
  | block :: _ =>
    if block = [] then none
    else match lineEnd block with
      | some take => some ⟨take, true, block.take take⟩
      | none => some ⟨block.length, false, block⟩

def consume (blocks : List Bytes) (n : Nat) : List Bytes :=
  match blocks with
  | [] => []
  | block :: rest => if block.drop n = [] then rest else block.drop n :: rest

/-- `skip_to_line_end_async`: how many bytes were skipped, and the blocks after them. -/
def skipToLineEnd : List Bytes → Nat × List Bytes
  | [] => (0, [])
  | block :: rest =>
    if block = [] then (0, block :: rest)
    else match lineEnd block with
      | some take => (take, consume (block :: rest) take)
      | none => (block.length + (skipToLineEnd rest).1, (skipToLineEnd rest).2)

/-- `append_bounded`: the buffer, and whether bytes were cut off. -/
def appendBounded (buf chunk : Bytes) (limit : Nat) : Bytes × Bool :=
  if limit ≤ buf.length then (buf, true)
  else
    let room := limit - buf.length
    if room < chunk.length then (buf ++ chunk.take room, true) else (buf ++ chunk, false)

/-! ## The loop -/

/-- The variables of `read_from_offset_async`. -/
structure Cursor where
  blocks : List Bytes
  lines : List RawFileLine
  truncatedLines : Nat
  committedEndOffset : Nat
  lineStart : Nat
  lineConsumed : Nat
  consumedTotal : Nat
  lineBuf : Bytes

def Cursor.start (offset : Nat) (blocks : List Bytes) : Cursor :=
  { blocks, lines := [], truncatedLines := 0, committedEndOffset := offset, lineStart := offset
    lineConsumed := 0, consumedTotal := 0, lineBuf := [] }

/-- Push the finished line and start the next one. -/
def Cursor.commitLine (c : Cursor) (truncated : Bool) : Cursor :=
  let stop := c.lineStart + c.lineConsumed
  { c with
    lines := c.lines ++ [⟨fromUtf8Lossy c.lineBuf, c.lineStart, stop⟩]
    truncatedLines := if truncated then c.truncatedLines + 1 else c.truncatedLines
    committedEndOffset := stop, lineStart := stop, lineConsumed := 0, lineBuf := [] }

/-- The part of a turn behind the budget checks: append, consume, and commit at a line end. -/
def takeChunk (limits : ReadLimits) (c : Cursor) (chunk : ReadChunk) : Cursor :=
  let appended := appendBounded c.lineBuf chunk.bytes limits.maxLineBytes
  let c := { c with
    blocks := consume c.blocks chunk.take
    lineConsumed := c.lineConsumed + chunk.take
    consumedTotal := c.consumedTotal + chunk.take
    lineBuf := appended.1 }
  if chunk.hasNewline then c.commitLine appended.2
  else if appended.2 then
    -- an over-long line: the rest of it is skipped, then it is committed cut
    let skipped := skipToLineEnd c.blocks
    { c with
      blocks := skipped.2
      lineConsumed := c.lineConsumed + skipped.1
      consumedTotal := c.consumedTotal + skipped.1 }.commitLine true
  else c

/-- One turn of the loop; `none` is a `break`. -/
def readStep (limits : ReadLimits) (c : Cursor) : Option Cursor :=
  if limits.maxLines ≤ c.lines.length then none
  -- the byte budget is settled at line boundaries only
  else if c.lineConsumed = 0 ∧ limits.maxBytes ≤ c.consumedTotal then none
  else match readChunk c.blocks with
    | none => none
    | some chunk =>
      if c.lineConsumed = 0 ∧ 0 < c.consumedTotal ∧
          limits.maxBytes < c.consumedTotal + chunk.take then none
      else some (takeChunk limits c chunk)

def readLoop (limits : ReadLimits) : Nat → Cursor → Cursor
  | 0, c => c
  | fuel + 1, c => match readStep limits c with
    | none => c
    | some next => readLoop limits fuel next

/-- The body of `read_from_offset_async` on an opened file. Every turn takes a byte, so the
length of the file is fuel enough. -/
def readContent (chunking : Chunking) (content : Bytes) (startOffset : Nat) (limits : ReadLimits) :
    Cursor :=
  let boundedOffset := min startOffset content.length
  readLoop limits (content.length + 1)
    (.start boundedOffset (chunking.cut (content.drop boundedOffset)))

def readFromOffset (fs : FileSystem) (path : Path) (startOffset : Nat) (limits : ReadLimits) :
    Except IoError ReadFromOffset :=
  match fs.openNode path with
  | .error err => .error err
  | .ok node =>
    let c := readContent fs.chunking (fs.content node) startOffset limits
    .ok { identity := identityOf node (fs.content node), lines := c.lines
          committedEndOffset := c.committedEndOffset, truncatedLines := c.truncatedLines }

end WistAgentd.Telemetry

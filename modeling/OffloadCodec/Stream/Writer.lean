import OffloadCodec.Session
import OffloadCodec.Stream.Frame
import OffloadCodec.Stream.Scratch
import OffloadCodec.Stream.Sink

/-!
# Block writers

A `FrameWriter` compresses blocks and writes each of them to a sink as a frame. A `BlockWriter`
collects bytes for one until a block is full. `flush` and `finish` emit what has been collected as a
short block.

* Bytes are copied piece by piece: `Bytes.pieces` says which bytes complete the current block and
  which make up the blocks after it.
* When compression or the sink fails the writer is marked as failed, and from then on it takes no
  bytes and makes no call. A failed flush of the sink does not mark it.
* `discard` ends a writer that was not finished: it emits the last block on a best effort basis.
  `finish` discards a writer that it could not finish.
-/

namespace OffloadCodec

structure FrameWriter (σ ι : Type) where
  session : Session σ ι
  sink : Sink
  /-- Receives the compressed block. -/
  compressed : Scratch
  /-- A block was lost, or its frame is incomplete. -/
  failed : Bool := false

structure BlockWriter (σ ι : Type) extends FrameWriter σ ι where
  /-- The block being filled. -/
  block : Scratch
  /-- Bytes of the block that are filled. -/
  filled : Nat := 0

/-- How a writer that is gone ended, and the sink that it wrote to. -/
structure Closed where
  result : Except StreamFailure Unit
  sink : Sink

namespace FrameWriter

variable {σ ι : Type}

/-- Compresses a block and leaves the output in the writer's buffer. -/
def compressBlock (writer : FrameWriter σ ι) (block : Bytes) (world : World σ) :
    Except CodecError Nat × FrameWriter σ ι × World σ :=
  let served :=
    writer.session.compress (.whole (.ofBytes block)) (.whole writer.compressed.memory) world
  let writer := { writer with
    session := served.session
    compressed := writer.compressed.withMemory served.output.memory }
  match served.result with
  | .ok n => (.ok n.toNat, writer, served.world)
  | .error e => (.error e, writer, served.world)

/-- Writes the first `n` bytes of the buffer to the sink as a frame. -/
def emit (writer : FrameWriter σ ι) (n : Nat) : Except StreamFailure Unit × FrameWriter σ ι :=
  match writer.sink.writeAll (Bytes.le32 n) with
  | (.error e, sink) => (.error (.error e), { writer with sink, failed := true })
  | (.ok (), sink) =>
    if writer.compressed.size < n then (.error .overrun, { writer with sink })
    else match sink.writeAll (writer.compressed.memory.read 0 n) with
      | (.error e, sink) => (.error (.error e), { writer with sink, failed := true })
      | (.ok (), sink) => (.ok (), { writer with sink })

/-- Compresses a block and emits it. -/
def writeFrame (writer : FrameWriter σ ι) (block : Bytes) (world : World σ) :
    Except StreamFailure Unit × FrameWriter σ ι × World σ :=
  match writer.compressBlock block world with
  | (.error e, writer, world) =>
    (.error (.error (.codec e)), { writer with failed := true }, world)
  | (.ok n, writer, world) =>
    let world := world.say 4
      ("qatcodec: block " ++ toString block.length ++ " -> " ++ toString n ++ " bytes\n")
    let (result, writer) := writer.emit n
    (result, writer, world)

/-- Flushes the sink. -/
def flushSink (writer : FrameWriter σ ι) : Except StreamFailure Unit × FrameWriter σ ι :=
  match writer.sink.flush with
  | (.ok (), sink) => (.ok (), { writer with sink })
  | (.error e, sink) => (.error (.error e), { writer with sink })

end FrameWriter

namespace BlockWriter

variable {σ ι : Type}

/-- A writer onto a sink. It makes no codec call and writes nothing. -/
def create (library : Library σ ι) (sink : Sink) (options : StreamOptions) :
    Act σ StreamFailure (BlockWriter σ ι) := do
  let bound ← library.blockBound options.blockSize
  let (block, compressed) ←
    (Scratch.allocatePair library options.blockSize bound options.buffers).streamed
  return { session := .new library, sink, block, compressed }

def blockSize (writer : BlockWriter σ ι) : Nat := writer.block.size

/-- Emits what is filled, if anything is. -/
def writeBlock (writer : BlockWriter σ ι) (world : World σ) :
    Except StreamFailure Unit × BlockWriter σ ι × World σ :=
  if writer.failed then (.error (.error .writerFailed), writer, world)
  else if writer.filled = 0 then (.ok (), writer, world)
  else match writer.writeFrame (writer.block.memory.read 0 writer.filled) world with
    | (.ok (), frames, world) =>
      (.ok (), { writer with toFrameWriter := frames, filled := 0 }, world)
    | (.error e, frames, world) => (.error e, { writer with toFrameWriter := frames }, world)

/-- Copies a piece into the block and emits the block if that fills it. -/
def put (writer : BlockWriter σ ι) (piece : Bytes) (world : World σ) :
    Except StreamFailure Unit × BlockWriter σ ι × World σ :=
  let writer := { writer with
    block := writer.block.withMemory (writer.block.memory.write writer.filled piece)
    filled := writer.filled + piece.length }
  if writer.filled = writer.block.size then writer.writeBlock world else (.ok (), writer, world)

/-- Copies pieces until one fails. -/
def putAll (writer : BlockWriter σ ι) : List Bytes → World σ →
    Except StreamFailure Unit × BlockWriter σ ι × World σ
  | [], world => (.ok (), writer, world)
  | piece :: pieces, world =>
    match writer.put piece world with
    | (.ok (), writer, world) => putAll writer pieces world
    | (.error e, writer, world) => (.error e, writer, world)

/-- Takes bytes in and emits every block that they fill. Takes all of them, or fails. -/
def write (writer : BlockWriter σ ι) (bytes : Bytes) (world : World σ) :
    Except StreamFailure Nat × BlockWriter σ ι × World σ :=
  if writer.failed then (.error (.error .writerFailed), writer, world)
  else
    let room := writer.block.size - writer.filled
    match writer.putAll (Bytes.pieces room writer.block.size bytes) world with
    | (.ok (), writer, world) => (.ok bytes.length, writer, world)
    | (.error e, writer, world) => (.error e, writer, world)

/-- Writes bytes if there are any. -/
def writeAll (writer : BlockWriter σ ι) (bytes : Bytes) (world : World σ) :
    Except StreamFailure Unit × BlockWriter σ ι × World σ :=
  if bytes = [] then (.ok (), writer, world)
  else match writer.write bytes world with
    | (.ok _, writer, world) => (.ok (), writer, world)
    | (.error e, writer, world) => (.error e, writer, world)

/-- Emits what is filled as a short block, then flushes the sink. -/
def flush (writer : BlockWriter σ ι) (world : World σ) :
    Except StreamFailure Unit × BlockWriter σ ι × World σ :=
  match writer.writeBlock world with
  | (.ok (), writer, world) =>
    let (result, frames) := writer.flushSink
    (result, { writer with toFrameWriter := frames }, world)
  | (.error e, writer, world) => (.error e, writer, world)

/-- Ends the session and gives the buffers back. -/
def close (writer : BlockWriter σ ι) (world : World σ) : World σ :=
  let library := writer.session.library
  writer.compressed.release library (writer.block.release library (writer.session.close world))

/-- Ends a writer that is not finished: unless it failed before, what is filled is emitted, and a
failure to do so is only said. -/
def discard (writer : BlockWriter σ ι) (world : World σ) : Closed × World σ :=
  if writer.failed then (⟨.ok (), writer.sink⟩, writer.close world)
  else match writer.writeBlock world with
    | (.ok (), writer, world) => (⟨.ok (), writer.sink⟩, writer.close world)
    | (.error (.error e), writer, world) =>
      let world := world.say 2
        ("qatcodec: dropping unfinished block stream: " ++ e.message ++ "\n")
      (⟨.ok (), writer.sink⟩, writer.close world)
    | (.error .overrun, writer, world) => (⟨.error .overrun, writer.sink⟩, world)

/-- Discards a writer after an error, which is the result unless the program stops on the way. -/
def discardAfter (writer : BlockWriter σ ι) (failure : StreamFailure) (world : World σ) :
    Closed × World σ :=
  match failure with
  | .overrun => (⟨.error .overrun, writer.sink⟩, world)
  | .error e =>
    match writer.discard world with
    | (⟨.ok (), sink⟩, world) => (⟨.error (.error e), sink⟩, world)
    | (⟨.error failure, sink⟩, world) => (⟨.error failure, sink⟩, world)

/-- Emits the last block, flushes the sink and ends the writer. -/
def finish (writer : BlockWriter σ ι) (world : World σ) : Closed × World σ :=
  match writer.writeBlock world with
  | (.error e, writer, world) => writer.discardAfter e world
  | (.ok (), writer, world) =>
    match writer.flushSink with
    | (.error e, frames) => { writer with toFrameWriter := frames }.discardAfter e world
    | (.ok (), frames) =>
      (⟨.ok (), frames.sink⟩, { writer with toFrameWriter := frames }.close world)

end BlockWriter

end OffloadCodec

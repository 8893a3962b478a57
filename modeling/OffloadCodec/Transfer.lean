import OffloadCodec.Defaults
import OffloadCodec.Stream.Reader
import OffloadCodec.Stream.Writer
import OffloadCodec.Text.Percentage

/-!
# Files

`compressFile` reads a plain file and writes a block stream, `decompressFile` does the reverse. Both
create the destination, or truncate it, before they read the source, and read what the source holds
then. What was coded before a failure stays at the destination.
-/

namespace OffloadCodec

/-- Bytes read from the source and written to the destination. -/
structure Transfer where
  bytesIn : Nat
  bytesOut : Nat
deriving DecidableEq, Repr

/-- The size of the output as a percentage of that of the input, zero for an empty input. -/
def Transfer.ratio (transfer : Transfer) : Float :=
  if transfer.bytesIn = 0 then 0
  else transfer.bytesOut.toUInt64.toFloat * 100 / transfer.bytesIn.toUInt64.toFloat

namespace World

variable {σ : Type}

/-- Opens a file for reading. -/
def openFile (path : String) : Act σ StreamFailure FileTree.Handle :=
  Act.of fun world =>
    match world.files.openForReading path with
    | .ok handle => (.ok handle, world)
    | .error e => (.error (.error (.file e)), world)

/-- Creates or truncates a file. -/
def createFile (path : String) : Act σ StreamFailure Path :=
  Act.of fun world =>
    match world.files.create path with
    | .ok (place, files) => (.ok place, { world with files })
    | .error e => (.error (.error (.file e)), world)

/-- Sets what a created file holds. -/
def storeFile (world : World σ) (place : Path) (bytes : Bytes) : World σ :=
  { world with files := world.files.put place (.file bytes) }

end World

/-- An opened file as a source. Reading a directory fails. -/
def FileTree.source (tree : FileTree) (handle : FileTree.Handle) : Source :=
  match tree.contents handle with
  | .ok bytes => .ofBytes bytes
  | .error e => ⟨[.failure (.file e)]⟩

namespace Library

variable {σ ι : Type}

/-- Writes everything that an opened file holds and finishes the writer. Returns the number of bytes
read; what reached the sink is stored at the destination in any case. -/
def compressInto (input : FileTree.Handle) (place : Path) (writer : BlockWriter σ ι) :
    Act σ StreamFailure Transfer :=
  Act.of fun world =>
    let stored := fun (closed : Closed) (count : Nat) (world : World σ) =>
      let world := world.storeFile place closed.sink.received
      match closed.result with
      | .ok () => (.ok ⟨count, closed.sink.received.length⟩, world)
      | .error e => (.error e, world)
    match world.files.contents input with
    | .error e =>
      let (closed, world) := writer.discardAfter (.error (.file e)) world
      stored closed 0 world
    | .ok bytes =>
      match writer.writeAll bytes world with
      | (.error e, writer, world) =>
        let (closed, world) := writer.discardAfter e world
        stored closed 0 world
      | (.ok (), writer, world) =>
        let (closed, world) := writer.finish world
        stored closed bytes.length world

/-- Compresses the file `src` into a block stream at `dst`, after setting the level if there is
one. -/
def compressFile (library : Library σ ι) (src dst : String) (options : StreamOptions)
    (level : Option Int32) : Act σ StreamFailure Transfer := do
  if let some level := level then
    (library.setCompressionLevel level).streamed
  let input ← World.openFile src
  let place ← World.createFile dst
  let writer ← BlockWriter.create library {} options
  let transfer ← compressInto input place writer
  Act.change fun world => world.say 3
    ("Compressed " ++ toString transfer.bytesIn ++ " bytes into " ++ toString transfer.bytesOut ++
      " bytes ==> " ++ Text.twoDecimals transfer.ratio ++ "%\n")
  return transfer

/-- Reads a block stream to its end. Returns the number of bytes written; what was decoded is stored
at the destination in any case. -/
def decompressInto (place : Path) (reader : BlockReader σ ι) : Act σ StreamFailure Nat :=
  Act.of fun world =>
    let (bytes, result, reader, world) := reader.readToEnd world
    let world := (reader.close world).storeFile place bytes
    match result with
    | .ok () => (.ok bytes.length, world)
    | .error e => (.error e, world)

/-- Decompresses the block stream at `src` into the file `dst`. The reader is made before the
destination and reads what the source holds after that. -/
def decompressFile (library : Library σ ι) (src dst : String) (options : StreamOptions) :
    Act σ StreamFailure Transfer := do
  let input ← World.openFile src
  let bytesIn ← Act.of fun world => (.ok (world.files.lengthOf input), world)
  let reader ← BlockReader.create library ⟨[]⟩ options
  let place ← Act.of fun world =>
    match (World.createFile dst).runOn world with
    | (.ok place, world) => (.ok place, world)
    | (.error e, world) => (.error e, reader.close world)
  let source ← Act.of fun world => (.ok (world.files.source input), world)
  let bytesOut ← decompressInto place { reader with source }
  Act.change fun world => world.say 3
    ("Decompressed " ++ toString bytesIn ++ " bytes into " ++ toString bytesOut ++ " bytes\n")
  return ⟨bytesIn, bytesOut⟩

end Library

end OffloadCodec

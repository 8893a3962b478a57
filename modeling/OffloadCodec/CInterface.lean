import OffloadCodec.Facade

/-!
# The C interface

The facade for callers in C. Every call returns a number: the length or zero on success, and one
negative code for each category of errors. The message of a thread's last failure can be fetched
afterwards; a success does not change it.

A pointer is the memory that it points to, or `none` if it is null. A caller promises that a source
pointer can be read for as many bytes as it says.
-/

namespace OffloadCodec.CInterface

/-- The code of an error. -/
def codeOf : OffloadError → Int
  | .link _ => -1
  | .codec (.invalidParameters ..) => -2
  | .codec (.operationFailed ..) => -3
  | .codec (.outOfMemory _) => -4
  | .codec (.unrecognizedCode ..) => -5
  | .codec (.outOfRange ..) => -6
  | .codec (.tooLarge _) => -6

variable {σ ι α : Type}

/-- Records a failure of a thread's call and returns its code. -/
def fail (host : Host σ ι) (id : Nat) (error : OffloadError) : Int × Host σ ι :=
  (codeOf error, host.setThread id { host.thread id with lastError := error.message })

/-- The number for a result: what `number` makes of a success, or the code of a failure. -/
def conclude (id : Nat) (number : α → Int) (answer : Except OffloadError α × Host σ ι) :
    Int × Host σ ι :=
  match answer with
  | (.ok a, host) => (number a, host)
  | (.error e, host) => fail host id e

/-- What a call with a destination leaves behind. -/
structure Reply (σ ι : Type) where
  code : Int
  dst : Option Memory
  host : Host σ ι

/-- A failure that is found before the facade is asked. -/
def refuse (host : Host σ ι) (id : Nat) (dst : Option Memory) (error : CodecError) :
    Reply σ ι :=
  let (code, host) := fail host id (.codec error)
  ⟨code, dst, host⟩

/-- Takes the facade's answer in. -/
def reply (id : Nat) (answer : Answer σ ι Nat) : Reply σ ι :=
  let (code, host) := conclude id Int.ofNat (answer.result, answer.host)
  ⟨code, some answer.output, host⟩

/-- The memory behind a source pointer, as far as the caller says that it can be read. -/
def readable (src : Option Memory) (length : Nat) : Memory :=
  match src with
  | none => .zeros 0
  | some memory => ⟨length, memory.front.take length, List.length_take_le _ _⟩

/-- Binds the default library. -/
def init (host : Host σ ι) (id : Nat) : Int × Host σ ι :=
  conclude id (fun _ => 0) host.bindDefault

/-- Compresses `length` bytes at `src` into `dst`. -/
def compress (host : Host σ ι) (id : Nat) (src : Option Memory) (length : Nat)
    (dst : Option Memory) : Reply σ ι :=
  if src.isNone ∧ length ≠ 0 then
    refuse host id dst (.outOfMemory "compressor input buffer")
  else match dst with
    | none => refuse host id dst (.outOfMemory "compressor output buffer")
    | some output =>
      if output.size = 0 then refuse host id dst (.outOfMemory "compressor output buffer")
      else reply id (host.compress id (readable src length) length output)

/-- Decompresses `length` bytes at `src`, from `offset` on, into `dst`. -/
def decompress (host : Host σ ι) (id : Nat) (src : Option Memory) (offset length : Nat)
    (dst : Option Memory) : Reply σ ι :=
  if src.isNone ∧ length ≠ 0 then
    refuse host id dst (.outOfMemory "decompressor input buffer")
  else match dst with
    | none => refuse host id dst (.outOfMemory "decompressor output buffer")
    | some output =>
      if output.size = 0 then refuse host id dst (.outOfMemory "decompressor output buffer")
      else if maxLength < offset + length then refuse host id dst (.tooLarge maxLength)
      else reply id (host.decompress id (readable src (offset + length)) offset length output)

/-- An upper bound on the compressed size of `length` bytes. -/
def maxCompressedLength (host : Host σ ι) (id length : Nat) : Int × Host σ ι :=
  conclude id Int.ofNat (host.maxCompressedLength length)

/-- Zeroed memory at an alignment if the allocator grants it, or null. -/
def allocateAligned (host : Host σ ι) (id capacity alignment : Nat)
    (granted : Bool := AlignedBuffer.hasAddresses capacity) : Option AlignedBuffer × Host σ ι :=
  match Host.allocateAligned capacity alignment granted with
  | .ok buffer => (some buffer, host)
  | .error e => (none, (fail host id e).2)

/-- Sets the level of sessions that are set up from now on. -/
def setCompressionLevel (host : Host σ ι) (id : Nat) (level : Int32) : Int × Host σ ι :=
  conclude id (fun _ => 0) (host.setCompressionLevel level)

/-- The length of a thread's last failure message and, where there is room, its start followed by a
zero byte at the start of `buffer`. -/
def lastError (host : Host σ ι) (id : Nat) (buffer : Option Memory) :
    Nat × Option Memory :=
  let message := (host.thread id).lastError.toUTF8.toList
  match buffer with
  | none => (message.length, none)
  | some memory =>
    if memory.size = 0 then (message.length, some memory)
    else (message.length, some (memory.write 0 (message.take (memory.size - 1) ++ [0])))

/-- The text that a buffer holds before its first zero byte. A last character that was cut short
shows as the replacement character. -/
def textOf? (buffer : Memory) : Option String :=
  let bytes := buffer.toBytes
  let text := bytes.takeWhile (· != 0)
  let without := fun n => String.fromUTF8? ⟨(text.take (text.length - n)).toArray⟩
  if bytes.contains 0 then
    (without 0).getD ((without 1 <|> without 2 <|> without 3).getD "" ++ "\ufffd")
  else none

end OffloadCodec.CInterface

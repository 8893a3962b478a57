import OffloadCodec.AlignedBuffer
import OffloadCodec.Defaults
import OffloadCodec.Host

/-!
# The facade

A flat set of calls on the process-wide library, for callers that keep no objects. Compression and
decompression run on the calling thread's session. Ranges are checked first, then whether a library
is bound; without one every call but the allocation of buffers fails with
`LinkError.notInitialized`.
-/

namespace OffloadCodec

/-- What a facade call with an output region leaves behind. -/
structure Answer (σ ι α : Type) where
  result : Except OffloadError α
  output : Memory
  host : Host σ ι

namespace Host

variable {σ ι α : Type}

/-- The bound library, for a facade call. -/
def boundLibrary (host : Host σ ι) : Except OffloadError (Library σ ι) :=
  match host.library with
  | .ok library => .ok library
  | .error e => .error (.link e)

/-- Runs something on the calling thread's session, a new one on the bound library if the thread has
none yet. -/
def withSession (host : Host σ ι) (id : Nat)
    (use : Session σ ι → World σ → α × Session σ ι × World σ) :
    Except OffloadError α × Host σ ι :=
  match host.boundLibrary with
  | .error e => (.error e, host)
  | .ok library =>
    let thread := host.thread id
    let (a, session, world) := use (thread.session.getD (.new library)) host.world
    (.ok a, { host with world }.setThread id { thread with session := some session })

/-- Runs a codec call on the calling thread's session. Without a library `dst` stays as it is. -/
def serve (host : Host σ ι) (id : Nat) (dst : Memory)
    (call : Session σ ι → World σ → Served σ ι) : Answer σ ι Nat :=
  let served := host.withSession id fun session world =>
    let served := call session world
    ((served.result, served.output.memory), served.session, served.world)
  match served with
  | (.error e, host) => ⟨.error e, dst, host⟩
  | (.ok (.error e, output), host) => ⟨.error (.codec e), output, host⟩
  | (.ok (.ok n, output), host) => ⟨.ok n.toNat, output, host⟩

/-- Compresses the first `length` bytes of `src` into `dst`. -/
def compress (host : Host σ ι) (id : Nat) (src : Memory) (length : Nat) (dst : Memory) :
    Answer σ ι Nat :=
  match View.range src 0 length with
  | .error e => ⟨.error (.codec e), dst, host⟩
  | .ok input => host.serve id dst fun session world => session.compress input (.whole dst) world

/-- Decompresses `length` bytes of `src` from `offset` on into `dst`. -/
def decompress (host : Host σ ι) (id : Nat) (src : Memory) (offset length : Nat)
    (dst : Memory) : Answer σ ι Nat :=
  match View.range src offset length with
  | .error e => ⟨.error (.codec e), dst, host⟩
  | .ok input =>
    host.serve id dst fun session world => session.decompress input (.whole dst) world

/-- Runs an operation of the bound library. -/
def onLibrary (host : Host σ ι) (act : Library σ ι → Act σ CodecError α) :
    Except OffloadError α × Host σ ι :=
  match host.boundLibrary with
  | .error e => (.error e, host)
  | .ok library =>
    match (act library).runOn host.world with
    | (.ok a, world) => (.ok a, { host with world })
    | (.error e, world) => (.error (.codec e), { host with world })

/-- An upper bound on the compressed size of `length` bytes. -/
def maxCompressedLength (host : Host σ ι) (length : Nat) :
    Except OffloadError Nat × Host σ ι :=
  host.onLibrary (·.maxCompressedLength length)

/-- Sets the level of sessions that are set up from now on. -/
def setCompressionLevel (host : Host σ ι) (level : Int32) :
    Except OffloadError Unit × Host σ ι :=
  host.onLibrary (·.setCompressionLevel level)

/-- Where the bound library was loaded from. -/
def libraryName (host : Host σ ι) : Except OffloadError String :=
  match host.boundLibrary with
  | .error e => .error e
  | .ok library => .ok library.path

/-- Zeroed memory at an alignment, if the allocator grants it; needs no library. -/
def allocateAligned (capacity alignment : Nat)
    (granted : Bool := AlignedBuffer.hasAddresses capacity) : Except OffloadError AlignedBuffer :=
  match AlignedBuffer.new capacity alignment granted with
  | .ok buffer => .ok buffer
  | .error e => .error (.codec e)

/-- Binds the default library. -/
def bindDefault (host : Host σ ι) : Except OffloadError Unit × Host σ ι :=
  match host.init with
  | (.ok _, host) => (.ok (), host)
  | (.error e, host) => (.error (.link e), host)

end Host

end OffloadCodec

import OffloadCodec.Session
import OffloadCodec.Stream.Frame
import OffloadCodec.Stream.Scratch

/-!
# Parallel coding

Blocks are independent, so they can be shared out among workers, each with a session of its own. A
`Schedule` says which worker codes which block, and in what order all of this happens; the output is
put together in the order of the blocks, whatever the schedule.

The first block that fails ends the run. A stream is taken apart completely before any of its blocks
is decompressed, so bad framing fails without codec work.
-/

namespace OffloadCodec

/-- Steps of a worker and the number of a block, in the order in which they are done. -/
abbrev Schedule := List (Nat × Nat)

/-- Block after block, handed to `workers` workers in turn; at least to one. -/
def Schedule.inTurn (workers blocks : Nat) : Schedule :=
  (List.range blocks).map fun block => (block % max workers 1, block)

/-- Workers at work: their sessions, and the blocks that are done. -/
structure Pool (σ ι : Type) where
  library : Library σ ι
  sessions : List (Nat × Session σ ι) := []
  /-- Numbers of blocks with their output, latest first. -/
  done : List (Nat × Bytes) := []

namespace Pool

variable {σ ι : Type}

/-- A worker's session, which it starts with its first block. -/
def session (pool : Pool σ ι) (worker : Nat) : Session σ ι :=
  (pool.sessions.lookup worker).getD (.new pool.library)

/-- Keeps a worker's session for its next block. -/
def keep (pool : Pool σ ι) (worker : Nat) (session : Session σ ι) : Pool σ ι :=
  { pool with sessions := (worker, session) :: pool.sessions.filter (·.1 != worker) }

/-- Codes blocks as a schedule says, until one fails. -/
def run (code : Session σ ι → Bytes → World σ → Produced σ ι) (blocks : Array Bytes) :
    Schedule → Pool σ ι → World σ → Except CodecError Unit × Pool σ ι × World σ
  | [], pool, world => (.ok (), pool, world)
  | (worker, index) :: schedule, pool, world =>
    match blocks[index]? with
    | none => run code blocks schedule pool world
    | some block =>
      let produced := code (pool.session worker) block world
      let pool := pool.keep worker produced.session
      match produced.result with
      | .error e => (.error e, pool, produced.world)
      | .ok bytes =>
        run code blocks schedule { pool with done := (index, bytes) :: pool.done } produced.world

/-- The output of the blocks that are done, in the order of the blocks. -/
def output (pool : Pool σ ι) : Bytes :=
  (pool.done.mergeSort fun a b => a.1 ≤ b.1).flatMap (·.2)

/-- Ends all sessions. -/
def close (pool : Pool σ ι) (world : World σ) : World σ :=
  pool.sessions.foldl (fun world session => session.2.close world) world

end Pool

namespace Library

variable {σ ι : Type}

/-- Codes all blocks as a schedule says and puts their output together. -/
def codeBlocks (library : Library σ ι)
    (code : Session σ ι → Bytes → World σ → Produced σ ι) (blocks : List Bytes)
    (schedule : Schedule) : Act σ StreamFailure Bytes :=
  Act.of fun world =>
    match Pool.run code blocks.toArray schedule { library } world with
    | (.error e, pool, world) => (.error (.error (.codec e)), pool.close world)
    | (.ok (), pool, world) => (.ok pool.output, pool.close world)

/-- Compresses a block into a frame, for a payload of at most `bound` bytes: the header and the
payload are laid out in one buffer, which is then cut to the length reported. -/
def compressFrame (bound : Nat) (session : Session σ ι) (block : Bytes) (world : World σ) :
    Produced σ ι :=
  let whole := Memory.zeros (Frame.headerLength + bound)
  let served := session.compress (.whole (.ofBytes block))
    ⟨whole, Frame.headerLength, bound, Nat.le_refl _⟩ world
  { result :=
      match served.result with
      | .ok n =>
        .ok ((served.output.memory.write 0 (Bytes.le32 n.toNat)).read 0
          (Frame.headerLength + n.toNat))
      | .error e => .error e
    session := served.session
    world := served.world }

/-- Compresses data into a block stream. The schedule is asked for the number of blocks there are. -/
def compressBlocks (library : Library σ ι) (data : Bytes) (blockSize : Nat)
    (schedule : Nat → Schedule) : Act σ StreamFailure Bytes := do
  let bound ← library.blockBound blockSize
  let blocks := Bytes.chunks blockSize data
  library.codeBlocks (compressFrame bound) blocks (schedule blocks.length)

/-- Decodes a complete block stream. -/
def decompressBlocks (library : Library σ ι) (stream : Bytes) (blockSize : Nat)
    (schedule : Nat → Schedule) : Act σ StreamFailure Bytes := do
  let bound ← library.blockBound blockSize
  match Frame.split stream bound with
  | .error e => throw (.error e)
  | .ok payloads =>
    library.codeBlocks (fun session payload => session.decompressBytes payload blockSize) payloads
      (schedule payloads.length)

end Library

end OffloadCodec

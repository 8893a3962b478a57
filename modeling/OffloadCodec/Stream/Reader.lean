import OffloadCodec.Session
import OffloadCodec.Stream.Frame
import OffloadCodec.Stream.Scratch
import OffloadCodec.Stream.Source

/-!
# Block readers

A `BlockReader` reads frames from a source, decompresses one block at a time and serves it in parts.
A block that decompresses to nothing is passed over, so an empty answer to a non-empty read means the
end of the stream. Passing over it ends because each frame uses up some of the source
(`weight_lt_of_fillBlock`).
-/

namespace OffloadCodec

structure BlockReader (σ ι : Type) where
  session : Session σ ι
  source : Source
  /-- Receives the payload of a frame. -/
  compressed : Scratch
  /-- Holds the block being served. -/
  block : Scratch
  /-- Bytes of the block that are served. -/
  pos : Nat := 0
  /-- Bytes of the block that were reported. -/
  filled : Nat := 0

namespace BlockReader

variable {σ ι : Type}

/-- A reader of a source. It makes no codec call and reads nothing. -/
def create (library : Library σ ι) (source : Source) (options : StreamOptions) :
    Act σ StreamFailure (BlockReader σ ι) := do
  let bound ← library.blockBound options.blockSize
  let (compressed, block) ←
    (Scratch.allocatePair library bound options.blockSize options.buffers).streamed
  return { session := .new library, source, compressed, block }

/-- Reads the next length; there is none at the end of the stream. -/
def nextLength (reader : BlockReader σ ι) :
    Except StreamFailure (Option Nat) × BlockReader σ ι :=
  let pulled := reader.source.pull Frame.headerLength
  let reader := { reader with source := ⟨pulled.rest⟩ }
  match pulled.error? with
  | some e => (.error (.error e), reader)
  | none =>
    if pulled.bytes.length = 0 then (.ok none, reader)
    else if pulled.bytes.length = Frame.headerLength then
      (.ok (some (Bytes.ofLe pulled.bytes)), reader)
    else (.error (.error .truncatedHeader), reader)

/-- Reads a payload of `n` bytes into the first buffer. -/
def loadPayload (reader : BlockReader σ ι) (n : Nat) :
    Except StreamFailure Unit × BlockReader σ ι :=
  let pulled := reader.source.pull n
  let reader := { reader with
    source := ⟨pulled.rest⟩
    compressed := reader.compressed.withMemory (reader.compressed.memory.write 0 pulled.bytes) }
  match pulled.error? with
  | some e => (.error (.error e), reader)
  | none =>
    if pulled.bytes.length < n then (.error (.error .sourceEnded), reader) else (.ok (), reader)

/-- Decompresses a payload of `n` bytes into the block, which is served from its start then. -/
def decompressBlock (reader : BlockReader σ ι) (n : Nat) (world : World σ) :
    Except StreamFailure Unit × BlockReader σ ι × World σ :=
  let input := Memory.ofBytes (reader.compressed.memory.read 0 n)
  let served := reader.session.decompress (.whole input) (.whole reader.block.memory) world
  let reader := { reader with
    session := served.session
    block := reader.block.withMemory served.output.memory }
  match served.result with
  | .ok filled => (.ok (), { reader with pos := 0, filled := filled.toNat }, served.world)
  | .error e => (.error (.error (.codec e)), reader, served.world)

/-- Loads and decompresses the next block; `false` at the end of the stream. -/
def fillBlock (reader : BlockReader σ ι) (world : World σ) :
    Except StreamFailure Bool × BlockReader σ ι × World σ :=
  match reader.nextLength with
  | (.error e, reader) => (.error e, reader, world)
  | (.ok none, reader) => (.ok false, reader, world)
  | (.ok (some n), reader) =>
    if n = 0 ∨ reader.compressed.size < n then
      (.error (.error (.lengthOutside n reader.compressed.size)), reader, world)
    else match reader.loadPayload n with
      | (.error e, reader) => (.error e, reader, world)
      | (.ok (), reader) =>
        match reader.decompressBlock n world with
        | (.error e, reader, world) => (.error e, reader, world)
        | (.ok (), reader, world) => (.ok true, reader, world)

theorem weight_nextLength (reader : BlockReader σ ι) :
    reader.nextLength.2.source.weight ≤ reader.source.weight ∧
      (∀ n, reader.nextLength.1 = .ok (some n) →
        reader.nextLength.2.source.weight < reader.source.weight) := by
  have h := reader.source.weight_pull Frame.headerLength
  unfold nextLength
  generalize reader.source.pull Frame.headerLength = pulled at h
  dsimp only
  split
  · exact ⟨by simp only [Source.weight] at h ⊢; omega, by simp⟩
  · split
    · exact ⟨by simp only [Source.weight] at h ⊢; omega, by simp⟩
    · split
      · refine ⟨?_, fun n _ => ?_⟩ <;> simp only [Source.weight] at h ⊢ <;> omega
      · exact ⟨by simp only [Source.weight] at h ⊢; omega, by simp⟩

theorem weight_loadPayload (reader : BlockReader σ ι) (n : Nat) :
    (reader.loadPayload n).2.source.weight ≤ reader.source.weight := by
  have h := reader.source.weight_pull n
  unfold loadPayload
  generalize reader.source.pull n = pulled at h
  dsimp only
  repeat' split
  all_goals
    simp only [Source.weight] at h ⊢
    omega

@[simp] theorem source_decompressBlock (reader : BlockReader σ ι) (n : Nat) (world : World σ) :
    (reader.decompressBlock n world).2.1.source = reader.source := by
  simp only [decompressBlock]
  split <;> rfl

/-- A block uses up some of the source. -/
theorem weight_lt_of_fillBlock {reader reader' : BlockReader σ ι} {world world' : World σ}
    (h : reader.fillBlock world = (.ok true, reader', world')) :
    reader'.source.weight < reader.source.weight := by
  unfold fillBlock at h
  split at h
  · simp at h
  · simp at h
  · next n loaded hn =>
    have hlt := (weight_nextLength reader).2 n (by rw [hn])
    rw [hn] at hlt
    split at h
    · simp at h
    · split at h
      · simp at h
      · next paid hp =>
        have hle := weight_loadPayload loaded n
        rw [hp] at hle
        split at h
        · simp at h
        · next served w hs =>
          have hsame := source_decompressBlock paid n world
          rw [hs] at hsame
          simp only [Prod.mk.injEq] at h
          rw [← h.2.1, hsame]
          exact Nat.lt_of_le_of_lt hle hlt

/-- Loads blocks until one has something to serve; `false` at the end of the stream. -/
def refill (reader : BlockReader σ ι) (world : World σ) :
    Except StreamFailure Bool × BlockReader σ ι × World σ :=
  if reader.pos = reader.filled then
    match _h : reader.fillBlock world with
    | (.error e, reader, world) => (.error e, reader, world)
    | (.ok false, reader, world) => (.ok false, reader, world)
    | (.ok true, reader, world) => refill reader world
  else (.ok true, reader, world)
termination_by reader.source.weight
decreasing_by exact weight_lt_of_fillBlock _h

/-- Serves up to `n` bytes of the block. -/
def serve (reader : BlockReader σ ι) (n : Nat) : Except StreamFailure Bytes × BlockReader σ ι :=
  let count := min n (reader.filled - reader.pos)
  if reader.block.size < reader.pos + count then (.error .overrun, reader)
  else (.ok (reader.block.memory.read reader.pos count),
    { reader with pos := reader.pos + count })

/-- Reads up to `n` bytes, from one block. Nothing is read into an empty buffer. -/
def read (reader : BlockReader σ ι) (n : Nat) (world : World σ) :
    Except StreamFailure Bytes × BlockReader σ ι × World σ :=
  if n = 0 then (.ok [], reader, world)
  else match reader.refill world with
    | (.error e, reader, world) => (.error e, reader, world)
    | (.ok false, reader, world) => (.ok [], reader, world)
    | (.ok true, reader, world) =>
      let (result, reader) := reader.serve n
      (result, reader, world)

/-- Reads exactly `n` bytes. -/
def readExact (reader : BlockReader σ ι) (n : Nat) (world : World σ) :
    Except StreamFailure Bytes × BlockReader σ ι × World σ :=
  if _hn : n = 0 then (.ok [], reader, world)
  else match reader.read n world with
    | (.error e, reader, world) => (.error e, reader, world)
    | (.ok bytes, reader, world) =>
      if _hb : bytes.length = 0 then (.error (.error .sourceEnded), reader, world)
      else match readExact reader (n - bytes.length) world with
        | (.ok more, reader, world) => (.ok (bytes ++ more), reader, world)
        | (.error e, reader, world) => (.error e, reader, world)
termination_by n
decreasing_by omega

/-- What is left to serve and to read, for the order in which reading goes down. -/
def ahead (reader : BlockReader σ ι) : Nat × Nat :=
  (reader.source.weight, reader.filled - reader.pos)

theorem weight_lt_of_refill {reader reader' : BlockReader σ ι} {world world' : World σ}
    (h : reader.refill world = (.ok true, reader', world')) :
    reader'.source.weight < reader.source.weight ∨ reader' = reader := by
  fun_induction refill reader world with
  | case1 => simp at h
  | case2 => simp at h
  | case3 reader world _ loaded _ hf ih =>
    have hlt := weight_lt_of_fillBlock hf
    rcases ih h with hless | rfl
    · exact .inl (Nat.lt_trans hless hlt)
    · exact .inl hlt
  | case4 =>
    simp only [Prod.mk.injEq] at h
    exact .inr h.2.1.symm

/-- A read that returns something leaves less to read. -/
theorem ahead_lt_of_read {reader reader' : BlockReader σ ι} {world world' : World σ} {n : Nat}
    {bytes : Bytes} (h : reader.read n world = (.ok bytes, reader', world')) (hb : bytes ≠ []) :
    Prod.Lex (· < ·) (· < ·) reader'.ahead reader.ahead := by
  unfold read at h
  split at h
  · simp_all
  · split at h
    · simp at h
    · simp_all
    · next ready _ hr =>
      simp only [Prod.mk.injEq, serve] at h
      split at h
      · simp at h
      · obtain ⟨hbytes, rfl, -⟩ := h
        simp only [Except.ok.injEq] at hbytes
        have hpos : 0 < bytes.length := List.length_pos_iff.2 hb
        rw [← hbytes, Memory.length_read] at hpos
        rcases weight_lt_of_refill hr with hlt | rfl
        · exact Prod.Lex.left _ _ hlt
        · refine Prod.Lex.right _ ?_
          dsimp only
          omega

/-- Reads to the end of the stream or to an error. What was read before is returned either way. -/
def readToEnd (reader : BlockReader σ ι) (world : World σ) :
    Bytes × Except StreamFailure Unit × BlockReader σ ι × World σ :=
  match _h : reader.read maxNativeLength world with
  | (.error e, reader, world) => ([], .error e, reader, world)
  | (.ok bytes, reader, world) =>
    if _hb : bytes = [] then ([], .ok (), reader, world)
    else
      let (more, result) := readToEnd reader world
      (bytes ++ more, result)
termination_by reader.ahead
decreasing_by exact ahead_lt_of_read _h _hb

/-- Ends the session and gives the buffers back. -/
def close (reader : BlockReader σ ι) (world : World σ) : World σ :=
  let library := reader.session.library
  reader.block.release library (reader.compressed.release library (reader.session.close world))

end BlockReader

end OffloadCodec

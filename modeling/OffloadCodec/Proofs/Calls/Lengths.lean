import OffloadCodec.Proofs.Calls.Streams
import OffloadCodec.Proofs.Parallel.SharedWork
import OffloadCodec.Proofs.Parallel.Stragglers
import OffloadCodec.Proofs.Stream.FailedWriter
import OffloadCodec.Proofs.Stream.ReadingOut

/-!
# Lengths that stay within their buffers

A library stores the length of its output in place of the capacity, and a session passes it on as it
is: it bounds slices, goes into headers and is returned to callers. Nothing compares it with the
capacity again, so all of that is right for a library that reports no more than there was room for
(`EntryPoints.Honest`), and `Library.KeepsWithin` is what it comes to.

* A session returns what was reported (`Session.compress_ok`, `Session.decompress_ok`), and a vector
  is as long (`Session.length_compressBytes`, `Session.length_decompressBytes`).
* No call of a writer or a reader goes past a slice (`BlockWriter.callEach_ne_overrun`,
  `BlockReader.Sound.readEach`).
* What a writer has sent, and what workers put together, are frames whose headers tell the lengths of
  their payloads (`Sent.truthful`, `Library.truthful_compressBlocks`).
-/

namespace OffloadCodec

variable {σ ι : Type}

/-- A decompression that succeeds reports a length within the capacity. -/
def EntryPoints.RestoresWithin (entries : EntryPoints σ ι) : Prop :=
  ∀ record payload capacity native,
    let reply := (entries.decompress record payload capacity native).1
    reply.status = Status.ok → reply.reported.toNat ≤ capacity.toNat

/-- Every length that goes with a success is within the capacity. -/
structure EntryPoints.Honest (entries : EntryPoints σ ι) : Prop where
  compress : entries.ReportsWithin
  decompress : entries.RestoresWithin

/-! ## Sessions -/

namespace Session

variable {session : Session σ ι} {input output : View} {world : World σ} {n : UInt32}

theorem accept_ok {operation : Operation} {reply : CodecReply ι × σ}
    (served : (session.accept operation output world reply).result = .ok n) :
    reply.1.status = Status.ok ∧ n = reply.1.reported := by
  simp only [accept] at served
  split at served
  · next succeeded =>
    exact ⟨CodecError.ofStatus?_eq_none_iff.1 succeeded, (Except.ok.inj served).symm⟩
  · cases served

/-- The call has reached the library, and returns the length that was reported. -/
theorem compress_ok (served : (session.compress input output world).result = .ok n) :
    let reply := (session.library.entries.compress session.record input.bytes
      (UInt32.ofNat output.length) true world.native).1
    output.length ≤ maxNativeLength ∧ reply.status = Status.ok ∧ n = reply.reported := by
  rw [compress] at served
  cases checked : lengths input output "compressor output buffer" with
  | error e =>
    rw [checked] at served
    cases served
  | ok both =>
    rw [checked] at served
    obtain ⟨-, -, bounded, rfl⟩ := lengths_ok_iff.1 checked
    exact ⟨bounded, accept_ok served⟩

theorem decompress_ok (served : (session.decompress input output world).result = .ok n) :
    let reply := (session.library.entries.decompress session.record input.bytes
      (UInt32.ofNat output.length) world.native).1
    output.length ≤ maxNativeLength ∧ reply.status = Status.ok ∧ n = reply.reported := by
  rw [decompress] at served
  cases checked : lengths input output "decompressor output buffer" with
  | error e =>
    rw [checked] at served
    cases served
  | ok both =>
    rw [checked] at served
    obtain ⟨-, -, bounded, rfl⟩ := lengths_ok_iff.1 checked
    exact ⟨bounded, accept_ok served⟩

theorem compress_within (within : session.library.entries.ReportsWithin)
    (served : (session.compress input output world).result = .ok n) : n.toNat ≤ output.length := by
  obtain ⟨bounded, succeeded, rfl⟩ := compress_ok served
  have reported := within _ _ _ _ succeeded
  rwa [EntryPoints.toNat_capacity bounded] at reported

theorem decompress_within (within : session.library.entries.RestoresWithin)
    (served : (session.decompress input output world).result = .ok n) :
    n.toNat ≤ output.length := by
  obtain ⟨bounded, succeeded, rfl⟩ := decompress_ok served
  have reported := within _ _ _ _ succeeded
  rwa [EntryPoints.toNat_capacity bounded] at reported

/-- A call does not change the size of its output region. -/
theorem size_compress (session : Session σ ι) (input output : View) (world : World σ) :
    (session.compress input output world).output.memory.size = output.memory.size := by
  rw [compress]
  cases lengths input output "compressor output buffer" with
  | error e => rfl
  | ok both => rfl

theorem size_decompress (session : Session σ ι) (input output : View) (world : World σ) :
    (session.decompress input output world).output.memory.size = output.memory.size := by
  rw [decompress]
  cases lengths input output "decompressor output buffer" with
  | error e => rfl
  | ok both => rfl

theorem produced_ok {served : Served σ ι} {bytes : Bytes}
    (made : (produced served).result = .ok bytes) :
    ∃ n, served.result = .ok n ∧ bytes = served.output.memory.read 0 n.toNat := by
  simp only [produced] at made
  split at made
  · next n reported => exact ⟨n, reported, (Except.ok.inj made).symm⟩
  · cases made

/-- A vector of compressed data is as long as the library reported. -/
theorem length_compressBytes {data bytes : Bytes} (within : session.library.entries.ReportsWithin)
    (made : (session.compressBytes data world).result = .ok bytes) :
    let asked := session.library.entries.maxCompressedLength (UInt32.ofNat data.length) world.native
    bytes.length = (session.library.entries.compress session.record data
      (UInt32.ofNat (max asked.1.toNat 1)) true asked.2).1.reported.toNat := by
  have input : (View.whole (.ofBytes data)).bytes = data := Memory.read_ofBytes data
  rw [compressBytes, Library.maxCompressedLength, Act.runOn_of] at made
  by_cases fits : data.length ≤ maxNativeLength
  · rw [if_pos fits] at made
    obtain ⟨n, served, rfl⟩ := produced_ok made
    have reaches := compress_within within served
    obtain ⟨-, -, reported⟩ := compress_ok served
    rw [input] at reported
    rw [Memory.length_read, size_compress]
    exact (Nat.min_eq_left reaches).trans (congrArg UInt32.toNat reported)
  · rw [if_neg fits] at made
    cases made

theorem length_decompressBytes {payload bytes : Bytes} {capacity : Nat}
    (within : session.library.entries.RestoresWithin)
    (made : (session.decompressBytes payload capacity world).result = .ok bytes) :
    bytes.length = (session.library.entries.decompress session.record payload
      (UInt32.ofNat capacity) world.native).1.reported.toNat := by
  have input : (View.whole (.ofBytes payload)).bytes = payload := Memory.read_ofBytes payload
  rw [decompressBytes] at made
  obtain ⟨n, served, rfl⟩ := produced_ok made
  have reaches := decompress_within within served
  obtain ⟨-, -, reported⟩ := decompress_ok served
  rw [input] at reported
  rw [Memory.length_read, size_decompress]
  exact (Nat.min_eq_left reaches).trans (congrArg UInt32.toNat reported)

end Session

/-! ## Frames -/

/-- Frames whose headers tell the lengths of their payloads, and behind them at most the front of one
more. -/
def Frame.Truthful (bytes : Bytes) : Prop :=
  ∃ payloads last part, bytes = encode payloads ++ part ∧ part <+: frame last ∧
    ∀ payload ∈ last :: payloads, payload.length < UInt32.size

theorem Frame.truthful_encode {payloads : List Bytes}
    (short : ∀ payload ∈ payloads, payload.length < UInt32.size) : Truthful (encode payloads) := by
  refine ⟨payloads, [], [], (List.append_nil _).symm, List.nil_prefix, fun payload member => ?_⟩
  rcases List.mem_cons.1 member with rfl | member
  · decide
  · exact short payload member

/-- A length that is reported fits a header. -/
theorem EntryPoints.Reported.length_lt {entries : EntryPoints σ ι} {block payload : Bytes}
    (reported : entries.Reported block payload) : payload.length < UInt32.size := by
  obtain ⟨record, capacity, native, -, length⟩ := reported
  rw [length]
  exact UInt32.toNat_lt_size _

theorem EntryPoints.codeEach_length_lt {entries : EntryPoints σ ι} {state middle : CodecState σ ι}
    {blocks payloads : List Bytes}
    (coded : codeEach entries.compressNext state blocks = (.ok payloads, middle)) :
    ∀ payload ∈ payloads, payload.length < UInt32.size := by
  intro payload member
  have reported := codeEach_reported (congrArg Prod.fst coded)
  obtain ⟨i, inside, rfl⟩ := List.getElem_of_mem member
  exact (List.forall₂_iff_get.1 reported).2 i (reported.length_eq ▸ inside) inside |>.length_lt

/-- Whatever has become of its blocks, a writer has sent frames. -/
theorem Sent.truthful {entries : EntryPoints σ ι} {start state : CodecState σ ι} {before : Bytes}
    {blocks : List Bytes} {sink : Sink} {failed : Bool}
    (sent : Sent entries start before blocks sink state failed) :
    ∃ bytes, sink.received = before ++ bytes ∧ Frame.Truthful bytes := by
  cases sent with
  | whole coded received =>
    exact ⟨_, received, Frame.truthful_encode (EntryPoints.codeEach_length_lt coded)⟩
  | rejected coded _ received =>
    exact ⟨_, received, Frame.truthful_encode (EntryPoints.codeEach_length_lt coded)⟩
  | @broken _ payloads _ payload part _ _ _ _ _ _ coded here received front _ _ =>
    rw [List.append_assoc] at received
    refine ⟨_, received, payloads, payload, part, rfl, front, fun other member => ?_⟩
    rcases List.mem_cons.1 member with rfl | member
    · exact (EntryPoints.compressNext_reported here).length_lt
    · exact EntryPoints.codeEach_length_lt coded other member

/-! ## Writers -/

namespace BlockWriter

variable {writer : BlockWriter σ ι} {world : World σ}

section Within

variable (within : writer.session.library.entries.ReportsWithin)
include within

theorem perform_ne_overrun (call : WriterCall) (world : World σ) :
    (writer.perform call world).1 ≠ .error .overrun := by
  cases call with
  | write bytes =>
    have stays := write_ne_overrun within bytes world
    rw [perform]
    generalize writer.write bytes world = outcome at stays ⊢
    obtain ⟨e | n, next, later⟩ := outcome
    · exact StreamFailure.passed_ne_overrun stays
    · exact StreamFailure.ok_ne_overrun _
  | writeAll bytes =>
    have stays := writeAll_ne_overrun within bytes world
    rw [perform]
    generalize writer.writeAll bytes world = outcome at stays ⊢
    obtain ⟨e | _, next, later⟩ := outcome
    · exact StreamFailure.passed_ne_overrun stays
    · exact StreamFailure.ok_ne_overrun _
  | flush =>
    have stays := writeBlock_ne_overrun within world
    rw [perform, flush]
    generalize writer.writeBlock world = outcome at stays ⊢
    obtain ⟨e | _, next, later⟩ := outcome
    · exact StreamFailure.passed_ne_overrun stays
    · have flushes := next.flushSink_ne_overrun
      dsimp only
      generalize next.flushSink = flushed at flushes ⊢
      obtain ⟨e | _, frames⟩ := flushed
      · exact StreamFailure.passed_ne_overrun flushes
      · exact StreamFailure.ok_ne_overrun _

/-- If lengths are reported within the capacity then no call of a writer stops the program, whatever
has failed before. -/
theorem callEach_ne_overrun (calls : List WriterCall) (world : World σ) :
    ∀ answer ∈ (writer.callEach calls world).1, answer ≠ .error .overrun := by
  induction calls generalizing writer world with
  | nil => exact fun answer member => absurd member List.not_mem_nil
  | cons call calls ih =>
    have stays := perform_ne_overrun within call world
    obtain ⟨refused, works, -⟩ := writer.perform_serves call world
    have same : (writer.perform call world).2.1.session.library = writer.session.library :=
      works.session.library
    rw [← same] at within
    intro answer member
    rcases List.mem_cons.1 member with rfl | member
    · exact stays
    · exact ih within _ answer member

theorem discard_ne_overrun (world : World σ) :
    (writer.discard world).1.result ≠ .error .overrun := by
  have stays := writeBlock_ne_overrun within world
  rw [discard]
  split
  · exact StreamFailure.ok_ne_overrun ()
  generalize writer.writeBlock world = outcome at stays ⊢
  obtain ⟨(e | _) | _, last, middle⟩ := outcome
  · exact StreamFailure.ok_ne_overrun ()
  · exact absurd rfl stays
  · exact StreamFailure.ok_ne_overrun ()

theorem finish_ne_overrun (world : World σ) :
    (writer.finish world).1.result ≠ .error .overrun := by
  have stays := writeBlock_ne_overrun within world
  rw [finish]
  rcases written : writer.writeBlock world with ⟨e | _, last, middle⟩
  · rw [written] at stays
    dsimp only
    rw [discardAfter_of_lost written]
    exact stays
  · have flushes := last.flushSink_ne_overrun
    have done := done_of_writeBlock_ok written
    have kept := last.failed_flushSink
    dsimp only
    generalize last.flushSink = flushed at flushes kept ⊢
    obtain ⟨e | _, frames⟩ := flushed
    · rw [← kept] at done
      dsimp only
      rw [discardAfter_of_done done]
      exact flushes
    · exact StreamFailure.ok_ne_overrun ()

end Within

end BlockWriter

/-! ## Readers -/

namespace BlockReader

variable {reader : BlockReader σ ι} {world : World σ}

/-- What is served of the reader's block lies within it, and this goes for later blocks too. -/
structure Sound (reader : BlockReader σ ι) : Prop where
  restores : reader.session.library.entries.RestoresWithin
  pos_le : reader.pos ≤ reader.filled
  filled_le : reader.filled ≤ reader.block.size

theorem Sound.nextLength (sound : reader.Sound) :
    reader.nextLength.1 ≠ .error .overrun ∧ reader.nextLength.2.Sound := by
  obtain ⟨restores, pos_le, filled_le⟩ := sound
  rw [BlockReader.nextLength]
  split
  · exact ⟨StreamFailure.error_ne_overrun _, restores, pos_le, filled_le⟩
  split
  · exact ⟨StreamFailure.ok_ne_overrun _, restores, pos_le, filled_le⟩
  split
  · exact ⟨StreamFailure.ok_ne_overrun _, restores, pos_le, filled_le⟩
  · exact ⟨StreamFailure.error_ne_overrun _, restores, pos_le, filled_le⟩

theorem Sound.loadPayload (sound : reader.Sound) (n : Nat) :
    (reader.loadPayload n).1 ≠ .error .overrun ∧ (reader.loadPayload n).2.Sound := by
  obtain ⟨restores, pos_le, filled_le⟩ := sound
  rw [BlockReader.loadPayload]
  split
  · exact ⟨StreamFailure.error_ne_overrun _, restores, pos_le, filled_le⟩
  split
  · exact ⟨StreamFailure.error_ne_overrun _, restores, pos_le, filled_le⟩
  · exact ⟨StreamFailure.ok_ne_overrun _, restores, pos_le, filled_le⟩

/-- The block holds as many bytes as are reported of it. -/
theorem Sound.decompressBlock (sound : reader.Sound) (n : Nat) (world : World σ) :
    (reader.decompressBlock n world).1 ≠ .error .overrun ∧
      (reader.decompressBlock n world).2.1.Sound := by
  obtain ⟨restores, pos_le, filled_le⟩ := sound
  obtain ⟨refused, continues, -⟩ := reader.session.decompress_continues
    (.whole (.ofBytes (reader.compressed.memory.read 0 n))) (.whole reader.block.memory) world
  have size := reader.session.size_decompress
    (.whole (.ofBytes (reader.compressed.memory.read 0 n))) (.whole reader.block.memory) world
  rw [BlockReader.decompressBlock]
  dsimp only
  cases answered : (reader.session.decompress
      (.whole (.ofBytes (reader.compressed.memory.read 0 n))) (.whole reader.block.memory)
      world).result with
  | error e =>
    refine ⟨StreamFailure.error_ne_overrun _, ?_, pos_le, ?_⟩
    · exact continues.library ▸ restores
    · rw [Scratch.size, Scratch.memory_withMemory, size]
      exact filled_le
  | ok reported =>
    refine ⟨StreamFailure.ok_ne_overrun _, ?_, Nat.zero_le _, ?_⟩
    · exact continues.library ▸ restores
    · rw [Scratch.size, Scratch.memory_withMemory, size]
      exact Session.decompress_within restores answered

theorem Sound.fillBlock (sound : reader.Sound) (world : World σ) :
    (reader.fillBlock world).1 ≠ .error .overrun ∧ (reader.fillBlock world).2.1.Sound := by
  have headed := sound.nextLength
  rw [BlockReader.fillBlock]
  generalize reader.nextLength = outcome at headed ⊢
  obtain ⟨e | (_ | n), next⟩ := outcome
  · exact ⟨StreamFailure.passed_ne_overrun headed.1, headed.2⟩
  · exact ⟨StreamFailure.ok_ne_overrun _, headed.2⟩
  dsimp only
  split
  · exact ⟨StreamFailure.error_ne_overrun _, headed.2⟩
  have loaded := headed.2.loadPayload n
  generalize next.loadPayload n = outcome at loaded ⊢
  obtain ⟨e | _, ready⟩ := outcome
  · exact ⟨StreamFailure.passed_ne_overrun loaded.1, loaded.2⟩
  have decompressed := loaded.2.decompressBlock n world
  dsimp only
  generalize ready.decompressBlock n world = outcome at decompressed ⊢
  obtain ⟨e | _, last, later⟩ := outcome
  · exact ⟨StreamFailure.passed_ne_overrun decompressed.1,
      decompressed.2⟩
  · exact ⟨StreamFailure.ok_ne_overrun _, decompressed.2⟩

theorem Sound.refill (sound : reader.Sound) (world : World σ) :
    (reader.refill world).1 ≠ .error .overrun ∧ (reader.refill world).2.1.Sound := by
  fun_induction BlockReader.refill reader world with
  | case1 reader world _ e next later filled =>
    have fills := sound.fillBlock world
    rw [filled] at fills
    exact fills
  | case2 reader world _ next later filled =>
    have fills := sound.fillBlock world
    rw [filled] at fills
    exact fills
  | case3 reader world _ next later filled ih =>
    have fills := sound.fillBlock world
    rw [filled] at fills
    exact ih fills.2
  | case4 reader world => exact ⟨StreamFailure.ok_ne_overrun _, sound⟩

theorem Sound.read (sound : reader.Sound) (n : Nat) (world : World σ) :
    (reader.read n world).1 ≠ .error .overrun ∧ (reader.read n world).2.1.Sound := by
  rw [BlockReader.read]
  split
  · exact ⟨StreamFailure.ok_ne_overrun _, sound⟩
  have refills := sound.refill world
  generalize reader.refill world = outcome at refills ⊢
  obtain ⟨e | (_ | _), next, later⟩ := outcome
  · exact ⟨StreamFailure.passed_ne_overrun refills.1, refills.2⟩
  · exact ⟨StreamFailure.ok_ne_overrun _, refills.2⟩
  obtain ⟨-, restores, pos_le, filled_le⟩ := refills
  dsimp only at restores pos_le filled_le ⊢
  rw [serve, if_neg (by omega)]
  exact ⟨StreamFailure.ok_ne_overrun _, restores, by dsimp only; omega, filled_le⟩

/-- If lengths are reported within the capacity then no read stops the program, whatever has failed
before. -/
theorem Sound.readEach (sound : reader.Sound) (sizes : List Nat) (world : World σ) :
    ∀ answer ∈ (reader.readEach sizes world).1, answer ≠ .error .overrun := by
  induction sizes generalizing reader world with
  | nil => exact fun answer member => absurd member List.not_mem_nil
  | cons n sizes ih =>
    obtain ⟨stays, later⟩ := sound.read n world
    intro answer member
    rcases List.mem_cons.1 member with rfl | member
    · exact stays
    · exact ih later _ answer member

end BlockReader

/-! ## Workers -/

/-- A header that overwrites the start of a region is read together with what stands behind it. -/
theorem Memory.read_write_in_front {m : Memory} {header : Bytes} {n : Nat}
    (fits : header.length + n ≤ m.size) :
    (m.write 0 header).read 0 (header.length + n) = header ++ m.read header.length n := by
  rw [read_eq, read_eq, toBytes_write, List.take_zero, Nat.zero_sub, List.replicate_zero,
    List.nil_append, List.nil_append, List.drop_zero, List.take_take, Nat.min_eq_left fits,
    Nat.zero_add, List.take_length_add_append]

/-- A worker lays out a frame. -/
theorem Library.compressFrame_ok {bound : Nat} {session : Session σ ι} {block bytes : Bytes}
    {world : World σ} (within : session.library.entries.ReportsWithin)
    (made : (compressFrame bound session block world).result = .ok bytes) :
    ∃ payload, bytes = Frame.frame payload ∧ payload.length < UInt32.size := by
  rw [compressFrame] at made
  dsimp only at made
  have size := session.size_compress (.whole (.ofBytes block))
    ⟨Memory.zeros (Frame.headerLength + bound), Frame.headerLength, bound, Nat.le_refl _⟩ world
  cases answered : (session.compress (.whole (.ofBytes block))
      ⟨Memory.zeros (Frame.headerLength + bound), Frame.headerLength, bound, Nat.le_refl _⟩
      world).result with
  | error e =>
    rw [answered] at made
    cases made
  | ok n =>
    rw [answered] at made
    have reaches : n.toNat ≤ bound := Session.compress_within within answered
    generalize (session.compress (.whole (.ofBytes block)) _ world).output.memory = region
      at made size
    have header : (Bytes.le32 n.toNat).length = Frame.headerLength := Bytes.length_le32 _
    have size : region.size = Frame.headerLength + bound := size
    have fits : (Bytes.le32 n.toNat).length + n.toNat ≤ region.size := by omega
    have length : (region.read Frame.headerLength n.toNat).length = n.toNat := by
      rw [Memory.length_read, Nat.min_eq_left (by omega)]
    refine ⟨region.read Frame.headerLength n.toNat, ?_, by rw [length]; exact n.toNat_lt_size⟩
    have laid := Memory.read_write_in_front fits
    rw [header] at laid
    rw [← Except.ok.inj made, laid, Frame.frame, length]

namespace Pool

/-- What good sessions make is among what is done. -/
theorem Runs.made_of_done {code : Session σ ι → Bytes → World σ → Produced σ ι} {blocks : Array Bytes}
    {good : Session σ ι → Prop} {made : Bytes → Prop} {schedule : Schedule}
    {failure last : Option CodecError} {pool pool' : Pool σ ι} {world world' : World σ}
    (codes : ∀ session block world, good session →
      good (code session block world).session ∧
        ∀ bytes, (code session block world).result = .ok bytes → made bytes)
    (runs : Runs code blocks schedule failure pool world last pool' world')
    (held : pool.Good good) (before : ∀ entry ∈ pool.done, made entry.2) :
    ∀ entry ∈ pool'.done, made entry.2 := by
  induction runs with
  | done => exact before
  | absent _ _ ih => exact ih held before
  | left _ ih => exact ih held before
  | @coded worker index _ _ _ pool _ world _ _ block bytes session _ coded _ ih =>
    have step := codes (pool.session worker) block world (held.session worker)
    rw [coded] at step
    refine ih (held.keep step.1 worker) fun entry member => ?_
    rcases List.mem_cons.1 member with rfl | member
    · exact step.2 bytes rfl
    · exact before entry member
  | @failed worker index _ _ _ _ pool _ world _ _ block e session _ failed _ _ ih =>
    have step := codes (pool.session worker) block world (held.session worker)
    rw [failed] at step
    exact ih (held.keep step.1 worker) before

/-- Frames that are put together are a stream. -/
theorem flatMap_frames {done : List (Nat × Bytes)}
    (frames : ∀ entry ∈ done, ∃ payload, entry.2 = Frame.frame payload ∧
      payload.length < UInt32.size) :
    ∃ payloads, done.flatMap (·.2) = Frame.encode payloads ∧
      ∀ payload ∈ payloads, payload.length < UInt32.size := by
  induction done with
  | nil => exact ⟨[], rfl, fun payload member => absurd member List.not_mem_nil⟩
  | cons entry done ih =>
    obtain ⟨payload, frame_eq, short⟩ := frames entry List.mem_cons_self
    obtain ⟨payloads, rest, shorts⟩ := ih fun other member =>
      frames other (List.mem_cons_of_mem entry member)
    refine ⟨payload :: payloads, ?_, List.forall_mem_cons.2 ⟨short, shorts⟩⟩
    rw [List.flatMap_cons, frame_eq, rest, Frame.encode, Frame.encode, List.flatMap_cons]

end Pool

namespace Library

variable {library : Library σ ι} {world after : World σ} {schedule : Nat → Schedule}
  {result : Except StreamFailure Bytes} {size : Nat}

/-- Workers do not stop the program. -/
theorem codesBlocks_ne_overrun {code : Session σ ι → Bytes → World σ → Produced σ ι}
    {blocks : List Bytes} {schedule : Schedule}
    (codes : library.CodesBlocks code blocks schedule world result after) :
    result ≠ .error .overrun := by
  obtain ⟨failure, pool, last, -, -, rfl⟩ := codes
  cases failure with
  | none => exact StreamFailure.ok_ne_overrun _
  | some e => exact StreamFailure.error_ne_overrun _

theorem blockBound_ne_overrun {middle : World σ} {e : StreamFailure}
    (failed : (library.blockBound size).runOn world = (.error e, middle)) : e ≠ .overrun := by
  rw [runOn_blockBound] at failed
  split at failed
  · cases failed
  · cases failed
    exact fun impossible => by cases impossible

theorem compressesBlocks_ne_overrun {data : Bytes}
    (compresses : library.CompressesBlocks data size schedule world result after) :
    result ≠ .error .overrun := by
  unfold CompressesBlocks at compresses
  rcases asked : (library.blockBound size).runOn world with ⟨e | bound, middle⟩
  · rw [asked] at compresses
    rw [compresses.1]
    exact fun stopped => blockBound_ne_overrun asked (Except.error.inj stopped)
  · rw [asked] at compresses
    exact codesBlocks_ne_overrun compresses

theorem decompressesBlocks_ne_overrun {stream : Bytes}
    (decompresses : library.DecompressesBlocks stream size schedule world result after) :
    result ≠ .error .overrun := by
  unfold DecompressesBlocks at decompresses
  rcases asked : (library.blockBound size).runOn world with ⟨e | bound, middle⟩
  · rw [asked] at decompresses
    rw [decompresses.1]
    exact fun stopped => blockBound_ne_overrun asked (Except.error.inj stopped)
  · rw [asked] at decompresses
    dsimp only at decompresses
    rcases split : Frame.split stream bound with e | payloads
    · rw [split] at decompresses
      rw [decompresses.1]
      exact StreamFailure.error_ne_overrun e
    · rw [split] at decompresses
      exact codesBlocks_ne_overrun decompresses

/-- What workers compress is a stream of frames. -/
theorem truthful_compressBlocks {data bytes : Bytes} (within : library.entries.ReportsWithin)
    (compresses : library.CompressesBlocks data size schedule world (.ok bytes) after) :
    Frame.Truthful bytes := by
  unfold CompressesBlocks at compresses
  rcases asked : (library.blockBound size).runOn world with ⟨e | bound, middle⟩
  · rw [asked] at compresses
    cases compresses.1
  rw [asked] at compresses
  obtain ⟨failure, pool, last, runs, -, made⟩ := compresses
  have codes : ∀ (session : Session σ ι) (block : Bytes) (world : World σ),
      session.library = library →
      (compressFrame bound session block world).session.library = library ∧
        ∀ bytes, (compressFrame bound session block world).result = .ok bytes →
          ∃ payload, bytes = Frame.frame payload ∧ payload.length < UInt32.size := by
    rintro session block world rfl
    refine ⟨?_, fun bytes made => compressFrame_ok within made⟩
    obtain ⟨refused, continues, -⟩ := session.compress_continues (.whole (.ofBytes block))
      ⟨Memory.zeros (Frame.headerLength + bound), Frame.headerLength, bound, Nat.le_refl _⟩ world
    exact continues.library
  have frames := runs.made_of_done codes ⟨rfl, fun entry member => absurd member List.not_mem_nil⟩
    fun entry member => absurd member List.not_mem_nil
  cases failure with
  | some e => cases made
  | none =>
    obtain rfl := Except.ok.inj made
    have sorted : ∀ entry ∈ pool.done.mergeSort fun a b => a.1 ≤ b.1,
        ∃ payload, entry.2 = Frame.frame payload ∧ payload.length < UInt32.size :=
      fun entry member => frames entry (List.mem_mergeSort.1 member)
    obtain ⟨payloads, out, short⟩ := Pool.flatMap_frames sorted
    rw [Pool.output, out]
    exact Frame.truthful_encode short

/-! ## All of it -/

/-- What takes a length from the library keeps within the buffer that the length is about. -/
structure KeepsWithin (library : Library σ ι) : Prop where
  compress : ∀ (session : Session σ ι) input output world n, session.library = library →
    (session.compress input output world).result = .ok n → n.toNat ≤ output.length
  decompress : ∀ (session : Session σ ι) input output world n, session.library = library →
    (session.decompress input output world).result = .ok n → n.toNat ≤ output.length
  compressBytes : ∀ (session : Session σ ι) data bytes (world : World σ),
    session.library = library → (session.compressBytes data world).result = .ok bytes →
    let asked := library.entries.maxCompressedLength (UInt32.ofNat data.length) world.native
    bytes.length = (library.entries.compress session.record data
      (UInt32.ofNat (max asked.1.toNat 1)) true asked.2).1.reported.toNat
  decompressBytes : ∀ (session : Session σ ι) payload capacity bytes (world : World σ),
    session.library = library →
    (session.decompressBytes payload capacity world).result = .ok bytes →
    bytes.length = (library.entries.decompress session.record payload (UInt32.ofNat capacity)
      world.native).1.reported.toNat
  /-- Calls that follow one that has failed are among these, and so are both ends. -/
  writer : ∀ sink options (writer : BlockWriter σ ι) (world opened : World σ) calls,
    (BlockWriter.create library sink options).runOn world = (.ok writer, opened) →
    let last := (writer.callEach calls opened).2.1
    let after := (writer.callEach calls opened).2.2
    (∀ answer ∈ (writer.callEach calls opened).1, answer ≠ .error .overrun) ∧
      (last.finish after).1.result ≠ .error .overrun ∧
      (last.discard after).1.result ≠ .error .overrun ∧
      ∀ reached ∈ [last.sink, (last.finish after).1.sink, (last.discard after).1.sink],
        ∃ bytes, reached.received = sink.received ++ bytes ∧ Frame.Truthful bytes
  reader : ∀ source options (reader : BlockReader σ ι) (world opened : World σ) sizes,
    (BlockReader.create library source options).runOn world = (.ok reader, opened) →
    ∀ answer ∈ (reader.readEach sizes opened).1, answer ≠ .error .overrun
  compressBlocks : ∀ data size schedule world result after,
    library.CompressesBlocks data size schedule world result after →
    result ≠ .error .overrun ∧ ∀ bytes, result = .ok bytes → Frame.Truthful bytes
  decompressBlocks : ∀ stream size schedule world result after,
    library.DecompressesBlocks stream size schedule world result after → result ≠ .error .overrun

/-- The sink of a writer that is gone has received frames. -/
theorem truthful_of_ended {start : CodecState σ ι} {before : Bytes} {blocks : List Bytes}
    {lost : Bool} {outcome : Closed × World σ}
    (ended : BlockWriter.Ended library start before blocks lost outcome) :
    ∃ bytes, outcome.1.sink.received = before ++ bytes ∧ Frame.Truthful bytes := by
  cases ended with
  | whole _ sent => exact sent.sent.truthful
  | lost _ _ sent => exact sent.sent.truthful

theorem keepsWithin (honest : library.entries.Honest) : library.KeepsWithin where
  compress session input output world n on served :=
    Session.compress_within (on ▸ honest.compress) served
  decompress session input output world n on served :=
    Session.decompress_within (on ▸ honest.decompress) served
  compressBytes session data bytes world on made := by
    subst on
    exact Session.length_compressBytes honest.compress made
  decompressBytes session payload capacity bytes world on made := by
    subst on
    exact Session.length_decompressBytes honest.decompress made
  writer sink options writer world opened calls created := by
    intro last after
    obtain ⟨-, open_, on, -⟩ := BlockWriter.create_ok created
    have within : writer.session.library.entries.ReportsWithin := on ▸ honest.compress
    have reached : BlockWriter.Reached library _ sink.received options.blockSize calls last after :=
      (BlockWriter.create_reached created).callEach honest.compress calls
    obtain ⟨sent, on'⟩ : (∃ bytes, last.sink.received = sink.received ++ bytes ∧
        Frame.Truthful bytes) ∧ last.session.library = library := by
      cases reached with
      | sound _ sent => exact ⟨sent.sent.truthful, sent.of_library⟩
      | failed _ _ sent => exact ⟨sent.sent.truthful, sent.of_library⟩
    obtain ⟨_, finished, -⟩ := reached.finish honest.compress open_.positive
    obtain ⟨_, discarded, -⟩ := reached.discard honest.compress open_.positive
    have within' : last.session.library.entries.ReportsWithin := on' ▸ honest.compress
    refine ⟨BlockWriter.callEach_ne_overrun within calls opened,
      BlockWriter.finish_ne_overrun within' after, BlockWriter.discard_ne_overrun within' after, ?_⟩
    simp only [List.forall_mem_cons, List.not_mem_nil, false_imp_iff, implies_true, and_true]
    exact ⟨sent, truthful_of_ended finished, truthful_of_ended discarded⟩
  reader source options reader world opened sizes created := by
    obtain ⟨-, -, session, pos, filled, -⟩ := BlockReader.create_ok created
    refine BlockReader.Sound.readEach ⟨?_, by omega, by omega⟩ sizes opened
    rw [session]
    exact honest.decompress
  compressBlocks data size schedule world result after compresses := by
    refine ⟨compressesBlocks_ne_overrun compresses, ?_⟩
    rintro bytes rfl
    exact truthful_compressBlocks honest.compress compresses
  decompressBlocks stream size schedule world result after decompresses :=
    decompressesBlocks_ne_overrun decompresses

end Library

end OffloadCodec

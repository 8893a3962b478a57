import OffloadCodec.Proofs.Stream.CanonicalEncoding
import OffloadCodec.Proofs.Stream.ReadingOut

/-!
# Reading back what was written

With a library that loses nothing, the frames of a block stream decode to the blocks that were
compressed, whatever sessions and states the calls meet (`EntryPoints.decode_encode`). If the reader
takes smaller blocks or payloads than the writer made, decoding stops in front of the first frame
that does not fit (`EntryPoints.decode_encode_prefix`).

So a reader with blocks that are large enough returns all that was handed to the writer, and one with
smaller blocks returns a prefix of it and an error, or all of it (`BlockReader.round_trip`).
-/

namespace OffloadCodec

open OffloadCodec.Frame

variable {σ ι : Type} {entries : EntryPoints σ ι} {normal : σ → Prop}
  {state after : CodecState σ ι} {block payload : Bytes} {blocks payloads : List Bytes}
  {bound : Nat}

namespace EntryPoints

/-- A frame can carry the payload, and it restores the block. -/
structure StoredAs (entries : EntryPoints σ ι) (normal : σ → Prop) (block payload : Bytes) :
    Prop where
  positive : 0 < payload.length
  fits : payload.length ≤ maxNativeLength
  restores : entries.Restores normal payload block

theorem Lossless.compressNext (lossless : entries.Lossless normal) (before : normal state.native)
    (coded : entries.compressNext state block = (.ok payload, after)) :
    entries.StoredAs normal block payload ∧ normal after.native := by
  unfold EntryPoints.compressNext at coded
  split at coded
  · simp at coded
  · next length capacity checked =>
    obtain ⟨fits, positive, bounded, lengths⟩ := Session.lengths_ok_iff.1 checked
    obtain ⟨rfl, rfl⟩ := by simpa only [Prod.mk.injEq] using lengths
    obtain ⟨succeeded, front⟩ := CodecState.settle_ok coded
    have later := congrArg (fun step => step.2.native) coded
    dsimp only [CodecState.settle] at later
    obtain ⟨some, within, reaches⟩ := lossless.reports _ _ _ _ before succeeded
    have room : _ ≤ state.region.size := toNat_capacity bounded ▸ within
    rw [Memory.takeFront_write room reaches] at front
    obtain rfl := Except.ok.inj front
    refine ⟨⟨?_, ?_, lossless.restores _ _ _ _ before succeeded⟩, ?_⟩
    · rw [List.length_take]
      omega
    · rw [List.length_take]
      exact Nat.le_trans (Nat.min_le_left _ _) (Nat.le_trans room bounded)
    · rw [← later]
      exact lossless.compress _ _ _ _ before

theorem Keep.decompressNext (keep : entries.Keep normal) (before : normal state.native) :
    normal (entries.decompressNext state payload).2.native := by
  unfold EntryPoints.decompressNext
  split
  · exact before
  · exact keep.decompress _ _ _ _ before

theorem StoredAs.decompressNext (stored : entries.StoredAs normal block payload)
    (before : normal state.native) (positive : 0 < state.region.size)
    (bounded : state.region.size ≤ maxNativeLength) :
    (block.length ≤ state.region.size →
      (entries.decompressNext state payload).1 = .ok block) ∧
    (state.region.size < block.length →
      ∃ e, (entries.decompressNext state payload).1 = .error (.error e)) := by
  have checked : Session.lengths (.whole (.ofBytes payload)) (.whole state.region)
      "decompressor output buffer" = _ :=
    Session.lengths_ok_iff.2 ⟨stored.fits, positive, bounded, rfl⟩
  obtain ⟨room, small⟩ := stored.restores state.record (UInt32.ofNat state.region.size) state.native
    before
  rw [toNat_capacity bounded] at room small
  simp only [EntryPoints.decompressNext, checked, View.length_whole, CodecState.settle]
  constructor
  · intro within
    obtain ⟨succeeded, reported, written⟩ := room within
    have reaches := congrArg List.length written
    rw [List.length_take] at reaches
    rw [CodecError.ofStatus?_eq_none_iff.2 succeeded, reported]
    dsimp only
    rw [Memory.takeFront_write within (by omega), written]
  · intro above
    cases rejected : CodecError.ofStatus? .decompress
        (entries.decompress state.record payload (UInt32.ofNat state.region.size)
          state.native).1.status with
    | none => exact absurd (CodecError.ofStatus?_eq_none_iff.1 rejected) (small above)
    | some e => exact ⟨_, rfl⟩

/-- Blocks that are compressed one after another are stored as their payloads. -/
theorem Lossless.codeEach (lossless : entries.Lossless normal) (before : normal state.native)
    (coded : (OffloadCodec.codeEach entries.compressNext state blocks).1 = .ok payloads) :
    List.Forall₂ (entries.StoredAs normal) blocks payloads := by
  have step : ∀ (state : CodecState σ ι) (block payload : Bytes) (after : CodecState σ ι),
      normal state.native → entries.compressNext state block = (.ok payload, after) →
      entries.StoredAs normal block payload ∧ normal after.native :=
    fun _ _ _ _ before first => lossless.compressNext before first
  exact codeEach_forall₂ step before coded

/-! ## Decoding what was compressed -/

/-- Payloads within the bound decode to the blocks that they store, if all these fit the region. -/
theorem decode_encode (keep : entries.Keep normal) (before : normal state.native)
    (stored : List.Forall₂ (entries.StoredAs normal) blocks payloads)
    (positive : 0 < state.region.size) (bounded : state.region.size ≤ maxNativeLength)
    (inside : ∀ payload ∈ payloads, payload.length ≤ bound)
    (fit : ∀ block ∈ blocks, block.length ≤ state.region.size) :
    decode entries.decompressNext bound state (encode payloads) = (blocks, .boundary) := by
  induction stored generalizing state with
  | nil =>
    have stops : front bound [] = .stop .boundary := rfl
    exact decode_stop stops
  | @cons block payload blocks payloads first rest ih =>
    have framed : front bound (frame payload ++ encode payloads) =
        .payload payload (encode payloads) :=
      front_frame first.positive (inside _ List.mem_cons_self) (Nat.lt_succ_of_le first.fits) _
    have restored := (first.decompressNext before positive bounded).1 (fit _ List.mem_cons_self)
    have between : normal (entries.decompressNext state payload).2.native :=
      keep.decompressNext before
    have size := entries.size_region_decompressNext state payload
    have later := ih between (size ▸ positive) (size ▸ bounded)
      (fun payload member => inside payload (List.mem_cons_of_mem _ member))
      (fun block member => size ▸ fit block (List.mem_cons_of_mem _ member))
    have whole := decode_ok framed (Prod.ext restored rfl)
    rw [later] at whole
    exact whole

/-- In any case they decode to the first of those blocks, and to all of them if decoding ends at a
boundary. It does not end with an overrun. -/
theorem decode_encode_prefix (keep : entries.Keep normal) (before : normal state.native)
    (stored : List.Forall₂ (entries.StoredAs normal) blocks payloads)
    (positive : 0 < state.region.size) (bounded : state.region.size ≤ maxNativeLength) :
    (decode entries.decompressNext bound state (encode payloads)).1 <+: blocks ∧
      ((decode entries.decompressNext bound state (encode payloads)).2 = .boundary →
        (decode entries.decompressNext bound state (encode payloads)).1 = blocks) ∧
      (decode entries.decompressNext bound state (encode payloads)).2 ≠ .rejected .overrun := by
  induction stored generalizing state with
  | nil =>
    have stops : front bound [] = .stop .boundary := rfl
    have nothing : decode entries.decompressNext bound state (encode []) = ([], .boundary) :=
      decode_stop stops
    rw [nothing]
    exact ⟨List.nil_prefix, fun _ => rfl, by simp⟩
  | @cons block payload blocks payloads first rest ih =>
    have framed : front bound (frame payload ++ encode payloads) = _ :=
      front_frame_append (Nat.lt_succ_of_le first.fits) _
    have size := entries.size_region_decompressNext state payload
    obtain ⟨restores, rejects⟩ := first.decompressNext before positive bounded
    by_cases bad : payload.length = 0 ∨ bound < payload.length
    · -- The payload is too long for the reader.
      rw [if_pos bad] at framed
      have stopped : decode entries.decompressNext bound state (encode (payload :: payloads)) = _ :=
        decode_stop framed
      rw [stopped]
      exact ⟨List.nil_prefix, by simp, by simp⟩
    rw [if_neg bad] at framed
    rcases Nat.lt_or_ge state.region.size block.length with above | within
    · -- The block is too long for the reader.
      obtain ⟨e, rejected⟩ := rejects above
      have stopped : decode entries.decompressNext bound state (encode (payload :: payloads)) = _ :=
        decode_error framed (Prod.ext rejected rfl)
      rw [stopped]
      exact ⟨List.nil_prefix, by simp, by simp⟩
    · have between : normal (entries.decompressNext state payload).2.native :=
        keep.decompressNext before
      have whole : decode entries.decompressNext bound state (encode (payload :: payloads)) = _ :=
        decode_ok framed (Prod.ext (restores within) rfl)
      obtain ⟨front, all, unstopped⟩ := ih between (size ▸ positive) (size ▸ bounded)
      rw [whole]
      exact ⟨(List.prefix_cons_inj _).2 front, fun even => congrArg _ (all even), unstopped⟩

end EntryPoints

/-! ## The round trip -/

namespace BlockWriter

/-- What a writer compresses is what was handed to it. -/
theorem flatten_blocksOf {size : Nat} (positive : 0 < size) (calls : List WriterCall) :
    (blocksOf size calls).flatten = calls.flatMap WriterCall.bytes := by
  have runs := WriterCall.flatten_runsFrom [] calls
  rw [List.nil_append] at runs
  rw [← runs, blocksOf, WriterCall.runs]
  generalize WriterCall.runsFrom [] calls = runs
  induction runs with
  | nil => rfl
  | cons run runs ih =>
    rw [List.flatMap_cons, List.flatten_append, Bytes.flatten_chunks positive, ih,
      List.flatten_cons]

theorem length_le_of_mem_blocksOf {size : Nat} {calls : List WriterCall} {block : Bytes}
    (member : block ∈ blocksOf size calls) : block.length ≤ size := by
  obtain ⟨run, -, chunk⟩ := List.mem_flatMap.1 member
  exact (Bytes.length_le_of_mem_chunks chunk).1

end BlockWriter

variable {library : Library σ ι} {sink : Sink} {source : Source}
  {options options' : StreamOptions} {calls : List WriterCall} {ending : WriterEnd}
  {world world' : World σ} {answers : List (Option Nat)} {stream : Bytes} {sizes : List Nat}
  {parts : List (Except StreamFailure Bytes)}

/-- What a writer leaves in its sink stores the blocks that were handed to it. -/
theorem BlockWriter.use_stores (lossless : library.entries.Lossless normal)
    (settled : normal world.native)
    (written : (use library sink options calls ending world).1 = .ok answers)
    (sent : (use library sink options calls ending world).2.1.received = sink.received ++ stream) :
    ∃ payloads, stream = encode payloads ∧
      List.Forall₂ (library.entries.StoredAs normal) (blocksOf options.blockSize calls) payloads ∧
      ∀ payload ∈ payloads, payload.length ≤ library.boundFor options.blockSize world.native := by
  obtain ⟨usable, -, payloads, coded, received, lengths⟩ := use_ok written
  rw [sent] at received
  have before : normal (freshState library options world).native :=
    maintains_create lossless.obtains {} options world settled
  exact ⟨payloads, List.append_cancel_left received, lossless.codeEach before coded, lengths⟩

/-- Larger blocks have no smaller bounds. -/
theorem Library.boundFor_mono (lossless : library.entries.Lossless normal) {size size' : Nat}
    {native native' : σ} (settled : normal native) (settled' : normal native') (larger : size ≤ size')
    (bounded : size' ≤ maxNativeLength) :
    library.boundFor size native ≤ library.boundFor size' native' := by
  have ordered : UInt32.ofNat size ≤ UInt32.ofNat size' := by
    rw [UInt32.le_iff_toNat_le, EntryPoints.toNat_capacity bounded,
      EntryPoints.toNat_capacity (Nat.le_trans larger bounded)]
    exact larger
  exact UInt32.le_iff_toNat_le.1 (lossless.grows _ _ _ _ ordered settled settled')

/-- What was written without a failure is read back, if the reader's blocks are not smaller than the
writer's: all of it, and then nothing on every further read. With smaller blocks a prefix of it is
read back, and a read returns nothing only behind all of it. -/
theorem BlockReader.round_trip (lossless : library.entries.Lossless normal)
    (settled : normal world.native) (settled' : normal world'.native)
    (written : (BlockWriter.use library sink options calls ending world).1 = .ok answers)
    (sent : (BlockWriter.use library sink options calls ending world).2.1.received =
      sink.received ++ stream)
    (delivers : source.Delivers stream)
    (read : use library source options' sizes world' = .ok parts) :
    let data := calls.flatMap WriterCall.bytes
    let bound := library.boundFor options'.blockSize world'.native
    (options.blockSize ≤ options'.blockSize →
      ReadsOut bound .boundary data sizes parts ∧ (∀ answer ∈ parts, ∃ part, answer = .ok part) ∧
        returned parts <+: data ∧
        ((∀ n ∈ sizes, n ≠ 0) → data.length ≤ sizes.length → returned parts = data)) ∧
      (options'.blockSize < options.blockSize → returned parts <+: data ∧
        ∃ front ending, ReadsOut bound ending front sizes parts ∧ front <+: data ∧
          (ending = .boundary → front = data) ∧ ending ≠ .rejected .overrun) := by
  intro data bound
  obtain ⟨payloads, rfl, stored, lengths⟩ := BlockWriter.use_stores lossless settled written sent
  obtain ⟨usable, -⟩ := BlockWriter.use_ok written
  obtain ⟨usable', reads⟩ := use_ok delivers read
  have before : normal (freshState library options' world').native :=
    maintains_create lossless.obtains ⟨[]⟩ options' world' settled'
  have handed : (BlockWriter.blocksOf options.blockSize calls).flatten = data :=
    BlockWriter.flatten_blocksOf (StreamOptions.isUsable_iff.1 usable).1 calls
  obtain ⟨positive, bounded⟩ := StreamOptions.isUsable_iff.1 usable'
  constructor
  · intro larger
    have inside : ∀ payload ∈ payloads, payload.length ≤ bound := fun payload member =>
      Nat.le_trans (lengths payload member)
        (Library.boundFor_mono lossless settled settled' larger bounded)
    have fit : ∀ block ∈ BlockWriter.blocksOf options.blockSize calls,
        block.length ≤ (freshState library options' world').region.size := fun block member =>
      Nat.le_trans (BlockWriter.length_le_of_mem_blocksOf member) larger
    rw [EntryPoints.decode_encode lossless.toKeep before stored positive bounded inside fit] at reads
    rw [handed] at reads
    exact ⟨reads, reads.ok_of_boundary, reads.returned_prefix (by simp), reads.returned_eq⟩
  · intro _
    obtain ⟨⟨rest, parts⟩, all, unstopped⟩ :=
      EntryPoints.decode_encode_prefix lossless.toKeep before stored positive bounded
    have front : _ <+: data := ⟨rest.flatten, by rw [← handed, ← parts, List.flatten_append]⟩
    refine ⟨(reads.returned_prefix unstopped).trans front, _, _, reads, front, fun even => ?_,
      unstopped⟩
    rw [all even, handed]

/-- Blocks of up to two bytes are read back with larger buffers. -/
theorem BlockReader.round_trip_stored :
    ReadsOut 12 .boundary [1, 2, 3, 4] [1, 0, 3, 2, 7, 5]
        [.ok [1], .ok [], .ok [2], .ok [3], .ok [4], .ok []] ∧
      returned [.ok [1], .ok [], .ok [2], .ok [3], .ok [4], .ok []] <+: [1, 2, 3, 4] := by
  have written : (BlockWriter.use Simulated.library
      { answers := [.accept (some 3), .refuse .interrupted ""] } { blockSize := 2 }
      [.write [1, 2, 3], .flush, .writeAll [4]] .drop { native := {} }).1 =
      .ok [some 3, none, none] := by decide +kernel
  have sent : (BlockWriter.use Simulated.library
      { answers := [.accept (some 3), .refuse .interrupted ""] } { blockSize := 2 }
      [.write [1, 2, 3], .flush, .writeAll [4]] .drop { native := {} }).2.1.received =
      [] ++ [10, 0, 0, 0, 81, 90, 77, 1, 2, 0, 0, 0, 1, 2, 9, 0, 0, 0, 81, 90, 77, 1, 1, 0, 0, 0, 3,
        9, 0, 0, 0, 81, 90, 77, 1, 1, 0, 0, 0, 4] := by decide +kernel
  have read : use Simulated.library
      (.ofBytes [10, 0, 0, 0, 81, 90, 77, 1, 2, 0, 0, 0, 1, 2, 9, 0, 0, 0, 81, 90, 77, 1, 1, 0, 0,
        0, 3, 9, 0, 0, 0, 81, 90, 77, 1, 1, 0, 0, 0, 4])
      { blockSize := 4 } [1, 0, 3, 2, 7, 5] { native := {} } =
      .ok [.ok [1], .ok [], .ok [2], .ok [3], .ok [4], .ok []] := by decide +kernel
  obtain ⟨reads, -, front, -⟩ := (round_trip Simulated.lossless Simulated.regular_default
    Simulated.regular_default written sent (Source.delivers_ofBytes _) read).1 (by decide)
  exact ⟨reads, front⟩

end OffloadCodec

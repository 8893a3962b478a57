import OffloadCodec.Proofs.Parallel.SharedWork
import OffloadCodec.Proofs.Stream.ReadingOut
import OffloadCodec.Proofs.Stream.Splitting

/-!
# Decompressing in parallel

If results depend on payloads and capacities only, then every session decompresses a payload in the
same way, `restoredAt`: the one that reads a stream frame by frame (`PayloadDetermined.eachBy`), and
each of those that share the payloads out among them (`PayloadDetermined.uniform`). So under every
schedule the parallel codec returns what reading the stream to its end does, and fails where that
fails (`Library.decompressBlocks_as_read`). It does so even though it takes the whole stream apart
before it decompresses anything, and then meets what is wrong with the framing first.
-/

namespace OffloadCodec

open OffloadCodec.Frame

variable {σ ι : Type} {entries : EntryPoints σ ι} {normal : σ → Prop}
  {result : Bytes → UInt32 → Int32 × Bytes}

/-- What decompressing a payload gives, where there is room for `size` bytes. -/
def restoredAt (result : Bytes → UInt32 → Int32 × Bytes) (size : Nat) (payload : Bytes) :
    Except CodecError Bytes :=
  match Session.lengths (.whole (.ofBytes payload)) (.whole (.zeros size))
      "decompressor output buffer" with
  | .error e => .error e
  | .ok (_, capacity) =>
    match CodecError.ofStatus? .decompress (result payload capacity).1 with
    | none => .ok (result payload capacity).2
    | some e => .error e

/-- A call whose output can be taken returns that output. -/
theorem Session.result_produced {served : Served σ ι} {outcome : Except CodecError Bytes}
    (taken : served.taken = outcome.mapError (fun e => .error (.codec e))) :
    (produced served).result = outcome := by
  unfold Served.taken Memory.takeFront at taken
  unfold produced
  cases answered : served.result with
  | error e =>
    rw [answered] at taken
    cases outcome with
    | error e' =>
      simp only [Except.mapError, Except.error.injEq, StreamFailure.error.injEq,
        IoError.codec.injEq] at taken
      rw [taken]
    | ok output => cases taken
  | ok n =>
    rw [answered] at taken
    dsimp only at taken
    by_cases above : served.output.memory.size < n.toNat
    · rw [if_pos above] at taken
      cases outcome with
      | error e => cases taken
      | ok output => cases taken
    · rw [if_neg above] at taken
      cases outcome with
      | error e => cases taken
      | ok output => exact congrArg Except.ok (Except.ok.inj taken)

namespace EntryPoints.PayloadDetermined

variable (determined : entries.PayloadDetermined normal result)
include determined

theorem decompressNext {state : CodecState σ ι} (settled : normal state.native) (payload : Bytes) :
    (entries.decompressNext state payload).1 =
        (restoredAt result state.region.size payload).mapError (fun e => .error (.codec e)) ∧
      normal (entries.decompressNext state payload).2.native := by
  have lengths : Session.lengths (.whole (.ofBytes payload)) (.whole state.region)
      "decompressor output buffer" =
      Session.lengths (.whole (.ofBytes payload)) (.whole (.zeros state.region.size))
        "decompressor output buffer" := Session.lengths_congr rfl rfl _
  have width : (View.whole (Memory.zeros state.region.size)).length = state.region.size := rfl
  simp only [EntryPoints.decompressNext, restoredAt, lengths]
  cases checked : Session.lengths (.whole (.ofBytes payload)) (.whole (.zeros state.region.size))
      "decompressor output buffer" with
  | error e => exact ⟨rfl, settled⟩
  | ok both =>
    obtain ⟨-, -, bounded, rfl⟩ := Session.lengths_ok_iff.1 checked
    rw [width] at bounded ⊢
    obtain ⟨status, output, settled'⟩ := determined.decompress state.record payload
      (UInt32.ofNat state.region.size) state.native settled
    refine ⟨?_, settled'⟩
    simp only [CodecState.settle, status] at output ⊢
    cases failed : CodecError.ofStatus? .decompress
        (result payload (UInt32.ofNat state.region.size)).1 with
    | some e => rfl
    | none =>
      obtain ⟨within, reaches, same⟩ := output (CodecError.ofStatus?_eq_none_iff.1 failed)
      rw [toNat_capacity bounded] at within
      dsimp only
      rw [Memory.takeFront_write within reaches, same]
      rfl

/-- A session decompresses each payload of a stream as if it were the only one. -/
theorem eachBy (size : Nat) :
    EachBy entries.decompressNext (restoredAt result size)
      (fun state => state.region.size = size ∧ normal state.native) := by
  rintro state payload ⟨rfl, settled⟩
  obtain ⟨answered, settled'⟩ := determined.decompressNext settled payload
  exact ⟨answered, size_region_decompressNext _ _ _, settled'⟩

/-- Which session of a library decompresses a payload makes no difference. -/
theorem uniform {library : Library σ ι} (same : library.entries = entries) (size : Nat) :
    Pool.Uniform (fun session payload => session.decompressBytes payload size)
      (restoredAt result size) (fun session => session.library = library)
      (fun world => normal world.native) := by
  subst same
  have decoded : ∀ (session : Session σ ι) payload (world : World σ),
      session.library = library → normal world.native →
      (session.decompressBytes payload size world).result = restoredAt result size payload ∧
        (session.decompressBytes payload size world).session.library = library ∧
        normal (session.decompressBytes payload size world).world.native := by
    rintro session payload world rfl settled
    have follows := session.decompress_follows payload (.zeros size) world
    have before : normal (session.codecState (.zeros size) world).native := settled
    obtain ⟨answered, settled'⟩ := determined.decompressNext before payload
    refine ⟨Session.result_produced (follows.taken.trans answered), ?_, ?_⟩
    · rw [Session.decompressBytes, Session.produced, follows.session]
    · rw [Session.decompressBytes, Session.produced, follows.world]
      exact settled'
  exact ⟨fun session payload world of_library settled =>
      (decoded session payload world of_library settled).1,
    fun session payload world of_library settled =>
      (decoded session payload world of_library settled).2.1,
    fun session payload world of_library settled =>
      (decoded session payload world of_library settled).2.2⟩

end EntryPoints.PayloadDetermined

/-! ## The parallel codec and the reader -/

/-- What succeeds alike fails alike. -/
theorem failure_iff {α ε ε' : Type} {one : Except ε α} {other : Except ε' α}
    (both : ∀ a, one = .ok a ↔ other = .ok a) :
    (∃ e, one = .error e) ↔ ∃ e, other = .error e := by
  cases one with
  | ok a =>
    rw [(both a).1 rfl]
    exact iff_of_false nofun nofun
  | error e =>
    cases other with
    | ok a => cases (both a).2 rfl
    | error e' => exact iff_of_true ⟨e, rfl⟩ ⟨e', rfl⟩

namespace Library

variable {library : Library σ ι} {world world' : World σ} {schedule : Nat → Schedule}
  {source : Source} {options : StreamOptions} {stream : Bytes}

/-- A stream is taken apart before any of its payloads is decompressed. -/
theorem runOn_decompressBlocks (library : Library σ ι) (stream : Bytes) (blockSize : Nat)
    (schedule : Nat → Schedule) (world : World σ) :
    (library.decompressBlocks stream blockSize schedule).runOn world =
      if StreamOptions.isUsable blockSize then
        match split stream (library.boundFor blockSize world.native) with
        | .error e => (.error (.error e), library.asked blockSize world)
        | .ok payloads =>
          (library.codeBlocks (fun session payload => session.decompressBytes payload blockSize)
            payloads (schedule payloads.length)).runOn (library.asked blockSize world)
      else (.error (.error (.unusableBlockSize blockSize)), world) := by
  rw [decompressBlocks, Act.runOn_bind, runOn_blockBound]
  by_cases usable : StreamOptions.isUsable blockSize = true
  · simp only [usable, if_true]
    cases split stream (library.boundFor blockSize world.native) with
    | error e => rfl
    | ok payloads => rfl
  · simp only [usable, if_false, Bool.false_eq_true]

/-- Under every schedule the payloads of a stream come out decompressed and in order, if it can be
taken apart and all of them can be decompressed, and only then. -/
theorem decompressBlocks_eq_ok_iff (determined : library.entries.PayloadDetermined normal result)
    (settled : normal world.native) (covers : ∀ n, (schedule n).Covers n) {blockSize : Nat}
    (usable : StreamOptions.isUsable blockSize = true) {data : Bytes} :
    ((library.decompressBlocks stream blockSize schedule).runOn world).1 = .ok data ↔
      ∃ payloads blocks : List Bytes,
        split stream (library.boundFor blockSize world.native) = .ok payloads ∧
        payloads.map (restoredAt result blockSize) = blocks.map .ok ∧ data = blocks.flatten := by
  rw [runOn_decompressBlocks, if_pos usable]
  have settled' : normal (library.asked blockSize world).native :=
    determined.maxCompressedLength _ _ settled
  cases split stream (library.boundFor blockSize world.native) with
  | error e =>
    constructor
    · intro impossible
      cases impossible
    · rintro ⟨payloads, blocks, impossible, -⟩
      cases impossible
  | ok payloads =>
    dsimp only
    rw [codeBlocks_eq_ok_iff (determined.uniform rfl blockSize) rfl settled' (covers _)]
    constructor
    · rintro ⟨blocks, decoded, all⟩
      exact ⟨payloads, blocks, rfl, decoded, all⟩
    · rintro ⟨payloads', blocks, same, decoded, all⟩
      obtain rfl := Except.ok.inj same
      exact ⟨blocks, decoded, all⟩

/-- A new reader's session decompresses each payload as if it were the only one. -/
theorem normal_freshState (determined : library.entries.PayloadDetermined normal result)
    (settled : normal world.native) (heap : options.buffers.useNative = false)
    (usable : StreamOptions.isUsable options.blockSize = true) :
    normal (BlockReader.freshState library options world).native := by
  obtain ⟨reader, created⟩ := BlockReader.create_heap library ⟨[]⟩ world heap usable
  have native : (BlockReader.freshState library options world).native =
      (library.asked options.blockSize world).native :=
    congrArg (fun made => made.2.native) created
  rw [native]
  exact determined.maxCompressedLength _ _ settled

/-- A stream is decompressed in parallel to the blocks that it decodes to for a new reader, if
decoding gets to its end, and is not decompressed otherwise. -/
theorem decompressBlocks_as_decoded (stream : Bytes)
    (determined : library.entries.PayloadDetermined normal result)
    (settled : normal world.native) (settled' : normal world'.native)
    (bound : library.boundFor options.blockSize world'.native =
      library.boundFor options.blockSize world.native)
    (covers : ∀ n, (schedule n).Covers n) (heap : options.buffers.useNative = false)
    (usable : StreamOptions.isUsable options.blockSize = true) :
    let decoded := decode library.entries.decompressNext
      (library.boundFor options.blockSize world'.native)
      (BlockReader.freshState library options world') stream
    decoded.2 ≠ .rejected .overrun ∧
      ∀ data,
        ((library.decompressBlocks stream options.blockSize schedule).runOn world).1 = .ok data ↔
          ∃ blocks, decoded = (blocks, .boundary) ∧ data = blocks.flatten := by
  intro decoded
  have each := determined.eachBy options.blockSize
  have before : (BlockReader.freshState library options world').region.size = options.blockSize ∧
      normal (BlockReader.freshState library options world').native :=
    ⟨Memory.size_zeros _, normal_freshState determined settled' heap usable⟩
  refine ⟨each.decode_ne_overrun before stream, fun data => ?_⟩
  rw [decompressBlocks_eq_ok_iff determined settled covers usable, ← bound]
  simp only [decoded, each.decode_boundary_iff before]
  constructor
  · rintro ⟨payloads, blocks, whole, restored, all⟩
    exact ⟨blocks, ⟨payloads, whole, restored⟩, all⟩
  · rintro ⟨blocks, ⟨payloads, whole, restored⟩, all⟩
    exact ⟨payloads, blocks, whole, restored, all⟩

/-- With bad framing the library is asked for its bound, and no more. -/
theorem decompressBlocks_of_defect {blockSize : Nat}
    (usable : StreamOptions.isUsable blockSize = true)
    (defective : ¬∃ payloads, stream = encode payloads ∧
      ∀ payload ∈ payloads, Admissible (library.boundFor blockSize world.native) payload) :
    ∃ e, split stream (library.boundFor blockSize world.native) = .error e ∧
      (e.kind = .unexpectedEof ∨ e.kind = .invalidData) ∧
      (library.decompressBlocks stream blockSize schedule).runOn world =
        (.error (.error e), library.asked blockSize world) := by
  cases taken : split stream (library.boundFor blockSize world.native) with
  | ok payloads => exact absurd ⟨payloads, split_eq_ok_iff.1 taken⟩ defective
  | error e =>
    refine ⟨e, rfl, kind_of_split_error taken, ?_⟩
    rw [runOn_decompressBlocks, if_pos usable, taken]

/-- Under every schedule a stream is decompressed in parallel exactly when a reader on heap memory
gets to its end, and then to what it reads, however it reads. If the framing is bad anywhere then
nothing is decompressed at all. -/
theorem decompressBlocks_as_read (determined : library.entries.PayloadDetermined normal result)
    (settled : normal world.native) (settled' : normal world'.native)
    (bound : library.boundFor options.blockSize world'.native =
      library.boundFor options.blockSize world.native)
    (covers : ∀ n, (schedule n).Covers n) (heap : options.buffers.useNative = false)
    (delivers : source.Delivers stream) :
    let allowed := library.boundFor options.blockSize world.native
    let parallel := (library.decompressBlocks stream options.blockSize schedule).runOn world
    let read := BlockReader.readWhole library source options world'
    (∀ data, parallel.1 = .ok data ↔ read = .ok data) ∧
    ((∃ failure, parallel.1 = .error failure) ↔ ∃ failure, read = .error failure) ∧
    (∀ sizes answers, BlockReader.use library source options sizes world' = .ok answers →
      ∀ data, parallel.1 = .ok data → ReadsOut allowed .boundary data sizes answers) ∧
    (∀ sizes n (before : List Bytes), n ≠ 0 →
      BlockReader.use library source options (sizes ++ [n]) world' =
        .ok (before.map .ok ++ [.ok []]) →
      parallel.1 = .ok before.flatten) ∧
    (StreamOptions.isUsable options.blockSize = true →
      (¬∃ payloads, stream = encode payloads ∧
        ∀ payload ∈ payloads, Admissible allowed payload) →
      ∃ e, split stream allowed = .error e ∧ (e.kind = .unexpectedEof ∨ e.kind = .invalidData) ∧
        parallel = (.error (.error e), library.asked options.blockSize world)) ∧
    (StreamOptions.isUsable options.blockSize = false →
      parallel = (.error (.error (.unusableBlockSize options.blockSize)), world)) := by
  intro allowed parallel read
  by_cases usable : StreamOptions.isUsable options.blockSize = true
  · obtain ⟨unstopped, decoded_iff⟩ :=
      decompressBlocks_as_decoded stream determined settled settled' bound covers heap usable
    have both : ∀ data, parallel.1 = .ok data ↔ read = .ok data := fun data =>
      (decoded_iff data).trans
        (BlockReader.readWhole_eq_ok_iff delivers heap usable unstopped).symm
    refine ⟨both, failure_iff both, ?_, ?_, fun _ => decompressBlocks_of_defect usable, ?_⟩
    · intro sizes answers used data shared
      obtain ⟨blocks, complete, rfl⟩ := (decoded_iff data).1 shared
      obtain ⟨-, reads⟩ := BlockReader.use_ok delivers used
      rw [complete, bound] at reads
      exact reads
    · intro sizes n before roomy used
      obtain ⟨-, reads⟩ := BlockReader.use_ok delivers used
      have lengths := BlockReader.length_of_use used
      simp only [List.length_append, List.length_map, List.length_singleton,
        Nat.add_right_cancel_iff] at lengths
      obtain ⟨all, complete⟩ := reads.returned_of_end roomy lengths.symm unstopped
      exact (decoded_iff _).2 ⟨_, Prod.ext rfl complete, all⟩
    · intro unusable
      cases usable.symm.trans unusable
  · have shared : parallel = (.error (.error (.unusableBlockSize options.blockSize)), world) := by
      simp only [parallel, runOn_decompressBlocks, if_neg usable]
    have unmade : (BlockReader.create library source options).runOn world' =
        (.error (.error (.unusableBlockSize options.blockSize)), world') := by
      rw [BlockReader.runOn_create, if_neg usable]
    have alone : read = .error (.error (.unusableBlockSize options.blockSize)) := by
      simp only [read, BlockReader.readWhole, unmade]
    have unused : ∀ sizes, BlockReader.use library source options sizes world' =
        .error (.error (.unusableBlockSize options.blockSize)) := by
      intro sizes
      simp only [BlockReader.use, unmade]
    have both : ∀ data, parallel.1 = .ok data ↔ read = .ok data := by
      intro data
      rw [shared, alone]
    refine ⟨both, failure_iff both, ?_, ?_, fun fine => absurd fine usable, fun _ => shared⟩
    · intro sizes answers used
      cases (unused sizes).symm.trans used
    · intro sizes n before _ used
      cases (unused _).symm.trans used

/-- The first of two frames is decompressed last. -/
theorem decompressBlocks_backwards :
    ((Simulated.library.decompressBlocks
      [10, 0, 0, 0, 81, 90, 77, 1, 2, 0, 0, 0, 1, 2, 9, 0, 0, 0, 81, 90, 77, 1, 1, 0, 0, 0, 3] 2
      (fun blocks => (Schedule.inTurn 2 blocks).reverse)).runOn { native := {} }).1 =
      .ok [1, 2, 3] := by
  have covers : ∀ blocks, Schedule.Covers (Schedule.inTurn 2 blocks).reverse blocks := fun blocks =>
    ((List.reverse_perm _).map _).trans (Schedule.covers_inTurn 2 blocks)
  have settled : Simulated.Regular ({ native := {} } : World Simulated.State).native :=
    Simulated.regular_default
  have heap : ({ blockSize := 2 } : StreamOptions).buffers.useNative = false := rfl
  obtain ⟨-, -, -, at_end, -⟩ := decompressBlocks_as_read Simulated.payloadDetermined
    settled settled rfl covers heap (Source.delivers_ofBytes _)
  exact at_end [5, 5, 0] 1 [[1, 2], [3], []] (by decide) (by decide +kernel)

end Library

end OffloadCodec

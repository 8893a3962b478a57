import OffloadCodec.Proofs.LibraryContract
import OffloadCodec.Proofs.Parallel.SharedWork
import OffloadCodec.Proofs.SimulatedLibrary
import OffloadCodec.Proofs.Stream.CanonicalEncoding

/-!
# Compressing in parallel

If results depend on levels, inputs and capacities only, then every session at a level compresses a
block in the same way, `codedAt`: one that writes a stream (`LevelDetermined.codeEach`) and each of
those that share the blocks out among them (`LevelDetermined.uniform`). So under every schedule the
parallel codec succeeds exactly when a writer does, and returns what the writer leaves in its sink
(`Library.compressBlocks_as_written`).
-/

namespace OffloadCodec

variable {σ ι Level : Type} {entries : EntryPoints σ ι} {normal : σ → Prop} {inForce : σ → Level}
  {latched : SessionRecord ι → Option Level} {result : Level → Bytes → UInt32 → Int32 × Bytes}
  {level : Level}

/-- What compressing a block at a level gives, where there is room for `bound` bytes. -/
def codedAt (result : Level → Bytes → UInt32 → Int32 × Bytes) (level : Level) (bound : Nat)
    (block : Bytes) : Except CodecError Bytes :=
  match Session.lengths (.whole (.ofBytes block)) (.whole (.zeros bound))
      "compressor output buffer" with
  | .error e => .error e
  | .ok (_, capacity) =>
    match CodecError.ofStatus? .compress (result level block capacity).1 with
    | none => .ok (result level block capacity).2
    | some e => .error e

/-- The library is in a normal state with this level in force. -/
def Steady (normal : σ → Prop) (inForce : σ → Level) (level : Level) (native : σ) : Prop :=
  normal native ∧ inForce native = level

/-- The session has this level, or takes the one in force. -/
def Follows (latched : SessionRecord ι → Option Level) (level : Level)
    (record : SessionRecord ι) : Prop :=
  latched record = none ∨ latched record = some level

theorem Follows.getD_eq {record : SessionRecord ι} (follows : Follows latched level record) :
    (latched record).getD level = level := by
  rcases follows with none | some
  · rw [none, Option.getD_none]
  · rw [some, Option.getD_some]

/-- A header that is laid out in front of what the library has written makes a frame of that. -/
theorem Frame.read_laid_out {written : Bytes} {bound n : Nat} (within : n ≤ bound)
    (reaches : n ≤ written.length) :
    (((Memory.zeros (headerLength + bound)).write headerLength
        (written.take bound)).write 0 (Bytes.le32 n)).read 0 (headerLength + n) =
      frame (written.take n) := by
  have fits : (Bytes.le32 n).length + n ≤ (Memory.zeros (headerLength + bound)).size :=
    Nat.add_le_add_left within 4
  have enough : n ≤ (written.take bound).length := by
    rw [List.length_take]
    omega
  have length : (written.take n).length = n := by
    rw [List.length_take, Nat.min_eq_left reaches]
  have laid := Memory.read_write_header fits enough
  rw [List.take_take, Nat.min_eq_left within] at laid
  rw [frame, length]
  exact laid

namespace EntryPoints.LevelDetermined

variable (determined : entries.LevelDetermined normal inForce latched result)
include determined

/-- A call at a level. -/
theorem call {record : SessionRecord ι} {native : σ} (steady : Steady normal inForce level native)
    (follows : Follows latched level record) (input : Bytes) (capacity : UInt32) :
    let reply := entries.compress record input capacity true native
    reply.1.status = (result level input capacity).1 ∧
      (reply.1.status = Status.ok →
        reply.1.reported.toNat ≤ capacity.toNat ∧
          reply.1.reported.toNat ≤ reply.1.written.length ∧
          reply.1.written.take reply.1.reported.toNat = (result level input capacity).2) ∧
      Follows latched level reply.1.record ∧ Steady normal inForce level reply.2 := by
  obtain ⟨settled, rfl⟩ := steady
  obtain ⟨status, output, latches, settled', same⟩ :=
    determined.compress record input capacity native settled
  rw [follows.getD_eq] at status output latches
  refine ⟨status, output, ?_, settled', same⟩
  rcases latches with kept | latched
  · exact follows.imp kept.trans kept.trans
  · exact .inr latched

/-! ## The session of a writer -/

/-- A session compresses a block at its own level, or at the one in force if it has none. -/
theorem compressNext_latched {state : CodecState σ ι} (settled : normal state.native)
    (block : Bytes) :
    (entries.compressNext state block).1 =
      (codedAt result ((latched state.record).getD (inForce state.native)) state.region.size
        block).mapError (fun e => .error (.codec e)) := by
  have lengths : Session.lengths (.whole (.ofBytes block)) (.whole state.region)
      "compressor output buffer" =
      Session.lengths (.whole (.ofBytes block)) (.whole (.zeros state.region.size))
        "compressor output buffer" := Session.lengths_congr rfl rfl _
  have width : (View.whole (Memory.zeros state.region.size)).length = state.region.size := rfl
  simp only [EntryPoints.compressNext, codedAt, lengths]
  cases checked : Session.lengths (.whole (.ofBytes block)) (.whole (.zeros state.region.size))
      "compressor output buffer" with
  | error e => rfl
  | ok both =>
    obtain ⟨-, -, bounded, rfl⟩ := Session.lengths_ok_iff.1 checked
    rw [width] at bounded ⊢
    obtain ⟨status, output, -⟩ := determined.compress state.record block
      (UInt32.ofNat state.region.size) state.native settled
    simp only [CodecState.settle, status] at output ⊢
    cases failed : CodecError.ofStatus? .compress
        (result ((latched state.record).getD (inForce state.native)) block
          (UInt32.ofNat state.region.size)).1 with
    | some e => rfl
    | none =>
      obtain ⟨within, reaches, same⟩ := output (CodecError.ofStatus?_eq_none_iff.1 failed)
      rw [toNat_capacity bounded] at within
      dsimp only
      rw [Memory.takeFront_write within reaches, same]
      rfl

theorem compressNext {state : CodecState σ ι} (steady : Steady normal inForce level state.native)
    (follows : Follows latched level state.record) (block : Bytes) :
    (entries.compressNext state block).1 =
        (codedAt result level state.region.size block).mapError (fun e => .error (.codec e)) ∧
      Follows latched level (entries.compressNext state block).2.record ∧
      Steady normal inForce level (entries.compressNext state block).2.native := by
  have answered := determined.compressNext_latched steady.1 block
  rw [steady.2, follows.getD_eq] at answered
  refine ⟨answered, ?_⟩
  rw [EntryPoints.compressNext]
  cases Session.lengths (.whole (.ofBytes block)) (.whole state.region)
      "compressor output buffer" with
  | error e => exact ⟨follows, steady⟩
  | ok both => exact (determined.call steady follows block both.2).2.2

/-- A session codes blocks as if each of them were the only one. -/
theorem codeEach (blocks : List Bytes) {state : CodecState σ ι}
    (steady : Steady normal inForce level state.native)
    (follows : Follows latched level state.record) :
    (OffloadCodec.codeEach entries.compressNext state blocks).1 =
      (blocks.mapM (codedAt result level state.region.size)).mapError
        (fun e => .error (.codec e)) := by
  induction blocks generalizing state with
  | nil => rfl
  | cons block blocks ih =>
    obtain ⟨answered, follows', steady'⟩ := determined.compressNext steady follows block
    have later := ih steady' follows'
    rw [size_region_compressNext] at later
    rw [OffloadCodec.codeEach, List.mapM_cons]
    generalize entries.compressNext state block = step at answered later ⊢
    obtain ⟨output, after⟩ := step
    obtain rfl : output = _ := answered
    cases codedAt result level state.region.size block with
    | error e => rfl
    | ok output =>
      dsimp only [Except.mapError] at later ⊢
      generalize OffloadCodec.codeEach entries.compressNext after blocks = rest at later ⊢
      obtain ⟨outputs, last⟩ := rest
      obtain rfl : outputs = _ := later
      cases blocks.mapM (codedAt result level state.region.size) with
      | error e => rfl
      | ok outputs => rfl

/-! ## Sessions that share work -/

/-- A session lays a frame out that has what it codes as its payload. -/
theorem compressFrame {library : Library σ ι} (same : library.entries = entries) (bound : Nat)
    {session : Session σ ι} {world : World σ} (of_library : session.library = library)
    (steady : Steady normal inForce level world.native)
    (follows : Follows latched level session.record) (block : Bytes) :
    (Library.compressFrame bound session block world).result =
        (codedAt result level bound block).map Frame.frame ∧
      (Library.compressFrame bound session block world).session.library = library ∧
      Follows latched level (Library.compressFrame bound session block world).session.record ∧
      Steady normal inForce level (Library.compressFrame bound session block world).world.native := by
  subst same of_library
  have input : (View.whole (.ofBytes block)).bytes = block := Memory.read_ofBytes block
  have width : (View.whole (Memory.zeros bound)).length = bound := rfl
  have lengths : Session.lengths (.whole (.ofBytes block))
      ⟨Memory.zeros (Frame.headerLength + bound), Frame.headerLength, bound, Nat.le_refl _⟩
      "compressor output buffer" =
      Session.lengths (.whole (.ofBytes block)) (.whole (.zeros bound))
        "compressor output buffer" := Session.lengths_congr rfl rfl _
  simp only [Library.compressFrame, Session.compress, codedAt, lengths, input]
  cases checked : Session.lengths (.whole (.ofBytes block)) (.whole (.zeros bound))
      "compressor output buffer" with
  | error e => exact ⟨rfl, rfl, follows, steady⟩
  | ok both =>
    obtain ⟨-, -, bounded, rfl⟩ := Session.lengths_ok_iff.1 checked
    rw [width] at bounded ⊢
    obtain ⟨status, output, follows', steady'⟩ := determined.call steady follows block
      (UInt32.ofNat bound)
    refine ⟨?_, rfl, follows', steady'⟩
    simp only [Session.accept, status] at output ⊢
    cases failed : CodecError.ofStatus? .compress
        (result level block (UInt32.ofNat bound)).1 with
    | some e => rfl
    | none =>
      obtain ⟨within, reaches, same⟩ := output (CodecError.ofStatus?_eq_none_iff.1 failed)
      rw [toNat_capacity bounded] at within
      dsimp only [View.store, Except.map]
      rw [← same]
      exact congrArg Except.ok (Frame.read_laid_out within reaches)

/-- Which session of a library codes a block makes no difference. -/
theorem uniform {library : Library σ ι} (same : library.entries = entries) (bound : Nat) :
    Pool.Uniform (Library.compressFrame bound)
      (fun block => (codedAt result level bound block).map Frame.frame)
      (fun session => session.library = library ∧ Follows latched level session.record)
      (fun world => Steady normal inForce level world.native) := by
  refine ⟨?_, ?_, ?_⟩
  · intro session block world fine steady
    exact (determined.compressFrame same bound fine.1 steady fine.2 block).1
  · intro session block world fine steady
    obtain ⟨-, of_library, follows, -⟩ :=
      determined.compressFrame same bound fine.1 steady fine.2 block
    exact ⟨of_library, follows⟩
  · intro session block world fine steady
    obtain ⟨-, -, -, steady'⟩ := determined.compressFrame same bound fine.1 steady fine.2 block
    exact steady'

end EntryPoints.LevelDetermined

/-! ## Both ways of compressing -/

theorem error_of_map {α β ε : Type} {f : α → β} {result : Except ε α} {e : ε}
    (failed : result.map f = .error e) : result = .error e := by
  cases result with
  | error e' =>
    cases failed
    rfl
  | ok a => cases failed

theorem WriterCall.runsFrom_of_unflushed {calls : List WriterCall}
    (unflushed : ∀ call ∈ calls, call ≠ .flush) (run : Bytes) :
    runsFrom run calls = [run ++ calls.flatMap bytes] := by
  induction calls generalizing run with
  | nil => rw [runsFrom, List.flatMap_nil, List.append_nil]
  | cons call calls ih =>
    have later := ih fun call member => unflushed call (List.mem_cons_of_mem _ member)
    cases call with
    | write more => rw [runsFrom, later, List.flatMap_cons, bytes, List.append_assoc]
    | writeAll more => rw [runsFrom, later, List.flatMap_cons, bytes, List.append_assoc]
    | flush => exact absurd rfl (unflushed .flush List.mem_cons_self)

namespace Library

variable {library : Library σ ι} {world world' : World σ} {schedule : Nat → Schedule} {sink : Sink}
  {options : StreamOptions} {calls : List WriterCall}

theorem runOn_compressBlocks (library : Library σ ι) (data : Bytes) (blockSize : Nat)
    (schedule : Nat → Schedule) (world : World σ) :
    (library.compressBlocks data blockSize schedule).runOn world =
      if StreamOptions.isUsable blockSize then
        (library.codeBlocks (compressFrame (library.boundFor blockSize world.native))
          (Bytes.chunks blockSize data) (schedule (Bytes.chunks blockSize data).length)).runOn
          (library.asked blockSize world)
      else (.error (.error (.unusableBlockSize blockSize)), world) := by
  rw [compressBlocks, Act.runOn_bind, runOn_blockBound]
  by_cases usable : StreamOptions.isUsable blockSize = true
  · simp only [usable, if_true]
  · simp only [usable, if_false, Bool.false_eq_true]

/-- The blocks of a writer without flushes are those of its data, and a new writer on heap memory
codes them one by one. -/
theorem codeEach_freshState
    (determined : library.entries.LevelDetermined normal inForce latched result)
    (settled : normal world.native) (heap : options.buffers.useNative = false)
    (unflushed : ∀ call ∈ calls, call ≠ .flush)
    (usable : StreamOptions.isUsable options.blockSize = true) :
    (codeEach library.entries.compressNext (BlockWriter.freshState library options world)
        (BlockWriter.blocksOf options.blockSize calls)).1 =
      ((Bytes.chunks options.blockSize (calls.flatMap WriterCall.bytes)).mapM
        (codedAt result (inForce world.native)
          (library.boundFor options.blockSize world.native))).mapError
        (fun e => .error (.codec e)) := by
  have blocks : BlockWriter.blocksOf options.blockSize calls =
      Bytes.chunks options.blockSize (calls.flatMap WriterCall.bytes) := by
    rw [BlockWriter.blocksOf, WriterCall.runs, WriterCall.runsFrom_of_unflushed unflushed,
      List.flatMap_singleton, List.nil_append]
  obtain ⟨writer, created⟩ := BlockWriter.create_heap library {} world heap usable
  have native : (BlockWriter.freshState library options world).native =
      (library.asked options.blockSize world).native :=
    congrArg (fun made => made.2.native) created
  have steady : Steady normal inForce (inForce world.native)
      (BlockWriter.freshState library options world).native := by
    rw [native]
    exact determined.maxCompressedLength _ _ settled
  rw [blocks]
  exact determined.codeEach _ steady (.inl determined.fresh)

/-- A writer onto a sink that takes everything codes the blocks of its data and leaves their frames,
or it fails as the first block does that cannot be coded. -/
theorem use_unflushed
    (determined : library.entries.LevelDetermined normal inForce latched result)
    (settled : normal world.native) (heap : options.buffers.useNative = false)
    (unfailing : sink.Unfailing) (unflushed : ∀ call ∈ calls, call ≠ .flush)
    (usable : StreamOptions.isUsable options.blockSize = true) :
    let coded := (Bytes.chunks options.blockSize (calls.flatMap WriterCall.bytes)).mapM
      (codedAt result (inForce world.native) (library.boundFor options.blockSize world.native))
    let written := BlockWriter.use library sink options calls .finish world
    (∀ outputs, coded = .ok outputs → written.1 = .ok (calls.map WriterCall.answer) ∧
      written.2.1.received = sink.received ++ Frame.encode outputs) ∧
    (∀ e, coded = .error e → written.1 = .error (.error (.codec e))) := by
  intro coded written
  have alone : (codeEach library.entries.compressNext
      (BlockWriter.freshState library options world)
      (BlockWriter.blocksOf options.blockSize calls)).1 =
      coded.mapError (fun e => .error (.codec e)) :=
    codeEach_freshState determined settled heap unflushed usable
  obtain ⟨writer, created⟩ := BlockWriter.create_heap library sink world heap usable
  have writes := BlockWriter.use_unfailing unfailing created calls .finish
  constructor
  · intro outputs together
    rw [together] at alone
    have succeeded : written.1 = .ok (calls.map WriterCall.answer) := by
      rw [writes, alone]
      rfl
    obtain ⟨-, -, payloads, coded', received, -⟩ := BlockWriter.use_ok succeeded
    obtain rfl : outputs = payloads := Except.ok.inj (alone.symm.trans coded')
    exact ⟨succeeded, received⟩
  · intro e failed
    rw [failed] at alone
    rw [writes, alone]
    rfl

/-- Under every schedule the workers code the blocks of the data and their frames come out in order,
or a block comes to light that cannot be coded. -/
theorem compressBlocks_coded
    (determined : library.entries.LevelDetermined normal inForce latched result)
    (settled : normal world.native) {data : Bytes} {blockSize : Nat}
    (covers : ∀ n, (schedule n).Covers n) (usable : StreamOptions.isUsable blockSize = true) :
    let blocks := Bytes.chunks blockSize data
    let coded := codedAt result (inForce world.native) (library.boundFor blockSize world.native)
    let parallel := ((library.compressBlocks data blockSize schedule).runOn world).1
    (∀ outputs : List Bytes, blocks.map coded = outputs.map .ok →
      parallel = .ok (Frame.encode outputs)) ∧
    ((∃ block ∈ blocks, ∃ e, coded block = .error e) →
      ∃ block ∈ blocks, ∃ e, coded block = .error e ∧
        parallel = .error (.error (.codec e))) := by
  intro blocks coded parallel
  have shares : parallel = _ := congrArg Prod.fst
    ((library.runOn_compressBlocks data blockSize schedule world).trans (if_pos usable))
  have steady : Steady normal inForce (inForce world.native)
      (library.asked blockSize world).native := determined.maxCompressedLength _ _ settled
  have uniform : Pool.Uniform (compressFrame (library.boundFor blockSize world.native))
      (fun block => (coded block).map Frame.frame)
      (fun session => session.library = library ∧
        Follows latched (inForce world.native) session.record)
      (fun world' => Steady normal inForce (inForce world.native) world'.native) :=
    determined.uniform rfl _
  obtain ⟨all, some⟩ := codeBlocks_uniform uniform ⟨rfl, .inl determined.fresh⟩ steady
    (covers blocks.length)
  constructor
  · intro outputs each
    have framed : blocks.map (fun block => (coded block).map Frame.frame) =
        (outputs.map Frame.frame).map .ok := by
      have frames := congrArg (List.map (Except.map Frame.frame)) each
      rw [List.map_map, List.map_map] at frames
      rw [List.map_map]
      exact frames
    rw [shares, all _ framed, Frame.encode, List.flatMap_def]
  · rintro ⟨block, member, e, failing⟩
    have framing : (coded block).map Frame.frame = .error e := by
      rw [failing]
      rfl
    obtain ⟨block', member', e', framing', answered⟩ := some ⟨block, member, e, framing⟩
    exact ⟨block', member', e', error_of_map framing', shares.trans answered⟩

/-- With a usable block size, both ways of compressing come down to coding the blocks one by one. -/
theorem compress_both_ways
    (determined : library.entries.LevelDetermined normal inForce latched result)
    (settled : normal world.native) (settled' : normal world'.native)
    (level : inForce world'.native = inForce world.native)
    (covers : ∀ n, (schedule n).Covers n) (heap : options.buffers.useNative = false)
    (unfailing : sink.Unfailing) (unflushed : ∀ call ∈ calls, call ≠ .flush)
    (usable : StreamOptions.isUsable options.blockSize = true) :
    let data := calls.flatMap WriterCall.bytes
    let coded := codedAt result (inForce world.native)
      (library.boundFor options.blockSize world.native)
    let parallel := ((library.compressBlocks data options.blockSize schedule).runOn world).1
    let written := BlockWriter.use library sink options calls .finish world'
    (∃ outputs answers, parallel = .ok (Frame.encode outputs) ∧ written.1 = .ok answers ∧
        written.2.1.received = sink.received ++ Frame.encode outputs ∧
        ∀ block ∈ Bytes.chunks options.blockSize data, ∃ output, coded block = .ok output) ∨
      (∃ block ∈ Bytes.chunks options.blockSize data, ∃ e failure, coded block = .error e ∧
        parallel = .error (.error (.codec e)) ∧ written.1 = .error failure) := by
  intro data coded parallel written
  have bound : library.boundFor options.blockSize world'.native =
      library.boundFor options.blockSize world.native :=
    congrArg UInt32.toNat (determined.bound _ _ _ settled' settled)
  have writes := use_unflushed determined settled' heap unfailing unflushed usable
  rw [level, bound] at writes
  obtain ⟨written_ok, written_error⟩ := writes
  obtain ⟨shared_ok, shared_error⟩ := compressBlocks_coded determined settled covers usable
  rcases mapM_ok_or_error coded (Bytes.chunks options.blockSize data) with
    ⟨outputs, together, each⟩ | ⟨e, failed, block, member, failing⟩
  · left
    obtain ⟨succeeded, received⟩ := written_ok outputs together
    refine ⟨outputs, _, shared_ok outputs each, succeeded, received, ?_⟩
    intro block member
    have output : coded block ∈ outputs.map .ok := each ▸ List.mem_map_of_mem member
    obtain ⟨output, -, same⟩ := List.mem_map.1 output
    exact ⟨output, same.symm⟩
  · right
    obtain ⟨block', member', e', failing', answered⟩ := shared_error ⟨block, member, e, failing⟩
    exact ⟨block', member', e', _, failing', answered, written_error e failed⟩

/-- Under every schedule data are compressed in parallel exactly when a writer on heap memory gets
them written, and then to what it leaves in its sink. What fails otherwise is one of the blocks that
the library rejects, or the block size, which both ways check alike. -/
theorem compressBlocks_as_written
    (determined : library.entries.LevelDetermined normal inForce latched result)
    (settled : normal world.native) (settled' : normal world'.native)
    (level : inForce world'.native = inForce world.native)
    (covers : ∀ n, (schedule n).Covers n) (heap : options.buffers.useNative = false)
    (unfailing : sink.Unfailing) (unflushed : ∀ call ∈ calls, call ≠ .flush) :
    let data := calls.flatMap WriterCall.bytes
    let blocks := Bytes.chunks options.blockSize data
    let coded := codedAt result (inForce world.native)
      (library.boundFor options.blockSize world.native)
    let parallel := ((library.compressBlocks data options.blockSize schedule).runOn world).1
    let written := BlockWriter.use library sink options calls .finish world'
    let unusable := options.blockSize = 0 ∨ maxNativeLength < options.blockSize
    ((∃ out, parallel = .ok out) ↔ ∃ answers, written.1 = .ok answers) ∧
    (∀ out, parallel = .ok out → written.2.1.received = sink.received ++ out) ∧
    (¬unusable → (∃ block ∈ blocks, ∃ e, coded block = .error e) →
      ∃ failure, parallel = .error failure) ∧
    (¬unusable → ∀ failure, parallel = .error failure →
      ∃ block ∈ blocks, ∃ e, coded block = .error e ∧ failure = .error (.codec e)) ∧
    (parallel = .error (.error (.unusableBlockSize options.blockSize)) ↔ unusable) ∧
    (((BlockWriter.create library sink options).runOn world').1 =
      .error (.error (.unusableBlockSize options.blockSize)) ↔ unusable) := by
  intro data blocks coded parallel written unusable
  have usable_iff : StreamOptions.isUsable options.blockSize = true ↔ ¬unusable := by
    rw [StreamOptions.isUsable_iff]
    omega
  by_cases usable : StreamOptions.isUsable options.blockSize = true
  · have fine := usable_iff.1 usable
    obtain ⟨writer, created⟩ := BlockWriter.create_heap library sink world' heap usable
    have made : ((BlockWriter.create library sink options).runOn world').1 = .ok writer := by
      rw [created]
    rcases compress_both_ways determined settled settled' level covers heap unfailing unflushed
      usable with ⟨outputs, answers, shared, alone, received, all⟩ |
        ⟨block, member, e, failure, failing, shared, alone⟩
    · have shared : parallel = .ok (Frame.encode outputs) := shared
      have alone : written.1 = .ok answers := alone
      rw [shared, alone, made]
      refine ⟨iff_of_true ⟨_, rfl⟩ ⟨_, rfl⟩, ?_, ?_, ?_, ?_, ?_⟩
      · intro out same
        rw [← Except.ok.inj same]
        exact received
      · rintro - ⟨block, member, e, failing⟩
        obtain ⟨output, coded'⟩ := all block member
        cases coded'.symm.trans failing
      · intro _ failure failed
        cases failed
      · exact iff_of_false (by simp) fine
      · exact iff_of_false (by simp) fine
    · have shared : parallel = .error (.error (.codec e)) := shared
      have alone : written.1 = .error failure := alone
      rw [shared, alone, made]
      refine ⟨iff_of_false (by simp) (by simp), by simp, fun _ _ => ⟨_, rfl⟩, ?_, ?_, ?_⟩
      · intro _ failure same
        exact ⟨block, member, e, failing, (Except.error.inj same).symm⟩
      · exact iff_of_false (by simp) fine
      · exact iff_of_false (by simp) fine
  · have bad : unusable := Classical.byContradiction fun fine => usable (usable_iff.2 fine)
    have shared : parallel = .error (.error (.unusableBlockSize options.blockSize)) := by
      have rejected := library.runOn_compressBlocks data options.blockSize schedule world
      rw [if_neg usable] at rejected
      exact congrArg Prod.fst rejected
    have unmade : (BlockWriter.create library sink options).runOn world' =
        (.error (.error (.unusableBlockSize options.blockSize)), world') := by
      rw [BlockWriter.runOn_create, if_neg usable]
    have alone : written.1 = .error (.error (.unusableBlockSize options.blockSize)) := by
      simp only [written, BlockWriter.use, unmade]
    rw [shared, alone, unmade]
    exact ⟨iff_of_false (by simp) (by simp), by simp, absurd bad, absurd bad,
      iff_of_true rfl bad, iff_of_true rfl bad⟩

/-- The blocks are compressed from the last one to the first. -/
theorem compressBlocks_backwards :
    ((Simulated.library.compressBlocks [1, 2, 3] 2
      (fun blocks => (Schedule.inTurn 2 blocks).reverse)).runOn { native := {} }).1 =
      .ok [10, 0, 0, 0, 81, 90, 77, 1, 2, 0, 0, 0, 1, 2, 9, 0, 0, 0, 81, 90, 77, 1, 1, 0, 0, 0,
        3] := by
  have covers : ∀ blocks, Schedule.Covers (Schedule.inTurn 2 blocks).reverse blocks := fun blocks =>
    ((List.reverse_perm _).map _).trans (Schedule.covers_inTurn 2 blocks)
  have settled : Simulated.Regular ({ native := {} } : World Simulated.State).native :=
    Simulated.regular_default
  have heap : ({ blockSize := 2 } : StreamOptions).buffers.useNative = false := rfl
  have unfailing : ({} : Sink).Unfailing := ⟨rfl, by simp, by simp⟩
  have unflushed : ∀ call ∈ [WriterCall.write [1, 2], .writeAll [3]], call ≠ .flush := by
    intro call member
    simp only [List.mem_cons, List.not_mem_nil, or_false] at member
    rcases member with rfl | rfl
    · simp
    · simp
  have written : (BlockWriter.use Simulated.library {} { blockSize := 2 }
      [.write [1, 2], .writeAll [3]] .finish { native := {} }).1 = .ok [some 2, none] := by
    decide +kernel
  have received : (BlockWriter.use Simulated.library {} { blockSize := 2 }
      [.write [1, 2], .writeAll [3]] .finish { native := {} }).2.1.received =
      [10, 0, 0, 0, 81, 90, 77, 1, 2, 0, 0, 0, 1, 2, 9, 0, 0, 0, 81, 90, 77, 1, 1, 0, 0, 0,
        3] := by
    decide +kernel
  obtain ⟨both, same, -⟩ := compressBlocks_as_written Simulated.levelDetermined
    settled settled rfl covers heap unfailing unflushed
  obtain ⟨out, shared⟩ := both.2 ⟨_, written⟩
  have sent := same out shared
  rw [received] at sent
  exact shared.trans (congrArg Except.ok sent.symm)

end Library

end OffloadCodec

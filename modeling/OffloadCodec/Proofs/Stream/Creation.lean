import OffloadCodec.Proofs.Calls.Acts
import OffloadCodec.Proofs.LibraryContract
import OffloadCodec.Proofs.Stream.Collecting
import OffloadCodec.Stream.Reader

/-!
# New readers and writers

A reader or writer of block streams is made for usable block sizes only, and starts with zeroed
buffers: one of the block size and one of the largest payload that the library says there is
(`BlockWriter.create_ok`, `BlockReader.create_ok`). What it is put on has no part in that
(`BlockWriter.create_onto`, `BlockReader.create_onto`).

A property of the world that bounds and memory do not touch (`Library.Obtains`) is still there when
something was made, or was not (`BlockWriter.maintains_create`, `BlockReader.maintains_create`).
-/

namespace OffloadCodec

variable {σ ι : Type} {library : Library σ ι} {world world' : World σ}

/-- The largest payload that the library says there is for blocks of some size. -/
def Library.boundFor (library : Library σ ι) (size : Nat) (native : σ) : Nat :=
  (library.entries.maxCompressedLength (UInt32.ofNat size) native).1.toNat

/-- A length that the library gives is one that it can be given. -/
theorem Library.boundFor_le (library : Library σ ι) (size : Nat) (native : σ) :
    library.boundFor size native ≤ maxNativeLength :=
  Nat.le_pred_of_lt (library.entries.maxCompressedLength (UInt32.ofNat size) native).1.toNat_lt

/-- The world after the library was asked for that. -/
def Library.asked (library : Library σ ι) (size : Nat) (world : World σ) : World σ :=
  { world with native :=
      (library.entries.maxCompressedLength (UInt32.ofNat size) world.native).2 }

theorem StreamOptions.isUsable_iff {size : Nat} :
    isUsable size = true ↔ 0 < size ∧ size ≤ maxNativeLength := by
  simp only [isUsable, Bool.and_eq_true, decide_eq_true_eq, Nat.pos_iff_ne_zero]

namespace Library

/-- A block size is rejected before the library is asked, or it is usable and the library gives its
bound. -/
theorem runOn_blockBound (library : Library σ ι) (size : Nat) (world : World σ) :
    (library.blockBound size).runOn world =
      if StreamOptions.isUsable size then
        (.ok (library.boundFor size world.native), library.asked size world)
      else (.error (.error (.unusableBlockSize size)), world) := by
  unfold blockBound
  by_cases usable : StreamOptions.isUsable size = true
  · have fits := (StreamOptions.isUsable_iff.1 usable).2
    simp only [usable, if_true, maxBlockPayload, Act.streamed, Act.mapError, Act.runOn_of,
      maxCompressedLength, fits]
    rfl
  · simp only [usable, if_false, Act.runOn_throw, Bool.false_eq_true]

end Library

/-! ## What creation keeps -/

/-- Asking for memory and giving memory back keep a property of the world. -/
structure Library.Lends (library : Library σ ι) (kept : World σ → Prop) : Prop where
  malloc : ∀ size numa pinned world, kept world →
    kept { world with native := (library.entries.malloc size numa pinned world.native).2 }
  free : ∀ free, library.entries.free = some free → ∀ address world, kept world →
    kept { world with native := free address world.native }

/-- So does asking for a bound. -/
structure Library.Obtains (library : Library σ ι) (kept : World σ → Prop) : Prop
    extends library.Lends kept where
  maxCompressedLength : ∀ length world, kept world →
    kept { world with native := (library.entries.maxCompressedLength length world.native).2 }

/-- Entry points that keep a property of the library's state do so in the world. -/
theorem EntryPoints.Keep.obtains {normal : σ → Prop} (keep : library.entries.Keep normal) :
    library.Obtains fun world => normal world.native where
  maxCompressedLength length world := keep.maxCompressedLength length world.native
  malloc size numa pinned world := keep.malloc size numa pinned world.native
  free free found address world := keep.free free found address world.native

/-- A buffer that is given back keeps what giving memory back keeps. -/
theorem Scratch.kept_release (scratch : Scratch) {kept : World σ → Prop}
    (frees : ∀ free, library.entries.free = some free → ∀ address world, kept world →
      kept { world with native := free address world.native })
    (before : kept world) : kept (scratch.release library world) := by
  cases scratch with
  | heap => exact before
  | native buffer =>
    rw [Scratch.release, NativeBuffer.release]
    split
    · next free found => exact frees free found buffer.address world before
    · exact before

section Lends

variable {kept : World σ → Prop} (lends : library.Lends kept)
include lends

theorem NativeBuffer.maintains_allocate (size : Nat) (numa pinned : Bool) :
    (NativeBuffer.allocate library size numa pinned).Maintains kept := by
  intro world before
  have after := lends.malloc size numa pinned world before
  rw [NativeBuffer.allocate, Act.runOn_of]
  split
  · exact before
  · generalize library.entries.malloc size numa pinned world.native = reply at after ⊢
    obtain ⟨_ | address, native⟩ := reply
    · exact after
    · exact after

theorem Scratch.maintains_allocate (size : Nat) (prefs : BufferPrefs) :
    (Scratch.allocate library size prefs).Maintains kept := by
  rw [Scratch.allocate]
  split
  · exact (NativeBuffer.maintains_allocate lends size prefs.numa prefs.forcePinned).bind
      fun buffer => Act.maintains_pure _ _
  · exact Act.maintains_pure _ _

theorem Scratch.maintains_allocatePair (first second : Nat) (prefs : BufferPrefs) :
    (Scratch.allocatePair library first second prefs).Maintains kept := by
  rw [Scratch.allocatePair]
  refine (Scratch.maintains_allocate lends first prefs).bind fun one world before => ?_
  have after := Scratch.maintains_allocate lends second prefs world before
  rw [Act.runOn_of]
  generalize (Scratch.allocate library second prefs).runOn world = outcome at after ⊢
  obtain ⟨_ | two, middle⟩ := outcome
  · exact one.kept_release lends.free after
  · exact after

end Lends

section Obtains

variable {kept : World σ → Prop} (obtains : library.Obtains kept)
include obtains

theorem Library.maintains_blockBound (size : Nat) : (library.blockBound size).Maintains kept := by
  intro world before
  rw [runOn_blockBound]
  split
  · exact obtains.maxCompressedLength _ world before
  · exact before

theorem BlockWriter.maintains_create (sink : Sink) (options : StreamOptions) :
    (BlockWriter.create library sink options).Maintains kept :=
  (Library.maintains_blockBound obtains options.blockSize).bind fun bound =>
    ((Scratch.maintains_allocatePair obtains.toLends options.blockSize bound
      options.buffers).mapError _).bind fun _ => Act.maintains_pure _ _

theorem BlockReader.maintains_create (source : Source) (options : StreamOptions) :
    (BlockReader.create library source options).Maintains kept :=
  (Library.maintains_blockBound obtains options.blockSize).bind fun bound =>
    ((Scratch.maintains_allocatePair obtains.toLends bound options.blockSize
      options.buffers).mapError _).bind fun _ => Act.maintains_pure _ _

end Obtains

/-! ## Buffers -/

namespace Scratch

variable {prefs : BufferPrefs} {first second : Nat} {one two : Scratch}

theorem allocate_ok (allocated : (allocate library first prefs).runOn world = (.ok one, world')) :
    one.memory = .zeros first := by
  unfold allocate at allocated
  split at allocated
  · rw [Act.runOn_bind] at allocated
    split at allocated
    · next buffer after obtained =>
      obtain ⟨rfl, -⟩ := by simpa only [Act.runOn_pure, Prod.mk.injEq, Except.ok.injEq]
        using allocated
      simp only [NativeBuffer.allocate, Act.runOn_of] at obtained
      split at obtained
      · simp at obtained
      · split at obtained
        · simp only [Prod.mk.injEq, Except.ok.injEq] at obtained
          rw [← obtained.1]
          rfl
        · simp at obtained
    · simp at allocated
  · obtain ⟨rfl, -⟩ := by simpa only [Act.runOn_pure, Prod.mk.injEq, Except.ok.injEq]
      using allocated
    rfl

theorem allocatePair_ok
    (allocated : (allocatePair library first second prefs).streamed.runOn world =
      (.ok (one, two), world')) :
    one.memory = .zeros first ∧ two.memory = .zeros second := by
  simp only [Act.streamed, Act.mapError, Act.runOn_of] at allocated
  split at allocated
  · next pair after both =>
    obtain ⟨rfl, rfl⟩ := by simpa only [Prod.mk.injEq, Except.ok.injEq] using allocated
    simp only [allocatePair, Act.runOn_bind, Act.runOn_of] at both
    split at both
    · next left middle obtained =>
      split at both
      · next right last obtained' =>
        obtain ⟨⟨rfl, rfl⟩, rfl⟩ := by simpa only [Prod.mk.injEq, Except.ok.injEq] using both
        exact ⟨allocate_ok obtained, allocate_ok obtained'⟩
      · simp at both
    · simp at both
  · simp at allocated

/-- Heap memory is always there. -/
theorem allocatePair_heap (library : Library σ ι) (first second : Nat) (world : World σ)
    (heap : prefs.useNative = false) :
    (allocatePair library first second prefs).streamed.runOn world =
      (.ok (.heap (.zeros first), .heap (.zeros second)), world) := by
  have plain : ∀ size, allocate library size prefs = pure (.heap (.zeros size)) := by
    intro size
    simp only [allocate, heap, Bool.false_eq_true, if_false]
  simp only [Act.streamed, Act.mapError, allocatePair, plain, Act.runOn_of, Act.runOn_bind,
    Act.runOn_pure]

end Scratch

/-! ## Writers and readers -/

namespace BlockWriter

variable {sink : Sink} {options : StreamOptions} {writer : BlockWriter σ ι}

/-- A writer is made from what is obtained for it, with nothing held. -/
theorem runOn_create (library : Library σ ι) (sink : Sink) (options : StreamOptions)
    (world : World σ) :
    (create library sink options).runOn world =
      if StreamOptions.isUsable options.blockSize then
        match (Scratch.allocatePair library options.blockSize
            (library.boundFor options.blockSize world.native) options.buffers).streamed.runOn
            (library.asked options.blockSize world) with
        | (.ok (block, compressed), world) =>
          (.ok { session := .new library, sink, block, compressed }, world)
        | (.error e, world) => (.error e, world)
      else (.error (.error (.unusableBlockSize options.blockSize)), world) := by
  rw [create, Act.runOn_bind, Library.runOn_blockBound]
  by_cases usable : StreamOptions.isUsable options.blockSize = true
  · simp only [usable, if_true, Act.runOn_bind, Act.runOn_pure]
    rcases (Scratch.allocatePair _ _ _ _).streamed.runOn _ with ⟨_ | ⟨block, compressed⟩, after⟩
    · rfl
    · rfl
  · simp only [usable, if_false, Bool.false_eq_true]

/-- A new writer is open with nothing held, and its first codec call meets a new session and a zeroed
region. -/
theorem create_ok (created : (create library sink options).runOn world = (.ok writer, world')) :
    StreamOptions.isUsable options.blockSize = true ∧ writer.Open options.blockSize [] ∧
      writer.session.library = library ∧ writer.sink = sink ∧
      writer.codecState world' =
        { region := .zeros (library.boundFor options.blockSize world.native),
          native := world'.native } := by
  rw [runOn_create] at created
  split at created
  · next usable =>
    split at created
    · next block compressed after allocated =>
      obtain ⟨rfl, rfl⟩ := by simpa only [Prod.mk.injEq, Except.ok.injEq] using created
      obtain ⟨zeroed, zeroed'⟩ := Scratch.allocatePair_ok allocated
      have positive := (StreamOptions.isUsable_iff.1 usable).1
      have size : block.size = options.blockSize := congrArg Memory.size zeroed
      refine ⟨usable, ⟨⟨positive, size, rfl, Memory.read_zero _ _, rfl⟩, positive⟩, rfl, rfl, ?_⟩
      simp only [FrameWriter.codecState, Session.codecState, zeroed']
      rfl
    · simp at created
  · simp at created

/-- With heap memory a writer is always made. -/
theorem create_heap (library : Library σ ι) (sink : Sink) (world : World σ)
    (heap : options.buffers.useNative = false)
    (usable : StreamOptions.isUsable options.blockSize = true) :
    ∃ writer, (create library sink options).runOn world =
      (.ok writer, library.asked options.blockSize world) := by
  rw [runOn_create, if_pos usable, Scratch.allocatePair_heap library _ _ _ heap]
  exact ⟨_, rfl⟩

/-- The sink has no part in making a writer. -/
theorem create_onto (created : (create library sink options).runOn world = (.ok writer, world'))
    (other : Sink) :
    (create library other options).runOn world = (.ok { writer with sink := other }, world') := by
  rw [runOn_create] at created ⊢
  split at created
  · next usable =>
    rw [if_pos usable]
    split at created
    · next block compressed after allocated =>
      obtain ⟨rfl, rfl⟩ := by simpa only [Prod.mk.injEq, Except.ok.injEq] using created
      rfl
    · simp at created
  · simp at created

end BlockWriter

namespace BlockReader

variable {source : Source} {options : StreamOptions} {reader : BlockReader σ ι}

/-- A reader is made from what is obtained for it, with nothing served. -/
theorem runOn_create (library : Library σ ι) (source : Source) (options : StreamOptions)
    (world : World σ) :
    (create library source options).runOn world =
      if StreamOptions.isUsable options.blockSize then
        match (Scratch.allocatePair library (library.boundFor options.blockSize world.native)
            options.blockSize options.buffers).streamed.runOn
            (library.asked options.blockSize world) with
        | (.ok (compressed, block), world) =>
          (.ok { session := .new library, source, compressed, block }, world)
        | (.error e, world) => (.error e, world)
      else (.error (.error (.unusableBlockSize options.blockSize)), world) := by
  rw [create, Act.runOn_bind, Library.runOn_blockBound]
  by_cases usable : StreamOptions.isUsable options.blockSize = true
  · simp only [usable, if_true, Act.runOn_bind, Act.runOn_pure]
    rcases (Scratch.allocatePair _ _ _ _).streamed.runOn _ with ⟨_ | ⟨compressed, block⟩, after⟩
    · rfl
    · rfl
  · simp only [usable, if_false, Bool.false_eq_true]

/-- A new reader has served nothing, and its first codec call meets a new session and a zeroed
region. -/
theorem create_ok (created : (create library source options).runOn world = (.ok reader, world')) :
    StreamOptions.isUsable options.blockSize = true ∧ reader.source = source ∧
      reader.session = .new library ∧ reader.pos = 0 ∧ reader.filled = 0 ∧
      reader.compressed.size = library.boundFor options.blockSize world.native ∧
      reader.block.memory = .zeros options.blockSize := by
  rw [runOn_create] at created
  split at created
  · next usable =>
    split at created
    · next compressed block after allocated =>
      obtain ⟨rfl, rfl⟩ := by simpa only [Prod.mk.injEq, Except.ok.injEq] using created
      obtain ⟨zeroed, zeroed'⟩ := Scratch.allocatePair_ok allocated
      exact ⟨usable, rfl, rfl, rfl, rfl, congrArg Memory.size zeroed, zeroed'⟩
    · simp at created
  · simp at created

/-- With heap memory a reader is always made. -/
theorem create_heap (library : Library σ ι) (source : Source) (world : World σ)
    (heap : options.buffers.useNative = false)
    (usable : StreamOptions.isUsable options.blockSize = true) :
    ∃ reader, (create library source options).runOn world =
      (.ok reader, library.asked options.blockSize world) := by
  rw [runOn_create, if_pos usable, Scratch.allocatePair_heap library _ _ _ heap]
  exact ⟨_, rfl⟩

/-- The source has no part in making a reader. -/
theorem create_onto (created : (create library source options).runOn world = (.ok reader, world'))
    (other : Source) :
    (create library other options).runOn world =
      (.ok { reader with source := other }, world') := by
  rw [runOn_create] at created ⊢
  split at created
  · next usable =>
    rw [if_pos usable]
    split at created
    · next compressed block after allocated =>
      obtain ⟨rfl, rfl⟩ := by simpa only [Prod.mk.injEq, Except.ok.injEq] using created
      rfl
    · simp at created
  · simp at created

end BlockReader

end OffloadCodec

import OffloadCodec.Proofs.Stream.Emission
import OffloadCodec.Proofs.WholeBlocks

/-!
# Block writers collect blocks for a frame writer

A block writer that is open holds fewer bytes than a block, which its frame writer has not seen.
Every operation on it comes down to emissions of the frame writer (`ComesTo`):

* a write emits the blocks that the held bytes and the new ones fill, and holds what is left over
  (`BlockWriter.Open.write`);
* a flush emits what is held as a short block, if anything is, and flushes the sink
  (`BlockWriter.Open.flush`).

How the bytes were cut into writes is not seen in the emissions, apart from what is left over.
-/

namespace OffloadCodec.BlockWriter

variable {σ ι : Type} {writer : BlockWriter σ ι} {world : World σ} {size : Nat}
  {pending : Bytes}

/-- The writer has not failed and holds these bytes, at most a block of them. -/
structure Holds (writer : BlockWriter σ ι) (size : Nat) (pending : Bytes) : Prop where
  positive : 0 < size
  size_eq : writer.block.size = size
  filled_eq : writer.filled = pending.length
  held : writer.block.memory.read 0 writer.filled = pending
  sound : writer.failed = false

/-- The writer holds these bytes, and they are less than a block. -/
structure Open (writer : BlockWriter σ ι) (size : Nat) (pending : Bytes) : Prop
    extends writer.Holds size pending where
  room : pending.length < size

/-- An operation does what its emissions do. If they succeed the writer stays open, with `pending`
held and `answer` returned. -/
inductive ComesTo {α : Type} (answer : α) (size : Nat) (pending : Bytes) :
    Except StreamFailure α × BlockWriter σ ι × World σ →
    Except StreamFailure Unit × FrameWriter σ ι × World σ → Prop
  | ok {writer : BlockWriter σ ι} {world : World σ} :
    writer.Open size pending →
    ComesTo answer size pending (.ok answer, writer, world) (.ok (), writer.toFrameWriter, world)
  | error {e : StreamFailure} {writer : BlockWriter σ ι} {world : World σ} :
    ComesTo answer size pending (.error e, writer, world) (.error e, writer.toFrameWriter, world)

/-! ## Emitting what is held -/

theorem Holds.writeBlock (holds : writer.Holds size pending) (world : World σ) :
    ComesTo () size [] (writer.writeBlock world)
      (writer.play (if pending = [] then [] else [.frame pending]) world) := by
  obtain ⟨positive, size_eq, filled_eq, held, sound⟩ := holds
  rw [BlockWriter.writeBlock, sound, if_neg Bool.false_ne_true]
  by_cases empty : pending = []
  · subst empty
    have nothing : writer.filled = 0 := filled_eq
    rw [if_pos rfl, if_pos nothing]
    exact .ok ⟨⟨positive, size_eq, filled_eq, held, sound⟩, positive⟩
  · have filled : writer.filled ≠ 0 := by
      rw [filled_eq]
      exact fun none => empty (List.length_eq_zero_iff.1 none)
    rw [if_neg empty, if_neg filled, held, FrameWriter.play]
    rcases written : writer.writeFrame pending world with ⟨_ | _, frames, after⟩
    · exact .error
    · obtain ⟨-, -, -, -, -, -, failed⟩ := FrameWriter.writeFrame_ok written
      exact .ok ⟨⟨positive, size_eq, rfl, Memory.read_zero _ _, failed.trans sound⟩, positive⟩

theorem Open.chunks_pending (open_ : writer.Open size pending) :
    (Bytes.chunks size pending).map Emission.frame =
      if pending = [] then [] else [.frame pending] := by
  rw [Bytes.chunks_of_lt open_.room]
  split <;> rfl

/-- A flush emits what is held as a short block. -/
theorem Open.flush (open_ : writer.Open size pending) (world : World σ) :
    ComesTo () size [] (writer.flush world)
      (writer.play ((Bytes.chunks size pending).map .frame ++ [.flush]) world) := by
  have emitted := open_.toHolds.writeBlock world
  rw [BlockWriter.flush, FrameWriter.play_append, open_.chunks_pending]
  generalize writer.writeBlock world = outcome at emitted ⊢
  generalize writer.play _ world = played at emitted ⊢
  cases emitted with
  | error => exact .error
  | @ok writer world opened =>
    simp only [FrameWriter.play]
    rcases flushed : writer.flushSink with ⟨_ | _, frames⟩
    · exact .error
    · obtain ⟨sink, rfl, -⟩ := FrameWriter.flushSink_ok flushed
      exact .ok ⟨⟨opened.positive, opened.size_eq, opened.filled_eq, opened.held, opened.sound⟩,
        opened.room⟩

/-! ## Copying pieces -/

/-- A piece that fits is held behind what is held. -/
theorem Open.copied (open_ : writer.Open size pending) (bytes : Bytes)
    (fits : pending.length + bytes.length ≤ size) :
    Holds { writer with
      block := writer.block.withMemory (writer.block.memory.write writer.filled bytes)
      filled := writer.filled + bytes.length } size (pending ++ bytes) := by
  have size_eq : writer.block.memory.size = size := open_.size_eq
  refine ⟨open_.positive, ?_, ?_, ?_, open_.sound⟩
  · rw [Scratch.size, Scratch.memory_withMemory, Memory.size_write, size_eq]
  · rw [List.length_append, open_.filled_eq]
  · rw [Scratch.memory_withMemory, Memory.read_write_append, open_.held]
    rw [open_.filled_eq, size_eq]
    exact fits

/-- A piece that fits leaves the block open or fills it. -/
theorem Open.put (open_ : writer.Open size pending) (bytes : Bytes)
    (fits : pending.length + bytes.length ≤ size) (world : World σ) :
    ComesTo () size (Bytes.leftover size (pending ++ bytes)) (writer.put bytes world)
      (writer.play ((Bytes.whole size (pending ++ bytes)).map .frame) world) := by
  have length : (pending ++ bytes).length = pending.length + bytes.length := List.length_append
  have copied := open_.copied bytes fits
  rw [BlockWriter.put]
  dsimp only
  rw [copied.size_eq, open_.filled_eq, ← length]
  by_cases full : (pending ++ bytes).length = size
  · have nonempty : pending ++ bytes ≠ [] := by
      intro empty
      rw [empty] at full
      exact absurd full (Nat.ne_of_lt open_.positive)
    have emitted := copied.writeBlock world
    rw [if_neg nonempty] at emitted
    rw [if_pos full, Bytes.whole_block open_.positive full, Bytes.leftover_block open_.positive full]
    rwa [open_.filled_eq, ← length] at emitted
  · have less : (pending ++ bytes).length < size := by omega
    rw [if_neg full, Bytes.whole_of_lt less, Bytes.leftover_of_lt less]
    rw [open_.filled_eq, ← length] at copied
    exact .ok ⟨copied, less⟩

theorem ComesTo.putAll_cons {piece middle last : Bytes} {pieces : List Bytes}
    {emissions more : List Emission}
    (first : ComesTo () size middle (writer.put piece world) (writer.play emissions world))
    (later : ∀ (writer : BlockWriter σ ι) (world : World σ), writer.Open size middle →
      ComesTo () size last (writer.putAll pieces world) (writer.play more world)) :
    ComesTo () size last (writer.putAll (piece :: pieces) world)
      (writer.play (emissions ++ more) world) := by
  rw [BlockWriter.putAll, FrameWriter.play_append]
  generalize writer.put piece world = outcome at first ⊢
  generalize writer.play emissions world = played at first ⊢
  cases first with
  | ok opened => exact later _ _ opened
  | error => exact .error

theorem ComesTo.putAll_single {piece last : Bytes} {emissions : List Emission}
    (only : ComesTo () size last (writer.put piece world) (writer.play emissions world)) :
    ComesTo () size last (writer.putAll [piece] world) (writer.play emissions world) := by
  have nothing : ∀ (writer : BlockWriter σ ι) (world : World σ), writer.Open size last →
      ComesTo () size last (writer.putAll [] world) (writer.play [] world) :=
    fun _ _ opened => .ok opened
  have alone := only.putAll_cons nothing
  rwa [List.append_nil] at alone

/-- From an empty block on, every chunk but the last one fills a block. -/
theorem Open.putAll_chunks (bytes : Bytes) (writer : BlockWriter σ ι) (world : World σ)
    (open_ : writer.Open size []) :
    ComesTo () size (Bytes.leftover size bytes) (writer.putAll (Bytes.chunks size bytes) world)
      (writer.play ((Bytes.whole size bytes).map .frame) world) := by
  induction bytes using Bytes.block_induction open_.positive generalizing writer world with
  | short bytes less =>
    rw [Bytes.chunks_of_lt less]
    by_cases empty : bytes = []
    · rw [if_pos empty, Bytes.whole_of_lt less, Bytes.leftover_of_lt less, empty]
      exact .ok open_
    · have fits : ([] : Bytes).length + bytes.length ≤ size := by
        rw [List.length_nil]
        omega
      have alone := (open_.put bytes fits world).putAll_single
      rw [if_neg empty]
      rwa [List.nil_append] at alone
  | block first rest length ih =>
    have fits : ([] : Bytes).length + first.length ≤ size := by
      rw [List.length_nil]
      omega
    have filled := open_.put first fits world
    rw [List.nil_append, Bytes.whole_block open_.positive length,
      Bytes.leftover_block open_.positive length] at filled
    rw [Bytes.chunks_block_append open_.positive length,
      Bytes.whole_block_append open_.positive length,
      Bytes.leftover_block_append open_.positive length]
    exact filled.putAll_cons ih

/-! ## The operations that take bytes -/

/-- Pieces complete the block that is held and go on with further blocks. -/
theorem Open.putAll_pieces (open_ : writer.Open size pending) (bytes : Bytes) (world : World σ) :
    ComesTo () size (Bytes.leftover size (pending ++ bytes))
      (writer.putAll (Bytes.pieces (size - pending.length) size bytes) world)
      (writer.play ((Bytes.whole size (pending ++ bytes)).map .frame) world) := by
  have room := open_.room
  rw [Bytes.pieces]
  by_cases empty : bytes = []
  · rw [if_pos empty, empty, List.append_nil, Bytes.whole_of_lt room, Bytes.leftover_of_lt room]
    exact .ok open_
  · rw [if_neg empty]
    rcases Nat.lt_or_ge bytes.length (size - pending.length) with less | enough
    · -- All bytes fit the block, and none are left for another one.
      rw [List.take_of_length_le (by omega), List.drop_of_length_le (by omega), Bytes.chunks_nil]
      exact (open_.put bytes (by omega) world).putAll_single
    · -- The block is filled, and the rest starts from an empty one.
      have taken : (bytes.take (size - pending.length)).length = size - pending.length := by
        rw [List.length_take]
        omega
      have length : (pending ++ bytes.take (size - pending.length)).length = size := by
        rw [List.length_append, taken]
        omega
      have filled := open_.put (bytes.take (size - pending.length)) (by omega) world
      rw [Bytes.whole_block open_.positive length,
        Bytes.leftover_block open_.positive length] at filled
      have both := filled.putAll_cons
        (Open.putAll_chunks (bytes.drop (size - pending.length)))
      have parts : pending ++ bytes = pending ++ bytes.take (size - pending.length) ++
          bytes.drop (size - pending.length) := by
        rw [List.append_assoc, List.take_append_drop]
      rw [parts, Bytes.whole_block_append open_.positive length,
        Bytes.leftover_block_append open_.positive length]
      exact both

theorem Open.write (open_ : writer.Open size pending) (bytes : Bytes) (world : World σ) :
    ComesTo bytes.length size (Bytes.leftover size (pending ++ bytes)) (writer.write bytes world)
      (writer.play ((Bytes.whole size (pending ++ bytes)).map .frame) world) := by
  have copied := open_.putAll_pieces bytes world
  rw [BlockWriter.write, open_.sound, if_neg Bool.false_ne_true, open_.size_eq, open_.filled_eq]
  dsimp only
  generalize writer.putAll _ world = outcome at copied ⊢
  generalize writer.play _ world = played at copied ⊢
  cases copied with
  | ok opened => exact .ok opened
  | error => exact .error

theorem Open.writeAll (open_ : writer.Open size pending) (bytes : Bytes) (world : World σ) :
    ComesTo () size (Bytes.leftover size (pending ++ bytes)) (writer.writeAll bytes world)
      (writer.play ((Bytes.whole size (pending ++ bytes)).map .frame) world) := by
  rw [BlockWriter.writeAll]
  by_cases empty : bytes = []
  · rw [if_pos empty, empty, List.append_nil, Bytes.whole_of_lt open_.room,
      Bytes.leftover_of_lt open_.room]
    exact .ok open_
  · have written := open_.write bytes world
    rw [if_neg empty]
    generalize writer.write bytes world = outcome at written ⊢
    generalize writer.play _ world = played at written ⊢
    cases written with
    | ok opened => exact .ok opened
    | error => exact .error

end OffloadCodec.BlockWriter

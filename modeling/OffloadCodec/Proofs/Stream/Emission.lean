import OffloadCodec.Proofs.CodecCalls
import OffloadCodec.Proofs.Stream.Transport
import OffloadCodec.Stream.Writer

/-!
# Emissions of a frame writer

A block writer has its frame writer do two things, which make up a list of `Emission`s: write a block
as a frame, and flush the sink. `FrameWriter.play` plays such a list until something fails.

If nothing fails, the blocks have been compressed one after another, and the sink has received their
frames in order (`FrameWriter.play_ok`). Onto a sink that takes everything only the codec can fail
(`FrameWriter.play_unfailing`).
-/

namespace OffloadCodec

inductive Emission
  /-- A block is compressed and written as a frame. -/
  | frame (block : Bytes)
  /-- The sink is flushed. -/
  | flush

/-- The blocks that a list of emissions writes. -/
def Emission.blocks : List Emission → List Bytes
  | [] => []
  | .frame block :: emissions => block :: blocks emissions
  | .flush :: emissions => blocks emissions

@[simp] theorem Emission.blocks_append (first second : List Emission) :
    blocks (first ++ second) = blocks first ++ blocks second := by
  induction first with
  | nil => rfl
  | cons emission rest ih =>
    cases emission with
    | frame block => simp only [List.cons_append, blocks, ih]
    | flush => simp only [List.cons_append, blocks, ih]

@[simp] theorem Emission.blocks_map_frame (blocks : List Bytes) :
    Emission.blocks (blocks.map .frame) = blocks := by
  induction blocks with
  | nil => rfl
  | cons block rest ih => simp only [List.map_cons, Emission.blocks, ih]

namespace FrameWriter

variable {σ ι : Type} {writer writer' : FrameWriter σ ι} {world world' : World σ}
  {block : Bytes} {emissions more : List Emission}

/-- Plays emissions until one fails. -/
def play (writer : FrameWriter σ ι) : List Emission → World σ →
    Except StreamFailure Unit × FrameWriter σ ι × World σ
  | [], world => (.ok (), writer, world)
  | .frame block :: emissions, world =>
    match writer.writeFrame block world with
    | (.ok (), writer, world) => play writer emissions world
    | (.error e, writer, world) => (.error e, writer, world)
  | .flush :: emissions, world =>
    match writer.flushSink with
    | (.ok (), writer) => play writer emissions world
    | (.error e, writer) => (.error e, writer, world)

theorem play_append (writer : FrameWriter σ ι) (emissions more : List Emission)
    (world : World σ) :
    writer.play (emissions ++ more) world =
      match writer.play emissions world with
      | (.ok (), writer, world) => writer.play more world
      | (.error e, writer, world) => (.error e, writer, world) := by
  fun_induction play writer emissions world with
  | case1 => rfl
  | case2 writer block emissions world after later written ih =>
    simp only [List.cons_append, play, written, ih]
  | case3 writer block emissions world e after later failed =>
    simp only [List.cons_append, play, failed]
  | case4 writer emissions world after flushed ih =>
    simp only [List.cons_append, play, flushed, ih]
  | case5 writer emissions world e after failed =>
    simp only [List.cons_append, play, failed]

/-- What the writer's codec calls go through. -/
def codecState (writer : FrameWriter σ ι) (world : World σ) : CodecState σ ι :=
  writer.session.codecState writer.compressed.memory world

/-! ## One frame -/

theorem emit_ok {n : Nat} (emitted : writer.emit n = (.ok (), writer')) :
    ∃ sink payload, writer' = { writer with sink } ∧
      writer.compressed.memory.takeFront n = .ok payload ∧
      sink.received = writer.sink.received ++ Frame.frame payload := by
  unfold emit at emitted
  split at emitted
  · simp at emitted
  · next headed header =>
    split at emitted
    · simp at emitted
    · next within =>
      split at emitted
      · simp at emitted
      · next sink sent =>
        simp only [Prod.mk.injEq, true_and] at emitted
        have taken : writer.compressed.memory.takeFront n =
            .ok (writer.compressed.memory.read 0 n) := if_neg within
        refine ⟨sink, _, emitted.symm, taken, ?_⟩
        rw [Sink.writeAll_ok sent, Sink.writeAll_ok header, Frame.frame,
          (Memory.takeFront_ok taken).1, List.append_assoc]

/-- A sink that takes everything leaves it to the buffer whether a frame is written. -/
theorem emit_unfailing {n : Nat} (unfailing : writer.sink.Unfailing) :
    (writer.emit n).1 = (writer.compressed.memory.takeFront n).map (fun _ => ()) ∧
      (writer.emit n).2.sink.Unfailing := by
  obtain ⟨headed, header, later⟩ := unfailing.writeAll (Bytes.le32 n)
  obtain ⟨last, sent, end_⟩ := later.writeAll (writer.compressed.memory.read 0 n)
  have front : writer.compressed.memory.takeFront n =
      if writer.compressed.size < n then .error .overrun
      else .ok (writer.compressed.memory.read 0 n) := rfl
  rw [emit, header, front]
  by_cases above : writer.compressed.size < n
  · simp only [if_pos above]
    exact ⟨rfl, later⟩
  · simp only [if_neg above, sent]
    exact ⟨rfl, end_⟩

/-- What a compression with this result left at the front of the buffer. -/
def taken (writer : FrameWriter σ ι) : Except CodecError Nat → Except StreamFailure Bytes
  | .ok n => writer.compressed.memory.takeFront n
  | .error e => .error (.error (.codec e))

/-- A compression leaves what a codec step obtains at the front of the buffer. -/
theorem compressBlock_follows {result : Except CodecError Nat}
    (compressed : writer.compressBlock block world = (result, writer', world')) :
    writer'.taken result =
        (writer.session.library.entries.compressNext (writer.codecState world) block).1 ∧
      writer'.codecState world' =
        (writer.session.library.entries.compressNext (writer.codecState world) block).2 ∧
      writer'.sink = writer.sink ∧ writer'.failed = writer.failed ∧
      writer'.session.library = writer.session.library ∧
      writer'.compressed.size = writer.compressed.size := by
  have follows : Served.Follows _ writer.session world
      (writer.session.library.entries.compressNext (writer.codecState world) block) :=
    writer.session.compress_follows block writer.compressed.memory world
  have size : _ = writer.compressed.size :=
    writer.session.library.entries.size_region_compressNext (writer.codecState world) block
  simp only [compressBlock] at compressed
  generalize writer.session.compress _ _ world = served at follows compressed
  generalize writer.session.library.entries.compressNext (writer.codecState world) block = step
    at follows size ⊢
  obtain ⟨taken, session, region, after⟩ := follows
  rw [session, region, after] at compressed
  rw [Served.taken, region] at taken
  split at compressed
  · next n succeeded =>
    obtain ⟨rfl, rfl, rfl⟩ := by simpa only [Prod.mk.injEq] using compressed
    rw [succeeded] at taken
    refine ⟨?_, ?_, rfl, rfl, rfl, ?_⟩
    · simpa only [FrameWriter.taken, Scratch.memory_withMemory] using taken
    · simp only [codecState, Session.codecState, Scratch.memory_withMemory]
    · simpa only [Scratch.size, Scratch.memory_withMemory] using size
  · next e failed =>
    obtain ⟨rfl, rfl, rfl⟩ := by simpa only [Prod.mk.injEq] using compressed
    rw [failed] at taken
    refine ⟨?_, ?_, rfl, rfl, rfl, ?_⟩
    · simpa only [FrameWriter.taken, Scratch.memory_withMemory] using taken
    · simp only [codecState, Session.codecState, Scratch.memory_withMemory]
    · simpa only [Scratch.size, Scratch.memory_withMemory] using size

/-- A frame that is written: the block was compressed, and its output is the frame's payload. -/
theorem writeFrame_ok (written : writer.writeFrame block world = (.ok (), writer', world')) :
    ∃ payload, writer.session.library.entries.compressNext (writer.codecState world) block =
        (.ok payload, writer'.codecState world') ∧
      writer'.sink.received = writer.sink.received ++ Frame.frame payload ∧
      payload.length ≤ writer.compressed.size ∧
      writer'.session.library = writer.session.library ∧
      writer'.compressed.size = writer.compressed.size ∧ writer'.failed = writer.failed := by
  unfold writeFrame at written
  split at written
  · simp at written
  · next n coded after compressed =>
    obtain ⟨taken, state, sink, failed, library, size⟩ := compressBlock_follows compressed
    rcases emission : coded.emit n with ⟨result, last⟩
    rw [emission] at written
    obtain ⟨rfl, rfl, rfl⟩ := by simpa only [Prod.mk.injEq] using written
    obtain ⟨after, payload, rfl, front, received⟩ := emit_ok emission
    refine ⟨payload, Prod.ext (taken.symm.trans front) state.symm, sink ▸ received, ?_, library,
      size, failed⟩
    obtain ⟨-, rfl⟩ := Memory.takeFront_ok front
    rw [Memory.length_read, ← size]
    exact Nat.min_le_right _ _

/-- A sink that takes everything leaves it to the codec whether a frame is written. -/
theorem writeFrame_unfailing (unfailing : writer.sink.Unfailing) (block : Bytes)
    (world : World σ) :
    (writer.writeFrame block world).1 =
        (writer.session.library.entries.compressNext (writer.codecState world) block).1.map
          (fun _ => ()) ∧
      (writer.writeFrame block world).2.1.sink.Unfailing := by
  unfold writeFrame
  split
  · next e coded after compressed =>
    obtain ⟨taken, -, sink, -⟩ := compressBlock_follows compressed
    rw [← taken, sink]
    exact ⟨rfl, unfailing⟩
  · next n coded after compressed =>
    obtain ⟨taken, -, sink, -⟩ := compressBlock_follows compressed
    rw [← taken]
    exact emit_unfailing (sink ▸ unfailing)

/-- A frame that is lost marks the writer, unless the program stops there. -/
theorem failed_of_writeFrame_error {e : IoError}
    (lost : writer.writeFrame block world = (.error (.error e), writer', world')) :
    writer'.failed = true := by
  unfold writeFrame at lost
  split at lost
  · simp only [Prod.mk.injEq] at lost
    rw [← lost.2.1]
  · next n coded after compressed =>
    rcases emission : coded.emit n with ⟨result, last⟩
    rw [emission] at lost
    obtain ⟨rfl, rfl, rfl⟩ := by simpa only [Prod.mk.injEq] using lost
    unfold emit at emission
    repeat' split at emission
    all_goals
      simp only [Prod.mk.injEq, reduceCtorEq, false_and, Except.error.injEq] at emission
      try rw [← emission.2]

/-! ## All emissions -/

theorem flushSink_ok (flushed : writer.flushSink = (.ok (), writer')) :
    ∃ sink, writer' = { writer with sink } ∧ sink.received = writer.sink.received := by
  unfold flushSink at flushed
  have received := writer.sink.received_flush
  split at flushed
  · next sink answered =>
    rw [answered] at received
    simp only [Prod.mk.injEq, true_and] at flushed
    exact ⟨sink, flushed.symm, received⟩
  · simp at flushed

theorem flushSink_unfailing (unfailing : writer.sink.Unfailing) :
    ∃ sink, writer.flushSink = (.ok (), { writer with sink }) ∧ sink.Unfailing := by
  obtain ⟨sink, flushed, later⟩ := unfailing.flush
  refine ⟨sink, ?_, later⟩
  rw [flushSink, flushed]

/-- If nothing fails, the blocks were compressed one after another, and their frames follow what the
sink had received before. -/
theorem play_ok (played : writer.play emissions world = (.ok (), writer', world')) :
    ∃ payloads, codeEach writer.session.library.entries.compressNext (writer.codecState world)
        (Emission.blocks emissions) = (.ok payloads, writer'.codecState world') ∧
      writer'.sink.received = writer.sink.received ++ Frame.encode payloads ∧
      ∀ payload ∈ payloads, payload.length ≤ writer.compressed.size := by
  fun_induction play writer emissions world with
  | case1 writer world =>
    obtain ⟨-, rfl, rfl⟩ := by simpa only [Prod.mk.injEq] using played
    exact ⟨[], rfl, (List.append_nil _).symm, fun payload member => absurd member List.not_mem_nil⟩
  | case2 writer block emissions world after later written ih =>
    obtain ⟨payload, first, sent, length, library, size, -⟩ := writeFrame_ok written
    obtain ⟨payloads, rest, received, lengths⟩ := ih played
    rw [library] at rest
    refine ⟨payload :: payloads, codeEach_cons first rest, ?_, ?_⟩
    · rw [received, sent, List.append_assoc]
      rfl
    · intro other member
      rcases List.mem_cons.1 member with rfl | member
      · exact length
      · rw [← size]
        exact lengths other member
  | case3 => simp at played
  | case4 writer emissions world after flushed ih =>
    obtain ⟨sink, rfl, same⟩ := flushSink_ok flushed
    obtain ⟨payloads, coded, received, lengths⟩ := ih played
    exact ⟨payloads, coded, received.trans (by rw [same]), lengths⟩
  | case5 => simp at played

/-- Onto a sink that takes everything, emissions fail as the codec does. -/
theorem play_unfailing (unfailing : writer.sink.Unfailing) (emissions : List Emission)
    (world : World σ) :
    (writer.play emissions world).1 =
      (codeEach writer.session.library.entries.compressNext (writer.codecState world)
        (Emission.blocks emissions)).1.map (fun _ => ()) := by
  fun_induction play writer emissions world with
  | case1 => rfl
  | case2 writer block emissions world after later written ih =>
    obtain ⟨payload, first, -, -, library, -⟩ := writeFrame_ok written
    have sound := (writeFrame_unfailing unfailing block world).2
    rw [written] at sound
    rw [ih sound, Emission.blocks, codeEach, first, library]
    dsimp only
    rcases codeEach _ _ (Emission.blocks emissions) with ⟨_ | _, _⟩
    · rfl
    · rfl
  | case3 writer block emissions world e after later failed =>
    have answered := (writeFrame_unfailing unfailing block world).1
    rw [failed] at answered
    rw [Emission.blocks, codeEach]
    generalize writer.session.library.entries.compressNext (writer.codecState world) block = step
      at answered
    obtain ⟨_ | _, state⟩ := step
    · exact answered
    · simp [Except.map] at answered
  | case4 writer emissions world after flushed ih =>
    obtain ⟨sink, answered, sound⟩ := flushSink_unfailing unfailing
    obtain ⟨-, rfl⟩ := by simpa only [answered, Prod.mk.injEq] using flushed
    exact ih sound
  | case5 writer emissions world e after failed =>
    obtain ⟨sink, answered, -⟩ := flushSink_unfailing unfailing
    rw [answered] at failed
    simp at failed

end FrameWriter

end OffloadCodec

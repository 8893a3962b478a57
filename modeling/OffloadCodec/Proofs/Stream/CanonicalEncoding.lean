import OffloadCodec.Proofs.SimulatedLibrary
import OffloadCodec.Proofs.Stream.Creation
import OffloadCodec.Proofs.Stream.WriterUse

/-!
# The encoding that a writer produces

A writer that is used to its end without a failure has compressed the chunks of every run of bytes
between flushes, in order, and its sink holds their frames and nothing else
(`BlockWriter.use_ok`). So the sink can be told from the runs alone: how the bytes of a run were
cut into calls, how the sink cut what it took, and how the writer ended make no difference
(`BlockWriter.canonical_encoding`).
-/

namespace OffloadCodec.BlockWriter

variable {σ ι : Type} {library : Library σ ι} {sink : Sink} {options : StreamOptions}
  {world : World σ} {calls : List WriterCall} {ending : WriterEnd} {answers : List (Option Nat)}

/-- What a new writer has its codec go through. What it is put on has no part in that. -/
def freshState (library : Library σ ι) (options : StreamOptions) (world : World σ) :
    CodecState σ ι where
  region := .zeros (library.boundFor options.blockSize world.native)
  native := ((create library {} options).runOn world).2.native

/-- The blocks that calls have a writer compress, in order. -/
def blocksOf (size : Nat) (calls : List WriterCall) : List Bytes :=
  (WriterCall.runs calls).flatMap (Bytes.chunks size)

theorem codecState_eq {writer : BlockWriter σ ι} {opened : World σ}
    (created : (create library sink options).runOn world = (.ok writer, opened)) :
    writer.codecState opened = freshState library options world := by
  obtain ⟨-, -, -, -, state⟩ := create_ok created
  rw [state, freshState, create_onto created {}]

theorem use_ok (used : (use library sink options calls ending world).1 = .ok answers) :
    StreamOptions.isUsable options.blockSize = true ∧ answers = calls.map WriterCall.answer ∧
      ∃ payloads, (codeEach library.entries.compressNext (freshState library options world)
          (blocksOf options.blockSize calls)).1 = .ok payloads ∧
        (use library sink options calls ending world).2.1.received =
          sink.received ++ Frame.encode payloads ∧
        ∀ payload ∈ payloads, payload.length ≤ library.boundFor options.blockSize world.native := by
  unfold use at used ⊢
  rcases created : (create library sink options).runOn world with ⟨_ | writer, opened⟩
  · simp [created] at used
  rw [created] at used
  dsimp only at used ⊢
  have fresh := codecState_eq created
  obtain ⟨usable, open_, rfl, rfl, -⟩ := create_ok created
  obtain ⟨result, sent⟩ := open_.complete calls ending opened
  rcases played : writer.play (WriterCall.emitted options.blockSize [] calls ending) opened with
    ⟨_ | _, frames, after⟩
  · simp [played, used, Except.map] at result
  obtain ⟨payloads, coded, received, lengths⟩ := FrameWriter.play_ok played
  rw [played] at result sent
  rw [used] at result
  have size : writer.compressed.size =
      writer.session.library.boundFor options.blockSize world.native :=
    congrArg (fun state => state.region.size) fresh
  rw [WriterCall.blocks_emitted open_.positive, fresh] at coded
  rw [size] at lengths
  exact ⟨usable, Except.ok.inj result, payloads, congrArg Prod.fst coded,
    (congrArg Sink.received sent).trans received, lengths⟩

/-- Onto a sink that takes everything, a writer that is made fails as the codec does. -/
theorem use_unfailing {writer : BlockWriter σ ι} {opened : World σ} (unfailing : sink.Unfailing)
    (created : (create library sink options).runOn world = (.ok writer, opened))
    (calls : List WriterCall) (ending : WriterEnd) :
    (use library sink options calls ending world).1 =
      (codeEach library.entries.compressNext (freshState library options world)
        (blocksOf options.blockSize calls)).1.map (fun _ => calls.map WriterCall.answer) := by
  rw [use, created]
  dsimp only
  obtain ⟨-, open_, library_eq, sink_eq, -⟩ := create_ok created
  rw [← sink_eq] at unfailing
  rw [(open_.complete calls ending opened).1, FrameWriter.play_unfailing unfailing,
    WriterCall.blocks_emitted open_.positive, codecState_eq created, library_eq, blocksOf]
  rcases (codeEach _ _ _).1 with _ | _
  · rfl
  · rfl

/-- If nothing fails, a write answers with the length of what it was given, and the sink receives the
frames of the chunks of every run and nothing else, each with the length that the library reported for
the chunk. Calls with the same runs leave the same bytes in their sinks. -/
theorem canonical_encoding
    (used : (use library sink options calls ending world).1 = .ok answers) :
    answers = calls.map WriterCall.answer ∧
      (∃ payloads, (codeEach library.entries.compressNext (freshState library options world)
          ((WriterCall.runs calls).flatMap (Bytes.chunks options.blockSize))).1 = .ok payloads ∧
        List.Forall₂ library.entries.Reported
          ((WriterCall.runs calls).flatMap (Bytes.chunks options.blockSize)) payloads ∧
        (use library sink options calls ending world).2.1.received =
          sink.received ++ payloads.flatMap fun payload =>
            Bytes.le32 payload.length ++ payload) ∧
      ∀ (other : Sink) (calls' : List WriterCall) (ending' : WriterEnd)
          (answers' : List (Option Nat)),
        WriterCall.runs calls' = WriterCall.runs calls →
        (use library other options calls' ending' world).1 = .ok answers' →
        ∃ frames,
          (use library sink options calls ending world).2.1.received = sink.received ++ frames ∧
          (use library other options calls' ending' world).2.1.received =
            other.received ++ frames := by
  obtain ⟨-, answered, payloads, coded, received, -⟩ := use_ok used
  refine ⟨answered, ⟨payloads, coded, EntryPoints.codeEach_reported coded, received⟩, ?_⟩
  intro other calls' ending' answers' runs used'
  obtain ⟨-, -, payloads', coded', received', -⟩ := use_ok used'
  -- Both writers start from one state and compress the same blocks.
  have same : payloads' = payloads := by
    rw [blocksOf, runs] at coded'
    exact Except.ok.inj (coded'.symm.trans coded)
  rw [same] at received'
  exact ⟨Frame.encode payloads, received, received'⟩

/-- Two ways of cutting a run leave the same frames. -/
theorem canonical_encoding_stored :
    (use Simulated.library {} { blockSize := 2 } [.write [1, 2, 3], .flush] .finish
        { native := {} }).1 = .ok [some 3, none] ∧
      (use Simulated.library {} { blockSize := 2 } [.writeAll [1], .write [2, 3], .flush] .drop
        { native := {} }).1 = .ok [none, some 2, none] ∧
      ∃ frames,
        (use Simulated.library {} { blockSize := 2 } [.write [1, 2, 3], .flush] .finish
          { native := {} }).2.1.received = [] ++ frames ∧
        (use Simulated.library {} { blockSize := 2 } [.writeAll [1], .write [2, 3], .flush] .drop
          { native := {} }).2.1.received = [] ++ frames := by
  have written : (use Simulated.library {} { blockSize := 2 } [.write [1, 2, 3], .flush] .finish
      { native := {} }).1 = .ok [some 3, none] := by decide +kernel
  have written' : (use Simulated.library {} { blockSize := 2 }
      [.writeAll [1], .write [2, 3], .flush] .drop { native := {} }).1 =
      .ok [none, some 2, none] := by decide +kernel
  exact ⟨written, written', (canonical_encoding written).2.2 {} _ _ _ rfl written'⟩

end OffloadCodec.BlockWriter

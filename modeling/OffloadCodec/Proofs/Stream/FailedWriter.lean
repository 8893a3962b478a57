import OffloadCodec.Proofs.Stream.CanonicalEncoding
import OffloadCodec.Proofs.Stream.LostFrames

/-!
# Writers that have failed

A writer may be used on after a call has failed. What matters then is whether a block was lost. If one
was, the writer is marked: it takes no bytes and makes no call any more, and its sink stays as it is.
If only a flush of the sink has failed then it goes on as if it had not, with nothing lost or written
twice. `Reached` is this invariant, which every call keeps (`BlockWriter.Reached.perform`), and
`BlockWriter.fails_for_good` is what it comes to for all sequences of calls and both ends.
-/

namespace OffloadCodec

variable {σ ι : Type}

namespace WriterCall

/-- A call on a writer by which `reached.1` has been completed and which holds `reached.2`. -/
def advance (size : Nat) (reached : List Bytes × Bytes) (call : WriterCall) : List Bytes × Bytes :=
  (reached.1 ++ Emission.blocks (call.emissions size reached.2), call.leaves size reached.2)

/-- The blocks that calls complete on a new writer, and what it holds then. -/
def progress (size : Nat) (calls : List WriterCall) : List Bytes × Bytes :=
  calls.foldl (advance size) ([], [])

theorem progress_concat (size : Nat) (calls : List WriterCall) (call : WriterCall) :
    progress size (calls ++ [call]) = advance size (progress size calls) call := by
  rw [progress, List.foldl_append]
  rfl

theorem foldl_advance (size : Nat) (calls : List WriterCall) (reached : List Bytes × Bytes) :
    (calls.foldl (advance size) reached).1 ++
        Bytes.chunks size (calls.foldl (advance size) reached).2 =
      reached.1 ++ Emission.blocks (emitted size reached.2 calls .drop) := by
  induction calls generalizing reached with
  | nil => rw [List.foldl_nil, emitted, WriterEnd.emissions, Emission.blocks_map_frame]
  | cons call calls ih =>
    rw [List.foldl_cons, ih, emitted, Emission.blocks_append, advance, List.append_assoc]

/-- The blocks that are complete and what is held make up the blocks of all calls. -/
theorem progress_chunks {size : Nat} (positive : 0 < size) (calls : List WriterCall) :
    (progress size calls).1 ++ Bytes.chunks size (progress size calls).2 =
      BlockWriter.blocksOf size calls := by
  rw [progress, foldl_advance, blocks_emitted positive, List.nil_append, BlockWriter.blocksOf]

/-- What a call on a writer that has failed answers. -/
def refusal : WriterCall → Except StreamFailure (Option Nat)
  | write _ => .error (.error .writerFailed)
  | writeAll bytes => if bytes = [] then .ok none else .error (.error .writerFailed)
  | flush => .error (.error .writerFailed)

end WriterCall

namespace BlockWriter

variable {writer : BlockWriter σ ι} {world opened : World σ} {library : Library σ ι}
  {start : CodecState σ ι} {before pending : Bytes} {size : Nat} {blocks more : List Bytes}
  {calls : List WriterCall} {sink : Sink} {options : StreamOptions}

/-- Makes calls, whether they succeed or not. -/
def callEach (writer : BlockWriter σ ι) : List WriterCall → World σ →
    List (Except StreamFailure (Option Nat)) × BlockWriter σ ι × World σ
  | [], world => ([], writer, world)
  | call :: calls, world =>
    match writer.perform call world with
    | (answer, writer, world) =>
      match callEach writer calls world with
      | (answers, last) => (answer :: answers, last)

/-! ## A writer that is marked -/

theorem write_of_failed (failed : writer.failed = true) (bytes : Bytes) (world : World σ) :
    writer.write bytes world = (.error (.error .writerFailed), writer, world) := by
  rw [write, if_pos failed]

theorem writeBlock_of_failed (failed : writer.failed = true) (world : World σ) :
    writer.writeBlock world = (.error (.error .writerFailed), writer, world) := by
  rw [writeBlock, if_pos failed]

theorem perform_of_failed (failed : writer.failed = true) (call : WriterCall) (world : World σ) :
    writer.perform call world = (call.refusal, writer, world) := by
  cases call with
  | write bytes => rw [perform, write_of_failed failed, WriterCall.refusal]
  | writeAll bytes =>
    rw [perform, writeAll, WriterCall.refusal]
    by_cases empty : bytes = []
    · rw [if_pos empty, if_pos empty]
    · rw [if_neg empty, if_neg empty, write_of_failed failed]
  | flush => rw [perform, flush, writeBlock_of_failed failed, WriterCall.refusal]

theorem callEach_of_failed (failed : writer.failed = true) (calls : List WriterCall)
    (world : World σ) :
    writer.callEach calls world = (calls.map WriterCall.refusal, writer, world) := by
  induction calls with
  | nil => rfl
  | cons call calls ih =>
    rw [callEach, perform_of_failed failed]
    dsimp only
    rw [ih, List.map_cons]

theorem finish_of_failed (failed : writer.failed = true) (world : World σ) :
    writer.finish world =
      (⟨.error (.error .writerFailed), writer.sink⟩, writer.close world) := by
  simp only [finish, writeBlock_of_failed failed, discardAfter, discard_of_done (.inl failed)]

/-! ## One call -/

/-- Which sink a writer has makes no difference to what it holds. -/
theorem Open.onto (open_ : writer.Open size pending) (sink : Sink) :
    { writer with sink }.Open size pending :=
  ⟨⟨open_.positive, open_.size_eq, open_.filled_eq, open_.held, open_.sound⟩, open_.room⟩

/-- What emissions of blocks come to, said of the writer that has them made. -/
theorem ComesTo.advances {α : Type} {answer : α}
    {outcome : Except StreamFailure α × BlockWriter σ ι × World σ}
    {played : Except StreamFailure Unit × FrameWriter σ ι × World σ}
    (comes : ComesTo answer size pending outcome played)
    (advances : FrameWriter.Advances library start before blocks more played) :
    (∃ next later, outcome = (.ok answer, next, later) ∧ next.Open size pending ∧
        next.HasSent library start before (blocks ++ more) later) ∨
      ∃ e next later done, outcome = (.error (.error e), next, later) ∧ next.failed = true ∧
        done <+: more ∧ next.HasSent library start before (blocks ++ done) later := by
  cases comes with
  | ok opened =>
    cases advances with
    | all sound sent => exact .inl ⟨_, _, rfl, opened, sent⟩
  | error =>
    cases advances with
    | lost failed front sent => exact .inr ⟨_, _, _, _, rfl, failed, front, sent⟩

/-- What a call does to a writer that has not failed. -/
inductive Performs (library : Library σ ι) (start : CodecState σ ι) (before : Bytes) (size : Nat)
    (reached : List Bytes × Bytes) (call : WriterCall) :
    Except StreamFailure (Option Nat) × BlockWriter σ ι × World σ → Prop
  | all {next : BlockWriter σ ι} {later : World σ} :
    next.Open size (call.advance size reached).2 →
    next.HasSent library start before (call.advance size reached).1 later →
    Performs library start before size reached call (.ok call.answer, next, later)
  | unflushed {flushed : Sink} {e : IoError} {next : BlockWriter σ ι} {later : World σ} :
    call = .flush → flushed.flush = (.error e, next.sink) →
    next.Open size (call.advance size reached).2 →
    next.HasSent library start before (call.advance size reached).1 later →
    Performs library start before size reached call (.error (.error e), next, later)
  | lost {e : IoError} {done : List Bytes} {next : BlockWriter σ ι} {later : World σ} :
    next.failed = true → done <+: (call.advance size reached).1 →
    next.HasSent library start before done later →
    Performs library start before size reached call (.error (.error e), next, later)

variable (within : library.entries.ReportsWithin)
include within

/-- Emitting what is held writes its frame, or loses it. -/
theorem Open.writeBlock_advances (open_ : writer.Open size pending)
    (sent : writer.HasSent library start before blocks world) :
    (∃ next later, writer.writeBlock world = (.ok (), next, later) ∧ next.Open size [] ∧
        next.HasSent library start before (blocks ++ Bytes.chunks size pending) later) ∨
      ∃ e next later done, writer.writeBlock world = (.error (.error e), next, later) ∧
        next.failed = true ∧ done <+: Bytes.chunks size pending ∧
        next.HasSent library start before (blocks ++ done) later := by
  have comes := open_.toHolds.writeBlock world
  rw [← open_.chunks_pending] at comes
  exact comes.advances (sent.play within open_.sound _)

/-- A call that emits nothing but blocks. -/
theorem Open.performs_blocks {reached : List Bytes × Bytes} (open_ : writer.Open size reached.2)
    (sent : writer.HasSent library start before reached.1 world) (call : WriterCall)
    (emits : call.emissions size reached.2 = more.map .frame) :
    Performs library start before size reached call (writer.perform call world) := by
  have comes := open_.perform call world
  have advanced : (call.advance size reached).1 = reached.1 ++ more := by
    rw [WriterCall.advance, emits, Emission.blocks_map_frame]
  rw [emits] at comes
  rcases comes.advances (sent.play within open_.sound more) with
    ⟨next, later, outcome, opened, sent⟩ | ⟨e, next, later, done, outcome, failed, front, sent⟩
  · rw [outcome]
    exact .all opened (advanced ▸ sent)
  · rw [outcome]
    exact .lost failed (advanced ▸ (List.prefix_append_right_inj _).2 front) sent

theorem Open.performs {reached : List Bytes × Bytes} (open_ : writer.Open size reached.2)
    (sent : writer.HasSent library start before reached.1 world) (call : WriterCall) :
    Performs library start before size reached call (writer.perform call world) := by
  cases call with
  | write bytes => exact open_.performs_blocks within sent (.write bytes) rfl
  | writeAll bytes => exact open_.performs_blocks within sent (.writeAll bytes) rfl
  | flush =>
    have advanced : (WriterCall.flush.advance size reached).1 =
        reached.1 ++ Bytes.chunks size reached.2 := by
      rw [WriterCall.advance, WriterCall.emissions, Emission.blocks_append,
        Emission.blocks_map_frame, Emission.blocks, Emission.blocks, List.append_nil]
    rw [BlockWriter.perform, BlockWriter.flush]
    rcases open_.writeBlock_advances within sent with
      ⟨next, later, outcome, opened, sent⟩ | ⟨e, next, later, done, outcome, failed, front, sent⟩
    · rw [outcome]
      dsimp only
      rw [FrameWriter.flushSink_eq]
      have flushed := sent.flushed opened.sound
      rw [← advanced] at flushed
      rcases answered : next.sink.flush with ⟨e | _, after⟩
      · rw [answered] at flushed
        exact .unflushed rfl answered (opened.onto after) flushed
      · rw [answered] at flushed
        exact .all (opened.onto after) flushed
    · rw [outcome]
      exact .lost failed (advanced ▸ (List.prefix_append_right_inj _).2 front) sent

omit within

/-! ## All calls -/

/-- How a writer stands after calls, of which some may have failed. -/
inductive Reached (library : Library σ ι) (start : CodecState σ ι) (before : Bytes) (size : Nat)
    (calls : List WriterCall) (writer : BlockWriter σ ι) (world : World σ) : Prop
  | sound :
    writer.Open size (WriterCall.progress size calls).2 →
    writer.HasSent library start before (WriterCall.progress size calls).1 world →
    Reached library start before size calls writer world
  | failed {done : List Bytes} :
    writer.failed = true → done <+: (WriterCall.progress size calls).1 →
    writer.HasSent library start before done world →
    Reached library start before size calls writer world

include within

theorem Reached.perform (reached : Reached library start before size calls writer world)
    (call : WriterCall) :
    Reached library start before size (calls ++ [call]) (writer.perform call world).2.1
      (writer.perform call world).2.2 := by
  have step := WriterCall.progress_concat size calls call
  cases reached with
  | failed failed front sent =>
    rw [perform_of_failed failed]
    refine .failed failed ?_ sent
    rw [step]
    exact front.trans (List.prefix_append _ _)
  | sound open_ sent =>
    have performs := open_.performs within sent call
    generalize writer.perform call world = outcome at performs ⊢
    cases performs with
    | all opened sent => exact .sound (step ▸ opened) (step ▸ sent)
    | unflushed _ _ opened sent => exact .sound (step ▸ opened) (step ▸ sent)
    | lost failed front sent => exact .failed failed (step ▸ front) sent

theorem Reached.callEach (reached : Reached library start before size calls writer world)
    (more : List WriterCall) :
    Reached library start before size (calls ++ more) (writer.callEach more world).2.1
      (writer.callEach more world).2.2 := by
  induction more generalizing calls writer world with
  | nil =>
    rw [List.append_nil]
    exact reached
  | cons call more ih =>
    have later := ih (reached.perform within call)
    rw [List.append_assoc] at later
    exact later

omit within

/-! ## The end of a writer -/

/-- A writer of blocks is gone. It was closed when all of them were written, or when one was lost. -/
inductive Ended (library : Library σ ι) (start : CodecState σ ι) (before : Bytes)
    (blocks : List Bytes) : (lost : Bool) → Closed × World σ → Prop
  | whole {result : Except StreamFailure Unit} {last : BlockWriter σ ι} {after : World σ} :
    last.failed = false → last.HasSent library start before blocks after →
    Ended library start before blocks false (⟨result, last.sink⟩, last.close after)
  | lost {result : Except StreamFailure Unit} {done : List Bytes} {last : BlockWriter σ ι}
      {after : World σ} :
    last.failed = true → done <+: blocks → last.HasSent library start before done after →
    Ended library start before blocks true (⟨result, last.sink⟩, last.close after)

include within

/-- A writer that is finished reports an error if a block was lost. -/
theorem Reached.finish (reached : Reached library start before size calls writer world)
    (positive : 0 < size) :
    ∃ lost, Ended library start before (blocksOf size calls) lost (writer.finish world) ∧
      (lost = true → ∃ e, (writer.finish world).1.result = .error e) := by
  rw [← WriterCall.progress_chunks positive]
  cases reached with
  | failed failed front sent =>
    rw [finish_of_failed failed]
    exact ⟨true, .lost failed (front.trans (List.prefix_append _ _)) sent, fun _ => ⟨_, rfl⟩⟩
  | sound open_ sent =>
    rw [BlockWriter.finish]
    rcases open_.writeBlock_advances within sent with
      ⟨next, later, outcome, opened, sent⟩ | ⟨e, next, later, done, outcome, failed, front, sent⟩
    · rw [outcome]
      dsimp only
      rw [FrameWriter.flushSink_eq]
      have flushed := sent.flushed opened.sound
      rcases answered : next.sink.flush with ⟨e | _, after⟩
      · rw [answered] at flushed
        have idle := opened.onto after
        simp only [Except.mapError, discardAfter,
          discard_of_done (.inr ⟨idle.sound, idle.filled_eq⟩)]
        exact ⟨false, .whole idle.sound flushed, fun lost => absurd lost Bool.false_ne_true⟩
      · rw [answered] at flushed
        exact ⟨false, .whole (opened.onto after).sound flushed,
          fun lost => absurd lost Bool.false_ne_true⟩
    · rw [outcome]
      simp only [discardAfter, discard_of_done (.inl failed)]
      exact ⟨true, .lost failed ((List.prefix_append_right_inj _).2 front) sent,
        fun _ => ⟨_, rfl⟩⟩

/-- A writer that is dropped tries to write what it holds. -/
theorem Reached.discard (reached : Reached library start before size calls writer world)
    (positive : 0 < size) :
    ∃ lost, Ended library start before (blocksOf size calls) lost (writer.discard world) ∧
      (writer.discard world).1.result = .ok () := by
  rw [← WriterCall.progress_chunks positive]
  cases reached with
  | failed failed front sent =>
    rw [discard_of_done (.inl failed)]
    exact ⟨true, .lost failed (front.trans (List.prefix_append _ _)) sent, rfl⟩
  | sound open_ sent =>
    rw [BlockWriter.discard, if_neg (by simp [open_.sound])]
    rcases open_.writeBlock_advances within sent with
      ⟨next, later, outcome, opened, sent⟩ | ⟨e, next, later, done, outcome, failed, front, sent⟩
    · rw [outcome]
      exact ⟨false, .whole opened.sound sent, rfl⟩
    · rw [outcome]
      have front := (List.prefix_append_right_inj (WriterCall.progress size calls).1).2 front
      exact ⟨true, .lost failed front (sent.say _ _), rfl⟩

omit within

theorem create_reached (created : (create library sink options).runOn world = (.ok writer, opened)) :
    Reached library (freshState library options world) sink.received options.blockSize [] writer
      opened := by
  obtain ⟨-, open_, of_library, sink_eq, -⟩ := create_ok created
  refine .sound open_ ⟨of_library, ?_⟩
  have fresh := codecState_eq created
  rw [open_.sound, fresh, sink_eq]
  exact .whole rfl (List.append_nil _).symm

/-- Whatever a writer is called for, its sink holds whole frames of blocks in order, and behind them
at most a part of one more, if the sink has failed. A writer that has lost a block refuses every call,
and neither a call nor its end makes it compress or write again. As long as none is lost, the blocks
that are written and what is held make up the blocks of the calls, even if flushes of the sink have
failed. -/
theorem fails_for_good (within : library.entries.ReportsWithin)
    (created : (create library sink options).runOn world = (.ok writer, opened))
    (calls : List WriterCall) :
    let start := freshState library options world
    let given := blocksOf options.blockSize calls
    let last := (writer.callEach calls opened).2.1
    let after := (writer.callEach calls opened).2.2
    (∃ done pending,
      Sent library.entries start sink.received done last.sink (last.codecState after) last.failed ∧
      done <+: given ∧
      (last.failed = false → last.Open options.blockSize pending ∧
        done ++ Bytes.chunks options.blockSize pending = given)) ∧
    (last.failed = false → ∀ call answer next later,
      last.perform call after = (answer, next, later) →
      (next.failed = true ∧ ∃ e, answer = .error (.error e)) ∨
      (next.failed = false ∧ (answer = .ok call.answer ∨ call = .flush ∧
        ∃ (flushed : Sink) (e : IoError), flushed.flush = (.error e, next.sink) ∧
          answer = .error (.error e)))) ∧
    (last.failed = true →
      (∀ more, last.callEach more after = (more.map WriterCall.refusal, last, after)) ∧
      last.finish after = (⟨.error (.error .writerFailed), last.sink⟩, last.close after) ∧
      last.discard after = (⟨.ok (), last.sink⟩, last.close after)) ∧
    (∃ lost, Ended library start sink.received given lost (last.finish after) ∧
      (lost = true → ∃ e, (last.finish after).1.result = .error e)) ∧
    (∃ lost, Ended library start sink.received given lost (last.discard after) ∧
      (last.discard after).1.result = .ok ()) := by
  intro start given last after
  have positive := (create_ok created).2.1.positive
  have reached : Reached library start sink.received options.blockSize calls last after :=
    (create_reached created).callEach within calls
  refine ⟨?_, ?_, ?_, reached.finish within positive, reached.discard within positive⟩
  · have given_eq := WriterCall.progress_chunks positive calls
    cases reached with
    | sound open_ sent =>
      exact ⟨_, _, sent.sent, ⟨_, given_eq⟩, fun _ => ⟨open_, given_eq⟩⟩
    | failed failed front sent =>
      refine ⟨_, [], sent.sent, front.trans ⟨_, given_eq⟩, fun sound => ?_⟩
      cases failed.symm.trans sound
  · intro sound call answer next later performed
    cases reached with
    | failed failed => cases failed.symm.trans sound
    | sound open_ sent =>
      have performs := open_.performs within sent call
      rw [performed] at performs
      cases performs with
      | all opened => exact .inr ⟨opened.sound, .inl rfl⟩
      | unflushed flush flushed opened =>
        exact .inr ⟨opened.sound, .inr ⟨flush, _, _, flushed, rfl⟩⟩
      | lost failed => exact .inl ⟨failed, _, rfl⟩
  · intro failed
    exact ⟨fun more => callEach_of_failed failed more after, finish_of_failed failed after,
      discard_of_done (.inl failed)⟩

/-- The sink has room for a header and no more. -/
theorem fails_for_good_stored :
    let sink : Sink := { room := some ⟨4, "disk hiccup"⟩ }
    let writer : BlockWriter Simulated.State UInt32 :=
      { session := .new Simulated.library, sink
        block := .heap (.zeros 2)
        compressed := .heap (.zeros (Simulated.library.boundFor 2 {})) }
    let opened := Simulated.library.asked 2 { native := {} }
    let last := (writer.callEach [.write [1, 2, 3]] opened).2.1
    let after := (writer.callEach [.write [1, 2, 3]] opened).2.2
    last.failed = true ∧ last.sink.received = [10, 0, 0, 0] ∧
      last.callEach [.write [], .flush] after =
        ([.error (.error .writerFailed), .error (.error .writerFailed)], last, after) ∧
      last.finish after = (⟨.error (.error .writerFailed), last.sink⟩, last.close after) := by
  intro sink writer opened last after
  have created : (create Simulated.library sink { blockSize := 2 }).runOn { native := {} } =
      (.ok writer, opened) := by
    have usable : StreamOptions.isUsable ({ blockSize := 2 } : StreamOptions).blockSize = true := by
      decide
    rw [runOn_create, if_pos usable, Scratch.allocatePair_heap _ _ _ _ rfl]
  have failed : last.failed = true := by decide +kernel
  have received : last.sink.received = [10, 0, 0, 0] := by decide +kernel
  -- The run has been evaluated, and is not to be evaluated again.
  clear_value writer opened
  obtain ⟨-, -, inert, -⟩ := fails_for_good Simulated.reportsWithin created [.write [1, 2, 3]]
  obtain ⟨refuses, finishes, -⟩ := inert failed
  exact ⟨failed, received, refuses [.write [], .flush], finishes⟩

end BlockWriter

end OffloadCodec

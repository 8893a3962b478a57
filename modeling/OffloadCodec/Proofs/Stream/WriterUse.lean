import OffloadCodec.Proofs.Stream.Collecting

/-!
# A writer used to its end

`BlockWriter.complete` makes calls on a writer and ends it, and stops at the first failure; the last
block of a writer that is dropped counts as well. `BlockWriter.use` makes the writer too. Its
emissions are worked out from the calls alone (`BlockWriter.Open.complete`), and the blocks in them
are those of the runs of bytes between flushes (`blocks_emitted`).
-/

namespace OffloadCodec

inductive WriterCall
  | write (bytes : Bytes)
  | writeAll (bytes : Bytes)
  | flush

inductive WriterEnd
  /-- The sink is taken back; there are two names for that. -/
  | finish
  /-- The writer goes away without being finished. -/
  | drop

namespace WriterCall

/-- The bytes that a call hands over. -/
def bytes : WriterCall → Bytes
  | write bytes => bytes
  | writeAll bytes => bytes
  | flush => []

/-- What a call that succeeds returns. -/
def answer : WriterCall → Option Nat
  | write bytes => some bytes.length
  | writeAll _ => none
  | flush => none

/-- The runs of bytes between flushes, of which the first one starts with `run`. -/
def runsFrom (run : Bytes) : List WriterCall → List Bytes
  | [] => [run]
  | flush :: calls => run :: runsFrom [] calls
  | write bytes :: calls => runsFrom (run ++ bytes) calls
  | writeAll bytes :: calls => runsFrom (run ++ bytes) calls

/-- The runs of bytes that are handed over between consecutive flushes, or the end. -/
def runs (calls : List WriterCall) : List Bytes := runsFrom [] calls

theorem flatten_runsFrom (run : Bytes) (calls : List WriterCall) :
    (runsFrom run calls).flatten = run ++ calls.flatMap bytes := by
  induction calls generalizing run with
  | nil => simp only [runsFrom, List.flatten_cons, List.flatten_nil, List.flatMap_nil]
  | cons call calls ih =>
    cases call with
    | flush => simp only [runsFrom, List.flatten_cons, ih, List.flatMap_cons, bytes]
    | write more => simp only [runsFrom, ih, List.flatMap_cons, bytes, List.append_assoc]
    | writeAll more => simp only [runsFrom, ih, List.flatMap_cons, bytes, List.append_assoc]

/-- What a call on a writer of blocks of `size` bytes emits while the writer holds `pending`. -/
def emissions (size : Nat) (pending : Bytes) : WriterCall → List Emission
  | write bytes => (Bytes.whole size (pending ++ bytes)).map .frame
  | writeAll bytes => (Bytes.whole size (pending ++ bytes)).map .frame
  | flush => (Bytes.chunks size pending).map .frame ++ [.flush]

/-- What the writer holds after a call. -/
def leaves (size : Nat) (pending : Bytes) : WriterCall → Bytes
  | write bytes => Bytes.leftover size (pending ++ bytes)
  | writeAll bytes => Bytes.leftover size (pending ++ bytes)
  | flush => []

end WriterCall

/-- What the end of a writer emits. -/
def WriterEnd.emissions (size : Nat) (pending : Bytes) : WriterEnd → List Emission
  | finish => (Bytes.chunks size pending).map .frame ++ [.flush]
  | drop => (Bytes.chunks size pending).map .frame

namespace WriterCall

/-- The emissions of all calls and of the end. -/
def emitted (size : Nat) (pending : Bytes) : List WriterCall → WriterEnd → List Emission
  | [], ending => ending.emissions size pending
  | call :: calls, ending =>
    call.emissions size pending ++ emitted size (call.leaves size pending) calls ending

/-- A writer that holds what is left over of a run has emitted the whole blocks of the run, and emits
the rest of the chunks of all runs. -/
theorem whole_append_blocks_emitted {size : Nat} (positive : 0 < size) (run : Bytes)
    (calls : List WriterCall) (ending : WriterEnd) :
    Bytes.whole size run ++
        Emission.blocks (emitted size (Bytes.leftover size run) calls ending) =
      (runsFrom run calls).flatMap (Bytes.chunks size) := by
  induction calls generalizing run with
  | nil =>
    have chunks := Bytes.chunks_eq_whole_append positive run
    cases ending with
    | finish => simp only [emitted, WriterEnd.emissions, Emission.blocks_append,
        Emission.blocks_map_frame, Emission.blocks, List.append_nil, runsFrom, List.flatMap_cons,
        List.flatMap_nil, chunks]
    | drop => simp only [emitted, WriterEnd.emissions, Emission.blocks_map_frame, runsFrom,
        List.flatMap_cons, List.flatMap_nil, List.append_nil, chunks]
  | cons call calls ih =>
    have more : ∀ bytes, Bytes.whole size run ++
        Emission.blocks ((Bytes.whole size (Bytes.leftover size run ++ bytes)).map .frame ++
          emitted size (Bytes.leftover size (Bytes.leftover size run ++ bytes)) calls ending) =
        (runsFrom (run ++ bytes) calls).flatMap (Bytes.chunks size) := by
      intro bytes
      rw [← ih, Emission.blocks_append, Emission.blocks_map_frame, ← List.append_assoc,
        ← Bytes.whole_append positive, ← Bytes.leftover_append positive]
    cases call with
    | flush =>
      have later := ih []
      rw [Bytes.whole_of_lt positive, Bytes.leftover_of_lt positive, List.nil_append] at later
      simp only [emitted, emissions, leaves, Emission.blocks_append, Emission.blocks_map_frame,
        Emission.blocks, List.append_nil, runsFrom, List.flatMap_cons, later]
      rw [← List.append_assoc, ← Bytes.chunks_eq_whole_append positive]
    | write bytes => exact more bytes
    | writeAll bytes => exact more bytes

/-- A new writer emits the chunks of every run, in order. -/
theorem blocks_emitted {size : Nat} (positive : 0 < size) (calls : List WriterCall)
    (ending : WriterEnd) :
    Emission.blocks (emitted size [] calls ending) =
      (runs calls).flatMap (Bytes.chunks size) := by
  have blocks := whole_append_blocks_emitted positive [] calls ending
  rwa [Bytes.whole_of_lt positive, Bytes.leftover_of_lt positive, List.nil_append] at blocks

end WriterCall

namespace BlockWriter

variable {σ ι : Type} {writer writer' : BlockWriter σ ι} {world world' : World σ} {size : Nat}
  {pending : Bytes}

/-- Makes a call. -/
def perform (writer : BlockWriter σ ι) (call : WriterCall) (world : World σ) :
    Except StreamFailure (Option Nat) × BlockWriter σ ι × World σ :=
  match call with
  | .write bytes =>
    match writer.write bytes world with
    | (.ok n, writer, world) => (.ok (some n), writer, world)
    | (.error e, writer, world) => (.error e, writer, world)
  | .writeAll bytes =>
    match writer.writeAll bytes world with
    | (.ok (), writer, world) => (.ok none, writer, world)
    | (.error e, writer, world) => (.error e, writer, world)
  | .flush =>
    match writer.flush world with
    | (.ok (), writer, world) => (.ok none, writer, world)
    | (.error e, writer, world) => (.error e, writer, world)

/-- Makes calls until one fails. -/
def performEach (writer : BlockWriter σ ι) : List WriterCall → World σ →
    Except StreamFailure (List (Option Nat)) × BlockWriter σ ι × World σ
  | [], world => (.ok [], writer, world)
  | call :: calls, world =>
    match writer.perform call world with
    | (.error e, writer, world) => (.error e, writer, world)
    | (.ok answer, writer, world) =>
      match performEach writer calls world with
      | (.error e, writer, world) => (.error e, writer, world)
      | (.ok answers, writer, world) => (.ok (answer :: answers), writer, world)

/-- Ends a writer. A drop does not report that the last block failed; here that is its result. -/
def endWith (writer : BlockWriter σ ι) (ending : WriterEnd) (world : World σ) :
    Closed × World σ :=
  match ending with
  | .finish => writer.finish world
  | .drop =>
    let (closed, after) := writer.discard world
    (⟨(writer.writeBlock world).1, closed.sink⟩, after)

/-- Makes calls on a writer and ends it, unless something fails: the answers to the calls, and the
sink. -/
def complete (writer : BlockWriter σ ι) (calls : List WriterCall) (ending : WriterEnd)
    (world : World σ) : Except StreamFailure (List (Option Nat)) × Sink × World σ :=
  match writer.performEach calls world with
  | (.error e, writer, world) => (.error e, writer.sink, world)
  | (.ok answers, writer, world) =>
    match writer.endWith ending world with
    | (⟨.error e, sink⟩, world) => (.error e, sink, world)
    | (⟨.ok (), sink⟩, world) => (.ok answers, sink, world)

/-- Makes a writer, uses it to its end, and returns what the calls answered and the sink. -/
def use (library : Library σ ι) (sink : Sink) (options : StreamOptions)
    (calls : List WriterCall) (ending : WriterEnd) (world : World σ) :
    Except StreamFailure (List (Option Nat)) × Sink × World σ :=
  match (create library sink options).runOn world with
  | (.error e, world) => (.error e, sink, world)
  | (.ok writer, world) => writer.complete calls ending world

/-! ## The end of a writer -/

/-- How a frame writer stands after its emissions, as the end of a block writer. -/
def Closed.after (played : Except StreamFailure Unit × FrameWriter σ ι × World σ) : Closed :=
  ⟨played.1, played.2.1.sink⟩

theorem failed_of_writeBlock_error {e : IoError}
    (lost : writer.writeBlock world = (.error (.error e), writer', world')) :
    writer'.failed = true := by
  unfold writeBlock at lost
  split at lost
  · next marked =>
    simp only [Prod.mk.injEq] at lost
    rw [← lost.2.1, marked]
  · split at lost
    · simp at lost
    · split at lost
      · simp at lost
      · next frames after wrote =>
        obtain ⟨rfl, rfl, -⟩ := by simpa only [Prod.mk.injEq, Except.error.injEq] using lost
        exact FrameWriter.failed_of_writeFrame_error wrote

/-- A writer that has nothing left to emit is only closed when it is discarded. -/
theorem discard_of_done
    (done : writer.failed = true ∨ writer.failed = false ∧ writer.filled = 0) :
    writer.discard world = (⟨.ok (), writer.sink⟩, writer.close world) := by
  rcases done with failed | ⟨sound, empty⟩
  · simp only [discard, failed, if_true]
  · simp only [discard, sound, writeBlock, empty, if_true, Bool.false_eq_true, if_false]

/-- A writer that has nothing left to emit reports the error that it is discarded after. -/
theorem discardAfter_of_done {failure : StreamFailure}
    (done : writer.failed = true ∨ writer.failed = false ∧ writer.filled = 0) :
    (writer.discardAfter failure world).1 = ⟨.error failure, writer.sink⟩ := by
  cases failure with
  | overrun => rfl
  | error e => simp only [discardAfter, discard_of_done done]

/-- A writer that could not emit its last block reports that. -/
theorem discardAfter_of_lost {failure : StreamFailure}
    (lost : writer.writeBlock world = (.error failure, writer', world')) :
    (writer'.discardAfter failure world').1 = ⟨.error failure, writer'.sink⟩ := by
  cases failure with
  | overrun => rfl
  | error e => exact discardAfter_of_done (.inl (failed_of_writeBlock_error lost))

theorem Open.finish (open_ : writer.Open size pending) (world : World σ) :
    (writer.finish world).1 =
      Closed.after (writer.play (WriterEnd.finish.emissions size pending) world) := by
  have emitted := open_.toHolds.writeBlock world
  rw [BlockWriter.finish, WriterEnd.emissions, FrameWriter.play_append, open_.chunks_pending]
  rcases wrote : writer.writeBlock world with ⟨result, last, after⟩
  rw [wrote] at emitted
  generalize writer.play _ world = played at emitted ⊢
  cases emitted with
  | error => exact discardAfter_of_lost wrote
  | ok opened =>
    simp only [FrameWriter.play]
    rcases flushed : last.flushSink with ⟨_ | _, frames⟩
    · have unmarked : frames.failed = last.failed := by
        unfold FrameWriter.flushSink at flushed
        split at flushed
        · simp at flushed
        · simp only [Prod.mk.injEq] at flushed
          rw [← flushed.2]
      exact discardAfter_of_done (.inr ⟨unmarked.trans opened.sound, opened.filled_eq⟩)
    · rfl

theorem Open.drop (open_ : writer.Open size pending) (world : World σ) :
    (writer.endWith .drop world).1 =
      Closed.after (writer.play (WriterEnd.drop.emissions size pending) world) := by
  have emitted := open_.toHolds.writeBlock world
  rw [endWith, WriterEnd.emissions, open_.chunks_pending]
  simp only [discard, open_.sound, Bool.false_eq_true, if_false]
  rcases wrote : writer.writeBlock world with ⟨result, last, after⟩
  rw [wrote] at emitted
  generalize writer.play _ world = played at emitted ⊢
  cases emitted with
  | ok opened => rfl
  | @error e =>
    cases e with
    | error => rfl
    | overrun => rfl

theorem Open.endWith (open_ : writer.Open size pending) (ending : WriterEnd) (world : World σ) :
    (writer.endWith ending world).1 =
      Closed.after (writer.play (ending.emissions size pending) world) := by
  cases ending with
  | finish => exact open_.finish world
  | drop => exact open_.drop world

/-! ## All calls -/

theorem Open.perform (open_ : writer.Open size pending) (call : WriterCall) (world : World σ) :
    ComesTo call.answer size (call.leaves size pending) (writer.perform call world)
      (writer.play (call.emissions size pending) world) := by
  cases call with
  | write bytes =>
    have wrote := open_.write bytes world
    rw [BlockWriter.perform, WriterCall.emissions]
    generalize writer.write bytes world = outcome at wrote ⊢
    generalize writer.play _ world = played at wrote ⊢
    cases wrote with
    | ok opened => exact .ok opened
    | error => exact .error
  | writeAll bytes =>
    have wrote := open_.writeAll bytes world
    rw [BlockWriter.perform, WriterCall.emissions]
    generalize writer.writeAll bytes world = outcome at wrote ⊢
    generalize writer.play _ world = played at wrote ⊢
    cases wrote with
    | ok opened => exact .ok opened
    | error => exact .error
  | flush =>
    have flushed := open_.flush world
    rw [BlockWriter.perform, WriterCall.emissions]
    generalize writer.flush world = outcome at flushed ⊢
    generalize writer.play _ world = played at flushed ⊢
    cases flushed with
    | ok opened => exact .ok opened
    | error => exact .error

theorem complete_cons (writer : BlockWriter σ ι) (call : WriterCall) (calls : List WriterCall)
    (ending : WriterEnd) (world : World σ) :
    writer.complete (call :: calls) ending world =
      match writer.perform call world with
      | (.error e, writer, world) => (.error e, writer.sink, world)
      | (.ok answer, writer, world) =>
        match writer.complete calls ending world with
        | (.error e, sink, world) => (.error e, sink, world)
        | (.ok answers, sink, world) => (.ok (answer :: answers), sink, world) := by
  simp only [complete, performEach]
  rcases writer.perform call world with ⟨_ | answer, second, world⟩
  · rfl
  · dsimp only
    rcases second.performEach calls world with ⟨_ | answers, last, world⟩
    · rfl
    · dsimp only
      rcases last.endWith ending world with ⟨⟨_ | _, sink⟩, world⟩
      · rfl
      · rfl

/-- A writer that is used to its end succeeds if its emissions do, with these answers, and its sink
stands where they leave it. -/
theorem Open.complete (open_ : writer.Open size pending) (calls : List WriterCall)
    (ending : WriterEnd) (world : World σ) :
    (writer.complete calls ending world).1 =
        (writer.play (WriterCall.emitted size pending calls ending) world).1.map
          (fun _ => calls.map WriterCall.answer) ∧
      (writer.complete calls ending world).2.1 =
        (writer.play (WriterCall.emitted size pending calls ending) world).2.1.sink := by
  induction calls generalizing writer pending world with
  | nil =>
    have ended := open_.endWith ending world
    simp only [BlockWriter.complete, performEach, WriterCall.emitted]
    generalize writer.play _ world = played at ended ⊢
    generalize writer.endWith ending world = outcome at ended ⊢
    obtain ⟨closed, after⟩ := outcome
    obtain ⟨_ | _, frames, last⟩ := played
    · obtain rfl : closed = _ := ended
      exact ⟨rfl, rfl⟩
    · obtain rfl : closed = _ := ended
      exact ⟨rfl, rfl⟩
  | cons call calls ih =>
    have called := open_.perform call world
    rw [complete_cons, WriterCall.emitted, FrameWriter.play_append]
    generalize writer.perform call world = outcome at called ⊢
    generalize writer.play (call.emissions size pending) world = played at called ⊢
    cases called with
    | error => exact ⟨rfl, rfl⟩
    | @ok writer world opened =>
      have later := ih opened world
      dsimp only
      generalize writer.play _ world = played at later ⊢
      generalize writer.complete calls ending world = completed at later ⊢
      obtain ⟨completed, sink, after⟩ := completed
      obtain ⟨_ | _, frames, last⟩ := played
      · obtain rfl : completed = _ := later.1
        exact ⟨rfl, later.2⟩
      · obtain rfl : completed = _ := later.1
        exact ⟨rfl, later.2⟩

end BlockWriter

end OffloadCodec

import OffloadCodec.Proofs.Calls.Trails
import OffloadCodec.Proofs.Stream.Creation
import OffloadCodec.Proofs.Stream.LostFrames
import OffloadCodec.Proofs.Stream.WriterUse
import OffloadCodec.Stream.Reader

/-!
# The calls of readers and writers

Every operation of a `BlockWriter` or a `BlockReader` serves its bench: all that it does to the
library is a trail of codec calls of its session, and a call that is refused is its result. The end
of a writer makes such calls too, for its last block, and then gives the bench up
(`BlockWriter.finish_gone`, `BlockWriter.discard_gone`).

A writer that has returned an error is marked, so its end makes no codec call
(`BlockWriter.discardAfter_gone`). A writer stops the program only if the library has reported a length
beyond the capacity (`BlockWriter.writeAll_ne_overrun`).

What a session, a writer or a reader does when it is closed keeps every property of the world that
giving memory back and ending sessions keep (`Library.Closes`).
-/

namespace OffloadCodec

variable {σ ι : Type}

/-! ## Stopping -/

theorem StreamFailure.ok_ne_overrun {α : Type} (a : α) :
    (.ok a : Except StreamFailure α) ≠ .error .overrun := by
  intro stopped
  cases stopped

theorem StreamFailure.error_ne_overrun {α : Type} (e : IoError) :
    (.error (.error e) : Except StreamFailure α) ≠ .error .overrun := by
  intro stopped
  cases stopped

/-- A failure that is passed on in place of another result is no other failure. -/
theorem StreamFailure.passed_ne_overrun {α β : Type} {failure : StreamFailure}
    (goes : (.error failure : Except StreamFailure α) ≠ .error .overrun) :
    (.error failure : Except StreamFailure β) ≠ .error .overrun :=
  fun stopped => goes (congrArg Except.error (Except.error.inj stopped))

/-! ## Frame writers -/

namespace FrameWriter

/-- The writer's session and buffer, and another buffer. -/
def bench (writer : FrameWriter σ ι) (block : Option Address) : Bench σ ι :=
  ⟨writer.session, block, writer.compressed.address?⟩

theorem compressBlock_works (writer : FrameWriter σ ι) (place : Option Address) (block : Bytes)
    (world : World σ) :
    ∃ refused,
      (writer.bench place).Works world refused
        ((writer.compressBlock block world).2.1.bench place) (writer.compressBlock block world).2.2 ∧
      Refuses id refused (writer.compressBlock block world).1 := by
  obtain ⟨refused, continues, refuses⟩ := writer.session.compress_continues
    (.whole (.ofBytes block)) (.whole writer.compressed.memory) world
  have same := writer.compressed.address?_withMemory
    (writer.session.compress (.whole (.ofBytes block)) (.whole writer.compressed.memory)
      world).output.memory
  rw [compressBlock]
  generalize writer.session.compress (.whole (.ofBytes block)) (.whole writer.compressed.memory)
    world = served at continues refuses same ⊢
  obtain ⟨e | n, session, output, after⟩ := served
  · exact ⟨refused, ⟨continues, rfl, same⟩,
      refuses.map id fun _ failed => congrArg Except.error (Except.error.inj failed)⟩
  · exact ⟨refused, ⟨continues, rfl, same⟩, refuses.ok _ _⟩

/-- Emitting makes no call. -/
theorem bench_emit (writer : FrameWriter σ ι) (place : Option Address) (n : Nat) :
    (writer.emit n).2.bench place = writer.bench place := by
  rw [emit]
  rcases writer.sink.writeAll (Bytes.le32 n) with ⟨_ | _, headed⟩
  · rfl
  · dsimp only
    split
    · rfl
    · rcases headed.writeAll (writer.compressed.memory.read 0 n) with ⟨_ | _, sent⟩
      · rfl
      · rfl

theorem bench_flushSink (writer : FrameWriter σ ι) (place : Option Address) :
    writer.flushSink.2.bench place = writer.bench place := by
  rw [flushSink]
  rcases writer.sink.flush with ⟨_ | _, flushed⟩
  · rfl
  · rfl

/-- Flushing the sink does not mark the writer. -/
theorem failed_flushSink (writer : FrameWriter σ ι) : writer.flushSink.2.failed = writer.failed := by
  rw [flushSink]
  rcases writer.sink.flush with ⟨_ | _, flushed⟩
  · rfl
  · rfl

theorem writeFrame_serves (writer : FrameWriter σ ι) (place : Option Address) (block : Bytes)
    (world : World σ) :
    (writer.bench place).Serves world (writer.writeFrame block world).1
      ((writer.writeFrame block world).2.1.bench place) (writer.writeFrame block world).2.2 := by
  obtain ⟨refused, works, refuses⟩ := writer.compressBlock_works place block world
  rw [writeFrame]
  generalize writer.compressBlock block world = outcome at works refuses ⊢
  obtain ⟨e | n, compressed, after⟩ := outcome
  · exact ⟨refused, works, refuses.map _ fun _ failed => Except.error.inj failed ▸ rfl⟩
  · rw [refuses.eq_none] at works
    refine ⟨none, ?_, .none _ _⟩
    dsimp only
    rw [bench_emit]
    exact works.say 4 _

/-- Flushing does not stop the program either. -/
theorem flushSink_ne_overrun (writer : FrameWriter σ ι) :
    writer.flushSink.1 ≠ .error .overrun := by
  rw [flushSink_eq]
  rcases writer.sink.flush with ⟨e | _, flushed⟩
  · exact StreamFailure.error_ne_overrun e
  · exact StreamFailure.ok_ne_overrun ()

/-- If lengths are reported within the capacity then no frame stops the program. -/
theorem writeFrame_ne_overrun {writer : FrameWriter σ ι}
    (within : writer.session.library.entries.ReportsWithin) (block : Bytes) (world : World σ) :
    (writer.writeFrame block world).1 ≠ .error .overrun := by
  have unstopped := within.compressNext_ne_overrun (writer.codecState world) block
  rw [writeFrame]
  rcases compressed : writer.compressBlock block world with ⟨e | n, next, later⟩
  · exact StreamFailure.error_ne_overrun _
  · obtain ⟨taken, -⟩ := compressBlock_follows compressed
    rw [← taken] at unstopped
    have front := Memory.takeFront_of_ne_overrun unstopped
    dsimp only
    rcases emitted : next.emit n with ⟨failure | _, last⟩
    · obtain ⟨-, -, -, -, e, rfl, -⟩ := emit_error front emitted
      exact StreamFailure.error_ne_overrun e
    · exact StreamFailure.ok_ne_overrun ()

end FrameWriter

/-! ## Writers -/

namespace BlockWriter

variable {writer : BlockWriter σ ι} {world : World σ}

/-- The writer's session and its two buffers. -/
def bench (writer : BlockWriter σ ι) : Bench σ ι :=
  writer.toFrameWriter.bench writer.block.address?

theorem writeBlock_serves (writer : BlockWriter σ ι) (world : World σ) :
    writer.bench.Serves world (writer.writeBlock world).1 (writer.writeBlock world).2.1.bench
      (writer.writeBlock world).2.2 := by
  rw [writeBlock]
  split
  · exact .idle _ _ _
  split
  · exact .idle _ _ _
  have serves := writer.writeFrame_serves writer.block.address?
    (writer.block.memory.read 0 writer.filled) world
  generalize writer.writeFrame (writer.block.memory.read 0 writer.filled) world = outcome
    at serves ⊢
  obtain ⟨e | _, frames, after⟩ := outcome
  · exact serves
  · exact serves

theorem put_serves (writer : BlockWriter σ ι) (piece : Bytes) (world : World σ) :
    writer.bench.Serves world (writer.put piece world).1 (writer.put piece world).2.1.bench
      (writer.put piece world).2.2 := by
  have same : ({ writer with
      block := writer.block.withMemory (writer.block.memory.write writer.filled piece)
      filled := writer.filled + piece.length } : BlockWriter σ ι).bench = writer.bench := by
    rw [bench, bench, Scratch.address?_withMemory]
  rw [put]
  dsimp only
  rw [← same]
  split
  · exact writeBlock_serves _ world
  · exact .idle _ _ _

theorem putAll_serves (writer : BlockWriter σ ι) (pieces : List Bytes) (world : World σ) :
    writer.bench.Serves world (writer.putAll pieces world).1 (writer.putAll pieces world).2.1.bench
      (writer.putAll pieces world).2.2 := by
  induction pieces generalizing writer world with
  | nil => exact .idle _ _ _
  | cons piece pieces ih =>
    have first := writer.put_serves piece world
    rw [putAll]
    generalize writer.put piece world = outcome at first ⊢
    obtain ⟨e | _, middle, between⟩ := outcome
    · exact first
    · exact first.then (ih middle between)

theorem write_serves (writer : BlockWriter σ ι) (bytes : Bytes) (world : World σ) :
    writer.bench.Serves world (writer.write bytes world).1 (writer.write bytes world).2.1.bench
      (writer.write bytes world).2.2 := by
  rw [write]
  split
  · exact .idle _ _ _
  have serves := writer.putAll_serves
    (Bytes.pieces (writer.block.size - writer.filled) writer.block.size bytes) world
  dsimp only
  generalize writer.putAll (Bytes.pieces (writer.block.size - writer.filled) writer.block.size
    bytes) world = outcome at serves ⊢
  obtain ⟨e | _, next, later⟩ := outcome
  · exact serves.error
  · exact serves.ok _

theorem writeAll_serves (writer : BlockWriter σ ι) (bytes : Bytes) (world : World σ) :
    writer.bench.Serves world (writer.writeAll bytes world).1
      (writer.writeAll bytes world).2.1.bench (writer.writeAll bytes world).2.2 := by
  rw [writeAll]
  split
  · exact .idle _ _ _
  have serves := writer.write_serves bytes world
  generalize writer.write bytes world = outcome at serves ⊢
  obtain ⟨e | n, next, later⟩ := outcome
  · exact serves.error
  · exact serves.ok _

theorem flush_serves (writer : BlockWriter σ ι) (world : World σ) :
    writer.bench.Serves world (writer.flush world).1 (writer.flush world).2.1.bench
      (writer.flush world).2.2 := by
  have serves := writer.writeBlock_serves world
  rw [flush]
  generalize writer.writeBlock world = outcome at serves ⊢
  obtain ⟨e | _, next, later⟩ := outcome
  · exact serves
  · have same := next.bench_flushSink next.block.address?
    change writer.bench.Serves world _ (next.flushSink.2.bench next.block.address?) later
    rw [same]
    exact serves.ok _

theorem perform_serves (writer : BlockWriter σ ι) (call : WriterCall) (world : World σ) :
    writer.bench.Serves world (writer.perform call world).1 (writer.perform call world).2.1.bench
      (writer.perform call world).2.2 := by
  cases call with
  | write bytes =>
    have serves := writer.write_serves bytes world
    rw [perform]
    generalize writer.write bytes world = outcome at serves ⊢
    obtain ⟨e | n, next, later⟩ := outcome
    · exact serves.error
    · exact serves.ok _
  | writeAll bytes =>
    have serves := writer.writeAll_serves bytes world
    rw [perform]
    generalize writer.writeAll bytes world = outcome at serves ⊢
    obtain ⟨e | _, next, later⟩ := outcome
    · exact serves.error
    · exact serves.ok _
  | flush =>
    have serves := writer.flush_serves world
    rw [perform]
    generalize writer.flush world = outcome at serves ⊢
    obtain ⟨e | _, next, later⟩ := outcome
    · exact serves.error
    · exact serves.ok _

/-! ## Lengths within the capacity -/

section ReportsWithin

variable (within : writer.session.library.entries.ReportsWithin)
include within

theorem writeBlock_ne_overrun (world : World σ) :
    (writer.writeBlock world).1 ≠ .error .overrun := by
  rw [writeBlock]
  split
  · exact StreamFailure.error_ne_overrun _
  split
  · exact StreamFailure.ok_ne_overrun ()
  have stays := FrameWriter.writeFrame_ne_overrun within
    (writer.block.memory.read 0 writer.filled) world
  generalize writer.writeFrame (writer.block.memory.read 0 writer.filled) world = outcome
    at stays ⊢
  obtain ⟨e | _, frames, after⟩ := outcome
  · exact stays
  · exact StreamFailure.ok_ne_overrun _

theorem put_ne_overrun (piece : Bytes) (world : World σ) :
    (writer.put piece world).1 ≠ .error .overrun := by
  rw [put]
  dsimp only
  split
  · refine writeBlock_ne_overrun ?_ world
    exact within
  · exact StreamFailure.ok_ne_overrun _

theorem putAll_ne_overrun (pieces : List Bytes) (world : World σ) :
    (writer.putAll pieces world).1 ≠ .error .overrun := by
  induction pieces generalizing writer world with
  | nil => exact StreamFailure.ok_ne_overrun _
  | cons piece pieces ih =>
    have stays := put_ne_overrun within piece world
    have serves := writer.put_serves piece world
    rw [putAll]
    generalize writer.put piece world = outcome at stays serves ⊢
    obtain ⟨e | _, middle, between⟩ := outcome
    · exact stays
    · have same : middle.session.library = writer.session.library := serves.works.session.library
      rw [← same] at within
      exact ih within between

theorem write_ne_overrun (bytes : Bytes) (world : World σ) :
    (writer.write bytes world).1 ≠ .error .overrun := by
  rw [write]
  split
  · exact StreamFailure.error_ne_overrun _
  have stays := putAll_ne_overrun within
    (Bytes.pieces (writer.block.size - writer.filled) writer.block.size bytes) world
  dsimp only
  generalize writer.putAll _ world = outcome at stays ⊢
  obtain ⟨e | _, next, later⟩ := outcome
  · exact StreamFailure.passed_ne_overrun stays
  · exact StreamFailure.ok_ne_overrun _

/-- If lengths are reported within the capacity then no writer stops the program. -/
theorem writeAll_ne_overrun (bytes : Bytes) (world : World σ) :
    (writer.writeAll bytes world).1 ≠ .error .overrun := by
  rw [writeAll]
  split
  · exact StreamFailure.ok_ne_overrun _
  have stays := write_ne_overrun within bytes world
  generalize writer.write bytes world = outcome at stays ⊢
  obtain ⟨e | n, next, later⟩ := outcome
  · exact StreamFailure.passed_ne_overrun stays
  · exact StreamFailure.ok_ne_overrun _

end ReportsWithin

/-! ## Writers that are marked -/

theorem failed_of_put_error {piece : Bytes} {e : IoError} {next : BlockWriter σ ι} {later : World σ}
    (failed : writer.put piece world = (.error (.error e), next, later)) : next.failed = true := by
  unfold put at failed
  dsimp only at failed
  split at failed
  · exact failed_of_writeBlock_error failed
  · cases failed

theorem failed_of_putAll_error {pieces : List Bytes} {e : IoError} {next : BlockWriter σ ι}
    {later : World σ} (failed : writer.putAll pieces world = (.error (.error e), next, later)) :
    next.failed = true := by
  induction pieces generalizing writer world with
  | nil => cases failed
  | cons piece pieces ih =>
    rw [putAll] at failed
    rcases first : writer.put piece world with ⟨e' | _, middle, between⟩
    · rw [first] at failed
      obtain ⟨rfl, rfl, rfl⟩ := by simpa only [Prod.mk.injEq, Except.error.injEq] using failed
      exact failed_of_put_error first
    · rw [first] at failed
      exact ih failed

theorem failed_of_write_error {bytes : Bytes} {e : IoError} {next : BlockWriter σ ι}
    {later : World σ} (failed : writer.write bytes world = (.error (.error e), next, later)) :
    next.failed = true := by
  unfold write at failed
  split at failed
  · next marked => exact (congrArg (fun outcome => outcome.2.1.failed) failed).symm.trans marked
  dsimp only at failed
  split at failed
  · cases failed
  · next all =>
    obtain ⟨rfl, rfl, rfl⟩ := by simpa only [Prod.mk.injEq, Except.error.injEq] using failed
    exact failed_of_putAll_error all

/-- A writer that cannot take bytes is marked. -/
theorem failed_of_writeAll_error {bytes : Bytes} {e : IoError} {next : BlockWriter σ ι}
    {later : World σ} (failed : writer.writeAll bytes world = (.error (.error e), next, later)) :
    next.failed = true := by
  unfold writeAll at failed
  split at failed
  · cases failed
  split at failed
  · cases failed
  · next refused =>
    obtain ⟨rfl, rfl, rfl⟩ := by simpa only [Prod.mk.injEq, Except.error.injEq] using failed
    exact failed_of_write_error refused

/-- Nothing is held behind a block that was written. -/
theorem done_of_writeBlock_ok {next : BlockWriter σ ι} {later : World σ}
    (written : writer.writeBlock world = (.ok (), next, later)) :
    next.failed = true ∨ next.failed = false ∧ next.filled = 0 := by
  cases marked : next.failed with
  | true => exact .inl rfl
  | false =>
    refine .inr ⟨rfl, ?_⟩
    unfold writeBlock at written
    split at written
    · cases written
    split at written
    · next empty =>
      cases written
      exact empty
    split at written
    · cases written
      rfl
    · cases written

/-! ## The end of a writer -/

/-- The writer is gone: it has made calls, and then it was closed or the program has stopped. -/
def Gone (writer : BlockWriter σ ι) (world : World σ) (refused : Option CodecError)
    (outcome : Closed × World σ) : Prop :=
  ∃ (last : BlockWriter σ ι) (middle : World σ),
    writer.bench.Works world refused last.bench middle ∧
    (outcome.1.result = .error .overrun ∧ outcome.2 = middle ∧
        ¬ writer.session.library.entries.ReportsWithin ∨
      outcome.2 = last.close middle)

/-- What the writer did before its end comes first. -/
theorem Gone.behind {start : BlockWriter σ ι} {before : World σ} {refused : Option CodecError}
    {outcome : Closed × World σ} (gone : writer.Gone world refused outcome)
    (works : start.bench.Works before none writer.bench world) :
    start.Gone before refused outcome := by
  obtain ⟨last, middle, works', ended⟩ := gone
  have same : writer.session.library = start.session.library := works.session.library
  rw [same] at ended
  exact ⟨last, middle, works.trans works', ended⟩

/-- A discarded writer may make one more call, of which nothing is returned. -/
theorem discard_gone (writer : BlockWriter σ ι) (world : World σ) :
    ∃ refused, writer.Gone world refused (writer.discard world) := by
  rw [discard]
  split
  · exact ⟨none, writer, world, .idle _ _, .inr rfl⟩
  obtain ⟨refused, works, -⟩ := writer.writeBlock_serves world
  have stays : writer.session.library.entries.ReportsWithin →
      (writer.writeBlock world).1 ≠ .error .overrun := fun within =>
    writeBlock_ne_overrun within world
  generalize writer.writeBlock world = outcome at works stays ⊢
  obtain ⟨(e | _) | _, last, middle⟩ := outcome
  · exact ⟨refused, last, _, works.say 2 _, .inr rfl⟩
  · exact ⟨refused, last, middle, works, .inl ⟨rfl, rfl, fun within => stays within rfl⟩⟩
  · exact ⟨refused, last, middle, works, .inr rfl⟩

/-- A writer that is marked, or holds nothing, makes no more calls when it is discarded. -/
theorem discardAfter_gone {start : BlockWriter σ ι} {before : World σ} {refused : Option CodecError}
    {failure : StreamFailure} (works : start.bench.Works before refused writer.bench world)
    (stays : start.session.library.entries.ReportsWithin → failure ≠ .overrun)
    (done : ∀ e, failure = .error e →
      writer.failed = true ∨ writer.failed = false ∧ writer.filled = 0) :
    start.Gone before refused (writer.discardAfter failure world) := by
  refine ⟨writer, world, works, ?_⟩
  cases failure with
  | overrun => exact .inl ⟨rfl, rfl, fun within => stays within rfl⟩
  | error e =>
    right
    simp only [discardAfter, discard_of_done (done e rfl)]

/-- A finished writer makes one more call, and it does not lose what that returns. -/
theorem finish_gone (writer : BlockWriter σ ι) (world : World σ) :
    ∃ refused, writer.Gone world refused (writer.finish world) ∧
      Refuses .ofCodec refused (writer.finish world).1.result := by
  have serves := writer.writeBlock_serves world
  rw [finish]
  rcases written : writer.writeBlock world with ⟨e | _, last, middle⟩
  · rw [written] at serves
    obtain ⟨refused, works, refuses⟩ := serves
    refine ⟨refused, discardAfter_gone works ?_ ?_, ?_⟩
    · rintro within rfl
      exact writeBlock_ne_overrun within world (congrArg Prod.fst written)
    · rintro e rfl
      exact .inl (failed_of_writeBlock_error written)
    · dsimp only
      rw [discardAfter_of_lost written]
      exact refuses.map _ fun _ failed => congrArg Except.error (Except.error.inj failed)
  · rw [written] at serves
    have works := serves.works
    have done := done_of_writeBlock_ok written
    have same := last.bench_flushSink last.block.address?
    have kept := last.failed_flushSink
    have stays := last.flushSink_ne_overrun
    dsimp only
    generalize last.flushSink = flushed at same kept stays ⊢
    obtain ⟨e | _, frames⟩ := flushed
    · refine ⟨none, discardAfter_gone ?_ ?_ fun _ _ => ?_, .none _ _⟩
      · change writer.bench.Works world none (frames.bench last.block.address?) middle
        rw [same]
        exact works
      · rintro - rfl
        exact stays rfl
      · rw [← kept] at done
        exact done
    · refine ⟨none, ⟨{ last with toFrameWriter := frames }, middle, ?_, .inr rfl⟩, .none _ _⟩
      change writer.bench.Works world none (frames.bench last.block.address?) middle
      rw [same]
      exact works

end BlockWriter

/-! ## Readers -/

namespace BlockReader

/-- The reader's session and its two buffers. -/
def bench (reader : BlockReader σ ι) : Bench σ ι :=
  ⟨reader.session, reader.compressed.address?, reader.block.address?⟩

/-- Reading a header makes no call. -/
theorem bench_nextLength (reader : BlockReader σ ι) :
    reader.nextLength.2.bench = reader.bench := by
  rw [nextLength]
  split
  · rfl
  split
  · rfl
  split
  · rfl
  · rfl

theorem bench_loadPayload (reader : BlockReader σ ι) (n : Nat) :
    (reader.loadPayload n).2.bench = reader.bench := by
  have same := reader.compressed.address?_withMemory
    (reader.compressed.memory.write 0 (reader.source.pull n).bytes)
  rw [loadPayload]
  split
  · rw [bench, same]
    rfl
  split
  · rw [bench, same]
    rfl
  · rw [bench, same]
    rfl

theorem decompressBlock_serves (reader : BlockReader σ ι) (n : Nat) (world : World σ) :
    reader.bench.Serves world (reader.decompressBlock n world).1
      (reader.decompressBlock n world).2.1.bench (reader.decompressBlock n world).2.2 := by
  obtain ⟨refused, continues, refuses⟩ := reader.session.decompress_continues
    (.whole (.ofBytes (reader.compressed.memory.read 0 n))) (.whole reader.block.memory) world
  rw [decompressBlock]
  dsimp only
  generalize reader.session.decompress (.whole (.ofBytes (reader.compressed.memory.read 0 n)))
    (.whole reader.block.memory) world = served at continues refuses ⊢
  have same := reader.block.address?_withMemory served.output.memory
  obtain ⟨e | filled, session, output, after⟩ := served
  · exact ⟨refused, ⟨continues, rfl, same⟩,
      refuses.map _ fun _ failed => Except.error.inj failed ▸ rfl⟩
  · exact ⟨refused, ⟨continues, rfl, same⟩, refuses.ok _ _⟩

theorem fillBlock_serves (reader : BlockReader σ ι) (world : World σ) :
    reader.bench.Serves world (reader.fillBlock world).1 (reader.fillBlock world).2.1.bench
      (reader.fillBlock world).2.2 := by
  have headed := reader.bench_nextLength
  rw [fillBlock]
  generalize reader.nextLength = outcome at headed ⊢
  obtain ⟨e | (_ | n), reader'⟩ := outcome
  · rw [← headed]
    exact .idle _ _ _
  · rw [← headed]
    exact .idle _ _ _
  · rw [← headed]
    dsimp only
    split
    · exact .idle _ _ _
    have loaded := reader'.bench_loadPayload n
    generalize reader'.loadPayload n = outcome at loaded ⊢
    obtain ⟨e | _, ready⟩ := outcome
    · rw [← loaded]
      exact .idle _ _ _
    · rw [← loaded]
      have serves := ready.decompressBlock_serves n world
      dsimp only
      generalize ready.decompressBlock n world = outcome at serves ⊢
      obtain ⟨e | _, next, later⟩ := outcome
      · exact serves.error
      · exact serves.ok _

theorem refill_serves (reader : BlockReader σ ι) (world : World σ) :
    reader.bench.Serves world (reader.refill world).1 (reader.refill world).2.1.bench
      (reader.refill world).2.2 := by
  fun_induction refill reader world with
  | case1 reader world _ e next later filled =>
    have serves := reader.fillBlock_serves world
    rwa [filled] at serves
  | case2 reader world _ next later filled =>
    have serves := reader.fillBlock_serves world
    rwa [filled] at serves
  | case3 reader world _ next later filled ih =>
    have serves := reader.fillBlock_serves world
    rw [filled] at serves
    exact serves.then ih
  | case4 reader world => exact .idle _ _ _

/-- Serving makes no call. -/
theorem bench_serve (reader : BlockReader σ ι) (n : Nat) :
    (reader.serve n).2.bench = reader.bench := by
  rw [serve]
  split
  · rfl
  · rfl

theorem read_serves (reader : BlockReader σ ι) (n : Nat) (world : World σ) :
    reader.bench.Serves world (reader.read n world).1 (reader.read n world).2.1.bench
      (reader.read n world).2.2 := by
  rw [read]
  split
  · exact .idle _ _ _
  have serves := reader.refill_serves world
  generalize reader.refill world = outcome at serves ⊢
  obtain ⟨e | (_ | _), next, later⟩ := outcome
  · exact serves.error
  · exact serves.ok _
  · dsimp only
    rw [bench_serve]
    exact serves.ok _

theorem readExact_serves (reader : BlockReader σ ι) (n : Nat) (world : World σ) :
    reader.bench.Serves world (reader.readExact n world).1 (reader.readExact n world).2.1.bench
      (reader.readExact n world).2.2 := by
  fun_induction readExact reader n world with
  | case1 reader world => exact .idle _ _ _
  | case2 reader n world _ e next later failed =>
    have serves := reader.read_serves n world
    rwa [failed] at serves
  | case3 reader n world _ bytes next later part _ =>
    have serves := reader.read_serves n world
    rw [part] at serves
    exact serves.ok _
  | case4 reader n world _ bytes next later part _ more last after whole ih =>
    have serves := reader.read_serves n world
    rw [part] at serves
    rw [whole] at ih
    exact serves.then (ih.ok _)
  | case5 reader n world _ bytes next later part _ e last after failed ih =>
    have serves := reader.read_serves n world
    rw [part] at serves
    rw [failed] at ih
    exact serves.then ih

theorem readToEnd_serves (reader : BlockReader σ ι) (world : World σ) :
    reader.bench.Serves world (reader.readToEnd world).2.1 (reader.readToEnd world).2.2.1.bench
      (reader.readToEnd world).2.2.2 := by
  fun_induction readToEnd reader world with
  | case1 reader world e next later failed =>
    have serves := reader.read_serves maxNativeLength world
    rw [failed] at serves
    exact serves.error
  | case2 reader world next later last =>
    have serves := reader.read_serves maxNativeLength world
    rw [last] at serves
    exact serves.ok _
  | case3 reader world part next later read nonempty more result rest ih =>
    have serves := reader.read_serves maxNativeLength world
    rw [read] at serves
    rw [rest] at ih
    exact serves.then ih

end BlockReader

/-! ## Closing -/

/-- Giving memory back and ending a session keep a property of the world. -/
structure Library.Closes (library : Library σ ι) (kept : World σ → Prop) : Prop where
  free : ∀ free, library.entries.free = some free → ∀ address world, kept world →
    kept { world with native := free address world.native }
  teardown : ∀ teardown, library.entries.teardown = some teardown → ∀ record world, kept world →
    kept { world with native := (teardown record world.native).2 }
  say : ∀ level text world, kept world → kept (world.say level text)

section Closes

variable {kept : World σ → Prop} {world : World σ}

theorem Session.kept_close (session : Session σ ι) (closes : session.library.Closes kept)
    (before : kept world) : kept (session.close world) := by
  rw [Session.close]
  split
  · split
    · exact before
    · next teardown found =>
      have after := closes.teardown teardown found session.record world before
      dsimp only
      split
      · exact after
      · exact closes.say 2 _ _ after
  · exact before

theorem BlockWriter.kept_close (writer : BlockWriter σ ι)
    (closes : writer.session.library.Closes kept) (before : kept world) :
    kept (writer.close world) := by
  have ended := writer.session.kept_close closes before
  exact writer.compressed.kept_release closes.free (writer.block.kept_release closes.free ended)

theorem BlockReader.kept_close (reader : BlockReader σ ι)
    (closes : reader.session.library.Closes kept) (before : kept world) :
    kept (reader.close world) := by
  have ended := reader.session.kept_close closes before
  exact reader.block.kept_release closes.free (reader.compressed.kept_release closes.free ended)

end Closes

end OffloadCodec

import OffloadCodec.Proofs.LibraryContract
import OffloadCodec.Proofs.Stream.Emission

/-!
# Frames that are lost

`Sent` accounts for the blocks that a frame writer was given to write: for the codec calls made for
them, for what its sink holds, and for whether it is marked as failed. Of all blocks but the last one
the sink holds the whole frames. The last one may have been rejected by the codec, and then nothing
of it is there; or the sink has failed within its frame, and then a part of the frame is there that is
not all of it.

Writing a block keeps the account, and marks the writer exactly if the block is lost
(`FrameWriter.HasSent.writeFrame`), and so does writing blocks until one is lost
(`FrameWriter.HasSent.play`).
-/

namespace OffloadCodec

variable {σ ι : Type}

/-- What has become of the blocks from a state of the codec on, behind what the sink held before. -/
inductive Sent (entries : EntryPoints σ ι) (start : CodecState σ ι) (before : Bytes) :
    List Bytes → Sink → CodecState σ ι → (failed : Bool) → Prop
  | whole {blocks payloads : List Bytes} {sink : Sink} {state : CodecState σ ι} :
    codeEach entries.compressNext start blocks = (.ok payloads, state) →
    sink.received = before ++ Frame.encode payloads →
    Sent entries start before blocks sink state false
  | rejected {blocks payloads : List Bytes} {block : Bytes} {e : IoError} {sink : Sink}
      {middle state : CodecState σ ι} :
    codeEach entries.compressNext start blocks = (.ok payloads, middle) →
    entries.compressNext middle block = (.error (.error e), state) →
    sink.received = before ++ Frame.encode payloads →
    Sent entries start before (blocks ++ [block]) sink state true
  | broken {blocks payloads : List Bytes} {block payload part offered : Bytes} {e : IoError}
      {earlier sink : Sink} {middle state : CodecState σ ι} :
    codeEach entries.compressNext start blocks = (.ok payloads, middle) →
    entries.compressNext middle block = (.ok payload, state) →
    sink.received = before ++ Frame.encode payloads ++ part →
    part <+: Frame.frame payload → part.length < (Frame.frame payload).length →
    earlier.writeAll offered = (.error e, sink) →
    Sent entries start before (blocks ++ [block]) sink state true

/-- If lengths are reported within the capacity then no compression stops the program. -/
theorem EntryPoints.ReportsWithin.compressNext_ne_overrun {entries : EntryPoints σ ι}
    (within : entries.ReportsWithin) (state : CodecState σ ι) (block : Bytes) :
    (entries.compressNext state block).1 ≠ .error .overrun := by
  rw [EntryPoints.compressNext]
  cases checked : Session.lengths (.whole (.ofBytes block)) (.whole state.region)
      "compressor output buffer" with
  | error e => simp
  | ok both =>
    obtain ⟨-, -, bounded, rfl⟩ := Session.lengths_ok_iff.1 checked
    rw [View.length_whole] at bounded
    refine CodecState.settle_ne_overrun fun succeeded => ?_
    have reported := within _ _ _ _ succeeded
    rwa [View.length_whole, toNat_capacity bounded] at reported

theorem EntryPoints.size_region_codeEach (entries : EntryPoints σ ι) (state : CodecState σ ι)
    (blocks : List Bytes) :
    (codeEach entries.compressNext state blocks).2.region.size = state.region.size := by
  induction blocks generalizing state with
  | nil => rfl
  | cons block blocks ih =>
    have here := entries.size_region_compressNext state block
    have rest := ih (entries.compressNext state block).2
    rw [codeEach]
    generalize entries.compressNext state block = coded at here rest ⊢
    obtain ⟨_ | payload, middle⟩ := coded
    · exact here
    · dsimp only at here rest ⊢
      rw [← here, ← rest]
      rcases codeEach entries.compressNext middle blocks with ⟨_ | _, last⟩
      · rfl
      · rfl

/-- The room for payloads stays as large as it was. -/
theorem Sent.size_region {entries : EntryPoints σ ι} {start state : CodecState σ ι} {before : Bytes}
    {blocks : List Bytes} {sink : Sink} {failed : Bool}
    (sent : Sent entries start before blocks sink state failed) :
    state.region.size = start.region.size := by
  cases sent with
  | @whole blocks _ _ _ coded =>
    have size := entries.size_region_codeEach start blocks
    rwa [coded] at size
  | @rejected blocks _ block _ _ middle _ coded rejected =>
    have size := entries.size_region_codeEach start blocks
    have last := entries.size_region_compressNext middle block
    rw [coded] at size
    rw [rejected] at last
    exact last.trans size
  | @broken blocks _ block _ _ _ _ _ _ middle _ coded compressed =>
    have size := entries.size_region_codeEach start blocks
    have last := entries.size_region_compressNext middle block
    rw [coded] at size
    rw [compressed] at last
    exact last.trans size

namespace FrameWriter

variable {writer writer' : FrameWriter σ ι} {world world' : World σ} {library : Library σ ι}
  {start : CodecState σ ι} {before block : Bytes} {blocks more : List Bytes}

/-- A frame that is not written in full was broken off by the sink. -/
theorem emit_error {n : Nat} {payload : Bytes} {failure : StreamFailure}
    (front : writer.compressed.memory.takeFront n = .ok payload)
    (lost : writer.emit n = (.error failure, writer')) :
    ∃ (earlier sink : Sink) (offered part : Bytes) (e : IoError), failure = .error e ∧
      writer' = { writer with sink, failed := true } ∧
      earlier.writeAll offered = (.error e, sink) ∧
      sink.received = writer.sink.received ++ part ∧
      part <+: Frame.frame payload ∧ part.length < (Frame.frame payload).length := by
  obtain ⟨length, same⟩ := Memory.takeFront_ok front
  unfold emit at lost
  split at lost
  · next e sink refused =>
    obtain ⟨rfl, rfl⟩ := by simpa only [Prod.mk.injEq, Except.error.injEq] using lost
    obtain ⟨part, within, less, received⟩ := Sink.writeAll_error refused
    refine ⟨_, sink, _, part, e, rfl, rfl, refused, received, ?_, ?_⟩
    · rw [Frame.frame, length]
      exact within.trans (List.prefix_append _ _)
    · rw [Frame.frame, length, List.length_append]
      omega
  · next headed header =>
    split at lost
    · next above =>
      have overrun : writer.compressed.memory.takeFront n = .error .overrun := if_pos above
      rw [overrun] at front
      cases front
    · split at lost
      · next e sink refused =>
        obtain ⟨rfl, rfl⟩ := by simpa only [Prod.mk.injEq, Except.error.injEq] using lost
        rw [← same] at refused
        obtain ⟨part, within, less, received⟩ := Sink.writeAll_error refused
        refine ⟨_, sink, _, Bytes.le32 n ++ part, e, rfl, rfl, refused, ?_, ?_, ?_⟩
        · rw [received, Sink.writeAll_ok header, List.append_assoc]
        · rw [Frame.frame, length]
          exact (List.prefix_append_right_inj _).2 within
        · rw [Frame.frame, length, List.length_append, List.length_append]
          omega
      · simp at lost

/-- The writer belongs to the library, and its sink, its codec and its mark stand as `Sent` says. -/
structure HasSent (writer : FrameWriter σ ι) (library : Library σ ι) (start : CodecState σ ι)
    (before : Bytes) (blocks : List Bytes) (world : World σ) : Prop where
  of_library : writer.session.library = library
  sent : Sent library.entries start before blocks writer.sink (writer.codecState world)
    writer.failed

/-- Writing blocks either writes all their frames, or it fails at one of them and marks the
writer. -/
inductive Advances (library : Library σ ι) (start : CodecState σ ι) (before : Bytes)
    (blocks more : List Bytes) : Except StreamFailure Unit × FrameWriter σ ι × World σ → Prop
  | all {next : FrameWriter σ ι} {later : World σ} :
    next.failed = false → next.HasSent library start before (blocks ++ more) later →
    Advances library start before blocks more (.ok (), next, later)
  | lost {e : IoError} {done : List Bytes} {next : FrameWriter σ ι} {later : World σ} :
    next.failed = true → done <+: more →
    next.HasSent library start before (blocks ++ done) later →
    Advances library start before blocks more (.error (.error e), next, later)

/-- What is there of blocks that are all sent. -/
theorem HasSent.payloads (sent : writer.HasSent library start before blocks world)
    (sound : writer.failed = false) :
    ∃ payloads, codeEach library.entries.compressNext start blocks =
        (.ok payloads, writer.codecState world) ∧
      writer.sink.received = before ++ Frame.encode payloads := by
  have account := sent.sent
  rw [sound] at account
  cases account with
  | whole coded received => exact ⟨_, coded, received⟩

/-- What is said has no part in it. -/
theorem HasSent.say (sent : writer.HasSent library start before blocks world) (level : Nat)
    (text : String) : writer.HasSent library start before blocks (world.say level text) :=
  ⟨sent.of_library, sent.sent⟩

variable (within : library.entries.ReportsWithin)
include within

theorem HasSent.writeFrame (sent : writer.HasSent library start before blocks world)
    (sound : writer.failed = false) (block : Bytes) :
    Advances library start before blocks [block] (writer.writeFrame block world) := by
  obtain ⟨payloads, coded, received⟩ := sent.payloads sound
  obtain ⟨library_eq, -⟩ := sent
  have unstopped := within.compressNext_ne_overrun (writer.codecState world) block
  unfold FrameWriter.writeFrame
  rcases compressed : writer.compressBlock block world with ⟨result, next, later⟩
  obtain ⟨taken, state, sink, failed, library', -⟩ := compressBlock_follows compressed
  rw [library_eq] at taken state library'
  cases result with
  | error e =>
    refine .lost rfl List.prefix_rfl ⟨library', ?_⟩
    refine .rejected coded (Prod.ext taken.symm state.symm) ?_
    rw [← received, ← sink]
  | ok n =>
    rw [← taken] at unstopped
    have front := Memory.takeFront_of_ne_overrun unstopped
    have here : library.entries.compressNext (writer.codecState world) block =
        (.ok (next.compressed.memory.read 0 n), next.codecState later) :=
      Prod.ext (taken.symm.trans front) state.symm
    dsimp only
    rcases emitted : next.emit n with ⟨_ | _, last⟩
    · obtain ⟨earlier, broken, offered, part, e, rfl, rfl, refused, part_received, prefix_, less⟩ :=
        emit_error front emitted
      refine .lost rfl List.prefix_rfl ⟨library', ?_⟩
      refine .broken coded here ?_ prefix_ less refused
      rw [part_received, sink, received]
    · obtain ⟨after, payload', rfl, front', sent⟩ := emit_ok emitted
      rw [front] at front'
      obtain rfl := Except.ok.inj front'
      have marked : next.failed = false := failed.trans sound
      refine .all marked ⟨library', ?_⟩
      change Sent library.entries start before (blocks ++ [block]) after (next.codecState later)
        next.failed
      rw [marked]
      refine .whole (codeEach_concat coded here) ?_
      rw [sent, sink, received, Frame.encode, Frame.encode, List.flatMap_append,
        List.flatMap_singleton, List.append_assoc]

theorem HasSent.play (sent : writer.HasSent library start before blocks world)
    (sound : writer.failed = false) (more : List Bytes) :
    Advances library start before blocks more (writer.play (more.map .frame) world) := by
  induction more generalizing writer blocks world with
  | nil =>
    refine .all sound ?_
    rw [List.append_nil]
    exact sent
  | cons block more ih =>
    have first := sent.writeFrame within sound block
    rw [List.map_cons, FrameWriter.play]
    generalize writer.writeFrame block world = outcome at first ⊢
    cases first with
    | lost failed front sent =>
      exact .lost failed (front.trans (List.prefix_append [block] more)) sent
    | all sound sent =>
      have rest := ih sent sound
      dsimp only
      generalize FrameWriter.play _ _ _ = played at rest ⊢
      cases rest with
      | all sound sent =>
        rw [List.append_assoc] at sent
        exact .all sound sent
      | lost failed front sent =>
        rw [List.append_assoc] at sent
        exact .lost failed ((List.prefix_append_right_inj [block]).2 front) sent

omit within

theorem flushSink_eq (writer : FrameWriter σ ι) :
    writer.flushSink =
      (writer.sink.flush.1.mapError .error, { writer with sink := writer.sink.flush.2 }) := by
  rw [FrameWriter.flushSink]
  rcases writer.sink.flush with ⟨_ | _, sink⟩
  · rfl
  · rfl

/-- A flush of the sink has no part in what was sent, whether it succeeds or not. -/
theorem HasSent.flushed (sent : writer.HasSent library start before blocks world)
    (sound : writer.failed = false) :
    { writer with sink := writer.sink.flush.2 }.HasSent library start before blocks world := by
  obtain ⟨payloads, coded, received⟩ := sent.payloads sound
  refine ⟨sent.of_library, ?_⟩
  change Sent library.entries start before blocks writer.sink.flush.2 (writer.codecState world)
    writer.failed
  rw [sound]
  exact .whole coded ((Sink.received_flush _).trans received)

end FrameWriter

end OffloadCodec

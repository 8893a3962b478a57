import Mathlib.Algebra.Order.Ring.Nat
import OffloadCodec.Proofs.Calls.Logged
import OffloadCodec.Proofs.Stream.FailedWriter

/-!
# Progress of a write

A program takes the bytes of a write in a loop that copies as many as the block has room for and emits
the block when it is full. `BlockWriter.copyTurn?` is one turn of that loop, with the subtraction and
the slices checked, and `BlockWriter.Copies` is a run of it to its end. Nothing in the loop itself
keeps it from running on with no room: that there always is room is an invariant of the writer
(`BlockWriter.Reached.room`), which every call keeps, also the ones that fail.

From a writer with room each turn copies something, every block that is emitted has used up its size
in bytes that were held or given, and what the loop comes to is what `write` says
(`BlockWriter.Open.copies`). The log of the library shows one call for each of those blocks
(`BlockWriter.Copies.gains`). `BlockWriter.write_progresses` states it for all writers that are reached
by calls.
-/

namespace OffloadCodec

variable {σ ι : Type}

namespace Bytes

variable {size : Nat} {held rest : Bytes}

/-- From an empty block on, pieces are chunks. -/
theorem pieces_self (positive : 0 < size) (bytes : Bytes) :
    pieces size size bytes = chunks size bytes := by
  rw [pieces]
  by_cases empty : bytes = []
  · rw [if_pos empty, empty, chunks_nil]
  · rw [if_neg empty, ← chunks_of_ne_nil positive empty]

/-- A piece that fits either fills the block, and nothing is left over, or it is held as well. -/
theorem length_leftover (positive : 0 < size) (fits : held.length + rest.length ≤ size) :
    (leftover size (held ++ rest)).length =
      if held.length + rest.length = size then 0 else held.length + rest.length := by
  have length : (held ++ rest).length = held.length + rest.length := List.length_append
  by_cases full : held.length + rest.length = size
  · rw [if_pos full, leftover_block positive (length.trans full), List.length_nil]
  · rw [if_neg full, leftover_of_lt (by omega), length]

/-- The first piece is as much as there is room for, and what is behind it is cut by what is held
then. -/
theorem pieces_cons (room : held.length < size) (nonempty : rest ≠ []) :
    let count := min (size - held.length) rest.length
    pieces (size - held.length) size rest =
      rest.take count ::
        pieces (size - (leftover size (held ++ rest.take count)).length) size (rest.drop count) := by
  have positive : 0 < size := Nat.zero_lt_of_lt room
  intro count
  have taken : (rest.take count).length = count := by
    rw [List.length_take]
    omega
  have cut : rest.take (size - held.length) = rest.take count := (List.take_eq_take_min ..)
  rw [length_leftover positive (by omega), taken, pieces, if_neg nonempty, cut, List.cons_inj_right]
  by_cases full : held.length + count = size
  · have all : size - held.length = count := by omega
    rw [if_pos full, Nat.sub_zero, pieces_self positive, all]
  · rw [if_neg full, List.drop_of_length_le (by omega), List.drop_of_length_le (by omega),
      chunks_nil, pieces, if_pos rfl]

end Bytes

/-- What a turn of the copying loop finds and does. -/
structure CopyTurn where
  /-- Bytes of the block that are free. -/
  room : Nat
  /-- Bytes that are copied. -/
  count : Nat
  /-- The block is full behind them, and is emitted. -/
  emits : Bool

/-- What turns have copied and emitted in blocks of some size. -/
structure CopyTurn.Progress (size held given : Nat) (turns : List CopyTurn)
    (result : Except StreamFailure Nat) : Prop where
  /-- There was room, and it was used. -/
  room : ∀ turn ∈ turns, 1 ≤ turn.room ∧ 1 ≤ turn.count
  /-- Every block that was emitted has used up its size. -/
  emissions : turns.countP (·.emits) * size ≤ held + given
  consumed : ∀ count, result = .ok count → (turns.map (·.count)).sum = given

/-- If the call is a compression then this holds of the length of its input. -/
def LibraryCall.Feeds (lengths : Nat → Prop) : LibraryCall ι → Prop
  | compress _ input _ _ => lengths input.length
  | _ => True

theorem LibraryCall.feeds_of_isHousekeeping {lengths : Nat → Prop} (call : LibraryCall ι)
    (housekeeping : call.isHousekeeping = true) : call.Feeds lengths := by
  cases call with
  | compress => cases housekeeping
  | _ => trivial

namespace BlockWriter

variable {writer next : BlockWriter σ ι} {world later : World σ} {bytes pending : Bytes}
  {size taken : Nat} {library : Library σ ι} {start : CodecState σ ι} {received : Bytes}
  {calls : List WriterCall} {sink : Sink} {options : StreamOptions}

/-! ## The loop -/

/-- One turn of the loop that takes bytes in, of which some are taken; nothing if it subtracts too
much or cuts outside the block or the bytes. -/
def copyTurn? (writer : BlockWriter σ ι) (bytes : Bytes) (taken : Nat) (world : World σ) :
    Option (CopyTurn × Except StreamFailure Unit × BlockWriter σ ι × World σ) :=
  if writer.block.size < writer.filled then none
  else
    let room := writer.block.size - writer.filled
    let count := min room (bytes.length - taken)
    if writer.block.size < writer.filled + count ∨ bytes.length < taken + count then none
    else some (⟨room, count, writer.filled + count = writer.block.size⟩,
      writer.put ((bytes.drop taken).take count) world)

/-- The loop takes these turns, stays within the block and the bytes all the way, and comes to this
outcome. -/
inductive Copies (bytes : Bytes) : (taken : Nat) → BlockWriter σ ι → World σ → List CopyTurn →
    Except StreamFailure Nat × BlockWriter σ ι × World σ → Prop
  | done {taken : Nat} {writer : BlockWriter σ ι} {world : World σ}
    (all : bytes.length ≤ taken) :
    Copies bytes taken writer world [] (.ok bytes.length, writer, world)
  | again {taken : Nat} {writer next : BlockWriter σ ι} {world later : World σ} {turn : CopyTurn}
    {turns : List CopyTurn} {outcome : Except StreamFailure Nat × BlockWriter σ ι × World σ}
    (more : taken < bytes.length)
    (turned : writer.copyTurn? bytes taken world = some (turn, .ok (), next, later))
    (rest : Copies bytes (taken + turn.count) next later turns outcome) :
    Copies bytes taken writer world (turn :: turns) outcome
  | failed {taken : Nat} {writer next : BlockWriter σ ι} {world later : World σ}
    {turn : CopyTurn} {e : StreamFailure} (more : taken < bytes.length)
    (turned : writer.copyTurn? bytes taken world = some (turn, .error e, next, later)) :
    Copies bytes taken writer world [turn] (.error e, next, later)

/-- The loop takes one course. -/
theorem Copies.unique {turns turns' : List CopyTurn}
    {outcome outcome' : Except StreamFailure Nat × BlockWriter σ ι × World σ}
    (one : Copies bytes taken writer world turns outcome)
    (other : Copies bytes taken writer world turns' outcome') :
    turns = turns' ∧ outcome = outcome' := by
  induction one generalizing turns' with
  | done all =>
    cases other with
    | done => exact ⟨rfl, rfl⟩
    | again more => omega
    | failed more => omega
  | again more turned rest ih =>
    cases other with
    | done all => omega
    | again _ turned' rest' =>
      cases turned.symm.trans turned'
      obtain ⟨rfl, rfl⟩ := ih rest'
      exact ⟨rfl, rfl⟩
    | failed _ turned' => cases turned.symm.trans turned'
  | failed more turned =>
    cases other with
    | done all => omega
    | again _ turned' => cases turned.symm.trans turned'
    | failed _ turned' =>
      cases turned.symm.trans turned'
      exact ⟨rfl, rfl⟩

/-! ## Writers with room -/

theorem Open.copyTurn?_eq (open_ : writer.Open size pending) (within : taken ≤ bytes.length)
    (world : World σ) :
    let count := min (size - pending.length) (bytes.length - taken)
    writer.copyTurn? bytes taken world =
      some (⟨size - pending.length, count, pending.length + count = size⟩,
        writer.put ((bytes.drop taken).take count) world) := by
  have room := open_.room
  rw [copyTurn?, open_.size_eq, open_.filled_eq, if_neg (Nat.not_lt_of_lt room)]
  dsimp only
  rw [if_neg (by omega)]

/-- What a write comes to behind the pieces that it is cut into. -/
def written (bytes : Bytes) (outcome : Except StreamFailure Unit × BlockWriter σ ι × World σ) :
    Except StreamFailure Nat × BlockWriter σ ι × World σ :=
  (outcome.1.map fun _ => bytes.length, outcome.2)

theorem write_eq (sound : writer.failed = false) (bytes : Bytes) (world : World σ) :
    writer.write bytes world = written bytes (writer.putAll
      (Bytes.pieces (writer.block.size - writer.filled) writer.block.size bytes) world) := by
  rw [write, sound, if_neg Bool.false_ne_true]
  dsimp only
  rcases writer.putAll _ world with ⟨_ | _, next, later⟩
  · rfl
  · rfl

/-- A writer with room copies at least a byte in every turn, and what its loop comes to is what the
pieces of the bytes come to. -/
theorem Open.copies (open_ : writer.Open size pending) (within : taken ≤ bytes.length)
    (world : World σ) :
    ∃ turns outcome, Copies bytes taken writer world turns outcome ∧
      outcome = written bytes (writer.putAll
        (Bytes.pieces (size - pending.length) size (bytes.drop taken)) world) ∧
      CopyTurn.Progress size pending.length (bytes.length - taken) turns outcome.1 := by
  induction same : bytes.length - taken using Nat.strongRecOn
    generalizing writer pending taken world with
  | ind left ih =>
    have room := open_.room
    have length_rest : (bytes.drop taken).length = left := by rw [List.length_drop, same]
    rcases Nat.eq_zero_or_pos left with none | some
    · have empty : bytes.drop taken = [] := List.length_eq_zero_iff.1 (length_rest.trans none)
      refine ⟨[], _, .done (by omega), ?_, ?_, ?_, ?_⟩
      · rw [empty, Bytes.pieces, if_pos rfl]
        rfl
      · exact fun turn mem => absurd mem List.not_mem_nil
      · rw [List.countP_nil, Nat.zero_mul]
        exact Nat.zero_le _
      · exact fun _ _ => none.symm
    · have nonempty : bytes.drop taken ≠ [] := by
        intro empty
        rw [empty, List.length_nil] at length_rest
        omega
      have turned := open_.copyTurn?_eq within world
      have pieces := Bytes.pieces_cons room nonempty
      rw [same] at turned
      rw [length_rest] at pieces
      dsimp only at turned pieces
      generalize count_eq : min (size - pending.length) left = count at turned pieces
      have used : 1 ≤ size - pending.length ∧ 1 ≤ count := by omega
      have length_piece : ((bytes.drop taken).take count).length = count := by
        rw [List.length_take, length_rest]
        omega
      have put := open_.put ((bytes.drop taken).take count) (by omega) world
      have held : (Bytes.leftover size (pending ++ (bytes.drop taken).take count)).length =
          if pending.length + count = size then 0 else pending.length + count := by
        rw [Bytes.length_leftover open_.positive (by omega), length_piece]
      rw [pieces, putAll]
      generalize writer.put ((bytes.drop taken).take count) world = outcome at turned put ⊢
      generalize writer.play _ world = played at put
      cases put with
      | error =>
        refine ⟨_, _, .failed (by omega) turned, rfl, ?_, ?_, ?_⟩
        · intro turn mem
          rw [List.mem_singleton.1 mem]
          exact used
        · rw [List.countP_singleton]
          split
          · next full =>
            have full : pending.length + count = size := of_decide_eq_true full
            omega
          · omega
        · exact fun _ succeeded => by cases succeeded
      | ok opened =>
        have within' : taken + count ≤ bytes.length := by omega
        obtain ⟨turns, outcome, copies, comes, progress⟩ :=
          ih (left - count) (by omega) opened within' _ (by omega)
        refine ⟨_, outcome, .again (by omega) turned copies, ?_, ?_, ?_, ?_⟩
        · rw [comes, List.drop_drop]
        · exact List.forall_mem_cons.2 ⟨used, progress.room⟩
        · have emitted := progress.emissions
          rw [held] at emitted
          rw [List.countP_cons, Nat.add_mul]
          by_cases full : pending.length + count = size
          · rw [if_pos full] at emitted
            rw [if_pos (decide_eq_true full)]
            omega
          · rw [if_neg full] at emitted
            rw [if_neg (by simpa only [decide_eq_true_eq] using full)]
            omega
        · intro all succeeded
          rw [List.map_cons, List.sum_cons, progress.consumed all succeeded]
          exact Nat.add_sub_cancel' (count_eq ▸ Nat.min_le_right _ _)

/-! ## Calls of the loop -/

/-- A piece that is taken leaves the writer with its library and with the same room for payloads. -/
theorem put_ok (put : writer.put bytes world = (.ok (), next, later)) :
    next.session.library = writer.session.library ∧
      next.compressed.size = writer.compressed.size := by
  rw [BlockWriter.put] at put
  dsimp only at put
  split at put
  · rw [writeBlock] at put
    split at put
    · cases put
    split at put
    · cases put
      exact ⟨rfl, rfl⟩
    split at put
    · next written =>
      cases put
      obtain ⟨-, -, -, -, on, size, -⟩ := FrameWriter.writeFrame_ok written
      exact ⟨on, size⟩
    · cases put
  · cases put
    exact ⟨rfl, rfl⟩

section Calls

variable {writer : BlockWriter (Logged σ ι) ι} (short : size ≤ maxNativeLength)
include short

/-- A piece takes a call if it fills the block. -/
theorem Open.gains_put (open_ : writer.Open size pending)
    (on : writer.session.library = library.logged)
    (bounded : writer.compressed.size ≤ maxNativeLength)
    (fits : pending.length + bytes.length ≤ size) (world : World (Logged σ ι)) :
    Logged.Gains size writer.compressed.size (if pending.length + bytes.length = size then 1 else 0)
      world.native (writer.put bytes world).2.2.native := by
  have length : (pending ++ bytes).length = pending.length + bytes.length := List.length_append
  have copied := open_.copied bytes fits
  rw [BlockWriter.put]
  dsimp only
  rw [copied.size_eq, open_.filled_eq, ← length]
  by_cases full : (pending ++ bytes).length = size
  · have positive := open_.positive
    obtain ⟨-, -, -, held, sound⟩ := copied
    rw [open_.filled_eq, ← length] at held
    rw [if_pos full, if_pos full, writeBlock]
    dsimp only at held sound ⊢
    rw [sound, if_neg Bool.false_ne_true, if_neg (by omega), held]
    have gained := FrameWriter.gains_writeFrame on (full.trans_le short) bounded world
    rw [full] at gained
    generalize writer.writeFrame (pending ++ bytes) world = written at gained ⊢
    rcases written with ⟨_ | _, frames, after⟩
    · exact gained
    · exact gained
  · rw [if_neg full, if_neg full]
    exact .none _

/-- A turn takes a call if it emits, and leaves such a writer if it succeeds. -/
theorem Open.gains_turn {next : BlockWriter (Logged σ ι) ι} {world later : World (Logged σ ι)}
    {turn : CopyTurn} {result : Except StreamFailure Unit} (open_ : writer.Open size pending)
    (on : writer.session.library = library.logged)
    (bounded : writer.compressed.size ≤ maxNativeLength) (within : taken ≤ bytes.length)
    (turned : writer.copyTurn? bytes taken world = some (turn, result, next, later)) :
    Logged.Gains size writer.compressed.size (if turn.emits then 1 else 0) world.native
        later.native ∧
      (result = .ok () → ∃ held, next.Open size held ∧
        next.session.library = library.logged ∧
        next.compressed.size = writer.compressed.size) := by
  have room := open_.room
  rw [open_.copyTurn?_eq within world] at turned
  have length : ((bytes.drop taken).take (min (size - pending.length) (bytes.length - taken))).length
      = min (size - pending.length) (bytes.length - taken) := by
    rw [List.length_take, List.length_drop]
    omega
  have below : min (size - pending.length) (bytes.length - taken) ≤ size - pending.length :=
    Nat.min_le_left _ _
  generalize min (size - pending.length) (bytes.length - taken) = count at turned length below
  generalize (bytes.drop taken).take count = piece at turned length
  have fits : pending.length + piece.length ≤ size := by omega
  have gained := open_.gains_put short on bounded fits world
  have put := open_.put piece fits world
  rw [length] at gained
  obtain ⟨rfl, outcome⟩ := by simpa only [Option.some.injEq, Prod.mk.injEq] using turned
  rw [outcome] at gained put
  refine ⟨?_, ?_⟩
  · simpa only [decide_eq_true_eq] using gained
  · rintro rfl
    obtain ⟨on', room'⟩ := put_ok outcome
    generalize writer.play _ world = played at put
    cases put with
    | ok opened => exact ⟨_, opened, on'.trans on, room'⟩

/-- The loop takes a call for each turn that emits. -/
theorem Copies.gains {turns : List CopyTurn} {world : World (Logged σ ι)}
    {outcome : Except StreamFailure Nat × BlockWriter (Logged σ ι) ι × World (Logged σ ι)}
    (copies : Copies bytes taken writer world turns outcome) (open_ : writer.Open size pending)
    (on : writer.session.library = library.logged)
    (bounded : writer.compressed.size ≤ maxNativeLength) :
    Logged.Gains size writer.compressed.size (turns.countP (·.emits)) world.native
      outcome.2.2.native := by
  induction copies generalizing pending with
  | done => exact .none _
  | again more turned _ ih =>
    obtain ⟨here, stays⟩ := open_.gains_turn short on bounded (Nat.le_of_lt more) turned
    obtain ⟨held, opened, on', room⟩ := stays rfl
    have rest := ih opened on' (room ▸ bounded)
    rw [room] at rest
    rw [List.countP_cons, Nat.add_comm]
    exact here.trans rest
  | failed more turned =>
    rw [List.countP_singleton]
    exact (open_.gains_turn short on bounded (Nat.le_of_lt more) turned).1

end Calls

/-! ## All writers that calls lead to -/

/-- A writer that has not failed has room for at least a byte. -/
theorem Reached.room (reached : Reached library start received size calls writer world) :
    writer.failed = true ∨ writer.filled < size ∧ writer.block.size = size := by
  cases reached with
  | sound open_ => exact .inr ⟨open_.filled_eq ▸ open_.room, open_.size_eq⟩
  | failed failed => exact .inl failed

/-- The blocks of calls are not empty, and no longer than a block. -/
theorem length_of_mem_blocksOf {block : Bytes} (mem : block ∈ blocksOf size calls) :
    1 ≤ block.length ∧ block.length ≤ size := by
  obtain ⟨run, -, chunk⟩ := List.mem_flatMap.1 mem
  obtain ⟨short, positive⟩ := Bytes.length_le_of_mem_chunks chunk
  exact ⟨positive, short⟩

section Fed

variable {writer : BlockWriter (Logged σ ι) ι} {world : World (Logged σ ι)}
  {start : CodecState (Logged σ ι) ι}

/-- A writer of blocks of calls has had nothing else compressed. -/
theorem fed_of_sent {blocks : List Bytes} (front : blocks <+: blocksOf size calls)
    (sent : writer.HasSent library.logged start received blocks world)
    (before : start.native.Only (LibraryCall.Feeds fun length => 1 ≤ length ∧ length ≤ size)) :
    world.native.Only (LibraryCall.Feeds fun length => 1 ≤ length ∧ length ≤ size) :=
  sent.only (fun _ mem _ _ => length_of_mem_blocksOf (front.subset mem)) before

theorem fed_of_ended {lost : Bool} {outcome : Closed × World (Logged σ ι)}
    (ended : Ended library.logged start received (blocksOf size calls) lost outcome)
    (before : start.native.Only (LibraryCall.Feeds fun length => 1 ≤ length ∧ length ≤ size)) :
    outcome.2.native.Only (LibraryCall.Feeds fun length => 1 ≤ length ∧ length ≤ size) := by
  have closes : library.logged.Closes fun world =>
      world.native.Only (LibraryCall.Feeds fun length => 1 ≤ length ∧ length ≤ size) :=
    Library.logged_closes LibraryCall.feeds_of_isHousekeeping
  cases ended with
  | @whole _ last _ _ sent =>
    rw [← sent.of_library] at closes
    exact last.kept_close closes (fed_of_sent List.prefix_rfl sent before)
  | @lost _ _ last _ _ front sent =>
    rw [← sent.of_library] at closes
    exact last.kept_close closes (fed_of_sent front sent before)

end Fed

/-- Whatever calls are made on a writer, and whatever library and sink answer to them, it has failed or
it has room. If it has failed then a write fails at once. If not then the loop of a write comes to one
end, which is what the write says; it stays within the block and the bytes, finds room in every turn,
emits at most one block more than the bytes fill, and has taken all of them when it succeeds. For each
block that it emits, and for nothing else, it has the library compress one block size of bytes, unless
the room for payloads is empty. All that the library is ever given to compress are inputs of 1 to a
block size of bytes. -/
theorem write_progresses (library : Library σ ι) (within : library.entries.ReportsWithin)
    {opened world : World (Logged σ ι)} {writer : BlockWriter (Logged σ ι) ι}
    (unused : world.native.calls = [])
    (created : (create library.logged sink options).runOn world = (.ok writer, opened))
    (calls : List WriterCall) :
    let size := options.blockSize
    let last := (writer.callEach calls opened).2.1
    let after := (writer.callEach calls opened).2.2
    let fed : World (Logged σ ι) → Prop := fun world =>
      world.native.Only (LibraryCall.Feeds fun length => 1 ≤ length ∧ length ≤ size)
    (last.failed = true ∨ last.filled < size ∧ last.block.size = size) ∧
    (last.failed = true → ∀ bytes,
      last.write bytes after = (.error (.error .writerFailed), last, after)) ∧
    (last.failed = false → ∀ bytes, ∃ turns,
      (∀ turns' outcome, Copies bytes 0 last after turns' outcome ↔
        turns' = turns ∧ outcome = last.write bytes after) ∧
      (∀ turn ∈ turns, 1 ≤ turn.room ∧ 1 ≤ turn.count) ∧
      turns.countP (·.emits) ≤ bytes.length / size + 1 ∧
      Logged.Gains size last.compressed.size (turns.countP (·.emits)) after.native
        (last.write bytes after).2.2.native ∧
      ∀ count, (last.write bytes after).1 = .ok count →
        count = bytes.length ∧ (turns.map (·.count)).sum = bytes.length) ∧
    fed after ∧ fed (last.finish after).2 ∧ fed (last.discard after).2 := by
  intro size last after fed
  have within := within.logged
  have positive : 0 < size := (create_ok created).2.1.positive
  have short : size ≤ maxNativeLength := (StreamOptions.isUsable_iff.1 (create_ok created).1).2
  have reached : Reached library.logged (freshState library.logged options world) sink.received size
      calls last after := (create_reached created).callEach within calls
  refine ⟨?_, fun failed bytes => write_of_failed failed bytes after, fun sound bytes => ?_, ?_⟩
  · exact reached.room
  · cases reached with
    | failed failed => cases failed.symm.trans sound
    | sound open_ sent =>
      obtain ⟨turns, outcome, copies, comes, progress⟩ :=
        open_.copies (Nat.zero_le bytes.length) after
      have room : last.compressed.size = library.logged.boundFor size world.native :=
        sent.sent.size_region
      have gained := copies.gains short open_ sent.of_library (room ▸ Library.boundFor_le ..)
      rw [List.drop_zero, ← open_.filled_eq, ← open_.size_eq, ← write_eq sound] at comes
      subst comes
      refine ⟨turns, fun turns' outcome => ⟨fun other => other.unique copies, ?_⟩, progress.room,
        ?_, gained, fun count succeeded => ⟨?_, progress.consumed count succeeded⟩⟩
      · rintro ⟨rfl, rfl⟩
        exact copies
      · have emitted := progress.emissions
        have held := open_.room
        rw [Nat.sub_zero] at emitted
        rw [← Nat.add_div_right _ positive, Nat.le_div_iff_mul_le positive]
        omega
      · rw [write_eq sound, written] at succeeded
        generalize (putAll _ _ _).1 = result at succeeded
        cases result with
        | error => cases succeeded
        | ok => exact (Except.ok.inj succeeded).symm
  · have before : (freshState library.logged options world).native.Only
        (LibraryCall.Feeds fun length => 1 ≤ length ∧ length ≤ size) :=
      maintains_create (Library.logged_obtains LibraryCall.feeds_of_isHousekeeping) {} options world
        (fun call mem => by rw [unused] at mem; cases mem)
    have given := WriterCall.progress_chunks positive calls
    obtain ⟨_, finished, -⟩ := reached.finish within positive
    obtain ⟨_, discarded, -⟩ := reached.discard within positive
    refine ⟨?_, fed_of_ended finished before, fed_of_ended discarded before⟩
    cases reached with
    | sound _ sent => exact fed_of_sent ⟨_, given⟩ sent before
    | failed _ front sent => exact fed_of_sent (front.trans ⟨_, given⟩) sent before

/-- A writer of two bytes a block that holds one of three bytes takes three more. -/
theorem write_progresses_stored :
    let writer : BlockWriter (Logged Simulated.State UInt32) UInt32 :=
      { session := .new Simulated.library.logged, sink := {}
        block := .heap (.zeros 2)
        compressed := .heap (.zeros (Simulated.library.logged.boundFor 2 ⟨{}, []⟩)) }
    let opened := Simulated.library.logged.asked 2 { native := ⟨{}, []⟩ }
    let last := (writer.callEach [.write [1, 2, 3]] opened).2.1
    let after := (writer.callEach [.write [1, 2, 3]] opened).2.2
    last.failed = false ∧ last.compressed.size ≠ 0 ∧ (last.write [4, 5, 6] after).1 = .ok 3 ∧
      ∃ turns, Copies [4, 5, 6] 0 last after turns (last.write [4, 5, 6] after) ∧
        (∀ turn ∈ turns, 1 ≤ turn.room ∧ 1 ≤ turn.count) ∧ turns.countP (·.emits) ≤ 2 ∧
        Logged.Gains 2 last.compressed.size (turns.countP (·.emits)) after.native
          (last.write [4, 5, 6] after).2.2.native := by
  intro writer opened last after
  have created : (create Simulated.library.logged {} { blockSize := 2 }).runOn
      { native := ⟨{}, []⟩ } = (.ok writer, opened) := by
    have usable : StreamOptions.isUsable ({ blockSize := 2 } : StreamOptions).blockSize = true := by
      decide
    rw [runOn_create, if_pos usable, Scratch.allocatePair_heap _ _ _ _ rfl]
  have sound : last.failed = false := by decide +kernel
  have room : last.compressed.size ≠ 0 := by decide +kernel
  have written : (last.write [4, 5, 6] after).1 = .ok 3 := by decide +kernel
  -- The run has been evaluated, and is not to be evaluated again.
  clear_value writer opened
  obtain ⟨-, -, progresses, -⟩ := write_progresses Simulated.library Simulated.reportsWithin rfl
    created [.write [1, 2, 3]]
  obtain ⟨turns, course, used, emissions, gained, -⟩ := progresses sound [4, 5, 6]
  exact ⟨sound, room, written, turns, (course _ _).2 ⟨rfl, rfl⟩, used, emissions, gained⟩

end BlockWriter

end OffloadCodec

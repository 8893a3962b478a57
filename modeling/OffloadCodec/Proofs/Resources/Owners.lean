import OffloadCodec.Proofs.Calls.Acts
import OffloadCodec.Proofs.Calls.Streams
import OffloadCodec.Proofs.Resources.Ledger

/-!
# The owners of native resources

Sessions own themselves once they are set up, buffers own their memory if it is from the library's
allocator, and a bench owns its session and both of its buffers. Whoever works keeps the same estate or
the one that the session's calls leave (`Trail.owns`, `Bench.Works.owns`); whoever is closed or released
gives its estate back, as far as the library can take it (`Session.owns_close`,
`NativeBuffer.owns_release`, `BlockWriter.owns_close`, `BlockReader.owns_close`).

`Act.Moves` says of an operation which estate it takes over and which one comes with its result. A
constructor takes nothing over and leaves nothing behind when it fails, wherever it fails
(`Scratch.moves_allocatePair`, `BlockWriter.moves_create`, `BlockReader.moves_create`).
-/

namespace OffloadCodec

variable {σ ι : Type} {library : Library σ ι}

/-! ## Sessions -/

/-- A codec call moves its session only. -/
theorem Owns.codecCall {state : Observed σ} {record : SessionRecord (Nat × ι)} {rest : Estate}
    (owns : Owns library state (.ofSession record.number? + rest)) (operation : Operation)
    (reply : CodecReply ι × σ) :
    Owns library (state.codec operation record reply).2
      (.ofSession (state.codec operation record reply).1.record.number? + rest) := by
  refine owns.codec ?_ reply.2 operation reply.1.status
  rw [SessionRecord.number?_numbered]
  cases reply.1.record.internal with
  | none => exact .inl rfl
  | some internal => exact .inr rfl

theorem Trail.owns {record last : SessionRecord (Nat × ι)} {state after : Observed σ}
    {refused : Option CodecError} {rest : Estate}
    (trail : Trail library.entries.observed record state refused last after)
    (owns : Owns library state (.ofSession record.number? + rest)) :
    Owns library after (.ofSession last.number? + rest) := by
  induction trail with
  | idle => exact owns
  | bound _ length ih => exact ih.bound _ length
  | compress _ input capacity ih => exact ih.codecCall .compress _
  | decompress _ input capacity ih => exact ih.codecCall .decompress _

namespace Session

/-- The session itself, if it is set up. -/
def estate (session : Session (Observed σ) (Nat × ι)) : Estate :=
  .ofSession session.record.number?

variable {session next : Session (Observed σ) (Nat × ι)} {world later : World (Observed σ)}
  {refused : Option CodecError} {rest : Estate}

theorem Continues.owns (on : session.library = library.observed)
    (continues : session.Continues world refused next later)
    (owns : Owns library world.native (session.estate + rest)) :
    Owns library later.native (next.estate + rest) := by
  have trail := continues.trail
  rw [on] at trail
  exact trail.owns owns

/-- Closing a session tears it down if it is set up. -/
theorem owns_close (on : session.library = library.observed)
    (owns : Owns library world.native (session.estate + rest)) :
    Owns library (session.close world).native rest := by
  rw [close]
  cases internal : session.record.internal with
  | none =>
    have unset : ¬ session.isSetUp = true := by
      rw [isSetUp, internal]
      exact Bool.false_ne_true
    rw [if_neg unset]
    have nothing : session.estate = 0 := by rw [estate, SessionRecord.number?, internal]; rfl
    rw [nothing, zero_add] at owns
    exact owns
  | some both =>
    have setUp : session.isSetUp = true := by rw [isSetUp, internal]; rfl
    rw [if_pos setUp]
    have number : session.record.number? = some both.1 := by
      rw [SessionRecord.number?, internal]
      rfl
    rw [estate, number] at owns
    cases teardown : library.entries.teardown with
    | none =>
      have absent : session.library.entries.teardown = none := by
        rw [on, Library.observed, EntryPoints.observed, teardown]
        rfl
      rw [absent]
      refine owns.abandon (fun _ => rfl) fun exported => ?_
      rw [teardown] at exported
      cases exported
    | some end_ =>
      have exported : session.library.entries.teardown = some fun record state =>
          ((end_ record.plain state.native).1, state.note (end_ record.plain state.native).2
            (.teardown record.number? (end_ record.plain state.native).1)) := by
        rw [on, Library.observed, EntryPoints.observed, teardown]
        rfl
      have gone := owns.teardown (by rw [teardown]; rfl)
        (end_ session.record.plain world.native.native).2
        (end_ session.record.plain world.native.native).1
      rw [exported]
      dsimp only
      rw [number]
      cases CodecError.ofStatus? .teardown
          (end_ session.record.plain world.native.native).1 with
      | none => exact gone
      | some e => exact gone

end Session

/-! ## Buffers -/

/-- Releasing a buffer frees it, if the library can take it. -/
theorem NativeBuffer.owns_release {world : World (Observed σ)} {rest : Estate} (buffer : NativeBuffer)
    (owns : Owns library world.native (.ofMemory (some buffer.address) + rest)) :
    Owns library (buffer.release library.observed world).native rest := by
  rw [release]
  cases free : library.entries.free with
  | none =>
    have absent : library.observed.entries.free = none := by
      rw [Library.observed, EntryPoints.observed, free]
      rfl
    rw [absent]
    refine owns.abandon (fun exported => ?_) fun _ => rfl
    rw [free] at exported
    cases exported
  | some free' =>
    have exported : library.observed.entries.free =
        some fun address state => state.note (free' address state.native) (.free address) := by
      rw [Library.observed, EntryPoints.observed, free]
      rfl
    rw [exported]
    exact owns.free (by rw [free]; rfl) _

namespace Scratch

/-- The buffer itself, if it is from the library's allocator. -/
def estate (scratch : Scratch) : Estate := .ofMemory scratch.address?

theorem owns_release {world : World (Observed σ)} {rest : Estate} (scratch : Scratch)
    (owns : Owns library world.native (scratch.estate + rest)) :
    Owns library (scratch.release library.observed world).native rest := by
  cases scratch with
  | heap memory => exact (zero_add rest).subst owns
  | native buffer => exact buffer.owns_release owns

end Scratch

/-! ## Benches -/

namespace Bench

/-- The session and the two buffers. -/
def estate (bench : Bench (Observed σ) (Nat × ι)) : Estate :=
  bench.session.estate + (.ofMemory bench.first + .ofMemory bench.second)

theorem Works.owns {bench next : Bench (Observed σ) (Nat × ι)} {world later : World (Observed σ)}
    {refused : Option CodecError} {rest : Estate} (on : bench.session.library = library.observed)
    (works : bench.Works world refused next later)
    (owns : Owns library world.native (bench.estate + rest)) :
    Owns library later.native (next.estate + rest) := by
  rw [estate, add_assoc] at owns ⊢
  rw [works.first, works.second]
  exact works.session.owns on owns

theorem Serves.owns {α : Type} {bench next : Bench (Observed σ) (Nat × ι)}
    {world later : World (Observed σ)} {result : Except StreamFailure α} {rest : Estate}
    (serves : bench.Serves world result next later)
    (on : bench.session.library = library.observed)
    (owns : Owns library world.native (bench.estate + rest)) :
    next.session.library = library.observed ∧ Owns library later.native (next.estate + rest) := by
  obtain ⟨_, works, -⟩ := serves
  exact ⟨works.session.library.trans on, works.owns on owns⟩

end Bench

section Closing

variable {world : World (Observed σ)} {rest : Estate}

theorem BlockWriter.owns_close {writer : BlockWriter (Observed σ) (Nat × ι)}
    (on : writer.session.library = library.observed)
    (owns : Owns library world.native (writer.bench.estate + rest)) :
    Owns library (writer.close world).native rest := by
  rw [Bench.estate, add_assoc, add_assoc] at owns
  have ended := Session.owns_close on owns
  rw [close, on]
  exact writer.compressed.owns_release (writer.block.owns_release ended)

theorem BlockReader.owns_close {reader : BlockReader (Observed σ) (Nat × ι)}
    (on : reader.session.library = library.observed)
    (owns : Owns library world.native (reader.bench.estate + rest)) :
    Owns library (reader.close world).native rest := by
  rw [Bench.estate, add_assoc, add_assoc] at owns
  have ended := Session.owns_close on owns
  rw [close, on]
  exact reader.block.owns_release (reader.compressed.owns_release ended)

end Closing

/-! ## Operations -/

/-- What is owned with a result: beside the rest, what comes with a success, and nothing with a failure,
unless that has stopped the program. -/
def Settled {ε α : Type} (library : Library σ ι) (stops : ε → Prop) (after : α → Estate)
    (rest : Estate) (result : Except ε α) (world : World (Observed σ)) : Prop :=
  match result with
  | .ok a => Owns library world.native (after a + rest)
  | .error e => ∃ left, Owns library world.native (left + rest) ∧ (left = 0 ∨ stops e)

namespace Act

variable {ε ε' α β : Type} {stops : ε → Prop} {before : Estate}

/-- The operation takes one estate over and leaves another with its result, beside whatever else is
owned. -/
def Moves (library : Library σ ι) (stops : ε → Prop) (before : Estate)
    (act : Act (Observed σ) ε α) (after : α → Estate) : Prop :=
  ∀ rest, act.Ensures (fun world => Owns library world.native (before + rest))
    (Settled library stops after rest)

theorem moves_pure (a : α) (after : α → Estate) :
    Moves library stops (after a) (pure a) after :=
  fun _ _ owns => owns

/-- The second part takes over what the first has left. -/
theorem Moves.bind {act : Act (Observed σ) ε α} {next : α → Act (Observed σ) ε β}
    {middle : α → Estate} {after : β → Estate} (first : Moves library stops before act middle)
    (later : ∀ a, (∃ world after, act.runOn world = (.ok a, after)) →
      Moves library stops (middle a) (next a) after) :
    Moves library stops before (act >>= next) after := by
  intro rest world owns
  have reached := first rest world owns
  rw [runOn_bind]
  rcases ran : act.runOn world with ⟨e | a, between⟩
  · rw [ran] at reached
    exact reached
  · rw [ran] at reached
    exact later a ⟨world, between, ran⟩ rest between reached

theorem Moves.mapError {act : Act (Observed σ) ε α} {after : α → Estate} {stops' : ε' → Prop}
    (moves : Moves library stops before act after) (wrap : ε → ε')
    (passes : ∀ e, stops e → stops' (wrap e)) :
    Moves library stops' before (act.mapError wrap) after := by
  intro rest world owns
  have reached := moves rest world owns
  rw [Act.mapError, runOn_of]
  generalize act.runOn world = outcome at reached ⊢
  obtain ⟨e | a, between⟩ := outcome
  · obtain ⟨left, owns', nothing⟩ := reached
    exact ⟨left, owns', nothing.imp id (passes e)⟩
  · exact reached

/-- Failures that stop the program may be taken for more than they are. -/
theorem Moves.mono {act : Act (Observed σ) ε α} {after : α → Estate} {stops' : ε → Prop}
    (moves : Moves library stops before act after) (passes : ∀ e, stops e → stops' e) :
    Moves library stops' before act after := by
  intro rest world owns
  have reached := moves rest world owns
  generalize act.runOn world = outcome at reached ⊢
  obtain ⟨e | a, between⟩ := outcome
  · obtain ⟨left, owns', nothing⟩ := reached
    exact ⟨left, owns', nothing.imp id (passes e)⟩
  · exact reached

/-- An operation that keeps every estate moves nothing. -/
theorem moves_of_maintains {act : Act (Observed σ) ε α}
    (maintains : ∀ estate, act.Maintains fun world => Owns library world.native estate) :
    Moves library stops 0 act fun _ => 0 := by
  intro rest world owns
  have reached := maintains (0 + rest) world owns
  generalize act.runOn world = outcome at reached ⊢
  obtain ⟨e | a, between⟩ := outcome
  · exact ⟨0, reached, .inl rfl⟩
  · exact reached

end Act

/-! ## Making -/

/-- Failures behind which the program goes on. -/
abbrev never {ε : Type} : ε → Prop := fun _ => False

/-- The failure that stops the program. It takes a library that reports lengths beyond the capacity. -/
abbrev overruns (library : Library σ ι) : StreamFailure → Prop :=
  fun e => e = .overrun ∧ ¬ library.entries.ReportsWithin

/-- If nothing stops the program then only what comes with a success is owned beside the rest. -/
theorem Settled.owns {ε α : Type} {after : α → Estate} {rest : Estate} {result : Except ε α}
    {world : World (Observed σ)} (settled : Settled library never after rest result world) :
    Owns library world.native (result.toOption.elim 0 after + rest) := by
  rcases result with e | a
  · obtain ⟨left, owns, rfl | impossible⟩ := settled
    · exact owns
    · exact impossible.elim
  · exact settled

theorem Library.owns_maxCompressedLength (library : Library σ ι) (length : Nat) (estate : Estate) :
    (library.observed.maxCompressedLength length).Maintains fun world =>
      Owns library world.native estate := by
  intro world owns
  rw [maxCompressedLength, Act.runOn_of]
  split
  · exact owns.bound _ _
  · exact owns

theorem Library.moves_maxCompressedLength (library : Library σ ι) (length : Nat) :
    Act.Moves library never 0 (library.observed.maxCompressedLength length) fun _ => 0 :=
  Act.moves_of_maintains (library.owns_maxCompressedLength length)

theorem Library.moves_blockBound (library : Library σ ι) (size : Nat) :
    Act.Moves library never 0 (library.observed.blockBound size) fun _ => 0 := by
  rw [blockBound]
  split
  · exact (library.moves_maxCompressedLength size).mapError _ nofun
  · exact Act.moves_of_maintains fun estate world owns => owns

theorem NativeBuffer.moves_allocate (library : Library σ ι) (size : Nat) (numa pinned : Bool) :
    Act.Moves library never 0 (NativeBuffer.allocate library.observed size numa pinned)
      fun buffer => .ofMemory (some buffer.address) := by
  intro rest world owns
  rw [zero_add] at owns
  rw [allocate, Act.runOn_of]
  split
  · exact ⟨0, by rwa [zero_add], .inl rfl⟩
  · have reply : library.observed.entries.malloc size numa pinned world.native =
        ((library.entries.malloc size numa pinned world.native.native).1,
          world.native.note (library.entries.malloc size numa pinned world.native.native).2
            (.malloc (library.entries.malloc size numa pinned world.native.native).1)) := rfl
    have granted := owns.malloc (library.entries.malloc size numa pinned world.native.native).2
      (library.entries.malloc size numa pinned world.native.native).1
    rw [reply]
    generalize library.entries.malloc size numa pinned world.native.native = answer at granted ⊢
    obtain ⟨_ | address, native⟩ := answer
    · exact ⟨0, granted, .inl rfl⟩
    · exact granted

namespace Scratch

theorem moves_allocate (library : Library σ ι) (size : Nat) (prefs : BufferPrefs) :
    Act.Moves library never 0 (allocate library.observed size prefs) estate := by
  rw [allocate]
  split
  · exact (NativeBuffer.moves_allocate library size prefs.numa prefs.forcePinned).bind
      fun buffer _ => Act.moves_pure (.native buffer) estate
  · exact Act.moves_pure (.heap (.zeros size)) estate

/-- A pair is there as a whole, or the buffer that was obtained is given back. -/
theorem moves_allocatePair (library : Library σ ι) (first second : Nat) (prefs : BufferPrefs) :
    Act.Moves library never 0 (allocatePair library.observed first second prefs)
      fun pair => pair.1.estate + pair.2.estate := by
  refine (moves_allocate library first prefs).bind fun one _ rest world owns => ?_
  have start : Owns library world.native (0 + (one.estate + rest)) := by rwa [zero_add]
  have reached := moves_allocate library second prefs (one.estate + rest) world start
  rw [Act.runOn_of]
  generalize (allocate library.observed second prefs).runOn world = outcome at reached ⊢
  obtain ⟨e | two, between⟩ := outcome
  · obtain ⟨left, owns, rfl | impossible⟩ := reached
    · rw [zero_add] at owns
      exact ⟨0, by rw [zero_add]; exact one.owns_release owns, .inl rfl⟩
    · exact impossible.elim
  · have both : Owns library between.native (two.estate + (one.estate + rest)) := reached
    rw [← add_assoc, add_comm two.estate] at both
    exact both

end Scratch

theorem BlockWriter.moves_create (library : Library σ ι) (sink : Sink) (options : StreamOptions) :
    Act.Moves library never 0 (create library.observed sink options) (·.bench.estate) := by
  refine (library.moves_blockBound options.blockSize).bind fun bound _ => ?_
  refine ((Scratch.moves_allocatePair library options.blockSize bound options.buffers).mapError
    _ nofun).bind fun pair _ rest world owns => ?_
  obtain ⟨block, compressed⟩ := pair
  -- The session of a new writer is not set up.
  change Owns library world.native (0 + (block.estate + compressed.estate) + rest)
  rwa [zero_add]

theorem BlockReader.moves_create (library : Library σ ι) (source : Source)
    (options : StreamOptions) :
    Act.Moves library never 0 (create library.observed source options) (·.bench.estate) := by
  refine (library.moves_blockBound options.blockSize).bind fun bound _ => ?_
  refine ((Scratch.moves_allocatePair library bound options.blockSize options.buffers).mapError
    _ nofun).bind fun pair _ rest world owns => ?_
  obtain ⟨compressed, block⟩ := pair
  change Owns library world.native (0 + (compressed.estate + block.estate) + rest)
  rwa [zero_add]

end OffloadCodec

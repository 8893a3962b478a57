import OffloadCodec.Proofs.SimulatedLibrary

/-!
# Libraries that latch the level

`LibraryCall` is a call of an entry point as the library sees it, from whoever it comes.

`EntryPoints.LatchesLevel` is what is assumed of a library here: the first codec call of a session
takes the level of the defaults over into the session, and from then on what a call of the session
does depends on that level, the input and the capacity only. Whatever else is called, by the
session's owner or by others, has no part in it; only replacing the defaults changes their level.

The simulated library latches levels as long as no statuses are chosen for its calls
(`Simulated.latchesLevel`). Its bounds, the data it restores and the lengths it reports may be
wrong.
-/

namespace OffloadCodec

variable {σ ι : Type}

/-- A call of an entry point. -/
inductive LibraryCall (ι : Type)
  | compress (record : SessionRecord ι) (input : Bytes) (capacity : UInt32) (last : Bool)
  | decompress (record : SessionRecord ι) (input : Bytes) (capacity : UInt32)
  | getDefaults (raw : RawParams)
  | setDefaults (raw : RawParams)
  | maxCompressedLength (length : UInt32)
  | malloc (size : Nat) (numa pinned : Bool)
  | free (address : Address)
  | teardown (record : SessionRecord ι)

namespace LibraryCall

/-- The call codes something for a session. -/
def isCodec : LibraryCall ι → Bool
  | compress .. => true
  | decompress .. => true
  | _ => false

/-- The call may replace the defaults. -/
def setsDefaults : LibraryCall ι → Bool
  | setDefaults _ => true
  | _ => false

/-- The call sets no session up and leaves the defaults alone. -/
def Idle (call : LibraryCall ι) : Prop := call.isCodec = false ∧ call.setsDefaults = false

/-- The library's state after the call. One without the entry point is not called. -/
def leaves (entries : EntryPoints σ ι) (native : σ) : LibraryCall ι → σ
  | compress record input capacity last =>
    (entries.compress record input capacity last native).2
  | decompress record input capacity => (entries.decompress record input capacity native).2
  | getDefaults raw => (entries.getDefaults raw native).2
  | setDefaults raw => (entries.setDefaults raw native).2
  | maxCompressedLength length => (entries.maxCompressedLength length native).2
  | malloc size numa pinned => (entries.malloc size numa pinned native).2
  | free address =>
    match entries.free with
    | some release => release address native
    | none => native
  | teardown record =>
    match entries.teardown with
    | some ending => (ending record native).2
    | none => native

end LibraryCall

/-- What a codec call comes to at a level. -/
structure CodecOutcome where
  status : Int32
  reported : UInt32
  written : Bytes
  /-- Bytes of the input that are counted if it succeeds. -/
  consumed : UInt64

namespace CodecOutcome

/-- Bytes that the session has taken in with the call. -/
def takenIn (outcome : CodecOutcome) : UInt64 :=
  if outcome.status = Status.ok then outcome.consumed else 0

/-- Bytes that the session has given out with the call. -/
def givenOut (outcome : CodecOutcome) : UInt64 :=
  if outcome.status = Status.ok then UInt64.ofNat outcome.written.length else 0

/-- The library replies with this outcome. -/
structure Matches (outcome : CodecOutcome) (reply : CodecReply ι) : Prop where
  status : reply.status = outcome.status
  reported : reply.reported = outcome.reported
  written : reply.written = outcome.written

/-- It does, the session has its level then, and what the call has coded is counted. -/
structure Answers (outcome : CodecOutcome) (latched : SessionRecord ι → Option UInt32)
    (level : UInt32) (record : SessionRecord ι) (reply : CodecReply ι) : Prop
    extends outcome.Matches reply where
  latched : latched reply.record = some level
  totalIn : reply.record.totalIn = record.totalIn + outcome.takenIn
  totalOut : reply.record.totalOut = record.totalOut + outcome.givenOut

end CodecOutcome

/-- What codec calls come to: from a level, an input and a capacity. -/
structure LevelCodec where
  compress : UInt32 → Bytes → UInt32 → CodecOutcome
  decompress : UInt32 → Bytes → UInt32 → CodecOutcome

/-- In normal states, which all calls keep, a session that has no level takes the one of the
defaults with its first codec call and keeps it, and what codec calls come to depends on the
session's level, the input and the capacity. A compression that succeeds has written what it
reports, and in any state it reports no more than the capacity. A length has one bound, and memory
of a size and kind is granted or refused. Only replacing the defaults changes their level. -/
structure EntryPoints.LatchesLevel (entries : EntryPoints σ ι) (normal : σ → Prop)
    (params : σ → RawParams) (latched : SessionRecord ι → Option UInt32) (codec : LevelCodec) : Prop
    extends entries.HoldsDefaults params where
  within : entries.ReportsWithin
  fresh : latched {} = none
  compress : ∀ record input capacity native, normal native →
    let level := (latched record).getD (params native).level
    (codec.compress level input capacity).Answers latched level record
      (entries.compress record input capacity true native).1
  decompress : ∀ record input capacity native, normal native →
    let level := (latched record).getD (params native).level
    (codec.decompress level input capacity).Answers latched level record
      (entries.decompress record input capacity native).1
  writes : ∀ level input capacity,
    let outcome := codec.compress level input capacity
    outcome.status = Status.ok → outcome.reported.toNat ≤ outcome.written.length
  bound : ∀ length native native', normal native → normal native' →
    (entries.maxCompressedLength length native).1 = (entries.maxCompressedLength length native').1
  malloc : ∀ size numa pinned native native', normal native → normal native' →
    (entries.malloc size numa pinned native).1.isSome =
      (entries.malloc size numa pinned native').1.isSome
  keeps : ∀ call native, normal native → normal (LibraryCall.leaves entries native call)
  keepsLevel : ∀ call native, normal native → call.setsDefaults = false →
    (params (LibraryCall.leaves entries native call)).level = (params native).level

namespace Simulated

/-- What codec calls of the simulated library come to. -/
def levelCodec (faults : Faults) : LevelCodec where
  compress level input capacity :=
    if capacity.toNat < input.length + 8 then ⟨Status.bufferError, 0, [], 0⟩
    else ⟨Status.ok, UInt32.ofNat (input.length + 8), stored level input,
      UInt64.ofNat input.length⟩
  decompress _ payload capacity :=
    match restore? payload with
    | none => ⟨Status.dataError, capacity, [], 0⟩
    | some data =>
      if capacity.toNat < data.length then ⟨Status.bufferError, capacity, [], 0⟩
      else ⟨Status.ok, UInt32.ofNat (faults.report.getD data.length),
        if faults.corrupt then data.modify (data.length - 1) (~~~ ·) else data,
        UInt64.ofNat (data.length + 8)⟩

/-- No statuses are chosen. -/
structure Unforced (faults : Faults) : Prop where
  next : faults.next = []
  always : faults.always = []

variable {state : State} {faults : Faults} (unforced : Unforced state.faults)
include unforced

theorem run_unforced (f : Function) : (chosen f).run state = pure (0, state) := by
  simp [chosen, unforced.next, unforced.always]

/-- A restoration, whatever is wrong with the data that it gives. -/
theorem decompress_unforced (record : SessionRecord UInt32) (payload : Bytes)
    (capacity : UInt32) :
    ∃ journal, library.entries.decompress record payload capacity state =
      (match restore? payload with
        | none => ⟨Status.dataError, capacity, [], setUpRecord record state⟩
        | some data =>
          if capacity.toNat < data.length then
            ⟨Status.bufferError, capacity, [], setUpRecord record state⟩
          else success (setUpRecord record state) (data.length + 8)
            (state.faults.report.getD data.length)
            (if state.faults.corrupt then data.modify (data.length - 1) (~~~ ·) else data),
        { state with journal }) := by
  obtain ⟨journal, prepared⟩ := run_setUp record state
  change ∃ journal, (decompress record payload capacity).run state = _
  simp only [decompress, StateT.run_bind, run_unforced unforced, pure_bind, ne_eq, not_true,
    if_false, prepared]
  cases restore? payload with
  | none => exact ⟨_, rfl⟩
  | some data =>
    simp only [StateT.run_get, pure_bind]
    split
    · exact ⟨_, rfl⟩
    · exact ⟨_, rfl⟩

/-- Of the library's state a call changes what it notes and counts, and the defaults if it may
replace them. -/
theorem leaves_unforced (call : LibraryCall UInt32) :
    ∃ defaults allocated journal,
      call.leaves library.entries state = { state with defaults, allocated, journal } ∧
        (call.setsDefaults = false → defaults = state.defaults) := by
  cases call with
  | compress record input capacity last =>
    cases last with
    | true =>
      obtain ⟨journal, done⟩ :=
        compress_chosen (run_unforced unforced .compress) record input capacity
      exact ⟨_, _, journal, congrArg Prod.snd done, fun _ => rfl⟩
    | false =>
      change ∃ defaults allocated journal,
        ((compress record input capacity false).run state).2 = _ ∧ _
      simp only [compress, StateT.run_bind, run_unforced unforced, pure_bind, ne_eq, not_true,
        if_false, Bool.not_false, if_true]
      exact ⟨_, _, _, rfl, fun _ => rfl⟩
  | decompress record payload capacity =>
    obtain ⟨journal, done⟩ := decompress_unforced unforced record payload capacity
    exact ⟨_, _, journal, congrArg Prod.snd done, fun _ => rfl⟩
  | getDefaults raw =>
    obtain ⟨journal, done⟩ := getDefaults_chosen (run_unforced unforced .getDefaults) raw
    exact ⟨_, _, journal, congrArg Prod.snd done, fun _ => rfl⟩
  | setDefaults raw =>
    obtain ⟨status, journal, done⟩ := setDefaults_chosen (run_unforced unforced .setDefaults) raw
    refine ⟨_, _, journal, congrArg Prod.snd done, fun spares => ?_⟩
    cases spares
  | maxCompressedLength length => exact ⟨_, _, _, rfl, fun _ => rfl⟩
  | malloc size numa pinned =>
    change ∃ defaults allocated journal, ((malloc size numa pinned).run state).2 = _ ∧ _
    simp only [malloc, StateT.run_bind, run_unforced unforced, pure_bind, StateT.run_get]
    split
    · exact ⟨_, _, _, rfl, fun _ => rfl⟩
    · exact ⟨_, _, _, rfl, fun _ => rfl⟩
  | free address => exact ⟨_, _, _, rfl, fun _ => rfl⟩
  | teardown record =>
    change ∃ defaults allocated journal, ((teardown record).run state).2 = _ ∧ _
    simp only [teardown, StateT.run_bind, run_unforced unforced, pure_bind]
    exact ⟨_, _, _, rfl, fun _ => rfl⟩

omit unforced

/-- A call that fails behind the set-up. -/
theorem answers_failed {status : Int32} (failed : status ≠ Status.ok) (reported : UInt32)
    (record : SessionRecord UInt32) (state : State) :
    (⟨status, reported, [], 0⟩ : CodecOutcome).Answers SessionRecord.internal
      (levelOf record state) record ⟨status, reported, [], setUpRecord record state⟩ where
  status := rfl
  reported := rfl
  written := rfl
  latched := rfl
  totalIn := by
    rw [CodecOutcome.takenIn, if_neg failed]
    exact (UInt64.add_zero _).symm
  totalOut := by
    rw [CodecOutcome.givenOut, if_neg failed]
    exact (UInt64.add_zero _).symm

theorem answers_success (record : SessionRecord UInt32) (state : State) (consumed reported : Nat)
    (written : Bytes) :
    (⟨Status.ok, UInt32.ofNat reported, written, UInt64.ofNat consumed⟩ : CodecOutcome).Answers
      SessionRecord.internal (levelOf record state) record
      (success (setUpRecord record state) consumed reported written) where
  status := rfl
  reported := rfl
  written := rfl
  latched := rfl
  totalIn := rfl
  totalOut := rfl

theorem latchesLevel (unforced : Unforced faults) :
    library.entries.LatchesLevel (·.faults = faults) (·.defaults) SessionRecord.internal
      (levelCodec faults) where
  toHoldsDefaults := holdsDefaults
  within := reportsWithin
  fresh := rfl
  compress record input capacity state steady := by
    subst steady
    obtain ⟨journal, done⟩ :=
      compress_chosen (run_unforced unforced .compress) record input capacity
    rw [done]
    dsimp only [levelCodec]
    rw [if_pos rfl]
    by_cases small : capacity.toNat < input.length + 8
    · rw [if_pos small, if_pos small]
      exact answers_failed bufferError_ne_ok 0 record state
    · rw [if_neg small, if_neg small]
      exact answers_success record state _ _ _
  decompress record payload capacity state steady := by
    subst steady
    obtain ⟨journal, done⟩ := decompress_unforced unforced record payload capacity
    rw [done]
    dsimp only [levelCodec]
    cases restore? payload with
    | none => exact answers_failed (by decide) capacity record state
    | some data =>
      dsimp only
      by_cases small : capacity.toNat < data.length
      · rw [if_pos small, if_pos small]
        exact answers_failed bufferError_ne_ok capacity record state
      · rw [if_neg small, if_neg small]
        exact answers_success record state _ _ _
  writes level input capacity := by
    dsimp only [levelCodec]
    by_cases small : capacity.toNat < input.length + 8
    · rw [if_pos small]
      exact fun succeeded => absurd succeeded bufferError_ne_ok
    · rw [if_neg small]
      have fits : input.length + 8 < UInt32.size :=
        Nat.lt_of_le_of_lt (Nat.le_of_not_lt small) capacity.toNat_lt_size
      intro _
      exact Nat.le_of_eq
        ((UInt32.toNat_ofNat_of_lt' fits).trans (length_stored level input).symm)
  bound length state state' steady steady' := by
    have same : state.faults.bound = state'.faults.bound := by rw [steady, steady']
    change UInt32.ofNat (min (state.faults.bound length.toNat) _) =
      UInt32.ofNat (min (state'.faults.bound length.toNat) _)
    rw [same]
  malloc size numa pinned state state' steady steady' := by
    subst steady'
    have unforced' : Unforced state.faults := steady ▸ unforced
    change ((malloc size numa pinned).run state).1.isSome =
      ((malloc size numa pinned).run state').1.isSome
    simp only [malloc, StateT.run_bind, run_unforced unforced, run_unforced unforced', pure_bind,
      StateT.run_get]
    split
    · rfl
    · rfl
  keeps call state steady := by
    subst steady
    obtain ⟨_, _, _, done, -⟩ := leaves_unforced unforced call
    rw [done]
  keepsLevel call state steady spares := by
    subst steady
    obtain ⟨_, _, _, done, kept⟩ := leaves_unforced unforced call
    rw [done, kept spares]

end Simulated

end OffloadCodec

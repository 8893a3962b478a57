import OffloadCodec.Proofs.Calls.Streams
import OffloadCodec.Proofs.Levels.Latches
import OffloadCodec.Proofs.Stream.LostFrames

/-!
# A library that keeps a log

`EntryPoints.logged` is a library that writes down every call with all that it was given, and does
with it what it does anyway. What a program has the library do can be read off the log behind it:
`Logged.Only` says that none but some calls were made.

A writer that has been given blocks has made the calls for them and no others
(`FrameWriter.HasSent.only`), and each frame that it writes takes one (`FrameWriter.gains_writeFrame`).
-/

namespace OffloadCodec

variable {σ ι : Type}

/-- A library's state and the calls that were made so far. -/
structure Logged (σ ι : Type) where
  native : σ
  calls : List (LibraryCall ι) := []

namespace Logged

/-- The library after one more call. -/
def after (state : Logged σ ι) (entries : EntryPoints σ ι) (call : LibraryCall ι) : Logged σ ι :=
  ⟨call.leaves entries state.native, state.calls ++ [call]⟩

/-- All calls that were made are of some kind. -/
def Only (allowed : LibraryCall ι → Prop) (state : Logged σ ι) : Prop :=
  ∀ call ∈ state.calls, allowed call

theorem Only.after {allowed : LibraryCall ι → Prop} {state : Logged σ ι} {call : LibraryCall ι}
    (only : state.Only allowed) (entries : EntryPoints σ ι) (here : allowed call) :
    (state.after entries call).Only allowed := by
  intro made mem
  rcases List.mem_append.1 mem with before | last
  · exact only made before
  · rwa [List.mem_singleton.1 last]

end Logged

/-- The library with a log. -/
def EntryPoints.logged (entries : EntryPoints σ ι) : EntryPoints (Logged σ ι) ι where
  compress record input capacity last state :=
    ((entries.compress record input capacity last state.native).1,
      state.after entries (.compress record input capacity last))
  decompress record input capacity state :=
    ((entries.decompress record input capacity state.native).1,
      state.after entries (.decompress record input capacity))
  getDefaults raw state :=
    ((entries.getDefaults raw state.native).1, state.after entries (.getDefaults raw))
  setDefaults raw state :=
    ((entries.setDefaults raw state.native).1, state.after entries (.setDefaults raw))
  maxCompressedLength length state :=
    ((entries.maxCompressedLength length state.native).1,
      state.after entries (.maxCompressedLength length))
  malloc size numa pinned state :=
    ((entries.malloc size numa pinned state.native).1,
      state.after entries (.malloc size numa pinned))
  free := entries.free.map fun _ address state => state.after entries (.free address)
  teardown := entries.teardown.map fun teardown record state =>
    ((teardown record state.native).1, state.after entries (.teardown record))

/-- The library with a log. -/
def Library.logged (library : Library σ ι) : Library (Logged σ ι) ι :=
  ⟨library.name, library.path?, library.entries.logged⟩

/-- A log has no part in what is reported. -/
theorem EntryPoints.ReportsWithin.logged {entries : EntryPoints σ ι}
    (within : entries.ReportsWithin) : entries.logged.ReportsWithin :=
  fun record input capacity state => within record input capacity state.native

/-! ## Calls for other purposes than coding -/

/-- Calls by which memory is obtained and given back. -/
def LibraryCall.isForMemory : LibraryCall ι → Bool
  | malloc .. => true
  | free _ => true
  | _ => false

/-- Calls by which buffers are obtained and given back, and sessions are ended. -/
def LibraryCall.isHousekeeping : LibraryCall ι → Bool
  | maxCompressedLength _ => true
  | malloc .. => true
  | free _ => true
  | teardown _ => true
  | _ => false

section Housekeeping

variable {library : Library σ ι} {allowed : LibraryCall ι → Prop}
  (housekeeping : ∀ call : LibraryCall ι, call.isHousekeeping = true → allowed call)
include housekeeping

theorem Library.logged_obtains :
    library.logged.Obtains fun world => world.native.Only allowed where
  maxCompressedLength _ _ only := only.after _ (housekeeping _ rfl)
  malloc _ _ _ _ only := only.after _ (housekeeping _ rfl)
  free free found address world only := by
    obtain ⟨_, -, rfl⟩ := Option.map_eq_some_iff.1 found
    exact only.after _ (housekeeping _ rfl)

theorem Library.logged_closes : library.logged.Closes fun world => world.native.Only allowed where
  free := (Library.logged_obtains housekeeping).free
  teardown teardown found record world only := by
    obtain ⟨_, -, rfl⟩ := Option.map_eq_some_iff.1 found
    exact only.after _ (housekeeping _ rfl)
  say _ _ _ only := only

end Housekeeping

/-! ## Calls for blocks -/

section Blocks

variable {entries : EntryPoints σ ι} {kept : σ → Prop} {good : Bytes → Prop}
  (step : ∀ record block capacity native, good block → kept native →
    kept (entries.compress record block capacity true native).2)
include step

theorem EntryPoints.compressNext_keeps {state : CodecState σ ι} {block : Bytes}
    (here : good block) (before : kept state.native) :
    kept (entries.compressNext state block).2.native := by
  rw [compressNext]
  split
  · exact before
  · exact step _ _ _ _ here before

theorem EntryPoints.codeEach_keeps {state last : CodecState σ ι} {blocks : List Bytes}
    {result : Except StreamFailure (List Bytes)} (all : ∀ block ∈ blocks, good block)
    (before : kept state.native)
    (coded : codeEach entries.compressNext state blocks = (result, last)) : kept last.native := by
  induction blocks generalizing state result with
  | nil =>
    cases coded
    exact before
  | cons block blocks ih =>
    obtain ⟨here, others⟩ := List.forall_mem_cons.1 all
    have between := compressNext_keeps step here before
    rw [codeEach] at coded
    generalize entries.compressNext state block = outcome at between coded
    obtain ⟨_ | payload, middle⟩ := outcome
    · cases coded
      exact between
    · dsimp only at coded
      rcases rest : codeEach entries.compressNext middle blocks with ⟨_ | payloads, after⟩
      · rw [rest] at coded
        cases coded
        exact ih others between rest
      · rw [rest] at coded
        cases coded
        exact ih others between rest

/-- What the calls for good blocks keep is still there when the blocks were given to a writer. -/
theorem Sent.keeps {start state : CodecState σ ι} {received : Bytes} {blocks : List Bytes}
    {sink : Sink} {failed : Bool} (sent : Sent entries start received blocks sink state failed)
    (all : ∀ block ∈ blocks, good block) (before : kept start.native) : kept state.native := by
  cases sent with
  | whole coded => exact EntryPoints.codeEach_keeps step all before coded
  | @rejected _ _ block _ _ _ _ coded rejected =>
    obtain ⟨earlier, last⟩ := List.forall_mem_append.1 all
    have between := EntryPoints.codeEach_keeps step earlier before coded
    have after := EntryPoints.compressNext_keeps step (last block (List.mem_singleton_self _)) between
    rwa [rejected] at after
  | @broken _ _ block _ _ _ _ _ _ _ _ coded compressed =>
    obtain ⟨earlier, last⟩ := List.forall_mem_append.1 all
    have between := EntryPoints.codeEach_keeps step earlier before coded
    have after := EntryPoints.compressNext_keeps step (last block (List.mem_singleton_self _)) between
    rwa [compressed] at after

end Blocks

/-! ## Calls of emissions -/

/-- Behind the calls before there is one for each block of some length that was emitted. The codec is
not reached at all if there is no room for its output. -/
def Logged.Gains (length room emitted : Nat) (before after : Logged σ ι) : Prop :=
  ∃ made, after.calls = before.calls ++ made ∧
    made.length = (if room = 0 then 0 else emitted) ∧
    ∀ call ∈ made, ∃ record block capacity,
      call = .compress record block capacity true ∧ block.length = length

section Gains

variable {length room : Nat}

theorem Logged.Gains.none (state : Logged σ ι) : Gains length room 0 state state :=
  ⟨[], (List.append_nil _).symm, (ite_self _).symm, fun _ mem => absurd mem List.not_mem_nil⟩

theorem Logged.Gains.trans {first second : Nat} {before between after : Logged σ ι}
    (one : Gains length room first before between) (two : Gains length room second between after) :
    Gains length room (first + second) before after := by
  obtain ⟨made, calls, count, each⟩ := one
  obtain ⟨made', calls', count', each'⟩ := two
  refine ⟨made ++ made', ?_, ?_, List.forall_mem_append.2 ⟨each, each'⟩⟩
  · rw [calls', calls, List.append_assoc]
  · rw [List.length_append, count, count']
    split
    · rfl
    · rfl

/-- A frame takes one call. -/
theorem FrameWriter.gains_writeFrame {library : Library σ ι}
    {writer : FrameWriter (Logged σ ι) ι} {block : Bytes}
    (on : writer.session.library = library.logged) (short : block.length ≤ maxNativeLength)
    (bounded : writer.compressed.size ≤ maxNativeLength) (world : World (Logged σ ι)) :
    Logged.Gains block.length writer.compressed.size 1 world.native
      (writer.writeFrame block world).2.2.native := by
  have reached : (writer.writeFrame block world).2.2.native = (writer.session.compress
      (.whole (.ofBytes block)) (.whole writer.compressed.memory) world).world.native := by
    rw [writeFrame, compressBlock]
    dsimp only
    cases (writer.session.compress (.whole (.ofBytes block))
      (.whole writer.compressed.memory) world).result with
    | ok n => rfl
    | error e => rfl
  rw [reached, Session.compress]
  by_cases empty : writer.compressed.size = 0
  · cases checked : Session.lengths (.whole (.ofBytes block)) (.whole writer.compressed.memory)
        "compressor output buffer" with
    | error e => exact ⟨[], (List.append_nil _).symm, (if_pos empty).symm,
        fun _ mem => absurd mem List.not_mem_nil⟩
    | ok both =>
      obtain ⟨-, some, -⟩ := Session.lengths_ok_iff.1 checked
      exact absurd empty (Nat.ne_of_gt some)
  · have checked : Session.lengths (.whole (.ofBytes block)) (.whole writer.compressed.memory)
        "compressor output buffer" = .ok (UInt32.ofNat block.length,
          UInt32.ofNat writer.compressed.size) :=
      Session.lengths_ok_iff.2 ⟨short, Nat.pos_of_ne_zero empty, bounded, rfl⟩
    have input : (View.whole (.ofBytes block)).bytes = block := Memory.read_ofBytes block
    refine ⟨[.compress writer.session.record block (UInt32.ofNat writer.compressed.size) true], ?_,
      (if_neg empty).symm, fun call mem => ⟨_, block, _, List.mem_singleton.1 mem, rfl⟩⟩
    rw [checked]
    dsimp only [Session.accept]
    rw [on, input]
    rfl

end Gains

/-- A writer has made no other calls than those for the blocks that it was given. -/
theorem FrameWriter.HasSent.only {library : Library σ ι} {writer : FrameWriter (Logged σ ι) ι}
    {start : CodecState (Logged σ ι) ι} {received : Bytes} {blocks : List Bytes}
    {world : World (Logged σ ι)} {allowed : LibraryCall ι → Prop}
    (sent : writer.HasSent library.logged start received blocks world)
    (calls : ∀ block ∈ blocks, ∀ record capacity,
      allowed (.compress record block capacity true))
    (before : start.native.Only allowed) : world.native.Only allowed := by
  have step : ∀ record block capacity (state : Logged σ ι),
      (∀ record capacity, allowed (.compress record block capacity true)) → state.Only allowed →
      (library.logged.entries.compress record block capacity true state).2.Only allowed :=
    fun record block capacity state here only => only.after library.entries (here record capacity)
  exact sent.sent.keeps step calls before

end OffloadCodec

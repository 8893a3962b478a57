import OffloadCodec.Proofs.Calls.Trails

/-!
# A library that is observed

`EntryPoints.observed` is a library and a journal of its calls: every call goes through unchanged and
is noted behind the earlier ones with what came of it. A session is known by a number from the moment
the library has set it up, the number of calls that were made before the one that did.

Observing makes no difference: a trail of calls of the observed library is one of the library itself,
with the numbers and the journal left out, and each trail of the library can be observed
(`Trail.observed_iff`).
-/

namespace OffloadCodec

variable {σ ι : Type}

/-- A call of the native library and what came of it. -/
inductive NativeCall
  /-- Compressing or decompressing, with the session's number before and after it if the session was
  set up. -/
  | codec (operation : Operation) (before after : Option Nat) (status : Int32)
  /-- Reading or writing the process-wide defaults. -/
  | defaults (operation : Operation) (status : Int32)
  | bound (length : UInt32)
  /-- Asking for memory; without an address it was refused. -/
  | malloc (granted : Option Address)
  | free (address : Address)
  | teardown (session : Option Nat) (status : Int32)
deriving DecidableEq, Repr

/-- A library's state and the calls that were made so far. -/
structure Observed (σ : Type) where
  native : σ
  journal : List NativeCall := []

/-- One more call, which has led the library to a new state. -/
def Observed.note (state : Observed σ) (native : σ) (call : NativeCall) : Observed σ :=
  ⟨native, state.journal ++ [call]⟩

@[simp] theorem Observed.journal_note (state : Observed σ) (native : σ) (call : NativeCall) :
    (state.note native call).journal = state.journal ++ [call] := rfl

/-! ## Numbered sessions -/

namespace SessionRecord

/-- The number of the session, if it is set up. -/
def number? (record : SessionRecord (Nat × ι)) : Option Nat := record.internal.map (·.1)

/-- The record without the number. -/
def plain (record : SessionRecord (Nat × ι)) : SessionRecord ι :=
  ⟨record.internal.map (·.2), record.totalIn, record.totalOut⟩

/-- The record with a number, if it is set up. -/
def numbered (record : SessionRecord ι) (number : Nat) : SessionRecord (Nat × ι) :=
  ⟨record.internal.map (number, ·), record.totalIn, record.totalOut⟩

@[simp] theorem plain_numbered (record : SessionRecord ι) (number : Nat) :
    (record.numbered number).plain = record := by
  obtain ⟨_ | _, totalIn, totalOut⟩ := record <;> rfl

theorem number?_numbered (record : SessionRecord ι) (number : Nat) :
    (record.numbered number).number? = record.internal.map fun _ => number := by
  obtain ⟨_ | _, totalIn, totalOut⟩ := record <;> rfl

end SessionRecord

/-! ## The entry points -/

/-- Takes the reply to a codec call in: the session keeps its number, and one that is set up now gets
the next. -/
def Observed.codec (state : Observed σ) (operation : Operation) (record : SessionRecord (Nat × ι))
    (reply : CodecReply ι × σ) : CodecReply (Nat × ι) × Observed σ :=
  let after := reply.1.record.numbered (record.number?.getD state.journal.length)
  (⟨reply.1.status, reply.1.reported, reply.1.written, after⟩,
    state.note reply.2 (.codec operation record.number? after.number? reply.1.status))

/-- The library with a journal. -/
def EntryPoints.observed (entries : EntryPoints σ ι) : EntryPoints (Observed σ) (Nat × ι) where
  compress record input capacity last state :=
    state.codec .compress record (entries.compress record.plain input capacity last state.native)
  decompress record input capacity state :=
    state.codec .decompress record (entries.decompress record.plain input capacity state.native)
  getDefaults raw state :=
    let reply := entries.getDefaults raw state.native
    (reply.1, state.note reply.2 (.defaults .getDefaults reply.1.1))
  setDefaults raw state :=
    let reply := entries.setDefaults raw state.native
    (reply.1, state.note reply.2 (.defaults .setDefaults reply.1))
  maxCompressedLength length state :=
    let reply := entries.maxCompressedLength length state.native
    (reply.1, state.note reply.2 (.bound length))
  malloc size numa pinned state :=
    let reply := entries.malloc size numa pinned state.native
    (reply.1, state.note reply.2 (.malloc reply.1))
  free := entries.free.map fun free address state =>
    state.note (free address state.native) (.free address)
  teardown := entries.teardown.map fun teardown record state =>
    let reply := teardown record.plain state.native
    (reply.1, state.note reply.2 (.teardown record.number? reply.1))

/-- The library with a journal. -/
def Library.observed (library : Library σ ι) : Library (Observed σ) (Nat × ι) :=
  ⟨library.name, library.path?, library.entries.observed⟩

/-! ## Observing makes no difference -/

namespace Trail

variable {entries : EntryPoints σ ι} {record : SessionRecord (Nat × ι)} {state : Observed σ}
  {refused : Option CodecError}

/-- What the observed library does is what the library does. -/
theorem forget {last : SessionRecord (Nat × ι)} {after : Observed σ}
    (trail : Trail entries.observed record state refused last after) :
    Trail entries record.plain state.native refused last.plain after.native := by
  induction trail with
  | idle => exact .idle
  | bound _ length ih => exact .bound ih length
  | @compress middle between _ input capacity ih =>
    have next := Trail.compress ih input capacity
    rwa [← SessionRecord.plain_numbered
      (entries.compress middle.plain input capacity true between.native).1.record
      (middle.number?.getD between.journal.length)] at next
  | @decompress middle between _ input capacity ih =>
    have next := Trail.decompress ih input capacity
    rwa [← SessionRecord.plain_numbered
      (entries.decompress middle.plain input capacity between.native).1.record
      (middle.number?.getD between.journal.length)] at next

theorem observed_iff {last : SessionRecord ι} {native : σ} :
    Trail entries record.plain state.native refused last native ↔
      ∃ (last' : SessionRecord (Nat × ι)) (after : Observed σ),
        Trail entries.observed record state refused last' after ∧ last'.plain = last ∧
          after.native = native := by
  constructor
  · intro trail
    induction trail with
    | idle => exact ⟨record, state, .idle, rfl, rfl⟩
    | bound _ length ih =>
      obtain ⟨last, after, trail, rfl, rfl⟩ := ih
      exact ⟨last, _, .bound trail length, rfl, rfl⟩
    | compress _ input capacity ih =>
      obtain ⟨last, after, trail, rfl, rfl⟩ := ih
      exact ⟨_, _, .compress trail input capacity, SessionRecord.plain_numbered _ _, rfl⟩
    | decompress _ input capacity ih =>
      obtain ⟨last, after, trail, rfl, rfl⟩ := ih
      exact ⟨_, _, .decompress trail input capacity, SessionRecord.plain_numbered _ _, rfl⟩
  · rintro ⟨last, after, trail, rfl, rfl⟩
    exact trail.forget

end Trail

end OffloadCodec

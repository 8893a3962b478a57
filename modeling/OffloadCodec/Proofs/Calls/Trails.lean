import OffloadCodec.Session
import OffloadCodec.Stream.Scratch

/-!
# The calls of one session

An operation on a session leads the library from one state to another by a `Trail` of calls: codec
calls of that session, none of them behind one that was refused, and questions for bounds. The error
of a refused call is the result of the operation (`Refuses`).

`Session.Continues` adds what else becomes of the session and the world. An operation that works in
two buffers as well is on a `Bench`, and `Bench.Serves` says of it that it does so in this way and
keeps the buffers where they are. What serves can be put one behind the other (`Bench.Serves.then`).
-/

namespace OffloadCodec

variable {σ ι : Type}

/-- Calls of one session, one after another: from the session's record and the library's state to
both of them afterwards, and the error of the last call if it was refused. -/
inductive Trail (entries : EntryPoints σ ι) (record : SessionRecord ι) (native : σ) :
    Option CodecError → SessionRecord ι → σ → Prop
  | idle : Trail entries record native none record native
  | bound {last : SessionRecord ι} {between : σ}
    (before : Trail entries record native none last between) (length : UInt32) :
    Trail entries record native none last (entries.maxCompressedLength length between).2
  | compress {last : SessionRecord ι} {between : σ}
    (before : Trail entries record native none last between) (input : Bytes) (capacity : UInt32) :
    Trail entries record native
      (CodecError.ofStatus? .compress (entries.compress last input capacity true between).1.status)
      (entries.compress last input capacity true between).1.record
      (entries.compress last input capacity true between).2
  | decompress {last : SessionRecord ι} {between : σ}
    (before : Trail entries record native none last between) (input : Bytes) (capacity : UInt32) :
    Trail entries record native
      (CodecError.ofStatus? .decompress (entries.decompress last input capacity between).1.status)
      (entries.decompress last input capacity between).1.record
      (entries.decompress last input capacity between).2

theorem Trail.trans {entries : EntryPoints σ ι} {record middle last : SessionRecord ι}
    {native between after : σ} {refused : Option CodecError}
    (first : Trail entries record native none middle between)
    (second : Trail entries middle between refused last after) :
    Trail entries record native refused last after := by
  induction second with
  | idle => exact first
  | bound _ length ih => exact .bound ih length
  | compress _ input capacity ih => exact .compress ih input capacity
  | decompress _ input capacity ih => exact .decompress ih input capacity

/-- The error of a refused call is the result, carried as `carry` says. -/
def Refuses {ε α : Type} (carry : CodecError → ε) (refused : Option CodecError)
    (result : Except ε α) : Prop :=
  ∀ e, refused = some e → result = .error (carry e)

/-- A codec error as the failure of a stream operation. -/
def StreamFailure.ofCodec (e : CodecError) : StreamFailure := .error (.codec e)

section Refuses

variable {ε ε' α β : Type} {carry : CodecError → ε} {refused : Option CodecError}
  {result : Except ε α} {result' : Except ε' β}

theorem Refuses.none (carry : CodecError → ε) (result : Except ε α) : Refuses carry none result :=
  nofun

/-- Nothing was refused if there is a result. -/
theorem Refuses.eq_none {a : α} (refuses : Refuses carry refused (.ok a)) : refused = .none := by
  rcases refused with _ | e
  · rfl
  · cases refuses e rfl

/-- Behind a success there is nothing to pass on. -/
theorem Refuses.ok {a : α} (refuses : Refuses carry refused (.ok a)) (carry' : CodecError → ε')
    (result' : Except ε' β) : Refuses carry' refused result' := by
  rw [refuses.eq_none]
  exact .none _ _

theorem Refuses.map (refuses : Refuses carry refused result) (carry' : CodecError → ε')
    (passes : ∀ e, result = .error (carry e) → result' = .error (carry' e)) :
    Refuses carry' refused result' :=
  fun e refusal => passes e (refuses e refusal)

end Refuses

/-! ## Sessions -/

namespace Session

variable {session middle next : Session σ ι} {world between later : World σ}
  {refused : Option CodecError}

/-- The session makes calls. The files stay as they are. -/
structure Continues (session : Session σ ι) (world : World σ) (refused : Option CodecError)
    (next : Session σ ι) (later : World σ) : Prop where
  library : next.library = session.library
  trail : Trail session.library.entries session.record world.native refused next.record later.native
  files : later.files = world.files

theorem Continues.idle (session : Session σ ι) (world : World σ) :
    session.Continues world none session world :=
  ⟨rfl, .idle, rfl⟩

theorem Continues.trans (first : session.Continues world none middle between)
    (second : middle.Continues between refused next later) :
    session.Continues world refused next later := by
  obtain ⟨library, trail, files⟩ := second
  rw [first.library] at trail
  exact ⟨library.trans first.library, first.trail.trans trail, files.trans first.files⟩

theorem Continues.say (continues : session.Continues world refused next later) (level : Nat)
    (text : String) : session.Continues world refused next (later.say level text) :=
  ⟨continues.library, continues.trail, continues.files⟩

theorem compress_continues (session : Session σ ι) (input output : View) (world : World σ) :
    ∃ refused,
      session.Continues world refused (session.compress input output world).session
        (session.compress input output world).world ∧
      Refuses id refused (session.compress input output world).result := by
  rw [compress]
  rcases lengths input output "compressor output buffer" with e | ⟨length, capacity⟩
  · exact ⟨none, .idle session world, .none id _⟩
  · refine ⟨_, ⟨rfl, .compress .idle input.bytes capacity, rfl⟩, fun e refusal => ?_⟩
    simp only [accept, refusal, id]

theorem decompress_continues (session : Session σ ι) (input output : View) (world : World σ) :
    ∃ refused,
      session.Continues world refused (session.decompress input output world).session
        (session.decompress input output world).world ∧
      Refuses id refused (session.decompress input output world).result := by
  rw [decompress]
  rcases lengths input output "decompressor output buffer" with e | ⟨length, capacity⟩
  · exact ⟨none, .idle session world, .none id _⟩
  · refine ⟨_, ⟨rfl, .decompress .idle input.bytes capacity, rfl⟩, fun e refusal => ?_⟩
    simp only [accept, refusal, id]

theorem refuses_produced {served : Served σ ι} (refuses : Refuses id refused served.result) :
    Refuses id refused (produced served).result := by
  apply refuses.map id
  intro e failed
  rw [produced, failed]

/-- Asking for a bound is no codec call. -/
theorem maxCompressedLength_continues (session : Session σ ι) (length : Nat) (world : World σ) :
    session.Continues world none session
      ((session.library.maxCompressedLength length).runOn world).2 := by
  rw [Library.maxCompressedLength, Act.runOn_of]
  split
  · exact ⟨rfl, .bound .idle _, rfl⟩
  · exact .idle session world

theorem compressBytes_continues (session : Session σ ι) (input : Bytes) (world : World σ) :
    ∃ refused,
      session.Continues world refused (session.compressBytes input world).session
        (session.compressBytes input world).world ∧
      Refuses id refused (session.compressBytes input world).result := by
  have asks := session.maxCompressedLength_continues input.length world
  rw [compressBytes]
  rcases asked : (session.library.maxCompressedLength input.length).runOn world with
    ⟨e | bound, after⟩
  · rw [asked] at asks
    exact ⟨none, asks, .none id _⟩
  · rw [asked] at asks
    obtain ⟨refused, continues, refuses⟩ := session.compress_continues
      (.whole (.ofBytes input)) (.whole (.zeros (max bound 1))) after
    exact ⟨refused, asks.trans continues, refuses_produced refuses⟩

theorem decompressBytes_continues (session : Session σ ι) (input : Bytes) (max : Nat)
    (world : World σ) :
    ∃ refused,
      session.Continues world refused (session.decompressBytes input max world).session
        (session.decompressBytes input max world).world ∧
      Refuses id refused (session.decompressBytes input max world).result := by
  obtain ⟨refused, continues, refuses⟩ := session.decompress_continues
    (.whole (.ofBytes input)) (.whole (.zeros max)) world
  exact ⟨refused, continues, refuses_produced refuses⟩

end Session

/-! ## Sessions with buffers -/

/-- Where the buffer lies, if it is from the library's allocator. -/
def Scratch.address? : Scratch → Option Address
  | .heap _ => none
  | .native buffer => some buffer.address

@[simp] theorem Scratch.address?_withMemory (scratch : Scratch) (memory : Memory) :
    (scratch.withMemory memory).address? = scratch.address? := by
  cases scratch <;> rfl

/-- A session and where the two buffers that it works in lie. -/
structure Bench (σ ι : Type) where
  session : Session σ ι
  first : Option Address
  second : Option Address

namespace Bench

variable {bench middle next : Bench σ ι} {world between later : World σ}
  {refused : Option CodecError} {α β : Type}

/-- The session of a bench makes calls, and the buffers stay where they are. -/
structure Works (bench : Bench σ ι) (world : World σ) (refused : Option CodecError)
    (next : Bench σ ι) (later : World σ) : Prop where
  session : bench.session.Continues world refused next.session later
  first : next.first = bench.first
  second : next.second = bench.second

/-- An operation on a bench with this result: it makes calls, and a call that is refused is its
result. -/
def Serves (bench : Bench σ ι) (world : World σ) (result : Except StreamFailure α)
    (next : Bench σ ι) (later : World σ) : Prop :=
  ∃ refused, bench.Works world refused next later ∧ Refuses .ofCodec refused result

theorem Works.idle (bench : Bench σ ι) (world : World σ) : bench.Works world none bench world :=
  ⟨.idle bench.session world, rfl, rfl⟩

theorem Works.trans (one : bench.Works world none middle between)
    (two : middle.Works between refused next later) : bench.Works world refused next later :=
  ⟨one.session.trans two.session, two.first.trans one.first, two.second.trans one.second⟩

theorem Works.say (works : bench.Works world refused next later) (level : Nat) (text : String) :
    bench.Works world refused next (later.say level text) :=
  ⟨works.session.say level text, works.first, works.second⟩

/-- No call is made. -/
theorem Serves.idle (bench : Bench σ ι) (world : World σ) (result : Except StreamFailure α) :
    bench.Serves world result bench world :=
  ⟨none, .idle bench world, .none _ _⟩

theorem Serves.works {a : α} (serves : bench.Serves world (.ok a) next later) :
    bench.Works world none next later := by
  obtain ⟨refused, works, refuses⟩ := serves
  rwa [refuses.eq_none] at works

theorem Serves.then {a : α} {result : Except StreamFailure β}
    (one : bench.Serves world (.ok a) middle between)
    (two : middle.Serves between result next later) : bench.Serves world result next later := by
  obtain ⟨refused, works, refuses⟩ := two
  exact ⟨refused, one.works.trans works, refuses⟩

theorem Serves.map {result : Except StreamFailure α} {result' : Except StreamFailure β}
    (serves : bench.Serves world result next later)
    (passes : ∀ e, result = .error e → result' = .error e) :
    bench.Serves world result' next later := by
  obtain ⟨refused, works, refuses⟩ := serves
  exact ⟨refused, works, refuses.map _ fun e => passes _⟩

/-- An operation that goes on only after a success fails as it did. -/
theorem Serves.error {e : StreamFailure}
    (serves : bench.Serves world (.error e : Except _ α) next later) :
    bench.Serves world (.error e : Except StreamFailure β) next later :=
  serves.map fun _ failed => congrArg Except.error (Except.error.inj failed)

theorem Serves.ok {a : α} (serves : bench.Serves world (.ok a) next later)
    (result : Except StreamFailure β) : bench.Serves world result next later :=
  ⟨none, serves.works, .none _ _⟩

end Bench

end OffloadCodec

import OffloadCodec.Proofs.Calls.Lengths
import OffloadCodec.Proofs.Process.CInterface

/-!
# Lengths that a process returns

The facade and the C interface hand a length on to callers who have said how much room there is. In a
process whose libraries are honest, and are going to be (`Host.Honest`), they return no more than that
(`Host.Honest.keepsWithin`). Calls keep a process honest, whether they succeed or fail
(`Host.Honest.afterCalls`), so this holds at every moment of a run.

`Library.lengths_keep_within` puts this together with what holds of sessions, streams and workers. A
library that reports more than there was room for breaks all of it (`Library.lengths_beyond_capacity`).
-/

namespace OffloadCodec

variable {σ ι : Type}

namespace Host

variable {host other : Host σ ι} {library : Library σ ι}

/-- The libraries that the process has, and those that it may load, are honest. -/
structure Honest (host : Host σ ι) : Prop where
  bound : ∀ library, host.bound = some library → library.entries.Honest
  sessions : ∀ id session, (host.thread id).session = some session →
    session.library.entries.Honest
  loads : ∀ name world library after,
    (Library.openWith host.loader name).runOn world = (.ok library, after) →
    library.entries.Honest

/-! ## Calls keep a process honest -/

namespace Honest

theorem withWorld (honest : host.Honest) (world : World σ) : Honest { host with world } :=
  ⟨honest.bound, honest.sessions, honest.loads⟩

/-- A process that has an honest library from the start, and can load no other. -/
theorem of_bound {library : Library σ ι} (honest : library.entries.Honest) (world : World σ) :
    Host.Honest { world, loader := none, bound := some library } where
  bound other found := by
    obtain rfl := Option.some.inj found
    exact honest
  sessions id session held := by cases held
  loads name world library after := by rintro ⟨⟩

/-- What a thread is told has no part in it. -/
theorem of_mirrors {messages : Nat → String} (honest : other.Honest)
    (mirrors : host.Mirrors other messages) : host.Honest where
  bound library found := honest.bound library (mirrors.bound ▸ found)
  sessions id session found := honest.sessions id session (mirrors.session id ▸ found)
  loads name world library after opened :=
    honest.loads name world library after (mirrors.loader ▸ opened)

theorem boundLibrary (honest : host.Honest) (found : host.boundLibrary = .ok library) :
    library.entries.Honest := by
  unfold Host.boundLibrary Host.library at found
  cases bound : host.bound with
  | none =>
    rw [bound] at found
    cases found
  | some library' =>
    rw [bound] at found
    obtain rfl := Except.ok.inj found
    exact honest.bound library' bound

/-- The session that a thread's call runs on. -/
theorem session (honest : host.Honest) (found : host.boundLibrary = .ok library) (id : Nat) :
    ((host.thread id).session.getD (.new library)).library.entries.Honest := by
  cases held : (host.thread id).session with
  | none => exact honest.boundLibrary found
  | some session => exact honest.sessions id session held

theorem keepSession (honest : host.Honest) (id : Nat) {session : Session σ ι}
    (fine : session.library.entries.Honest) (world : World σ) :
    ({ host with world }.setThread id { host.thread id with session := some session }).Honest := by
  refine ⟨honest.bound, fun any session' held => ?_, honest.loads⟩
  rw [thread_setThread] at held
  split at held
  · obtain rfl := Option.some.inj held
    exact fine
  · exact honest.sessions any session' held

/-- A codec call that stays within its output leaves the process honest, and returns no more than
there is room for. -/
theorem serve {call : Session σ ι → World σ → Served σ ι} {dst : Memory} (honest : host.Honest)
    (id : Nat)
    (keeps : ∀ session world, (call session world).session.library = session.library)
    (within : ∀ session world n, session.library.entries.Honest →
      (call session world).result = .ok n → n.toNat ≤ dst.size) :
    (host.serve id dst call).host.Honest ∧
      ∀ n, (host.serve id dst call).result = .ok n → n ≤ dst.size := by
  rw [Host.serve, withSession]
  cases found : host.boundLibrary with
  | error e => exact ⟨honest, fun n returned => by cases returned⟩
  | ok library =>
    have fine := honest.session found id
    dsimp only
    have same := keeps ((host.thread id).session.getD (.new library)) host.world
    have bounded := fun n => within ((host.thread id).session.getD (.new library)) host.world n fine
    rw [← same] at fine
    generalize call ((host.thread id).session.getD (.new library)) host.world = served
      at fine bounded ⊢
    have later := honest.keepSession id fine served.world
    obtain ⟨e | n, session, output, world⟩ := served
    · exact ⟨later, fun n returned => by cases returned⟩
    · refine ⟨later, fun m returned => ?_⟩
      obtain rfl := Except.ok.inj returned
      exact bounded n rfl

theorem compress (honest : host.Honest) (id : Nat) (src : Memory) (length : Nat) (dst : Memory) :
    (host.compress id src length dst).host.Honest ∧
      ∀ n, (host.compress id src length dst).result = .ok n → n ≤ dst.size := by
  rw [Host.compress]
  cases View.range src 0 length with
  | error e => exact ⟨honest, fun n returned => by cases returned⟩
  | ok input =>
    refine honest.serve id (fun session world => ?_) fun session world n fine served =>
      Session.compress_within fine.compress served
    obtain ⟨refused, continues, -⟩ := session.compress_continues input (.whole dst) world
    exact continues.library

theorem decompress (honest : host.Honest) (id : Nat) (src : Memory) (offset length : Nat)
    (dst : Memory) :
    (host.decompress id src offset length dst).host.Honest ∧
      ∀ n, (host.decompress id src offset length dst).result = .ok n → n ≤ dst.size := by
  rw [Host.decompress]
  cases View.range src offset length with
  | error e => exact ⟨honest, fun n returned => by cases returned⟩
  | ok input =>
    refine honest.serve id (fun session world => ?_) fun session world n fine served =>
      Session.decompress_within fine.decompress served
    obtain ⟨refused, continues, -⟩ := session.decompress_continues input (.whole dst) world
    exact continues.library

/-- What is loaded and bound is honest. -/
theorem initFrom (honest : host.Honest) (name : String) : (host.initFrom name).2.Honest := by
  rw [Host.initFrom]
  cases bound : host.bound with
  | some library => exact honest
  | none =>
    dsimp only
    rcases opened : (Library.openWith host.loader name).runOn host.world with ⟨e | library, world⟩
    · exact bound ▸ honest.withWorld world
    · refine ⟨fun other found => ?_, honest.sessions, honest.loads⟩
      obtain rfl := Option.some.inj found
      exact honest.loads name host.world library world opened

theorem onLibrary {α : Type} (honest : host.Honest) (act : Library σ ι → Act σ CodecError α) :
    (host.onLibrary act).2.Honest := by
  rw [Host.onLibrary]
  cases host.boundLibrary with
  | error e => exact honest
  | ok library =>
    dsimp only
    rcases (act library).runOn host.world with ⟨e | a, world⟩
    · exact honest.withWorld world
    · exact honest.withWorld world

theorem facade (honest : host.Honest) (id : Nat) (call : FacadeCall) :
    (call.perform host id).host.Honest := by
  cases call with
  | init =>
    rw [FacadeCall.perform, bindDefault_eq]
    exact honest.initFrom _
  | compress src length dst => exact (honest.compress id src length dst).1
  | decompress src offset length dst => exact (honest.decompress id src offset length dst).1
  | maxCompressedLength length => exact honest.onLibrary _
  | allocateAligned capacity alignment granted => exact honest
  | setCompressionLevel level => exact honest.onLibrary _
  | libraryName => exact honest

/-- The C interface does to the process what the facade does, and tells threads of failures. -/
theorem interface (honest : host.Honest) (id : Nat) (call : CInterface.CCall) :
    (call.perform host id).2.Honest := by
  have same : host.Mirrors host fun id => (host.thread id).lastError :=
    ⟨rfl, rfl, rfl, fun _ => rfl, fun _ => rfl⟩
  cases outcome : call.outcome host id with
  | none =>
    rw [CInterface.perform_of_outcome_none outcome]
    exact honest
  | some reply =>
    refine of_mirrors ?_ (CInterface.perform_mirrors same outcome).2
    obtain ⟨request, -, rfl⟩ := Option.map_eq_some_iff.1 outcome
    cases request with
    | ok facade => exact honest.facade id facade
    | error e => exact honest

end Honest

/-- The process after calls of both kinds, each on a thread. -/
def afterCalls (host : Host σ ι) (calls : List (Nat × (FacadeCall ⊕ CInterface.CCall))) : Host σ ι :=
  calls.foldl (fun host call =>
    match call.2 with
    | .inl facade => (facade.perform host call.1).host
    | .inr interface => (interface.perform host call.1).2) host

theorem Honest.afterCalls (honest : host.Honest) (calls : List (Nat × (FacadeCall ⊕ CInterface.CCall))) :
    (host.afterCalls calls).Honest := by
  induction calls generalizing host with
  | nil => exact honest
  | cons call calls ih =>
    obtain ⟨id, facade | interface⟩ := call
    · exact ih (honest.facade id facade)
    · exact ih (honest.interface id interface)

/-! ## Lengths -/

/-- No call returns a length beyond the output region. A code of the C interface that is not negative
is a length. -/
structure KeepsWithin (host : Host σ ι) : Prop where
  compress : ∀ id src length dst n,
    (host.compress id src length dst).result = .ok n → n ≤ dst.size
  decompress : ∀ id src offset length dst n,
    (host.decompress id src offset length dst).result = .ok n → n ≤ dst.size
  cCompress : ∀ id src length dst, 0 ≤ (CInterface.compress host id src length dst).code →
    ∃ output, dst = some output ∧ (CInterface.compress host id src length dst).code ≤ output.size
  cDecompress : ∀ id src offset length dst,
    0 ≤ (CInterface.decompress host id src offset length dst).code →
    ∃ output, dst = some output ∧
      (CInterface.decompress host id src offset length dst).code ≤ output.size

theorem Honest.keepsWithin (honest : host.Honest) : host.KeepsWithin := by
  have negative : ∀ e, ¬0 ≤ CInterface.codeOf e := fun e =>
    Int.not_le.2 (CInterface.codeOf_range e).2
  have refused : ∀ id dst e, ¬0 ≤ (CInterface.refuse host id dst e).code := fun _ _ e =>
    negative (.codec e)
  have replies : ∀ {id : Nat} {answer : Answer σ ι Nat} {output : Memory},
      (∀ n, answer.result = .ok n → n ≤ output.size) →
      0 ≤ (CInterface.reply id answer).code → (CInterface.reply id answer).code ≤ output.size := by
    rintro id ⟨e | n, written, later⟩ output bounded returned
    · exact absurd returned (negative e)
    · exact Int.ofNat_le.2 (bounded n rfl)
  refine ⟨fun id src length dst => (honest.compress id src length dst).2,
    fun id src offset length dst => (honest.decompress id src offset length dst).2,
    fun id src length dst returned => ?_, fun id src offset length dst returned => ?_⟩
  · unfold CInterface.compress at returned ⊢
    split at returned
    · exact absurd returned (refused _ _ _)
    cases dst with
    | none => exact absurd returned (refused _ _ _)
    | some output =>
      dsimp only at returned ⊢
      split at returned
      · exact absurd returned (refused _ _ _)
      · next missing empty =>
        rw [if_neg missing, if_neg empty]
        exact ⟨output, rfl, replies (honest.compress id _ length output).2 returned⟩
  · unfold CInterface.decompress at returned ⊢
    split at returned
    · exact absurd returned (refused _ _ _)
    cases dst with
    | none => exact absurd returned (refused _ _ _)
    | some output =>
      dsimp only at returned ⊢
      split at returned
      · exact absurd returned (refused _ _ _)
      split at returned
      · exact absurd returned (refused _ _ _)
      · next missing empty near =>
        rw [if_neg missing, if_neg empty, if_neg near]
        exact ⟨output, rfl, replies (honest.decompress id _ offset length output).2 returned⟩

end Host

/-- If the libraries report no more than there was room for then nothing that takes a length from one
goes past the buffer that the length is about: no call returns more than its output has room for, in
a session, by the facade or through the C interface, vectors are as long as was reported, and writers,
readers and workers neither stop the program nor emit a frame with another length in its header. -/
theorem Library.lengths_keep_within {library : Library σ ι} {host : Host σ ι}
    (honest : library.entries.Honest) (served : host.Honest) :
    library.KeepsWithin ∧ ∀ calls, (host.afterCalls calls).KeepsWithin :=
  ⟨library.keepsWithin honest, fun calls => (served.afterCalls calls).keepsWithin⟩

namespace Simulated

/-- The simulated library with its faults left out. -/
def faultless : Library State UInt32 :=
  .ofEntryPoints "simulated"
    (library.entries.within (fun state => { state with faults := {} }) fun state _ => state)

theorem honest_faultless : faultless.entries.Honest := by
  refine ⟨fun record input capacity state =>
      reportsWithin record input capacity { state with faults := {} },
    fun record payload capacity state => ?_⟩
  have regular : Regular { state with faults := {} } := ⟨rfl, rfl, rfl, rfl, rfl⟩
  obtain ⟨journal, done⟩ := decompress_eq regular record payload capacity
  intro reply succeeded
  have replied : reply = _ := congrArg Prod.fst done
  rw [replied] at succeeded ⊢
  dsimp only at succeeded ⊢
  cases restored : restore? payload with
  | none => exact Nat.le_refl _
  | some data =>
    rw [restored] at succeeded
    dsimp only at succeeded ⊢
    by_cases small : capacity.toNat < data.length
    · rw [if_pos small] at succeeded
      exact absurd succeeded bufferError_ne_ok
    · have bounded := capacity.toNat_lt_size
      rw [if_neg small]
      simp only [success]
      rw [UInt32.toNat_ofNat_of_lt' (by omega)]
      exact Nat.le_of_not_lt small

end Simulated

namespace Library

/-- A process with a library that has no faults restores three bytes, for which there is room. -/
theorem lengths_keep_within_faultless :
    let host : Host Simulated.State UInt32 :=
      { world := { native := {} }, loader := none, bound := some Simulated.faultless }
    let answer := host.decompress 0 (.ofBytes [81, 90, 77, 1, 3, 0, 0, 0, 1, 2, 3]) 0 11 (.zeros 3)
    answer.result = .ok 3 ∧ 3 ≤ (Memory.zeros 3).size ∧ Simulated.faultless.KeepsWithin := by
  intro host answer
  have served : host.Honest := .of_bound Simulated.honest_faultless _
  have returned : answer.result = .ok 3 := by decide +kernel
  obtain ⟨streams, calls⟩ := lengths_keep_within Simulated.honest_faultless served
  exact ⟨returned, (calls []).decompress _ _ _ _ _ _ returned, streams⟩

/-- A library reports four bytes where there was room for three: the session returns that, the vector
is shorter, and a reader of blocks of three bytes stops the program. -/
theorem lengths_beyond_capacity :
    let world : World Simulated.State := { native := { faults := { report := some 4 } } }
    let session : Session Simulated.State UInt32 := .new Simulated.library
    let payload : Bytes := [81, 90, 77, 1, 3, 0, 0, 0, 1, 2, 3]
    (session.decompress (.whole (.ofBytes payload)) (.whole (.zeros 3)) world).result = .ok 4 ∧
      ¬(4 : UInt32).toNat ≤ (View.whole (.zeros 3)).length ∧
      (session.decompressBytes payload 3 world).result = .ok [1, 2, 3] ∧
      BlockReader.use Simulated.library (.ofBytes (Frame.frame payload)) { blockSize := 3 } [4] world =
        .ok [.error .overrun] := by
  refine ⟨by decide +kernel, by decide, by decide +kernel, by decide +kernel⟩

end Library

end OffloadCodec

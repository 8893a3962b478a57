import OffloadCodec.Proofs.Calls.Statuses
import OffloadCodec.Proofs.CodecCalls
import OffloadCodec.Proofs.Parallel.SharedWork
import OffloadCodec.Proofs.Parallel.Stragglers
import OffloadCodec.Proofs.Stream.Splitting

/-!
# The failure that a parallel call returns

A parallel call succeeds only if no codec call failed. If some did then it returns the error of one of
them (`ReportsOne`), whatever the schedule is and however late the workers notice
(`Library.CompressesBlocks.reports`, `Library.DecompressesBlocks.reports`).

The reason is that either each block is coded by one codec call (`Pool.Codes`) or, where there is no
room for any output, none is (`Pool.Idles`), so that no block can fail beside the library. A run keeps
the failure to return and the calls together (`Pool.Runs.blames`).
-/

namespace OffloadCodec

variable {σ ι : Type} {library : Library σ ι}

/-- All statuses are zero, or the result is the error of a call that failed. -/
def ReportsOne {ε α : Type} (carry : CodecError → ε) (before : Observed σ) (result : Except ε α)
    (after : Observed σ) : Prop :=
  ∃ made, after.statuses = before.statuses ++ made ∧
    ((∀ status ∈ made, status.2 = 0) ∨
      ∃ operation code, (operation, code) ∈ made ∧ code ≠ 0 ∧
        result = .error (carry (.refusal operation code)))

/-- No statuses have come. -/
theorem ReportsOne.silent {ε α : Type} {carry : CodecError → ε} {before after : Observed σ}
    {result : Except ε α} (same : after.statuses = before.statuses) :
    ReportsOne carry before result after :=
  ⟨[], by rw [same, List.append_nil], .inl nofun⟩

/-- What went before has brought no statuses. -/
theorem ReportsOne.behind {ε α : Type} {carry : CodecError → ε} {before between after : Observed σ}
    {result : Except ε α} (reports : ReportsOne carry between result after)
    (same : between.statuses = before.statuses) : ReportsOne carry before result after := by
  obtain ⟨made, statuses, told⟩ := reports
  exact ⟨made, same ▸ statuses, told⟩

/-! ## One call for each block -/

/-- There was one codec call, and the result is what its status says. -/
def OneCall {α : Type} (before : Observed σ) (result : Except CodecError α) (after : Observed σ) :
    Prop :=
  ∃ operation code, after.statuses = before.statuses ++ [(operation, code)] ∧
    match CodecError.ofStatus? operation code with
    | none => ∃ a, result = .ok a
    | some e => result = .error e

/-- The call stays the same where its result is passed on. -/
theorem OneCall.map {α β : Type} {before after : Observed σ} {result : Except CodecError α}
    {result' : Except CodecError β} (call : OneCall before result after)
    (ok : ∀ a, result = .ok a → ∃ b, result' = .ok b)
    (error : ∀ e, result = .error e → result' = .error e) : OneCall before result' after := by
  obtain ⟨operation, code, statuses, told⟩ := call
  refine ⟨operation, code, statuses, ?_⟩
  cases found : CodecError.ofStatus? operation code with
  | none =>
    rw [found] at told
    obtain ⟨a, succeeded⟩ := told
    exact ok a succeeded
  | some e =>
    rw [found] at told
    exact error e told

theorem OneCall.of_ok {α : Type} {before after : Observed σ} {a : α}
    (call : OneCall before (.ok a) after) :
    ∃ operation, after.statuses = before.statuses ++ [(operation, 0)] := by
  obtain ⟨operation, code, statuses, told⟩ := call
  cases found : CodecError.ofStatus? operation code with
  | none =>
    obtain rfl : code = 0 := CodecError.ofStatus?_eq_none_iff.1 found
    exact ⟨operation, statuses⟩
  | some e =>
    rw [found] at told
    cases told

theorem OneCall.of_error {α : Type} {before after : Observed σ} {e : CodecError}
    (call : OneCall (α := α) before (.error e) after) :
    ∃ operation code, after.statuses = before.statuses ++ [(operation, code)] ∧ code ≠ 0 ∧
      e = .refusal operation code := by
  obtain ⟨operation, code, statuses, told⟩ := call
  by_cases zero : code = 0
  · have found : CodecError.ofStatus? operation code = none :=
      CodecError.ofStatus?_eq_none_iff.2 zero
    rw [found] at told
    obtain ⟨_, impossible⟩ := told
    cases impossible
  · rw [CodecError.ofStatus?_eq_refusal zero] at told
    exact ⟨operation, code, statuses, zero, Except.error.inj told⟩

namespace Session

variable {session : Session (Observed σ) (Nat × ι)} {input output : View}
  {world : World (Observed σ)} {both : UInt32 × UInt32} {e : CodecError}

/-- A session takes a reply in that came from one call. -/
theorem oneCall_accept (session : Session (Observed σ) (Nat × ι)) (operation : Operation)
    (output : View) (world : World (Observed σ)) (record : SessionRecord (Nat × ι))
    (reply : CodecReply ι × σ) :
    OneCall world.native
      (session.accept operation output world (world.native.codec operation record reply)).result
      (session.accept operation output world
        (world.native.codec operation record reply)).world.native := by
  refine ⟨operation, reply.1.status, world.native.statuses_codec operation record reply, ?_⟩
  have status : (world.native.codec operation record reply).1.status = reply.1.status := rfl
  simp only [accept, status]
  cases CodecError.ofStatus? operation reply.1.status with
  | none => exact ⟨_, rfl⟩
  | some e => rfl

theorem compress_oneCall (world : World (Observed σ)) (on : session.library = library.observed)
    (fits : lengths input output "compressor output buffer" = .ok both) :
    OneCall world.native (session.compress input output world).result
      (session.compress input output world).world.native := by
  rw [compress, fits, on]
  exact session.oneCall_accept .compress output world session.record _

theorem decompress_oneCall (world : World (Observed σ)) (on : session.library = library.observed)
    (fits : lengths input output "decompressor output buffer" = .ok both) :
    OneCall world.native (session.decompress input output world).result
      (session.decompress input output world).world.native := by
  rw [decompress, fits, on]
  exact session.oneCall_accept .decompress output world session.record _

theorem compress_refused (refused : lengths input output "compressor output buffer" = .error e) :
    session.compress input output world = ⟨.error e, session, output, world⟩ := by
  rw [compress, refused]

end Session

/-! ## Pools -/

namespace Pool

variable {code : Session (Observed σ) (Nat × ι) → Bytes → World (Observed σ) →
    Produced (Observed σ) (Nat × ι)} {blocks : Array Bytes} {schedule : Schedule}
  {failure last : Option CodecError} {pool pool' : Pool (Observed σ) (Nat × ι)}
  {world world' : World (Observed σ)}

/-- Each of the blocks is coded by one call, in a session that stays on the library. -/
structure Codes (library : Library σ ι)
    (code : Session (Observed σ) (Nat × ι) → Bytes → World (Observed σ) →
      Produced (Observed σ) (Nat × ι)) (blocks : Array Bytes) : Prop where
  stays : ∀ session block world, session.library = library.observed →
    (code session block world).session.library = library.observed
  calls : ∀ (session : Session (Observed σ) (Nat × ι)) (index : Nat) block world,
    session.library = library.observed → blocks[index]? = some block →
    OneCall world.native (code session block world).result (code session block world).world.native

/-- No block is coded by any call. -/
structure Idles (library : Library σ ι)
    (code : Session (Observed σ) (Nat × ι) → Bytes → World (Observed σ) →
      Produced (Observed σ) (Nat × ι)) : Prop where
  stays : ∀ session block world, session.library = library.observed →
    (code session block world).session.library = library.observed
  silent : ∀ session block world, session.library = library.observed →
    (code session block world).world.native.statuses = world.native.statuses

/-- The failure is that of a call that failed; without a failure no call did. -/
def Blames (made : List (Operation × Int32)) : Option CodecError → Prop
  | none => ∀ status ∈ made, status.2 = 0
  | some e => ∃ operation code, (operation, code) ∈ made ∧ code ≠ 0 ∧ e = .refusal operation code

/-- A call more does not clear the failure. -/
theorem Blames.append {made : List (Operation × Int32)} {e : CodecError} (blames : Blames made (some e))
    (more : List (Operation × Int32)) : Blames (made ++ more) (some e) := by
  obtain ⟨operation, code, member, nonzero, rfl⟩ := blames
  exact ⟨operation, code, List.mem_append_left _ member, nonzero, rfl⟩

/-- A call that succeeds makes no difference. -/
theorem Blames.zero {made : List (Operation × Int32)} (blames : Blames made failure)
    (operation : Operation) : Blames (made ++ [(operation, 0)]) failure := by
  cases failure with
  | some e => exact blames.append _
  | none =>
    intro status member
    rcases List.mem_append.1 member with member | member
    · exact blames status member
    · rw [List.mem_singleton.1 member]

/-- The sessions of a pool are on the library. -/
abbrev On (library : Library σ ι) (pool : Pool (Observed σ) (Nat × ι)) : Prop :=
  pool.Good (·.library = library.observed)

theorem Runs.blames (codes : Codes library code blocks)
    (runs : Runs code blocks schedule failure pool world last pool' world') (on : pool.On library) :
    pool'.On library ∧ ∃ made, world'.native.statuses = world.native.statuses ++ made ∧
      ∀ earlier, Blames earlier failure → Blames (earlier ++ made) last := by
  induction runs with
  | done =>
    refine ⟨on, [], (List.append_nil _).symm, fun earlier blames => ?_⟩
    rwa [List.append_nil]
  | absent _ _ ih => exact ih on
  | left _ ih => exact ih on
  | @coded worker index schedule failure last pool pool' world between world' block bytes session
      there coded _ ih =>
    have fine := on.session worker
    have stays := codes.stays _ block world fine
    have call := codes.calls _ index block world fine there
    rw [coded] at stays call
    obtain ⟨operation, statuses⟩ := call.of_ok
    obtain ⟨on', made, statuses', blames⟩ := ih (on.keep stays worker)
    refine ⟨on', (operation, 0) :: made, ?_, fun earlier blamed => ?_⟩
    · rw [statuses', statuses, List.append_assoc, List.singleton_append]
    · rw [List.append_cons]
      exact blames _ (blamed.zero operation)
  | @failed worker index schedule failure kept last pool pool' world between world' block e session
      there failed keeps _ ih =>
    have fine := on.session worker
    have stays := codes.stays _ block world fine
    have call := codes.calls _ index block world fine there
    rw [failed] at stays call
    obtain ⟨operation, status, statuses, nonzero, rfl⟩ := call.of_error
    obtain ⟨on', made, statuses', blames⟩ := ih (on.keep stays worker)
    refine ⟨on', (operation, status) :: made, ?_, fun earlier blamed => ?_⟩
    · rw [statuses', statuses, List.append_assoc, List.singleton_append]
    · rw [List.append_cons]
      apply blames
      rcases keeps with rfl | ⟨rfl, before⟩
      · have member : (operation, status) ∈ earlier ++ [(operation, status)] :=
          List.mem_append_right _ List.mem_cons_self
        exact ⟨operation, status, member, nonzero, rfl⟩
      · obtain ⟨e, rfl⟩ := Option.isSome_iff_exists.1 before
        exact blamed.append _

theorem Runs.silent (idles : Idles library code)
    (runs : Runs code blocks schedule failure pool world last pool' world') (on : pool.On library) :
    pool'.On library ∧ world'.native.statuses = world.native.statuses := by
  induction runs with
  | done => exact ⟨on, rfl⟩
  | absent _ _ ih => exact ih on
  | left _ ih => exact ih on
  | @coded worker _ _ _ _ pool _ world _ _ block _ _ _ coded _ ih =>
    have fine := on.session worker
    have stays := idles.stays _ block world fine
    have same := idles.silent _ block world fine
    rw [coded] at stays same
    obtain ⟨on', same'⟩ := ih (on.keep stays worker)
    exact ⟨on', same'.trans same⟩
  | @failed worker _ _ _ _ _ pool _ world _ _ block _ _ _ failed _ _ ih =>
    have fine := on.session worker
    have stays := idles.stays _ block world fine
    have same := idles.silent _ block world fine
    rw [failed] at stays same
    obtain ⟨on', same'⟩ := ih (on.keep stays worker)
    exact ⟨on', same'.trans same⟩

/-- Closing the sessions brings no statuses. -/
theorem statuses_close (on : pool.On library) (world : World (Observed σ)) :
    (pool.close world).native.statuses = world.native.statuses := by
  have each := on.2
  rw [close]
  generalize pool.sessions = sessions at each ⊢
  induction sessions generalizing world with
  | nil => rfl
  | cons entry sessions ih =>
    rw [List.foldl_cons, ih _ fun entry member => each entry (List.mem_cons_of_mem _ member)]
    exact entry.2.statuses_close world (each entry List.mem_cons_self)

end Pool

/-! ## Both calls -/

namespace Library

variable {world after : World (Observed σ)} {result : Except StreamFailure Bytes}
  {code : Session (Observed σ) (Nat × ι) → Bytes → World (Observed σ) →
    Produced (Observed σ) (Nat × ι)} {blocks : List Bytes} {schedule : Schedule}

theorem CodesBlocks.reports
    (coded : library.observed.CodesBlocks code blocks schedule world result after)
    (either : Pool.Codes library code blocks.toArray ∨ Pool.Idles library code) :
    ReportsOne .ofCodec world.native result after.native := by
  obtain ⟨failure, pool, last, runs, rfl, rfl⟩ := coded
  have on : Pool.On library { library := library.observed } := ⟨rfl, nofun⟩
  rcases either with codes | idles
  · obtain ⟨on', made, statuses, blames⟩ := runs.blames codes on
    refine ⟨made, (Pool.statuses_close on' last).trans statuses, ?_⟩
    have blamed : Pool.Blames made failure := blames [] nofun
    cases failure with
    | none => exact .inl blamed
    | some e =>
      obtain ⟨operation, status, member, nonzero, rfl⟩ := blamed
      exact .inr ⟨operation, status, member, nonzero, rfl⟩
  · obtain ⟨on', same⟩ := runs.silent idles on
    exact .silent ((Pool.statuses_close on' last).trans same)

theorem payload_inside (bound : Nat) :
    Frame.headerLength + bound ≤ (Memory.zeros (Frame.headerLength + bound)).size :=
  Nat.le_refl _

/-- The room for a payload behind the header. -/
abbrev payloadView (bound : Nat) : View :=
  ⟨.zeros (Frame.headerLength + bound), Frame.headerLength, bound, payload_inside bound⟩

theorem stays_compressFrame (bound : Nat) (session : Session (Observed σ) (Nat × ι)) (block : Bytes)
    (world : World (Observed σ)) (on : session.library = library.observed) :
    (compressFrame bound session block world).session.library = library.observed := by
  obtain ⟨_, continues, -⟩ :=
    session.compress_continues (.whole (.ofBytes block)) (payloadView bound) world
  exact continues.library.trans on

/-- Where there is room for a payload, a block is compressed by one call. -/
theorem codes_compressFrame {bound : Nat} (some : 0 < bound) (bounded : bound ≤ maxNativeLength)
    (fit : ∀ block ∈ blocks, block.length ≤ maxNativeLength) :
    Pool.Codes library (compressFrame bound) blocks.toArray where
  stays := stays_compressFrame bound
  calls session index block world on there := by
    rw [List.getElem?_toArray] at there
    have fits : Session.lengths (.whole (.ofBytes block)) (payloadView bound)
        "compressor output buffer" = .ok _ :=
      Session.lengths_ok_iff.2 ⟨fit block (List.mem_of_getElem? there), some, bounded, rfl⟩
    refine (session.compress_oneCall world on fits).map ?_ ?_
    · intro n reported
      rw [compressFrame]
      dsimp only
      rw [reported]
      exact ⟨_, rfl⟩
    · intro e failed
      rw [compressFrame]
      dsimp only
      rw [failed]

/-- Where there is none, no block is. -/
theorem idles_compressFrame : Pool.Idles library (compressFrame 0) where
  stays := stays_compressFrame 0
  silent session block world on := by
    have refused : ∃ e, Session.lengths (.whole (.ofBytes block)) (payloadView 0)
        "compressor output buffer" = .error e := by
      cases checked : Session.lengths (.whole (.ofBytes block)) (payloadView 0)
          "compressor output buffer" with
      | ok both => exact absurd (Session.lengths_ok_iff.1 checked).2.1 (Nat.lt_irrefl 0)
      | error e => exact ⟨e, rfl⟩
    obtain ⟨e, refused⟩ := refused
    rw [compressFrame]
    dsimp only
    rw [session.compress_refused refused]

/-- A payload is decompressed by one call. -/
theorem codes_decompressBytes {size : Nat} (some : 0 < size) (bounded : size ≤ maxNativeLength)
    (fit : ∀ payload ∈ blocks, payload.length ≤ maxNativeLength) :
    Pool.Codes library (fun session payload => session.decompressBytes payload size)
      blocks.toArray where
  stays session payload world on := by
    obtain ⟨_, continues, -⟩ := session.decompressBytes_continues payload size world
    exact continues.library.trans on
  calls session index payload world on there := by
    rw [List.getElem?_toArray] at there
    have fits : Session.lengths (.whole (.ofBytes payload)) (.whole (.zeros size))
        "decompressor output buffer" = .ok _ :=
      Session.lengths_ok_iff.2 ⟨fit payload (List.mem_of_getElem? there), some, bounded, rfl⟩
    refine (session.decompress_oneCall world on fits).map ?_ ?_
    · intro n reported
      rw [Session.decompressBytes, Session.produced]
      dsimp only
      rw [reported]
      exact ⟨_, rfl⟩
    · intro e failed
      rw [Session.decompressBytes, Session.produced]
      dsimp only
      rw [failed]

theorem statuses_asked (library : Library σ ι) (size : Nat) (world : World (Observed σ)) :
    (library.observed.asked size world).native.statuses = world.native.statuses :=
  (library.obtains_statuses world.native.statuses).maxCompressedLength _ world rfl

theorem CompressesBlocks.reports {data : Bytes} {blockSize : Nat} {schedule : Nat → Schedule}
    (coded : library.observed.CompressesBlocks data blockSize schedule world result after) :
    ReportsOne .ofCodec world.native result after.native := by
  rw [CompressesBlocks, runOn_blockBound] at coded
  by_cases usable : StreamOptions.isUsable blockSize = true
  · rw [if_pos usable] at coded
    dsimp only at coded
    obtain ⟨-, bounded⟩ := StreamOptions.isUsable_iff.1 usable
    have fit : ∀ block ∈ Bytes.chunks blockSize data, block.length ≤ maxNativeLength :=
      fun block member => Nat.le_trans (Bytes.length_le_of_mem_chunks member).1 bounded
    have either : Pool.Codes library
          (compressFrame (library.observed.boundFor blockSize world.native))
          (Bytes.chunks blockSize data).toArray ∨
        Pool.Idles library (compressFrame (library.observed.boundFor blockSize world.native)) := by
      rcases Nat.eq_zero_or_pos (library.observed.boundFor blockSize world.native) with none | some
      · rw [none]
        exact .inr idles_compressFrame
      · exact .inl (codes_compressFrame some (library.observed.boundFor_le _ _) fit)
    exact (coded.reports either).behind (library.statuses_asked blockSize world)
  · rw [if_neg usable] at coded
    obtain ⟨-, rfl⟩ := coded
    exact .silent rfl

theorem DecompressesBlocks.reports {stream : Bytes} {blockSize : Nat} {schedule : Nat → Schedule}
    (coded : library.observed.DecompressesBlocks stream blockSize schedule world result after) :
    ReportsOne .ofCodec world.native result after.native := by
  rw [DecompressesBlocks, runOn_blockBound] at coded
  by_cases usable : StreamOptions.isUsable blockSize = true
  · rw [if_pos usable] at coded
    dsimp only at coded
    obtain ⟨positive, bounded⟩ := StreamOptions.isUsable_iff.1 usable
    cases framed : Frame.split stream (library.observed.boundFor blockSize world.native) with
    | error e =>
      rw [framed] at coded
      obtain ⟨-, rfl⟩ := coded
      exact .silent (library.statuses_asked blockSize world)
    | ok payloads =>
      rw [framed] at coded
      obtain ⟨-, admissible⟩ := Frame.encode_of_split framed
      have fit : ∀ payload ∈ payloads, payload.length ≤ maxNativeLength := by
        intro payload member
        obtain ⟨-, within, -⟩ := admissible payload member
        exact Nat.le_trans within (library.observed.boundFor_le _ _)
      have codes : Pool.Codes library _ payloads.toArray :=
        codes_decompressBytes positive bounded fit
      exact (CodesBlocks.reports coded (.inl codes)).behind (library.statuses_asked blockSize world)
  · rw [if_neg usable] at coded
    obtain ⟨-, rfl⟩ := coded
    exact .silent rfl

end Library

end OffloadCodec

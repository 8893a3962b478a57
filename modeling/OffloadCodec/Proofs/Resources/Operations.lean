import OffloadCodec.LibraryCheck
import OffloadCodec.Proofs.Files.Transfers
import OffloadCodec.Proofs.Parallel.SharedWork
import OffloadCodec.Proofs.Parallel.Stragglers
import OffloadCodec.Proofs.Resources.Owners

/-!
# What operations on the library leave behind

Operations that make sessions and buffers of their own give all of them back: a writer that is finished
or discarded (`BlockWriter.Gone.owns`), the two file functions (`Library.moves_compressFile`,
`Library.moves_decompressFile`), blocks that are coded side by side
(`Library.CompressesBlocks.owns`, `Library.DecompressesBlocks.owns`) and the library check. The calls
for the defaults move nothing.

A writer that finds a length reported beyond its buffer stops the program, and then its bench is lost.
-/

namespace OffloadCodec

variable {σ ι : Type} {library : Library σ ι}

/-! ## The defaults -/

/-- The defaults are nobody's property. -/
theorem Library.updates_owns (library : Library σ ι) (estate : Estate) :
    library.observed.Updates fun world => Owns library world.native estate where
  reads _ _ owns := owns.defaults _ _ _
  writes _ _ owns := owns.defaults _ _ _
  notes _ _ owns := owns

/-! ## Writers that are gone -/

theorem EntryPoints.ReportsWithin.observed {entries : EntryPoints σ ι}
    (within : entries.ReportsWithin) : entries.observed.ReportsWithin :=
  fun record input capacity state => within record.plain input capacity state.native

/-- The bench of a writer that is gone is given back, unless the program has stopped. -/
theorem BlockWriter.Gone.owns {writer : BlockWriter (Observed σ) (Nat × ι)}
    {world : World (Observed σ)} {refused : Option CodecError} {rest : Estate}
    {outcome : Closed × World (Observed σ)} (on : writer.session.library = library.observed)
    (gone : writer.Gone world refused outcome)
    (owns : Owns library world.native (writer.bench.estate + rest)) :
    ∃ left, Owns library outcome.2.native (left + rest) ∧
      (left = 0 ∨ outcome.1.result = .error .overrun ∧ ¬ library.entries.ReportsWithin) := by
  obtain ⟨last, middle, works, ended⟩ := gone
  have held := works.owns on owns
  rcases ended with ⟨stopped, rfl, beyond⟩ | closed
  · rw [on] at beyond
    exact ⟨last.bench.estate, held, .inr ⟨stopped, fun within => beyond within.observed⟩⟩
  · have on' : last.session.library = library.observed := works.session.library.trans on
    refine ⟨0, ?_, .inl rfl⟩
    rw [closed, zero_add]
    exact last.owns_close on' held

/-! ## Files -/

theorem World.moves_openFile (path : String) :
    Act.Moves library never 0 (World.openFile path) fun _ => 0 := by
  apply Act.moves_of_maintains
  intro estate world owns
  rwa [World.native_openFile]

theorem World.moves_createFile (path : String) :
    Act.Moves library never 0 (World.createFile path) fun _ => 0 := by
  apply Act.moves_of_maintains
  intro estate world owns
  rwa [World.native_createFile]

namespace Library

theorem moves_compressInto {writer : BlockWriter (Observed σ) (Nat × ι)}
    (on : writer.session.library = library.observed)
    (done : writer.failed = true ∨ writer.failed = false ∧ writer.filled = 0)
    (input : FileTree.Handle) (place : Path) :
    Act.Moves library (overruns library) writer.bench.estate (compressInto input place writer)
      fun _ => 0 := by
  intro rest world owns
  obtain ⟨refused, closed, later, count, gone, -, ran⟩ := compressInto_gone input place world done
  obtain ⟨left, owns', nothing⟩ := gone.owns on owns
  rw [ran]
  obtain ⟨e | _, sink⟩ := closed
  · exact ⟨left, owns', nothing.imp id fun stopped => ⟨Except.error.inj stopped.1, stopped.2⟩⟩
  · rcases nothing with rfl | ⟨stopped, -⟩
    · exact owns'
    · cases stopped

theorem moves_decompressInto {reader : BlockReader (Observed σ) (Nat × ι)}
    (on : reader.session.library = library.observed) (place : Path) :
    Act.Moves library never reader.bench.estate (decompressInto place reader) fun _ => 0 := by
  intro rest world owns
  obtain ⟨refused, works, -⟩ := reader.readToEnd_serves world
  have held := works.owns on owns
  have on' := works.session.library.trans on
  rw [decompressInto, Act.runOn_of]
  generalize reader.readToEnd world = outcome at held on' ⊢
  obtain ⟨bytes, result, last, after⟩ := outcome
  have closed : Owns library (last.close after).native (0 + rest) := by
    rw [zero_add]
    exact last.owns_close on' held
  rcases result with e | _
  · exact ⟨0, closed, .inl rfl⟩
  · exact closed

theorem moves_compressFile (library : Library σ ι) (src dst : String) (options : StreamOptions)
    (level : Option Int32) :
    Act.Moves library (overruns library) 0 (library.observed.compressFile src dst options level)
      fun _ => 0 := by
  have sets : Act.Moves library (overruns library) 0 (level.elim (pure ()) fun level =>
      (library.observed.setCompressionLevel level).streamed) fun _ => 0 := by
    apply Act.moves_of_maintains
    intro estate
    cases level with
    | none => exact Act.maintains_pure _ _
    | some level =>
      exact (maintains_setCompressionLevel (library.updates_owns estate) level).mapError _
  rw [compressFile_eq]
  refine sets.bind fun _ _ => ?_
  refine ((World.moves_openFile src).mono nofun).bind fun input _ => ?_
  refine ((World.moves_createFile dst).mono nofun).bind fun place _ => ?_
  refine ((BlockWriter.moves_create library {} options).mono nofun).bind fun writer created => ?_
  obtain ⟨before, after, created⟩ := created
  obtain ⟨-, fresh, on, -⟩ := BlockWriter.create_ok created
  refine (moves_compressInto on (.inr ⟨fresh.sound, fresh.filled_eq⟩) input place).bind
    fun transfer _ => ?_
  exact Act.moves_of_maintains fun estate world owns => owns

theorem moves_decompressFile (library : Library σ ι) (src dst : String)
    (options : StreamOptions) :
    Act.Moves library never 0 (library.observed.decompressFile src dst options)
      fun _ => 0 := by
  refine (World.moves_openFile src).bind fun input _ => ?_
  refine Act.Moves.bind (Act.moves_of_maintains fun estate world owns => owns) fun bytesIn _ => ?_
  refine (BlockReader.moves_create library ⟨[]⟩ options).bind fun reader created => ?_
  obtain ⟨before, after, created⟩ := created
  obtain ⟨-, -, fresh, -⟩ := BlockReader.create_ok created
  have on : reader.session.library = library.observed := by rw [fresh]; rfl
  -- The reader is there before the destination: it is closed if that cannot be created.
  refine Act.Moves.bind (fun rest world owns => ?_) fun place _ =>
    (?_ : Act.Moves library never reader.bench.estate _ _)
  · have held : Owns library world.native (reader.bench.estate + rest) := owns
    rw [← World.native_createFile dst world] at held
    rw [Act.runOn_of]
    generalize (World.createFile dst).runOn world = outcome at held ⊢
    obtain ⟨e | place, between⟩ := outcome
    · exact ⟨0, by rw [zero_add]; exact reader.owns_close on held, .inl rfl⟩
    · exact held
  have sources : Act.Moves library never reader.bench.estate
      (Act.of fun world => (.ok (world.files.source input), world) :
        Act (Observed σ) StreamFailure Source) fun _ => reader.bench.estate :=
    fun rest world owns => owns
  refine sources.bind fun source _ => ?_
  have on' : ({ reader with source } : BlockReader _ _).session.library = library.observed := on
  refine (moves_decompressInto on' place).bind fun count _ => ?_
  exact Act.moves_of_maintains fun estate world owns => owns

end Library

/-! ## Workers -/

namespace Pool

variable {code : Session (Observed σ) (Nat × ι) → Bytes → World (Observed σ) →
    Produced (Observed σ) (Nat × ι)} {blocks : Array Bytes} {schedule : Schedule}
  {failure last : Option CodecError} {pool pool' : Pool (Observed σ) (Nat × ι)}
  {world world' : World (Observed σ)} {rest : Estate}

/-- The sessions of all workers. -/
def estate (pool : Pool (Observed σ) (Nat × ι)) : Estate := (pool.sessions.map (·.2.estate)).sum

/-- With one session for each worker, a worker's session and the others make up all of them. A worker
that has none would start with one that is not set up. -/
theorem estate_split (once : (pool.sessions.map (·.1)).Nodup) (worker : Nat) :
    pool.estate = (pool.session worker).estate +
      ((pool.sessions.filter (·.1 != worker)).map (·.2.estate)).sum := by
  rw [estate, session]
  generalize pool.sessions = sessions at once ⊢
  induction sessions with
  | nil => exact (zero_add _).symm
  | cons entry sessions ih =>
    obtain ⟨key, session⟩ := entry
    obtain ⟨fresh, once⟩ := List.nodup_cons.1 once
    by_cases here : worker = key
    · subst here
      have others : ∀ entry ∈ sessions, (entry.1 != worker) = true := by
        intro entry member
        rw [bne_iff_ne]
        rintro rfl
        exact fresh (List.mem_map.2 ⟨entry, member, rfl⟩)
      have rest : ((worker, session) :: sessions).filter (·.1 != worker) = sessions := by
        rw [List.filter_cons_of_neg, List.filter_eq_self.2 others]
        rw [bne_self_eq_false]
        exact Bool.false_ne_true
      rw [List.lookup_cons_self, rest]
      rfl
    · have looked : ((key, session) :: sessions).lookup worker = sessions.lookup worker := by
        rw [List.lookup_cons, beq_eq_false_iff_ne.2 here]
      have rest : ((key, session) :: sessions).filter (·.1 != worker) =
          (key, session) :: sessions.filter (·.1 != worker) :=
        List.filter_cons_of_pos (bne_iff_ne.2 (Ne.symm here))
      rw [looked, rest, List.map_cons, List.sum_cons, List.map_cons, List.sum_cons, ih once,
        add_left_comm]

/-- What workers own: one session each, on the library, beside the rest. -/
structure Held (library : Library σ ι) (rest : Estate) (pool : Pool (Observed σ) (Nat × ι))
    (world : World (Observed σ)) : Prop where
  good : pool.Good (·.library = library.observed)
  once : (pool.sessions.map (·.1)).Nodup
  owns : Owns library world.native (pool.estate + rest)

/-- Coding a block is nothing but calls of the session. -/
def Calls (code : Session (Observed σ) (Nat × ι) → Bytes → World (Observed σ) →
    Produced (Observed σ) (Nat × ι)) : Prop :=
  ∀ session block world, ∃ refused, Session.Continues session world refused
    (code session block world).session (code session block world).world

/-- A worker codes a block and keeps its session. -/
theorem Held.keep (calls : Calls code) (held : pool.Held library rest world) (worker : Nat)
    (block : Bytes) :
    (pool.keep worker (code (pool.session worker) block world).session).Held library rest
      (code (pool.session worker) block world).world := by
  obtain ⟨refused, continues⟩ := calls (pool.session worker) block world
  have on := held.good.session worker
  refine ⟨held.good.keep (continues.library.trans on) worker, ?_, ?_⟩
  · rw [Pool.keep, List.map_cons, List.nodup_cons]
    refine ⟨fun member => ?_, held.once.sublist (List.filter_sublist.map _)⟩
    obtain ⟨entry, kept, same⟩ := List.mem_map.1 member
    exact bne_iff_ne.1 (List.mem_filter.1 kept).2 same
  · have owns := held.owns
    rw [estate_split held.once worker, add_assoc] at owns
    have next := continues.owns on owns
    rwa [← add_assoc] at next

theorem Runs.held (calls : Calls code)
    (runs : Runs code blocks schedule failure pool world last pool' world')
    (held : pool.Held library rest world) : pool'.Held library rest world' := by
  induction runs with
  | done => exact held
  | absent _ _ ih => exact ih held
  | left _ ih => exact ih held
  | @coded worker _ _ _ _ _ _ _ _ _ block _ _ _ coded _ ih =>
    have next := held.keep calls worker block
    rw [coded] at next
    exact ih ⟨next.good, next.once, next.owns⟩
  | @failed worker _ _ _ _ _ _ _ _ _ _ block _ _ _ failed _ _ ih =>
    have next := held.keep calls worker block
    rw [failed] at next
    exact ih next

/-- Closing a pool closes the sessions of all workers. -/
theorem Held.close (held : pool.Held library rest world) :
    Owns library (pool.close world).native rest := by
  have each := held.good.2
  have owns := held.owns
  rw [estate] at owns
  rw [Pool.close]
  clear held
  generalize pool.sessions = sessions at each owns ⊢
  induction sessions generalizing world with
  | nil => exact (zero_add rest).subst owns
  | cons entry sessions ih =>
    rw [List.map_cons, List.sum_cons, add_assoc] at owns
    rw [List.foldl_cons]
    exact ih (fun entry member => each entry (List.mem_cons_of_mem _ member))
      (Session.owns_close (each entry List.mem_cons_self) owns)

theorem calls_compressFrame (bound : Nat) :
    Calls (Library.compressFrame bound : Session (Observed σ) (Nat × ι) → _) := by
  intro session block world
  obtain ⟨refused, continues, -⟩ := session.compress_continues (.whole (.ofBytes block))
    ⟨.zeros (Frame.headerLength + bound), Frame.headerLength, bound, Nat.le_refl _⟩ world
  exact ⟨refused, continues⟩

theorem calls_decompressBytes (size : Nat) :
    Calls fun (session : Session (Observed σ) (Nat × ι)) payload =>
      session.decompressBytes payload size := by
  intro session payload world
  obtain ⟨refused, continues, -⟩ := session.decompressBytes_continues payload size world
  exact ⟨refused, continues⟩

end Pool

namespace Library

variable {world after : World (Observed σ)} {result : Except StreamFailure Bytes} {rest : Estate}

theorem CodesBlocks.owns {code : Session (Observed σ) (Nat × ι) → Bytes → World (Observed σ) →
      Produced (Observed σ) (Nat × ι)} {blocks : List Bytes} {schedule : Schedule}
    (calls : Pool.Calls code)
    (coded : library.observed.CodesBlocks code blocks schedule world result after)
    (owns : Owns library world.native rest) : Owns library after.native rest := by
  obtain ⟨failure, pool, last, runs, rfl, -⟩ := coded
  have start : Pool.Held library rest { library := library.observed } world :=
    ⟨⟨rfl, nofun⟩, List.nodup_nil, (zero_add rest).symm.subst owns⟩
  exact (runs.held calls start).close

theorem CompressesBlocks.owns {data : Bytes} {blockSize : Nat} {schedule : Nat → Schedule}
    (coded : library.observed.CompressesBlocks data blockSize schedule world result after)
    (owns : Owns library world.native rest) : Owns library after.native rest := by
  rw [CompressesBlocks, runOn_blockBound] at coded
  by_cases usable : StreamOptions.isUsable blockSize = true
  · rw [if_pos usable] at coded
    exact CodesBlocks.owns (Pool.calls_compressFrame _) coded (owns.bound _ _)
  · rw [if_neg usable] at coded
    obtain ⟨-, rfl⟩ := coded
    exact owns

theorem DecompressesBlocks.owns {stream : Bytes} {blockSize : Nat} {schedule : Nat → Schedule}
    (coded : library.observed.DecompressesBlocks stream blockSize schedule world result after)
    (owns : Owns library world.native rest) : Owns library after.native rest := by
  rw [DecompressesBlocks, runOn_blockBound] at coded
  by_cases usable : StreamOptions.isUsable blockSize = true
  · rw [if_pos usable] at coded
    have asked := owns.bound
      (library.entries.maxCompressedLength (UInt32.ofNat blockSize) world.native.native).2
      (UInt32.ofNat blockSize)
    dsimp only at coded
    cases framed : Frame.split stream (library.observed.boundFor blockSize world.native) with
    | error e =>
      rw [framed] at coded
      obtain ⟨-, rfl⟩ := coded
      exact asked
    | ok payloads =>
      rw [framed] at coded
      exact CodesBlocks.owns (Pool.calls_decompressBytes blockSize) coded asked
  · rw [if_neg usable] at coded
    obtain ⟨-, rfl⟩ := coded
    exact owns

/-! ## The library check -/

/-- The session of a round trip is closed, wherever it fails. -/
theorem maintains_roundTrip (library : Library σ ι) (estate : Estate) :
    library.observed.roundTrip.Maintains fun world => Owns library world.native estate := by
  intro world owns
  have start : Owns library world.native ((Session.new library.observed).estate + estate) :=
    (zero_add estate).symm.subst owns
  obtain ⟨_, one, -⟩ := (Session.new library.observed).compressBytes_continues probe world
  have held := one.owns rfl start
  have on := one.library
  rw [roundTrip, Act.runOn_of]
  dsimp only
  generalize (Session.new library.observed).compressBytes probe world = compressed at held on ⊢
  obtain ⟨e | bytes, session, middle⟩ := compressed
  · exact Session.owns_close on held
  · obtain ⟨_, two, -⟩ := session.decompressBytes_continues bytes probe.length middle
    have held' := two.owns on held
    have on' := two.library.trans on
    dsimp only
    generalize session.decompressBytes bytes probe.length middle = restored at held' on' ⊢
    obtain ⟨e | bytes, session, last⟩ := restored
    · exact Session.owns_close on' held'
    · dsimp only
      split
      · exact Session.owns_close on' held'
      · exact Session.owns_close on' held'

theorem owns_check (library : Library σ ι) (all : Bool) (owns : Owns library world.native rest) :
    Owns library (library.observed.check all world).2.native rest := by
  rw [check]
  split
  · have reached := library.maintains_roundTrip rest world owns
    generalize library.observed.roundTrip.runOn world = outcome at reached ⊢
    obtain ⟨e | _, after⟩ := outcome
    · exact reached
    · exact reached
  · exact owns

end Library

end OffloadCodec

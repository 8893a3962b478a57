import OffloadCodec.Facade
import OffloadCodec.LibraryCheck
import OffloadCodec.Proofs.Calls.Statuses
import OffloadCodec.Proofs.Files.Transfers
import OffloadCodec.Proofs.Parallel.Blame

/-!
# No status is lost

Whatever the native library returns, an operation succeeds only if all calls that it made did, and its
error says which call failed and how (`Library.no_status_is_lost`). This goes through all layers:
sessions, writers and readers, the defaults, files, the facade, and blocks that are coded side by side.

Two things are left out, and are the only ones that lose a status: a writer that is dropped emits its
last block on a best effort basis, and a session that cannot be torn down only says so.
-/

namespace OffloadCodec

variable {σ ι : Type} {library : Library σ ι}

/-! ## Sessions -/

/-- Every operation of the session reports. -/
structure Session.Tells (session : Session (Observed σ) (Nat × ι)) : Prop where
  compress : ∀ input output world,
    let served := session.compress input output world
    Reports id world.native served.result served.world.native
  decompress : ∀ input output world,
    let served := session.decompress input output world
    Reports id world.native served.result served.world.native
  compressBytes : ∀ input world,
    let produced := session.compressBytes input world
    Reports id world.native produced.result produced.world.native
  decompressBytes : ∀ input max world,
    let produced := session.decompressBytes input max world
    Reports id world.native produced.result produced.world.native

section Sessions

variable {session next : Session (Observed σ) (Nat × ι)} {world later : World (Observed σ)}
  {refused : Option CodecError} {ε α : Type} {carry : CodecError → ε} {result : Except ε α}

theorem Session.Continues.reports (on : session.library = library.observed)
    (continues : session.Continues world refused next later) (refuses : Refuses carry refused result) :
    Reports carry world.native result later.native := by
  have trail := continues.trail
  rw [on] at trail
  exact trail.reports refuses

theorem Session.tells (on : session.library = library.observed) : session.Tells where
  compress input output world := by
    obtain ⟨refused, continues, refuses⟩ := session.compress_continues input output world
    exact continues.reports on refuses
  decompress input output world := by
    obtain ⟨refused, continues, refuses⟩ := session.decompress_continues input output world
    exact continues.reports on refuses
  compressBytes input world := by
    obtain ⟨refused, continues, refuses⟩ := session.compressBytes_continues input world
    exact continues.reports on refuses
  decompressBytes input max world := by
    obtain ⟨refused, continues, refuses⟩ := session.decompressBytes_continues input max world
    exact continues.reports on refuses

end Sessions

/-! ## Writers and readers -/

/-- Every operation of the writer reports. -/
structure BlockWriter.Tells (writer : BlockWriter (Observed σ) (Nat × ι)) : Prop where
  write : ∀ bytes world,
    Reports .ofCodec world.native (writer.write bytes world).1 (writer.write bytes world).2.2.native
  writeAll : ∀ bytes world,
    Reports .ofCodec world.native (writer.writeAll bytes world).1
      (writer.writeAll bytes world).2.2.native
  flush : ∀ world,
    Reports .ofCodec world.native (writer.flush world).1 (writer.flush world).2.2.native
  finish : ∀ world,
    Reports .ofCodec world.native (writer.finish world).1.result (writer.finish world).2.native

/-- Every operation of the reader reports. -/
structure BlockReader.Tells (reader : BlockReader (Observed σ) (Nat × ι)) : Prop where
  read : ∀ n world,
    Reports .ofCodec world.native (reader.read n world).1 (reader.read n world).2.2.native
  readExact : ∀ n world,
    Reports .ofCodec world.native (reader.readExact n world).1 (reader.readExact n world).2.2.native
  readToEnd : ∀ world,
    Reports .ofCodec world.native (reader.readToEnd world).2.1
      (reader.readToEnd world).2.2.2.native

section Streams

variable {world later : World (Observed σ)} {ε α : Type} {result : Except StreamFailure α}

theorem Bench.Serves.reports {bench next : Bench (Observed σ) (Nat × ι)}
    (on : bench.session.library = library.observed) (serves : bench.Serves world result next later) :
    Reports .ofCodec world.native result later.native := by
  obtain ⟨refused, works, refuses⟩ := serves
  exact works.session.reports on refuses

/-- A writer that is gone reports what it was refused, if that is the result. -/
theorem BlockWriter.Gone.reports {writer : BlockWriter (Observed σ) (Nat × ι)}
    {refused : Option CodecError} {outcome : Closed × World (Observed σ)}
    (on : writer.session.library = library.observed) (gone : writer.Gone world refused outcome)
    (refuses : Refuses .ofCodec refused result) :
    Reports .ofCodec world.native result outcome.2.native := by
  obtain ⟨last, middle, works, ended⟩ := gone
  have reports := works.session.reports on refuses
  rcases ended with ⟨-, rfl, -⟩ | closed
  · exact reports
  · have on' : last.session.library = library.observed := works.session.library.trans on
    have closes := library.closes_statuses middle.native.statuses
    rw [← on'] at closes
    rw [closed]
    exact reports.later (last.kept_close closes rfl)

theorem BlockWriter.tells {writer : BlockWriter (Observed σ) (Nat × ι)}
    (on : writer.session.library = library.observed) : writer.Tells where
  write bytes world := (writer.write_serves bytes world).reports on
  writeAll bytes world := (writer.writeAll_serves bytes world).reports on
  flush world := (writer.flush_serves world).reports on
  finish world := by
    obtain ⟨refused, gone, refuses⟩ := writer.finish_gone world
    exact gone.reports on refuses

theorem BlockReader.tells {reader : BlockReader (Observed σ) (Nat × ι)}
    (on : reader.session.library = library.observed) : reader.Tells where
  read n world := (reader.read_serves n world).reports on
  readExact n world := (reader.readExact_serves n world).reports on
  readToEnd world := (reader.readToEnd_serves world).reports on

end Streams

/-! ## The defaults -/

namespace Library

theorem reports_readRawDefaults (library : Library σ ι) :
    library.observed.readRawDefaults.Reports id := by
  intro world
  rw [runOn_readRawDefaults]
  refine .one (library.statuses_getDefaults .shipped world.native) fun e refusal => ?_
  dsimp only
  rw [refusal]
  rfl

theorem reports_writeRawDefaults (library : Library σ ι) (raw : RawParams) :
    (library.observed.writeRawDefaults raw).Reports id := by
  intro world
  rw [runOn_writeRawDefaults]
  refine .one (library.statuses_setDefaults raw world.native) fun e refusal => ?_
  dsimp only
  rw [refusal]
  rfl

theorem reports_updateDefaults (library : Library σ ι) (edit : CodecConfig → CodecConfig) :
    (library.observed.updateDefaults edit).Reports id := by
  intro world
  have read := library.reports_readRawDefaults world
  rw [runOn_updateDefaults]
  generalize library.observed.readRawDefaults.runOn world = outcome at read ⊢
  obtain ⟨e | raw, middle⟩ := outcome
  · exact read.fail id
  · have wrote := library.reports_writeRawDefaults ((edit (.ofRaw raw)).writeInto raw) middle
    dsimp only
    generalize (library.observed.writeRawDefaults ((edit (.ofRaw raw)).writeInto raw)).runOn
      middle = outcome at wrote ⊢
    obtain ⟨e | _, last⟩ := outcome
    · exact read.trans (wrote.fail id)
    · exact read.trans (wrote.ok _)

end Library

/-! ## Files -/

section Files

theorem World.silent_openFile (path : String) :
    (World.openFile path : Act (Observed σ) _ _).Silent :=
  fun _ world kept => (congrArg Observed.statuses (World.native_openFile path world)).trans kept

theorem World.silent_createFile (path : String) :
    (World.createFile path : Act (Observed σ) _ _).Silent :=
  fun _ world kept => (congrArg Observed.statuses (World.native_createFile path world)).trans kept

theorem BlockWriter.silent_create (library : Library σ ι) (sink : Sink) (options : StreamOptions) :
    (BlockWriter.create library.observed sink options).Silent :=
  fun statuses => BlockWriter.maintains_create (library.obtains_statuses statuses) sink options

theorem BlockReader.silent_create (library : Library σ ι) (source : Source)
    (options : StreamOptions) : (BlockReader.create library.observed source options).Silent :=
  fun statuses => BlockReader.maintains_create (library.obtains_statuses statuses) source options

namespace Library

/-- A new writer that is used up for a file reports. -/
theorem reports_compressInto {writer : BlockWriter (Observed σ) (Nat × ι)}
    (on : writer.session.library = library.observed)
    (done : writer.failed = true ∨ writer.failed = false ∧ writer.filled = 0)
    (input : FileTree.Handle) (place : Path) :
    (compressInto input place writer).Reports .ofCodec := by
  intro world
  obtain ⟨refused, closed, later, count, gone, refuses, ran⟩ :=
    compressInto_gone input place world done
  rw [ran]
  have passed : Refuses StreamFailure.ofCodec refused
      (closed.result.map fun _ => (⟨count, closed.sink.received.length⟩ : Transfer)) :=
    refuses.map _ fun e failed => by rw [failed]; rfl
  exact gone.reports on passed

theorem reports_decompressInto {reader : BlockReader (Observed σ) (Nat × ι)}
    (on : reader.session.library = library.observed) (place : Path) :
    (decompressInto place reader).Reports .ofCodec := by
  intro world
  have serves := reader.readToEnd_serves world
  rw [decompressInto, Act.runOn_of]
  generalize reader.readToEnd world = outcome at serves ⊢
  obtain ⟨bytes, result, last, after⟩ := outcome
  have on' : last.session.library = library.observed := by
    obtain ⟨_, works, -⟩ := serves
    exact works.session.library.trans on
  have closes := library.closes_statuses after.native.statuses
  rw [← on'] at closes
  have reports := (serves.reports on).later (last.kept_close closes rfl)
  rcases result with e | _
  · exact reports.fail id
  · exact reports.ok _

theorem silent_maxCompressedLength (library : Library σ ι) (length : Nat) :
    (library.observed.maxCompressedLength length).Silent := by
  intro statuses world kept
  rw [maxCompressedLength, Act.runOn_of]
  split
  · exact (library.obtains_statuses statuses).maxCompressedLength _ world kept
  · exact kept

theorem reports_setCompressionLevel (library : Library σ ι) (level : Int32) :
    (library.observed.setCompressionLevel level).Reports id :=
  (library.reports_updateDefaults _).bind fun _ _ => Act.reports_pure _

theorem reports_compressFile (library : Library σ ι) (src dst : String) (options : StreamOptions)
    (level : Option Int32) :
    (library.observed.compressFile src dst options level).Reports .ofCodec := by
  rw [compressFile_eq]
  refine Act.Reports.bind ?_ fun _ _ => ?_
  · cases level with
    | none => exact Act.reports_pure _
    | some level => exact (library.reports_setCompressionLevel level).mapError _
  refine (World.silent_openFile src).reports.bind fun input _ => ?_
  refine (World.silent_createFile dst).reports.bind fun place _ => ?_
  refine (BlockWriter.silent_create library {} options).reports.bind fun writer created => ?_
  obtain ⟨before, after, created⟩ := created
  obtain ⟨-, fresh, on, -⟩ := BlockWriter.create_ok created
  refine (reports_compressInto on (.inr ⟨fresh.sound, fresh.filled_eq⟩) input place).bind
    fun transfer _ => ?_
  exact Act.Reports.bind (fun world => .silent rfl) fun _ _ => Act.reports_pure _

theorem reports_decompressFile (library : Library σ ι) (src dst : String)
    (options : StreamOptions) :
    (library.observed.decompressFile src dst options).Reports .ofCodec := by
  refine (World.silent_openFile src).reports.bind fun input _ => ?_
  refine Act.Reports.bind (fun world => .silent rfl) fun bytesIn _ => ?_
  refine (BlockReader.silent_create library ⟨[]⟩ options).reports.bind fun reader created => ?_
  obtain ⟨before, after, created⟩ := created
  obtain ⟨-, -, fresh, -⟩ := BlockReader.create_ok created
  have on : reader.session.library = library.observed := by rw [fresh]; rfl
  refine Act.Reports.bind (fun world => ?_) fun place _ => ?_
  · have same := World.silent_createFile dst _ world rfl
    rw [Act.runOn_of]
    generalize (World.createFile dst).runOn world = outcome at same ⊢
    obtain ⟨e | place, between⟩ := outcome
    · have closes := library.closes_statuses between.native.statuses
      rw [← on] at closes
      exact .silent ((reader.kept_close closes rfl).trans same)
    · exact .silent same
  refine Act.Reports.bind (fun world => .silent rfl) fun source _ => ?_
  have on' : ({ reader with source } : BlockReader _ _).session.library = library.observed := on
  refine (reports_decompressInto on' place).bind fun count _ => ?_
  exact Act.Reports.bind (fun world => .silent rfl) fun _ _ => Act.reports_pure _

end Library

end Files

/-! ## The facade -/

/-- Every call of the process on its library reports. -/
structure Host.Tells (host : Host (Observed σ) (Nat × ι)) : Prop where
  compress : ∀ id src length dst,
    let answer := host.compress id src length dst
    Reports .codec host.world.native answer.result answer.host.world.native
  decompress : ∀ id src offset length dst,
    let answer := host.decompress id src offset length dst
    Reports .codec host.world.native answer.result answer.host.world.native
  maxCompressedLength : ∀ length,
    Reports .codec host.world.native (host.maxCompressedLength length).1
      (host.maxCompressedLength length).2.world.native
  setCompressionLevel : ∀ level,
    Reports .codec host.world.native (host.setCompressionLevel level).1
      (host.setCompressionLevel level).2.world.native

/-- If the process has bound a library then it is this one, and the sessions of its threads are on
it. -/
structure Host.On (host : Host (Observed σ) (Nat × ι)) (library : Library σ ι) : Prop where
  bound : ∀ bound, host.bound = some bound → bound = library.observed
  sessions : ∀ id session, (host.thread id).session = some session →
    session.library = library.observed

namespace Host

variable {host : Host (Observed σ) (Nat × ι)}

/-- Without a library there is nothing to call. -/
theorem boundLibrary_eq (on : host.On library) :
    host.boundLibrary = .ok library.observed ∨ ∃ e, host.boundLibrary = .error e := by
  rw [boundLibrary, Host.library]
  cases found : host.bound with
  | none => exact .inr ⟨_, rfl⟩
  | some bound =>
    rw [on.bound bound found]
    exact .inl rfl

/-- A call on a thread's session reports if it does in every session of the library. -/
theorem reports_serve (on : host.On library) (thread : Nat) (dst : Memory)
    (call : Session (Observed σ) (Nat × ι) → World (Observed σ) → Served (Observed σ) (Nat × ι))
    (tells : ∀ session world, session.library = library.observed →
      Reports id world.native (call session world).result (call session world).world.native) :
    Reports .codec host.world.native (host.serve thread dst call).result
      (host.serve thread dst call).host.world.native := by
  have there : ((host.thread thread).session.getD (.new library.observed)).library =
      library.observed := by
    cases found : (host.thread thread).session with
    | none => rfl
    | some session => exact on.sessions thread session found
  rw [serve, withSession]
  rcases boundLibrary_eq on with bound | ⟨e, bound⟩
  · have told := tells _ host.world there
    rw [bound]
    dsimp only
    generalize call ((host.thread thread).session.getD (.new library.observed)) host.world = served
      at told ⊢
    obtain ⟨e | n, session, output, world⟩ := served
    · exact told.fail OffloadError.codec
    · exact told.ok _
  · rw [bound]
    exact .silent rfl

theorem reports_onLibrary {α : Type} (on : host.On library)
    (act : Library (Observed σ) (Nat × ι) → Act (Observed σ) CodecError α)
    (tells : (act library.observed).Reports id) :
    Reports .codec host.world.native (host.onLibrary act).1
      (host.onLibrary act).2.world.native := by
  rw [onLibrary]
  rcases boundLibrary_eq on with bound | ⟨e, bound⟩
  · have told := tells host.world
    rw [bound]
    dsimp only
    generalize (act library.observed).runOn host.world = outcome at told ⊢
    obtain ⟨e | a, world⟩ := outcome
    · exact told.fail OffloadError.codec
    · exact told.ok _
  · rw [bound]
    exact .silent rfl

theorem tells (on : host.On library) : host.Tells where
  compress thread src length dst := by
    rw [compress]
    split
    · exact .silent rfl
    · exact reports_serve on thread dst _ fun session world on => (Session.tells on).compress _ _ _
  decompress thread src offset length dst := by
    rw [decompress]
    split
    · exact .silent rfl
    · exact reports_serve on thread dst _ fun session world on => (Session.tells on).decompress _ _ _
  maxCompressedLength length :=
    reports_onLibrary on _ (library.silent_maxCompressedLength length).reports
  setCompressionLevel level := reports_onLibrary on _ (library.reports_setCompressionLevel level)

end Host

/-! ## The library -/

namespace Library

/-- The check's round trip reports what its two calls return. -/
theorem reports_roundTrip (library : Library σ ι) : library.observed.roundTrip.Reports id := by
  intro world
  obtain ⟨refused, continues, refuses⟩ :=
    (Session.new library.observed).compressBytes_continues probe world
  have first := continues.reports rfl refuses
  have on := continues.library
  rw [roundTrip, Act.runOn_of]
  dsimp only
  generalize (Session.new library.observed).compressBytes probe world = compressed at first on ⊢
  obtain ⟨e | bytes, session, middle⟩ := compressed
  · exact (first.fail id).later (session.statuses_close middle on)
  · obtain ⟨refused, continues, refuses⟩ :=
      session.decompressBytes_continues bytes probe.length middle
    have second := continues.reports on refuses
    have on' := continues.library.trans on
    dsimp only
    generalize session.decompressBytes bytes probe.length middle = restored at second on' ⊢
    obtain ⟨e | bytes, session, last⟩ := restored
    · exact (first.trans (second.fail id)).later (session.statuses_close last on')
    · dsimp only
      split
      · exact (first.trans (second.ok _)).later (session.statuses_close last on')
      · exact (first.trans (second.ok _)).later (session.statuses_close last on')

/-- Every operation on the observed library reports, and so does every operation of what is made with
it and of a process that has bound it. The parallel calls return the error of some call that failed,
however late their workers notice it. -/
structure Tells (library : Library σ ι) : Prop where
  defaults : library.observed.defaults.Reports id
  updateDefaults : ∀ edit, (library.observed.updateDefaults edit).Reports id
  setDefaults : ∀ config, (library.observed.setDefaults config).Reports id
  setCompressionLevel : ∀ level, (library.observed.setCompressionLevel level).Reports id
  maxCompressedLength : ∀ length, (library.observed.maxCompressedLength length).Reports id
  roundTrip : library.observed.roundTrip.Reports id
  sessions : ∀ session : Session _ _, session.library = library.observed → session.Tells
  makesWriters : ∀ sink options,
    (BlockWriter.create library.observed sink options).Reports .ofCodec
  writers : ∀ writer : BlockWriter _ _, writer.session.library = library.observed → writer.Tells
  makesReaders : ∀ source options,
    (BlockReader.create library.observed source options).Reports .ofCodec
  readers : ∀ reader : BlockReader _ _, reader.session.library = library.observed → reader.Tells
  compressFile : ∀ src dst options level,
    (library.observed.compressFile src dst options level).Reports .ofCodec
  decompressFile : ∀ src dst options,
    (library.observed.decompressFile src dst options).Reports .ofCodec
  hosts : ∀ host : Host _ _, host.On library → host.Tells
  compressBlocks : ∀ data blockSize schedule world,
    let outcome := (library.observed.compressBlocks data blockSize schedule).runOn world
    ReportsOne .ofCodec world.native outcome.1 outcome.2.native
  decompressBlocks : ∀ stream blockSize schedule world,
    let outcome := (library.observed.decompressBlocks stream blockSize schedule).runOn world
    ReportsOne .ofCodec world.native outcome.1 outcome.2.native
  compressesBlocks : ∀ data blockSize schedule world result after,
    library.observed.CompressesBlocks data blockSize schedule world result after →
      ReportsOne .ofCodec world.native result after.native
  decompressesBlocks : ∀ stream blockSize schedule world result after,
    library.observed.DecompressesBlocks stream blockSize schedule world result after →
      ReportsOne .ofCodec world.native result after.native

theorem tells (library : Library σ ι) : library.Tells where
  defaults := library.reports_readRawDefaults.bind fun _ _ => Act.reports_pure _
  updateDefaults := library.reports_updateDefaults
  setDefaults _ := (library.reports_updateDefaults _).bind fun _ _ => Act.reports_pure _
  setCompressionLevel := library.reports_setCompressionLevel
  maxCompressedLength length := (library.silent_maxCompressedLength length).reports
  roundTrip := library.reports_roundTrip
  sessions _ on := Session.tells on
  makesWriters sink options := (BlockWriter.silent_create library sink options).reports
  writers _ on := BlockWriter.tells on
  makesReaders source options := (BlockReader.silent_create library source options).reports
  readers _ on := BlockReader.tells on
  compressFile := library.reports_compressFile
  decompressFile := library.reports_decompressFile
  hosts _ on := Host.tells on
  compressBlocks data blockSize schedule world :=
    (library.observed.compressesBlocks data blockSize schedule world).reports
  decompressBlocks stream blockSize schedule world :=
    (library.observed.decompressesBlocks stream blockSize schedule world).reports
  compressesBlocks _ _ _ _ _ _ coded := coded.reports
  decompressesBlocks _ _ _ _ _ _ coded := coded.reports

/-- No status is lost, whatever the library returns: an operation succeeds only if all its calls did,
and otherwise its error says which call failed and with which status. -/
theorem no_status_is_lost (library : Library σ ι) :
    library.Tells ∧ ∀ operation code,
      (CodecError.refusal operation code).operation? = some operation ∧
        (CodecError.refusal operation code).status? = some code :=
  ⟨library.tells, CodecError.refusal_carries⟩

end Library

end OffloadCodec

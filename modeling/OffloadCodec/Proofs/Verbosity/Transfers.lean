import OffloadCodec.Proofs.Files.Transfers
import OffloadCodec.Proofs.Verbosity.Operations

/-!
# Streams and files in worlds that differ in their consoles

Writers and readers that were made in related worlds stay alike whatever is done with them, in these
worlds or in any others that are related, in this way or in another: they are `Twin`. A transfer of a file makes one, works with
it and ends it, so it comes to the same (`Library.indifferent_compressFile`,
`Library.indifferent_decompressFile`).
-/

namespace OffloadCodec

variable {σ ι : Type} {alike : World σ → World σ → Prop} {library : Library σ ι}
  {world world' : World σ}

/-! ## Writers and readers -/

/-- Writers of a library that are alike in all related worlds. -/
def BlockWriter.Twin (only : World.ConsoleOnly alike) (library : Library σ ι)
    (writer writer' : BlockWriter σ ι) : Prop :=
  ∀ world world', alike world world' → writer.Like (only.likeness library) world writer' world'

/-- Readers of a library that are alike in all related worlds. -/
def BlockReader.Twin (only : World.ConsoleOnly alike) (library : Library σ ι)
    (reader reader' : BlockReader σ ι) : Prop :=
  ∀ world world', alike world world' → reader.Like (only.likeness library) world reader' world'

section Twins

variable {only : World.ConsoleOnly alike} {alike' : World σ → World σ → Prop}
  {only' : World.ConsoleOnly alike'}

/-- Sessions that are alike in related worlds are so in all others that are related. -/
theorem Session.Like.elsewhere {session session' : Session σ ι} {later later' : World σ}
    (like : session.Like (only.likeness library) world session' world')
    (related : alike' later later') :
    session.Like (only'.likeness library) later session' later' :=
  ⟨like.on, like.on', like.like.1, related⟩

theorem Library.Likeness.Buffers.elsewhere {buffer buffer' : Scratch}
    (same : (only.likeness library).Buffers buffer buffer') :
    (only'.likeness library).Buffers buffer buffer' :=
  ⟨same.1, same.2⟩

theorem BlockWriter.Like.twin {writer writer' : BlockWriter σ ι}
    (like : writer.Like (only.likeness library) world writer' world') :
    BlockWriter.Twin only' library writer writer' :=
  fun _ _ related => ⟨⟨like.frames.session.elsewhere related, like.frames.sink,
    like.frames.compressed.elsewhere, like.frames.payload, like.frames.failed⟩,
    like.block.elsewhere, like.filled, like.held⟩

theorem BlockReader.Like.twin {reader reader' : BlockReader σ ι}
    (like : reader.Like (only.likeness library) world reader' world') :
    BlockReader.Twin only' library reader reader' :=
  fun _ _ related => ⟨like.session.elsewhere related, like.source,
    like.compressed.elsewhere, like.block.elsewhere, like.restored,
    like.pos, like.filled, like.serving⟩

theorem BlockReader.Twin.withSource {reader reader' : BlockReader σ ι}
    (twin : BlockReader.Twin only library reader reader') (source : Source) :
    BlockReader.Twin only library { reader with source } { reader' with source } :=
  fun world world' related => { twin world world' related with source := rfl }

end Twins

section Related

variable (only : World.ConsoleOnly alike)
include only

section Making

variable (library)

theorem BlockWriter.makeAlike_create (sink : Sink) (options : StreamOptions) :
    Act.MakeAlike alike alike (BlockWriter.Twin only library)
      (BlockWriter.create library sink options) (BlockWriter.create library sink options) :=
  Act.MakeAlike.mono ((only.closes library).makeAlike_writer (only.allocates library) sink options)
    (only.fresh library) fun same _ _ like => same _ _ ((only.fresh library).2 like)

theorem BlockReader.makeAlike_create (source : Source) (options : StreamOptions) :
    Act.MakeAlike alike alike (BlockReader.Twin only library)
      (BlockReader.create library source options) (BlockReader.create library source options) :=
  Act.MakeAlike.mono ((only.closes library).makeAlike_reader (only.allocates library) source
    options) (only.fresh library) fun same _ _ like => same _ _ ((only.fresh library).2 like)

end Making

/-! ## Files -/

namespace World

theorem indifferent_openFile (path : String) : (openFile path).Indifferent alike := by
  refine Act.indifferent_of fun world world' like => ?_
  unfold openFile
  rw [Act.runOn_of, Act.runOn_of, only.files like]
  cases world'.files.openForReading path with
  | ok handle => exact .of _ like
  | error e => exact .of _ like

theorem indifferent_createFile (path : String) : (createFile path).Indifferent alike := by
  refine Act.indifferent_of fun world world' like => ?_
  obtain ⟨native, applied, console, console', files, environment, rfl, rfl⟩ := only.split like
  unfold createFile
  rw [Act.runOn_of, Act.runOn_of]
  cases files.create path with
  | ok created => exact .of _ (only.keeps like _ _ created.2 _)
  | error e => exact .of _ like

theorem storeFile_indifferent (place : Path) (bytes : Bytes) (like : alike world world') :
    alike (world.storeFile place bytes) (world'.storeFile place bytes) := by
  obtain ⟨_, _, _, _, _, _, rfl, rfl⟩ := only.split like
  exact only.keeps like _ _ _ _

end World

namespace Library

/-- What a writer has sent is stored, however it ended. -/
theorem sameMade_stored (place : Path) (count : Nat)
    {ended ended' : Closed × World σ} (same : SameEnd alike ended ended') :
    SameMade alike alike Eq
      (match ended.1.result with
        | .ok () => (.ok (⟨count, ended.1.sink.received.length⟩ : Transfer),
          ended.2.storeFile place ended.1.sink.received)
        | .error e => (.error e, ended.2.storeFile place ended.1.sink.received))
      (match ended'.1.result with
        | .ok () => (.ok (⟨count, ended'.1.sink.received.length⟩ : Transfer),
          ended'.2.storeFile place ended'.1.sink.received)
        | .error e => (.error e, ended'.2.storeFile place ended'.1.sink.received)) := by
  obtain ⟨closed, left⟩ := same
  have still := World.storeFile_indifferent only place closed.sink.received left
  dsimp only
  cases closed.result with
  | ok _ => exact .ok rfl still
  | error e => exact .error e still

theorem makeAlike_compressInto (input : FileTree.Handle) (place : Path)
    {writer writer' : BlockWriter σ ι} (twin : BlockWriter.Twin only library writer writer') :
    Act.MakeAlike alike alike Eq (compressInto input place writer)
      (compressInto input place writer') := by
  intro world world' related
  have like := twin world world' related
  unfold compressInto
  rw [Act.runOn_of, Act.runOn_of]
  dsimp only
  rw [← only.files related]
  cases world.files.contents input with
  | error e =>
    exact sameMade_stored only place 0
      (like.discardAfter (only.closes library) (.error (.file e)))
  | ok bytes =>
    have same := like.writeAll bytes
    dsimp only
    generalize writer.writeAll bytes world = outcome,
      writer'.writeAll bytes world' = outcome' at same ⊢
    obtain ⟨result, still⟩ := same
    cases result with
    | error e =>
      exact sameMade_stored only place 0 (still.discardAfter (only.closes library) e)
    | ok _ =>
      exact sameMade_stored only place bytes.length (still.finish (only.closes library))

theorem makeAlike_decompressInto (place : Path) {reader reader' : BlockReader σ ι}
    (twin : BlockReader.Twin only library reader reader') :
    Act.MakeAlike alike alike Eq (decompressInto place reader) (decompressInto place reader') := by
  intro world world' related
  have same := (twin world world' related).readToEnd
  unfold decompressInto
  rw [Act.runOn_of, Act.runOn_of]
  dsimp only
  generalize reader.readToEnd world = outcome, reader'.readToEnd world' = outcome' at same ⊢
  obtain ⟨bytes, outcome⟩ := outcome
  obtain ⟨bytes', outcome'⟩ := outcome'
  obtain ⟨rfl : bytes = bytes', same⟩ := same
  obtain ⟨result, still⟩ : SameOutcome _ outcome outcome' := same
  have stored := World.storeFile_indifferent only place bytes (still.close (only.closes library))
  cases result with
  | ok _ => exact .ok rfl stored
  | error e => exact .error e stored

/-- The destination is created, or the reader is ended. -/
theorem makeAlike_place (dst : String) {reader reader' : BlockReader σ ι}
    (twin : BlockReader.Twin only library reader reader') :
    Act.MakeAlike alike alike Eq
      (Act.of fun world =>
        match (World.createFile dst).runOn world with
        | (.ok place, world) => (.ok place, world)
        | (.error e, world) => (.error e, reader.close world))
      (Act.of fun world =>
        match (World.createFile dst).runOn world with
        | (.ok place, world) => (.ok place, world)
        | (.error e, world) => (.error e, reader'.close world)) := by
  intro world world' related
  have same := World.indifferent_createFile only dst world world' related
  rw [Act.runOn_of, Act.runOn_of]
  generalize (World.createFile dst).runOn world = outcome,
    (World.createFile dst).runOn world' = outcome' at same ⊢
  cases same with
  | ok same still => exact .ok same still
  | error e left => exact .error e ((twin _ _ left).close (only.closes library))

variable (library)

theorem indifferent_compressFile (src dst : String) (options : StreamOptions)
    (level : Option Int32) :
    (library.compressFile src dst options level).Indifferent alike := by
  rw [compressFile_eq]
  refine Act.Indifferent.bind ?_ fun _ => ?_
  · cases level with
    | none => exact Act.indifferent_pure ()
    | some level => exact (library.indifferent_setCompressionLevel only level).mapError _
  refine (World.indifferent_openFile only src).bind fun input => ?_
  refine (World.indifferent_createFile only dst).bind fun place => ?_
  refine (BlockWriter.makeAlike_create library only {} options).bind fun writer writer' twin => ?_
  refine (makeAlike_compressInto only input place twin).bind fun transfer transfer' same => ?_
  cases same
  exact (Act.indifferent_say only 3 _ (Nat.succ_pos 2)).bind fun _ => Act.indifferent_pure _

theorem indifferent_decompressFile (src dst : String) (options : StreamOptions) :
    (library.decompressFile src dst options).Indifferent alike := by
  unfold decompressFile
  refine (World.indifferent_openFile only src).bind fun input => ?_
  refine (Act.indifferent_look fun {world world'} like => ?_).bind fun bytesIn => ?_
  · rw [only.files like]
  -- From here on the two sides have readers of their own, which differ in what no one can see.
  refine (BlockReader.makeAlike_create library only ⟨[]⟩ options).bind fun reader reader' twin => ?_
  refine Act.MakeAlike.bind (makeAlike_place only dst twin) fun place place' same => ?_
  cases same
  refine Act.MakeAlike.bind (Act.indifferent_look fun {world world'} like => ?_)
    fun source source' same => ?_
  · rw [only.files like]
  cases same
  refine Act.MakeAlike.bind (makeAlike_decompressInto only place (twin.withSource source))
    fun bytesOut bytesOut' same => ?_
  cases same
  exact (Act.indifferent_say only 3 _ (Nat.succ_pos 2)).bind fun _ => Act.indifferent_pure _

end Library

end Related

end OffloadCodec

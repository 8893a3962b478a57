import Mathlib
import OffloadCodec.Proofs.Calls.Acts
import OffloadCodec.Proofs.Calls.Streams
import OffloadCodec.Proofs.Defaults.Updates
import OffloadCodec.Proofs.Files.Places
import OffloadCodec.Proofs.Parallel.Decompression
import OffloadCodec.Proofs.Stream.RoundTrip
import OffloadCodec.Transfer

/-!
# What a transfer has moved

A file is opened, the destination is created, and only then is the source read. If the two are not
at the same place then a transfer that succeeds has moved what the source held: the destination
decodes to it, or is its decoding, and the counts are the lengths of the two
(`Library.transfers_between_places`). If they are at the same place then the source is empty by the
time it is read, and a transfer that succeeds has moved nothing and lost what was there.
-/

namespace OffloadCodec

open OffloadCodec.Frame

variable {σ ι : Type}

/-! ## The files -/

section Files

variable {files : FileTree}

variable (library : Library σ ι)

/-- The native library has no part in the files. -/
theorem Library.obtains_files : library.Obtains (·.files = files) where
  maxCompressedLength _ _ kept := kept
  malloc _ _ _ _ kept := kept
  free _ _ _ _ kept := kept

theorem Library.closes_files : library.Closes (·.files = files) where
  free _ _ _ _ kept := kept
  teardown _ _ _ _ kept := kept
  say _ _ _ kept := kept

theorem maintains_checkStatus (operation : Operation) (status : Int32) (kept : World σ → Prop) :
    (checkStatus operation status).Maintains kept := by
  rw [checkStatus]
  rcases CodecError.ofStatus? operation status with _ | e
  · exact Act.maintains_pure _ _
  · exact fun world holds => holds

/-- Reading the defaults, writing them and noting what was written keep a property of the world. -/
structure Library.Updates (library : Library σ ι) (kept : World σ → Prop) : Prop where
  reads : ∀ raw world, kept world →
    kept { world with native := (library.entries.getDefaults raw world.native).2 }
  writes : ∀ raw world, kept world →
    kept { world with native := (library.entries.setDefaults raw world.native).2 }
  notes : ∀ config world, kept world → kept { world with applied := some config }

section Updates

variable {library : Library σ ι} {kept : World σ → Prop} (updates : library.Updates kept)
include updates

theorem Library.maintains_readRawDefaults : library.readRawDefaults.Maintains kept :=
  Act.Maintains.bind (updates.reads .shipped) fun reply =>
    (maintains_checkStatus .getDefaults reply.1 kept).bind fun _ => Act.maintains_pure _ _

theorem Library.maintains_updateDefaults (edit : CodecConfig → CodecConfig) :
    (library.updateDefaults edit).Maintains kept := by
  refine (maintains_readRawDefaults updates).bind fun raw => ?_
  refine Act.Maintains.bind (updates.writes _) fun status => ?_
  refine (maintains_checkStatus .setDefaults status kept).bind fun _ => ?_
  exact Act.Maintains.bind (updates.notes _) fun _ => Act.maintains_pure _ _

theorem Library.maintains_setCompressionLevel (level : Int32) :
    (library.setCompressionLevel level).Maintains kept :=
  (maintains_updateDefaults updates _).bind fun _ => Act.maintains_pure _ _

end Updates

theorem BlockWriter.files_close (writer : BlockWriter σ ι) (world : World σ) :
    (writer.close world).files = world.files :=
  writer.kept_close writer.session.library.closes_files rfl

theorem BlockReader.files_close (reader : BlockReader σ ι) (world : World σ) :
    (reader.close world).files = world.files :=
  reader.kept_close reader.session.library.closes_files rfl

end Files

/-! ## Opening and creating -/

namespace World

variable {world after : World σ} {path : String}

theorem openFile_ok {handle : FileTree.Handle}
    (opened : (openFile path).runOn world = (.ok handle, after)) :
    world.files.openForReading path = .ok handle ∧ after = world := by
  rw [openFile, Act.runOn_of] at opened
  split at opened
  · next found =>
    obtain ⟨rfl, rfl⟩ := by simpa only [Prod.mk.injEq, Except.ok.injEq] using opened
    exact ⟨found, rfl⟩
  · cases opened

theorem runOn_openFile_ok {handle : FileTree.Handle}
    (found : world.files.openForReading path = .ok handle) :
    (openFile path).runOn world = (.ok handle, world) := by
  rw [openFile, Act.runOn_of, found]

theorem runOn_openFile_error {e : FileError}
    (missing : world.files.openForReading path = .error e) :
    (openFile path).runOn world = (.error (.error (.file e)), world) := by
  rw [openFile, Act.runOn_of, missing]

/-- Files are opened and created without the native library. -/
theorem native_openFile (path : String) (world : World σ) :
    ((openFile path).runOn world).2.native = world.native := by
  rw [openFile, Act.runOn_of]
  split
  · rfl
  · rfl

theorem native_createFile (path : String) (world : World σ) :
    ((createFile path).runOn world).2.native = world.native := by
  rw [createFile, Act.runOn_of]
  split
  · rfl
  · rfl

theorem createFile_ok {place : Path}
    (created : (createFile path).runOn world = (.ok place, after)) :
    ∃ files, world.files.create path = .ok (place, files) ∧ after = { world with files } := by
  rw [createFile, Act.runOn_of] at created
  split at created
  · next files made =>
    obtain ⟨rfl, rfl⟩ := by simpa only [Prod.mk.injEq, Except.ok.injEq] using created
    exact ⟨files, made, rfl⟩
  · cases created

theorem runOn_createFile_ok {place : Path} {created : FileTree}
    (creating : world.files.create path = .ok (place, created)) :
    (createFile path).runOn world = (.ok place, { world with files := created }) := by
  rw [createFile, Act.runOn_of, creating]

end World

/-! ## Decoding -/

/-- The stream decodes to the data, where blocks have `size` bytes: every reader that is made while
the library is normal reads it out to its end, and with heap memory there is such a reader. -/
def Library.Decodes (library : Library σ ι) (normal : σ → Prop) (size : Nat) (stream data : Bytes) :
    Prop :=
  ∀ (source : Source) (options : StreamOptions) (world : World σ), source.Delivers stream →
    options.blockSize = size → normal world.native →
    (∀ reader opened, (BlockReader.create library source options).runOn world =
        (.ok reader, opened) →
      (reader.readToEnd opened).1 = data ∧ (reader.readToEnd opened).2.1 = .ok ()) ∧
    (options.buffers.useNative = false →
      BlockReader.readWhole library source options world = .ok data)

section Decoding

variable {library : Library σ ι} {normal : σ → Prop} {size : Nat} {stream data : Bytes}

/-- A stream decodes to the blocks that are decoded from it, whatever state a reader starts from. -/
theorem Library.decodes_of_decode (usable : StreamOptions.isUsable size = true)
    (decoded : ∀ (options : StreamOptions) (world : World σ), options.blockSize = size →
      normal world.native →
      ∃ blocks, decode library.entries.decompressNext (library.boundFor size world.native)
        (BlockReader.freshState library options world) stream = (blocks, .boundary) ∧
        blocks.flatten = data) :
    library.Decodes normal size stream data := by
  rintro source options world delivers rfl settled
  obtain ⟨blocks, whole, rfl⟩ := decoded options world rfl settled
  have read : ∀ reader opened, (BlockReader.create library source options).runOn world =
      (.ok reader, opened) → (reader.readToEnd opened).1 = blocks.flatten ∧
        (reader.readToEnd opened).2.1 = .ok () := by
    intro reader opened created
    have faces := BlockReader.create_faces delivers created
    rw [whole] at faces
    exact faces.readToEnd nofun
  refine ⟨read, fun heap => ?_⟩
  obtain ⟨reader, created⟩ := BlockReader.create_heap library source world heap usable
  obtain ⟨all, ended⟩ := read reader _ created
  rw [BlockReader.readWhole, created]
  dsimp only
  generalize reader.readToEnd _ = outcome at all ended ⊢
  obtain ⟨bytes, result, last, after⟩ := outcome
  obtain rfl : bytes = _ := all
  obtain rfl : result = _ := ended
  rfl

theorem Library.boundFor_eq (lossless : library.entries.Lossless normal) {native native' : σ}
    (settled : normal native) (settled' : normal native') (bounded : size ≤ maxNativeLength) :
    library.boundFor size native = library.boundFor size native' :=
  Nat.le_antisymm (Library.boundFor_mono lossless settled settled' (Nat.le_refl size) bounded)
    (Library.boundFor_mono lossless settled' settled (Nat.le_refl size) bounded)

/-- What a writer leaves behind decodes to what was handed to it. -/
theorem Library.decodes_stored (lossless : library.entries.Lossless normal)
    (usable : StreamOptions.isUsable size = true) {blocks payloads : List Bytes} {native : σ}
    (settled : normal native)
    (stored : List.Forall₂ (library.entries.StoredAs normal) blocks payloads)
    (fit : ∀ block ∈ blocks, block.length ≤ size)
    (inside : ∀ payload ∈ payloads, payload.length ≤ library.boundFor size native) :
    library.Decodes normal size (encode payloads) blocks.flatten := by
  obtain ⟨positive, bounded⟩ := StreamOptions.isUsable_iff.1 usable
  apply decodes_of_decode usable
  rintro options world rfl settled'
  have before : normal (BlockReader.freshState library options world).native :=
    BlockReader.maintains_create lossless.obtains ⟨[]⟩ options world settled'
  refine ⟨blocks, EntryPoints.decode_encode lossless.toKeep before stored positive bounded ?_ fit,
    rfl⟩
  intro payload member
  rw [boundFor_eq lossless settled' settled bounded]
  exact inside payload member

/-- If results depend on payloads only, then one decoding of a stream stands for all. -/
theorem Library.decodes_determined {result : Bytes → UInt32 → Int32 × Bytes}
    (lossless : library.entries.Lossless normal)
    (determined : library.entries.PayloadDetermined normal result) {options : StreamOptions}
    {world : World σ} {blocks : List Bytes} (settled : normal world.native)
    (usable : StreamOptions.isUsable options.blockSize = true)
    (decoded : decode library.entries.decompressNext
      (library.boundFor options.blockSize world.native)
      (BlockReader.freshState library options world) stream = (blocks, .boundary)) :
    library.Decodes normal options.blockSize stream blocks.flatten := by
  obtain ⟨-, bounded⟩ := StreamOptions.isUsable_iff.1 usable
  have fresh : ∀ (options : StreamOptions) (world : World σ), normal world.native →
      normal (BlockReader.freshState library options world).native :=
    fun options world settled =>
      BlockReader.maintains_create lossless.obtains ⟨[]⟩ options world settled
  have each := determined.eachBy options.blockSize
  obtain ⟨payloads, whole, restored⟩ :=
    (each.decode_boundary_iff ⟨rfl, fresh options world settled⟩).1 decoded
  apply decodes_of_decode usable
  intro options' world' same settled'
  refine ⟨blocks, ?_, rfl⟩
  apply (each.decode_boundary_iff ⟨same, fresh options' world' settled'⟩).2
  rw [boundFor_eq lossless settled' settled bounded]
  exact ⟨payloads, whole, restored⟩

/-- A stream decodes to one run of bytes. -/
theorem Library.Decodes.unique {data' : Bytes} (decodes : library.Decodes normal size stream data)
    (decodes' : library.Decodes normal size stream data') {native : σ} (settled : normal native) :
    data = data' := by
  have one := (decodes (.ofBytes stream) { blockSize := size } { native }
    (Source.delivers_ofBytes stream) rfl settled).2 rfl
  have other := (decodes' (.ofBytes stream) { blockSize := size } { native }
    (Source.delivers_ofBytes stream) rfl settled).2 rfl
  exact Except.ok.inj (one.symm.trans other)

end Decoding

/-! ## Compressing a file -/

section Compressing

variable {library : Library σ ι} {normal : σ → Prop} {options : StreamOptions}
  {writer : BlockWriter σ ι} {world after : World σ} {input : FileTree.Handle} {place : Path}
  {transfer : Transfer}

/-- A writer that is gone has left the files alone. -/
theorem BlockWriter.Gone.files {refused : Option CodecError} {outcome : Closed × World σ}
    (gone : writer.Gone world refused outcome) : outcome.2.files = world.files := by
  obtain ⟨last, middle, works, ended⟩ := gone
  have kept : middle.files = world.files := works.session.files
  rcases ended with ⟨-, rfl, -⟩ | closed
  · exact kept
  · rw [closed, last.files_close, kept]

/-- A writer that is discarded because bytes were not taken is gone, and reports why. -/
theorem BlockWriter.discardAfter_writeAll {bytes : Bytes} {failure : StreamFailure}
    {next : BlockWriter σ ι} {later : World σ}
    (written : writer.writeAll bytes world = (.error failure, next, later)) :
    ∃ refused, writer.Gone world refused (next.discardAfter failure later) ∧
      Refuses .ofCodec refused (.error failure : Except StreamFailure Unit) ∧
      (next.discardAfter failure later).1 = ⟨.error failure, next.sink⟩ := by
  have served := writer.writeAll_serves bytes world
  have stays : writer.session.library.entries.ReportsWithin → failure ≠ .overrun := by
    rintro within rfl
    exact writeAll_ne_overrun within bytes world (congrArg Prod.fst written)
  rw [written] at served
  obtain ⟨refused, works, refuses⟩ := served
  have marked : ∀ e, failure = .error e →
      next.failed = true ∨ next.failed = false ∧ next.filled = 0 := by
    rintro e rfl
    exact .inl (failed_of_writeAll_error written)
  refine ⟨refused, discardAfter_gone works stays marked, refuses, ?_⟩
  cases failure with
  | overrun => rfl
  | error e => exact discardAfter_of_done (marked e rfl)

/-- A writer that is discarded after a failure ends with one. -/
theorem BlockWriter.exists_discardAfter (writer : BlockWriter σ ι) (failure : StreamFailure)
    (world : World σ) :
    ∃ e sink later, writer.discardAfter failure world = (⟨.error e, sink⟩, later) := by
  cases failure with
  | overrun => exact ⟨.overrun, writer.sink, world, rfl⟩
  | error e =>
    rw [BlockWriter.discardAfter]
    rcases writer.discard world with ⟨⟨failure | _, sink⟩, later⟩
    · exact ⟨failure, sink, later, rfl⟩
    · exact ⟨.error e, sink, later, rfl⟩

/-- A writer that took a file whole and was finished has stored what it left in its sink. -/
theorem Library.compressInto_ok
    (done : (compressInto input place writer).runOn world = (.ok transfer, after)) :
    ∃ bytes sink last, world.files.contents input = .ok bytes ∧
      writer.complete [.writeAll bytes] .finish world = (.ok [none], sink, last) ∧
      transfer = ⟨bytes.length, sink.received.length⟩ ∧
      after.files = world.files.put place (.file sink.received) := by
  rw [compressInto, Act.runOn_of] at done
  dsimp only at done
  split at done
  · next failure _ =>
    obtain ⟨e, sink, later, discarded⟩ :=
      writer.exists_discardAfter (.error (.file failure)) world
    rw [discarded] at done
    cases done
  · next bytes held =>
    have served := writer.writeAll_serves bytes world
    split at done
    · next failure writer' world' _ =>
      obtain ⟨e, sink, later, discarded⟩ := writer'.exists_discardAfter failure world'
      rw [discarded] at done
      cases done
    · next writer' world' written =>
      rw [written] at served
      obtain ⟨refused, gone, -⟩ := writer'.finish_gone world'
      have files := (gone.behind served.works).files
      rcases finished : writer'.finish world' with ⟨⟨_ | _, sink⟩, later⟩
      · rw [finished] at done
        cases done
      · rw [finished] at done files
        obtain ⟨rfl, rfl⟩ := by simpa only [Prod.mk.injEq, Except.ok.injEq] using done
        refine ⟨bytes, sink, later, held, ?_, rfl, congrArg (·.put place (.file sink.received)) files⟩
        simp only [BlockWriter.complete, BlockWriter.performEach, BlockWriter.perform, written,
          BlockWriter.endWith, finished]

/-- However it goes, a new writer is gone then, and the result is that of its end. -/
theorem Library.compressInto_gone (input : FileTree.Handle) (place : Path) (world : World σ)
    (done : writer.failed = true ∨ writer.failed = false ∧ writer.filled = 0) :
    ∃ refused closed later count, writer.Gone world refused (closed, later) ∧
      Refuses .ofCodec refused closed.result ∧
      (compressInto input place writer).runOn world =
        (closed.result.map fun _ => ⟨count, closed.sink.received.length⟩,
          later.storeFile place closed.sink.received) := by
  rw [compressInto, Act.runOn_of]
  dsimp only
  split
  · next failure _ =>
    have works := Bench.Works.idle writer.bench world
    have gone : writer.Gone world none (writer.discardAfter (.error (.file failure)) world) := by
      refine BlockWriter.discardAfter_gone works ?_ fun _ _ => done
      exact fun _ stopped => by cases stopped
    have result : (writer.discardAfter (.error (.file failure)) world).1 =
        ⟨.error (.error (.file failure)), writer.sink⟩ := BlockWriter.discardAfter_of_done done
    generalize writer.discardAfter (.error (.file failure)) world = outcome at gone result ⊢
    obtain ⟨closed, later⟩ := outcome
    obtain rfl : closed = _ := result
    exact ⟨none, _, later, 0, gone, .none _ _, rfl⟩
  · next bytes _ =>
    have served := writer.writeAll_serves bytes world
    split
    · next failure writer' world' written =>
      obtain ⟨refused, gone, refuses, result⟩ := BlockWriter.discardAfter_writeAll written
      generalize writer'.discardAfter failure world' = outcome at gone result ⊢
      obtain ⟨closed, later⟩ := outcome
      obtain rfl : closed = _ := result
      refine ⟨refused, _, later, 0, gone, refuses.map _ ?_, rfl⟩
      exact fun _ failed => congrArg Except.error (Except.error.inj failed)
    · next writer' world' written =>
      rw [written] at served
      obtain ⟨refused, gone, refuses⟩ := writer'.finish_gone world'
      have gone' := gone.behind served.works
      generalize writer'.finish world' = outcome at gone' refuses ⊢
      obtain ⟨⟨_ | _, sink⟩, later⟩ := outcome
      · exact ⟨refused, _, later, 0, gone', refuses, rfl⟩
      · exact ⟨refused, _, later, bytes.length, gone', refuses, rfl⟩

/-- A compression sets the level, if there is one, before it goes on as without. -/
theorem Library.compressFile_eq (library : Library σ ι) (src dst : String) (options : StreamOptions)
    (level : Option Int32) :
    library.compressFile src dst options level =
      (level.elim (pure ()) fun level => (library.setCompressionLevel level).streamed) >>=
        fun _ => library.compressFile src dst options none := by
  cases level with
  | none => rfl
  | some level => rfl

/-- What happens before the codec comes to work when a file is compressed. -/
theorem Library.compressFile_ok {src dst : String} {level : Option Int32}
    (done : (library.compressFile src dst options level).runOn world = (.ok transfer, after)) :
    ∃ input place leveled created writer opened middle,
      (level.elim (pure ()) fun level => (library.setCompressionLevel level).streamed).runOn world =
        (.ok (), leveled) ∧
      leveled.files.openForReading src = .ok input ∧
      leveled.files.create dst = .ok (place, created) ∧
      (BlockWriter.create library {} options).runOn { leveled with files := created } =
        (.ok writer, opened) ∧
      (compressInto input place writer).runOn opened = (.ok transfer, middle) ∧
      after.files = middle.files ∧ after.native = middle.native := by
  rw [compressFile_eq] at done
  obtain ⟨_, leveled, set, opens⟩ := Act.bind_ok done
  obtain ⟨input, _, opening, creates⟩ := Act.bind_ok opens
  obtain ⟨opened_src, rfl⟩ := World.openFile_ok opening
  obtain ⟨place, _, creating, makes⟩ := Act.bind_ok creates
  obtain ⟨files, created_dst, rfl⟩ := World.createFile_ok creating
  obtain ⟨writer, opened, making, moves⟩ := Act.bind_ok makes
  obtain ⟨moved, middle, moving, ends⟩ := Act.bind_ok moves
  rw [Act.runOn_bind, Act.runOn_change] at ends
  obtain ⟨rfl, rfl⟩ := by simpa only [Act.runOn_pure, Prod.mk.injEq, Except.ok.injEq] using ends
  exact ⟨input, place, _, files, writer, opened, middle, set, opened_src, created_dst, making,
    moving, rfl, rfl⟩

/-- Once the level is set, the source opened and the destination created, the blocks decide how a
compression goes; all that comes behind them is a line that is said. -/
theorem Library.compressFile_run {src dst : String} {setting : Int32} {leveled middle : World σ}
    {created : FileTree}
    (set : (library.setCompressionLevel setting).runOn world = (.ok (), leveled))
    (opening : leveled.files.openForReading src = .ok input)
    (creating : leveled.files.create dst = .ok (place, created))
    (moving : (BlockWriter.create library {} options >>= compressInto input place).runOn
      { leveled with files := created } = (.ok transfer, middle)) :
    ∃ line, (library.compressFile src dst options (some setting)).runOn world =
      (.ok transfer, middle.say 3 line) := by
  have streamed : (library.setCompressionLevel setting).streamed.runOn world =
      (.ok (), leveled) := by
    rw [Act.streamed, Act.mapError, Act.runOn_of, set]
  obtain ⟨writer, opened', making, moved⟩ := Act.bind_ok moving
  simp only [compressFile, Act.runOn_bind, streamed, World.runOn_openFile_ok opening,
    World.runOn_createFile_ok creating, making, moved, Act.runOn_change, Act.runOn_pure]
  exact ⟨_, rfl⟩

/-- Setting the level before a transfer leaves a normal library normal, and the files alone. -/
theorem Library.setLevel_maintains (keeps : library.entries.KeepsDefaults normal) (files : FileTree)
    (level : Option Int32) :
    (level.elim (pure ()) fun level => (library.setCompressionLevel level).streamed).Maintains
      (fun world => normal world.native ∧ world.files = files) := by
  cases level with
  | none => exact Act.maintains_pure _ _
  | some level =>
    have updates : library.Updates fun world => normal world.native ∧ world.files = files := {
      reads := fun raw world kept => ⟨keeps.getDefaults raw world.native kept.1, kept.2⟩
      writes := fun raw world kept => ⟨keeps.setDefaults raw world.native kept.1, kept.2⟩
      notes := fun config world kept => kept }
    exact (maintains_setCompressionLevel updates level).mapError _

/-- Setting the level leaves the files alone, whether it succeeds or not. -/
theorem Library.files_setLevel (library : Library σ ι) (level : Option Int32) (world : World σ) :
    ((level.elim (pure ()) fun level => (library.setCompressionLevel level).streamed).runOn
      world).2.files = world.files := by
  have any : library.entries.KeepsDefaults fun _ => True :=
    ⟨fun _ _ _ => trivial, fun _ _ _ => trivial⟩
  exact (setLevel_maintains any world.files level world ⟨trivial, rfl⟩).2

/-- A compression that succeeds has moved what the source held when the destination was there. -/
theorem Library.compressFile_moves {src dst : String} {level : Option Int32}
    (lossless : library.entries.Lossless normal) (keeps : library.entries.KeepsDefaults normal)
    (settled : normal world.native)
    (done : (library.compressFile src dst options level).runOn world = (.ok transfer, after)) :
    ∃ source place held read stream, world.files.resolve src = .ok source ∧
      world.files.resolve dst = .ok place ∧ world.files.fileAt? src = some held ∧
      after.files.fileAt? dst = some stream ∧ read = (if source = place then [] else held) ∧
      transfer = ⟨read.length, stream.length⟩ ∧
      library.Decodes normal options.blockSize stream read ∧ (read = [] → stream = []) := by
  obtain ⟨input, place, leveled, created, writer, opened, middle, set, opening, creating, making,
    moving, files, -⟩ := compressFile_ok done
  obtain ⟨settled', same⟩ := setLevel_maintains keeps world.files level world ⟨settled, rfl⟩
  rw [set] at settled' same
  dsimp only at settled' same
  rw [same] at opening creating
  obtain ⟨bytes, sink, last, contents, completed, rfl, stored⟩ := compressInto_ok moving
  obtain ⟨resolved, free, rfl⟩ := FileTree.create_ok creating
  have kept := BlockWriter.maintains_create library.obtains_files {} options
    { leveled with files := world.files.put place (.file []) } rfl
  rw [making] at kept
  rw [kept] at contents
  -- Only a file has been read.
  have file : input.isDirectory = false := by
    cases directory : input.isDirectory with
    | false => rfl
    | true =>
      rw [FileTree.contents, if_pos directory] at contents
      cases contents
  obtain ⟨held, here, named⟩ := FileTree.openForReading_file opening file
  rw [FileTree.contents_put file free here, Except.ok.injEq] at contents
  have used : BlockWriter.use library {} options [.writeAll bytes] .finish
      { leveled with files := world.files.put place (.file []) } = (.ok [none], sink, last) := by
    rw [BlockWriter.use, making]
    exact completed
  have normal_start : normal
      ({ leveled with files := world.files.put place (.file []) } : World σ).native := settled'
  have usable := (BlockWriter.create_ok making).1
  have answered := congrArg Prod.fst used
  have received := congrArg (fun outcome => outcome.2.1.received) used
  dsimp only at received
  obtain ⟨payloads, stream_eq, restores, inside⟩ :=
    BlockWriter.use_stores lossless normal_start answered received
  have handed : (BlockWriter.blocksOf options.blockSize [.writeAll bytes]).flatten = bytes := by
    rw [BlockWriter.flatten_blocksOf (StreamOptions.isUsable_iff.1 usable).1]
    exact List.append_nil bytes
  refine ⟨input.path, place, held, bytes, sink.received, FileTree.openForReading_ok opening,
    resolved, named, ?_, contents.symm, rfl, ?_, ?_⟩
  · rw [files, stored, kept]
    exact FileTree.fileAt?_created creating sink.received
  · have decodes := decodes_stored lossless usable normal_start restores
      (fun block => BlockWriter.length_le_of_mem_blocksOf) inside
    rw [handed, ← stream_eq] at decodes
    exact decodes
  · rintro rfl
    have none : BlockWriter.blocksOf options.blockSize [.writeAll []] = [] := by
      simp only [BlockWriter.blocksOf, WriterCall.runs, WriterCall.runsFrom, List.append_nil,
        List.flatMap_cons, Bytes.chunks_nil, List.flatMap_nil]
    rw [none] at restores
    cases restores
    exact stream_eq

end Compressing

/-! ## Decompressing a file -/

section Decompressing

variable {library : Library σ ι} {normal : σ → Prop} {options : StreamOptions}
  {reader : BlockReader σ ι} {world after : World σ} {place : Path} {transfer : Transfer}

/-- A reader that was read to its end has had what it returned stored. -/
theorem Library.decompressInto_ok {count : Nat}
    (done : (decompressInto place reader).runOn world = (.ok count, after)) :
    ∃ bytes, (reader.readToEnd world).1 = bytes ∧ (reader.readToEnd world).2.1 = .ok () ∧
      count = bytes.length ∧ after.files = world.files.put place (.file bytes) := by
  have serves := reader.readToEnd_serves world
  rw [decompressInto, Act.runOn_of] at done
  generalize reader.readToEnd world = outcome at serves done ⊢
  obtain ⟨bytes, e | _, last, later⟩ := outcome
  · cases done
  · obtain ⟨rfl, rfl⟩ := by simpa only [Prod.mk.injEq, Except.ok.injEq] using done
    have files := (last.files_close later).trans serves.works.session.files
    exact ⟨bytes, rfl, rfl, rfl, congrArg (FileTree.put · place (.file bytes)) files⟩

/-- A source that fails at once is not read to its end. -/
theorem BlockReader.readToEnd_of_failure {e : IoError} (source : reader.source = ⟨[.failure e]⟩)
    (fresh : reader.pos = reader.filled) (final : e.kind ≠ .interrupted) :
    (reader.readToEnd world).2.1 ≠ .ok () := by
  have pulled : reader.source.pull headerLength = ⟨[], some e, []⟩ := by
    have some : headerLength ≠ 0 := by decide
    rw [source, Source.pull, Source.pullFrom, if_neg some, if_neg final]
  have filled : ∃ next, reader.fillBlock world = (.error (.error e), next, world) := by
    rw [BlockReader.fillBlock, BlockReader.nextLength, pulled]
    exact ⟨_, rfl⟩
  obtain ⟨next, filled⟩ := filled
  have refilled : reader.refill world = (.error (.error e), next, world) := by
    rw [BlockReader.refill, if_pos fresh]
    split
    · next failed => exact failed.symm.trans filled
    · next ended => cases ended.symm.trans filled
    · next loaded => cases loaded.symm.trans filled
  have some : maxNativeLength ≠ 0 := by decide
  have read : reader.read maxNativeLength world = (.error (.error e), next, world) := by
    rw [BlockReader.read, if_neg some, refilled]
  rw [BlockReader.readToEnd]
  split
  · intro succeeded
    cases succeeded
  · next answered => cases answered.symm.trans read

/-- A source with nothing in it is read to its end at once. -/
theorem BlockReader.readToEnd_of_nothing (world : World σ) (source : reader.source = .ofBytes [])
    (fresh : reader.pos = reader.filled) :
    ∃ next, reader.readToEnd world = ([], .ok (), next, world) := by
  have pulled : reader.source.pull headerLength = ⟨[], none, []⟩ := by
    rw [source]
    rfl
  have filled : ∃ next, reader.fillBlock world = (.ok false, next, world) := by
    rw [BlockReader.fillBlock, BlockReader.nextLength, pulled]
    exact ⟨_, rfl⟩
  obtain ⟨next, filled⟩ := filled
  have refilled : reader.refill world = (.ok false, next, world) := by
    rw [BlockReader.refill, if_pos fresh]
    split
    · next failed => cases failed.symm.trans filled
    · next ended => exact ended.symm.trans filled
    · next loaded => cases loaded.symm.trans filled
  have some : maxNativeLength ≠ 0 := by decide
  have read : reader.read maxNativeLength world = (.ok [], next, world) := by
    rw [BlockReader.read, if_neg some, refilled]
  refine ⟨next, ?_⟩
  rw [BlockReader.readToEnd]
  split
  · next failed => cases failed.symm.trans read
  · next answered =>
    obtain ⟨rfl, rfl, rfl⟩ := by
      simpa only [Prod.mk.injEq, Except.ok.injEq] using answered.symm.trans read
    rw [dif_pos rfl]

/-- Reading a source with nothing in it leaves an empty file. -/
theorem Library.decompressInto_nothing (place : Path) (reader : BlockReader σ ι) (world : World σ)
    (source : reader.source = .ofBytes []) (fresh : reader.pos = reader.filled) :
    ∃ later, (decompressInto place reader).runOn world = (.ok 0, later) ∧
      later.files = world.files.put place (.file []) := by
  obtain ⟨next, ended⟩ := reader.readToEnd_of_nothing world source fresh
  refine ⟨(next.close world).storeFile place [], ?_, ?_⟩
  · rw [decompressInto, Act.runOn_of, ended]
    rfl
  · exact congrArg (FileTree.put · place (.file [])) (next.files_close world)

/-- What happens before the codec comes to work when a file is decompressed. -/
theorem Library.decompressFile_ok {src dst : String}
    (done : (library.decompressFile src dst options).runOn world = (.ok transfer, after)) :
    ∃ input reader opened place created count middle,
      world.files.openForReading src = .ok input ∧
      (BlockReader.create library ⟨[]⟩ options).runOn world = (.ok reader, opened) ∧
      opened.files.create dst = .ok (place, created) ∧
      (decompressInto place { reader with source := created.source input }).runOn
        { opened with files := created } = (.ok count, middle) ∧
      transfer = ⟨world.files.lengthOf input, count⟩ ∧ after.files = middle.files := by
  rw [decompressFile] at done
  obtain ⟨input, _, opening, measures⟩ := Act.bind_ok done
  obtain ⟨opened_src, rfl⟩ := World.openFile_ok opening
  obtain ⟨_, _, measuring, makes⟩ := Act.bind_ok measures
  obtain ⟨rfl, rfl⟩ := by simpa only [Act.runOn_of, Prod.mk.injEq, Except.ok.injEq] using measuring
  obtain ⟨reader, opened, making, creates⟩ := Act.bind_ok makes
  obtain ⟨place, _, creating, reads⟩ := Act.bind_ok creates
  rw [Act.runOn_of] at creating
  split at creating
  · next placed made =>
    obtain ⟨rfl, rfl⟩ := by simpa only [Prod.mk.injEq, Except.ok.injEq] using creating
    obtain ⟨files, created_dst, rfl⟩ := World.createFile_ok made
    obtain ⟨_, _, sourcing, moves⟩ := Act.bind_ok reads
    obtain ⟨rfl, rfl⟩ := by simpa only [Act.runOn_of, Prod.mk.injEq, Except.ok.injEq] using sourcing
    obtain ⟨count, middle, moving, ends⟩ := Act.bind_ok moves
    rw [Act.runOn_bind, Act.runOn_change] at ends
    obtain ⟨rfl, rfl⟩ := by simpa only [Act.runOn_pure, Prod.mk.injEq, Except.ok.injEq] using ends
    exact ⟨input, reader, opened, _, files, count, middle, opened_src, making, created_dst, moving,
      rfl, rfl⟩
  · cases creating

/-- A reader faces what it did in a world with the same library. -/
theorem BlockReader.Faces.of_native {entries : EntryPoints σ ι} {bound : Nat} {data : Bytes}
    {ending : Ending} (faces : reader.Faces entries bound world data ending)
    (same : after.native = world.native) : reader.Faces entries bound after data ending := by
  obtain ⟨state, stream, unserved, stands, all, ended⟩ := faces
  obtain ⟨entries_eq, bound_eq, delivers, state_eq, pos_le, filled_le, unserved_eq⟩ := stands
  have state_eq' : reader.session.codecState reader.block.memory after = state := by
    rw [← state_eq, Session.codecState, same]
    rfl
  exact ⟨state, stream, unserved,
    ⟨entries_eq, bound_eq, delivers, state_eq', pos_le, filled_le, unserved_eq⟩, all, ended⟩

/-- A decompression that succeeds has decoded what the source held when the destination was there.
-/
theorem Library.decompressFile_moves {src dst : String} {result : Bytes → UInt32 → Int32 × Bytes}
    (lossless : library.entries.Lossless normal)
    (determined : library.entries.PayloadDetermined normal result) (settled : normal world.native)
    (done : (library.decompressFile src dst options).runOn world = (.ok transfer, after)) :
    ∃ source place held read data, world.files.resolve src = .ok source ∧
      world.files.resolve dst = .ok place ∧ world.files.fileAt? src = some held ∧
      after.files.fileAt? dst = some data ∧ read = (if source = place then [] else held) ∧
      transfer = ⟨held.length, data.length⟩ ∧
      library.Decodes normal options.blockSize read data ∧ (read = [] → data = []) := by
  obtain ⟨input, reader, opened, place, created, count, middle, opening, making, creating, moving,
    rfl, files⟩ := decompressFile_ok done
  obtain ⟨bytes, read, ended, rfl, stored⟩ := decompressInto_ok moving
  have kept := BlockReader.maintains_create library.obtains_files ⟨[]⟩ options world rfl
  rw [making] at kept
  dsimp only at kept
  rw [kept] at creating
  obtain ⟨resolved, free, rfl⟩ := FileTree.create_ok creating
  obtain ⟨usable, -, -, pos, filled, -⟩ := BlockReader.create_ok making
  -- A directory is opened, but reading it fails.
  have file : input.isDirectory = false := by
    cases directory : input.isDirectory with
    | false => rfl
    | true =>
      have failing : (world.files.put place (.file [])).source input =
          ⟨[.failure (.file .isADirectory)]⟩ := by
        rw [FileTree.source, FileTree.contents, if_pos directory]
      have fresh : reader.pos = reader.filled := pos.trans filled.symm
      have final : (IoError.file .isADirectory).kind ≠ .interrupted := by decide
      exact absurd ended (BlockReader.readToEnd_of_failure failing fresh final)
  obtain ⟨held, here, named⟩ := FileTree.openForReading_file opening file
  have source_eq : (world.files.put place (.file [])).source input =
      .ofBytes (if input.path = place then [] else held) := by
    rw [FileTree.source, FileTree.contents_put file free here]
  rw [source_eq] at read ended
  generalize held_then : (if input.path = place then [] else held) = left at read ended
  have before : normal (BlockReader.freshState library options world).native :=
    BlockReader.maintains_create lossless.obtains ⟨[]⟩ options world settled
  have unstopped : (decode library.entries.decompressNext
      (library.boundFor options.blockSize world.native)
      (BlockReader.freshState library options world) left).2 ≠ .rejected .overrun :=
    (determined.eachBy options.blockSize).decode_ne_overrun ⟨rfl, before⟩ left
  have faces := BlockReader.create_faces (Source.delivers_ofBytes left)
    (BlockReader.create_onto making (.ofBytes left))
  have there : BlockReader.Faces _ _ { reader with source := .ofBytes left }
      { opened with files := world.files.put place (.file []) } _ _ := faces.of_native rfl
  obtain ⟨all, last⟩ := there.readToEnd unstopped
  rw [read] at all
  rw [ended] at last
  have whole : (decode library.entries.decompressNext
      (library.boundFor options.blockSize world.native)
      (BlockReader.freshState library options world) left).2 = .boundary := by
    generalize (decode library.entries.decompressNext _ _ left).2 = ending at last
    cases ending with
    | boundary => rfl
    | cutHeader => cases last
    | badLength length => cases last
    | cutPayload => cases last
    | rejected failure => cases last
  have decodes := decodes_determined lossless determined settled usable (Prod.ext rfl whole)
  rw [← all] at decodes
  refine ⟨input.path, place, held, left, bytes, FileTree.openForReading_ok opening, resolved, named,
    ?_, held_then.symm, ?_, decodes, ?_⟩
  · rw [files, stored]
    exact FileTree.fileAt?_created creating bytes
  · have measured : world.files.contents input = .ok held := by
      rw [FileTree.contents, if_neg (by rw [file]; exact Bool.false_ne_true), here]
    rw [FileTree.lengthOf, measured]
  · rintro rfl
    have stops : front (library.boundFor options.blockSize world.native) [] = .stop .boundary := rfl
    rw [all, decode_stop stops]
    rfl

end Decompressing

/-! ## A program with one file -/

/-- A path of one part starts where the program is. -/
theorem FileTree.start_part {path : String} (parts : path.splitOn "/" = [path])
    (valid : path.toList.contains '\x00' = false ∧ path ≠ "" ∧ path.utf8ByteSize < 4096 ∧
      path.toList.head? ≠ some '/') : start path = .ok ([], [path]) := by
  obtain ⟨plain, named, short, relative⟩ := valid
  rw [start, plain, if_neg Bool.false_ne_true, if_neg named, if_neg (Nat.not_le.2 short),
    if_neg relative, parts]

theorem FileTree.start_a : start "a" = .ok ([], ["a"]) := by
  have parts : "a".splitOn "/" = ["a"] := by cbv
  exact start_part parts (by decide)

theorem FileTree.start_b : start "b" = .ok ([], ["b"]) := by
  have parts : "b".splitOn "/" = ["b"] := by cbv
  exact start_part parts (by decide)

namespace Simulated

/-- The world of a program in whose directory there is one file. -/
def withFile (bytes : Bytes) : World State := { native := {}, files := ⟨[(["a"], .file bytes)]⟩ }

/-- Three bytes as a block stream. -/
def storedFile : Bytes := [11, 0, 0, 0, 81, 90, 77, 1, 3, 0, 0, 0, 1, 2, 3]

variable {bytes : Bytes}

theorem resolve_a : (withFile bytes).files.resolve "a" = .ok ["a"] := by
  rw [FileTree.resolve, FileTree.start_a]
  rfl

theorem resolve_b : (withFile bytes).files.resolve "b" = .ok ["b"] := by
  rw [FileTree.resolve, FileTree.start_b]
  rfl

theorem fileAt?_a : (withFile bytes).files.fileAt? "a" = some bytes :=
  FileTree.fileAt?_eq resolve_a rfl

theorem openFile_a : (World.openFile "a").runOn (withFile bytes) =
    (.ok ⟨["a"], false⟩, withFile bytes) := by
  rw [World.openFile, Act.runOn_of, FileTree.openForReading, resolve_a]
  rfl

theorem createFile_a (world : World State) (same : world.files = (withFile bytes).files) :
    (World.createFile "a").runOn world = (.ok ["a"], { world with files := (withFile []).files }) := by
  rw [World.createFile, Act.runOn_of, FileTree.create, FileTree.resolveNew, FileTree.start_a, same]
  rfl

theorem createFile_b : (World.createFile "b").runOn (withFile bytes) =
    (.ok ["b"], { withFile bytes with files := ⟨[(["a"], .file bytes), (["b"], .file [])]⟩ }) := by
  rw [World.createFile, Act.runOn_of, FileTree.create, FileTree.resolveNew, FileTree.start_b]
  rfl

/-- How a stream of blocks of up to 64 bytes is decoded. -/
abbrev decoded (stream : Bytes) : List Bytes × Ending :=
  decode library.entries.decompressNext (library.boundFor 64 {})
    (BlockReader.freshState library { blockSize := 64 } { native := {} }) stream

theorem decodes {stream : Bytes} {blocks : List Bytes} (read : decoded stream = (blocks, .boundary)) :
    library.Decodes Regular 64 stream blocks.flatten := by
  have usable : StreamOptions.isUsable ({ blockSize := 64 } : StreamOptions).blockSize = true := by
    decide
  have settled : Regular ({ native := {} } : World State).native := regular_default
  exact Library.decodes_determined lossless payloadDetermined settled usable read

theorem decoded_nil : decoded [] = ([], .boundary) := decode_stop rfl

theorem decoded_storedFile : decoded storedFile = ([[1, 2, 3]], .boundary) := by
  have framed : front (library.boundFor 64 {}) storedFile =
      .payload [81, 90, 77, 1, 3, 0, 0, 0, 1, 2, 3] [] := rfl
  have coded : (library.entries.decompressNext
      (BlockReader.freshState library { blockSize := 64 } { native := {} })
      [81, 90, 77, 1, 3, 0, 0, 0, 1, 2, 3]).1 = .ok [1, 2, 3] := by decide +kernel
  rw [decoded, decode_ok framed (Prod.ext coded rfl), decode_stop rfl]

end Simulated

/-! ## Both transfers -/

section Both

variable {library : Library σ ι} {normal : σ → Prop} {world : World σ}
  {result : Bytes → UInt32 → Int32 × Bytes}

/-- Between two places a transfer that succeeds loses nothing: what compression leaves at the
destination decodes to what the source held, what decompression leaves there is the decoding of what
the source held, and the counts are the lengths of the two files. From a place to itself it loses
all that was there: nothing is at the destination then, although decompression still counts the
bytes that were there. -/
theorem Library.transfers_between_places (lossless : library.entries.Lossless normal)
    (keeps : library.entries.KeepsDefaults normal)
    (determined : library.entries.PayloadDetermined normal result) (settled : normal world.native)
    (src dst : String) (options : StreamOptions) :
    (∀ level transfer after,
      (library.compressFile src dst options level).runOn world = (.ok transfer, after) →
      ∃ held stream, world.files.fileAt? src = some held ∧ after.files.fileAt? dst = some stream ∧
        (world.files.resolve src ≠ world.files.resolve dst →
          library.Decodes normal options.blockSize stream held ∧
            transfer = ⟨held.length, stream.length⟩) ∧
        (world.files.resolve src = world.files.resolve dst → stream = [] ∧ transfer = ⟨0, 0⟩)) ∧
    (∀ transfer after,
      (library.decompressFile src dst options).runOn world = (.ok transfer, after) →
      ∃ held data, world.files.fileAt? src = some held ∧ after.files.fileAt? dst = some data ∧
        (world.files.resolve src ≠ world.files.resolve dst →
          library.Decodes normal options.blockSize held data ∧
            transfer = ⟨held.length, data.length⟩) ∧
        (world.files.resolve src = world.files.resolve dst →
          data = [] ∧ transfer = ⟨held.length, 0⟩)) := by
  constructor
  · intro level transfer after done
    obtain ⟨source, place, held, read, stream, from_src, to_dst, here, there, rfl, moved, decodes,
      none⟩ := compressFile_moves lossless keeps settled done
    rw [from_src, to_dst, ne_eq, Except.ok.injEq]
    refine ⟨held, stream, here, there, fun apart => ?_, fun same => ?_⟩
    · rw [if_neg apart] at moved decodes
      exact ⟨decodes, moved⟩
    · rw [if_pos same] at moved none
      obtain rfl := none rfl
      exact ⟨rfl, moved⟩
  · intro transfer after done
    obtain ⟨source, place, held, read, data, from_src, to_dst, here, there, rfl, moved, decodes,
      none⟩ := decompressFile_moves lossless determined settled done
    rw [from_src, to_dst, ne_eq, Except.ok.injEq]
    refine ⟨held, data, here, there, fun apart => ?_, fun same => ?_⟩
    · rw [if_neg apart] at decodes
      exact ⟨decodes, moved⟩
    · rw [if_pos same] at none
      obtain rfl := none rfl
      exact ⟨rfl, moved⟩

end Both

/-- Three bytes are compressed from one file into another. -/
theorem Library.transfers_between_places_stored :
    ∃ stream after,
      (Simulated.library.compressFile "a" "b" { blockSize := 64 } none).runOn
        (Simulated.withFile [1, 2, 3]) = (.ok ⟨3, 15⟩, after) ∧
      after.files.fileAt? "b" = some stream ∧ stream.length = 15 ∧
      Simulated.library.Decodes Simulated.Regular 64 stream [1, 2, 3] := by
  have result : ((Simulated.library.compressFile "a" "b" { blockSize := 64 } none).runOn
      (Simulated.withFile [1, 2, 3])).1 = .ok ⟨3, 15⟩ := by
    simp only [Library.compressFile, Act.runOn_bind, Simulated.openFile_a, Simulated.createFile_b]
    decide +kernel
  generalize run : (Simulated.library.compressFile "a" "b" { blockSize := 64 } none).runOn
    (Simulated.withFile [1, 2, 3]) = outcome at result ⊢
  obtain ⟨answer, after⟩ := outcome
  obtain rfl : answer = .ok ⟨3, 15⟩ := result
  obtain ⟨held, stream, here, there, apart, -⟩ :=
    (transfers_between_places Simulated.lossless Simulated.keepsDefaults_regular
      Simulated.payloadDetermined Simulated.regular_default "a" "b" { blockSize := 64 }).1
      none ⟨3, 15⟩ after run
  rw [Simulated.fileAt?_a, Option.some.injEq] at here
  rw [Simulated.resolve_a, Simulated.resolve_b] at apart
  obtain ⟨decodes, counted⟩ := apart (by decide)
  rw [Transfer.mk.injEq] at counted
  rw [← here] at decodes
  exact ⟨stream, after, rfl, there, counted.2.symm, decodes⟩

/-- A file that is compressed onto itself is lost, and so is a block stream that is decompressed
onto itself; both are reported as done. -/
theorem Library.transfers_onto_itself :
    (∃ after, (Simulated.library.compressFile "a" "a" { blockSize := 64 } none).runOn
        (Simulated.withFile [1, 2, 3]) = (.ok ⟨0, 0⟩, after) ∧
      after.files.fileAt? "a" = some [] ∧
      ¬ Simulated.library.Decodes Simulated.Regular 64 [] [1, 2, 3]) ∧
    (∃ after, (Simulated.library.decompressFile "a" "a" { blockSize := 64 }).runOn
        (Simulated.withFile Simulated.storedFile) = (.ok ⟨15, 0⟩, after) ∧
      after.files.fileAt? "a" = some [] ∧
      Simulated.library.Decodes Simulated.Regular 64 Simulated.storedFile [1, 2, 3]) := by
  constructor
  · have result : ((Simulated.library.compressFile "a" "a" { blockSize := 64 } none).runOn
        (Simulated.withFile [1, 2, 3])).1 = .ok ⟨0, 0⟩ ∧
      ((Simulated.library.compressFile "a" "a" { blockSize := 64 } none).runOn
        (Simulated.withFile [1, 2, 3])).2.files = (Simulated.withFile []).files := by
      simp only [Library.compressFile, Act.runOn_bind, Simulated.openFile_a]
      rw [Simulated.createFile_a _ rfl]
      decide +kernel
    refine ⟨_, Prod.ext result.1 rfl, ?_, fun decodes => ?_⟩
    · rw [result.2]
      exact Simulated.fileAt?_a
    · have empty : Simulated.library.Decodes Simulated.Regular 64 [] [] :=
        Simulated.decodes Simulated.decoded_nil
      cases empty.unique decodes Simulated.regular_default
  · have made : ∃ reader, (BlockReader.create Simulated.library ⟨[]⟩ { blockSize := 64 }).runOn
        (Simulated.withFile Simulated.storedFile) =
        (.ok reader, Simulated.library.asked 64 (Simulated.withFile Simulated.storedFile)) :=
      BlockReader.create_heap _ _ _ rfl (by decide)
    obtain ⟨reader, made⟩ := made
    obtain ⟨-, -, -, pos, filled, -⟩ := BlockReader.create_ok made
    have fresh : reader.pos = reader.filled := pos.trans filled.symm
    have asked := Simulated.createFile_a
      (Simulated.library.asked 64 (Simulated.withFile Simulated.storedFile)) rfl
    obtain ⟨later, read, files⟩ := decompressInto_nothing ["a"]
      { reader with source := .ofBytes [] }
      { Simulated.library.asked 64 (Simulated.withFile Simulated.storedFile) with
        files := (Simulated.withFile []).files } rfl fresh
    have source : (Simulated.withFile []).files.source ⟨["a"], false⟩ = .ofBytes [] := rfl
    have result : ∃ line, (Simulated.library.decompressFile "a" "a" { blockSize := 64 }).runOn
        (Simulated.withFile Simulated.storedFile) = (.ok ⟨15, 0⟩, later.say 3 line) := by
      simp only [Library.decompressFile, Act.runOn_bind, Simulated.openFile_a, Act.runOn_of, made,
        asked, source, read, Act.runOn_change]
      exact ⟨_, rfl⟩
    obtain ⟨line, result⟩ := result
    have same : (later.say 3 line).files = (Simulated.withFile []).files := files
    refine ⟨_, result, ?_, Simulated.decodes Simulated.decoded_storedFile⟩
    rw [same]
    exact Simulated.fileAt?_a

end OffloadCodec

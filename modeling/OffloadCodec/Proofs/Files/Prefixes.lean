import OffloadCodec.Proofs.Files.Transfers

/-!
# What a transfer leaves at the destination

A transfer that breaks off leaves at the destination what it had coded before, and nothing of what it
broke off at. `codeFront` is the part of a coding that comes before its first failure, and the
failure. A compression leaves the frames of that part of the chunks of the source
(`Library.compressFile_leaves`), and a decompression leaves the blocks that the source decodes to
(`Library.decompressFile_leaves`). Whether a transfer succeeds is up to whether there was such a
failure (`Library.transfers_leave_processed`).
-/

namespace OffloadCodec

open OffloadCodec.Frame

variable {σ ι : Type}

/-! ## The front of a coding -/

/-- The outputs of the inputs before the first one that fails, and that failure if there is one. -/
def codeFront {τ : Type} (code : τ → Bytes → Except StreamFailure Bytes × τ) :
    τ → List Bytes → List Bytes × Option StreamFailure
  | _, [] => ([], none)
  | state, input :: inputs =>
    match code state input with
    | (.error e, _) => ([], some e)
    | (.ok output, state) =>
      let (outputs, failure) := codeFront code state inputs
      (output :: outputs, failure)

section CodeFront

variable {τ : Type} {code : τ → Bytes → Except StreamFailure Bytes × τ} {state after : τ}
  {input output : Bytes}

theorem codeFront_ok (coded : code state input = (.ok output, after)) (inputs : List Bytes) :
    codeFront code state (input :: inputs) =
      (output :: (codeFront code after inputs).1, (codeFront code after inputs).2) := by
  rw [codeFront, coded]

theorem codeFront_error {e : StreamFailure} (failed : code state input = (.error e, after))
    (inputs : List Bytes) : codeFront code state (input :: inputs) = ([], some e) := by
  rw [codeFront, failed]

/-- The front of a coding is all of it, or a coding that succeeds up to an input that fails. -/
theorem codeFront_cases (code : τ → Bytes → Except StreamFailure Bytes × τ) (state : τ)
    (inputs : List Bytes) :
    ((codeFront code state inputs).2 = none ∧
        (codeEach code state inputs).1 = .ok (codeFront code state inputs).1) ∨
      ∃ done input rest e middle last, (codeFront code state inputs).2 = some e ∧
        inputs = done ++ input :: rest ∧
        codeEach code state done = (.ok (codeFront code state inputs).1, middle) ∧
        code middle input = (.error e, last) := by
  induction inputs generalizing state with
  | nil => exact .inl ⟨rfl, rfl⟩
  | cons input inputs ih =>
    rcases coded : code state input with ⟨e | output, after⟩
    · rw [codeFront_error coded]
      exact .inr ⟨[], input, inputs, e, state, after, rfl, rfl, rfl, coded⟩
    · rw [codeFront_ok coded]
      rcases ih after with ⟨none, all⟩ | ⟨done, next, rest, e, middle, last, some, rfl, before, failed⟩
      · have whole := codeEach_cons coded (Prod.ext all rfl)
        exact .inl ⟨none, congrArg Prod.fst whole⟩
      · exact .inr ⟨input :: done, next, rest, e, middle, last, some, rfl,
          codeEach_cons coded before, failed⟩

end CodeFront

/-! ## What a writer sends -/

namespace FrameWriter

variable {writer : FrameWriter σ ι} {world : World σ} {block : Bytes}

/-- Nothing is written of a block that the codec rejects. -/
theorem writeFrame_rejected {e : IoError} {after : CodecState σ ι}
    (rejected : writer.session.library.entries.compressNext (writer.codecState world) block =
      (.error (.error e), after)) :
    (writer.writeFrame block world).1 = .error (.error e) ∧
      (writer.writeFrame block world).2.1.sink = writer.sink := by
  rw [writeFrame]
  rcases compressed : writer.compressBlock block world with ⟨failure | n, next, later⟩
  · obtain ⟨taken, -, sink, -⟩ := compressBlock_follows compressed
    rw [rejected] at taken
    exact ⟨congrArg Except.error (Except.error.inj taken), sink⟩
  · obtain ⟨taken, -⟩ := compressBlock_follows compressed
    rw [rejected] at taken
    exact absurd taken (Memory.takeFront_ne_error e)

/-- A sink that takes everything receives the frames of the blocks before the first that the codec
rejects. -/
theorem play_front (unfailing : writer.sink.Unfailing) (blocks : List Bytes) (world : World σ)
    (unstopped : (codeFront writer.session.library.entries.compressNext (writer.codecState world)
      blocks).2 ≠ some .overrun) :
    let coded := codeFront writer.session.library.entries.compressNext (writer.codecState world)
      blocks
    let played := writer.play (blocks.map .frame ++ [.flush]) world
    played.1 = coded.2.elim (.ok ()) .error ∧
      played.2.1.sink.received = writer.sink.received ++ encode coded.1 := by
  induction blocks generalizing writer world with
  | nil =>
    obtain ⟨sink, flushed, -⟩ := unfailing.flush
    have received := writer.sink.received_flush
    rw [flushed] at received
    simp only [List.map_nil, List.nil_append, play, flushSink, flushed, codeFront, encode,
      List.flatMap_nil, List.append_nil]
    exact ⟨rfl, received⟩
  | cons block blocks ih =>
    intro coded played
    have sound := (writeFrame_unfailing unfailing block world).2
    have answered := (writeFrame_unfailing unfailing block world).1
    rcases step : writer.session.library.entries.compressNext (writer.codecState world) block with
      ⟨(e | _) | payload, after⟩
    · obtain ⟨result, sink⟩ := writeFrame_rejected step
      have front : coded = ([], some (.error e)) := codeFront_error step blocks
      have stops : played = writer.writeFrame block world := by
        simp only [played, List.map_cons, List.cons_append, play]
        generalize writer.writeFrame block world = outcome at result ⊢
        obtain ⟨_ | _, next, later⟩ := outcome
        · rfl
        · cases result
      rw [front, stops, result, sink]
      exact ⟨rfl, (List.append_nil _).symm⟩
    · exact absurd (congrArg Prod.snd (codeFront_error step blocks)) unstopped
    · rw [step] at answered
      rcases written : writer.writeFrame block world with ⟨failure | _, next, later⟩
      · rw [written] at answered
        cases answered
      rw [written] at sound
      obtain ⟨_, first, received, -, library, -⟩ := writeFrame_ok written
      obtain ⟨rfl, rfl⟩ := by
        simpa only [Prod.mk.injEq, Except.ok.injEq] using step.symm.trans first
      have front : coded = _ := codeFront_ok step blocks
      have goes : played = next.play (blocks.map .frame ++ [.flush]) later := by
        simp only [played, List.map_cons, List.cons_append, play, written]
      rw [codeFront_ok step] at unstopped
      rw [← library] at unstopped front
      obtain ⟨result, all⟩ := ih sound later unstopped
      rw [front, goes, result, all, received, List.append_assoc]
      exact ⟨rfl, rfl⟩

end FrameWriter

/-! ## Compressing -/

section Compressing

variable {library : Library σ ι} {options : StreamOptions} {writer : BlockWriter σ ι}
  {world opened : World σ} {input : FileTree.Handle} {place : Path}

/-- A file that is written whole emits its chunks, and then the sink is flushed. -/
theorem WriterCall.emitted_whole {size : Nat} (positive : 0 < size) (bytes : Bytes) :
    emitted size [] [.writeAll bytes] .finish = (Bytes.chunks size bytes).map .frame ++ [.flush] := by
  rw [Bytes.chunks_eq_whole_append positive, List.map_append, List.append_assoc]
  rfl

/-- Writing a file whole comes to what the writer comes to, and stores what is in its sink. -/
theorem Library.compressInto_run {bytes : Bytes} (held : world.files.contents input = .ok bytes)
    (place : Path) (writer : BlockWriter σ ι) :
    let completed := writer.complete [.writeAll bytes] .finish world
    ∃ after, (compressInto input place writer).runOn world =
        (completed.1.map fun _ => ⟨bytes.length, completed.2.1.received.length⟩, after) ∧
      after.files = world.files.put place (.file completed.2.1.received) := by
  have stores : ∀ (bytes : Bytes) {later : World σ}, later.files = world.files →
      (later.storeFile place bytes).files = world.files.put place (.file bytes) :=
    fun bytes _ same => congrArg (FileTree.put · place (.file bytes)) same
  simp only [BlockWriter.complete, BlockWriter.performEach, BlockWriter.perform,
    BlockWriter.endWith, compressInto, Act.runOn_of, held]
  rcases written : writer.writeAll bytes world with ⟨failure | _, next, later⟩
  · obtain ⟨refused, gone, -, result⟩ := BlockWriter.discardAfter_writeAll written
    have kept := gone.files
    dsimp only
    generalize next.discardAfter failure later = outcome at kept result ⊢
    obtain ⟨closed, last⟩ := outcome
    obtain rfl : closed = _ := result
    exact ⟨_, rfl, stores _ kept⟩
  · have served := writer.writeAll_serves bytes world
    rw [written] at served
    obtain ⟨refused, gone, -⟩ := next.finish_gone later
    have kept := (gone.behind served.works).files
    dsimp only
    generalize next.finish later = outcome at kept ⊢
    obtain ⟨⟨_ | _, sink⟩, last⟩ := outcome
    · exact ⟨_, rfl, stores _ kept⟩
    · exact ⟨_, rfl, stores _ kept⟩

/-- A new writer that is given a file whole leaves the frames of its chunks, up to the first that the
codec rejects. -/
theorem BlockWriter.complete_whole
    (created : (create library {} options).runOn world = (.ok writer, opened)) (bytes : Bytes) :
    let coded := codeFront library.entries.compressNext (freshState library options world)
      (Bytes.chunks options.blockSize bytes)
    let completed := writer.complete [.writeAll bytes] .finish opened
    coded.2 ≠ some .overrun →
    completed.1 = coded.2.elim (.ok [none]) .error ∧ completed.2.1.received = encode coded.1 := by
  intro coded completed unstopped
  obtain ⟨-, open_, rfl, sink_eq, -⟩ := create_ok created
  have fresh := codecState_eq created
  have unfailing : writer.sink.Unfailing := by
    rw [sink_eq]
    exact ⟨rfl, nofun, nofun⟩
  obtain ⟨result, sent⟩ := open_.complete [.writeAll bytes] .finish opened
  rw [WriterCall.emitted_whole open_.positive] at result sent
  have front := FrameWriter.play_front unfailing (Bytes.chunks options.blockSize bytes) opened
  rw [fresh] at front
  obtain ⟨played, received⟩ := front unstopped
  rw [played] at result
  have empty : writer.sink.received = [] := by
    rw [sink_eq]
    rfl
  refine ⟨?_, ?_⟩
  · rw [result]
    cases coded.2 with
    | none => rfl
    | some e => rfl
  · rw [sent, received, empty]
    rfl

/-- Once everything is set up, the blocks decide how a compression goes. -/
theorem Library.compressFile_from {src dst : String} {level : Option Int32} {leveled : World σ}
    {created : FileTree}
    (set : (level.elim (pure ()) fun level => (library.setCompressionLevel level).streamed).runOn
      world = (.ok (), leveled))
    (opening : leveled.files.openForReading src = .ok input)
    (creating : leveled.files.create dst = .ok (place, created))
    (making : (BlockWriter.create library {} options).runOn { leveled with files := created } =
      (.ok writer, opened)) :
    ((library.compressFile src dst options level).runOn world).1 =
        ((compressInto input place writer).runOn opened).1 ∧
      ((library.compressFile src dst options level).runOn world).2.files =
        ((compressInto input place writer).runOn opened).2.files := by
  rw [compressFile_eq, Act.runOn_bind, set]
  simp only [compressFile, Act.runOn_bind, World.runOn_openFile_ok opening,
    World.runOn_createFile_ok creating, making, Act.runOn_change, Act.runOn_pure]
  rcases (compressInto input place writer).runOn opened with ⟨_ | _, after⟩
  · exact ⟨rfl, rfl⟩
  · exact ⟨rfl, rfl⟩

end Compressing

/-! ## Decompressing -/

section Decompressing

variable {library : Library σ ι} {options : StreamOptions} {reader : BlockReader σ ι}
  {world opened : World σ} {input : FileTree.Handle} {place : Path}

/-- Reading to the end stores all that the reader faces. -/
theorem Library.decompressInto_run {entries : EntryPoints σ ι} {bound : Nat} {data : Bytes}
    {ending : Ending} (faces : reader.Faces entries bound world data ending)
    (unstopped : ending ≠ .rejected .overrun) (place : Path) :
    ∃ after, (decompressInto place reader).runOn world =
        ((ending.failure? bound).elim (.ok data.length) .error, after) ∧
      after.files = world.files.put place (.file data) := by
  have serves := reader.readToEnd_serves world
  obtain ⟨all, ended⟩ := faces.readToEnd unstopped
  rw [decompressInto, Act.runOn_of]
  generalize reader.readToEnd world = outcome at serves all ended ⊢
  obtain ⟨bytes, result, last, later⟩ := outcome
  obtain rfl : bytes = data := all
  obtain ⟨refused, works, -⟩ := serves
  have files := (last.files_close later).trans works.session.files
  refine ⟨(last.close later).storeFile place bytes, ?_,
    congrArg (FileTree.put · place (.file bytes)) files⟩
  obtain rfl : result = _ := ended
  cases ending.failure? bound with
  | none => rfl
  | some e => rfl

/-- Once everything is set up, the reader decides how a decompression goes. -/
theorem Library.decompressFile_from {src dst : String} {created : FileTree}
    (opening : world.files.openForReading src = .ok input)
    (making : (BlockReader.create library ⟨[]⟩ options).runOn world = (.ok reader, opened))
    (creating : opened.files.create dst = .ok (place, created)) :
    let moved := (decompressInto place { reader with source := created.source input }).runOn
      { opened with files := created }
    ((library.decompressFile src dst options).runOn world).1 =
        moved.1.map (fun count => ⟨world.files.lengthOf input, count⟩) ∧
      ((library.decompressFile src dst options).runOn world).2.files = moved.2.files := by
  simp only [decompressFile, Act.runOn_bind, World.runOn_openFile_ok opening, Act.runOn_of, making,
    World.runOn_createFile_ok creating, Act.runOn_change, Act.runOn_pure]
  generalize decompressInto place _ = act
  rcases act.runOn _ with ⟨_ | _, after⟩
  · exact ⟨rfl, rfl⟩
  · exact ⟨rfl, rfl⟩

end Decompressing

/-! ## Both transfers -/

section Both

variable {library : Library σ ι} {options : StreamOptions} {world opened : World σ}
  {src dst : String} {place : Path} {created : FileTree} {held : Bytes}
  (apart : world.files.resolve src ≠ world.files.resolve dst)
  (stored : world.files.fileAt? src = some held)
  (creating : world.files.create dst = .ok (place, created))
include apart stored creating

/-- The source can still be read when the destination is there. -/
theorem FileTree.contents_apart :
    ∃ source, world.files.openForReading src = .ok ⟨source, false⟩ ∧
      world.files.contents ⟨source, false⟩ = .ok held ∧
      created.contents ⟨source, false⟩ = .ok held := by
  obtain ⟨source, from_src, here, opening⟩ := openForReading_of_fileAt? stored
  obtain ⟨to_dst, free, rfl⟩ := create_ok creating
  have other : source ≠ place := by
    rintro rfl
    exact apart (from_src.trans to_dst.symm)
  refine ⟨source, opening, ?_, ?_⟩
  · rw [contents, if_neg Bool.false_ne_true, here]
  · rw [contents_put rfl free here, if_neg other]

theorem Library.compressFile_leaves {level : Option Int32} {leveled : World σ}
    {writer : BlockWriter σ ι}
    (set : (level.elim (pure ()) fun level => (library.setCompressionLevel level).streamed).runOn
      world = (.ok (), leveled))
    (making : (BlockWriter.create library {} options).runOn { leveled with files := created } =
      (.ok writer, opened)) :
    let coded := codeFront library.entries.compressNext
      (BlockWriter.freshState library options { leveled with files := created })
      (Bytes.chunks options.blockSize held)
    coded.2 ≠ some .overrun →
    ∃ after, (library.compressFile src dst options level).runOn world =
        (coded.2.elim (.ok ⟨held.length, (encode coded.1).length⟩) .error, after) ∧
      after.files.fileAt? dst = some (encode coded.1) ∧
      ∀ other, other ≠ place → after.files.get? other = world.files.get? other := by
  intro coded unstopped
  have same := library.files_setLevel level world
  rw [set] at same
  have kept := BlockWriter.maintains_create library.obtains_files {} options
    { leveled with files := created } rfl
  rw [making] at kept
  dsimp only at same kept
  obtain ⟨source, opening, -, contents⟩ := FileTree.contents_apart apart stored creating
  rw [← same] at opening creating
  rw [← kept] at contents
  obtain ⟨result, files⟩ := compressFile_from set opening creating making
  obtain ⟨later, run, moved⟩ := compressInto_run contents place writer
  obtain ⟨completed, received⟩ := BlockWriter.complete_whole making held unstopped
  rw [run] at result files
  rw [completed, received] at result
  rw [moved, kept, received] at files
  rw [same] at creating
  refine ⟨_, Prod.ext (result.trans ?_) rfl, ?_, fun other beside => ?_⟩
  · cases coded.2 with
    | none => rfl
    | some e => rfl
  · rw [files]
    exact FileTree.fileAt?_created creating _
  · rw [files]
    exact FileTree.get?_created creating _ beside

theorem Library.decompressFile_leaves {reader : BlockReader σ ι}
    (making : (BlockReader.create library ⟨[]⟩ options).runOn world = (.ok reader, opened)) :
    let bound := library.boundFor options.blockSize world.native
    let decoded := decode library.entries.decompressNext bound
      (BlockReader.freshState library options world) held
    decoded.2 ≠ .rejected .overrun →
    ∃ after, (library.decompressFile src dst options).runOn world =
        ((decoded.2.failure? bound).elim (.ok ⟨held.length, decoded.1.flatten.length⟩) .error,
          after) ∧
      after.files.fileAt? dst = some decoded.1.flatten ∧
      ∀ other, other ≠ place → after.files.get? other = world.files.get? other := by
  intro bound decoded unstopped
  have kept := BlockReader.maintains_create library.obtains_files ⟨[]⟩ options world rfl
  rw [making] at kept
  dsimp only at kept
  obtain ⟨source, opening, before, contents⟩ := FileTree.contents_apart apart stored creating
  have length : world.files.lengthOf ⟨source, false⟩ = held.length := by
    rw [FileTree.lengthOf, before]
  have delivers : created.source ⟨source, false⟩ = .ofBytes held := by
    rw [FileTree.source, contents]
  have faces := BlockReader.create_faces (Source.delivers_ofBytes held)
    (BlockReader.create_onto making (.ofBytes held))
  have there : BlockReader.Faces _ _ { reader with source := .ofBytes held }
      { opened with files := created } _ _ := faces.of_native rfl
  obtain ⟨later, run, moved⟩ := decompressInto_run there unstopped place
  have creating' : opened.files.create dst = .ok (place, created) := by rw [kept, creating]
  obtain ⟨result, files⟩ := decompressFile_from opening making creating'
  rw [delivers, run, length] at result
  rw [delivers, run, moved] at files
  refine ⟨_, Prod.ext (result.trans ?_) rfl, ?_, fun other beside => ?_⟩
  · cases decoded.2.failure? bound with
    | none => rfl
    | some e => rfl
  · rw [files]
    exact FileTree.fileAt?_created creating _
  · rw [files]
    exact FileTree.get?_created creating _ beside

/-- Between two places, a transfer that is set up leaves at the destination exactly what it coded
before it ended, and nothing is changed elsewhere. A compression leaves the frames of the chunks of
the source in front of the first one that the codec rejects, and returns that rejection. A
decompression leaves the blocks of the frames in front of the first bad one, and returns what is
wrong with that. If nothing is rejected or bad then they return the lengths of the two files. A library
that reports more than a buffer has room for stops the program instead. -/
theorem Library.transfers_leave_processed (library : Library σ ι) (options : StreamOptions) :
    (∀ level leveled writer opened,
      (level.elim (pure ()) fun level => (library.setCompressionLevel level).streamed).runOn world =
        (.ok (), leveled) →
      (BlockWriter.create library {} options).runOn { leveled with files := created } =
        (.ok writer, opened) →
      let start := BlockWriter.freshState library options { leveled with files := created }
      let chunks := Bytes.chunks options.blockSize held
      let coded := codeFront library.entries.compressNext start chunks
      coded.2 ≠ some .overrun →
      (∃ after, (library.compressFile src dst options level).runOn world =
          (coded.2.elim (.ok ⟨held.length, (encode coded.1).length⟩) .error, after) ∧
        after.files.fileAt? dst = some (encode coded.1) ∧
        ∀ other, other ≠ place → after.files.get? other = world.files.get? other) ∧
      (coded.2 = none ∧ (codeEach library.entries.compressNext start chunks).1 = .ok coded.1 ∨
        ∃ done chunk rest rejection middle last, coded.2 = some (.error (.codec rejection)) ∧
          chunks = done ++ chunk :: rest ∧
          codeEach library.entries.compressNext start done = (.ok coded.1, middle) ∧
          library.entries.compressNext middle chunk = (.error (.error (.codec rejection)), last))) ∧
    (∀ reader opened,
      (BlockReader.create library ⟨[]⟩ options).runOn world = (.ok reader, opened) →
      let bound := library.boundFor options.blockSize world.native
      let decoded := decode library.entries.decompressNext bound
        (BlockReader.freshState library options world) held
      decoded.2 ≠ .rejected .overrun →
      ∃ after, (library.decompressFile src dst options).runOn world =
          ((decoded.2.failure? bound).elim (.ok ⟨held.length, decoded.1.flatten.length⟩) .error,
            after) ∧
        after.files.fileAt? dst = some decoded.1.flatten ∧
        ∀ other, other ≠ place → after.files.get? other = world.files.get? other) := by
  refine ⟨fun level leveled writer opened set making => ?_, fun reader opened making =>
    decompressFile_leaves apart stored creating making⟩
  intro start chunks coded unstopped
  refine ⟨compressFile_leaves apart stored creating set making unstopped, ?_⟩
  rcases codeFront_cases library.entries.compressNext start chunks with
    all | ⟨done, chunk, rest, e, middle, last, some, cut, before, failed⟩
  · exact .inl all
  · cases e with
    | overrun => exact absurd some unstopped
    | error e =>
      obtain ⟨rejection, rfl⟩ := EntryPoints.compressNext_error failed
      exact .inr ⟨done, chunk, rest, rejection, middle, last, some, cut, before, failed⟩

end Both

/-- The second chunk is rejected by the codec, and a stream is cut behind its first frame. -/
theorem Library.transfers_leave_processed_rejected :
    (∃ after, (Simulated.library.compressFile "a" "b" { blockSize := 2 } none).runOn
        { Simulated.withFile [1, 2, 3] with
          native := { faults := { next := [(.compress, [0, -2])] } } } =
        (.error (.error (.codec (.operationFailed .compress (-2)))), after) ∧
      after.files.fileAt? "b" = some [10, 0, 0, 0, 81, 90, 77, 1, 2, 0, 0, 0, 1, 2]) ∧
    (∃ after, (Simulated.library.decompressFile "a" "b" { blockSize := 64 }).runOn
        (Simulated.withFile (Simulated.storedFile ++ [9, 0])) =
        (.error (.error .truncatedHeader), after) ∧
      after.files.fileAt? "b" = some [1, 2, 3]) := by
  have apart : ∀ bytes, (Simulated.withFile bytes).files.resolve "a" ≠
      (Simulated.withFile bytes).files.resolve "b" := by
    intro bytes
    rw [Simulated.resolve_a, Simulated.resolve_b]
    decide
  have creating : ∀ bytes, (Simulated.withFile bytes).files.create "b" =
      .ok (["b"], ⟨[(["a"], .file bytes), (["b"], .file [])]⟩) := by
    intro bytes
    rw [FileTree.create, FileTree.resolveNew, FileTree.start_b]
    rfl
  constructor
  · generalize faulty : ({ Simulated.withFile [1, 2, 3] with
      native := { faults := { next := [(.compress, [0, -2])] } } } : World Simulated.State) = world
    have files : world.files = (Simulated.withFile [1, 2, 3]).files := by rw [← faulty]
    obtain ⟨writer, making⟩ : ∃ writer,
        (BlockWriter.create Simulated.library {} { blockSize := 2 }).runOn
          { world with files := ⟨[(["a"], .file [1, 2, 3]), (["b"], .file [])]⟩ } =
          (.ok writer, _) :=
      BlockWriter.create_heap _ _ _ rfl (by decide)
    have front : codeFront Simulated.library.entries.compressNext
        (BlockWriter.freshState Simulated.library { blockSize := 2 }
          { world with files := ⟨[(["a"], .file [1, 2, 3]), (["b"], .file [])]⟩ })
        (Bytes.chunks 2 [1, 2, 3]) =
        ([[81, 90, 77, 1, 2, 0, 0, 0, 1, 2]],
          some (.error (.codec (.operationFailed .compress (-2))))) := by
      subst faulty
      decide +kernel
    have leaves := (transfers_leave_processed (files ▸ apart [1, 2, 3])
      (files ▸ Simulated.fileAt?_a) (files ▸ creating [1, 2, 3]) Simulated.library
      { blockSize := 2 }).1 none world writer _ rfl making
    dsimp only at leaves
    rw [front] at leaves
    obtain ⟨⟨after, run, there, -⟩, -⟩ := leaves (by decide)
    exact ⟨after, run, there⟩
  · obtain ⟨reader, making⟩ : ∃ reader,
        (BlockReader.create Simulated.library ⟨[]⟩ { blockSize := 64 }).runOn
          (Simulated.withFile (Simulated.storedFile ++ [9, 0])) = (.ok reader, _) :=
      BlockReader.create_heap _ _ _ rfl (by decide)
    have cut : decode Simulated.library.entries.decompressNext (Simulated.library.boundFor 64 {})
        (BlockReader.freshState Simulated.library { blockSize := 64 }
          (Simulated.withFile (Simulated.storedFile ++ [9, 0]))) (Simulated.storedFile ++ [9, 0]) =
        ([[1, 2, 3]], .cutHeader) := by
      have framed : front (Simulated.library.boundFor 64 {}) (Simulated.storedFile ++ [9, 0]) =
          .payload [81, 90, 77, 1, 3, 0, 0, 0, 1, 2, 3] [9, 0] := rfl
      have coded : (Simulated.library.entries.decompressNext
          (BlockReader.freshState Simulated.library { blockSize := 64 }
            (Simulated.withFile (Simulated.storedFile ++ [9, 0])))
          [81, 90, 77, 1, 3, 0, 0, 0, 1, 2, 3]).1 = .ok [1, 2, 3] := by decide +kernel
      rw [decode_ok framed (Prod.ext coded rfl), decode_stop rfl]
    have leaves := (transfers_leave_processed (apart _) Simulated.fileAt?_a (creating _)
      Simulated.library { blockSize := 64 }).2 reader _ making
    rw [show (Simulated.withFile (Simulated.storedFile ++ [9, 0])).native = {} from rfl] at leaves
    dsimp only at leaves
    rw [cut] at leaves
    obtain ⟨after, run, there, -⟩ := leaves (fun impossible => by cases impossible)
    exact ⟨after, run, there⟩

end OffloadCodec

import OffloadCodec.Proofs.Files.Transfers

/-!
# Transfers that fail before they begin

A transfer sets up what it needs step by step, and ends at the first step that fails. Decompression
makes its reader before it creates the destination, so the files are as they were if the source or the
reader is not to be had. Compression creates the destination before its writer is made. If the writer
is not to be had then the destination is an empty file from there on, whatever it held before
(`Library.setups_that_fail`).
-/

namespace OffloadCodec

variable {σ ι : Type}

/-- What a transfer does that fails while it is set up. Decompression leaves the files as they were.
So does compression if the level is rejected or the source cannot be opened; if its writer is not made
then the destination is empty, and only the other files are as they were. -/
theorem Library.setups_that_fail (library : Library σ ι) (src dst : String) (options : StreamOptions)
    (level : Option Int32) (world : World σ) :
    let set : Act σ StreamFailure Unit :=
      level.elim (pure ()) fun level => (library.setCompressionLevel level).streamed
    (∀ e later, set.runOn world = (.error e, later) →
      (library.compressFile src dst options level).runOn world = (.error e, later) ∧
        later.files = world.files) ∧
    (∀ leveled, set.runOn world = (.ok (), leveled) → leveled.files = world.files ∧
      (∀ e, world.files.openForReading src = .error e →
        (library.compressFile src dst options level).runOn world =
          (.error (.error (.file e)), leveled)) ∧
      (∀ input place created e later, world.files.openForReading src = .ok input →
        world.files.create dst = .ok (place, created) →
        (BlockWriter.create library {} options).runOn { leveled with files := created } =
          (.error e, later) →
        (library.compressFile src dst options level).runOn world = (.error e, later) ∧
          later.files.fileAt? dst = some [] ∧
          ∀ other, other ≠ place → later.files.get? other = world.files.get? other)) ∧
    (∀ e, world.files.openForReading src = .error e →
      (library.decompressFile src dst options).runOn world = (.error (.error (.file e)), world)) ∧
    (∀ input e later, world.files.openForReading src = .ok input →
      (BlockReader.create library ⟨[]⟩ options).runOn world = (.error e, later) →
      (library.decompressFile src dst options).runOn world = (.error e, later) ∧
        later.files = world.files) := by
  intro set
  have kept := library.files_setLevel level world
  refine ⟨fun e later rejected => ?_, fun leveled accepted => ?_, fun e missing => ?_,
    fun input e later opening refused => ?_⟩
  · rw [rejected] at kept
    rw [compressFile_eq, Act.runOn_bind, rejected]
    exact ⟨rfl, kept⟩
  · rw [accepted] at kept
    dsimp only at kept
    refine ⟨kept, fun e missing => ?_, fun input place created e later opening creating refused => ?_⟩
    · rw [← kept] at missing
      rw [compressFile_eq, Act.runOn_bind, accepted]
      simp only [compressFile, Act.runOn_bind, World.runOn_openFile_error missing]
    · have written := BlockWriter.maintains_create library.obtains_files {} options
        { leveled with files := created } rfl
      rw [refused] at written
      obtain ⟨empty, others⟩ := FileTree.create_empties creating
      rw [← kept] at opening creating
      refine ⟨?_, ?_, ?_⟩
      · rw [compressFile_eq, Act.runOn_bind, accepted]
        simp only [compressFile, Act.runOn_bind, World.runOn_openFile_ok opening,
          World.runOn_createFile_ok creating, refused]
      · rw [written, empty]
      · rw [written]
        exact others
  · simp only [decompressFile, Act.runOn_bind, World.runOn_openFile_error missing]
  · have read := BlockReader.maintains_create library.obtains_files ⟨[]⟩ options world rfl
    rw [refused] at read
    refine ⟨?_, read⟩
    simp only [decompressFile, Act.runOn_bind, World.runOn_openFile_ok opening, Act.runOn_of,
      refused]

/-- A source that is missing and a reader for which there is no memory leave the files alone. -/
theorem Library.setups_that_fail_early :
    (∃ later, (Simulated.library.compressFile "b" "a" { blockSize := 64 } none).runOn
        (Simulated.withFile [1, 2, 3]) = (.error (.error (.file .noSuchFile)), later) ∧
      later.files = (Simulated.withFile [1, 2, 3]).files) ∧
    (∃ later, (Simulated.library.decompressFile "a" "b"
        { blockSize := 64, buffers := { useNative := true } }).runOn
        { Simulated.withFile [1, 2, 3] with native := { faults := { always := [(.malloc, -2)] } } } =
        (.error (.error (.codec (.outOfMemory "qzMalloc buffer"))), later) ∧
      later.files = (Simulated.withFile [1, 2, 3]).files) := by
  constructor
  · have missing : (Simulated.withFile [1, 2, 3]).files.openForReading "b" = .error .noSuchFile := by
      rw [FileTree.openForReading, Simulated.resolve_b]
      rfl
    obtain ⟨-, compresses, -⟩ := setups_that_fail Simulated.library "b" "a" { blockSize := 64 } none
      (Simulated.withFile [1, 2, 3])
    obtain ⟨same, unopened, -⟩ := compresses (Simulated.withFile [1, 2, 3]) rfl
    exact ⟨_, unopened _ missing, same⟩
  · generalize faulty : ({ Simulated.withFile [1, 2, 3] with
      native := { faults := { always := [(.malloc, -2)] } } } : World Simulated.State) = world
    have files : world.files = (Simulated.withFile [1, 2, 3]).files := by rw [← faulty]
    have opening : world.files.openForReading "a" = .ok ⟨["a"], false⟩ := by
      rw [files, FileTree.openForReading, Simulated.resolve_a]
      rfl
    have refused : ∃ later, (BlockReader.create Simulated.library ⟨[]⟩
        { blockSize := 64, buffers := { useNative := true } }).runOn world =
        (.error (.error (.codec (.outOfMemory "qzMalloc buffer"))), later) := by
      subst faulty
      exact ⟨_, rfl⟩
    obtain ⟨later, refused⟩ := refused
    obtain ⟨-, -, -, decompresses⟩ := setups_that_fail Simulated.library "a" "b"
      { blockSize := 64, buffers := { useNative := true } } none world
    obtain ⟨run, same⟩ := decompresses _ _ _ opening refused
    exact ⟨later, run, same.trans files⟩

/-- With a block size of zero, compression empties a destination that decompression leaves alone. -/
theorem Library.setups_that_fail_late :
    let world : World Simulated.State := { native := {}, files :=
      ⟨[(["a"], .file [1, 2, 3]), (["b"], .file [170, 187])]⟩ }
    world.files.fileAt? "b" = some [170, 187] ∧
    (∃ after, (Simulated.library.compressFile "a" "b" { blockSize := 0 } none).runOn world =
        (.error (.error (.unusableBlockSize 0)), after) ∧ after.files.fileAt? "b" = some []) ∧
    (∃ after, (Simulated.library.decompressFile "a" "b" { blockSize := 0 }).runOn world =
        (.error (.error (.unusableBlockSize 0)), after) ∧
      after.files.fileAt? "b" = some [170, 187]) := by
  intro world
  have resolved : ∀ (files : FileTree), files.resolve "b" = .ok ["b"] := by
    intro files
    rw [FileTree.resolve, FileTree.start_b]
    rfl
  have opening : world.files.openForReading "a" = .ok ⟨["a"], false⟩ := by
    rw [FileTree.openForReading, FileTree.resolve, FileTree.start_a]
    rfl
  have creating : world.files.create "b" =
      .ok (["b"], ⟨[(["a"], .file [1, 2, 3]), (["b"], .file [])]⟩) := by
    rw [FileTree.create, FileTree.resolveNew, FileTree.start_b]
    rfl
  have before : world.files.fileAt? "b" = some [170, 187] := FileTree.fileAt?_eq (resolved _) rfl
  refine ⟨before, ⟨{ world with files := ⟨[(["a"], .file [1, 2, 3]), (["b"], .file [])]⟩ }, ?_,
    FileTree.fileAt?_eq (resolved _) rfl⟩, ⟨world, ?_, before⟩⟩
  · simp only [compressFile, Act.runOn_bind, World.runOn_openFile_ok opening,
      World.runOn_createFile_ok creating]
    rfl
  · simp only [decompressFile, Act.runOn_bind, World.runOn_openFile_ok opening]
    rfl

end OffloadCodec

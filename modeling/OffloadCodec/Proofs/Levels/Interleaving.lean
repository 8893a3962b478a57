import OffloadCodec.Proofs.Levels.Files
import OffloadCodec.Proofs.Levels.Threads

/-!
# Sessions among others

Sessions, writers, readers and threads use one library in any order, while the level is changed
again and again. A session has the level that is in force at its first codec call, and everything
that comes of it is what comes of its own calls alone at that level
(`Library.sessions_latch_levels`).
-/

namespace OffloadCodec

section Sharing

variable {σ ι : Type} {library : Library σ ι} {normal : σ → Prop} {params : σ → RawParams}
  {latched : SessionRecord ι → Option UInt32} {codec : LevelCodec}

/-- The level of a use is the one at its first codec call. All that is coded and all blocks that
come of it are of that level, and it comes to what it comes to alone at the level. -/
structure Use.Apart (library : Library σ ι) (normal : σ → Prop) (params : σ → RawParams)
    (codec : LevelCodec) (level : UInt32) (visits : List (Visit σ ι)) (use : Use)
    (account : Account) : Prop where
  found : ∀ visit ∈ visits.find? (·.1.isCodec), (params visit.2).level = level
  coded : ∀ visit ∈ visits, Visit.CodedAt library.entries codec level visit
  stores : use.Stores codec level account
  alone : ∀ world : World σ, normal world.native → (params world.native).level = level →
    account = (use.run library world).1
  totals : ∀ totals ∈ account.totals, totals =
    ((visits.map (·.1.takenIn codec level)).sum, (visits.map (·.1.givenOut codec level)).sum)

variable (latches : library.entries.LatchesLevel normal params latched codec)
include latches

/-- A use that is one user's part of a history is apart from all others. -/
theorem Use.apart {κ : Type} [DecidableEq κ] {user : κ} {native : σ}
    {history : List (κ × LibraryCall ι)} {use : Use} {world : World (Turns σ ι)}
    (part : library.entries.Part normal user native history world
      (use.run library.shared world).2) :
    use.Apart library normal params codec (library.entries.levelFound params user native history)
      (library.entries.visits user native history) (use.run library.shared world).1 := by
  have new := latches.serves_turns user part.start history
  rw [← part.finds] at new
  obtain ⟨record, serves, totals⟩ := use.run_serves latches new
  refine ⟨fun visit first => (EntryPoints.levelFound_eq params first).symm, ?_,
    use.run_stores latches new, ?_, ?_⟩
  · rw [← part.made]
    exact serves.coded
  · intro world' settled inForce
    have fresh : (Library.sharedLikeness latches _).Fresh world world' :=
      ⟨new, settled, rfl, rfl, fun _ => inForce⟩
    exact (use.run_alike (Library.sharedLikeness_allocates latches _)
      (Library.Likeness.closes_any _) fresh).result
  · intro both came
    rw [totals both came, SessionRecord.totals, serves.totalIn, serves.totalOut, part.made]

/-- For every interleaving of calls of a library, by whomever:

* a session, writer or reader has all that it codes coded at the level that is in force at its first
  codec call, all blocks that it gives out are of that level, and what it returns is what it returns
  alone at that level;
* making one codes nothing and leaves it without a level;
* the same holds of the codec calls of each thread of a process;
* a file that is compressed at a level has blocks of that level only, if nobody else replaces the
  defaults meanwhile;
* in a block of the simulated library the low byte of its level stands behind the tag. -/
theorem Library.sessions_latch_levels :
    (∀ (κ : Type) [DecidableEq κ] (user : κ) (native : σ) (history : List (κ × LibraryCall ι))
      (use : Use) (world : World (Turns σ ι)),
      library.entries.Part normal user native history world (use.run library.shared world).2 →
      use.Apart library normal params codec (library.entries.levelFound params user native history)
        (library.entries.visits user native history) (use.run library.shared world).1) ∧
    (latched (Session.new library.shared).record = none ∧
      (∀ (sink : Sink) (options : StreamOptions) (world : World (Turns σ ι)),
        let made := (BlockWriter.create library.shared sink options).runOn world
        made.2.native.Adds LibraryCall.Idle world.native.made ∧
          ∀ writer, made.1 = .ok writer → writer.session = .new library.shared) ∧
      ∀ (source : Source) (options : StreamOptions) (world : World (Turns σ ι)),
        let made := (BlockReader.create library.shared source options).runOn world
        made.2.native.Adds LibraryCall.Idle world.native.made ∧
          ∀ reader, made.1 = .ok reader → reader.session = .new library.shared) ∧
    (∀ (host alone : Host σ ι) (id : Nat) (turns : List (ProcessTurn ι)),
      host.Sound library normal → alone.Sound library normal →
      (host.thread id).session = none → (alone.thread id).session = none →
      (∀ found ∈ (host.levelsFound params id turns).head?,
        found = (params alone.world.native).level) →
      Host.Apart library codec (params alone.world.native).level id turns host alone) ∧
    (∀ (κ : Type) [DecidableEq κ] (user : κ) (native : σ) (history : List (κ × LibraryCall ι))
      (src dst : String) (options : StreamOptions) (level : Int32) (transfer : Transfer)
      (world after : World (Turns σ ι)),
      library.entries.Part normal user native history world after →
      (∀ turn ∈ history, turn.1 ≠ user → turn.2.setsDefaults = false) →
      (library.shared.compressFile src dst options (some level)).runOn world =
        (.ok transfer, after) →
      (∃ blocks payloads, after.files.fileAt? dst = some (Frame.encode payloads) ∧
        List.Forall₂ (codec.Stores level.toUInt32) blocks payloads) ∧
      ∀ visit ∈ library.entries.visits user native history,
        Visit.CodedAt library.entries codec level.toUInt32 visit) ∧
    ∀ (faults : Simulated.Faults) (level : UInt32) (block payload : Bytes),
      (Simulated.levelCodec faults).Stores level block payload →
      payload = Simulated.stored level block ∧
        payload[Simulated.tag.length]? = some level.toUInt8 := by
  refine ⟨fun κ _ user native history use world part => use.apart latches part,
    ⟨latches.fresh, ?_, ?_⟩, ?_, ?_, fun _ _ _ _ => Simulated.level_of_stores⟩
  · intro sink options world
    have adds := BlockWriter.maintains_create (library.shared_adds world.native.made) sink options
      world (.refl _ _)
    exact ⟨adds, fun writer made => BlockWriter.session_create (Prod.ext made rfl)⟩
  · intro source options world
    have adds := BlockReader.maintains_create (library.shared_adds world.native.made) source options
      world (.refl _ _)
    refine ⟨adds, fun reader made => ?_⟩
    obtain ⟨-, -, new, -⟩ := BlockReader.create_ok (Prod.ext made rfl)
    exact new
  · intro host alone id turns sound sound' new new' first
    exact Host.apart latches sound sound' new new' turns first
  · intro κ _ user native history src dst options level transfer world after part others done
    exact compressFile_level latches part others done

end Sharing

/-! ## Three interleavings -/

namespace Simulated

/-- Two blocks are written. -/
def twoBlocks : Use :=
  .writer {} { blockSize := 64 } [.write [1, 2, 3], .flush, .write [4]] (some .finish)

/-- User 0 writes two blocks, and the level is changed before each. -/
def writing : List (Nat × LibraryCall UInt32) :=
  [(0, .maxCompressedLength 64),
   (1, .setDefaults { RawParams.shipped with level := 9 }),
   (0, .compress {} [1, 2, 3] 72 true),
   (1, .setDefaults { RawParams.shipped with level := 2 }),
   (2, .compress {} [5] 72 true),
   (0, .compress ⟨some 9, 3, 11⟩ [4] 72 true),
   (0, .teardown ⟨some 9, 4, 20⟩)]

/-- User 0 compresses a file at level 6 while another has a session of level 3. -/
def compressing : List (Nat × LibraryCall UInt32) :=
  [(1, .compress ⟨some 3, 0, 0⟩ [7] 72 true),
   (0, .getDefaults .shipped),
   (0, .setDefaults { RawParams.shipped with level := 6 }),
   (1, .compress ⟨some 3, 1, 9⟩ [8] 72 true),
   (0, .maxCompressedLength 64),
   (0, .compress {} [1, 2, 3] 72 true),
   (0, .teardown ⟨some 6, 3, 11⟩)]

/-- Thread 0 compresses twice, and thread 1 sets the level before each. -/
def calling : List (ProcessTurn UInt32) :=
  [.call 1 (.setCompressionLevel 9),
   .call 0 (.compress (.ofBytes [1, 2, 3]) 3 (.zeros 16)),
   .call 1 (.setCompressionLevel 2),
   .elsewhere (.compress {} [5] 72 true),
   .call 0 (.compress (.ofBytes [4]) 1 (.zeros 16))]

/-- The world of user 0, with one file. -/
def userIn (history : List (Nat × LibraryCall UInt32)) : World (Turns State UInt32) :=
  { native := library.entries.turns 0 {} history, files := (withFile [1, 2, 3]).files }

/-- A process with the library at a level. -/
def hostAt (level : UInt32) : Host State UInt32 where
  world := { native := { defaults := { RawParams.shipped with level } } }
  loader := none
  bound := some library

theorem sound_hostAt (level : UInt32) : (hostAt level).Sound library (·.faults = {}) :=
  ⟨rfl, rfl, fun _ => rfl⟩

/-- How the file is compressed. -/
theorem run_compressing :
    ∃ after, (library.shared.compressFile "a" "b" { blockSize := 64 } (some 6)).runOn
        (userIn compressing) = (.ok ⟨3, 15⟩, after) ∧
      after.native.made = library.entries.visits 0 {} compressing := by
  have set : ((library.shared.setCompressionLevel 6).runOn (userIn compressing)).1 = .ok () := by
    cbv
  generalize leveled_eq :
    ((library.shared.setCompressionLevel 6).runOn (userIn compressing)).2 = leveled
  have opening : leveled.files.openForReading "a" = .ok ⟨["a"], false⟩ := by
    rw [← leveled_eq]
    cbv
  have creating : leveled.files.create "b" =
      .ok (["b"], ⟨[(["a"], .file [1, 2, 3]), (["b"], .file [])]⟩) := by
    rw [← leveled_eq]
    cbv
  generalize moving : (BlockWriter.create library.shared {} { blockSize := 64 } >>=
    Library.compressInto ⟨["a"], false⟩ ["b"]).runOn
      { leveled with files := ⟨[(["a"], .file [1, 2, 3]), (["b"], .file [])]⟩ } = outcome
  have moved : outcome.1 = .ok ⟨3, 15⟩ := by
    rw [← moving, ← leveled_eq]
    cbv
  have made : outcome.2.native.made = library.entries.visits 0 {} compressing := by
    rw [← moving, ← leveled_eq]
    cbv
  obtain ⟨line, run⟩ := Library.compressFile_run (Prod.ext set leveled_eq) opening creating
    (moving.trans (Prod.ext moved rfl))
  exact ⟨_, run, made⟩

end Simulated

open Simulated in
/-- A writer and a thread keep level 9, and the file has blocks of level 6. -/
theorem Library.sessions_latch_levels_simulated :
    (twoBlocks.run library.shared (userIn writing)).1 = (twoBlocks.run library (hostAt 9).world).1 ∧
    (hostAt 1).replies 0 calling = (hostAt 9).replies 0 (ownTurns 0 calling) ∧
    ∃ after payloads, (library.shared.compressFile "a" "b" { blockSize := 64 } (some 6)).runOn
        (userIn compressing) = (.ok ⟨3, 15⟩, after) ∧
      after.files.fileAt? "b" = some (Frame.encode payloads) ∧
      ∀ payload ∈ payloads, payload[3]? = some 6 := by
  have unforced : Unforced {} := ⟨rfl, rfl⟩
  obtain ⟨uses, -, threads, files, blocks⟩ := sessions_latch_levels (latchesLevel unforced)
  refine ⟨?_, ?_, ?_⟩
  · have part : library.entries.Part (·.faults = {}) 0 {} writing (userIn writing)
        (twoBlocks.run library.shared (userIn writing)).2 := ⟨rfl, rfl, by cbv⟩
    have level : library.entries.levelFound (·.defaults) 0 {} writing = 9 := by cbv
    have apart := uses Nat 0 {} writing twoBlocks (userIn writing) part
    rw [level] at apart
    exact apart.alone (hostAt 9).world rfl rfl
  · have found : (hostAt 1).levelsFound (·.defaults) 0 calling = [9, 2] := by cbv
    have apart := threads (hostAt 1) (hostAt 9) 0 calling (sound_hostAt 1) (sound_hostAt 9) rfl rfl
    rw [found] at apart
    exact (apart fun _ first => (Option.some.inj first).symm).same
  · obtain ⟨after, run, made⟩ := run_compressing
    obtain ⟨⟨inputs, payloads, held, stores⟩, -⟩ := files Nat 0 {} compressing "a" "b" _ 6 _ _ after
      ⟨rfl, rfl, made⟩ (by decide) run
    have marked : List.Forall₂ (fun payload block => payload[3]? = some 6 ∧
        flip ((levelCodec {}).Stores 6) payload block) payloads inputs :=
      stores.flip.imp fun payload block stored => ⟨(blocks {} 6 block payload stored).2, stored⟩
    exact ⟨after, payloads, run, held, ((List.forall₂_and_left payloads inputs).1 marked).1⟩

end OffloadCodec

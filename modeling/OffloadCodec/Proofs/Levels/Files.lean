import OffloadCodec.Proofs.Defaults.Level
import OffloadCodec.Proofs.Files.Transfers
import OffloadCodec.Proofs.Levels.Blocks

/-!
# Compressing a file at a level

Compressing a file with a level replaces the defaults by ones of that level, and replaces nothing
after that. So if nobody else replaces them in the history, then the level is in force whatever the
library is called for later, and in particular for the first codec call of the file's own session
(`level_turns`). All blocks of the file are of that level (`Library.compressFile_level`).
-/

namespace OffloadCodec

variable {σ ι κ : Type}

/-! ## Setting the level -/

section Setting

variable {library : Library σ ι} {level : Int32} {world leveled : World (Turns σ ι)}

/-- Setting the level reads the defaults and replaces them by ones of the level. -/
theorem Library.setCompressionLevel_shared
    (set : (library.shared.setCompressionLevel level).runOn world = (.ok (), leveled)) :
    ∃ raw, raw.level = level.toUInt32 ∧
      leveled.native = (world.native.note (.getDefaults .shipped)).note (.setDefaults raw) ∧
      (library.entries.setDefaults raw
        ((world.native.note (.getDefaults .shipped)).finds (.setDefaults raw))).1 = Status.ok := by
  rw [setCompressionLevel, Act.runOn_bind, runOn_updateDefaults] at set
  rcases read : library.shared.readRawDefaults.runOn world with ⟨e | raw, middle⟩
  · rw [read] at set
    cases set
  · obtain ⟨-, -, rfl⟩ := readRawDefaults_reply read
    rw [read] at set
    dsimp only at set
    rw [runOn_writeRawDefaults, CodecConfig.writeInto_withLevel] at set
    dsimp only at set
    cases answered : CodecError.ofStatus? .setDefaults (library.shared.entries.setDefaults
        (raw.atLevel level)
        (library.shared.entries.getDefaults .shipped world.native).2).1 with
    | some e =>
      rw [answered] at set
      cases set
    | none =>
      rw [answered] at set
      obtain ⟨-, rfl⟩ := by simpa only [Act.runOn_pure, Prod.mk.injEq] using set
      exact ⟨raw.atLevel level, rfl, rfl, CodecError.ofStatus?_eq_none_iff.1 answered⟩

end Setting

/-! ## The level in force -/

section Level

variable [DecidableEq κ] {entries : EntryPoints σ ι} {normal : σ → Prop} {params : σ → RawParams}
  {latched : SessionRecord ι → Option UInt32} {codec : LevelCodec} {user : κ} {native : σ}
  {history : List (κ × LibraryCall ι)} {raw : RawParams} {found : σ}
  {before after : List (Visit σ ι)}

/-- A user who replaces the defaults, and makes no codec call before and no other replacement after,
has its first codec call find their level in force if nobody else replaces them. -/
theorem EntryPoints.LatchesLevel.level_turns
    (latches : entries.LatchesLevel normal params latched codec) (start : normal native)
    (visited : entries.visits user native history = before ++ (.setDefaults raw, found) :: after)
    (replaced : (entries.setDefaults raw found).1 = Status.ok)
    (codes : ∀ visit ∈ before, visit.1.isCodec = false)
    (spares : ∀ visit ∈ after, visit.1.setsDefaults = false)
    (others : ∀ turn ∈ history, turn.1 ≠ user → turn.2.setsDefaults = false) :
    entries.levelFound params user native history = raw.level := by
  obtain ⟨earlier, later, rfl, rfl, rest⟩ := visits_split visited
  let replacing : LibraryCall ι := .setDefaults raw
  have settled := latches.normal_after start earlier
  have set : (params (replacing.leaves entries (entries.after native earlier))).level = raw.level :=
    congrArg RawParams.level ((latches.setDefaults raw _).1 replaced)
  have spared : ∀ turn ∈ later, turn.2.setsDefaults = false := by
    intro turn member
    by_cases own : turn.1 = user
    · obtain ⟨_, visit⟩ : ∃ found, (turn.2, found) ∈ entries.visits user _ later :=
        EntryPoints.mem_visits (own ▸ member)
      exact spares _ (rest ▸ visit)
    · exact others turn (List.mem_append_right _ (List.mem_cons_of_mem _ member)) own
  have kept := latches.keeps replacing _ settled
  have visits : ∀ visit ∈ after, (params visit.2).level = raw.level := by
    intro visit member
    rw [rest] at member
    exact (latches.level_visits user kept spared visit member).trans set
  have last : (params (entries.after native (earlier ++ (user, replacing) :: later))).level =
      raw.level := by
    rw [EntryPoints.after, List.foldl_append]
    exact (latches.level_after kept spared).trans set
  -- The first codec call stands behind the replacement, or there is none.
  have coding : (before ++ (replacing, entries.after native earlier) :: after).filter
      (·.1.isCodec) = after.filter (·.1.isCodec) := by
    have none : before.filter (·.1.isCodec) = [] :=
      List.filter_eq_nil_iff.2 fun visit member => by simp [codes visit member]
    rw [List.filter_append, none, List.nil_append,
      List.filter_cons_of_neg (by simp [replacing, LibraryCall.isCodec])]
  unfold EntryPoints.levelFound EntryPoints.turns Turns.of
  rw [visited]
  dsimp only
  rw [coding]
  cases first : (after.filter (·.1.isCodec))[0]? with
  | none => exact last
  | some visit => exact visits visit (List.mem_of_mem_filter (List.mem_of_getElem? first))

end Level

/-! ## The blocks -/

section Blocks

variable {normal : σ → Prop} {params : σ → RawParams} {latched : SessionRecord ι → Option UInt32}
  {codec : LevelCodec} {level : UInt32} {library : Library σ ι}

/-- A writer that is gone has replaced no defaults. -/
theorem BlockWriter.Gone.spares {writer : BlockWriter (Turns σ ι) ι} {refused : Option CodecError}
    {world : World (Turns σ ι)} {outcome : Closed × World (Turns σ ι)} {before : List (Visit σ ι)}
    (gone : writer.Gone world refused outcome) (on : writer.session.library = library.shared)
    (adds : world.native.Adds (·.setsDefaults = false) before) :
    outcome.2.native.Adds (·.setsDefaults = false) before := by
  obtain ⟨last, middle, works, ended⟩ := gone
  have trail := works.session.trail
  change Trail writer.session.library.entries _ _ _ _ _ at trail
  rw [on] at trail
  have after := trail.kept_shared (fun _ _ spares adds => adds.note spares) adds
  rcases ended with ⟨-, rfl, -⟩ | same
  · exact after
  · rw [same]
    have closes : library.shared.Closes fun world =>
        world.native.Adds (·.setsDefaults = false) before :=
      Library.shared_closes fun _ _ _ spares adds => adds.note spares
    have same : last.session.library = writer.session.library := works.session.library
    rw [← on, ← same] at closes
    exact last.kept_close closes after

variable {options : StreamOptions} {world opened after : World (Turns σ ι)}
  {writer : BlockWriter (Turns σ ι) ι} {input : FileTree.Handle} {place : Path}
  {transfer : Transfer}

/-- A file's blocks are of the level of the new session that compresses them. -/
theorem Library.compressInto_level
    (latches : library.entries.LatchesLevel normal params latched codec)
    (making : (BlockWriter.create library.shared {} options).runOn world = (.ok writer, opened))
    (serves : world.native.Serves library.entries normal params latched codec level {})
    (moving : (compressInto input place writer).runOn opened = (.ok transfer, after)) :
    (∃ blocks payloads, after.files = world.files.put place (.file (Frame.encode payloads)) ∧
      List.Forall₂ (codec.Stores level) blocks payloads) ∧
    (∃ record, after.native.Serves library.entries normal params latched codec level record) ∧
    after.native.Adds (·.setsDefaults = false) world.native.made := by
  obtain ⟨new, spared⟩ := BlockWriter.create_shared making serves
  obtain ⟨-, holds, on, -, -⟩ := BlockWriter.create_ok making
  obtain ⟨refused, closed, later, count, gone, -, ran⟩ :=
    compressInto_gone input place opened (.inr ⟨holds.sound, holds.filled_eq⟩)
  have left : after.native = later.native :=
    congrArg (fun outcome => outcome.2.native) (moving.symm.trans ran)
  have standing := Session.Standing.new (BlockWriter.session_create making) new
  obtain ⟨record, last⟩ := gone.serves latches standing
  have added := gone.spares on (.refl _ _)
  rw [left]
  refine ⟨?_, ⟨record, last⟩, spared.trans added⟩
  -- What the file holds is what the writer has left in its sink.
  obtain ⟨bytes, sink, middle, -, completed, -, stored⟩ := compressInto_ok moving
  have used : BlockWriter.use library.shared {} options [.writeAll bytes] .finish world =
      (.ok [none], sink, middle) := by
    rw [BlockWriter.use, making]
    exact completed
  obtain ⟨-, -, payloads, coded, received, -⟩ := BlockWriter.use_ok (congrArg Prod.fst used)
  have kept := BlockWriter.maintains_create library.shared.obtains_files {} options world rfl
  rw [making] at kept
  dsimp only at kept
  rw [used] at received
  rw [← BlockWriter.codecState_eq making] at coded
  refine ⟨_, payloads, ?_, latches.codeEach_stores ?_ coded⟩
  · rw [stored, kept, received]
    rfl
  · exact standing.serves

/-- All blocks of a file that is compressed at a level are of the level, and so is every codec call
for them, if nobody else replaces the defaults. -/
theorem Library.compressFile_level [DecidableEq κ] {user : κ} {native : σ}
    {history : List (κ × LibraryCall ι)} {src dst : String} {setting : Int32}
    (latches : library.entries.LatchesLevel normal params latched codec)
    (part : library.entries.Part normal user native history world after)
    (others : ∀ turn ∈ history, turn.1 ≠ user → turn.2.setsDefaults = false)
    (done : (library.shared.compressFile src dst options (some setting)).runOn world =
      (.ok transfer, after)) :
    (∃ blocks payloads, after.files.fileAt? dst = some (Frame.encode payloads) ∧
      List.Forall₂ (codec.Stores setting.toUInt32) blocks payloads) ∧
    ∀ visit ∈ library.entries.visits user native history,
      Visit.CodedAt library.entries codec setting.toUInt32 visit := by
  obtain ⟨input, place, leveled, created, writer, opened, middle, set, -, creating, making, moving,
    files, unchanged⟩ := compressFile_ok done
  obtain ⟨raw, sets, noted, replaced⟩ := setCompressionLevel_shared (Act.mapError_ok set)
  -- The user's session is new, whatever others have done with theirs.
  have new := latches.serves_turns user part.start history
  rw [← part.finds] at new
  have before : leveled.native.Serves library.entries normal params latched codec
      (library.entries.levelFound params user native history) {} := by
    rw [noted]
    refine Turns.Serves.pass (Turns.Serves.pass new ?_) ?_
    · rfl
    · rfl
  obtain ⟨⟨blocks, payloads, stored, stores⟩, ⟨record, last⟩, more, all, spares⟩ :=
    compressInto_level latches making before moving
  have visited := part.made.symm.trans ((congrArg Turns.made unchanged).trans all)
  have level : library.entries.levelFound params user native history = setting.toUInt32 := by
    rw [part.finds] at noted replaced
    rw [← sets]
    let turns := library.entries.turns user native history
    let reading : Visit σ ι := (.getDefaults .shipped, turns.finds (.getDefaults .shipped))
    have split : library.entries.visits user native history =
        [reading] ++
          (.setDefaults raw, (turns.note reading.1).finds (.setDefaults raw)) :: more := by
      rw [visited, noted]
      rfl
    refine latches.level_turns part.start split replaced (fun visit member => ?_) spares others
    rw [List.mem_singleton.1 member]
    rfl
  rw [level] at stores last
  refine ⟨⟨blocks, payloads, ?_, stores⟩, ?_⟩
  · rw [files, stored]
    exact FileTree.fileAt?_created creating _
  · rw [← part.made, unchanged]
    exact last.coded

end Blocks

/-- Of the level a block of the simulated library keeps the low byte. -/
theorem Simulated.level_of_stores {faults : Faults} {level : UInt32} {block payload : Bytes}
    (stores : (levelCodec faults).Stores level block payload) :
    payload = stored level block ∧ payload[tag.length]? = some level.toUInt8 := by
  obtain ⟨capacity, succeeded, rfl⟩ := stores
  dsimp only [levelCodec] at succeeded ⊢
  by_cases small : capacity.toNat < block.length + 8
  · rw [if_pos small] at succeeded
    exact absurd succeeded bufferError_ne_ok
  · rw [if_neg small]
    have fits : block.length + 8 < UInt32.size :=
      Nat.lt_of_le_of_lt (Nat.le_of_not_lt small) capacity.toNat_lt_size
    have whole : (stored level block).take (UInt32.ofNat (block.length + 8)).toNat =
        stored level block := by
      rw [UInt32.toNat_ofNat_of_lt' fits, ← length_stored level block, List.take_length]
    dsimp only
    rw [whole]
    exact ⟨rfl, rfl⟩

end OffloadCodec

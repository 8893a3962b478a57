import OffloadCodec.Proofs.Levels.Uses
import OffloadCodec.Proofs.Stream.FailedWriter

/-!
# Blocks of a level

`LevelCodec.Stores` relates a block and what a compression at a level makes of it. A block that a
user's session returns is such a payload of the session's level
(`Session.Standing.compress_stores`), and what a writer has put on its sink are frames of such
payloads, even if calls have failed (`Sent.emits`). So all blocks that come of a use are of one
level (`Use.run_stores`).
-/

namespace OffloadCodec

variable {σ ι : Type}

/-! ## What comes of a level -/

/-- A compression of the block at the level succeeds with this payload. -/
def LevelCodec.Stores (codec : LevelCodec) (level : UInt32) (block payload : Bytes) : Prop :=
  ∃ capacity,
    let outcome := codec.compress level block capacity
    outcome.status = Status.ok ∧ payload = outcome.written.take outcome.reported.toNat

/-- Behind what was there before stand frames of the level. The last one may be broken off. -/
def LevelCodec.Emits (codec : LevelCodec) (level : UInt32) (before received : Bytes) : Prop :=
  ∃ blocks payloads frames, List.Forall₂ (codec.Stores level) blocks payloads ∧
    frames <+: Frame.encode payloads ∧ received = before ++ frames

/-- The block that a compression returns is of the level. -/
def SessionCall.Stores (codec : LevelCodec) (level : UInt32) : SessionCall → Returned → Prop
  | .compress input output, .served (.ok n) after =>
    codec.Stores level input.bytes (after.memory.read output.offset n.toNat)
  | .compressBytes input, .produced (.ok block) => codec.Stores level input block
  | _, _ => True

/-- All blocks that come of a use are of the level. -/
def Use.Stores (codec : LevelCodec) (level : UInt32) (account : Account) : Use → Prop
  | .session calls _ => List.Forall₂ (SessionCall.Stores codec level) calls account.returned
  | .writer sink _ _ _ => ∀ last ∈ account.sink, codec.Emits level sink.received last.received
  | .reader .. => True

section Level

variable {entries : EntryPoints σ ι} {library : Library σ ι} {normal : σ → Prop}
  {params : σ → RawParams} {latched : SessionRecord ι → Option UInt32} {codec : LevelCodec}
  {level : UInt32}

theorem EntryPoints.ReportsWithin.shared (within : entries.ReportsWithin) :
    entries.shared.ReportsWithin :=
  fun record input capacity turns =>
    within record input capacity (turns.finds (.compress record input capacity true))

/-- A compression by the user's session that succeeds has written its payload. -/
theorem Turns.Serves.stores {record : SessionRecord ι} {turns : Turns σ ι}
    (serves : turns.Serves entries normal params latched codec level record)
    (latches : entries.LatchesLevel normal params latched codec) {input : Bytes}
    {capacity : UInt32} {reply : CodecReply ι}
    (replied : (entries.shared.compress record input capacity true turns).1 = reply)
    (succeeded : reply.status = Status.ok) :
    reply.reported.toNat ≤ capacity.toNat ∧ reply.reported.toNat ≤ reply.written.length ∧
      codec.Stores level input (reply.written.take reply.reported.toNat) := by
  have answers := serves.compresses latches input capacity
  change CodecOutcome.Answers _ _ _ _ (entries.shared.compress record input capacity true turns).1
    at answers
  have within := latches.within.shared record input capacity turns
  dsimp only at within
  rw [replied] at answers within
  have completed := answers.status.symm.trans succeeded
  have reaches := latches.writes _ _ _ completed
  rw [← answers.reported, ← answers.written] at reaches
  refine ⟨within succeeded, reaches, capacity, completed, ?_⟩
  rw [answers.written, answers.reported]

/-! ## Sessions -/

section Sessions

variable (latches : library.entries.LatchesLevel normal params latched codec)
  {session : Session (Turns σ ι) ι} {world : World (Turns σ ι)}
include latches

theorem Session.Standing.compress_stores
    (standing : session.Standing library normal params latched codec level world)
    {input output : View} {n : UInt32}
    (compressed : (session.compress input output world).result = .ok n) :
    codec.Stores level input.bytes
      ((session.compress input output world).output.memory.read output.offset n.toNat) := by
  unfold Session.compress at compressed ⊢
  cases fits : Session.lengths input output "compressor output buffer" with
  | error e =>
    rw [fits] at compressed
    cases compressed
  | ok both =>
    obtain ⟨length, capacity⟩ := both
    obtain ⟨-, -, bounded, same⟩ := Session.lengths_ok_iff.1 fits
    have size : capacity.toNat = output.length := by
      rw [(Prod.mk.inj same).2]
      exact EntryPoints.toNat_capacity bounded
    rw [fits, standing.on] at compressed
    rw [standing.on]
    dsimp only [Session.accept] at compressed ⊢
    generalize replied : (library.shared.entries.compress session.record input.bytes capacity true
      world.native).1 = reply at compressed ⊢
    cases answered : CodecError.ofStatus? .compress reply.status with
    | some e =>
      rw [answered] at compressed
      cases compressed
    | none =>
      rw [answered] at compressed
      obtain rfl := Except.ok.inj compressed
      obtain ⟨inside, reaches, stores⟩ := standing.serves.stores latches replied
        (CodecError.ofStatus?_eq_none_iff.1 answered)
      rw [size] at inside
      rwa [View.read_store inside reaches]

theorem Session.Standing.compressBytes_stores
    (standing : session.Standing library normal params latched codec level world)
    {input block : Bytes} (compressed : (session.compressBytes input world).result = .ok block) :
    codec.Stores level input block := by
  have asks := session.maxCompressedLength_continues input.length world
  unfold Session.compressBytes at compressed
  rcases asked : (session.library.maxCompressedLength input.length).runOn world with
    ⟨e | bound, after⟩
  · rw [asked] at compressed
    cases compressed
  · rw [asked] at asks compressed
    have still := asks.standing latches standing
    dsimp only [Session.produced] at compressed
    cases served : (session.compress (.whole (.ofBytes input)) (.whole (.zeros (max bound 1)))
      after).result with
    | error e =>
      rw [served] at compressed
      cases compressed
    | ok n =>
      rw [served] at compressed
      obtain rfl := Except.ok.inj compressed
      have bytes : (View.whole (.ofBytes input)).bytes = input := Memory.read_ofBytes input
      have stores := still.compress_stores latches served
      rwa [bytes] at stores

theorem Session.Standing.perform_stores
    (standing : session.Standing library normal params latched codec level world)
    (call : SessionCall) : call.Stores codec level (session.perform call world).1 := by
  cases call with
  | compress input output =>
    unfold Session.perform
    dsimp only
    cases compressed : (session.compress input output world).result with
    | error e => trivial
    | ok n => exact standing.compress_stores latches compressed
  | compressBytes input =>
    unfold Session.perform
    dsimp only
    cases compressed : (session.compressBytes input world).result with
    | error e => trivial
    | ok block => exact standing.compressBytes_stores latches compressed
  | decompress input output => trivial
  | decompressBytes input max => trivial

end Sessions

/-! ## Writers -/

/-- What a user's session compresses is of its level. -/
theorem EntryPoints.LatchesLevel.codeEach_stores
    (latches : entries.LatchesLevel normal params latched codec)
    {state : CodecState (Turns σ ι) ι}
    (serves : state.native.Serves entries normal params latched codec level state.record)
    {blocks payloads : List Bytes}
    (coded : (codeEach entries.shared.compressNext state blocks).1 = .ok payloads) :
    List.Forall₂ (codec.Stores level) blocks payloads := by
  let kept (state : CodecState (Turns σ ι) ι) :=
    state.native.Serves entries normal params latched codec level state.record
  refine codeEach_forall₂ ?_ (show kept state from serves) coded
  intro state block payload after serves coded
  unfold EntryPoints.compressNext at coded
  split at coded
  · cases coded
  · next length capacity fits =>
    obtain ⟨-, -, bounded, both⟩ := Session.lengths_ok_iff.1 fits
    have size : capacity.toNat = state.region.size := by
      rw [(Prod.mk.inj both).2]
      exact EntryPoints.toNat_capacity bounded
    obtain ⟨succeeded, front⟩ := CodecState.settle_ok coded
    obtain rfl : _ = after := congrArg Prod.snd coded
    obtain ⟨inside, reaches, stores⟩ := serves.stores latches rfl succeeded
    rw [size] at inside
    rw [Memory.takeFront_write inside reaches] at front
    have answers := serves.compresses latches block capacity
    exact ⟨Except.ok.inj front ▸ stores, serves.code rfl rfl answers ⟨rfl, answers.toMatches⟩⟩

section Writers

variable (latches : library.entries.LatchesLevel normal params latched codec)
  {start : CodecState (Turns σ ι) ι}
  (serves : start.native.Serves library.entries normal params latched codec level start.record)
  {before : Bytes} {size : Nat} {blocks : List Bytes} {calls : List WriterCall}
  {world : World (Turns σ ι)}
include latches serves

/-- Whatever has become of the last block, the sink has frames of the session's level. -/
theorem Sent.emits {sink : Sink} {state : CodecState (Turns σ ι) ι} {failed : Bool}
    (sent : Sent library.shared.entries start before blocks sink state failed) :
    codec.Emits level before sink.received := by
  cases sent with
  | whole coded received =>
    have stores := latches.codeEach_stores serves (congrArg Prod.fst coded)
    exact ⟨_, _, _, stores, List.prefix_rfl, received⟩
  | rejected coded _ received =>
    have stores := latches.codeEach_stores serves (congrArg Prod.fst coded)
    exact ⟨_, _, _, stores, List.prefix_rfl, received⟩
  | @broken blocks payloads block payload part _ _ _ _ _ _ coded last received front =>
    have stores := latches.codeEach_stores serves (congrArg Prod.fst (codeEach_concat coded last))
    refine ⟨_, _, Frame.encode payloads ++ part, stores, ?_, by rw [received, List.append_assoc]⟩
    rw [Frame.encode, Frame.encode, List.flatMap_append, List.flatMap_singleton]
    exact (List.prefix_append_right_inj _).2 front

theorem BlockWriter.Reached.emits {writer : BlockWriter (Turns σ ι) ι}
    (reached : writer.Reached library.shared start before size calls world) :
    codec.Emits level before writer.sink.received := by
  cases reached with
  | sound _ sent => exact sent.sent.emits latches serves
  | failed _ _ sent => exact sent.sent.emits latches serves

theorem BlockWriter.Ended.emits {lost : Bool} {outcome : Closed × World (Turns σ ι)}
    (ended : Ended library.shared start before blocks lost outcome) :
    codec.Emits level before outcome.1.sink.received := by
  cases ended with
  | whole _ sent => exact sent.sent.emits latches serves
  | lost _ _ sent => exact sent.sent.emits latches serves

theorem BlockWriter.Reached.endWith_emits {writer : BlockWriter (Turns σ ι) ι}
    (reached : writer.Reached library.shared start before size calls world) (positive : 0 < size)
    (ending : WriterEnd) :
    codec.Emits level before (writer.endWith ending world).1.sink.received := by
  cases ending with
  | finish =>
    obtain ⟨_, ended, -⟩ := reached.finish latches.within.shared positive
    exact ended.emits latches serves
  | drop =>
    obtain ⟨_, ended, -⟩ := reached.discard latches.within.shared positive
    exact ended.emits latches serves

end Writers

/-! ## Uses -/

section Uses

variable {options : StreamOptions} {world opened : World (Turns σ ι)}
  {writer : BlockWriter (Turns σ ι) ι} {sink : Sink}

/-- Making a writer codes nothing and replaces no defaults. -/
theorem BlockWriter.create_shared
    (making : (create library.shared sink options).runOn world = (.ok writer, opened))
    (serves : world.native.Serves library.entries normal params latched codec level {}) :
    opened.native.Serves library.entries normal params latched codec level {} ∧
      opened.native.Adds (·.setsDefaults = false) world.native.made := by
  have serving : library.shared.Obtains fun world =>
      world.native.Serves library.entries normal params latched codec level {} :=
    Library.shared_obtains fun _ _ isCodec _ serves => serves.pass isCodec
  have served := maintains_create serving sink options world serves
  have added := maintains_create (library.shared_adds world.native.made) sink options world
    (.refl _ _)
  rw [making] at served added
  exact ⟨served, added.mono fun _ idle => idle.2⟩

variable (latches : library.entries.LatchesLevel normal params latched codec)
include latches

/-- However a use goes, all blocks that come of it are of the session's level. -/
theorem Use.run_stores
    (fresh : world.native.Serves library.entries normal params latched codec level {}) (use : Use) :
    use.Stores codec level (use.run library.shared world).1 := by
  cases use with
  | reader => trivial
  | session calls ends =>
    have new : (Session.new library.shared).Standing library normal params latched codec level
        world := .new rfl fresh
    exact callAll_forall₂ (fun _ call _ standing =>
      ⟨standing.perform_stores latches call, standing.perform latches call⟩) new calls
  | writer sink options calls ending =>
    unfold Use.run
    dsimp only
    rcases created : (BlockWriter.create library.shared sink options).runOn world with
      ⟨e | writer, opened⟩
    · exact nofun
    · obtain ⟨fresh, -⟩ := BlockWriter.create_shared created fresh
      have standing := Session.Standing.new (BlockWriter.session_create created) fresh
      let start := BlockWriter.freshState library.shared options world
      have serves : start.native.Serves library.entries normal params latched codec level
          start.record := by
        dsimp only [start]
        rw [← BlockWriter.codecState_eq created]
        exact standing.serves
      -- Every call is one more behind those that were made.
      let kept (writer : BlockWriter (Turns σ ι) ι) (world : World (Turns σ ι)) :=
        ∃ calls, writer.Reached library.shared start sink.received options.blockSize calls world
      have step : ∀ writer call world, kept writer world →
          kept (BlockWriter.perform writer call world).2.1
            (BlockWriter.perform writer call world).2.2 :=
        fun _ call _ ⟨_, reached⟩ => ⟨_, reached.perform latches.within.shared call⟩
      have after := callAll_keeps step ⟨[], BlockWriter.create_reached created⟩ calls
      dsimp only
      generalize callAll BlockWriter.perform writer calls opened = outcome at after ⊢
      obtain ⟨answers, last, later⟩ := outcome
      obtain ⟨_, reached⟩ := after
      cases ending with
      | none => exact fun _ same => Option.some.inj same ▸ reached.emits latches serves
      | some ending =>
        have positive := (BlockWriter.create_ok created).2.1.positive
        exact fun _ same =>
          Option.some.inj same ▸ reached.endWith_emits latches serves positive ending

end Uses

end Level

end OffloadCodec

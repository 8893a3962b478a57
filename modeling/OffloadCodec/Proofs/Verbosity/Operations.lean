import OffloadCodec.Proofs.Parallel.Stragglers
import OffloadCodec.Proofs.Verbosity.Indifference
import OffloadCodec.Transfer

/-!
# Operations in worlds that differ in their consoles

What a program can have a library do, from asking for a bound to coding files, comes to the same in
worlds that are the same but for their consoles (`World.ConsoleOnly`). An operation that is made of
parts is taken apart along its `bind`s. Where workers share blocks, the steps of one run are those of
the other (`Pool.Runs.indifferent`).
-/

namespace OffloadCodec

variable {σ ι : Type} {alike : World σ → World σ → Prop} {world world' : World σ}

section Operations

variable (only : World.ConsoleOnly alike)
include only

/-! ## Calls of the library -/

/-- A call of the library. -/
theorem Act.indifferent_call {ε ρ : Type} (call : σ → ρ × σ) :
    Act.Indifferent alike (Act.of fun world => (.ok (call world.native).1,
      { world with native := (call world.native).2 }) : Act σ ε ρ) := by
  refine Act.indifferent_of fun world world' like => ?_
  rw [Act.runOn_of, Act.runOn_of, only.native like]
  exact .of _ (only.call like _)

omit only in
/-- Reading something of the world besides its console. -/
theorem Act.indifferent_look {ε ρ : Type} {look : World σ → ρ}
    (same : ∀ {world world'}, alike world world' → look world = look world') :
    Act.Indifferent alike (Act.of fun world => (.ok (look world), world) : Act σ ε ρ) := by
  refine Act.indifferent_of fun world world' like => ?_
  rw [Act.runOn_of, Act.runOn_of, same like]
  exact .of _ like

theorem Act.indifferent_say {ε : Type} (level : Nat) (text : String) (positive : 0 < level) :
    (Act.change fun world => world.say level text : Act σ ε Unit).Indifferent alike :=
  Act.indifferent_of fun _ _ like => .of _ (only.say like level text positive)

theorem World.take_indifferent {α : Type} (setting : Settings.Setting α)
    (like : alike world world') : SameEnd alike (world.take setting) (world'.take setting) := by
  unfold World.take Settings.Setting.take
  cases setting.ignored with
  | none => exact .of _ like
  | some ignored => exact .of _ (only.say like 2 ignored.message Nat.two_pos)

namespace Library

variable (library : Library σ ι)

theorem indifferent_openWith (loader : Option (Loader σ ι)) (name : String) :
    (openWith loader name).Indifferent alike := by
  refine Act.indifferent_of fun world world' like => ?_
  unfold openWith
  rw [Act.runOn_of, Act.runOn_of]
  cases loader with
  | none => exact .of _ like
  | some load =>
    dsimp only
    by_cases nul : name.toList.contains '\x00'
    · rw [if_pos nul, if_pos nul]
      exact .of _ like
    · rw [if_neg nul, if_neg nul, ← only.native like]
      cases load name world.native with
      | error reason => exact .of _ like
      | ok image =>
        dsimp only
        cases image.resolve? with
        | error symbol => exact .of _ like
        | ok entries => exact .of _ (only.say like 4 _ (Nat.succ_pos 3))

theorem indifferent_maxCompressedLength (length : Nat) :
    (library.maxCompressedLength length).Indifferent alike := by
  refine Act.indifferent_of fun world world' like => ?_
  unfold maxCompressedLength
  rw [Act.runOn_of, Act.runOn_of]
  by_cases fits : length ≤ maxNativeLength
  · rw [if_pos fits, if_pos fits, ← only.native like]
    exact .of _ (only.call like _)
  · rw [if_neg fits, if_neg fits]
    exact .of _ like

theorem indifferent_maxBlockPayload (blockSize : Nat) :
    (library.maxBlockPayload blockSize).Indifferent alike :=
  (library.indifferent_maxCompressedLength only blockSize).mapError _

theorem indifferent_blockBound (blockSize : Nat) :
    (library.blockBound blockSize).Indifferent alike := by
  unfold blockBound
  by_cases usable : StreamOptions.isUsable blockSize
  · rw [if_pos usable]
    exact library.indifferent_maxBlockPayload only blockSize
  · rw [if_neg usable]
    exact Act.indifferent_throw _

/-! ## Defaults -/

omit only in
theorem indifferent_checkStatus (operation : Operation) (status : Int32) :
    (checkStatus operation status).Indifferent alike := by
  unfold checkStatus
  cases CodecError.ofStatus? operation status with
  | none => exact Act.indifferent_pure ()
  | some e => exact Act.indifferent_throw e

theorem indifferent_readRawDefaults : library.readRawDefaults.Indifferent alike := by
  refine Act.Indifferent.bind
    (Act.indifferent_call only (library.entries.getDefaults .shipped)) fun reply => ?_
  exact (indifferent_checkStatus .getDefaults reply.1).bind fun _ => Act.indifferent_pure _

theorem indifferent_updateDefaults (edit : CodecConfig → CodecConfig) :
    (library.updateDefaults edit).Indifferent alike := by
  refine (library.indifferent_readRawDefaults only).bind fun raw => ?_
  refine Act.Indifferent.bind (Act.indifferent_call only
    (library.entries.setDefaults ((edit (.ofRaw raw)).writeInto raw))) fun status => ?_
  refine (indifferent_checkStatus .setDefaults status).bind fun _ => ?_
  refine Act.Indifferent.bind (Act.indifferent_of fun world world' like => ?_) fun _ =>
    Act.indifferent_pure _
  obtain ⟨_, _, _, _, _, _, rfl, rfl⟩ := only.split like
  exact .of _ (only.keeps like _ _ _ _)

theorem indifferent_setCompressionLevel (level : Int32) :
    (library.setCompressionLevel level).Indifferent alike :=
  (library.indifferent_updateDefaults only _).bind fun _ => Act.indifferent_pure ()

theorem indifferent_roundTrip : library.roundTrip.Indifferent alike := by
  refine Act.indifferent_of fun world world' like => ?_
  unfold roundTrip
  rw [Act.runOn_of, Act.runOn_of]
  have coded := ((Session.new library).like_self only like).compressBytes probe
  dsimp only
  generalize (Session.new library).compressBytes probe world = compressed,
    (Session.new library).compressBytes probe world' = compressed' at coded
  obtain ⟨result, session, middle⟩ := compressed
  obtain ⟨result', session', middle'⟩ := compressed'
  obtain ⟨rfl : result = result', still⟩ := coded
  obtain ⟨rfl : session = session', alike⟩ := still.beside
  dsimp only
  cases result with
  | error e => exact .of _ (session.close_indifferent only alike)
  | ok bytes =>
    dsimp only
    have restored := (session.like_self only alike).decompressBytes bytes probe.length
    generalize session.decompressBytes bytes probe.length middle = produced,
      session.decompressBytes bytes probe.length middle' = produced' at restored
    obtain ⟨result, last, later⟩ := produced
    obtain ⟨result', last', later'⟩ := produced'
    obtain ⟨rfl : result = result', still⟩ := restored
    obtain ⟨rfl : last = last', alike⟩ := still.beside
    have closed := last.close_indifferent only alike
    dsimp only
    cases result with
    | error e => exact .of _ closed
    | ok bytes =>
      dsimp only
      by_cases same : bytes = probe
      · rw [if_pos same, if_pos same]
        exact .of _ closed
      · rw [if_neg same, if_neg same]
        exact .of _ closed

theorem check_indifferent (all : Bool) (like : alike world world') :
    SameEnd alike (library.check all world) (library.check all world') := by
  unfold check
  cases all with
  | false => exact .of _ like
  | true =>
    have same := (library.indifferent_roundTrip only).same like
    rw [if_pos rfl, if_pos rfl]
    generalize library.roundTrip.runOn world = outcome,
      library.roundTrip.runOn world' = outcome' at same ⊢
    obtain ⟨result, left⟩ := same
    cases result with
    | ok _ => exact .of _ left
    | error e => exact .of _ left

end Library

/-! ## Workers -/

namespace Pool

/-- Coding a block with a session comes to the same in related worlds. -/
def CodesAlike (alike : World σ → World σ → Prop)
    (code : Session σ ι → Bytes → World σ → Produced σ ι) : Prop :=
  ∀ session block {world world'}, alike world world' →
    (code session block world).result = (code session block world').result ∧
      World.Beside alike (code session block world).session (code session block world).world
        (code session block world').session (code session block world').world

omit only in
/-- The outcome of coding a block, found in one world, is there in the other. -/
theorem CodesAlike.other {code : Session σ ι → Bytes → World σ → Produced σ ι}
    (codes : CodesAlike alike code) {session next : Session σ ι} {block : Bytes}
    {result : Except CodecError Bytes} {later : World σ} (like : alike world world')
    (coded : code session block world = ⟨result, next, later⟩) :
    ∃ later', code session block world' = ⟨result, next, later'⟩ ∧ alike later later' := by
  have same := codes session block like
  rw [coded] at same
  generalize code session block world' = produced at same ⊢
  obtain ⟨result', next', later'⟩ := produced
  obtain ⟨rfl : result = result', rfl : next = next', still⟩ := same
  exact ⟨later', rfl, still⟩

theorem codesAlike_decompressBytes (max : Nat) :
    CodesAlike alike
      fun (session : Session σ ι) payload => session.decompressBytes payload max :=
  fun session payload _ _ like =>
    have same := (session.like_self only like).decompressBytes payload max
    ⟨same.result, same.still.beside⟩

theorem codesAlike_compressFrame (bound : Nat) :
    CodesAlike alike
      fun (session : Session σ ι) block => Library.compressFrame bound session block := by
  intro session block world world' like
  let frame : View := ⟨.zeros (Frame.headerLength + bound), Frame.headerLength, bound, Nat.le_refl _⟩
  have lengths : frame.length = frame.length := rfl
  have same := (session.like_self only like).compress (.whole (.ofBytes block)) lengths
  refine ⟨?_, same.still.beside⟩
  unfold Library.compressFrame
  dsimp only
  rw [same.result, same.output.same]

variable {code : Session σ ι → Bytes → World σ → Produced σ ι} {blocks : Array Bytes}

omit only in
/-- A run of workers is one in a related world too. -/
theorem Runs.indifferent (codes : CodesAlike alike code) {schedule : Schedule}
    {failure failure' : Option CodecError} {pool pool' : Pool σ ι} {last : World σ}
    (runs : Runs code blocks schedule failure pool world failure' pool' last)
    (like : alike world world') :
    ∃ last', Runs code blocks schedule failure pool world' failure' pool' last' ∧
      alike last last' := by
  -- Which steps are left out, and which failure is kept, is decided alike: no world has a part in it.
  induction runs generalizing world' with
  | done => exact ⟨world', .done, like⟩
  | absent absent _ ih =>
    obtain ⟨last', runs, still⟩ := ih like
    exact ⟨last', .absent absent runs, still⟩
  | left _ ih =>
    obtain ⟨last', runs, still⟩ := ih like
    exact ⟨last', .left runs, still⟩
  | coded there coded _ ih =>
    obtain ⟨between', coded', still⟩ := codes.other like coded
    obtain ⟨last', runs, still⟩ := ih still
    exact ⟨last', .coded there coded' runs, still⟩
  | failed there failed keeps _ ih =>
    obtain ⟨between', failed', still⟩ := codes.other like failed
    obtain ⟨last', runs, still⟩ := ih still
    exact ⟨last', .failed there failed' keeps runs, still⟩

theorem close_indifferent (pool : Pool σ ι) (like : alike world world') :
    alike (pool.close world) (pool.close world') := by
  exact List.foldl_rel like fun entry _ _ _ still => entry.2.close_indifferent only still

end Pool

namespace Library

variable {library : Library σ ι} {schedule : Nat → Schedule}
  {result : Except StreamFailure Bytes} {last : World σ}

theorem CodesBlocks.indifferent {code : Session σ ι → Bytes → World σ → Produced σ ι}
    {blocks : List Bytes} {schedule : Schedule} (codes : Pool.CodesAlike alike code)
    (coded : library.CodesBlocks code blocks schedule world result last)
    (like : alike world world') :
    ∃ last', library.CodesBlocks code blocks schedule world' result last' ∧ alike last last' := by
  obtain ⟨failure, pool, between, runs, rfl, same⟩ := coded
  obtain ⟨between', runs', still⟩ := runs.indifferent codes like
  exact ⟨pool.close between', ⟨failure, pool, between', runs', rfl, same⟩,
    pool.close_indifferent only still⟩

theorem CompressesBlocks.indifferent {data : Bytes} {blockSize : Nat}
    (coded : library.CompressesBlocks data blockSize schedule world result last)
    (like : alike world world') :
    ∃ last', library.CompressesBlocks data blockSize schedule world' result last' ∧
      alike last last' := by
  have same := (library.indifferent_blockBound only blockSize).same like
  unfold CompressesBlocks at coded ⊢
  generalize (library.blockBound blockSize).runOn world = asked,
    (library.blockBound blockSize).runOn world' = asked' at same coded ⊢
  obtain @⟨middle, middle', answer, still⟩ := same
  cases answer with
  | error e =>
    obtain ⟨rfl, rfl⟩ := coded
    exact ⟨middle', ⟨rfl, rfl⟩, still⟩
  | ok bound =>
    exact CodesBlocks.indifferent only (Pool.codesAlike_compressFrame only bound) coded still

theorem DecompressesBlocks.indifferent {stream : Bytes} {blockSize : Nat}
    (coded : library.DecompressesBlocks stream blockSize schedule world result last)
    (like : alike world world') :
    ∃ last', library.DecompressesBlocks stream blockSize schedule world' result last' ∧
      alike last last' := by
  have same := (library.indifferent_blockBound only blockSize).same like
  unfold DecompressesBlocks at coded ⊢
  generalize (library.blockBound blockSize).runOn world = asked,
    (library.blockBound blockSize).runOn world' = asked' at same coded ⊢
  obtain @⟨middle, middle', answer, still⟩ := same
  cases answer with
  | error e =>
    obtain ⟨rfl, rfl⟩ := coded
    exact ⟨middle', ⟨rfl, rfl⟩, still⟩
  | ok bound =>
    dsimp only at coded ⊢
    cases framed : Frame.split stream bound with
    | error e =>
      rw [framed] at coded
      obtain ⟨rfl, rfl⟩ := coded
      exact ⟨middle', ⟨rfl, rfl⟩, still⟩
    | ok payloads =>
      rw [framed] at coded
      exact CodesBlocks.indifferent only
        (Pool.codesAlike_decompressBytes only blockSize) coded still

end Library

end Operations

end OffloadCodec

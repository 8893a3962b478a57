import OffloadCodec.Parallel

/-!
# Workers that notice a failure late

`Pool.run` ends with the first block that fails. Workers that run side by side need not: when one of
them fails the others may be in the middle of a block, they may start more blocks before they look,
and of several failures any one may be returned. `Pool.Runs` allows all of that.

`Library.CompressesBlocks` and `Library.DecompressesBlocks` are the two parallel calls with workers of
this kind. What `Library.compressBlocks` and `Library.decompressBlocks` do, whose workers stop at once,
is among it (`Library.compressesBlocks`, `Library.decompressesBlocks`).
-/

namespace OffloadCodec

variable {σ ι : Type}

namespace Pool

/-- Runs a schedule, with the failure to return before and after it. Once there is one, steps may be
left out, and a later one may take its place. -/
inductive Runs (code : Session σ ι → Bytes → World σ → Produced σ ι) (blocks : Array Bytes) :
    Schedule → Option CodecError → Pool σ ι → World σ →
      Option CodecError → Pool σ ι → World σ → Prop
  | done {failure : Option CodecError} {pool : Pool σ ι} {world : World σ} :
    Runs code blocks [] failure pool world failure pool world
  /-- There is no such block. -/
  | absent {worker index : Nat} {schedule : Schedule} {failure last : Option CodecError}
    {pool pool' : Pool σ ι} {world world' : World σ} (absent : blocks[index]? = none)
    (rest : Runs code blocks schedule failure pool world last pool' world') :
    Runs code blocks ((worker, index) :: schedule) failure pool world last pool' world'
  /-- The worker has noticed a failure. -/
  | left {step : Nat × Nat} {schedule : Schedule} {e : CodecError} {last : Option CodecError}
    {pool pool' : Pool σ ι} {world world' : World σ}
    (rest : Runs code blocks schedule (some e) pool world last pool' world') :
    Runs code blocks (step :: schedule) (some e) pool world last pool' world'
  | coded {worker index : Nat} {schedule : Schedule} {failure last : Option CodecError}
    {pool pool' : Pool σ ι} {world between world' : World σ} {block bytes : Bytes}
    {session : Session σ ι} (there : blocks[index]? = some block)
    (coded : code (pool.session worker) block world = ⟨.ok bytes, session, between⟩)
    (rest : Runs code blocks schedule failure
      { pool.keep worker session with done := (index, bytes) :: pool.done } between last pool' world') :
    Runs code blocks ((worker, index) :: schedule) failure pool world last pool' world'
  /-- The failure to return is this one now, or it is an earlier one still. -/
  | failed {worker index : Nat} {schedule : Schedule} {failure kept last : Option CodecError}
    {pool pool' : Pool σ ι} {world between world' : World σ} {block : Bytes} {e : CodecError}
    {session : Session σ ι} (there : blocks[index]? = some block)
    (failed : code (pool.session worker) block world = ⟨.error e, session, between⟩)
    (keeps : kept = some e ∨ kept = failure ∧ failure.isSome = true)
    (rest : Runs code blocks schedule kept (pool.keep worker session) between last pool' world') :
    Runs code blocks ((worker, index) :: schedule) failure pool world last pool' world'

variable {code : Session σ ι → Bytes → World σ → Produced σ ι} {blocks : Array Bytes}

/-- All workers stop at once. -/
theorem Runs.stop (schedule : Schedule) (e : CodecError) (pool : Pool σ ι) (world : World σ) :
    Runs code blocks schedule (some e) pool world (some e) pool world := by
  induction schedule with
  | nil => exact .done
  | cons step schedule ih => exact .left ih

/-- The failure that a run ended with. -/
def failure? : Except CodecError Unit → Option CodecError
  | .ok () => none
  | .error e => some e

/-- A pool that ends with its first failure. -/
theorem runs_run (code : Session σ ι → Bytes → World σ → Produced σ ι) (blocks : Array Bytes)
    (schedule : Schedule) (pool : Pool σ ι) (world : World σ) :
    Runs code blocks schedule none pool world (failure? (run code blocks schedule pool world).1)
      (run code blocks schedule pool world).2.1 (run code blocks schedule pool world).2.2 := by
  induction schedule generalizing pool world with
  | nil => exact .done
  | cons step schedule ih =>
    obtain ⟨worker, index⟩ := step
    rw [run]
    split
    · next absent => exact .absent absent (ih pool world)
    · next block there =>
      rcases coded : code (pool.session worker) block world with ⟨e | bytes, session, between⟩
      · exact .failed there coded (.inl rfl) (.stop schedule e _ between)
      · exact .coded there coded (ih _ between)

end Pool

namespace Library

/-- Codes blocks with workers that may notice a failure late. -/
def CodesBlocks (library : Library σ ι) (code : Session σ ι → Bytes → World σ → Produced σ ι)
    (blocks : List Bytes) (schedule : Schedule) (world : World σ) (result : Except StreamFailure Bytes)
    (after : World σ) : Prop :=
  ∃ failure pool last, Pool.Runs code blocks.toArray schedule none { library } world failure pool last ∧
    after = pool.close last ∧
    result = match failure with
      | none => .ok pool.output
      | some e => .error (.error (.codec e))

/-- Compresses data into a block stream with such workers. -/
def CompressesBlocks (library : Library σ ι) (data : Bytes) (blockSize : Nat)
    (schedule : Nat → Schedule) (world : World σ) (result : Except StreamFailure Bytes)
    (after : World σ) : Prop :=
  match (library.blockBound blockSize).runOn world with
  | (.error e, middle) => result = .error e ∧ after = middle
  | (.ok bound, middle) =>
    let blocks := Bytes.chunks blockSize data
    library.CodesBlocks (compressFrame bound) blocks (schedule blocks.length) middle result after

/-- Decodes a complete block stream with such workers. -/
def DecompressesBlocks (library : Library σ ι) (stream : Bytes) (blockSize : Nat)
    (schedule : Nat → Schedule) (world : World σ) (result : Except StreamFailure Bytes)
    (after : World σ) : Prop :=
  match (library.blockBound blockSize).runOn world with
  | (.error e, middle) => result = .error e ∧ after = middle
  | (.ok bound, middle) =>
    match Frame.split stream bound with
    | .error e => result = .error (.error e) ∧ after = middle
    | .ok payloads =>
      library.CodesBlocks (fun session payload => session.decompressBytes payload blockSize) payloads
        (schedule payloads.length) middle result after

theorem codesBlocks (library : Library σ ι) (code : Session σ ι → Bytes → World σ → Produced σ ι)
    (blocks : List Bytes) (schedule : Schedule) (world : World σ) :
    library.CodesBlocks code blocks schedule world
      ((library.codeBlocks code blocks schedule).runOn world).1
      ((library.codeBlocks code blocks schedule).runOn world).2 := by
  have runs := Pool.runs_run code blocks.toArray schedule { library } world
  rw [codeBlocks, Act.runOn_of]
  generalize Pool.run code blocks.toArray schedule { library } world = outcome at runs ⊢
  obtain ⟨e | _, pool, last⟩ := outcome
  · exact ⟨some e, pool, last, runs, rfl, rfl⟩
  · exact ⟨none, pool, last, runs, rfl, rfl⟩

theorem compressesBlocks (library : Library σ ι) (data : Bytes) (blockSize : Nat)
    (schedule : Nat → Schedule) (world : World σ) :
    library.CompressesBlocks data blockSize schedule world
      ((library.compressBlocks data blockSize schedule).runOn world).1
      ((library.compressBlocks data blockSize schedule).runOn world).2 := by
  rw [CompressesBlocks, compressBlocks, Act.runOn_bind]
  rcases (library.blockBound blockSize).runOn world with ⟨e | bound, middle⟩
  · exact ⟨rfl, rfl⟩
  · exact codesBlocks library _ _ _ middle

theorem decompressesBlocks (library : Library σ ι) (stream : Bytes) (blockSize : Nat)
    (schedule : Nat → Schedule) (world : World σ) :
    library.DecompressesBlocks stream blockSize schedule world
      ((library.decompressBlocks stream blockSize schedule).runOn world).1
      ((library.decompressBlocks stream blockSize schedule).runOn world).2 := by
  rw [decompressBlocks, Act.runOn_bind]
  simp only [DecompressesBlocks]
  rcases (library.blockBound blockSize).runOn world with ⟨e | bound, middle⟩
  · exact ⟨rfl, rfl⟩
  · dsimp only
    rcases Frame.split stream bound with e | payloads
    · exact ⟨rfl, rfl⟩
    · exact codesBlocks library _ _ _ middle

end Library

end OffloadCodec

import OffloadCodec.Proofs.Process.Lengths
import OffloadCodec.Proofs.Stream.Gaps
import OffloadCodec.Proofs.Stream.ReadSteps

/-!
# The cursors of a reader

A reader serves its block between two cursors, and loads another one when they meet. Loading may fail
at any byte of a frame or in the codec, which may have overwritten a part of the block by then. The
cursors are not touched before a block is there, so they still meet, and nothing of what lies in the
block is served.

* Neither a header, nor a payload, nor the codec moves the cursors when it fails
  (`BlockReader.cursors_of_fillBlock_error`), and a read that fails leaves them where they meet
  (`BlockReader.Sound.cursors_of_read_error`).
* `codeOn` has the codec go on behind payloads that it rejects. However often reads fail, such a run
  accounts for a reader (`BlockReader.Accounted`): all blocks that came of it, in order, are what the
  reads have returned and then what the reader holds between its cursors. Filling, refilling and reading
  keep that for a library that reports no more than there is room for (`BlockReader.Accounted.read`).
* `BlockReader.serves_each_block_once` is what this comes to for every run of reads, with the bounds of
  the cursors and the course that the next read takes.
-/

namespace OffloadCodec

open OffloadCodec.Frame

variable {σ ι : Type}

/-! ## Codec calls that go on behind a failure -/

section CodeOn

variable {τ : Type} {code : τ → Bytes → Except StreamFailure Bytes × τ}

/-- Codes inputs one after another, and goes on behind one that fails. -/
def codeOn (code : τ → Bytes → Except StreamFailure Bytes × τ) (state : τ) :
    List Bytes → List (Except StreamFailure Bytes) × τ
  | [] => ([], state)
  | input :: inputs =>
    let step := code state input
    let rest := codeOn code step.2 inputs
    (step.1 :: rest.1, rest.2)

theorem codeOn_append (state : τ) (inputs later : List Bytes) :
    codeOn code state (inputs ++ later) =
      ((codeOn code state inputs).1 ++ (codeOn code (codeOn code state inputs).2 later).1,
        (codeOn code (codeOn code state inputs).2 later).2) := by
  induction inputs generalizing state with
  | nil => rfl
  | cons first inputs ih =>
    rw [List.cons_append, codeOn, ih]
    rfl

end CodeOn

/-- As far as a library has written, what is taken of the region is what it wrote. -/
theorem Memory.takeFront_written {region : Memory} {written taken : Bytes} {n : Nat}
    (front : (region.write 0 (written.take region.size)).takeFront n = .ok taken) :
    taken.take written.length = written.take taken.length := by
  obtain ⟨length, rfl⟩ := takeFront_ok front
  have fits : n ≤ region.size := by
    rw [length_read, size_write] at length
    omega
  have reaches : min written.length n ≤ (written.take region.size).length := by
    rw [List.length_take]
    omega
  have inside : min written.length n ≤ region.size := by omega
  rw [length, take_read, read_write_front inside reaches, List.take_take, List.take_eq_take_iff]
  omega

namespace EntryPoints

variable {entries : EntryPoints σ ι} {state after : CodecState σ ι} {payload block : Bytes}

/-- A call for the payload, with room for `size` bytes, has succeeded and reported the length of the
block. As far as the call has written, the block is what it wrote. -/
def Restored (entries : EntryPoints σ ι) (size : Nat) (payload block : Bytes) : Prop :=
  ∃ record native,
    let reply := (entries.decompress record payload (UInt32.ofNat size) native).1
    reply.status = Status.ok ∧ block.length = reply.reported.toNat ∧
      block.take reply.written.length = reply.written.take block.length

theorem decompressNext_restored (coded : entries.decompressNext state payload = (.ok block, after)) :
    entries.Restored state.region.size payload block := by
  rw [decompressNext] at coded
  cases checked : Session.lengths (.whole (.ofBytes payload)) (.whole state.region)
      "decompressor output buffer" with
  | error e =>
    rw [checked] at coded
    cases coded
  | ok both =>
    rw [checked] at coded
    obtain ⟨-, -, -, rfl⟩ := Session.lengths_ok_iff.1 checked
    obtain ⟨succeeded, front⟩ := CodecState.settle_ok coded
    exact ⟨state.record, state.native, succeeded, (Memory.takeFront_ok front).1,
      Memory.takeFront_written front⟩

theorem codeOn_restored (entries : EntryPoints σ ι) (state : CodecState σ ι) (payloads : List Bytes) :
    List.Forall₂ (fun payload result => ∀ block, result = .ok block →
      entries.Restored state.region.size payload block) payloads
      (codeOn entries.decompressNext state payloads).1 := by
  induction payloads generalizing state with
  | nil => exact .nil
  | cons payload payloads ih =>
    have rest := ih (entries.decompressNext state payload).2
    rw [size_region_decompressNext] at rest
    exact .cons (fun block made => decompressNext_restored (Prod.ext made rfl)) rest

theorem size_region_codeOn (entries : EntryPoints σ ι) (state : CodecState σ ι)
    (payloads : List Bytes) :
    (codeOn entries.decompressNext state payloads).2.region.size = state.region.size := by
  induction payloads generalizing state with
  | nil => rfl
  | cons payload payloads ih => exact (ih _).trans (size_region_decompressNext entries state payload)

/-- If lengths are reported within the capacity then no decompression stops the program. -/
theorem RestoresWithin.decompressNext_ne_overrun (within : entries.RestoresWithin)
    (state : CodecState σ ι) (payload : Bytes) :
    (entries.decompressNext state payload).1 ≠ .error .overrun := by
  rw [decompressNext]
  cases checked : Session.lengths (.whole (.ofBytes payload)) (.whole state.region)
      "decompressor output buffer" with
  | error e => exact StreamFailure.error_ne_overrun _
  | ok both =>
    obtain ⟨-, -, bounded, rfl⟩ := Session.lengths_ok_iff.1 checked
    rw [View.length_whole] at bounded
    refine CodecState.settle_ne_overrun fun succeeded => ?_
    have reported := within _ _ _ _ succeeded
    rwa [View.length_whole, toNat_capacity bounded] at reported

end EntryPoints

namespace BlockReader

variable {entries : EntryPoints σ ι} {bound : Nat} {origin source : Source}
  {reader next : BlockReader σ ι} {world later : World σ} {start state : CodecState σ ι}
  {unserved returned : Bytes} {e : StreamFailure}

/-! ## Failures -/

/-- A payload that is rejected may have overwritten the block, but the cursors are as they were. -/
theorem decompressBlock_error {n : Nat}
    (failed : reader.decompressBlock n world = (.error e, next, later)) :
    next.pos = reader.pos ∧ next.filled = reader.filled ∧ next.compressed = reader.compressed ∧
      next.session.library = reader.session.library ∧
      next.session.codecState next.block.memory later =
        (reader.session.library.entries.decompressNext
          (reader.session.codecState reader.block.memory world)
          (reader.compressed.memory.read 0 n)).2 := by
  have follows := reader.session.decompress_follows (reader.compressed.memory.read 0 n)
    reader.block.memory world
  simp only [decompressBlock] at failed
  generalize reader.session.decompress _ _ world = served at follows failed
  obtain ⟨-, session, region, native⟩ := follows
  split at failed
  · cases failed
  · obtain ⟨-, rfl, rfl⟩ := by simpa only [Prod.mk.injEq] using failed
    refine ⟨rfl, rfl, rfl, by rw [session], ?_⟩
    simp only [Session.codecState, Scratch.memory_withMemory, session, region, native]

/-- Filling the block touches the cursors only when it succeeds. -/
theorem cursors_of_fillBlock_error
    (failed : reader.fillBlock world = (.error e, next, later)) :
    next.pos = reader.pos ∧ next.filled = reader.filled := by
  have headed := nextLength_leaves reader
  rw [fillBlock] at failed
  generalize reader.nextLength = answer at headed failed
  obtain ⟨e' | (_ | n), first⟩ := answer
  · cases failed
    cases headed
    exact ⟨rfl, rfl⟩
  · cases failed
  obtain rfl : first = _ := headed
  dsimp only at failed
  split at failed
  · cases failed
    exact ⟨rfl, rfl⟩
  have loaded := loadPayload_leaves
    { reader with source := ⟨(reader.source.pull headerLength).rest⟩ } n
  generalize BlockReader.loadPayload _ n = answer at loaded failed
  obtain ⟨e' | _, second⟩ := answer
  · cases failed
    cases loaded
    exact ⟨rfl, rfl⟩
  obtain rfl : second = _ := loaded
  dsimp only at failed
  split at failed
  · next rejected =>
    obtain ⟨pos, filled, -⟩ := decompressBlock_error rejected
    cases failed
    exact ⟨pos, filled⟩
  · cases failed

/-- The cursors of a reader whose block failed to be filled still meet. -/
theorem cursors_of_refill_error (failed : reader.refill world = (.error e, next, later)) :
    next.pos = next.filled := by
  fun_induction BlockReader.refill reader world with
  | case1 reader world done e' last after filled =>
    obtain ⟨pos, held⟩ := cursors_of_fillBlock_error filled
    cases failed
    rw [pos, held, done]
  | case2 => cases failed
  | case3 _ _ _ _ _ _ ih => exact ih failed
  | case4 => cases failed

/-- A read fails only where filling the block does. -/
theorem Sound.cursors_of_read_error (sound : reader.Sound) {n : Nat}
    (failed : reader.read n world = (.error e, next, later)) : next.pos = next.filled := by
  have sound' := (sound.refill world).2
  rw [BlockReader.read] at failed
  split at failed
  · cases failed
  cases refilled : reader.refill world with
  | mk result answer =>
    obtain ⟨middle, between⟩ := answer
    rw [refilled] at failed sound'
    obtain e' | (_ | _) := result
    · obtain ⟨-, rfl, rfl⟩ := by simpa only [Prod.mk.injEq] using failed
      exact cursors_of_refill_error refilled
    · cases failed
    · obtain ⟨-, pos_le, filled_le⟩ := sound'
      dsimp only at pos_le filled_le failed
      rw [serve, if_neg (by omega)] at failed
      cases failed

/-! ## What the source and the codec are accounted for -/

/-- A reader that has served its block holds nothing behind a payload that is rejected. The region is
not as it was, but no part of it is between the cursors. -/
theorem Stands.decompressBlock_error {stream payload : Bytes} {n : Nat}
    (stands : reader.Stands entries bound world state stream unserved)
    (done : reader.pos = reader.filled) (loaded : reader.compressed.memory.read 0 n = payload)
    (failed : reader.decompressBlock n world = (.error e, next, later)) :
    next.Stands entries bound later (entries.decompressNext state payload).2 stream [] := by
  have source_eq := source_decompressBlock reader n world
  rw [failed] at source_eq
  obtain ⟨rfl, rfl, delivers, rfl, -, filled_le, -⟩ := stands
  obtain ⟨pos, filled, compressed, library, state_eq⟩ := BlockReader.decompressBlock_error failed
  rw [loaded] at state_eq
  have meet : next.pos = next.filled := by rw [pos, filled, done]
  have size : next.block.size = reader.block.size :=
    (congrArg (·.region.size) state_eq).trans (EntryPoints.size_region_decompressNext _ _ _)
  refine ⟨by rw [library], by rw [compressed], ?_, state_eq, Nat.le_of_eq meet, ?_, ?_⟩
  · rwa [source_eq]
  · rwa [filled, size]
  · rw [meet, Nat.sub_self, Memory.read_zero]

/-- Whether the codec accepts or rejects a payload, the reader holds what came of it and nothing
else. -/
theorem Settled.decompressed (settled : reader.Settled entries bound origin world state unserved)
    (within : entries.RestoresWithin) (done : reader.pos = reader.filled) {n : Nat}
    {payload : Bytes} (loaded : reader.compressed.memory.read 0 n = payload) :
    let outcome := reader.decompressBlock n world
    let coded := entries.decompressNext state payload
    outcome.2.1.source = reader.source ∧
      outcome.2.1.Settled entries bound origin outcome.2.2 coded.2 (everReturned [coded.1]) := by
  intro outcome coded
  have source_eq : outcome.2.1.source = reader.source := source_decompressBlock reader n world
  have elsewhere := decompressBlock_onto reader ⟨[]⟩ n world
  obtain ⟨stands, leaves⟩ := settled
  refine ⟨source_eq, ?_, source_eq ▸ leaves⟩
  have decompressed := stands.decompressBlock loaded
  rw [elsewhere] at decompressed
  rcases decompressed with
    ⟨e, after, answered, failed⟩ | ⟨after, answered, -⟩ | ⟨block, after, answered, -, ready⟩
  · have rejected := stands.decompressBlock_error done loaded
      (elsewhere.trans (Prod.ext failed rfl))
    have coded_eq : coded.1 = .error e := congrArg Prod.fst answered
    rw [coded_eq]
    exact rejected
  · exact absurd (congrArg Prod.fst answered) (within.decompressNext_ne_overrun state payload)
  · have coded_eq : coded = _ := answered
    rw [coded_eq, everReturned, List.flatMap_singleton]
    exact ready

/-- Filling the block of a reader that has served it hands the codec one payload at most, and leaves
what came of it. The payload is a part of what the source hands out meanwhile. -/
theorem Settled.fills (settled : reader.Settled entries bound origin world state [])
    (within : entries.RestoresWithin) (done : reader.pos = reader.filled) :
    let outcome := reader.fillBlock world
    ∃ handed payloads, reader.source.pending = handed ++ outcome.2.1.source.pending ∧
      payloads.flatten.Sublist handed ∧
      outcome.2.1.Settled entries bound origin outcome.2.2
        (codeOn entries.decompressNext state payloads).2
        (everReturned (codeOn entries.decompressNext state payloads).1) := by
  have pulls := reader.source.pulls_pull headerLength
  have first := settled.pulled pulls
  have splits := pulls.splits.symm
  have headed := nextLength_leaves reader
  generalize reader.source.pull headerLength = pulled at first splits headed
  rw [BlockReader.fillBlock]
  generalize reader.nextLength = answer at headed ⊢
  obtain ⟨result, next⟩ := answer
  obtain rfl : next = _ := headed
  -- Up to the payload the codec is not called, whatever fails.
  obtain e | (_ | n) := result
  · exact ⟨pulled.bytes, [], splits, List.nil_sublist _, first⟩
  · exact ⟨pulled.bytes, [], splits, List.nil_sublist _, first⟩
  dsimp only
  by_cases bad : n = 0 ∨ reader.compressed.size < n
  · rw [if_pos bad]
    exact ⟨pulled.bytes, [], splits, List.nil_sublist _, first⟩
  rw [if_neg bad]
  have bound_eq : reader.compressed.size = bound := settled.stands.bound_eq
  have leaves := loadPayload_leaves { reader with source := ⟨pulled.rest⟩ } n
  have second := first.loaded n
  rcases first.loadPayload (bound_eq ▸ Nat.le_of_not_lt (not_or.1 bad).2) with
    ⟨e, next, part, failed, cut, -⟩ | ⟨next, payload, succeeded, cut, -, loaded, ready⟩
  · rw [failed] at second ⊢
    refine ⟨pulled.bytes ++ part, [], ?_, List.nil_sublist _, second⟩
    rw [splits, List.append_assoc]
    exact congrArg (pulled.bytes ++ ·) cut
  · rw [succeeded] at leaves ⊢
    have meet : next.pos = next.filled := by
      obtain rfl : next = _ := leaves
      exact done
    obtain ⟨source_eq, last⟩ := ready.decompressed within meet loaded
    have split : reader.source.pending =
        (pulled.bytes ++ payload) ++ (next.decompressBlock n world).2.1.source.pending := by
      rw [splits, source_eq, List.append_assoc]
      exact congrArg (pulled.bytes ++ ·) cut
    have inside : [payload].flatten.Sublist (pulled.bytes ++ payload) := by
      rw [List.flatten_singleton]
      exact List.sublist_append_right _ _
    -- From here on it does not matter whether the codec has rejected the payload.
    dsimp only
    generalize next.decompressBlock n world = outcome at last split ⊢
    obtain ⟨e | _, last', later⟩ := outcome
    · exact ⟨pulled.bytes ++ payload, [payload], split, inside, last⟩
    · exact ⟨pulled.bytes ++ payload, [payload], split, inside, last⟩

/-- All that the codec has made of payloads out of the source, one after another, is what reads have
returned and then what the reader holds between its cursors. -/
def Accounted (entries : EntryPoints σ ι) (bound : Nat) (origin : Source) (start : CodecState σ ι)
    (reader : BlockReader σ ι) (world : World σ) (returned : Bytes) : Prop :=
  ∃ handed payloads unserved, origin.pending = handed ++ reader.source.pending ∧
    payloads.flatten.Sublist handed ∧
    reader.Settled entries bound origin world (codeOn entries.decompressNext start payloads).2
      unserved ∧
    returned ++ unserved = everReturned (codeOn entries.decompressNext start payloads).1

theorem Accounted.sound (accounted : reader.Accounted entries bound origin start world returned)
    (within : entries.RestoresWithin) : reader.Sound := by
  obtain ⟨_, _, _, _, _, settled, _⟩ := accounted
  exact ⟨settled.stands.entries_eq ▸ within, settled.stands.pos_le, settled.stands.filled_le⟩

theorem Accounted.fillBlock (accounted : reader.Accounted entries bound origin start world returned)
    (within : entries.RestoresWithin) (done : reader.pos = reader.filled) :
    (reader.fillBlock world).2.1.Accounted entries bound origin start (reader.fillBlock world).2.2
      returned := by
  obtain ⟨handed, payloads, unserved, splits, inside, settled, data⟩ := accounted
  obtain rfl := settled.stands.unserved_nil done
  obtain ⟨handed', payloads', splits', inside', settled'⟩ := settled.fills within done
  rw [List.append_nil] at data
  rw [splits', ← List.append_assoc] at splits
  refine ⟨handed ++ handed', payloads ++ payloads',
    everReturned (codeOn entries.decompressNext
      (codeOn entries.decompressNext start payloads).2 payloads').1, splits, ?_, ?_, ?_⟩
  · rw [List.flatten_append]
    exact inside.append inside'
  · rw [codeOn_append]
    exact settled'
  · rw [codeOn_append, everReturned_append, data]

/-- Empty blocks and failures are accounted for too. -/
theorem Accounted.refill (accounted : reader.Accounted entries bound origin start world returned)
    (within : entries.RestoresWithin) :
    (reader.refill world).2.1.Accounted entries bound origin start (reader.refill world).2.2
      returned := by
  fun_induction BlockReader.refill reader world with
  | case1 reader world done e last after filled =>
    have later := accounted.fillBlock within done
    rwa [filled] at later
  | case2 reader world done last after filled =>
    have later := accounted.fillBlock within done
    rwa [filled] at later
  | case3 reader world done last after filled ih =>
    have later := accounted.fillBlock within done
    rw [filled] at later
    exact ih later
  | case4 => exact accounted

theorem Accounted.read (accounted : reader.Accounted entries bound origin start world returned)
    (within : entries.RestoresWithin) (n : Nat) :
    (reader.read n world).2.1.Accounted entries bound origin start (reader.read n world).2.2
      (returned ++ everReturned [(reader.read n world).1]) := by
  have refilled := accounted.refill within
  rw [BlockReader.read]
  split
  · rwa [everReturned, List.flatMap_singleton, List.append_nil]
  generalize reader.refill world = outcome at refilled ⊢
  obtain ⟨e | (_ | _), next, later⟩ := outcome
  · rwa [everReturned, List.flatMap_singleton, List.append_nil]
  · rwa [everReturned, List.flatMap_singleton, List.append_nil]
  obtain ⟨handed, payloads, unserved, splits, inside, settled, data⟩ := refilled
  obtain ⟨served, left⟩ := settled.serve n
  have source_eq := source_serve next n
  dsimp only at served left source_eq splits ⊢
  generalize next.serve n = answer at served left source_eq ⊢
  obtain ⟨result, last⟩ := answer
  obtain rfl : result = _ := served
  refine ⟨handed, payloads, unserved.drop n, ?_, inside, left, ?_⟩
  · rw [source_eq]
    exact splits
  · rw [everReturned, List.flatMap_singleton, List.append_assoc, List.take_append_drop]
    exact data

/-- Every run of reads is accounted for, whichever of them fail. -/
theorem Accounted.readEach (accounted : reader.Accounted entries bound origin start world returned)
    (within : entries.RestoresWithin) (sizes : List Nat) :
    (reader.readEach sizes world).2.1.Accounted entries bound origin start
      (reader.readEach sizes world).2.2
      (returned ++ everReturned (reader.readEach sizes world).1) := by
  induction sizes generalizing reader world returned with
  | nil => rwa [BlockReader.readEach, everReturned, List.flatMap_nil, List.append_nil]
  | cons n sizes ih =>
    have later := ih (accounted.read within n)
    rw [List.append_assoc, ← everReturned_append] at later
    exact later

/-- A new reader is accounted for by no codec call. -/
theorem create_accounted {library : Library σ ι} {options : StreamOptions} {opened : World σ}
    (created : (create library source options).runOn world = (.ok reader, opened)) :
    reader.Accounted library.entries (library.boundFor options.blockSize world.native) source
      (freshState library options world) opened [] := by
  have source_eq := (create_ok created).2.1
  exact ⟨[], [], [], by rw [source_eq, List.nil_append], .slnil, create_settled created, rfl⟩

section Reads

variable {library : Library σ ι} {options : StreamOptions} {opened : World σ}

/-- Behind any reads, whichever of them have failed, the cursors are in order and within the block.
The next read takes one course, in which nothing is cut outside a buffer, and comes to its end within a
number of steps that the rest of the source bounds. A block that fails to be filled leaves the cursors
of a reader that has served its block where they meet, and so does every read that fails. The bytes
returned by then, and those between the cursors behind them, are the blocks that the codec has made of
payloads out of the source, one after another and each of them once. A block is as long as the library
has reported, and as far as the library has written it is what was written. -/
theorem serves_each_block_once (within : library.entries.RestoresWithin)
    (created : (create library source options).runOn world = (.ok reader, opened))
    (sizes : List Nat) :
    let last := (reader.readEach sizes opened).2.1
    let after := (reader.readEach sizes opened).2.2
    let code := library.entries.decompressNext
    let start := freshState library options world
    (last.pos ≤ last.filled ∧ last.filled ≤ options.blockSize ∧
        last.block.size = options.blockSize) ∧
      (∀ n, ∃ steps ≤ 2 * last.source.weight + 4, ∀ steps' result next later,
        Course n ⟨.called, last, after⟩ steps' ⟨.ended result, next, later⟩ ↔
          steps' = steps ∧ (result, next, later) = last.read n after) ∧
      (∀ (any : BlockReader σ ι) before e next later, any.pos = any.filled →
        any.fillBlock before = (.error e, next, later) → next.pos = next.filled) ∧
      (∀ n e next later, last.read n after = (.error e, next, later) → next.pos = next.filled) ∧
      ∃ handed payloads, source.pending = handed ++ last.source.pending ∧
        payloads.flatten.Sublist handed ∧
        last.session.codecState last.block.memory after = (codeOn code start payloads).2 ∧
        everReturned (reader.readEach sizes opened).1 ++
            last.block.memory.read last.pos (last.filled - last.pos) =
          everReturned (codeOn code start payloads).1 ∧
        List.Forall₂ (fun payload result => ∀ block, result = .ok block →
            library.entries.Restored options.blockSize payload block)
          payloads (codeOn code start payloads).1 := by
  intro last after code start
  have accounted : last.Accounted library.entries _ source start after
      (everReturned (reader.readEach sizes opened).1) :=
    (create_accounted created).readEach within sizes
  have sound := accounted.sound within
  obtain ⟨handed, payloads, unserved, splits, inside, settled, data⟩ := accounted
  have state_eq : last.session.codecState last.block.memory after = _ := settled.stands.state_eq
  have size : last.block.size = options.blockSize :=
    (congrArg (·.region.size) state_eq).trans
      (EntryPoints.size_region_codeOn library.entries start payloads)
  refine ⟨⟨sound.pos_le, size ▸ sound.filled_le, size⟩, fun n => sound.course_read n after,
    fun any before e next later done failed => ?_,
    fun n e next later failed => sound.cursors_of_read_error failed,
    handed, payloads, splits, inside, state_eq, ?_,
    EntryPoints.codeOn_restored library.entries start payloads⟩
  · obtain ⟨pos, filled⟩ := cursors_of_fillBlock_error failed
    rw [pos, filled, done]
  · rw [← data, ← settled.stands.unserved_eq]

/-- A block of two bytes is served in two parts, and the read behind them passes over an empty block
and an interruption before it fails at a payload that is rejected. -/
theorem serves_each_block_once_faultless :
    let source : Source := ⟨[.piece (frame [81, 90, 77, 1, 2, 0, 0, 0, 1, 2]),
      .piece (frame [81, 90, 77, 1, 0, 0, 0, 0]), .failure (.device .interrupted ""),
      .piece (frame [0, 0, 0, 0, 0, 0, 0, 0])]⟩
    let reader : BlockReader Simulated.State UInt32 :=
      { session := .new Simulated.faultless, source, compressed := .heap (.zeros 10),
        block := .heap (.zeros 2) }
    let opened := Simulated.faultless.asked 2 { native := {} }
    let last := (reader.readEach [1, 5] opened).2.1
    let after := (reader.readEach [1, 5] opened).2.2
    let start := freshState Simulated.faultless { blockSize := 2 } { native := {} }
    let rejected := .error (.error (.codec (.operationFailed .decompress (-4))))
    (reader.readEach [1, 5] opened).1 = [.ok [1], .ok [2]] ∧ (last.read 5 after).1 = rejected ∧
      (last.read 5 after).2.1.pos = (last.read 5 after).2.1.filled ∧
      (∃ steps, Course 5 ⟨.called, last, after⟩ steps
        ⟨.ended rejected, (last.read 5 after).2.1, (last.read 5 after).2.2⟩) ∧
      ∃ payloads, payloads.flatten.Sublist source.pending ∧ [1, 2] =
        everReturned (codeOn Simulated.faultless.entries.decompressNext start payloads).1 := by
  intro source reader opened last after start rejected
  have created : (create Simulated.faultless source { blockSize := 2 }).runOn { native := {} } =
      (.ok reader, opened) := rfl
  have returned : (reader.readEach [1, 5] opened).1 = [.ok [1], .ok [2]] := by decide +kernel
  have failed : (last.read 5 after).1 = rejected := by decide +kernel
  have served : last.block.memory.read last.pos (last.filled - last.pos) = [] := by decide +kernel
  -- The run has been evaluated, and is not to be evaluated again.
  clear_value reader opened
  obtain ⟨-, courses, -, fails, handed, payloads, splits, inside, -, data, -⟩ :=
    serves_each_block_once Simulated.honest_faultless.decompress created [1, 5]
  obtain ⟨steps, -, course⟩ := courses 5
  refine ⟨returned, failed, fails 5 _ _ _ (Prod.ext failed rfl),
    ⟨steps, (course _ _ _ _).2 ⟨rfl, Prod.ext failed.symm rfl⟩⟩, payloads, ?_, ?_⟩
  · rw [splits]
    exact inside.trans (List.sublist_append_left _ _)
  · rw [← data, returned, served]
    rfl

end Reads

end BlockReader

end OffloadCodec

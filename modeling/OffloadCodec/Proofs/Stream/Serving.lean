import OffloadCodec.Proofs.CodecCalls
import OffloadCodec.Proofs.Stream.Decoding
import OffloadCodec.Proofs.Stream.Transport
import OffloadCodec.Stream.Reader

/-!
# What a reader has in front of it

A reader stands in a stream with a part of a block not served yet (`BlockReader.Stands`). It faces
the bytes of that part and of the blocks that the rest of the stream decodes to, and the way in which
decoding ends (`BlockReader.Faces`).

* Filling the block takes a frame off the stream, or meets the ending (`Stands.fillBlock`).
* Refilling passes over the blocks that are empty (`Faces.refill`).
* A read serves a part of what the reader faces, and meets the ending when nothing is left to serve
  (`Faces.read`).

Nothing is said of a reader from the frame on for which the library reports more bytes than the block
has room for: it may stop the program.
-/

namespace OffloadCodec.BlockReader

open OffloadCodec.Frame

variable {σ ι : Type} {entries : EntryPoints σ ι} {bound : Nat} {reader : BlockReader σ ι}
  {world : World σ} {state : CodecState σ ι} {stream unserved data : Bytes} {ending : Ending}

/-- The reader's source delivers the stream, its next codec call starts from the state, and a part of
its block is not served. -/
structure Stands (entries : EntryPoints σ ι) (bound : Nat) (reader : BlockReader σ ι)
    (world : World σ) (state : CodecState σ ι) (stream unserved : Bytes) : Prop where
  entries_eq : reader.session.library.entries = entries
  bound_eq : reader.compressed.size = bound
  delivers : reader.source.Delivers stream
  state_eq : reader.session.codecState reader.block.memory world = state
  pos_le : reader.pos ≤ reader.filled
  filled_le : reader.filled ≤ reader.block.size
  unserved_eq : reader.block.memory.read reader.pos (reader.filled - reader.pos) = unserved

/-! ## A frame -/

theorem Stands.nextLength (stands : reader.Stands entries bound world state stream unserved) :
    (stream.length = 0 ∧ ∃ next, reader.nextLength = (.ok none, next) ∧
        next.Stands entries bound world state stream unserved) ∨
      (0 < stream.length ∧ stream.length < headerLength ∧
        ∃ next, reader.nextLength = (.error (.error .truncatedHeader), next)) ∨
      (headerLength ≤ stream.length ∧ ∃ next,
        reader.nextLength = (.ok (some (Bytes.ofLe (stream.take headerLength))), next) ∧
          next.Stands entries bound world state (stream.drop headerLength) unserved) := by
  obtain ⟨entries_eq, bound_eq, delivers, state_eq, pos_le, filled_le, unserved_eq⟩ := stands
  obtain ⟨front, error, left⟩ := delivers.pull headerLength
  have length : (stream.take headerLength).length = min headerLength stream.length :=
    List.length_take
  have later : ∀ {rest}, (⟨(reader.source.pull headerLength).rest⟩ : Source).Delivers rest →
      Stands entries bound { reader with source := ⟨(reader.source.pull headerLength).rest⟩ }
        world state rest unserved :=
    fun delivers => ⟨entries_eq, bound_eq, delivers, state_eq, pos_le, filled_le, unserved_eq⟩
  simp only [BlockReader.nextLength, error, front, length]
  rcases Nat.eq_zero_or_pos stream.length with none | some
  · left
    rw [List.drop_of_length_le (by omega)] at left
    obtain rfl := List.length_eq_zero_iff.1 none
    exact ⟨none, _, if_pos rfl, later left⟩
  · rcases Nat.lt_or_ge stream.length headerLength with short | enough
    · right; left
      exact ⟨some, short, _, (if_neg (by omega)).trans (if_neg (by omega))⟩
    · right; right
      have some : headerLength ≠ 0 := Nat.succ_ne_zero 3
      exact ⟨enough, _, (if_neg (by omega)).trans (if_pos (by omega)), later left⟩

theorem Stands.loadPayload (stands : reader.Stands entries bound world state stream unserved)
    {n : Nat} (within : n ≤ bound) :
    (stream.length < n ∧ ∃ loaded, reader.loadPayload n = (.error (.error .sourceEnded), loaded)) ∨
      (n ≤ stream.length ∧ ∃ loaded, reader.loadPayload n = (.ok (), loaded) ∧
        loaded.Stands entries bound world state (stream.drop n) unserved ∧
        loaded.compressed.memory.read 0 n = stream.take n) := by
  obtain ⟨entries_eq, bound_eq, delivers, state_eq, pos_le, filled_le, unserved_eq⟩ := stands
  obtain ⟨front, error, left⟩ := delivers.pull n
  have length : (stream.take n).length = min n stream.length := List.length_take
  simp only [BlockReader.loadPayload, error, front, length]
  rcases Nat.lt_or_ge stream.length n with short | enough
  · left
    exact ⟨short, _, if_pos (by omega)⟩
  · right
    refine ⟨enough, _, if_neg (by omega), ?_, ?_⟩
    · refine ⟨entries_eq, ?_, left, state_eq, pos_le, filled_le, unserved_eq⟩
      rw [Scratch.size, Scratch.memory_withMemory, Memory.size_write]
      exact bound_eq
    · have room : n ≤ reader.compressed.memory.size := Nat.le_trans within (Nat.le_of_eq bound_eq.symm)
      rw [Scratch.memory_withMemory, Memory.read_write_front room (by omega), List.take_take,
        Nat.min_self]

/-- How filling the block turns out in front of a stream. -/
inductive Fills (entries : EntryPoints σ ι) (bound : Nat) (state : CodecState σ ι)
    (stream unserved : Bytes) : Except StreamFailure Bool × BlockReader σ ι × World σ → Prop
  | atEnd {reader : BlockReader σ ι} {world : World σ} :
    front bound stream = .stop .boundary →
    reader.Stands entries bound world state stream unserved →
    Fills entries bound state stream unserved (.ok false, reader, world)
  | bad {ending : Ending} {e : StreamFailure} {reader : BlockReader σ ι} {world : World σ} :
    front bound stream = .stop ending → ending.failure? bound = some e →
    Fills entries bound state stream unserved (.error e, reader, world)
  | rejected {payload rest : Bytes} {e : StreamFailure} {after : CodecState σ ι}
      {reader : BlockReader σ ι} {world : World σ} :
    front bound stream = .payload payload rest →
    entries.decompressNext state payload = (.error e, after) →
    Fills entries bound state stream unserved (.error e, reader, world)
  | block {payload rest block : Bytes} {after : CodecState σ ι} {reader : BlockReader σ ι}
      {world : World σ} :
    front bound stream = .payload payload rest →
    entries.decompressNext state payload = (.ok block, after) →
    reader.Stands entries bound world after rest block →
    Fills entries bound state stream unserved (.ok true, reader, world)
  | overrun {payload rest : Bytes} {after : CodecState σ ι} {reader : BlockReader σ ι}
      {world : World σ} :
    front bound stream = .payload payload rest →
    entries.decompressNext state payload = (.error .overrun, after) →
    Fills entries bound state stream unserved (.ok true, reader, world)

/-- A payload that is loaded is decompressed into the block. -/
theorem Stands.decompressBlock {n : Nat} {payload : Bytes}
    (stands : reader.Stands entries bound world state stream unserved)
    (loaded : reader.compressed.memory.read 0 n = payload) :
    (∃ e after, entries.decompressNext state payload = (.error e, after) ∧
        (reader.decompressBlock n world).1 = .error e) ∨
      (∃ after, entries.decompressNext state payload = (.error .overrun, after) ∧
        (reader.decompressBlock n world).1 = .ok ()) ∨
      (∃ block after, entries.decompressNext state payload = (.ok block, after) ∧
        (reader.decompressBlock n world).1 = .ok () ∧
        (reader.decompressBlock n world).2.1.Stands entries bound
          (reader.decompressBlock n world).2.2 after stream block) := by
  obtain ⟨rfl, bound_eq, delivers, rfl, -, -, -⟩ := stands
  have follows := reader.session.decompress_follows payload reader.block.memory world
  have size := reader.session.library.entries.size_region_decompressNext
    (reader.session.codecState reader.block.memory world) payload
  simp only [BlockReader.decompressBlock, loaded]
  generalize reader.session.decompress _ _ world = served at follows ⊢
  generalize reader.session.library.entries.decompressNext
    (reader.session.codecState reader.block.memory world) payload = step at follows size ⊢
  obtain ⟨output, after⟩ := step
  obtain ⟨taken, session, region, later⟩ := follows
  rw [Served.taken, region] at taken
  rw [session, region, later]
  cases answered : served.result with
  | error e =>
    rw [answered] at taken
    exact .inl ⟨_, after, Prod.ext taken.symm rfl, rfl⟩
  | ok reported =>
    rw [answered] at taken
    dsimp only at taken size ⊢
    by_cases above : after.region.size < reported.toNat
    · rw [Memory.takeFront, if_pos above] at taken
      exact .inr (.inl ⟨after, Prod.ext taken.symm rfl, rfl⟩)
    · rw [Memory.takeFront, if_neg above] at taken
      refine .inr (.inr ⟨_, after, Prod.ext taken.symm rfl, rfl, ?_⟩)
      refine ⟨rfl, bound_eq, delivers, ?_, Nat.zero_le _, ?_, ?_⟩
      · simp only [Session.codecState, Scratch.memory_withMemory]
      · rw [Scratch.size, Scratch.memory_withMemory]
        exact Nat.le_of_not_lt above
      · rw [Scratch.memory_withMemory, Nat.sub_zero]

theorem Stands.fillBlock (stands : reader.Stands entries bound world state stream unserved) :
    Fills entries bound state stream unserved (reader.fillBlock world) := by
  rw [BlockReader.fillBlock]
  rcases stands.nextLength with
    ⟨none, next, answered, later⟩ | ⟨some, short, next, answered⟩ | ⟨enough, next, answered, later⟩
  · rw [answered]
    exact .atEnd (if_pos none) later
  · rw [answered]
    have stops : front bound stream = .stop .cutHeader :=
      (if_neg (Nat.ne_of_gt some)).trans (if_pos short)
    exact .bad stops rfl
  rw [answered]
  dsimp only
  -- From here on the header is there, and `front` goes the same way as the reader.
  have headed := front.eq_1 bound stream
  rw [if_neg (by simp only [headerLength] at enough; omega), if_neg (Nat.not_lt.2 enough)] at headed
  dsimp only at headed
  generalize Bytes.ofLe (stream.take headerLength) = n at headed ⊢
  rw [later.bound_eq]
  by_cases bad : n = 0 ∨ bound < n
  · rw [if_pos bad] at headed ⊢
    exact .bad headed rfl
  rw [if_neg bad] at headed ⊢
  rcases later.loadPayload (Nat.le_of_not_lt (not_or.1 bad).2) with
    ⟨short, loaded, failed⟩ | ⟨full, loaded, succeeded, behind, payload⟩
  · rw [failed]
    rw [if_pos short] at headed
    exact .bad headed rfl
  rw [succeeded]
  rw [if_neg (Nat.not_lt.2 full)] at headed
  dsimp only
  have decompressed := behind.decompressBlock payload
  generalize loaded.decompressBlock n world = outcome at decompressed ⊢
  obtain ⟨result, last, after⟩ := outcome
  rcases decompressed with
    ⟨e, state', coded, failed⟩ | ⟨state', coded, above⟩ | ⟨block, state', coded, filled, ready⟩
  · obtain rfl : result = _ := failed
    exact .rejected headed coded
  · obtain rfl : result = _ := above
    exact .overrun headed coded
  · obtain rfl : result = _ := filled
    exact .block headed coded ready

/-! ## A read -/

/-- The reader has these bytes left to serve, and ends in this way after them. -/
def Faces (entries : EntryPoints σ ι) (bound : Nat) (reader : BlockReader σ ι) (world : World σ)
    (data : Bytes) (ending : Ending) : Prop :=
  ∃ state stream unserved, reader.Stands entries bound world state stream unserved ∧
    data = unserved ++ (decode entries.decompressNext bound state stream).1.flatten ∧
    ending = (decode entries.decompressNext bound state stream).2

/-- How refilling turns out for a reader that has nothing left of its block. -/
inductive Refills (entries : EntryPoints σ ι) (bound : Nat) : Bytes → Ending →
    Except StreamFailure Bool × BlockReader σ ι × World σ → Prop
  | ready {reader : BlockReader σ ι} {world : World σ} {data : Bytes} {ending : Ending} :
    reader.pos ≠ reader.filled → reader.Faces entries bound world data ending →
    Refills entries bound data ending (.ok true, reader, world)
  | atEnd {reader : BlockReader σ ι} {world : World σ} :
    reader.Faces entries bound world [] .boundary →
    Refills entries bound [] .boundary (.ok false, reader, world)
  | failed {ending : Ending} {e : StreamFailure} {reader : BlockReader σ ι} {world : World σ} :
    ending.failure? bound = some e → Refills entries bound [] ending (.error e, reader, world)
  | overrun {outcome : Except StreamFailure Bool × BlockReader σ ι × World σ} :
    Refills entries bound [] (.rejected .overrun) outcome

theorem Stands.unserved_nil (stands : reader.Stands entries bound world state stream unserved)
    (done : reader.pos = reader.filled) : unserved = [] := by
  have rest := stands.unserved_eq
  rw [done, Nat.sub_self, Memory.read_zero] at rest
  exact rest.symm

/-- Blocks that are empty are passed over. -/
theorem Faces.refill (faces : reader.Faces entries bound world data ending) :
    Refills entries bound data ending (reader.refill world) := by
  fun_induction BlockReader.refill reader world generalizing data ending with
  | case1 reader world done e last after filled =>
    obtain ⟨state, stream, unserved, stands, rfl, rfl⟩ := faces
    have fills := stands.fillBlock
    rw [filled] at fills
    rw [stands.unserved_nil done]
    cases fills with
    | bad stops failure =>
      rw [decode_stop stops]
      exact .failed failure
    | rejected framed coded =>
      rw [decode_error framed coded]
      exact .failed rfl
  | case2 reader world done last after filled =>
    obtain ⟨state, stream, unserved, stands, rfl, rfl⟩ := faces
    have fills := stands.fillBlock
    rw [filled] at fills
    rw [stands.unserved_nil done] at fills ⊢
    cases fills with
    | atEnd stops later =>
      have nothing : decode entries.decompressNext bound state stream = ([], .boundary) :=
        decode_stop stops
      rw [nothing]
      refine .atEnd ⟨state, stream, [], later, ?_, ?_⟩
      · rw [nothing]
        rfl
      · rw [nothing]
  | case3 reader world done last after filled ih =>
    obtain ⟨state, stream, unserved, stands, rfl, rfl⟩ := faces
    have fills := stands.fillBlock
    rw [filled] at fills
    rw [stands.unserved_nil done]
    cases fills with
    | block framed coded ready =>
      rw [decode_ok framed coded]
      exact ih ⟨_, _, _, ready, rfl, rfl⟩
    | overrun framed coded =>
      rw [decode_error framed coded]
      exact .overrun
  | case4 reader world more => exact .ready more faces

/-- How a read of `n` bytes turns out. -/
inductive Reads (entries : EntryPoints σ ι) (bound n : Nat) : Bytes → Ending →
    Except StreamFailure Bytes × BlockReader σ ι × World σ → Prop
  | part {part rest : Bytes} {ending : Ending} {reader : BlockReader σ ι} {world : World σ} :
    part ≠ [] → part.length ≤ n → reader.Faces entries bound world rest ending →
    Reads entries bound n (part ++ rest) ending (.ok part, reader, world)
  | atEnd {reader : BlockReader σ ι} {world : World σ} :
    reader.Faces entries bound world [] .boundary →
    Reads entries bound n [] .boundary (.ok [], reader, world)
  | failed {ending : Ending} {e : StreamFailure} {reader : BlockReader σ ι} {world : World σ} :
    ending.failure? bound = some e → Reads entries bound n [] ending (.error e, reader, world)
  | overrun {outcome : Except StreamFailure Bytes × BlockReader σ ι × World σ} :
    Reads entries bound n [] (.rejected .overrun) outcome

/-- A reader serves the front of what it has not served. -/
theorem Stands.serve (stands : reader.Stands entries bound world state stream unserved) (n : Nat) :
    (reader.serve n).1 = .ok (unserved.take n) ∧
      (reader.serve n).2.Stands entries bound world state stream (unserved.drop n) := by
  obtain ⟨entries_eq, bound_eq, delivers, state_eq, pos_le, filled_le, rfl⟩ := stands
  have inside : ¬reader.block.size < reader.pos + min n (reader.filled - reader.pos) := by omega
  rw [BlockReader.serve, if_neg inside, Memory.take_read, Memory.drop_read]
  refine ⟨rfl, entries_eq, bound_eq, delivers, state_eq, ?_, filled_le, ?_⟩
  · dsimp only
    omega
  · dsimp only
    rcases Nat.le_total n (reader.filled - reader.pos) with part | all
    · rw [Nat.min_eq_left part, Nat.sub_add_eq]
    · have served : reader.filled - (reader.pos + (reader.filled - reader.pos)) = 0 := by omega
      rw [Nat.min_eq_right all, Nat.sub_eq_zero_of_le all, served, Memory.read_zero,
        Memory.read_zero]

theorem Faces.read (faces : reader.Faces entries bound world data ending) {n : Nat}
    (some : n ≠ 0) : Reads entries bound n data ending (reader.read n world) := by
  have refilled := faces.refill
  rw [BlockReader.read, if_neg some]
  generalize reader.refill world = outcome at refilled ⊢
  cases refilled with
  | atEnd later => exact .atEnd later
  | failed failure => exact .failed failure
  | overrun => exact .overrun
  | @ready reader world data ending more later =>
    obtain ⟨state, stream, unserved, stands, rfl, rfl⟩ := later
    obtain ⟨served, left⟩ := stands.serve n
    have length : unserved.length = reader.filled - reader.pos := by
      have filled_le := stands.filled_le
      rw [Scratch.size] at filled_le
      rw [← stands.unserved_eq, Memory.length_read]
      omega
    have pos_le := stands.pos_le
    dsimp only
    generalize reader.serve n = answer at served left ⊢
    obtain ⟨result, last⟩ := answer
    obtain rfl : result = _ := served
    have parts := List.take_append_drop n unserved
    have nonempty : unserved.take n ≠ [] := by
      intro none
      have zero := congrArg List.length none
      rw [List.length_take, List.length_nil] at zero
      omega
    have whole := Reads.part nonempty (List.length_take_le n unserved)
      ⟨state, stream, unserved.drop n, left, rfl, rfl⟩
    rwa [← List.append_assoc, parts] at whole

end OffloadCodec.BlockReader

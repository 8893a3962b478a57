import OffloadCodec.Proofs.Stream.ReadingOut

/-!
# Reading on after a failure

A source may fail at any byte and go on later. What a reader has returned is then still the data of the
frames that it has taken, as long as every read that failed did so between frames: a failure of the
source before the first byte of a frame loses nothing. A read that fails within a frame, or behind a
frame that is rejected, leaves the source there, and the next read takes what follows for a frame.

* `Source.BetweenFrames` says that what a source has handed out are frames that the codec decompresses.
* `BlockReader.Aligned` is the invariant of a reader that has never left the frames, which a read keeps
  unless it fails within one (`BlockReader.Aligned.read`), and a run of reads as long as none does
  (`BlockReader.Aligned.readEach`).
* `BlockReader.reads_without_gaps` is what this comes to for every run of reads.
-/

namespace OffloadCodec

open OffloadCodec.Frame

variable {σ ι : Type}

/-! ## Sources that fail -/

namespace Source

/-- What a pull of `n` bytes leaves of the events, and how it ended: with all the bytes, with fewer
because the source paused or is at its end, or with an error of the source. -/
structure Pulls (n : Nat) (events : List SourceEvent) (pulled : Pulled) : Prop where
  splits : pulled.bytes ++ (⟨pulled.rest⟩ : Source).pending = (⟨events⟩ : Source).pending
  leaves : ∀ event ∈ pulled.rest, event ∈ events ∨ ∃ bytes, event = .piece bytes
  ended : pulled.error? = none ∧ pulled.bytes.length = n ∨
    pulled.error? = none ∧ pulled.bytes.length < n ∧ (.pause ∉ events → pulled.rest = []) ∨
    ∃ e, pulled.error? = some e ∧ pulled.bytes.length < n ∧ .failure e ∈ events

/-- What is not pulled is left. -/
theorem pulls_nothing (events : List SourceEvent) : Pulls 0 events ⟨[], none, events⟩ :=
  ⟨rfl, fun _ member => .inl member, .inl ⟨rfl, rfl⟩⟩

/-- An event that hands out nothing may be passed over. -/
theorem Pulls.behind {n : Nat} {event : SourceEvent} {events : List SourceEvent} {pulled : Pulled}
    (pulls : Pulls n events pulled)
    (silent : (⟨event :: events⟩ : Source).pending = (⟨events⟩ : Source).pending) :
    Pulls n (event :: events) pulled := by
  obtain ⟨splits, leaves, ended⟩ := pulls
  refine ⟨splits.trans silent.symm, fun other member => ?_, ?_⟩
  · exact (leaves other member).imp_left (List.mem_cons_of_mem event)
  · rcases ended with whole | ⟨none, less, unpaused⟩ | ⟨e, some, less, member⟩
    · exact .inl whole
    · exact .inr (.inl ⟨none, less, fun never => unpaused fun later =>
        never (List.mem_cons_of_mem event later)⟩)
    · exact .inr (.inr ⟨e, some, less, List.mem_cons_of_mem event member⟩)

theorem pulls_pullFrom (n : Nat) (events : List SourceEvent) :
    Pulls n events (pullFrom n events) := by
  fun_induction pullFrom n events with
  | case1 n =>
    refine ⟨rfl, fun _ member => .inl member, ?_⟩
    rcases Nat.eq_zero_or_pos n with rfl | some
    · exact .inl ⟨rfl, rfl⟩
    · exact .inr (.inl ⟨rfl, some, fun _ => rfl⟩)
  | case2 piece rest => exact pulls_nothing _
  | case3 n piece rest nonzero dropped next ih =>
    -- The whole piece is read, and more of what follows it.
    obtain ⟨splits, leaves, ended⟩ := ih
    have short : piece.length ≤ n := List.drop_eq_nil_iff.1 dropped
    refine ⟨?_, fun other member => ?_, ?_⟩
    · dsimp only
      rw [List.append_assoc, splits]
      rfl
    · exact (leaves other member).imp_left (List.mem_cons_of_mem _)
    · have there : next = pullFrom (n - piece.length) rest := rfl
      rw [there, List.length_append]
      rw [← there] at ended ⊢
      rcases ended with ⟨none, whole⟩ | ⟨none, less, unpaused⟩ | ⟨e, some, less, member⟩
      · exact .inl ⟨none, by omega⟩
      · exact .inr (.inl ⟨none, by omega, fun never => unpaused fun later =>
          never (List.mem_cons_of_mem _ later)⟩)
      · exact .inr (.inr ⟨e, some, by omega, List.mem_cons_of_mem _ member⟩)
  | case4 n piece rest nonzero kept =>
    -- The piece covers the read, and its end is kept.
    have long : n ≤ piece.length := by
      rcases Nat.le_total n piece.length with long | short
      · exact long
      · exact absurd (List.drop_of_length_le short) kept
    refine ⟨?_, fun other member => ?_, .inl ⟨rfl, ?_⟩⟩
    · have parts := List.take_append_drop n piece
      exact (List.append_assoc _ _ _).symm.trans (congrArg (· ++ (⟨rest⟩ : Source).pending) parts)
    · rcases List.mem_cons.1 member with rfl | later
      · exact .inr ⟨_, rfl⟩
      · exact .inl (List.mem_cons_of_mem _ later)
    · rw [List.length_take, Nat.min_eq_left long]
  | case5 e rest => exact pulls_nothing _
  | case6 n e rest nonzero interrupted ih => exact ih.behind rfl
  | case7 n e rest nonzero lasting =>
    exact ⟨rfl, fun _ member => .inl (List.mem_cons_of_mem _ member),
      .inr (.inr ⟨e, rfl, Nat.pos_of_ne_zero nonzero, List.mem_cons_self⟩)⟩
  | case8 rest => exact pulls_nothing _
  | case9 n rest nonzero =>
    exact ⟨rfl, fun _ member => .inl (List.mem_cons_of_mem _ member),
      .inr (.inl ⟨rfl, Nat.pos_of_ne_zero nonzero, fun never =>
        absurd List.mem_cons_self never⟩)⟩

theorem pulls_pull (source : Source) (n : Nat) : Pulls n source.events (source.pull n) :=
  pulls_pullFrom n source.events

end Source

/-! ## Frames in front -/

namespace Frame

variable {τ : Type} {code : τ → Bytes → Except StreamFailure Bytes × τ} {bound : Nat}
  {start state after : τ} {taken framed payload block : Bytes} {blocks : List Bytes}

/-- These bytes decode to these blocks, and decoding goes on behind them from this state. -/
def Passes (code : τ → Bytes → Except StreamFailure Bytes × τ) (bound : Nat) (start : τ)
    (taken : Bytes) (blocks : List Bytes) (state : τ) : Prop :=
  ∀ rest, decode code bound start (taken ++ rest) =
    (blocks ++ (decode code bound state rest).1, (decode code bound state rest).2)

theorem Passes.nothing : Passes code bound start [] [] start := fun _ => rfl

theorem Passes.frame (passes : Passes code bound start taken blocks state)
    (front_eq : ∀ rest, front bound (framed ++ rest) = .payload payload rest)
    (coded : code state payload = (.ok block, after)) :
    Passes code bound start (taken ++ framed) (blocks ++ [block]) after := by
  intro rest
  rw [List.append_assoc, passes, decode_ok (front_eq rest) coded, List.append_assoc]
  rfl

theorem Passes.boundary (passes : Passes code bound start taken blocks state) :
    decode code bound start taken = (blocks, .boundary) := by
  have stops : front bound [] = .stop .boundary := rfl
  have last := passes []
  rwa [List.append_nil, decode_stop stops, List.append_nil] at last

theorem Passes.blocks_prefix (passes : Passes code bound start taken blocks state) (rest : Bytes) :
    blocks.flatten <+: (decode code bound start (taken ++ rest)).1.flatten := by
  rw [passes, List.flatten_append]
  exact List.prefix_append _ _

end Frame

/-- The source has handed out frames that are decoded, and stands in front of the next one. -/
def Source.BetweenFrames {τ : Type} (code : τ → Bytes → Except StreamFailure Bytes × τ) (bound : Nat)
    (start : τ) (stream : Bytes) (source : Source) : Prop :=
  ∃ taken, stream = taken ++ source.pending ∧ (decode code bound start taken).2 = .boundary

namespace BlockReader

variable {entries : EntryPoints σ ι} {bound : Nat} {origin : Source} {reader : BlockReader σ ι}
  {world : World σ} {start state : CodecState σ ι} {unserved delivered : Bytes}

/-! ## A frame -/

/-- The reader's next codec call starts from the state, and a part of its block is not served. Its
source is what is left of another one. -/
structure Settled (entries : EntryPoints σ ι) (bound : Nat) (origin : Source)
    (reader : BlockReader σ ι) (world : World σ) (state : CodecState σ ι) (unserved : Bytes) :
    Prop where
  stands : Stands entries bound { reader with source := ⟨[]⟩ } world state [] unserved
  leaves : ∀ event ∈ reader.source.events, event ∈ origin.events ∨ ∃ bytes, event = .piece bytes

theorem Settled.pulled (settled : reader.Settled entries bound origin world state unserved) {n : Nat}
    {pulled : Pulled} (pulls : Source.Pulls n reader.source.events pulled) :
    Settled entries bound origin { reader with source := ⟨pulled.rest⟩ } world state unserved := by
  refine ⟨settled.stands, fun event member => ?_⟩
  rcases pulls.leaves event member with before | piece
  · exact settled.leaves event before
  · exact .inr piece

/-- A failure of what is left of a source is one of the source. -/
theorem Settled.failure_mem (settled : reader.Settled entries bound origin world state unserved)
    {e : IoError} (member : .failure e ∈ reader.source.events) : .failure e ∈ origin.events := by
  rcases settled.leaves _ member with before | ⟨bytes, impossible⟩
  · exact before
  · cases impossible

theorem Settled.pause_mem (settled : reader.Settled entries bound origin world state unserved)
    (member : .pause ∈ reader.source.events) : .pause ∈ origin.events := by
  rcases settled.leaves _ member with before | ⟨bytes, impossible⟩
  · exact before
  · cases impossible

/-- Whatever comes of it, reading a header leaves all but the source alone. -/
theorem nextLength_leaves (reader : BlockReader σ ι) :
    reader.nextLength.2 =
      { reader with source := ⟨(reader.source.pull headerLength).rest⟩ } := by
  rw [nextLength]
  split
  · rfl
  split
  · rfl
  split
  · rfl
  · rfl

/-- Reading the next length takes a header, or nothing, or a part of a header and fails then. -/
theorem Settled.nextLength (settled : reader.Settled entries bound origin world state unserved) :
    (∃ next, reader.nextLength = (.ok none, next) ∧
        next.source.pending = reader.source.pending ∧
        (.pause ∉ origin.events → next.source.pending = []) ∧
        next.Settled entries bound origin world state unserved) ∨
      (∃ e next, reader.nextLength = (.error (.error e), next) ∧ .failure e ∈ origin.events ∧
        next.source.pending = reader.source.pending ∧
        next.Settled entries bound origin world state unserved) ∨
      (∃ e next part, reader.nextLength = (.error e, next) ∧
        reader.source.pending = part ++ next.source.pending ∧
        0 < part.length ∧ part.length < headerLength) ∨
      (∃ next header, reader.nextLength = (.ok (some (Bytes.ofLe header)), next) ∧
        reader.source.pending = header ++ next.source.pending ∧ header.length = headerLength ∧
        next.Settled entries bound origin world state unserved) := by
  have pulls := reader.source.pulls_pull headerLength
  have later := settled.pulled pulls
  obtain ⟨splits, -, ended⟩ := pulls
  rw [BlockReader.nextLength]
  generalize reader.source.pull headerLength = pulled at splits ended later ⊢
  obtain ⟨bytes, error?, rest⟩ := pulled
  dsimp only at splits ended later ⊢
  have some : headerLength ≠ 0 := Nat.succ_ne_zero 3
  rcases ended with ⟨rfl, whole⟩ | ⟨rfl, less, unpaused⟩ | ⟨e, rfl, less, member⟩
  · right; right; right
    dsimp only
    rw [if_neg (by omega), if_pos whole]
    exact ⟨_, bytes, rfl, splits.symm, whole, later⟩
  · dsimp only
    rcases Nat.eq_zero_or_pos bytes.length with none | part
    · left
      obtain rfl := List.length_eq_zero_iff.1 none
      refine ⟨_, if_pos rfl, splits, fun never => ?_, later⟩
      obtain rfl := unpaused (mt settled.pause_mem never)
      rfl
    · right; right; left
      rw [if_neg (by omega), if_neg (by omega)]
      exact ⟨_, _, bytes, rfl, splits.symm, part, less⟩
  · dsimp only
    rcases Nat.eq_zero_or_pos bytes.length with none | part
    · right; left
      obtain rfl := List.length_eq_zero_iff.1 none
      exact ⟨e, _, rfl, settled.failure_mem member, splits, later⟩
    · right; right; left
      exact ⟨_, _, bytes, rfl, splits.symm, part, less⟩

theorem loadPayload_leaves (reader : BlockReader σ ι) (n : Nat) :
    (reader.loadPayload n).2 = { reader with
      source := ⟨(reader.source.pull n).rest⟩
      compressed := reader.compressed.withMemory
        (reader.compressed.memory.write 0 (reader.source.pull n).bytes) } := by
  rw [loadPayload]
  split
  · rfl
  split
  · rfl
  · rfl

/-- A reader that is settled is also settled behind loading, whatever comes of it. -/
theorem Settled.loaded (settled : reader.Settled entries bound origin world state unserved)
    (n : Nat) : (reader.loadPayload n).2.Settled entries bound origin world state unserved := by
  obtain ⟨⟨entries_eq, bound_eq, delivers, state_eq, pos_le, filled_le, unserved_eq⟩, leaves⟩ :=
    settled.pulled (reader.source.pulls_pull n)
  rw [loadPayload_leaves]
  refine ⟨⟨entries_eq, ?_, delivers, state_eq, pos_le, filled_le, unserved_eq⟩, leaves⟩
  rw [Scratch.size, Scratch.memory_withMemory, Memory.size_write]
  exact bound_eq

/-- Loading a payload takes it whole, or takes a part of it and fails then. -/
theorem Settled.loadPayload (settled : reader.Settled entries bound origin world state unserved)
    {n : Nat} (within : n ≤ bound) :
    (∃ e next part, reader.loadPayload n = (.error e, next) ∧
        reader.source.pending = part ++ next.source.pending ∧ part.length < n) ∨
      (∃ next payload, reader.loadPayload n = (.ok (), next) ∧
        reader.source.pending = payload ++ next.source.pending ∧ payload.length = n ∧
        next.compressed.memory.read 0 n = payload ∧
        next.Settled entries bound origin world state unserved) := by
  have bound_eq : reader.compressed.size = bound := settled.stands.bound_eq
  have later := settled.loaded n
  obtain ⟨splits, -, ended⟩ := reader.source.pulls_pull n
  rw [BlockReader.loadPayload] at later ⊢
  generalize reader.source.pull n = pulled at splits ended later ⊢
  obtain ⟨bytes, error?, rest⟩ := pulled
  dsimp only at splits ended later ⊢
  rcases ended with ⟨rfl, whole⟩ | ⟨rfl, less, -⟩ | ⟨e, rfl, less, -⟩
  · right
    dsimp only at later ⊢
    rw [if_neg (by omega)] at later ⊢
    refine ⟨_, bytes, rfl, splits.symm, whole, ?_, later⟩
    have room : n ≤ reader.compressed.memory.size :=
      Nat.le_trans within (Nat.le_of_eq bound_eq.symm)
    rw [Scratch.memory_withMemory, Memory.read_write_front room (Nat.le_of_eq whole.symm), ← whole,
      List.take_length]
  · left
    dsimp only
    rw [if_pos less]
    exact ⟨_, _, bytes, rfl, splits.symm, less⟩
  · left
    exact ⟨_, _, bytes, rfl, splits.symm, less⟩

/-- The source has no part in decompressing a payload. -/
theorem decompressBlock_onto (reader : BlockReader σ ι) (source : Source) (n : Nat)
    (world : World σ) :
    { reader with source }.decompressBlock n world =
      ((reader.decompressBlock n world).1, { (reader.decompressBlock n world).2.1 with source },
        (reader.decompressBlock n world).2.2) := by
  simp only [decompressBlock]
  split <;> rfl

/-- How filling the block turns out for a source that may fail, unless the program stops. -/
inductive Fetches (entries : EntryPoints σ ι) (bound : Nat) (origin : Source)
    (state : CodecState σ ι) (unserved : Bytes) (source : Source) :
    Except StreamFailure Bool × BlockReader σ ι × World σ → Prop
  /-- The source hands out nothing more. -/
  | ended {next : BlockReader σ ι} {world : World σ} :
    next.source.pending = source.pending → (.pause ∉ origin.events → next.source.pending = []) →
    next.Settled entries bound origin world state unserved →
    Fetches entries bound origin state unserved source (.ok false, next, world)
  /-- The source fails in front of a frame. -/
  | spared {e : IoError} {next : BlockReader σ ι} {world : World σ} :
    .failure e ∈ origin.events → next.source.pending = source.pending →
    next.Settled entries bound origin world state unserved →
    Fetches entries bound origin state unserved source (.error (.error e), next, world)
  /-- Bytes are taken that do not decode to an end. -/
  | torn {part : Bytes} {e : StreamFailure} {next : BlockReader σ ι} {world : World σ} :
    source.pending = part ++ next.source.pending →
    (decode entries.decompressNext bound state part).2 ≠ .boundary →
    Fetches entries bound origin state unserved source (.error e, next, world)
  | block {framed payload block : Bytes} {after : CodecState σ ι} {next : BlockReader σ ι}
      {world : World σ} :
    source.pending = framed ++ next.source.pending →
    (∀ rest, front bound (framed ++ rest) = .payload payload rest) →
    entries.decompressNext state payload = (.ok block, after) →
    next.Settled entries bound origin world after block →
    Fetches entries bound origin state unserved source (.ok true, next, world)

/-- A whole frame in front of the source is taken, and decompressed or rejected. -/
theorem Settled.decompressBlock {framed payload : Bytes} {n : Nat} {source : Source}
    (settled : reader.Settled entries bound origin world state unserved)
    (loaded : reader.compressed.memory.read 0 n = payload)
    (splits : source.pending = framed ++ reader.source.pending)
    (front_eq : ∀ rest, front bound (framed ++ rest) = .payload payload rest)
    (unstopped : (decode entries.decompressNext bound state source.pending).2 ≠
      .rejected .overrun) :
    Fetches entries bound origin state unserved source
      (match reader.decompressBlock n world with
        | (.error e, reader, world) => (.error e, reader, world)
        | (.ok (), reader, world) => (.ok true, reader, world)) := by
  have decompressed := settled.stands.decompressBlock loaded
  have source_eq := source_decompressBlock reader n world
  rw [decompressBlock_onto] at decompressed
  dsimp only at decompressed
  have alone := front_eq []
  rw [List.append_nil] at alone
  generalize reader.decompressBlock n world = outcome at decompressed source_eq ⊢
  obtain ⟨result, next, later⟩ := outcome
  dsimp only at source_eq
  rw [← source_eq] at splits
  rcases decompressed with
    ⟨e, after, coded, failed⟩ | ⟨after, coded, above⟩ | ⟨block, after, coded, filled, ready⟩
  · obtain rfl : result = _ := failed
    refine .torn splits ?_
    rw [decode_error alone coded]
    exact fun impossible => by cases impossible
  · rw [splits, decode_error (front_eq _) coded] at unstopped
    exact absurd rfl unstopped
  · obtain rfl : result = _ := filled
    exact .block splits front_eq coded ⟨ready, source_eq ▸ settled.leaves⟩

theorem Settled.fillBlock (settled : reader.Settled entries bound origin world state unserved)
    (unstopped : (decode entries.decompressNext bound state reader.source.pending).2 ≠
      .rejected .overrun) :
    Fetches entries bound origin state unserved reader.source (reader.fillBlock world) := by
  rw [BlockReader.fillBlock]
  rcases settled.nextLength with
    ⟨next, answered, same, unpaused, later⟩ | ⟨e, next, answered, member, same, later⟩ |
    ⟨e, next, part, answered, splits, some, short⟩ | ⟨next, header, answered, splits, headed, later⟩
  · rw [answered]
    exact .ended same unpaused later
  · rw [answered]
    exact .spared member same later
  · rw [answered]
    refine .torn splits ?_
    have stops : front bound part = .stop .cutHeader :=
      (if_neg (Nat.ne_of_gt some)).trans (if_pos short)
    rw [decode_stop stops]
    exact fun impossible => by cases impossible
  rw [answered]
  dsimp only
  -- From here on the header is there, and its number decides.
  have front_eq := front_headed bound headed
  generalize Bytes.ofLe header = n at front_eq ⊢
  have bound_eq : next.compressed.size = bound := later.stands.bound_eq
  rw [bound_eq]
  by_cases bad : n = 0 ∨ bound < n
  · rw [if_pos bad]
    have stops := front_eq []
    rw [if_pos bad, List.append_nil] at stops
    refine .torn splits ?_
    rw [decode_stop stops]
    exact fun impossible => by cases impossible
  rw [if_neg bad]
  simp only [if_neg bad] at front_eq
  rcases later.loadPayload (Nat.le_of_not_lt (not_or.1 bad).2) with
    ⟨e, last, part, failed, cut, less⟩ | ⟨last, payload, succeeded, cut, whole, loaded, ready⟩
  · rw [failed]
    have stops := front_eq part
    rw [if_pos less] at stops
    rw [cut, ← List.append_assoc] at splits
    refine .torn splits ?_
    rw [decode_stop stops]
    exact fun impossible => by cases impossible
  · rw [succeeded]
    rw [cut, ← List.append_assoc] at splits
    refine ready.decompressBlock loaded splits (fun rest => ?_) unstopped
    rw [List.append_assoc, front_eq, if_neg (by rw [List.length_append]; omega),
      List.take_left' whole, List.drop_left' whole]

/-! ## A read -/

/-- The reader has never left the frames of its stream: it has delivered the blocks of those that it
has taken, up to the part of the last one that it holds. -/
def Aligned (entries : EntryPoints σ ι) (bound : Nat) (origin : Source) (start : CodecState σ ι)
    (reader : BlockReader σ ι) (world : World σ) (delivered : Bytes) : Prop :=
  ∃ taken blocks state unserved, origin.pending = taken ++ reader.source.pending ∧
    Passes entries.decompressNext bound start taken blocks state ∧
    reader.Settled entries bound origin world state unserved ∧
    blocks.flatten = delivered ++ unserved

/-- All that the source has handed out are whole frames, and all of them are delivered. That is the
whole stream unless the source paused. -/
def Exhausted (entries : EntryPoints σ ι) (bound : Nat) (origin : Source) (start : CodecState σ ι)
    (source : Source) (delivered : Bytes) : Prop :=
  ∃ taken blocks, origin.pending = taken ++ source.pending ∧
    decode entries.decompressNext bound start taken = (blocks, .boundary) ∧
    delivered = blocks.flatten ∧
    (.pause ∉ origin.events →
      decode entries.decompressNext bound start origin.pending = (blocks, .boundary))

theorem Aligned.delivered_front (aligned : reader.Aligned entries bound origin start world delivered) :
    delivered <+: (decode entries.decompressNext bound start origin.pending).1.flatten := by
  obtain ⟨taken, blocks, state, unserved, splits, passes, -, data⟩ := aligned
  rw [splits]
  exact (data ▸ List.prefix_append delivered unserved).trans (passes.blocks_prefix _)

/-- How refilling turns out for a reader that has never left the frames. -/
inductive Replenishes (entries : EntryPoints σ ι) (bound : Nat) (origin : Source)
    (start : CodecState σ ι) (delivered : Bytes) :
    Except StreamFailure Bool × BlockReader σ ι × World σ → Prop
  | ready {reader : BlockReader σ ι} {world : World σ} :
    reader.pos ≠ reader.filled → reader.Aligned entries bound origin start world delivered →
    Replenishes entries bound origin start delivered (.ok true, reader, world)
  | ended {reader : BlockReader σ ι} {world : World σ} :
    Exhausted entries bound origin start reader.source delivered →
    reader.Aligned entries bound origin start world delivered →
    Replenishes entries bound origin start delivered (.ok false, reader, world)
  | spared {e : IoError} {reader : BlockReader σ ι} {world : World σ} :
    .failure e ∈ origin.events → reader.Aligned entries bound origin start world delivered →
    Replenishes entries bound origin start delivered (.error (.error e), reader, world)
  | torn {e : StreamFailure} {reader : BlockReader σ ι} {world : World σ} :
    ¬reader.source.BetweenFrames entries.decompressNext bound start origin.pending →
    Replenishes entries bound origin start delivered (.error e, reader, world)

theorem Aligned.refill (aligned : reader.Aligned entries bound origin start world delivered)
    (unstopped : (decode entries.decompressNext bound start origin.pending).2 ≠
      .rejected .overrun) :
    Replenishes entries bound origin start delivered (reader.refill world) := by
  fun_induction BlockReader.refill reader world with
  | case1 reader world done e last after filled =>
    obtain ⟨taken, blocks, state, unserved, splits, passes, settled, data⟩ := aligned
    rw [splits, passes] at unstopped
    have fetches := settled.fillBlock unstopped
    rw [filled] at fetches
    cases fetches with
    | spared member same later =>
      exact .spared member ⟨taken, blocks, state, unserved, same ▸ splits, passes, later, data⟩
    | @torn part _ _ _ cut broken =>
      refine .torn ?_
      rintro ⟨taken', splits', ends⟩
      -- What was handed out can be cut in one way only.
      rw [splits, cut, ← List.append_assoc] at splits'
      obtain rfl := List.append_cancel_right splits'
      rw [passes] at ends
      exact broken ends
  | case2 reader world done last after filled =>
    obtain ⟨taken, blocks, state, unserved, splits, passes, settled, data⟩ := aligned
    have nothing := settled.stands.unserved_nil done
    rw [splits, passes] at unstopped
    have fetches := settled.fillBlock unstopped
    rw [filled] at fetches
    cases fetches with
    | ended same unpaused later =>
      rw [← same] at splits
      refine .ended ⟨taken, blocks, splits, passes.boundary, ?_, fun never => ?_⟩
        ⟨taken, blocks, state, unserved, splits, passes, later, data⟩
      · rw [data, nothing, List.append_nil]
      · rw [splits, unpaused never, List.append_nil]
        exact passes.boundary
  | case3 reader world done last after filled ih =>
    obtain ⟨taken, blocks, state, unserved, splits, passes, settled, data⟩ := aligned
    have nothing := settled.stands.unserved_nil done
    rw [splits, passes] at unstopped
    have fetches := settled.fillBlock unstopped
    rw [filled] at fetches
    cases fetches with
    | @block framed _ block after' _ _ cut front_eq coded later =>
      refine ih ⟨taken ++ framed, blocks ++ [block], after', block, ?_,
        passes.frame front_eq coded, later, ?_⟩
      · rw [splits, cut, List.append_assoc]
      · rw [List.flatten_append, data, nothing, List.append_nil, List.flatten_singleton]
  | case4 reader world more => exact .ready more aligned

/-- How a read turns out for a reader that has never left the frames. -/
inductive Advances (entries : EntryPoints σ ι) (bound : Nat) (origin : Source)
    (start : CodecState σ ι) (delivered : Bytes) (n : Nat) :
    Except StreamFailure Bytes × BlockReader σ ι × World σ → Prop
  | part {part : Bytes} {reader : BlockReader σ ι} {world : World σ} :
    (part = [] → n = 0) → reader.Aligned entries bound origin start world (delivered ++ part) →
    Advances entries bound origin start delivered n (.ok part, reader, world)
  | ended {reader : BlockReader σ ι} {world : World σ} :
    Exhausted entries bound origin start reader.source delivered →
    reader.Aligned entries bound origin start world delivered →
    Advances entries bound origin start delivered n (.ok [], reader, world)
  | spared {e : IoError} {reader : BlockReader σ ι} {world : World σ} :
    .failure e ∈ origin.events → reader.Aligned entries bound origin start world delivered →
    Advances entries bound origin start delivered n (.error (.error e), reader, world)
  | torn {e : StreamFailure} {reader : BlockReader σ ι} {world : World σ} :
    ¬reader.source.BetweenFrames entries.decompressNext bound start origin.pending →
    Advances entries bound origin start delivered n (.error e, reader, world)

theorem serve_onto (reader : BlockReader σ ι) (source : Source) (n : Nat) :
    { reader with source }.serve n =
      ((reader.serve n).1, { (reader.serve n).2 with source }) := by
  by_cases above : reader.block.size < reader.pos + min n (reader.filled - reader.pos)
  · have stopped : reader.serve n = (.error .overrun, reader) := if_pos above
    rw [stopped]
    exact if_pos above
  · have served : reader.serve n = (.ok (reader.block.memory.read reader.pos
        (min n (reader.filled - reader.pos))),
        { reader with pos := reader.pos + min n (reader.filled - reader.pos) }) := if_neg above
    rw [served]
    exact if_neg above

theorem source_serve (reader : BlockReader σ ι) (n : Nat) :
    (reader.serve n).2.source = reader.source := by
  simp only [serve]
  split <;> rfl

/-- A settled reader serves the front of what it has not served. -/
theorem Settled.serve (settled : reader.Settled entries bound origin world state unserved) (n : Nat) :
    (reader.serve n).1 = .ok (unserved.take n) ∧
      (reader.serve n).2.Settled entries bound origin world state (unserved.drop n) := by
  obtain ⟨stands, leaves⟩ := settled
  obtain ⟨served, left⟩ := stands.serve n
  rw [serve_onto] at served left
  rw [← source_serve reader n] at leaves
  exact ⟨served, left, leaves⟩

/-- Serving the block moves on within what is delivered of the frames taken. -/
theorem Aligned.serve (aligned : reader.Aligned entries bound origin start world delivered)
    (more : reader.pos ≠ reader.filled) {n : Nat} (some : n ≠ 0) :
    ∃ part, part ≠ [] ∧ (reader.serve n).1 = .ok part ∧
      (reader.serve n).2.Aligned entries bound origin start world (delivered ++ part) := by
  obtain ⟨taken, blocks, state, unserved, splits, passes, settled, data⟩ := aligned
  obtain ⟨served, left⟩ := settled.serve n
  rw [← source_serve reader n] at splits
  refine ⟨unserved.take n, ?_, served, taken, blocks, state, unserved.drop n, splits, passes, left, ?_⟩
  · have stands := settled.stands
    have pos_le : reader.pos ≤ reader.filled := stands.pos_le
    have filled_le : reader.filled ≤ reader.block.size := stands.filled_le
    have unserved_eq : reader.block.memory.read reader.pos (reader.filled - reader.pos) = unserved :=
      stands.unserved_eq
    rw [Scratch.size] at filled_le
    intro none
    have zero := congrArg List.length none
    rw [← unserved_eq, List.length_take, Memory.length_read, List.length_nil] at zero
    omega
  · rw [data, List.append_assoc, List.take_append_drop]

/-- A read advances within the frames, or leaves the source where it fails. -/
theorem Aligned.read (aligned : reader.Aligned entries bound origin start world delivered)
    (unstopped : (decode entries.decompressNext bound start origin.pending).2 ≠
      .rejected .overrun) (n : Nat) :
    Advances entries bound origin start delivered n (reader.read n world) := by
  by_cases none : n = 0
  · subst none
    exact .part (fun _ => rfl) (by rwa [List.append_nil])
  have replenishes := aligned.refill unstopped
  rw [BlockReader.read, if_neg none]
  generalize reader.refill world = outcome at replenishes ⊢
  cases replenishes with
  | ready more later =>
    obtain ⟨part, nonempty, served, left⟩ := later.serve more none
    dsimp only
    rw [served]
    exact .part (fun empty => absurd empty nonempty) left
  | ended exhausted later => exact .ended exhausted later
  | spared member later => exact .spared member later
  | torn apart => exact .torn apart

/-! ## Reads -/

/-- A read of `n` bytes behind reads with these sizes. -/
def readAfter (reader : BlockReader σ ι) (earlier : List Nat) (n : Nat) (world : World σ) :
    Except StreamFailure Bytes × BlockReader σ ι × World σ :=
  (reader.readEach earlier world).2.1.read n (reader.readEach earlier world).2.2

/-- The bytes that all reads return, also behind one that fails. -/
def everReturned (answers : List (Except StreamFailure Bytes)) : Bytes :=
  answers.flatMap fun
    | .ok bytes => bytes
    | .error _ => []

theorem readEach_concat (reader : BlockReader σ ι) (earlier : List Nat) (n : Nat)
    (world : World σ) :
    (reader.readEach (earlier ++ [n]) world).1 =
      (reader.readEach earlier world).1 ++ [(reader.readAfter earlier n world).1] := by
  induction earlier generalizing reader world with
  | nil => rfl
  | cons m earlier ih => exact congrArg ((reader.read m world).1 :: ·) (ih _ _)

theorem everReturned_append (answers later : List (Except StreamFailure Bytes)) :
    everReturned (answers ++ later) = everReturned answers ++ everReturned later :=
  List.flatMap_append

section Advances

variable {n : Nat} {outcome : Except StreamFailure Bytes × BlockReader σ ι × World σ}
  (advances : Advances entries bound origin start delivered n outcome)
include advances

/-- However a read turns out, what was delivered by then is the front of what the stream decodes to. -/
theorem Advances.returned_front
    (front : delivered <+: (decode entries.decompressNext bound start origin.pending).1.flatten) :
    delivered ++ everReturned [outcome.1] <+:
      (decode entries.decompressNext bound start origin.pending).1.flatten := by
  rw [everReturned, List.flatMap_singleton]
  cases advances with
  | part _ aligned => exact aligned.delivered_front
  | ended => rwa [List.append_nil]
  | spared => rwa [List.append_nil]
  | torn => rwa [List.append_nil]

/-- A read into a buffer that is not empty returns nothing only at the end. -/
theorem Advances.exhausted (nonzero : n ≠ 0) (answered : outcome.1 = .ok []) :
    Exhausted entries bound origin start outcome.2.1.source delivered := by
  cases advances with
  | part empty => exact absurd (empty (Except.ok.inj answered)) nonzero
  | ended exhausted => exact exhausted
  | spared => cases answered
  | torn => cases answered

/-- A read that fails and leaves the source between frames has failed with it. -/
theorem Advances.failure_mem {e : StreamFailure} (failed : outcome.1 = .error e)
    (between : outcome.2.1.source.BetweenFrames entries.decompressNext bound start origin.pending) :
    ∃ failure, e = .error failure ∧ .failure failure ∈ origin.events := by
  cases advances with
  | part => cases failed
  | ended => cases failed
  | spared member => exact ⟨_, (Except.error.inj failed).symm, member⟩
  | torn apart => exact absurd between apart

end Advances

/-- A reader stays within the frames as long as every read that fails leaves the source between
them. -/
theorem Aligned.readEach (aligned : reader.Aligned entries bound origin start world delivered)
    (unstopped : (decode entries.decompressNext bound start origin.pending).2 ≠
      .rejected .overrun) (sizes : List Nat)
    (spared : ∀ earlier n later e, sizes = earlier ++ n :: later →
      (reader.readAfter earlier n world).1 = .error e →
      (reader.readAfter earlier n world).2.1.source.BetweenFrames entries.decompressNext bound start
        origin.pending) :
    (reader.readEach sizes world).2.1.Aligned entries bound origin start
      (reader.readEach sizes world).2.2 (delivered ++ everReturned (reader.readEach sizes world).1) := by
  induction sizes generalizing reader world delivered with
  | nil => rwa [BlockReader.readEach, everReturned, List.flatMap_nil, List.append_nil]
  | cons n sizes ih =>
    have advances := aligned.read unstopped n
    have first := spared [] n sizes
    have rest := fun earlier m later e (same : sizes = earlier ++ m :: later) =>
      spared (n :: earlier) m later e (congrArg (n :: ·) same)
    simp only [readAfter, BlockReader.readEach, List.nil_append, forall_const] at first rest
    rw [BlockReader.readEach]
    generalize reader.read n world = outcome at advances first rest ⊢
    cases advances with
    | @part part _ _ _ later =>
      have onward := ih later rest
      rwa [List.append_assoc] at onward
    | ended _ later => exact ih later rest
    | spared _ later => exact ih later rest
    | torn apart => exact absurd (first _ rfl) apart

/-- A new reader holds nothing, and its codec has done nothing yet. -/
theorem create_settled {library : Library σ ι} {source : Source} {options : StreamOptions}
    {world opened : World σ}
    (created : (create library source options).runOn world = (.ok reader, opened)) :
    reader.Settled library.entries (library.boundFor options.blockSize world.native) source opened
      (freshState library options world) [] := by
  have elsewhere := create_onto created ⟨[]⟩
  obtain ⟨-, source_eq, session, pos, filled, bound, block⟩ := create_ok created
  refine ⟨⟨?_, bound, ⟨?_, rfl⟩, ?_, ?_, ?_, ?_⟩, fun event member => .inl (source_eq ▸ member)⟩
  · rw [session]
    rfl
  · exact fun event member => absurd member List.not_mem_nil
  · rw [freshState, elsewhere, session, block]
    rfl
  · exact Nat.le_of_eq (pos.trans filled.symm)
  · exact Nat.le_trans (Nat.le_of_eq filled) (Nat.zero_le _)
  · rw [pos, filled, Memory.read_zero]

/-- A new reader has taken nothing and delivered nothing. -/
theorem create_aligned {library : Library σ ι} {source : Source} {options : StreamOptions}
    {world opened : World σ}
    (created : (create library source options).runOn world = (.ok reader, opened)) :
    reader.Aligned library.entries (library.boundFor options.blockSize world.native) source
      (freshState library options world) opened [] := by
  have source_eq := (create_ok created).2.1
  exact ⟨[], [], _, [], by rw [source_eq, List.nil_append], .nothing, create_settled created, rfl⟩

section Reads

variable {library : Library σ ι} {source : Source} {options : StreamOptions} {sizes : List Nat}
  {opened : World σ}

/-- As long as every failing read that others follow leaves the source between two frames, the reads
return the data of the frames from the first one on and leave nothing out: a read into a buffer that
is not empty returns nothing only if all that was handed out are whole frames whose data is returned,
and at the end of the stream unless the source paused. A read that fails between frames fails with an
error of the source. -/
theorem reads_without_gaps
    (created : (create library source options).runOn world = (.ok reader, opened))
    (unstopped : (decode library.entries.decompressNext
      (library.boundFor options.blockSize world.native) (freshState library options world)
      source.pending).2 ≠ .rejected .overrun)
    (spared : ∀ earlier n later e, sizes = earlier ++ n :: later → later ≠ [] →
      (reader.readAfter earlier n opened).1 = .error e →
      (reader.readAfter earlier n opened).2.1.source.BetweenFrames library.entries.decompressNext
        (library.boundFor options.blockSize world.native) (freshState library options world)
        source.pending) :
    let bound := library.boundFor options.blockSize world.native
    let start := freshState library options world
    let code := library.entries.decompressNext
    everReturned (reader.readEach sizes opened).1 <+:
        (decode code bound start source.pending).1.flatten ∧
      (∀ earlier n later, sizes = earlier ++ n :: later → n ≠ 0 →
        (reader.readAfter earlier n opened).1 = .ok [] →
        ∃ taken blocks,
          source.pending = taken ++ (reader.readAfter earlier n opened).2.1.source.pending ∧
          decode code bound start taken = (blocks, .boundary) ∧
          everReturned (reader.readEach earlier opened).1 = blocks.flatten ∧
          (.pause ∉ source.events → decode code bound start source.pending = (blocks, .boundary))) ∧
      (∀ earlier n later e, sizes = earlier ++ n :: later →
        (reader.readAfter earlier n opened).1 = .error e →
        (reader.readAfter earlier n opened).2.1.source.BetweenFrames code bound start
          source.pending →
        ∃ failure, e = .error failure ∧ .failure failure ∈ source.events) := by
  intro bound start code
  -- The reads in front of any read are each followed by another one.
  have before : ∀ earlier n later, sizes = earlier ++ n :: later →
      (reader.readEach earlier opened).2.1.Aligned library.entries bound source start
        (reader.readEach earlier opened).2.2 (everReturned (reader.readEach earlier opened).1) := by
    rintro earlier n later rfl
    exact (create_aligned created).readEach unstopped earlier
      fun earlier' m later' e same => spared earlier' m (later' ++ n :: later) e
        (by rw [same, List.append_assoc, List.cons_append])
        (List.append_ne_nil_of_right_ne_nil _ (List.cons_ne_nil _ _))
  have reads := fun earlier n later same => (before earlier n later same).read unstopped n
  refine ⟨?_, fun earlier n later same nonzero answered => ?_,
    fun earlier n later e same failed between => ?_⟩
  · rcases sizes.eq_nil_or_concat' with rfl | ⟨earlier, n, rfl⟩
    · exact List.nil_prefix
    · rw [readEach_concat, everReturned_append]
      exact (reads earlier n [] rfl).returned_front (before earlier n [] rfl).delivered_front
  · exact (reads earlier n later same).exhausted nonzero answered
  · exact (reads earlier n later same).failure_mem failed between

/-- The source fails once between two frames, and the next read goes on with the second frame. -/
theorem reads_without_gaps_spared :
    let source : Source := ⟨[.piece (frame [81, 90, 77, 1, 2, 0, 0, 0, 1, 2]),
      .failure (.device .other ""), .piece (frame [81, 90, 77, 1, 1, 0, 0, 0, 3])]⟩
    let answers : List (Except StreamFailure Bytes) :=
      [.ok [1, 2], .error (.error (.device .other "")), .ok [3]]
    use Simulated.library source { blockSize := 2 } [5, 5, 5] { native := {} } = .ok answers ∧
      everReturned answers <+: (decode Simulated.library.entries.decompressNext 10
        (freshState Simulated.library { blockSize := 2 } { native := {} })
        source.pending).1.flatten := by
  intro source answers
  let reader : BlockReader Simulated.State UInt32 :=
    { session := .new Simulated.library, source, compressed := .heap (.zeros 10),
      block := .heap (.zeros 2) }
  let opened : World Simulated.State := Simulated.library.asked 2 { native := {} }
  have created : (create Simulated.library source { blockSize := 2 }).runOn { native := {} } =
      (.ok reader, opened) := rfl
  have read : (reader.readEach [5, 5, 5] opened).1 = answers := by decide +kernel
  refine ⟨by decide +kernel, ?_⟩
  -- Both frames are decompressed.
  let start := freshState Simulated.library { blockSize := 2 } { native := {} }
  let between := (Simulated.library.entries.decompressNext start
    [81, 90, 77, 1, 2, 0, 0, 0, 1, 2]).2
  have coded : (Simulated.library.entries.decompressNext start
      [81, 90, 77, 1, 2, 0, 0, 0, 1, 2]).1 = .ok [1, 2] := by decide +kernel
  have coded' : (Simulated.library.entries.decompressNext between
      [81, 90, 77, 1, 1, 0, 0, 0, 3]).1 = .ok [3] := by decide +kernel
  have first : Passes Simulated.library.entries.decompressNext 10 start
      (frame [81, 90, 77, 1, 2, 0, 0, 0, 1, 2]) [[1, 2]] between :=
    Passes.nothing.frame (front_frame (by decide) (by decide) (by decide)) (Prod.ext coded rfl)
  have both : Passes Simulated.library.entries.decompressNext 10 start
      (frame [81, 90, 77, 1, 2, 0, 0, 0, 1, 2] ++ frame [81, 90, 77, 1, 1, 0, 0, 0, 3])
      ([[1, 2]] ++ [[3]])
      (Simulated.library.entries.decompressNext between [81, 90, 77, 1, 1, 0, 0, 0, 3]).2 :=
    first.frame (front_frame (by decide) (by decide) (by decide)) (Prod.ext coded' rfl)
  rw [← read]
  refine (reads_without_gaps created ?_ ?_).1
  · intro stopped
    cases (congrArg Prod.snd both.boundary).symm.trans stopped
  · intro earlier n later e same further failed
    rcases earlier with _ | ⟨m, _ | ⟨m', _ | ⟨m'', earlier⟩⟩⟩
    · -- The first read returns the data of the first frame.
      obtain ⟨rfl, -⟩ := List.cons.inj same
      have answered : (reader.readAfter [] 5 opened).1 = .ok [1, 2] := by decide +kernel
      cases answered.symm.trans failed
    · -- The second read fails behind the first frame.
      obtain ⟨rfl, behind⟩ := List.cons.inj same
      obtain ⟨rfl, -⟩ := List.cons.inj behind
      refine ⟨frame [81, 90, 77, 1, 2, 0, 0, 0, 1, 2], by decide +kernel, ?_⟩
      exact congrArg Prod.snd first.boundary
    · obtain ⟨-, -, -, rfl⟩ := by simpa using same
      exact absurd rfl further
    · simp at same

/-- The data of a frame that is rejected is left out, although the read behind it returns data. -/
theorem reads_skip_rejected :
    let source : Source := .ofBytes (frame [0, 0, 0, 0, 0, 0, 0, 0] ++
      frame [81, 90, 77, 1, 1, 0, 0, 0, 3])
    let answers : List (Except StreamFailure Bytes) :=
      [.error (.error (.codec (.operationFailed .decompress (-4)))), .ok [3], .ok []]
    use Simulated.library source { blockSize := 2 } [5, 5, 5] { native := {} } = .ok answers ∧
      ¬everReturned answers <+: (decode Simulated.library.entries.decompressNext 10
        (freshState Simulated.library { blockSize := 2 } { native := {} })
        source.pending).1.flatten := by
  intro source answers
  have coded : (Simulated.library.entries.decompressNext
      (freshState Simulated.library { blockSize := 2 } { native := {} })
      [0, 0, 0, 0, 0, 0, 0, 0]).1 = .error (.error (.codec (.operationFailed .decompress (-4)))) := by
    decide +kernel
  have framed : front 10 source.pending = .payload [0, 0, 0, 0, 0, 0, 0, 0]
      (frame [81, 90, 77, 1, 1, 0, 0, 0, 3]) := rfl
  refine ⟨by decide +kernel, ?_⟩
  rw [decode_error framed (Prod.ext coded rfl)]
  decide

end Reads

end BlockReader

end OffloadCodec

import OffloadCodec.Proofs.Calls.Trails
import OffloadCodec.Proofs.Stream.FailedWriter

/-!
# Two libraries that look alike

A session sees of its library only what calls reply. `Library.Likeness` relates the sessions of two
libraries, each in its world, in such a way that every call replies alike and leads to what is related
again, so nothing that works with a session can tell the two apart: sessions themselves, writers and
readers return the same and are related afterwards.

A likeness also says what it allows the buffers of the two sides. They may lie at different places, and
they may hold different bytes where no result depends on these: behind what a writer has filled,
in front of what a reader still serves, and in all that a codec call is about to overwrite, provided
that it does write what it reports.

What happens to the worlds at the end of a writer or reader is up to the calls by which sessions are
ended and buffers are given back (`Library.Likeness.Closes`).
-/

namespace OffloadCodec

variable {σ ι τ κ : Type}

/-- Bytes taken in and given out. -/
def SessionRecord.totals (record : SessionRecord ι) : UInt64 × UInt64 :=
  (record.totalIn, record.totalOut)

/-! ## Regions that hold different bytes -/

namespace Memory

variable {m m' : Memory} {n offset : Nat} {bytes : Bytes}

theorem read_min : m.read 0 (min n m.size) = m.read 0 n := by
  have shown : ∀ k, m.read 0 k = (m.toBytes).take k := fun k => by rw [read_eq, List.drop_zero]
  rw [shown, shown, ← length_toBytes m, ← List.take_take, List.take_length]

/-- The front of a region that was overwritten at least as far shows only what was written. -/
theorem read_write_over (reaches : n ≤ bytes.length) :
    (m.write 0 bytes).read 0 n = bytes.take (min n m.size) := by
  rw [read_eq, toBytes_write, List.take_zero, Nat.zero_sub, List.replicate_zero, List.nil_append,
    List.nil_append, List.drop_zero, List.take_take,
    List.take_append_of_le_length (Nat.le_trans (Nat.min_le_left _ _) reaches)]

/-- Of two regions with the same front the front is still the same when both have had the same bytes
written behind it. -/
theorem read_write_behind (sizes : m.size = m'.size) (fronts : m.read 0 n = m'.read 0 n)
    (bytes : Bytes) :
    (m.write n bytes).read 0 (n + bytes.length) = (m'.write n bytes).read 0 (n + bytes.length) := by
  have shown : ∀ region : Memory, (region.write n bytes).read 0 (n + bytes.length) =
      (region.read 0 n ++ List.replicate (n - region.size) 0 ++ bytes).take
        (min (n + bytes.length) region.size) := by
    intro region
    have reaches : min (n + bytes.length) region.size ≤
        (region.read 0 n ++ List.replicate (n - region.size) 0 ++ bytes).length := by
      simp only [List.length_append, length_read, List.length_replicate]
      omega
    rw [← List.take_append_of_le_length reaches, read_eq, read_eq, toBytes_write, List.drop_zero,
      List.drop_zero, List.take_take]
  rw [shown, shown, fronts, sizes]

/-- A window that two regions of one size have in common is still common to them when both have had
the same bytes written somewhere. -/
theorem read_write_common (sizes : m.size = m'.size) (windows : m.read offset n = m'.read offset n)
    (start : Nat) (bytes : Bytes) :
    (m.write start bytes).read offset n = (m'.write start bytes).read offset n := by
  rw [read_eq, read_eq] at windows ⊢
  apply List.ext_getElem
  · simp only [List.length_take, List.length_drop, length_toBytes, size_write, sizes]
  · intro i h h'
    simp only [List.length_take, List.length_drop, length_toBytes, size_write] at h h'
    have inside : offset + i < m.toBytes.length := by rw [length_toBytes]; omega
    have inside' : offset + i < m'.toBytes.length := by rw [length_toBytes]; omega
    have here : m.toBytes[offset + i] = m'.toBytes[offset + i] := by
      have same := congrArg (·[i]?) windows
      simp only [List.getElem?_take, List.getElem?_drop, show i < n by omega, if_true] at same
      rwa [List.getElem?_eq_getElem inside, List.getElem?_eq_getElem inside',
        Option.some.injEq] at same
    simp only [toBytes_write, List.getElem_take, List.getElem_drop, List.getElem_append,
      List.length_take, List.length_append, length_toBytes, List.length_replicate, here, sizes]
    refine dite_congr rfl (fun _ => rfl) fun behind => ?_
    have index : start + bytes.length +
        (offset + i - (min start m'.size + (start - m'.size) + bytes.length)) = offset + i := by
      omega
    simp only [index, here]
end Memory

/-! ## Libraries -/

/-- Replies to a codec call that a session cannot tell apart. If the output regions of the two calls
may differ, all that is reported is written as well. -/
structure RepliesAlike (like : SessionRecord ι → World σ → SessionRecord κ → World τ → Prop)
    (differ : Prop) (world : World σ) (world' : World τ) (reply : CodecReply ι × σ)
    (reply' : CodecReply κ × τ) : Prop where
  status : reply.1.status = reply'.1.status
  reported : reply.1.reported = reply'.1.reported
  written : reply.1.written = reply'.1.written
  reaches : differ → reply.1.WritesReported
  like : like reply.1.record { world with native := reply.2 } reply'.1.record
    { world' with native := reply'.2 }

/-- Sessions of two libraries that are alike in their worlds, and stay so. -/
structure Library.Likeness (library : Library σ ι) (library' : Library τ κ) where
  like : SessionRecord ι → World σ → SessionRecord κ → World τ → Prop
  /-- Where buffers of the two sides lie that belong together. -/
  placed : Option Address → Option Address → Prop
  /-- Regions that such calls write to may hold different bytes. -/
  differ : Operation → Prop
  heap : placed none none
  totals : ∀ {record world record' world'}, like record world record' world' →
    record.totals = record'.totals
  say : ∀ {record world record' world'}, like record world record' world' →
    ∀ level text, 0 < level → like record (world.say level text) record' (world'.say level text)
  compress : ∀ {record world record' world'}, like record world record' world' →
    ∀ input capacity, RepliesAlike like (differ .compress) world world'
      (library.entries.compress record input capacity true world.native)
      (library'.entries.compress record' input capacity true world'.native)
  decompress : ∀ {record world record' world'}, like record world record' world' →
    ∀ input capacity, RepliesAlike like (differ .decompress) world world'
      (library.entries.decompress record input capacity world.native)
      (library'.entries.decompress record' input capacity world'.native)
  bound : ∀ {record world record' world'}, like record world record' world' → ∀ length,
    (library.entries.maxCompressedLength length world.native).1 =
        (library'.entries.maxCompressedLength length world'.native).1 ∧
      like record { world with native :=
          (library.entries.maxCompressedLength length world.native).2 }
        record' { world' with native :=
          (library'.entries.maxCompressedLength length world'.native).2 }

variable {library : Library σ ι} {library' : Library τ κ} {alike : library.Likeness library'}
  {operation : Operation}

/-- Outcomes that return the same and leave behind what is related. -/
inductive SameOutcome {ρ α β : Type} (related : α → World σ → β → World τ → Prop) :
    ρ × α × World σ → ρ × β × World τ → Prop
  | of {a : α} {world : World σ} {b : β} {world' : World τ} (result : ρ)
    (still : related a world b world') : SameOutcome related (result, a, world) (result, b, world')

/-- The other outcome returns the same. -/
theorem SameOutcome.other {ρ α β : Type} {related : α → World σ → β → World τ → Prop} {result : ρ}
    {a : α} {world : World σ} {outcome' : ρ × β × World τ}
    (same : SameOutcome related (result, a, world) outcome') :
    ∃ b world', outcome' = (result, b, world') ∧ related a world b world' := by
  obtain ⟨_, still⟩ := same
  exact ⟨_, _, rfl, still⟩

theorem SameOutcome.mono {ρ α β : Type} {related related' : α → World σ → β → World τ → Prop}
    {outcome : ρ × α × World σ} {outcome' : ρ × β × World τ}
    (same : SameOutcome related outcome outcome')
    (weaker : ∀ {a world b world'}, related a world b world' → related' a world b world') :
    SameOutcome related' outcome outcome' := by
  obtain ⟨_, still⟩ := same
  exact .of _ (weaker still)

/-- Ends that return the same and leave behind what is related. -/
inductive SameEnd {ρ α β : Type} (gone : α → β → Prop) : ρ × α → ρ × β → Prop
  | of {a : α} {b : β} (result : ρ) (left : gone a b) : SameEnd gone (result, a) (result, b)

theorem SameEnd.result {ρ α β : Type} {gone : α → β → Prop} {outcome : ρ × α} {outcome' : ρ × β}
    (same : SameEnd gone outcome outcome') : outcome.1 = outcome'.1 := by
  cases same
  rfl

theorem SameEnd.left {ρ α β : Type} {gone : α → β → Prop} {outcome : ρ × α} {outcome' : ρ × β}
    (same : SameEnd gone outcome outcome') : gone outcome.2 outcome'.2 := by
  cases same
  assumption

theorem SameEnd.map {ρ ρ' α β : Type} {gone : α → β → Prop} {outcome : ρ × α} {outcome' : ρ × β}
    (same : SameEnd gone outcome outcome') (f : ρ → ρ') :
    SameEnd gone (f outcome.1, outcome.2) (f outcome'.1, outcome'.2) := by
  obtain ⟨result, left⟩ := same
  exact .of _ left

/-! ## Buffers -/

/-- What calls leave in output regions: nothing if they were refused, and else the same bytes on both
sides, which are all that was reported if the regions may differ. -/
inductive StoredAlike (differ : Prop) (output output' : View) (result : Except CodecError UInt32) :
    View → View → Prop
  | refused {e : CodecError} (failed : result = .error e) :
    StoredAlike differ output output' result output output'
  | written (bytes : Bytes) (reaches : differ → ∀ n, result = .ok n → n.toNat ≤ bytes.length) :
    StoredAlike differ output output' result (output.store bytes) (output'.store bytes)

/-- What is left in one and the same region is the same. -/
theorem StoredAlike.same {differ : Prop} {output view view' : View}
    {result : Except CodecError UInt32} (stored : StoredAlike differ output output result view view') :
    view = view' := by
  cases stored with
  | refused => rfl
  | written => rfl

/-- What calls leave in two regions of one size as a whole. -/
inductive StoredAlike.Whole (differ : Prop) (m m' : Memory) (result : Except CodecError UInt32) :
    Memory → Memory → Prop
  | refused {e : CodecError} (failed : result = .error e) : Whole differ m m' result m m'
  | written (bytes : Bytes)
    (reaches : differ → ∀ n, result = .ok n → min n.toNat m.size ≤ bytes.length) :
    Whole differ m m' result (m.write 0 bytes) (m'.write 0 bytes)

section Whole

variable {differ : Prop} {m m' last last' : Memory} {view view' : View}
  {result : Except CodecError UInt32}

theorem StoredAlike.whole (sizes : m.size = m'.size)
    (stored : StoredAlike differ (.whole m) (.whole m') result view view') :
    StoredAlike.Whole differ m m' result view.memory view'.memory := by
  cases stored with
  | refused failed => exact .refused failed
  | written bytes reaches =>
    change StoredAlike.Whole differ m m' result (m.write 0 (bytes.take m.size))
      (m'.write 0 (bytes.take m'.size))
    rw [← sizes]
    refine .written _ fun may n succeeded => ?_
    have reached := reaches may n succeeded
    rw [List.length_take]
    omega

namespace StoredAlike.Whole

theorem size (stored : Whole differ m m' result last last') (sizes : m.size = m'.size) :
    last.size = last'.size := by
  cases stored with
  | refused => exact sizes
  | written => exact sizes

theorem memory (stored : Whole differ m m' result last last') (memory : differ ∨ m = m') :
    differ ∨ last = last' := by
  cases stored with
  | refused => exact memory
  | written bytes => exact memory.imp_right fun same => by rw [same]

/-- What is reported stands in front of both. -/
theorem fronts (stored : Whole differ m m' result last last') (sizes : m.size = m'.size)
    (memory : differ ∨ m = m') {n : UInt32} (succeeded : result = .ok n) :
    last.read 0 n.toNat = last'.read 0 n.toNat := by
  cases stored with
  | refused failed => cases failed.symm.trans succeeded
  | written bytes reaches =>
    rcases memory with may | same
    · have reached := reaches may n succeeded
      rw [← Memory.read_min, ← Memory.read_min (m := m'.write 0 bytes), Memory.size_write,
        Memory.size_write, ← sizes, Memory.read_write_over reached,
        Memory.read_write_over reached, sizes]
    · rw [same]

/-- What the regions had in common they still have. -/
theorem common (stored : Whole differ m m' result last last') (sizes : m.size = m'.size)
    {offset n : Nat} (windows : m.read offset n = m'.read offset n) :
    last.read offset n = last'.read offset n := by
  cases stored with
  | refused => exact windows
  | written bytes => exact Memory.read_write_common sizes windows 0 bytes

end StoredAlike.Whole

end Whole

namespace Library.Likeness

/-- Buffers that belong together, whatever they hold. -/
structure Buffers (alike : library.Likeness library') (buffer buffer' : Scratch) : Prop where
  size : buffer.memory.size = buffer'.memory.size
  placed : alike.placed buffer.address? buffer'.address?

theorem Buffers.withMemory {buffer buffer' : Scratch} (buffers : alike.Buffers buffer buffer')
    {m m' : Memory} (size : m.size = m'.size) :
    alike.Buffers (buffer.withMemory m) (buffer'.withMemory m') where
  size := by simpa only [Scratch.memory_withMemory] using size
  placed := by simpa only [Scratch.address?_withMemory] using buffers.placed

end Library.Likeness

/-! ## Sessions -/

namespace Session

/-- Sessions on the two libraries that are alike. -/
structure Like (alike : library.Likeness library') (session : Session σ ι) (world : World σ)
    (session' : Session τ κ) (world' : World τ) : Prop where
  on : session.library = library
  on' : session'.library = library'
  like : alike.like session.record world session'.record world'

variable {session : Session σ ι} {world : World σ} {session' : Session τ κ} {world' : World τ}
  {input output output' : View}

/-- What calls leave behind, if it was the same call on output regions of one length. -/
structure ServedAlike (alike : library.Likeness library') (operation : Operation)
    (output output' : View) (served : Served σ ι) (served' : Served τ κ) : Prop where
  result : served.result = served'.result
  output : StoredAlike (alike.differ operation) output output' served.result served.output
    served'.output
  still : served.session.Like alike served.world served'.session served'.world

theorem Like.say (like : session.Like alike world session' world') {level : Nat}
    (positive : 0 < level) (text : String) :
    session.Like alike (world.say level text) session' (world'.say level text) :=
  ⟨like.on, like.on', alike.say like.like level text positive⟩

theorem Like.refuse (like : session.Like alike world session' world') (e : CodecError) :
    ServedAlike alike operation output output' ⟨.error e, session, output, world⟩
      ⟨.error e, session', output', world'⟩ :=
  ⟨rfl, .refused rfl, like⟩

theorem Like.accept (like : session.Like alike world session' world')
    {reply : CodecReply ι × σ} {reply' : CodecReply κ × τ}
    (replies : RepliesAlike alike.like (alike.differ operation) world world' reply reply') :
    ServedAlike alike operation output output' (session.accept operation output world reply)
      (session'.accept operation output' world' reply') where
  result := by simp only [Session.accept, replies.status, replies.reported]
  output := by
    simp only [Session.accept, ← replies.written]
    refine .written _ fun differ n succeeded => ?_
    cases failed : CodecError.ofStatus? operation reply.1.status with
    | some e => rw [failed] at succeeded; cases succeeded
    | none =>
      rw [failed] at succeeded
      rw [← Except.ok.inj succeeded]
      exact replies.reaches differ (CodecError.ofStatus?_eq_none_iff.1 failed)
  still := ⟨like.on, like.on', replies.like⟩

theorem Like.compress (like : session.Like alike world session' world') (input : View)
    (lengths : output.length = output'.length) :
    ServedAlike alike .compress output output' (session.compress input output world)
      (session'.compress input output' world') := by
  have same : Session.lengths input output "compressor output buffer" =
    Session.lengths input output' "compressor output buffer" := Session.lengths_congr rfl lengths _
  unfold Session.compress
  rw [same]
  cases Session.lengths input output' "compressor output buffer" with
  | error e => exact like.refuse e
  | ok both =>
    rw [like.on, like.on']
    exact like.accept (alike.compress like.like input.bytes both.2)

theorem Like.decompress (like : session.Like alike world session' world') (input : View)
    (lengths : output.length = output'.length) :
    ServedAlike alike .decompress output output' (session.decompress input output world)
      (session'.decompress input output' world') := by
  have same : Session.lengths input output "decompressor output buffer" =
    Session.lengths input output' "decompressor output buffer" :=
    Session.lengths_congr rfl lengths _
  unfold Session.decompress
  rw [same]
  cases Session.lengths input output' "decompressor output buffer" with
  | error e => exact like.refuse e
  | ok both =>
    rw [like.on, like.on']
    exact like.accept (alike.decompress like.like input.bytes both.2)

/-- What calls that return bytes leave behind. -/
structure ProducedAlike (alike : library.Likeness library') (produced : Produced σ ι)
    (produced' : Produced τ κ) : Prop where
  result : produced.result = produced'.result
  still : produced.session.Like alike produced.world produced'.session produced'.world

theorem ServedAlike.produced {served : Served σ ι} {served' : Served τ κ}
    (same : ServedAlike alike operation output output served served') :
    ProducedAlike alike (Session.produced served) (Session.produced served') := by
  refine ⟨?_, same.still⟩
  unfold Session.produced
  rw [same.result, same.output.same]

theorem Like.decompressBytes (like : session.Like alike world session' world') (input : Bytes)
    (max : Nat) :
    ProducedAlike alike (session.decompressBytes input max world)
      (session'.decompressBytes input max world') :=
  (like.decompress _ rfl).produced

end Session

/-- Asking for a bound. -/
theorem Library.Likeness.maxCompressedLength (alike : library.Likeness library')
    {record : SessionRecord ι} {record' : SessionRecord κ} {world : World σ} {world' : World τ}
    (like : alike.like record world record' world') (length : Nat) :
    ((library.maxCompressedLength length).runOn world).1 =
        ((library'.maxCompressedLength length).runOn world').1 ∧
      alike.like record ((library.maxCompressedLength length).runOn world).2
        record' ((library'.maxCompressedLength length).runOn world').2 := by
  unfold Library.maxCompressedLength
  rw [Act.runOn_of, Act.runOn_of]
  by_cases fits : length ≤ maxNativeLength
  · obtain ⟨same, still⟩ := alike.bound like (UInt32.ofNat length)
    rw [if_pos fits, if_pos fits]
    exact ⟨congrArg (Except.ok ∘ UInt32.toNat) same, still⟩
  · rw [if_neg fits, if_neg fits]
    exact ⟨rfl, like⟩

theorem Session.Like.compressBytes {session : Session σ ι} {world : World σ}
    {session' : Session τ κ} {world' : World τ} (like : session.Like alike world session' world')
    (input : Bytes) :
    ProducedAlike alike (session.compressBytes input world)
      (session'.compressBytes input world') := by
  unfold Session.compressBytes
  rw [like.on, like.on']
  have asked := alike.maxCompressedLength like.like input.length
  generalize (library.maxCompressedLength input.length).runOn world = answer,
    (library'.maxCompressedLength input.length).runOn world' = answer' at asked
  obtain ⟨result, later⟩ := answer
  obtain ⟨result', later'⟩ := answer'
  obtain ⟨rfl, still⟩ : result = result' ∧ _ := asked
  have like : session.Like alike later session' later' := ⟨like.on, like.on', still⟩
  cases result with
  | error e => exact ⟨rfl, like⟩
  | ok bound => exact (like.compress _ rfl).produced

/-! ## The ends of sessions and buffers -/

/-- What worlds are to each other, whatever ends: behind a program that stops, behind the end of a
session, and when buffers that belong together are given back. -/
structure Library.Likeness.Closes (alike : library.Likeness library')
    (gone : World σ → World τ → Prop) : Prop where
  stopped : ∀ {record world record' world'}, alike.like record world record' world' →
    gone world world'
  ended : ∀ {record world record' world'}, alike.like record world record' world' →
    gone (Session.close ⟨library, record⟩ world) (Session.close ⟨library', record'⟩ world')
  released : ∀ {buffer buffer' : Scratch} {world world'},
    alike.placed buffer.address? buffer'.address? → gone world world' →
    gone (buffer.release library world) (buffer'.release library' world')

/-- Nothing is asked of what is left behind. -/
theorem Library.Likeness.closes_any (alike : library.Likeness library') :
    alike.Closes fun _ _ => True :=
  ⟨fun _ => trivial, fun _ => trivial, fun _ _ => trivial⟩

/-- Sessions of which both are set up or none is come to the same end if their libraries do. -/
theorem Session.close_alike {session : Session σ ι} {world : World σ} {session' : Session τ κ}
    {world' : World τ} {gone : World σ → World τ → Prop}
    (setUp : session.isSetUp = session'.isSetUp) (still : gone world world')
    (say : ∀ {world world'}, gone world world' → ∀ level text, 0 < level →
      gone (world.say level text) (world'.say level text))
    (teardown : Option.Rel (fun teardown teardown' =>
        (teardown session.record world.native).1 = (teardown' session'.record world'.native).1 ∧
          gone { world with native := (teardown session.record world.native).2 }
            { world' with native := (teardown' session'.record world'.native).2 })
      session.library.entries.teardown session'.library.entries.teardown) :
    gone (session.close world) (session'.close world') := by
  unfold Session.close
  rw [← setUp]
  by_cases isSetUp : session.isSetUp
  · rw [if_pos isSetUp, if_pos isSetUp]
    generalize session.library.entries.teardown = ending,
      session'.library.entries.teardown = ending' at teardown ⊢
    cases teardown with
    | none => exact still
    | some ended =>
      obtain ⟨status, left⟩ := ended
      dsimp only
      rw [← status]
      cases CodecError.ofStatus? .teardown _ with
      | none => exact left
      | some e => exact say left 2 _ Nat.two_pos
  · rw [if_neg isSetUp, if_neg isSetUp]
    exact still

theorem Session.Like.close {session : Session σ ι} {world : World σ} {session' : Session τ κ}
    {world' : World τ} {gone : World σ → World τ → Prop}
    (like : session.Like alike world session' world') (closes : alike.Closes gone) :
    gone (session.close world) (session'.close world') := by
  obtain ⟨rfl, rfl, like⟩ := like
  exact closes.ended like

/-! ## Frame writers -/

namespace FrameWriter

structure Like (alike : library.Likeness library') (writer : FrameWriter σ ι) (world : World σ)
    (writer' : FrameWriter τ κ) (world' : World τ) : Prop where
  session : writer.session.Like alike world writer'.session world'
  sink : writer.sink = writer'.sink
  compressed : alike.Buffers writer.compressed writer'.compressed
  payload : alike.differ .compress ∨ writer.compressed.memory = writer'.compressed.memory
  failed : writer.failed = writer'.failed

variable {writer : FrameWriter σ ι} {world : World σ} {writer' : FrameWriter τ κ} {world' : World τ}

theorem Like.say (like : writer.Like alike world writer' world') {level : Nat}
    (positive : 0 < level) (text : String) :
    writer.Like alike (world.say level text) writer' (world'.say level text) :=
  ⟨like.session.say positive text, like.sink, like.compressed, like.payload, like.failed⟩

theorem Like.fail (like : writer.Like alike world writer' world') :
    ({ writer with failed := true } : FrameWriter σ ι).Like alike world
      { writer' with failed := true } world' :=
  ⟨like.session, like.sink, like.compressed, like.payload, rfl⟩

/-- Both have the same payload in front of their buffers, or fail in the same way. -/
theorem Like.compressBlock (like : writer.Like alike world writer' world') (block : Bytes) :
    SameOutcome (FrameWriter.Like alike) (writer.compressBlock block world)
        (writer'.compressBlock block world') ∧
      ∀ n, (writer.compressBlock block world).1 = .ok n →
        (writer.compressBlock block world).2.1.compressed.memory.read 0 n =
          (writer'.compressBlock block world').2.1.compressed.memory.read 0 n := by
  unfold FrameWriter.compressBlock
  have lengths : (View.whole writer.compressed.memory).length =
    (View.whole writer'.compressed.memory).length := like.compressed.size
  have same := like.session.compress (.whole (.ofBytes block)) lengths
  generalize writer.session.compress _ _ world = served,
    writer'.session.compress _ _ world' = served' at same
  obtain ⟨result, session, output, later⟩ := served
  obtain ⟨result', session', output', later'⟩ := served'
  obtain ⟨rfl : result = result', stored, still⟩ := same
  have stored := stored.whole like.compressed.size
  have coded : FrameWriter.Like alike
      { writer with session, compressed := writer.compressed.withMemory output.memory } later
      { writer' with
        session := session', compressed := writer'.compressed.withMemory output'.memory }
      later' := by
    refine ⟨still, like.sink, like.compressed.withMemory (stored.size like.compressed.size), ?_,
      like.failed⟩
    simpa only [Scratch.memory_withMemory] using stored.memory like.payload
  cases result with
  | error e => exact ⟨.of _ coded, nofun⟩
  | ok n =>
    refine ⟨.of _ coded, fun m succeeded => ?_⟩
    obtain rfl := Except.ok.inj succeeded
    simpa only [Scratch.memory_withMemory] using
      stored.fronts like.compressed.size like.payload rfl

theorem Like.emit (like : writer.Like alike world writer' world') {n : Nat}
    (fronts : writer.compressed.memory.read 0 n = writer'.compressed.memory.read 0 n) :
    (writer.emit n).1 = (writer'.emit n).1 ∧
      (writer.emit n).2.Like alike world (writer'.emit n).2 world' := by
  unfold FrameWriter.emit Scratch.size
  rw [← like.sink, ← like.compressed.size, ← fronts]
  rcases writer.sink.writeAll (Bytes.le32 n) with ⟨e | _, headed⟩
  · exact ⟨rfl, like.session, rfl, like.compressed, like.payload, rfl⟩
  · by_cases above : writer.compressed.memory.size < n
    · simp only [above, if_true]
      exact ⟨trivial, like.session, rfl, like.compressed, like.payload, like.failed⟩
    · simp only [above, if_false]
      rcases headed.writeAll (writer.compressed.memory.read 0 n) with ⟨e | _, sent⟩
      · exact ⟨rfl, like.session, rfl, like.compressed, like.payload, rfl⟩
      · exact ⟨rfl, like.session, rfl, like.compressed, like.payload, like.failed⟩

theorem Like.writeFrame (like : writer.Like alike world writer' world') (block : Bytes) :
    SameOutcome (FrameWriter.Like alike) (writer.writeFrame block world)
      (writer'.writeFrame block world') := by
  unfold FrameWriter.writeFrame
  have same := like.compressBlock block
  generalize writer.compressBlock block world = outcome,
    writer'.compressBlock block world' = outcome' at same ⊢
  obtain ⟨@⟨coded, _, coded', _, result, still⟩, fronts⟩ := same
  cases result with
  | error e => exact .of _ still.fail
  | ok n =>
    obtain ⟨emitted, last⟩ := still.emit (fronts n rfl)
    dsimp only
    generalize coded.emit n = outcome, coded'.emit n = outcome' at emitted last ⊢
    obtain ⟨result, next⟩ := outcome
    obtain ⟨result', next'⟩ := outcome'
    obtain rfl : result = result' := emitted
    exact .of _ (last.say (Nat.succ_pos _) _)

theorem Like.flushSink (like : writer.Like alike world writer' world') :
    writer.flushSink.1 = writer'.flushSink.1 ∧
      writer.flushSink.2.Like alike world writer'.flushSink.2 world' := by
  unfold FrameWriter.flushSink
  rw [← like.sink]
  rcases writer.sink.flush with ⟨e | _, flushed⟩
  · exact ⟨rfl, like.session, rfl, like.compressed, like.payload, like.failed⟩
  · exact ⟨rfl, like.session, rfl, like.compressed, like.payload, like.failed⟩

end FrameWriter

/-! ## Block writers -/

namespace BlockWriter

/-- Writers that hold the same bytes. Behind these their blocks may differ. -/
structure Like (alike : library.Likeness library') (writer : BlockWriter σ ι) (world : World σ)
    (writer' : BlockWriter τ κ) (world' : World τ) : Prop where
  frames : writer.toFrameWriter.Like alike world writer'.toFrameWriter world'
  block : alike.Buffers writer.block writer'.block
  filled : writer.filled = writer'.filled
  held : writer.block.memory.read 0 writer.filled = writer'.block.memory.read 0 writer.filled

variable {writer : BlockWriter σ ι} {world : World σ} {writer' : BlockWriter τ κ} {world' : World τ}

theorem Like.writeBlock (like : writer.Like alike world writer' world') :
    SameOutcome (BlockWriter.Like alike) (writer.writeBlock world) (writer'.writeBlock world') := by
  unfold BlockWriter.writeBlock
  rw [← like.frames.failed, ← like.filled, ← like.held]
  by_cases failed : writer.failed
  · rw [if_pos failed, if_pos failed]
    exact .of _ like
  · rw [if_neg failed, if_neg failed]
    by_cases empty : writer.filled = 0
    · rw [if_pos empty, if_pos empty]
      exact .of _ like
    · rw [if_neg empty, if_neg empty]
      have same := like.frames.writeFrame (writer.block.memory.read 0 writer.filled)
      generalize writer.writeFrame _ world = outcome,
        writer'.writeFrame _ world' = outcome' at same ⊢
      obtain ⟨result, still⟩ := same
      cases result with
      | ok _ =>
        refine .of _ ⟨still, like.block, rfl, ?_⟩
        rw [Memory.read_zero, Memory.read_zero]
      | error e => exact .of _ ⟨still, like.block, rfl, like.held⟩

theorem Like.put (like : writer.Like alike world writer' world') (piece : Bytes) :
    SameOutcome (BlockWriter.Like alike) (writer.put piece world) (writer'.put piece world') := by
  unfold BlockWriter.put
  rw [← like.filled]
  have filled : BlockWriter.Like alike
      { writer with
        block := writer.block.withMemory (writer.block.memory.write writer.filled piece)
        filled := writer.filled + piece.length } world
      { writer' with
        block := writer'.block.withMemory (writer'.block.memory.write writer.filled piece)
        filled := writer.filled + piece.length } world' := by
    refine ⟨like.frames, like.block.withMemory like.block.size, rfl, ?_⟩
    simpa only [Scratch.memory_withMemory] using
      Memory.read_write_behind like.block.size like.held piece
  unfold Scratch.size
  simp only [Scratch.memory_withMemory, Memory.size_write]
  rw [← like.block.size]
  by_cases full : writer.filled + piece.length = writer.block.memory.size
  · rw [if_pos full, if_pos full]
    exact filled.writeBlock
  · rw [if_neg full, if_neg full]
    exact .of _ filled

theorem Like.putAll (like : writer.Like alike world writer' world') (pieces : List Bytes) :
    SameOutcome (BlockWriter.Like alike) (writer.putAll pieces world)
      (writer'.putAll pieces world') := by
  induction pieces generalizing writer world writer' world' with
  | nil => exact .of _ like
  | cons piece pieces ih =>
    unfold BlockWriter.putAll
    have same := like.put piece
    generalize writer.put piece world = outcome, writer'.put piece world' = outcome' at same ⊢
    obtain ⟨result, still⟩ := same
    cases result with
    | ok _ => exact ih still
    | error e => exact .of _ still

theorem Like.write (like : writer.Like alike world writer' world') (bytes : Bytes) :
    SameOutcome (BlockWriter.Like alike) (writer.write bytes world)
      (writer'.write bytes world') := by
  unfold BlockWriter.write Scratch.size
  rw [← like.frames.failed, ← like.filled, ← like.block.size]
  by_cases failed : writer.failed
  · rw [if_pos failed, if_pos failed]
    exact .of _ like
  · rw [if_neg failed, if_neg failed]
    dsimp only
    have same := like.putAll (Bytes.pieces (writer.block.memory.size - writer.filled)
      writer.block.memory.size bytes)
    generalize writer.putAll _ world = outcome, writer'.putAll _ world' = outcome' at same ⊢
    obtain ⟨result, still⟩ := same
    cases result with
    | ok _ => exact .of _ still
    | error e => exact .of _ still

theorem Like.writeAll (like : writer.Like alike world writer' world') (bytes : Bytes) :
    SameOutcome (BlockWriter.Like alike) (writer.writeAll bytes world)
      (writer'.writeAll bytes world') := by
  unfold BlockWriter.writeAll
  by_cases empty : bytes = []
  · rw [if_pos empty, if_pos empty]
    exact .of _ like
  · rw [if_neg empty, if_neg empty]
    have same := like.write bytes
    generalize writer.write bytes world = outcome, writer'.write bytes world' = outcome' at same ⊢
    obtain ⟨result, still⟩ := same
    cases result with
    | ok _ => exact .of _ still
    | error e => exact .of _ still

theorem Like.flush (like : writer.Like alike world writer' world') :
    SameOutcome (BlockWriter.Like alike) (writer.flush world) (writer'.flush world') := by
  unfold BlockWriter.flush
  have same := like.writeBlock
  generalize writer.writeBlock world = outcome, writer'.writeBlock world' = outcome' at same ⊢
  obtain @⟨sent, _, sent', _, result, still⟩ := same
  cases result with
  | error e => exact .of _ still
  | ok _ =>
    obtain ⟨flushed, last⟩ := still.frames.flushSink
    dsimp only
    generalize sent.flushSink = outcome, sent'.flushSink = outcome' at flushed last ⊢
    obtain ⟨result, frames⟩ := outcome
    obtain ⟨result', frames'⟩ := outcome'
    obtain rfl : result = result' := flushed
    exact .of _ ⟨last, still.block, still.filled, still.held⟩

/-- A call of a writer. -/
theorem Like.perform (like : writer.Like alike world writer' world') (call : WriterCall) :
    SameOutcome (BlockWriter.Like alike) (writer.perform call world)
      (writer'.perform call world') := by
  cases call with
  | write bytes =>
    have same := like.write bytes
    unfold BlockWriter.perform
    dsimp only
    generalize writer.write bytes world = outcome, writer'.write bytes world' = outcome' at same ⊢
    obtain ⟨result, still⟩ := same
    cases result with
    | ok n => exact .of _ still
    | error e => exact .of _ still
  | writeAll bytes =>
    have same := like.writeAll bytes
    unfold BlockWriter.perform
    dsimp only
    generalize writer.writeAll bytes world = outcome,
      writer'.writeAll bytes world' = outcome' at same ⊢
    obtain ⟨result, still⟩ := same
    cases result with
    | ok n => exact .of _ still
    | error e => exact .of _ still
  | flush =>
    have same := like.flush
    unfold BlockWriter.perform
    dsimp only
    generalize writer.flush world = outcome, writer'.flush world' = outcome' at same ⊢
    obtain ⟨result, still⟩ := same
    cases result with
    | ok n => exact .of _ still
    | error e => exact .of _ still

/-! ## Ends of writers -/

section Ends

variable {gone : World σ → World τ → Prop} (closes : alike.Closes gone)
include closes

theorem Like.close (like : writer.Like alike world writer' world') :
    gone (writer.close world) (writer'.close world') := by
  have ended := like.frames.session.close closes
  unfold BlockWriter.close
  rw [like.frames.session.on, like.frames.session.on']
  exact closes.released like.frames.compressed.placed (closes.released like.block.placed ended)

theorem Like.discard (like : writer.Like alike world writer' world') :
    SameEnd gone (writer.discard world) (writer'.discard world') := by
  unfold BlockWriter.discard
  rw [← like.frames.failed]
  by_cases failed : writer.failed
  · rw [if_pos failed, if_pos failed, ← like.frames.sink]
    exact .of _ (like.close closes)
  · rw [if_neg failed, if_neg failed]
    have same := like.writeBlock
    generalize writer.writeBlock world = outcome, writer'.writeBlock world' = outcome' at same ⊢
    obtain ⟨result, still⟩ := same
    rcases result with (e | _) | _
    · dsimp only
      rw [← still.frames.sink]
      have said := still.frames.say Nat.two_pos
        ("qatcodec: dropping unfinished block stream: " ++ e.message ++ "\n")
      exact .of _ (Like.close closes ⟨said, still.block, still.filled, still.held⟩)
    · dsimp only
      rw [← still.frames.sink]
      exact .of _ (closes.stopped still.frames.session.like)
    · dsimp only
      rw [← still.frames.sink]
      exact .of _ (still.close closes)

theorem Like.discardAfter (like : writer.Like alike world writer' world')
    (failure : StreamFailure) :
    SameEnd gone (writer.discardAfter failure world) (writer'.discardAfter failure world') := by
  cases failure with
  | overrun =>
    unfold BlockWriter.discardAfter
    dsimp only
    rw [← like.frames.sink]
    exact .of _ (closes.stopped like.frames.session.like)
  | error e =>
    unfold BlockWriter.discardAfter
    have same := like.discard closes
    dsimp only
    generalize writer.discard world = outcome, writer'.discard world' = outcome' at same ⊢
    obtain ⟨closed, left⟩ := same
    obtain ⟨result, sink⟩ := closed
    cases result with
    | ok _ => exact .of _ left
    | error e => exact .of _ left

theorem Like.finish (like : writer.Like alike world writer' world') :
    SameEnd gone (writer.finish world) (writer'.finish world') := by
  unfold BlockWriter.finish
  have same := like.writeBlock
  generalize writer.writeBlock world = outcome, writer'.writeBlock world' = outcome' at same ⊢
  obtain @⟨sent, later, sent', later', result, still⟩ := same
  cases result with
  | error e => exact still.discardAfter closes e
  | ok _ =>
    obtain ⟨flushed, last⟩ := still.frames.flushSink
    dsimp only
    generalize sent.flushSink = outcome, sent'.flushSink = outcome' at flushed last ⊢
    obtain ⟨result, frames⟩ := outcome
    obtain ⟨result', frames'⟩ := outcome'
    obtain rfl : result = result' := flushed
    have still : BlockWriter.Like alike { sent with toFrameWriter := frames } later
      { sent' with toFrameWriter := frames' } later' :=
      ⟨last, still.block, still.filled, still.held⟩
    cases result with
    | error e => exact still.discardAfter closes e
    | ok _ =>
      dsimp only
      rw [← last.sink]
      exact .of _ (still.close closes)

/-- A writer that is dropped has its last block written as it would have been. -/
theorem Like.endWith (like : writer.Like alike world writer' world') (ending : WriterEnd) :
    SameEnd gone (writer.endWith ending world) (writer'.endWith ending world') := by
  cases ending with
  | finish => exact like.finish closes
  | drop =>
    have same := like.writeBlock
    have ended := like.discard closes
    unfold BlockWriter.endWith
    dsimp only
    generalize writer.writeBlock world = outcome, writer'.writeBlock world' = outcome',
      writer.discard world = last, writer'.discard world' = last' at same ended ⊢
    obtain ⟨result, -⟩ := same
    obtain ⟨closed, left⟩ := ended
    exact .of _ left

end Ends

end BlockWriter

end OffloadCodec

import OffloadCodec.Proofs.Likeness.Writing
import OffloadCodec.Proofs.Stream.Creation
import OffloadCodec.Proofs.Stream.ReadingOut

/-!
# Readers on libraries that look alike

Readers of the same source return the same as long as their libraries look alike. Passing over empty
blocks, and reading to the end, are followed along the recursion of the one reader; the other goes
the same way.

Making a reader or a writer asks the library for a bound and for memory, and both are answered
alike, so what is made is alike, or is refused with the same error.
-/

namespace OffloadCodec

variable {σ ι τ κ : Type} {library : Library σ ι} {library' : Library τ κ}
  {alike : library.Likeness library'}

/-! ## Block readers -/

namespace BlockReader

/-- Readers that serve the same bytes. Around these their blocks may differ. -/
structure Like (alike : library.Likeness library') (reader : BlockReader σ ι) (world : World σ)
    (reader' : BlockReader τ κ) (world' : World τ) : Prop where
  session : reader.session.Like alike world reader'.session world'
  source : reader.source = reader'.source
  compressed : alike.Buffers reader.compressed reader'.compressed
  block : alike.Buffers reader.block reader'.block
  restored : alike.differ .decompress ∨ reader.block.memory = reader'.block.memory
  pos : reader.pos = reader'.pos
  filled : reader.filled = reader'.filled
  serving : reader.block.memory.read reader.pos (reader.filled - reader.pos) =
    reader'.block.memory.read reader.pos (reader.filled - reader.pos)

variable {reader : BlockReader σ ι} {world : World σ} {reader' : BlockReader τ κ} {world' : World τ}

theorem Like.nextLength (like : reader.Like alike world reader' world') :
    reader.nextLength.1 = reader'.nextLength.1 ∧
      reader.nextLength.2.Like alike world reader'.nextLength.2 world' := by
  unfold BlockReader.nextLength
  rw [← like.source]
  have behind : ∀ source : Source, BlockReader.Like alike { reader with source } world
      { reader' with source } world' := fun _ =>
    ⟨like.session, rfl, like.compressed, like.block, like.restored, like.pos, like.filled,
      like.serving⟩
  generalize reader.source.pull Frame.headerLength = pulled
  dsimp only
  rcases pulled.error? with _ | e
  · dsimp only
    by_cases ended : pulled.bytes.length = 0
    · rw [if_pos ended, if_pos ended]
      exact ⟨rfl, behind _⟩
    · rw [if_neg ended, if_neg ended]
      by_cases whole : pulled.bytes.length = Frame.headerLength
      · rw [if_pos whole, if_pos whole]
        exact ⟨rfl, behind _⟩
      · rw [if_neg whole, if_neg whole]
        exact ⟨rfl, behind _⟩
  · exact ⟨rfl, behind _⟩

/-- Both have the same payload in front of their buffers, or fail in the same way. -/
theorem Like.loadPayload (like : reader.Like alike world reader' world') (n : Nat) :
    ((reader.loadPayload n).1 = (reader'.loadPayload n).1 ∧
      (reader.loadPayload n).2.Like alike world (reader'.loadPayload n).2 world') ∧
      ((reader.loadPayload n).1 = .ok () →
        (reader.loadPayload n).2.compressed.memory.read 0 n =
          (reader'.loadPayload n).2.compressed.memory.read 0 n) := by
  unfold BlockReader.loadPayload
  rw [← like.source]
  have behind : ∀ (source : Source) (bytes : Bytes), BlockReader.Like alike
      { reader with
        source
        compressed := reader.compressed.withMemory (reader.compressed.memory.write 0 bytes) } world
      { reader' with
        source
        compressed := reader'.compressed.withMemory (reader'.compressed.memory.write 0 bytes) }
      world' := fun _ bytes =>
    ⟨like.session, rfl, like.compressed.withMemory like.compressed.size, like.block, like.restored,
      like.pos, like.filled, like.serving⟩
  generalize reader.source.pull n = pulled
  dsimp only
  rcases pulled.error? with _ | e
  · dsimp only
    by_cases short : pulled.bytes.length < n
    · rw [if_pos short, if_pos short]
      exact ⟨⟨rfl, behind _ _⟩, nofun⟩
    · rw [if_neg short, if_neg short]
      refine ⟨⟨rfl, behind _ _⟩, fun _ => ?_⟩
      have reaches := Nat.le_of_not_lt short
      dsimp only
      rw [Scratch.memory_withMemory, Scratch.memory_withMemory, Memory.read_write_over reaches,
        Memory.read_write_over reaches, like.compressed.size]
  · exact ⟨⟨rfl, behind _ _⟩, nofun⟩

theorem Like.decompressBlock (like : reader.Like alike world reader' world') {n : Nat}
    (fronts : reader.compressed.memory.read 0 n = reader'.compressed.memory.read 0 n) :
    SameOutcome (BlockReader.Like alike) (reader.decompressBlock n world)
      (reader'.decompressBlock n world') := by
  unfold BlockReader.decompressBlock
  rw [← fronts]
  have lengths : (View.whole reader.block.memory).length =
    (View.whole reader'.block.memory).length := like.block.size
  have same := like.session.decompress
    (.whole (.ofBytes (reader.compressed.memory.read 0 n))) lengths
  dsimp only
  generalize reader.session.decompress _ _ world = served,
    reader'.session.decompress _ _ world' = served' at same
  obtain ⟨result, session, output, later⟩ := served
  obtain ⟨result', session', output', later'⟩ := served'
  obtain ⟨rfl : result = result', stored, still⟩ := same
  have stored := stored.whole like.block.size
  have buffers := like.block.withMemory (stored.size like.block.size)
  have restored := stored.memory like.restored
  cases result with
  | ok n =>
    refine .of _ ⟨still, like.source, like.compressed, buffers, ?_, rfl, rfl, ?_⟩
    · simpa only [Scratch.memory_withMemory] using restored
    · simpa only [Scratch.memory_withMemory, Nat.sub_zero] using
        stored.fronts like.block.size like.restored rfl
  | error e =>
    refine .of _ ⟨still, like.source, like.compressed, buffers, ?_, like.pos, like.filled, ?_⟩
    · simpa only [Scratch.memory_withMemory] using restored
    · simpa only [Scratch.memory_withMemory] using stored.common like.block.size like.serving

theorem Like.fillBlock (like : reader.Like alike world reader' world') :
    SameOutcome (BlockReader.Like alike) (reader.fillBlock world) (reader'.fillBlock world') := by
  unfold BlockReader.fillBlock
  obtain ⟨announced, headed⟩ := like.nextLength
  generalize reader.nextLength = outcome, reader'.nextLength = outcome' at announced headed ⊢
  obtain ⟨result, loaded⟩ := outcome
  obtain ⟨result', loaded'⟩ := outcome'
  obtain rfl : result = result' := announced
  rcases result with e | (_ | n)
  · exact .of _ headed
  · exact .of _ headed
  · unfold Scratch.size
    dsimp only at headed ⊢
    rw [← headed.compressed.size]
    by_cases outside : n = 0 ∨ loaded.compressed.memory.size < n
    · rw [if_pos outside, if_pos outside]
      exact .of _ headed
    · rw [if_neg outside, if_neg outside]
      obtain ⟨⟨read, paid⟩, fronts⟩ := headed.loadPayload n
      generalize loaded.loadPayload n = outcome,
        loaded'.loadPayload n = outcome' at read paid fronts ⊢
      obtain ⟨result, ready⟩ := outcome
      obtain ⟨result', ready'⟩ := outcome'
      obtain rfl : result = result' := read
      cases result with
      | error e => exact .of _ paid
      | ok _ =>
        have same := paid.decompressBlock (fronts rfl)
        dsimp only at same ⊢
        generalize ready.decompressBlock n world = outcome,
          ready'.decompressBlock n world' = outcome' at same ⊢
        obtain ⟨result, still⟩ := same
        cases result with
        | error e => exact .of _ still
        | ok _ => exact .of _ still

/-- A block to serve, or loading the next one. -/
theorem refill_eq (reader : BlockReader σ ι) (world : World σ) :
    reader.refill world =
      if reader.pos = reader.filled then
        match reader.fillBlock world with
        | (.error e, reader, world) => (.error e, reader, world)
        | (.ok false, reader, world) => (.ok false, reader, world)
        | (.ok true, reader, world) => reader.refill world
      else (.ok true, reader, world) := by
  rw [BlockReader.refill]
  split
  · split
    · next filling => rw [filling]
    · next filling => rw [filling]
    · next filling => rw [filling]
  · rfl

/-- Both pass over the same blocks. -/
theorem Like.refill (like : reader.Like alike world reader' world') :
    SameOutcome (BlockReader.Like alike) (reader.refill world) (reader'.refill world') := by
  have positions : reader.pos = reader.filled ↔ reader'.pos = reader'.filled := by
    rw [like.pos, like.filled]
  rw [reader'.refill_eq]
  fun_induction BlockReader.refill reader world generalizing reader' world' with
  | case1 reader world served e filled after filling =>
    obtain ⟨_, _, other, still⟩ := (filling ▸ like.fillBlock).other
    rw [if_pos (positions.1 served), other]
    exact .of _ still
  | case2 reader world served filled after filling =>
    obtain ⟨_, _, other, still⟩ := (filling ▸ like.fillBlock).other
    rw [if_pos (positions.1 served), other]
    exact .of _ still
  | case3 reader world served filled after filling ih =>
    obtain ⟨filled', after', other, still⟩ := (filling ▸ like.fillBlock).other
    rw [if_pos (positions.1 served), other]
    dsimp only
    rw [filled'.refill_eq]
    exact ih still (by rw [still.pos, still.filled])
  | case4 reader world serving =>
    rw [if_neg (mt positions.2 serving)]
    exact .of _ like

theorem Like.serve (like : reader.Like alike world reader' world') (n : Nat) :
    (reader.serve n).1 = (reader'.serve n).1 ∧
      (reader.serve n).2.Like alike world (reader'.serve n).2 world' := by
  unfold BlockReader.serve Scratch.size
  rw [← like.pos, ← like.filled, ← like.block.size]
  dsimp only
  by_cases beyond : reader.block.memory.size < reader.pos + min n (reader.filled - reader.pos)
  · rw [if_pos beyond, if_pos beyond]
    exact ⟨rfl, like⟩
  · rw [if_neg beyond, if_neg beyond]
    have served : reader.block.memory.read reader.pos (min n (reader.filled - reader.pos)) =
        reader'.block.memory.read reader.pos (min n (reader.filled - reader.pos)) := by
      rw [← Memory.take_read, like.serving, Memory.take_read]
    refine ⟨congrArg _ served, like.session, like.source, like.compressed, like.block, like.restored,
      rfl, rfl, ?_⟩
    dsimp only
    rw [← Nat.sub_sub, ← Memory.drop_read, like.serving, Memory.drop_read]

theorem Like.read (like : reader.Like alike world reader' world') (n : Nat) :
    SameOutcome (BlockReader.Like alike) (reader.read n world) (reader'.read n world') := by
  unfold BlockReader.read
  by_cases nothing : n = 0
  · rw [if_pos nothing, if_pos nothing]
    exact .of _ like
  · rw [if_neg nothing, if_neg nothing]
    have same := like.refill
    generalize reader.refill world = outcome, reader'.refill world' = outcome' at same ⊢
    obtain @⟨ready, later, ready', later', result, still⟩ := same
    rcases result with e | (_ | _)
    · exact .of _ still
    · exact .of _ still
    · obtain ⟨answered, last⟩ := still.serve n
      dsimp only
      generalize ready.serve n = outcome, ready'.serve n = outcome' at answered last ⊢
      obtain ⟨result, next⟩ := outcome
      obtain ⟨result', next'⟩ := outcome'
      obtain rfl : result = result' := answered
      exact .of _ last

theorem Like.readExact (like : reader.Like alike world reader' world') (n : Nat) :
    SameOutcome (BlockReader.Like alike) (reader.readExact n world)
      (reader'.readExact n world') := by
  induction n using Nat.strongRecOn generalizing reader world reader' world' with
  | _ n ih =>
    rw [BlockReader.readExact, BlockReader.readExact]
    by_cases nothing : n = 0
    · rw [dif_pos nothing, dif_pos nothing]
      exact .of _ like
    · rw [dif_neg nothing, dif_neg nothing]
      have same := like.read n
      generalize reader.read n world = outcome, reader'.read n world' = outcome' at same ⊢
      obtain @⟨next, later, next', later', result, still⟩ := same
      cases result with
      | error e => exact .of _ still
      | ok bytes =>
        dsimp only
        by_cases ended : bytes.length = 0
        · rw [dif_pos ended, dif_pos ended]
          exact .of _ still
        · rw [dif_neg ended, dif_neg ended]
          have rest := ih (n - bytes.length) (by omega) still
          generalize next.readExact _ later = outcome,
            next'.readExact _ later' = outcome' at rest ⊢
          obtain ⟨result, last⟩ := rest
          cases result with
          | error e => exact .of _ last
          | ok more => exact .of _ last

/-- Reading to the end, one read after the other. -/
theorem readToEnd_eq (reader : BlockReader σ ι) (world : World σ) :
    reader.readToEnd world =
      match reader.read maxNativeLength world with
      | (.error e, reader, world) => ([], .error e, reader, world)
      | (.ok bytes, reader, world) =>
        if bytes = [] then ([], .ok (), reader, world)
        else (bytes ++ (reader.readToEnd world).1, (reader.readToEnd world).2) := by
  rw [BlockReader.readToEnd]
  split
  · next reading => rw [reading]
  · next reading =>
    rw [reading]
    dsimp only
    split
    · rfl
    · rfl

/-- Both read to the end in the same pieces. -/
theorem Like.readToEnd (like : reader.Like alike world reader' world') :
    (reader.readToEnd world).1 = (reader'.readToEnd world').1 ∧
      SameOutcome (BlockReader.Like alike) (reader.readToEnd world).2
        (reader'.readToEnd world').2 := by
  fun_induction BlockReader.readToEnd reader world generalizing reader' world' with
  | case1 reader world e next later reading =>
    obtain ⟨_, _, other, still⟩ := (reading ▸ like.read maxNativeLength).other
    rw [reader'.readToEnd_eq, other]
    exact ⟨rfl, .of _ still⟩
  | case2 reader world next later reading =>
    obtain ⟨_, _, other, still⟩ := (reading ▸ like.read maxNativeLength).other
    rw [reader'.readToEnd_eq, other]
    exact ⟨rfl, .of _ still⟩
  | case3 reader world bytes next later reading more data result rest ih =>
    obtain ⟨next', later', other, still⟩ := (reading ▸ like.read maxNativeLength).other
    obtain ⟨same, last⟩ := ih still
    rw [rest] at same last
    rw [reader'.readToEnd_eq, other]
    dsimp only at same last ⊢
    rw [if_neg more, ← same]
    exact ⟨rfl, last⟩

/-- The end of a reader. -/
theorem Like.close {gone : World σ → World τ → Prop} (closes : alike.Closes gone)
    (like : reader.Like alike world reader' world') :
    gone (reader.close world) (reader'.close world') := by
  have ended := like.session.close closes
  unfold BlockReader.close
  rw [like.session.on, like.session.on']
  exact closes.released like.block.placed (closes.released like.compressed.placed ended)

end BlockReader

/-! ## Making readers and writers -/

/-- Outcomes of making something: what was made is related, and so are the worlds, or it failed with
the same error and left worlds behind that are. -/
inductive SameMade {ε α β : Type} (worlds gone : World σ → World τ → Prop) (made : α → β → Prop) :
    Except ε α × World σ → Except ε β × World τ → Prop
  | ok {a : α} {world : World σ} {b : β} {world' : World τ} (same : made a b)
    (still : worlds world world') : SameMade worlds gone made (.ok a, world) (.ok b, world')
  | error {world : World σ} {world' : World τ} (e : ε) (left : gone world world') :
    SameMade worlds gone made (.error e, world) (.error e, world')

namespace Act

variable {ε α β γ δ : Type} {worlds gone : World σ → World τ → Prop} {made : α → β → Prop}
  {finished : γ → δ → Prop}

/-- From related worlds both operations make what is related, or fail with the same error. -/
def MakeAlike (worlds gone : World σ → World τ → Prop) (made : α → β → Prop) (act : Act σ ε α)
    (act' : Act τ ε β) : Prop :=
  ∀ world world', worlds world world' →
    SameMade worlds gone made (act.runOn world) (act'.runOn world')

theorem makeAlike_pure {a : α} {b : β} (same : made a b) :
    MakeAlike worlds gone made (pure a : Act σ ε α) (pure b : Act τ ε β) :=
  fun _ _ like => .ok same like

theorem makeAlike_throw (stops : ∀ world world', worlds world world' → gone world world') (e : ε) :
    MakeAlike worlds gone made (throw e : Act σ ε α) (throw e : Act τ ε β) :=
  fun _ _ like => .error e (stops _ _ like)

theorem MakeAlike.bind {act : Act σ ε α} {act' : Act τ ε β} {next : α → Act σ ε γ}
    {next' : β → Act τ ε δ} (first : MakeAlike worlds gone made act act')
    (rest : ∀ a b, made a b → MakeAlike worlds gone finished (next a) (next' b)) :
    MakeAlike worlds gone finished (act >>= next) (act' >>= next') := by
  intro world world' like
  rw [runOn_bind, runOn_bind]
  have same := first world world' like
  generalize act.runOn world = outcome, act'.runOn world' = outcome' at same ⊢
  cases same with
  | ok same still => exact rest _ _ same _ _ still
  | error e left => exact .error e left

/-- The same for worlds that are related in another way, and for less that is asked of what is
made. -/
theorem MakeAlike.mono {worlds' : World σ → World τ → Prop} {made' : α → β → Prop}
    {act : Act σ ε α} {act' : Act τ ε β} (same : MakeAlike worlds gone made act act')
    (here : ∀ {world world'}, worlds world world' ↔ worlds' world world')
    (weaker : ∀ {a b}, made a b → made' a b) : MakeAlike worlds' gone made' act act' := by
  intro world world' like
  have same := same world world' (here.2 like)
  generalize act.runOn world = outcome, act'.runOn world' = outcome' at same ⊢
  cases same with
  | ok same still => exact .ok (weaker same) (here.1 still)
  | error e left => exact .error e left

theorem MakeAlike.mapError {ε' : Type} {act : Act σ ε α} {act' : Act τ ε β}
    (same : MakeAlike worlds gone made act act') (f : ε → ε') :
    MakeAlike worlds gone made (act.mapError f) (act'.mapError f) := by
  intro world world' like
  unfold Act.mapError
  rw [runOn_of, runOn_of]
  have same := same world world' like
  generalize act.runOn world = outcome, act'.runOn world' = outcome' at same ⊢
  cases same with
  | ok same still => exact .ok same still
  | error e left => exact .error _ left

end Act

namespace Library.Likeness

/-- Worlds in which a session that is new is alike. -/
def Fresh (alike : library.Likeness library') (world : World σ) (world' : World τ) : Prop :=
  alike.like {} world {} world'

/-- Buffers that have just been obtained for the same purpose. -/
structure NewBuffers (alike : library.Likeness library') (buffer buffer' : Scratch) : Prop where
  placed : alike.placed buffer.address? buffer'.address?
  memory : buffer.memory = buffer'.memory

theorem NewBuffers.buffers {buffer buffer' : Scratch} (new : alike.NewBuffers buffer buffer') :
    alike.Buffers buffer buffer' :=
  ⟨congrArg Memory.size new.memory, new.placed⟩

/-- Both libraries grant memory for new objects, or both refuse it. -/
structure Allocates (alike : library.Likeness library') : Prop where
  granted : ∀ {world world'}, alike.Fresh world world' → ∀ size numa pinned,
    (library.entries.malloc size numa pinned world.native).1.isSome =
      (library'.entries.malloc size numa pinned world'.native).1.isSome
  placed : ∀ {world world'}, alike.Fresh world world' → ∀ size numa pinned,
    alike.placed (library.entries.malloc size numa pinned world.native).1
      (library'.entries.malloc size numa pinned world'.native).1
  still : ∀ {world world'}, alike.Fresh world world' → ∀ size numa pinned,
    alike.Fresh { world with native := (library.entries.malloc size numa pinned world.native).2 }
      { world' with native := (library'.entries.malloc size numa pinned world'.native).2 }

section Making

variable {gone : World σ → World τ → Prop} (closes : alike.Closes gone)
include closes

theorem Closes.makeAlike_blockBound (size : Nat) :
    Act.MakeAlike alike.Fresh gone Eq (library.blockBound size) (library'.blockBound size) := by
  unfold Library.blockBound
  by_cases usable : StreamOptions.isUsable size
  · rw [if_pos usable, if_pos usable]
    refine Act.MakeAlike.mapError ?_ _
    intro world world' like
    obtain ⟨same, still⟩ := alike.maxCompressedLength like size
    generalize (library.maxCompressedLength size).runOn world = answer,
      (library'.maxCompressedLength size).runOn world' = answer' at same still ⊢
    obtain ⟨result, later⟩ := answer
    obtain ⟨result', later'⟩ := answer'
    obtain rfl : result = result' := same
    cases result with
    | ok bound => exact .ok rfl still
    | error e => exact .error e (closes.stopped still)
  · rw [if_neg usable, if_neg usable]
    exact Act.makeAlike_throw (fun _ _ like => closes.stopped like) _

variable (allocates : alike.Allocates)
include allocates

theorem Closes.makeAlike_native (size : Nat) (numa pinned : Bool) :
    Act.MakeAlike alike.Fresh gone
      (fun buffer buffer' => alike.NewBuffers (.native buffer) (.native buffer'))
      (NativeBuffer.allocate library size numa pinned)
      (NativeBuffer.allocate library' size numa pinned) := by
  intro world world' like
  unfold NativeBuffer.allocate
  rw [Act.runOn_of, Act.runOn_of]
  by_cases nothing : size = 0
  · rw [if_pos nothing, if_pos nothing]
    exact .error _ (closes.stopped like)
  · rw [if_neg nothing, if_neg nothing]
    have granted := allocates.granted like size numa pinned
    have placed := allocates.placed like size numa pinned
    have still := allocates.still like size numa pinned
    generalize library.entries.malloc size numa pinned world.native = reply,
      library'.entries.malloc size numa pinned world'.native = reply' at granted placed still ⊢
    obtain ⟨address?, native⟩ := reply
    obtain ⟨address?', native'⟩ := reply'
    cases address? with
    | none =>
      obtain rfl : address?' = none :=
        Option.isNone_iff_eq_none.1 (Option.isSome_eq_false_iff.1 granted.symm)
      exact .error _ (closes.stopped still)
    | some address =>
      obtain ⟨address', rfl⟩ := Option.isSome_iff_exists.1 granted.symm
      exact .ok ⟨placed, rfl⟩ still

theorem Closes.makeAlike_allocate (size : Nat) (prefs : BufferPrefs) :
    Act.MakeAlike alike.Fresh gone alike.NewBuffers
      (Scratch.allocate library size prefs) (Scratch.allocate library' size prefs) := by
  unfold Scratch.allocate
  by_cases native : prefs.useNative
  · rw [if_pos native, if_pos native]
    exact (closes.makeAlike_native allocates size prefs.numa prefs.forcePinned).bind
      fun _ _ same => Act.makeAlike_pure same
  · rw [if_neg native, if_neg native]
    exact Act.makeAlike_pure ⟨alike.heap, rfl⟩

theorem Closes.makeAlike_allocatePair (first second : Nat) (prefs : BufferPrefs) :
    Act.MakeAlike alike.Fresh gone
      (fun pair pair' => alike.NewBuffers pair.1 pair'.1 ∧ alike.NewBuffers pair.2 pair'.2)
      (Scratch.allocatePair library first second prefs)
      (Scratch.allocatePair library' first second prefs) := by
  unfold Scratch.allocatePair
  refine (closes.makeAlike_allocate allocates first prefs).bind fun one one' same => ?_
  intro world world' like
  rw [Act.runOn_of, Act.runOn_of]
  have other := closes.makeAlike_allocate allocates second prefs world world' like
  generalize (Scratch.allocate library second prefs).runOn world = outcome,
    (Scratch.allocate library' second prefs).runOn world' = outcome' at other ⊢
  cases other with
  | ok other still => exact .ok ⟨same, other⟩ still
  | error e left => exact .error e (closes.released same.placed left)

/-- A new writer is alike wherever a new session is. -/
theorem Closes.makeAlike_writer (sink : Sink) (options : StreamOptions) :
    Act.MakeAlike alike.Fresh gone
      (fun writer writer' => ∀ world world', alike.Fresh world world' →
        BlockWriter.Like alike writer world writer' world')
      (BlockWriter.create library sink options) (BlockWriter.create library' sink options) := by
  unfold BlockWriter.create
  refine (closes.makeAlike_blockBound options.blockSize).bind fun bound _ same => ?_
  subst same
  refine ((closes.makeAlike_allocatePair allocates options.blockSize bound
    options.buffers).mapError _).bind fun pair pair' same =>
      Act.makeAlike_pure fun world world' like => ?_
  obtain ⟨block, compressed⟩ := same
  refine ⟨⟨⟨rfl, rfl, like⟩, rfl, compressed.buffers, .inr compressed.memory, rfl⟩, block.buffers,
    rfl, ?_⟩
  rw [Memory.read_zero, Memory.read_zero]

/-- A new reader is alike wherever a new session is. -/
theorem Closes.makeAlike_reader (source : Source) (options : StreamOptions) :
    Act.MakeAlike alike.Fresh gone
      (fun reader reader' => ∀ world world', alike.Fresh world world' →
        BlockReader.Like alike reader world reader' world')
      (BlockReader.create library source options)
      (BlockReader.create library' source options) := by
  unfold BlockReader.create
  refine (closes.makeAlike_blockBound options.blockSize).bind fun bound _ same => ?_
  subst same
  refine ((closes.makeAlike_allocatePair allocates bound options.blockSize
    options.buffers).mapError _).bind fun pair pair' same =>
      Act.makeAlike_pure fun world world' like => ?_
  obtain ⟨compressed, block⟩ := same
  refine ⟨⟨rfl, rfl, like⟩, rfl, compressed.buffers, block.buffers, .inr block.memory, rfl, rfl, ?_⟩
  rw [Nat.sub_zero, Memory.read_zero, Memory.read_zero]

end Making

end Library.Likeness

end OffloadCodec

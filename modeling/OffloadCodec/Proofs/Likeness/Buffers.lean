import OffloadCodec.Proofs.Calls.Logged
import OffloadCodec.Proofs.Levels.Uses

/-!
# Working buffers are interchangeable

Readers and writers may have their working buffers on the heap or from the library's allocator. As
far as the library keeps its allocations apart from all else (`EntryPoints.AllocatesApart`) that
makes no difference: they return the same, the same bytes arrive, and the library is called in the
same order with the same arguments, but for the calls for memory themselves
(`Library.buffers_interchangeable`). To that end the library with a log is compared with itself
(`EntryPoints.AllocatesApart.likeness`).

Nor does it matter what the buffers hold. Bytes that a writer has taken in stand in front of its
first buffer, a payload is read into the front of a reader's, and neither looks behind that. The
output of a codec call is looked at as far as the call reports, so there it takes a library that has
written as far.
-/

namespace OffloadCodec

variable {σ ι : Type}

/-! ## What is left but for memory -/

/-- Worlds that differ in no more than what memory was obtained and given back. -/
structure World.SameButMemory (same : σ → σ → Prop) (world world' : World (Logged σ ι)) : Prop where
  native : same world.native.native world'.native.native
  calls : world.native.calls.filter (!·.isForMemory) =
    world'.native.calls.filter (!·.isForMemory)
  applied : world.applied = world'.applied
  console : world.console = world'.console
  files : world.files = world'.files
  environment : world.environment = world'.environment

namespace World.SameButMemory

variable {entries : EntryPoints σ ι} {same : σ → σ → Prop} {world world' world'' : World (Logged σ ι)}
  {call : LibraryCall ι}

theorem symm (apart : entries.AllocatesApart same) (alike : world.SameButMemory same world') :
    world'.SameButMemory same world :=
  ⟨apart.symm alike.native, alike.calls.symm, alike.applied.symm, alike.console.symm,
    alike.files.symm, alike.environment.symm⟩

theorem trans (apart : entries.AllocatesApart same) (alike : world.SameButMemory same world')
    (other : world'.SameButMemory same world'') : world.SameButMemory same world'' :=
  ⟨apart.trans alike.native other.native, alike.calls.trans other.calls,
    alike.applied.trans other.applied, alike.console.trans other.console,
    alike.files.trans other.files, alike.environment.trans other.environment⟩

theorem say (alike : world.SameButMemory same world') (level : Nat) (text : String) :
    (world.say level text).SameButMemory same (world'.say level text) :=
  ⟨alike.native, alike.calls, alike.applied, by rw [World.say, World.say, alike.console],
    alike.files, alike.environment⟩

/-- The same call on both sides. -/
theorem both (alike : world.SameButMemory same world')
    (leaves : same (call.leaves entries world.native.native)
      (call.leaves entries world'.native.native)) :
    ({ world with native := world.native.after entries call } : World _).SameButMemory same
      { world' with native := world'.native.after entries call } := by
  refine ⟨leaves, ?_, alike.applied, alike.console, alike.files, alike.environment⟩
  rw [Logged.after, Logged.after, List.filter_append, List.filter_append, alike.calls]

/-- A call for memory on one side only. -/
theorem left (alike : world.SameButMemory same world') (memory : call.isForMemory = true)
    (leaves : same (call.leaves entries world.native.native) world'.native.native) :
    ({ world with native := world.native.after entries call } : World _).SameButMemory same
      world' := by
  refine ⟨leaves, ?_, alike.applied, alike.console, alike.files, alike.environment⟩
  have skipped : [call].filter (!·.isForMemory) = [] := by
    rw [List.filter_cons_of_neg (by rw [memory]; decide), List.filter_nil]
  rw [Logged.after, List.filter_append, skipped, List.append_nil, alike.calls]

end World.SameButMemory

/-! ## The library beside itself -/

namespace EntryPoints.AllocatesApart

variable {library : Library σ ι} {same : σ → σ → Prop} (apart : library.entries.AllocatesApart same)
  {world world' : World (Logged σ ι)}

/-- What a reader or writer uses of the library looks the same on both sides. -/
def likeness (apart : library.entries.AllocatesApart same) :
    library.logged.Likeness library.logged where
  like record world record' world' := record = record' ∧ world.SameButMemory same world'
  placed _ _ := True
  differ := library.entries.WritesReported fun native => same native native
  heap := trivial
  totals like := by rw [like.1]
  say like level text _ := ⟨like.1, like.2.say level text⟩
  compress {record world record' world'} like input capacity := by
    obtain ⟨rfl, like⟩ := like
    obtain ⟨replies, leaves⟩ := apart.compress record input capacity like.native
    have self := apart.trans like.native (apart.symm like.native)
    exact ⟨congrArg CodecReply.status replies, congrArg CodecReply.reported replies,
      congrArg CodecReply.written replies, fun writes => writes record input capacity _ self,
      congrArg CodecReply.record replies, like.both leaves⟩
  decompress {record world record' world'} like input capacity := by
    obtain ⟨rfl, like⟩ := like
    obtain ⟨replies, leaves⟩ := apart.decompress record input capacity like.native
    have self := apart.trans like.native (apart.symm like.native)
    exact ⟨congrArg CodecReply.status replies, congrArg CodecReply.reported replies,
      congrArg CodecReply.written replies, fun writes => writes record input capacity _ self,
      congrArg CodecReply.record replies, like.both leaves⟩
  bound like length := by
    obtain ⟨replies, leaves⟩ := apart.maxCompressedLength length like.2.native
    exact ⟨replies, like.1, like.2.both leaves⟩

include apart

/-- Memory may be obtained and given back on one side. -/
theorem lends (world' : World (Logged σ ι)) :
    library.logged.Lends fun world => world.SameButMemory same world' where
  malloc size numa pinned world alike := alike.left rfl (apart.malloc size numa pinned alike.native)
  free free found address world alike := by
    obtain ⟨release, here, rfl⟩ := Option.map_eq_some_iff.1 found
    refine alike.left rfl ?_
    rw [LibraryCall.leaves, here]
    exact apart.free release here address alike.native

/-- Sessions end in the same way, and buffers are given back on the sides where there are any. -/
theorem closes : apart.likeness.Closes (World.SameButMemory same) where
  stopped like := like.2
  ended {record world record' world'} like := by
    obtain ⟨rfl, like⟩ := like
    refine Session.close_alike rfl like (fun like level text _ => like.say level text) ?_
    change Option.Rel _ (library.entries.teardown.map _) (library.entries.teardown.map _)
    cases here : library.entries.teardown with
    | none => exact .none
    | some teardown =>
      obtain ⟨replies, leaves⟩ := apart.teardown teardown here record like.native
      refine .some ⟨replies, like.both ?_⟩
      simpa only [LibraryCall.leaves, here] using leaves
  released {buffer buffer' world world'} _ alike := by
    have released := buffer.kept_release (apart.lends world').free alike
    exact (buffer'.kept_release (apart.lends _).free (released.symm apart)).symm apart

/-- Two pairs of new buffers are zeroed alike, whatever kind they are of. -/
theorem allocatePair_alike {first second : Nat} {prefs prefs' : BufferPrefs}
    {one two one' two' : Scratch} {opened opened' : World (Logged σ ι)}
    (self : world.SameButMemory same world)
    (allocated : (Scratch.allocatePair library.logged first second prefs).streamed.runOn world =
      (.ok (one, two), opened))
    (allocated' : (Scratch.allocatePair library.logged first second prefs').streamed.runOn world =
      (.ok (one', two'), opened')) :
    (apart.likeness.NewBuffers one one' ∧ apart.likeness.NewBuffers two two') ∧
      opened.SameButMemory same opened' := by
  have keeps : ∀ prefs, (Scratch.allocatePair library.logged first second prefs).streamed.Maintains
      fun later => later.SameButMemory same world :=
    fun prefs => (Scratch.maintains_allocatePair (apart.lends world) first second prefs).mapError _
  have kept := keeps prefs world self
  have kept' := keeps prefs' world self
  rw [allocated] at kept
  rw [allocated'] at kept'
  obtain ⟨zeroed, zeroed₂⟩ := Scratch.allocatePair_ok allocated
  obtain ⟨zeroed', zeroed₂'⟩ := Scratch.allocatePair_ok allocated'
  exact ⟨⟨⟨trivial, zeroed.trans zeroed'.symm⟩, trivial, zeroed₂.trans zeroed₂'.symm⟩,
    kept.trans apart (kept'.symm apart)⟩

/-- The library is asked for a bound. -/
theorem asked_alike (self : world.SameButMemory same world) (size : Nat) :
    (library.logged.asked size world).SameButMemory same (library.logged.asked size world) :=
  self.both (apart.maxCompressedLength (UInt32.ofNat size) self.native).2

end EntryPoints.AllocatesApart

/-! ## Writers -/

namespace BlockWriter

/-- Writers that differ in no more than where their buffers are and what these hold behind the bytes
that were taken in. What holds the output of codec calls may differ as a whole if these `reach` as far
as they report. -/
structure SameButScratch (reach : Prop) (writer writer' : BlockWriter σ ι) : Prop where
  session : writer.session = writer'.session
  sink : writer.sink = writer'.sink
  failed : writer.failed = writer'.failed
  blockSize : writer.block.size = writer'.block.size
  filled : writer.filled = writer'.filled
  held : writer.block.memory.read 0 writer.filled = writer'.block.memory.read 0 writer.filled
  room : writer.compressed.size = writer'.compressed.size
  output : reach ∨ writer.compressed.memory = writer'.compressed.memory

/-- Whatever the two writers are called for, they return the same, the same bytes are sent and the
worlds are the same but for memory. So it is when they are ended. -/
def GoesAlike (same : σ → σ → Prop) (writer : BlockWriter (Logged σ ι) ι) (world : World (Logged σ ι))
    (writer' : BlockWriter (Logged σ ι) ι) (world' : World (Logged σ ι)) : Prop :=
  ∀ calls : List WriterCall,
    let ran := callAll BlockWriter.perform writer calls world
    let ran' := callAll BlockWriter.perform writer' calls world'
    ran.1 = ran'.1 ∧ ran.2.1.sink = ran'.2.1.sink ∧ ran.2.2.SameButMemory same ran'.2.2 ∧
      ∀ ending, SameEnd (World.SameButMemory same) (ran.2.1.endWith ending ran.2.2)
        (ran'.2.1.endWith ending ran'.2.2)

variable {library : Library σ ι} {same : σ → σ → Prop}
  (apart : library.entries.AllocatesApart same) {world world' opened opened' : World (Logged σ ι)}
  {writer writer' : BlockWriter (Logged σ ι) ι} {sink : Sink} {size : Nat}
  {prefs prefs' : BufferPrefs}
include apart

theorem Like.goesAlike (like : writer.Like apart.likeness world writer' world') :
    writer.GoesAlike same world writer' world' := by
  intro calls
  have alike := SameOutcome.callAll (fun _ call _ _ _ like => like.perform call) like calls
  dsimp only
  generalize callAll BlockWriter.perform writer calls world = ran,
    callAll BlockWriter.perform writer' calls world' = ran' at alike ⊢
  obtain ⟨answers, still⟩ := alike
  exact ⟨rfl, still.frames.sink, still.frames.session.like.2,
    fun ending => still.endWith apart.closes ending⟩

theorem SameButScratch.like
    (scratch : writer.SameButScratch
      (library.entries.WritesReported (fun native => same native native) .compress) writer')
    (on : writer.session.library = library.logged) (alike : world.SameButMemory same world') :
    writer.Like apart.likeness world writer' world' where
  frames :=
    { session := ⟨on, scratch.session ▸ on, congrArg Session.record scratch.session, alike⟩
      sink := scratch.sink
      compressed := ⟨scratch.room, trivial⟩
      payload := scratch.output
      failed := scratch.failed }
  block := ⟨scratch.blockSize, trivial⟩
  filled := scratch.filled
  held := scratch.held

theorem create_like (self : world.SameButMemory same world)
    (made : (create library.logged sink ⟨size, prefs⟩).runOn world = (.ok writer, opened))
    (made' : (create library.logged sink ⟨size, prefs'⟩).runOn world = (.ok writer', opened')) :
    writer.Like apart.likeness opened writer' opened' := by
  rw [runOn_create] at made made'
  split at made
  · next usable =>
    rw [if_pos usable] at made'
    split at made
    · next block compressed after allocated =>
      obtain ⟨rfl, rfl⟩ := by simpa only [Prod.mk.injEq, Except.ok.injEq] using made
      split at made'
      · next block' compressed' after' allocated' =>
        obtain ⟨rfl, rfl⟩ := by simpa only [Prod.mk.injEq, Except.ok.injEq] using made'
        obtain ⟨⟨blocks, outputs⟩, alike⟩ :=
          apart.allocatePair_alike (apart.asked_alike self size) allocated allocated'
        refine ⟨⟨⟨rfl, rfl, rfl, alike⟩, rfl, outputs.buffers, .inr outputs.memory, rfl⟩,
          blocks.buffers, rfl, ?_⟩
        rw [Memory.read_zero, Memory.read_zero]
      · simp at made'
    · simp at made
  · simp at made

end BlockWriter

/-! ## Readers -/

namespace BlockReader

/-- Readers that differ in no more than where their buffers are, what the first one holds, and what
the second one holds around the bytes that are served. It may differ in these alone if codec calls
`reach` as far as they report. -/
structure SameButScratch (reach : Prop) (reader reader' : BlockReader σ ι) : Prop where
  session : reader.session = reader'.session
  source : reader.source = reader'.source
  room : reader.compressed.size = reader'.compressed.size
  blockSize : reader.block.size = reader'.block.size
  pos : reader.pos = reader'.pos
  filled : reader.filled = reader'.filled
  serving : reader.block.memory.read reader.pos (reader.filled - reader.pos) =
    reader'.block.memory.read reader.pos (reader.filled - reader.pos)
  output : reach ∨ reader.block.memory = reader'.block.memory

/-- Whatever the two readers are called for, they return the same, the same is left in the source and
the worlds are the same but for memory. So it is when they are ended. -/
def GoesAlike (same : σ → σ → Prop) (reader : BlockReader (Logged σ ι) ι) (world : World (Logged σ ι))
    (reader' : BlockReader (Logged σ ι) ι) (world' : World (Logged σ ι)) : Prop :=
  ∀ calls : List ReaderCall,
    let ran := callAll BlockReader.perform reader calls world
    let ran' := callAll BlockReader.perform reader' calls world'
    ran.1 = ran'.1 ∧ ran.2.1.source = ran'.2.1.source ∧ ran.2.2.SameButMemory same ran'.2.2 ∧
      (ran.2.1.close ran.2.2).SameButMemory same (ran'.2.1.close ran'.2.2)

variable {library : Library σ ι} {same : σ → σ → Prop}
  (apart : library.entries.AllocatesApart same) {world world' opened opened' : World (Logged σ ι)}
  {reader reader' : BlockReader (Logged σ ι) ι} {source : Source} {size : Nat}
  {prefs prefs' : BufferPrefs}
include apart

theorem Like.goesAlike (like : reader.Like apart.likeness world reader' world') :
    reader.GoesAlike same world reader' world' := by
  intro calls
  have alike := SameOutcome.callAll (fun _ call _ _ _ like => like.perform call) like calls
  dsimp only
  generalize callAll BlockReader.perform reader calls world = ran,
    callAll BlockReader.perform reader' calls world' = ran' at alike ⊢
  obtain ⟨returned, still⟩ := alike
  exact ⟨rfl, still.source, still.session.like.2, still.close apart.closes⟩

theorem SameButScratch.like
    (scratch : reader.SameButScratch
      (library.entries.WritesReported (fun native => same native native) .decompress) reader')
    (on : reader.session.library = library.logged) (alike : world.SameButMemory same world') :
    reader.Like apart.likeness world reader' world' where
  session := ⟨on, scratch.session ▸ on, congrArg Session.record scratch.session, alike⟩
  source := scratch.source
  compressed := ⟨scratch.room, trivial⟩
  block := ⟨scratch.blockSize, trivial⟩
  restored := scratch.output
  pos := scratch.pos
  filled := scratch.filled
  serving := scratch.serving

theorem create_like (self : world.SameButMemory same world)
    (made : (create library.logged source ⟨size, prefs⟩).runOn world = (.ok reader, opened))
    (made' : (create library.logged source ⟨size, prefs'⟩).runOn world = (.ok reader', opened')) :
    reader.Like apart.likeness opened reader' opened' := by
  rw [runOn_create] at made made'
  split at made
  · next usable =>
    rw [if_pos usable] at made'
    split at made
    · next compressed block after allocated =>
      obtain ⟨rfl, rfl⟩ := by simpa only [Prod.mk.injEq, Except.ok.injEq] using made
      split at made'
      · next compressed' block' after' allocated' =>
        obtain ⟨rfl, rfl⟩ := by simpa only [Prod.mk.injEq, Except.ok.injEq] using made'
        obtain ⟨⟨payloads, blocks⟩, alike⟩ :=
          apart.allocatePair_alike (apart.asked_alike self size) allocated allocated'
        refine ⟨⟨rfl, rfl, rfl, alike⟩, rfl, payloads.buffers, blocks.buffers, .inr blocks.memory,
          rfl, rfl, ?_⟩
        rw [Nat.sub_zero, Memory.read_zero, Memory.read_zero]
      · simp at made'
    · simp at made
  · simp at made

end BlockReader

/-- On a library that keeps its allocations apart, working buffers are interchangeable:

* two writers that are made with whatever buffers are preferred, and two readers, return the same,
  leave the same in sinks and sources and lead to the same world, and the calls of the library are
  the same but for those for memory;
* so it is with writers and readers that differ only in where their buffers are and in what these
  hold beside the bytes that were taken in or are still to serve, if the library writes what it
  reports. -/
theorem Library.buffers_interchangeable {library : Library σ ι} {same : σ → σ → Prop}
    (apart : library.entries.AllocatesApart same) :
    (∀ (size : Nat) (prefs prefs' : BufferPrefs) (world opened opened' : World (Logged σ ι)),
      same world.native.native world.native.native →
      (∀ (sink : Sink) (writer writer' : BlockWriter (Logged σ ι) ι),
        (BlockWriter.create library.logged sink ⟨size, prefs⟩).runOn world =
          (.ok writer, opened) →
        (BlockWriter.create library.logged sink ⟨size, prefs'⟩).runOn world =
          (.ok writer', opened') →
        writer.GoesAlike same opened writer' opened') ∧
      ∀ (source : Source) (reader reader' : BlockReader (Logged σ ι) ι),
        (BlockReader.create library.logged source ⟨size, prefs⟩).runOn world =
          (.ok reader, opened) →
        (BlockReader.create library.logged source ⟨size, prefs'⟩).runOn world =
          (.ok reader', opened') →
        reader.GoesAlike same opened reader' opened') ∧
    ∀ (world world' : World (Logged σ ι)), world.SameButMemory same world' →
      (∀ writer writer' : BlockWriter (Logged σ ι) ι, writer.session.library = library.logged →
        writer.SameButScratch
          (library.entries.WritesReported (fun native => same native native) .compress) writer' →
        writer.GoesAlike same world writer' world') ∧
      ∀ reader reader' : BlockReader (Logged σ ι) ι, reader.session.library = library.logged →
        reader.SameButScratch
          (library.entries.WritesReported (fun native => same native native) .decompress) reader' →
        reader.GoesAlike same world reader' world' := by
  refine ⟨fun size prefs prefs' world opened opened' normal => ?_, fun world world' alike => ?_⟩
  · have self : world.SameButMemory same world := ⟨normal, rfl, rfl, rfl, rfl, rfl⟩
    refine ⟨fun sink writer writer' made made' => ?_, fun source reader reader' made made' => ?_⟩
    · exact (BlockWriter.create_like apart self made made').goesAlike apart
    · exact (BlockReader.create_like apart self made made').goesAlike apart
  · refine ⟨fun writer writer' on scratch => ?_, fun reader reader' on scratch => ?_⟩
    · exact (scratch.like apart on alike).goesAlike apart
    · exact (scratch.like apart on alike).goesAlike apart

open Simulated in
/-- A writer on the heap and one in the library's memory, whose second block is going to be refused;
and a new reader beside one whose buffers have been used. -/
theorem Library.buffers_interchangeable_simulated :
    let world : World (Logged State UInt32) :=
      { native := ⟨{ faults := { next := [(.compress, [0, -1])] } }, []⟩ }
    let fresh : BlockReader (Logged State UInt32) UInt32 :=
      { session := .new library.logged, source := ⟨[]⟩, compressed := .heap (.zeros 10)
        block := .heap (.zeros 2) }
    let used : BlockReader (Logged State UInt32) UInt32 :=
      { fresh with
        compressed := .native ⟨1, .filled 9 10⟩, block := .native ⟨2, .filled 7 2⟩ }
    (∃ writer opened writer' opened',
      (BlockWriter.create library.logged {} ⟨2, {}⟩).runOn world = (.ok writer, opened) ∧
      (BlockWriter.create library.logged {} ⟨2, { useNative := true }⟩).runOn world =
        (.ok writer', opened') ∧
      opened.native.calls.length = 1 ∧ opened'.native.calls.length = 3 ∧
      writer.GoesAlike SameButMemory opened writer' opened') ∧
    fresh.GoesAlike SameButMemory world used world := by
  intro world fresh used
  have normal : SameButMemory world.native.native world.native.native :=
    ⟨rfl, fun _ _ => rfl, rfl, rfl, rfl, rfl, rfl, rfl⟩
  obtain ⟨made, given⟩ := Library.buffers_interchangeable allocatesApart
  refine ⟨?_, ?_⟩
  · have heap : ∃ writer opened, (BlockWriter.create library.logged {} ⟨2, {}⟩).runOn world =
        (.ok writer, opened) ∧ opened.native.calls.length = 1 := ⟨_, _, rfl, rfl⟩
    have native : ∃ writer opened,
        (BlockWriter.create library.logged {} ⟨2, { useNative := true }⟩).runOn world =
          (.ok writer, opened) ∧ opened.native.calls.length = 3 := ⟨_, _, rfl, rfl⟩
    obtain ⟨writer, opened, created, one⟩ := heap
    obtain ⟨writer', opened', created', three⟩ := native
    obtain ⟨writers, -⟩ := made 2 {} { useNative := true } world opened opened' normal
    exact ⟨writer, opened, writer', opened', created, created', one, three,
      writers {} writer writer' created created'⟩
  · obtain ⟨-, readers⟩ := given world world ⟨normal, rfl, rfl, rfl, rfl, rfl⟩
    exact readers fresh used rfl
      ⟨rfl, rfl, rfl, rfl, rfl, rfl, by rw [Nat.sub_self, Memory.read_zero, Memory.read_zero],
        .inl (writesReported .decompress)⟩

end OffloadCodec

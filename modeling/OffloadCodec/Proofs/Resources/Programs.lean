import Mathlib.Algebra.BigOperators.Group.Multiset.Basic
import Mathlib.Logic.Relation
import OffloadCodec.Proofs.Defaults.Sharing
import OffloadCodec.Proofs.Resources.Operations
import OffloadCodec.Proofs.SimulatedLibrary

/-!
# Programs

A program owns sessions, buffers, writers and readers, its `Holding`s. Step by step it makes some, uses
them and lets them go, in any order, and it calls what works with sessions and buffers of its own
(`Program.Step`). The library may do whatever it likes, and so may the world beside it.

Each step moves what is owned as the holdings say (`Program.Step.orderly`), so the accounts are in order
in every state that a run can reach (`Program.run_balances`): with an entry point to free memory, what
was handed out and not given back is what the holdings own at that time, and likewise for sessions.

A writer that finds a length reported beyond its buffer stops the program when it is used up. What it
owned is lost with it, but nothing is given back twice even then. With a library that reports lengths
within the capacity this does not happen.
-/

namespace OffloadCodec

variable {σ ι : Type}

/-! ## Holdings -/

/-- Something that a program owns. -/
inductive Holding (σ ι : Type)
  | session (session : Session σ ι)
  | buffer (buffer : NativeBuffer)
  | scratch (scratch : Scratch)
  | writer (writer : BlockWriter σ ι)
  | reader (reader : BlockReader σ ι)

/-- The operation has stopped the program. -/
def overran {α : Type} : Except StreamFailure α → Bool
  | .error .overrun => true
  | .error (.error _) => false
  | .ok _ => false

/-- Making a holding, or failing to. -/
inductive Makes (library : Library σ ι) (world : World σ) : Option (Holding σ ι) → World σ → Prop
  | session : Makes library world (some (.session (.new library))) world
  | buffer (size : Nat) (numa pinned : Bool) {result : Except CodecError NativeBuffer}
    {later : World σ}
    (made : (NativeBuffer.allocate library size numa pinned).runOn world = (result, later)) :
    Makes library world (result.toOption.map .buffer) later
  | scratch (size : Nat) (prefs : BufferPrefs) {result : Except CodecError Scratch}
    {later : World σ} (made : (Scratch.allocate library size prefs).runOn world = (result, later)) :
    Makes library world (result.toOption.map .scratch) later
  | writer (sink : Sink) (options : StreamOptions)
    {result : Except StreamFailure (BlockWriter σ ι)} {later : World σ}
    (made : (BlockWriter.create library sink options).runOn world = (result, later)) :
    Makes library world (result.toOption.map .writer) later
  | reader (source : Source) (options : StreamOptions)
    {result : Except StreamFailure (BlockReader σ ι)} {later : World σ}
    (made : (BlockReader.create library source options).runOn world = (result, later)) :
    Makes library world (result.toOption.map .reader) later

/-- Using a holding, with whatever result. -/
inductive Uses (world : World σ) : Holding σ ι → Holding σ ι → World σ → Prop
  | compress {session next : Session σ ι} (input output : View) {written : View}
    {result : Except CodecError UInt32} {later : World σ}
    (served : session.compress input output world = ⟨result, next, written, later⟩) :
    Uses world (.session session) (.session next) later
  | decompress {session next : Session σ ι} (input output : View) {written : View}
    {result : Except CodecError UInt32} {later : World σ}
    (served : session.decompress input output world = ⟨result, next, written, later⟩) :
    Uses world (.session session) (.session next) later
  | compressBytes {session next : Session σ ι} (input : Bytes) {result : Except CodecError Bytes}
    {later : World σ} (produced : session.compressBytes input world = ⟨result, next, later⟩) :
    Uses world (.session session) (.session next) later
  | decompressBytes {session next : Session σ ι} (input : Bytes) (max : Nat)
    {result : Except CodecError Bytes} {later : World σ}
    (produced : session.decompressBytes? input max world = some ⟨result, next, later⟩) :
    Uses world (.session session) (.session next) later
  | buffer (buffer : NativeBuffer) (memory : Memory) :
    Uses world (.buffer buffer) (.buffer { buffer with memory }) world
  | scratch (scratch : Scratch) (memory : Memory) :
    Uses world (.scratch scratch) (.scratch (scratch.withMemory memory)) world
  | writer {writer next : BlockWriter σ ι} (call : WriterCall)
    {result : Except StreamFailure (Option Nat)} {later : World σ}
    (performed : writer.perform call world = (result, next, later)) :
    Uses world (.writer writer) (.writer next) later
  | read {reader next : BlockReader σ ι} (n : Nat) {result : Except StreamFailure Bytes}
    {later : World σ} (read : reader.read n world = (result, next, later)) :
    Uses world (.reader reader) (.reader next) later
  | readExact {reader next : BlockReader σ ι} (n : Nat) {result : Except StreamFailure Bytes}
    {later : World σ} (read : reader.readExact n world = (result, next, later)) :
    Uses world (.reader reader) (.reader next) later
  | readToEnd {reader next : BlockReader σ ι} {bytes : Bytes} {result : Except StreamFailure Unit}
    {later : World σ} (read : reader.readToEnd world = (bytes, result, next, later)) :
    Uses world (.reader reader) (.reader next) later

/-- Letting a holding go, and whether that has stopped the program. -/
inductive Drops (library : Library σ ι) (world : World σ) : Holding σ ι → Bool → World σ → Prop
  | session (session : Session σ ι) :
    Drops library world (.session session) false (session.close world)
  | buffer (buffer : NativeBuffer) :
    Drops library world (.buffer buffer) false (buffer.release library world)
  | scratch (scratch : Scratch) :
    Drops library world (.scratch scratch) false (scratch.release library world)
  | finish {writer : BlockWriter σ ι} {closed : Closed} {later : World σ}
    (finished : writer.finish world = (closed, later)) :
    Drops library world (.writer writer) (overran closed.result) later
  | discard {writer : BlockWriter σ ι} {closed : Closed} {later : World σ}
    (discarded : writer.discard world = (closed, later)) :
    Drops library world (.writer writer) (overran closed.result) later
  | reader (reader : BlockReader σ ι) :
    Drops library world (.reader reader) false (reader.close world)

/-- A call that needs none of the holdings, and whether it has stopped the program. -/
inductive Calls (library : Library σ ι) (world : World σ) : Bool → World σ → Prop
  | compressBlocks (data : Bytes) (blockSize : Nat) (schedule : Nat → Schedule)
    {result : Except StreamFailure Bytes} {later : World σ}
    (coded : library.CompressesBlocks data blockSize schedule world result later) :
    Calls library world false later
  | decompressBlocks (stream : Bytes) (blockSize : Nat) (schedule : Nat → Schedule)
    {result : Except StreamFailure Bytes} {later : World σ}
    (coded : library.DecompressesBlocks stream blockSize schedule world result later) :
    Calls library world false later
  | compressFile (src dst : String) (options : StreamOptions) (level : Option Int32)
    {result : Except StreamFailure Transfer} {later : World σ}
    (ran : (library.compressFile src dst options level).runOn world = (result, later)) :
    Calls library world (overran result) later
  | decompressFile (src dst : String) (options : StreamOptions)
    {result : Except StreamFailure Transfer} {later : World σ}
    (ran : (library.decompressFile src dst options).runOn world = (result, later)) :
    Calls library world false later
  | check (all : Bool) {report : CheckReport} {later : World σ}
    (checked : library.check all world = (report, later)) : Calls library world false later
  | maxCompressedLength (length : Nat) {result : Except CodecError Nat} {later : World σ}
    (ran : (library.maxCompressedLength length).runOn world = (result, later)) :
    Calls library world false later
  | defaults (call : DefaultsCall) {result : Except CodecError (Option CodecConfig)} {later : World σ}
    (ran : (call.act library).runOn world = (result, later)) : Calls library world false later
  /-- Something else happens to the files, the console or the environment. -/
  | elsewhere {later : World σ} (same : later.native = world.native) :
    Calls library world false later

/-! ## Steps -/

structure Program (σ ι : Type) where
  world : World σ
  holdings : Multiset (Holding σ ι) := 0
  /-- It goes no further. -/
  stopped : Bool := false

inductive Program.Step (library : Library σ ι) : Program σ ι → Program σ ι → Prop
  | make {world later : World σ} {holding : Holding σ ι} {holdings : Multiset (Holding σ ι)}
    (makes : Makes library world (some holding) later) :
    Step library ⟨world, holdings, false⟩ ⟨later, holding ::ₘ holdings, false⟩
  | fail {world later : World σ} {holdings : Multiset (Holding σ ι)}
    (makes : Makes library world none later) :
    Step library ⟨world, holdings, false⟩ ⟨later, holdings, false⟩
  | use {world later : World σ} {holding next : Holding σ ι} {holdings : Multiset (Holding σ ι)}
    (uses : Uses world holding next later) :
    Step library ⟨world, holding ::ₘ holdings, false⟩ ⟨later, next ::ₘ holdings, false⟩
  | drop {world later : World σ} {holding : Holding σ ι} {holdings : Multiset (Holding σ ι)}
    {stopped : Bool} (drops : Drops library world holding stopped later) :
    Step library ⟨world, holding ::ₘ holdings, false⟩ ⟨later, holdings, stopped⟩
  | call {world later : World σ} {holdings : Multiset (Holding σ ι)} {stopped : Bool}
    (calls : Calls library world stopped later) :
    Step library ⟨world, holdings, false⟩ ⟨later, holdings, stopped⟩

/-- A run from one state of a program to another. -/
abbrev Program.Run (library : Library σ ι) : Program σ ι → Program σ ι → Prop :=
  Relation.ReflTransGen (Program.Step library)

/-! ## What holdings own -/

/-- What the holding keeps from the library. -/
def Holding.estate : Holding (Observed σ) (Nat × ι) → Estate
  | .session held => held.estate
  | .buffer held => .ofMemory (some held.address)
  | .scratch held => held.estate
  | .writer held => held.bench.estate
  | .reader held => held.bench.estate

/-- The holding works with the library. -/
def Holding.On (library : Library σ ι) : Holding (Observed σ) (Nat × ι) → Prop
  | .session held => held.library = library.observed
  | .buffer _ => True
  | .scratch _ => True
  | .writer held => held.session.library = library.observed
  | .reader held => held.session.library = library.observed

section Steps

variable {library : Library σ ι} {world later : World (Observed σ)} {rest : Estate}
  {holding next : Holding (Observed σ) (Nat × ι)} {stopped : Bool}

/-- The result of a constructor as a holding, if there is one. -/
theorem Settled.made {ε α : Type} {result : Except ε α} {wrap : α → Holding (Observed σ) (Nat × ι)}
    (settled : Settled library never (fun a => (wrap a).estate) rest result later)
    (on : ∀ a, result = .ok a → (wrap a).On library) :
    (∀ holding ∈ result.toOption.map wrap, holding.On library) ∧
      Owns library later.native ((result.toOption.map wrap).elim 0 Holding.estate + rest) := by
  have owns := settled.owns
  rcases result with e | a
  · exact ⟨fun holding made => absurd made.symm (Option.some_ne_none holding), owns⟩
  · refine ⟨fun holding made => ?_, owns⟩
    obtain rfl : wrap a = holding := Option.some.inj made
    exact on a rfl

/-- What is made is owned, and nothing is if it was not made. -/
theorem Makes.owns {made : Option (Holding (Observed σ) (Nat × ι))}
    (makes : Makes library.observed world made later) (owns : Owns library world.native rest) :
    (∀ holding ∈ made, holding.On library) ∧
      Owns library later.native (made.elim 0 Holding.estate + rest) := by
  have start : Owns library world.native (0 + rest) := (zero_add rest).symm.subst owns
  cases makes with
  | session =>
    refine ⟨fun holding made => ?_, start⟩
    obtain rfl := Option.some.inj made
    exact rfl
  | buffer size numa pinned made =>
    have settled := NativeBuffer.moves_allocate library size numa pinned rest world start
    rw [made] at settled
    exact Settled.made settled fun _ _ => trivial
  | scratch size prefs made =>
    have settled := Scratch.moves_allocate library size prefs rest world start
    rw [made] at settled
    exact Settled.made settled fun _ _ => trivial
  | writer sink options made =>
    have settled := BlockWriter.moves_create library sink options rest world start
    rw [made] at settled
    refine Settled.made settled fun writer succeeded => ?_
    rw [succeeded] at made
    obtain ⟨-, -, on, -⟩ := BlockWriter.create_ok made
    exact on
  | reader source options made =>
    have settled := BlockReader.moves_create library source options rest world start
    rw [made] at settled
    refine Settled.made settled fun reader succeeded => ?_
    rw [succeeded] at made
    obtain ⟨-, -, fresh, -⟩ := BlockReader.create_ok made
    exact congrArg Session.library fresh

/-- Whatever a holding is used for, it owns what comes of it. -/
theorem Uses.owns (uses : Uses world holding next later) (on : holding.On library)
    (owns : Owns library world.native (holding.estate + rest)) :
    next.On library ∧ Owns library later.native (next.estate + rest) := by
  cases uses with
  | @compress session next input output written result later served =>
    obtain ⟨_, continues, -⟩ := session.compress_continues input output world
    rw [served] at continues
    exact ⟨continues.library.trans on, continues.owns on owns⟩
  | @decompress session next input output written result later served =>
    obtain ⟨_, continues, -⟩ := session.decompress_continues input output world
    rw [served] at continues
    exact ⟨continues.library.trans on, continues.owns on owns⟩
  | @compressBytes session next input result later produced =>
    obtain ⟨_, continues, -⟩ := session.compressBytes_continues input world
    rw [produced] at continues
    exact ⟨continues.library.trans on, continues.owns on owns⟩
  | @decompressBytes session next input max result later produced =>
    obtain ⟨-, same⟩ := Option.ite_none_right_eq_some.1 produced
    obtain ⟨_, continues, -⟩ := session.decompressBytes_continues input max world
    rw [Option.some.inj same] at continues
    exact ⟨continues.library.trans on, continues.owns on owns⟩
  | buffer buffer memory => exact ⟨trivial, owns⟩
  | scratch scratch memory =>
    have same : (scratch.withMemory memory).estate = scratch.estate :=
      congrArg Estate.ofMemory (scratch.address?_withMemory memory)
    refine ⟨trivial, ?_⟩
    rw [Holding.estate, same]
    exact owns
  | @writer writer next call result later performed =>
    have serves := writer.perform_serves call world
    rw [performed] at serves
    exact serves.owns on owns
  | @read reader next n result later read =>
    have serves := reader.read_serves n world
    rw [read] at serves
    exact serves.owns on owns
  | @readExact reader next n result later read =>
    have serves := reader.readExact_serves n world
    rw [read] at serves
    exact serves.owns on owns
  | @readToEnd reader next bytes result later read =>
    have serves := reader.readToEnd_serves world
    rw [read] at serves
    exact serves.owns on owns

/-- The rest is owned, and nothing beside it unless the program has stopped because of a length beyond
the capacity. -/
def OwnsAll (library : Library σ ι) (stopped : Bool) (rest : Estate) (state : Observed σ) : Prop :=
  ∃ left, Owns library state (left + rest) ∧
    (left = 0 ∨ stopped = true ∧ ¬ library.entries.ReportsWithin)

theorem Owns.all (owns : Owns library world.native rest) :
    OwnsAll library stopped rest world.native :=
  ⟨0, (zero_add rest).symm.subst owns, .inl rfl⟩

theorem overran_of_eq {α : Type} {result : Except StreamFailure α}
    (failed : result = .error .overrun) : overran result = true := by
  rw [failed]
  rfl

/-- What goes has given everything back. -/
theorem Drops.owns (drops : Drops library.observed world holding stopped later)
    (on : holding.On library) (owns : Owns library world.native (holding.estate + rest)) :
    OwnsAll library stopped rest later.native := by
  cases drops with
  | session session => exact (Session.owns_close on owns).all
  | buffer buffer => exact (buffer.owns_release owns).all
  | scratch scratch => exact (scratch.owns_release owns).all
  | @finish writer closed later finished =>
    obtain ⟨_, gone, -⟩ := writer.finish_gone world
    rw [finished] at gone
    obtain ⟨left, owns', nothing⟩ := gone.owns on owns
    exact ⟨left, owns', nothing.imp id fun stops => ⟨overran_of_eq stops.1, stops.2⟩⟩
  | @discard writer closed later discarded =>
    obtain ⟨_, gone⟩ := writer.discard_gone world
    rw [discarded] at gone
    obtain ⟨left, owns', nothing⟩ := gone.owns on owns
    exact ⟨left, owns', nothing.imp id fun stops => ⟨overran_of_eq stops.1, stops.2⟩⟩
  | reader reader => exact (reader.owns_close on owns).all

/-- The defaults are nobody's property. -/
theorem DefaultsCall.owns_act (call : DefaultsCall) (library : Library σ ι) (estate : Estate) :
    (call.act library.observed).Maintains fun world => Owns library world.native estate := by
  have updates := library.updates_owns estate
  cases call with
  | update edit =>
    exact (Library.maintains_updateDefaults updates edit).bind fun _ => Act.maintains_pure _ _
  | set config =>
    exact ((Library.maintains_updateDefaults updates _).bind fun _ => Act.maintains_pure _ _).bind
      fun _ => Act.maintains_pure _ _
  | setLevel level =>
    exact (Library.maintains_setCompressionLevel updates level).bind fun _ => Act.maintains_pure _ _
  | read =>
    exact ((Library.maintains_readRawDefaults updates).bind fun _ => Act.maintains_pure _ _).bind
      fun _ => Act.maintains_pure _ _
  | readApplied => exact fun world owns => owns

/-- A call has given back whatever it had made. -/
theorem Calls.owns (calls : Calls library.observed world stopped later)
    (owns : Owns library world.native rest) : OwnsAll library stopped rest later.native := by
  have start : Owns library world.native (0 + rest) := (zero_add rest).symm.subst owns
  cases calls with
  | compressBlocks data blockSize schedule coded => exact (coded.owns owns).all
  | decompressBlocks stream blockSize schedule coded => exact (coded.owns owns).all
  | @compressFile src dst options level result later ran =>
    have settled := library.moves_compressFile src dst options level rest world start
    rw [ran] at settled
    rcases result with e | transfer
    · obtain ⟨left, owns', rfl | ⟨rfl, beyond⟩⟩ := settled
      · exact ⟨0, owns', .inl rfl⟩
      · exact ⟨left, owns', .inr ⟨rfl, beyond⟩⟩
    · exact ⟨0, settled, .inl rfl⟩
  | @decompressFile src dst options result later ran =>
    have settled := library.moves_decompressFile src dst options rest world start
    rw [ran] at settled
    have after := settled.owns
    rcases result with e | transfer
    · exact ⟨0, after, .inl rfl⟩
    · exact ⟨0, after, .inl rfl⟩
  | check all checked =>
    have after := library.owns_check all owns
    rw [checked] at after
    exact after.all
  | maxCompressedLength length ran =>
    have after := library.owns_maxCompressedLength length rest world owns
    rw [ran] at after
    exact after.all
  | defaults call ran =>
    have after := call.owns_act library rest world owns
    rw [ran] at after
    exact after.all
  | elsewhere same =>
    rw [← same] at owns
    exact owns.all

end Steps

/-! ## Runs -/

namespace Program

variable {library : Library σ ι} {before after : Program (Observed σ) (Nat × ι)}

/-- What the holdings keep from the library. -/
def estate (program : Program (Observed σ) (Nat × ι)) : Estate :=
  (program.holdings.map Holding.estate).sum

/-- The calls so far. -/
def journal (program : Program (Observed σ) (Nat × ι)) : List NativeCall :=
  program.world.native.journal

theorem estate_cons (world later : World (Observed σ)) (holding : Holding (Observed σ) (Nat × ι))
    (holdings : Multiset (Holding (Observed σ) (Nat × ι))) (stopped stopped' : Bool) :
    estate ⟨world, holding ::ₘ holdings, stopped⟩ =
      holding.estate + estate ⟨later, holdings, stopped'⟩ := by
  rw [estate, Multiset.map_cons, Multiset.sum_cons, estate]

/-- All holdings work with the library, and they own what is out. -/
structure Orderly (library : Library σ ι) (program : Program (Observed σ) (Nat × ι)) : Prop where
  on : ∀ holding ∈ program.holdings, holding.On library
  owns : OwnsAll library program.stopped program.estate program.world.native

theorem Orderly.start {world : World (Observed σ)} (fresh : world.native.journal = []) :
    Orderly library { world } where
  on _ member := absurd member (Multiset.notMem_zero _)
  owns := ⟨0, Owns.start fresh, .inl rfl⟩

/-- A program that has stopped takes no more steps. -/
theorem Step.running (step : Step library.observed before after) : before.stopped = false := by
  cases step with
  | make _ => rfl
  | fail _ => rfl
  | use _ => rfl
  | drop _ => rfl
  | call _ => rfl

/-- Every step keeps the holdings and the accounts in order. -/
theorem Step.orderly (step : Step library.observed before after) (orderly : before.Orderly library) :
    after.Orderly library := by
  obtain ⟨on, left, owns, nothing⟩ := orderly
  obtain rfl : left = 0 :=
    nothing.resolve_right fun stops => Bool.false_ne_true (step.running.symm.trans stops.1)
  rw [zero_add] at owns
  cases step with
  | @make world later holding holdings makes =>
    obtain ⟨fits, owns'⟩ := makes.owns owns
    have all : Owns library later.native (estate ⟨later, holding ::ₘ holdings, false⟩) := by
      rw [estate_cons later world holding holdings false false]
      exact owns'
    exact ⟨Multiset.forall_mem_cons.2 ⟨fits holding rfl, on⟩, all.all⟩
  | fail makes =>
    obtain ⟨-, owns'⟩ := makes.owns owns
    exact ⟨on, 0, owns', .inl rfl⟩
  | @use world later holding next holdings uses =>
    obtain ⟨on', on⟩ := Multiset.forall_mem_cons.1 on
    rw [estate_cons world later holding holdings false false] at owns
    obtain ⟨fits, owns'⟩ := uses.owns on' owns
    rw [← estate_cons later later next holdings false false] at owns'
    exact ⟨Multiset.forall_mem_cons.2 ⟨fits, on⟩, owns'.all⟩
  | @drop world later holding holdings stopped drops =>
    obtain ⟨on', on⟩ := Multiset.forall_mem_cons.1 on
    rw [estate_cons world later holding holdings false stopped] at owns
    exact ⟨on, drops.owns on' owns⟩
  | call calls => exact ⟨on, calls.owns owns⟩

theorem Run.orderly (run : Run library.observed before after) (orderly : before.Orderly library) :
    after.Orderly library := by
  induction run with
  | refl => exact orderly
  | tail _ step ih => exact step.orderly ih

/-- The accounts of a program: what the library has handed out, what it got back, and what the program
still owns. The two sums hold unless the program was stopped by a length beyond the capacity. -/
structure Balances (library : Library σ ι) (program : Program (Observed σ) (Nat × ι)) : Prop where
  /-- Nothing is given back that is not out, and sessions are used and torn down only while they are
  set up. -/
  sound : Sound program.journal
  memory : library.entries.free.isSome = true →
    program.stopped = false ∨ library.entries.ReportsWithin → ∀ address,
      granted program.journal address =
        freed program.journal address + program.estate.1.count address
  sessions : library.entries.teardown.isSome = true →
    program.stopped = false ∨ library.entries.ReportsWithin → ∀ number,
      setUps program.journal number = tornDown program.journal number +
        takenBack program.journal number + program.estate.2.count number
  once : ∀ number, setUps program.journal number ≤ 1
  /-- A session that was torn down is neither used nor torn down again. -/
  gone : ∀ earlier status between call later number,
    program.journal = earlier ++ .teardown (some number) status :: between ++ call :: later →
      (∀ operation after status, call ≠ .codec operation (some number) after status) ∧
        ∀ status, call ≠ .teardown (some number) status
  noFree : library.entries.free = none → ∀ address, .free address ∉ program.journal
  noTeardown : library.entries.teardown = none → ∀ session status,
    .teardown session status ∉ program.journal

theorem Orderly.balances {program : Program (Observed σ) (Nat × ι)}
    (orderly : program.Orderly library) : program.Balances library := by
  obtain ⟨-, left, owns, nothing⟩ := orderly
  have all : program.stopped = false ∨ library.entries.ReportsWithin → left = 0 := fun fine =>
    nothing.resolve_right fun stops => fine.elim
      (fun running => Bool.false_ne_true (running.symm.trans stops.1)) stops.2
  refine ⟨owns.sound, fun exported fine address => ?_, fun exported fine number => ?_,
    fun number => (owns.sound.setUps_le_one number).1, ?_, owns.noFree, owns.noTeardown⟩
  · have balance := owns.memory exported address
    rwa [all fine, zero_add] at balance
  · have balance := owns.sessions exported number
    rwa [all fine, zero_add, ended_eq] at balance
  · intro earlier status between call later number parts
    have sound := owns.sound
    rw [show program.world.native.journal = _ from parts] at sound
    exact sound.not_after_end (beq_self_eq_true number)

/-- In every state that a program can reach, its accounts are in order. -/
theorem run_balances {world : World (Observed σ)} (fresh : world.native.journal = [])
    {program : Program (Observed σ) (Nat × ι)} (run : Run library.observed { world } program) :
    program.Balances library :=
  (run.orderly (.start fresh)).balances

/-- A program that makes a buffer and a session, compresses something and lets both go. -/
theorem run_balances_released :
    ∃ (world : World (Observed Simulated.State)) (program : Program _ _),
      world.native.journal = [] ∧ Run Simulated.library.observed { world } program ∧
      program.holdings = 0 ∧ program.stopped = false ∧
      program.journal = [.malloc (some 0), .bound 3, .codec .compress none (some 2) 0,
        .teardown (some 2) 0, .free 0] ∧
      program.Balances Simulated.library := by
  have allocates : (NativeBuffer.allocate Simulated.library.observed 16 false false).runOn
      { native := ⟨{}, []⟩ } = (.ok ⟨0, .zeros 16⟩, _) := rfl
  have makes : Makes Simulated.library.observed _ (some (.buffer ⟨0, .zeros 16⟩)) _ :=
    .buffer 16 false false allocates
  have run : Run Simulated.library.observed { world := { native := ⟨{}, []⟩ } } ⟨_, 0, false⟩ :=
    ((((Relation.ReflTransGen.refl.tail (Step.make makes)).tail (.make .session)).tail
      (.use (.compressBytes [1, 2, 3] rfl))).tail (.drop (.session _))).tail (.drop (.buffer _))
  exact ⟨_, _, rfl, run, rfl, rfl, by decide +kernel, run_balances rfl run⟩

end Program

end OffloadCodec

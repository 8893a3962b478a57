import Mathlib.Logic.Function.Basic
import OffloadCodec.Proofs.Levels.Uses
import OffloadCodec.Proofs.Parallel.Compression
import OffloadCodec.Proofs.Parallel.Decompression

/-!
# Vectors through sessions with a past

A `Desk` is a number of sessions of one library, each of which makes calls that succeed or fail, is
ended and replaced, and shares the library with whatever else happens (`DeskTurn`). Of all that, a
session carries nothing but its library and a record over to its next call (`Desk.On.after`), and
what a library in a normal state makes of that call does not depend on the record beyond the level
in it (`LevelDetermined.compressBytes`, `PayloadDetermined.uniform`).

So what one session of the simulated library compresses, any other restores, where there is room for
the data, and rejects where there is not (`Desk.vectors_round_trip`).
-/

namespace OffloadCodec

variable {σ ι : Type}

/-! ## Sessions and what happens to them -/

/-- Sessions of one library, by number, and the world around them. -/
structure Desk (σ ι : Type) where
  sessions : Nat → Session σ ι
  world : World σ

inductive DeskTurn (σ ι : Type)
  /-- A session makes a call. -/
  | call (id : Nat) (call : SessionCall)
  /-- A session ends, and there is a new one in its place. -/
  | renew (id : Nat)
  /-- The library is called by others. -/
  | others (call : LibraryCall ι)
  /-- Something else becomes of the world. -/
  | elsewhere (change : World σ → World σ)

/-- All that is done to the library is to call it. -/
def DeskTurn.isCall : DeskTurn σ ι → Bool
  | elsewhere _ => false
  | _ => true

namespace Desk

def new (library : Library σ ι) (world : World σ) : Desk σ ι := ⟨fun _ => .new library, world⟩

def turn (library : Library σ ι) (desk : Desk σ ι) : DeskTurn σ ι → Desk σ ι
  | .call id call =>
    let (_, session, world) := (desk.sessions id).perform call desk.world
    ⟨Function.update desk.sessions id session, world⟩
  | .renew id =>
    ⟨Function.update desk.sessions id (.new library), (desk.sessions id).close desk.world⟩
  | .others call =>
    { desk with
      world := { desk.world with native := call.leaves library.entries desk.world.native } }
  | .elsewhere change => { desk with world := change desk.world }

def after (library : Library σ ι) (desk : Desk σ ι) (turns : List (DeskTurn σ ι)) : Desk σ ι :=
  turns.foldl (turn library) desk

end Desk

/-! ## What all calls keep -/

/-- Every call of the library keeps a property of its state. -/
def EntryPoints.KeepAll (entries : EntryPoints σ ι) (normal : σ → Prop) : Prop :=
  ∀ call native, normal native → normal (LibraryCall.leaves entries native call)

section KeepAll

variable {normal : σ → Prop}

theorem EntryPoints.KeepAll.trail {entries : EntryPoints σ ι} (keep : entries.KeepAll normal)
    {record last : SessionRecord ι} {native after : σ} {refused : Option CodecError}
    (trail : Trail entries record native refused last after) (before : normal native) :
    normal after := by
  induction trail with
  | idle => exact before
  | bound _ length ih => exact keep (.maxCompressedLength length) _ ih
  | compress _ input capacity ih => exact keep (.compress _ input capacity true) _ ih
  | decompress _ input capacity ih => exact keep (.decompress _ input capacity) _ ih

theorem EntryPoints.KeepAll.closes {library : Library σ ι} (keep : library.entries.KeepAll normal) :
    library.Closes fun world => normal world.native where
  free release found address world before := by
    have kept := keep (.free address) world.native before
    rwa [LibraryCall.leaves, found] at kept
  teardown teardown found record world before := by
    have kept := keep (.teardown record) world.native before
    rwa [LibraryCall.leaves, found] at kept
  say _ _ _ before := before

end KeepAll

namespace Desk

variable {library : Library σ ι} {desk : Desk σ ι} {normal : σ → Prop}

/-- All sessions are of the library. -/
def On (library : Library σ ι) (desk : Desk σ ι) : Prop :=
  ∀ id, (desk.sessions id).library = library

theorem on_new (library : Library σ ι) (world : World σ) : (new library world).On library :=
  fun _ => rfl

theorem On.update (on : desk.On library) (id : Nat) {session : Session σ ι}
    (same : session.library = library) (world : World σ) :
    On library ⟨Function.update desk.sessions id session, world⟩ := by
  intro other
  dsimp only
  by_cases here : other = id
  · subst here
    rw [Function.update_self, same]
  · rw [Function.update_of_ne here, on other]

/-- No turn takes a session to another library. -/
theorem On.turn (on : desk.On library) (next : DeskTurn σ ι) :
    (desk.turn library next).On library := by
  cases next with
  | call id call =>
    obtain ⟨_, continues⟩ := (desk.sessions id).perform_continues call desk.world
    exact on.update id (continues.library.trans (on id)) _
  | renew id => exact on.update id rfl _
  | others call => exact on
  | elsewhere change => exact on

theorem On.after (on : desk.On library) (turns : List (DeskTurn σ ι)) :
    (desk.after library turns).On library := by
  induction turns generalizing desk with
  | nil => exact on
  | cons next turns ih => exact ih (on.turn next)

/-- A library that is only called stays normal. -/
theorem On.keeps_turn (on : desk.On library) (keep : library.entries.KeepAll normal)
    {next : DeskTurn σ ι} (calls : next.isCall = true) (before : normal desk.world.native) :
    normal (desk.turn library next).world.native := by
  cases next with
  | call id call =>
    obtain ⟨_, continues⟩ := (desk.sessions id).perform_continues call desk.world
    have trail := continues.trail
    rw [on id] at trail
    exact keep.trail trail before
  | renew id =>
    have closes := keep.closes
    rw [← on id] at closes
    exact (desk.sessions id).kept_close closes before
  | others call => exact keep call _ before
  | elsewhere change => nomatch calls

theorem On.keeps_after (on : desk.On library) (keep : library.entries.KeepAll normal)
    {turns : List (DeskTurn σ ι)} (calls : ∀ next ∈ turns, next.isCall = true)
    (before : normal desk.world.native) : normal (desk.after library turns).world.native := by
  induction turns generalizing desk with
  | nil => exact before
  | cons next turns ih =>
    exact ih (on.turn next) (fun other member => calls other (List.mem_cons_of_mem _ member))
      (on.keeps_turn keep (calls next List.mem_cons_self) before)

end Desk

/-! ## One compression -/

/-- Too much data is refused before the library is asked for anything. -/
theorem Session.compressBytes_tooLarge (session : Session σ ι) {data : Bytes}
    (long : maxNativeLength < data.length) (world : World σ) :
    session.compressBytes data world = ⟨.error (.tooLarge data.length), session, world⟩ := by
  rw [compressBytes, Library.maxCompressedLength, Act.runOn_of, if_neg (Nat.not_le.2 long)]

theorem Session.lengths_whole {bytes : Bytes} {size : Nat} {what : String}
    (fits : bytes.length ≤ maxNativeLength) (room : 0 < size) (bounded : size ≤ maxNativeLength) :
    lengths (.whole (.ofBytes bytes)) (.whole (.zeros size)) what =
      .ok (UInt32.ofNat bytes.length, UInt32.ofNat size) :=
  lengths_ok_iff.2 ⟨fits, room, bounded, rfl⟩

/-- Of all that a session has gone through, its level is what a compression depends on. -/
theorem EntryPoints.LevelDetermined.compressBytes {Level : Type} {normal : σ → Prop}
    {inForce : σ → Level} {latched : SessionRecord ι → Option Level}
    {result : Level → Bytes → UInt32 → Int32 × Bytes} {session : Session σ ι}
    (determined : session.library.entries.LevelDetermined normal inForce latched result)
    {world : World σ} (settled : normal world.native) {data : Bytes}
    (fits : data.length ≤ maxNativeLength) :
    let asked := session.library.entries.maxCompressedLength (UInt32.ofNat data.length) world.native
    (session.compressBytes data world).result =
      codedAt result ((latched session.record).getD (inForce world.native)) (max asked.1.toNat 1)
        data := by
  intro asked
  obtain ⟨settled', same⟩ :=
    determined.maxCompressedLength (UInt32.ofNat data.length) world.native settled
  rw [Session.compressBytes, Library.maxCompressedLength, Act.runOn_of, if_pos fits, ← same]
  have follows := session.compress_follows data (.zeros (max asked.1.toNat 1))
    { world with native := asked.2 }
  exact Session.result_produced
    (follows.taken.trans (determined.compressNext_latched settled' data))

namespace Simulated

variable {hasFree hasTeardown : Bool}

/-- No call ends the normal mode, whichever entry points the library has. -/
theorem keepAll_regular : (entryPoints hasFree hasTeardown).KeepAll Regular := by
  intro call state regular
  have kept : Regular (call.leaves library.entries state) := by
    obtain ⟨_, _, _, done, -⟩ := leaves_unforced ⟨regular.next, regular.always⟩ call
    rw [done]
    exact regular.of_faults rfl
  cases call with
  | free address =>
    cases hasFree with
    | true => exact kept
    | false => exact regular
  | teardown record =>
    cases hasTeardown with
    | true => exact kept
    | false => exact regular
  | _ => exact kept

/-- Data is stored if its block has a length. -/
theorem codedAt_bound (level : UInt32) {data : Bytes} (fits : data.length ≤ maxNativeLength) :
    codedAt coded level (max (min (data.length + 8) maxNativeLength) 1) data =
      if data.length + 8 ≤ maxNativeLength then .ok (stored level data)
      else .error (.operationFailed .compress Status.bufferError) := by
  have some : 1 ≤ maxNativeLength := by decide
  generalize size : max (min (data.length + 8) maxNativeLength) 1 = bound
  have bounded : bound ≤ maxNativeLength := by omega
  rw [codedAt, Session.lengths_whole fits (by omega) bounded]
  dsimp only
  rw [coded, EntryPoints.toNat_capacity bounded]
  by_cases room : data.length + 8 ≤ maxNativeLength
  · rw [if_neg (by omega), if_pos room]
    rfl
  · rw [if_pos (by omega), if_neg room]
    rfl

/-- A block is restored if there is room for its data. -/
theorem restoredAt_stored (level : UInt32) {data : Bytes}
    (short : data.length + 8 ≤ maxNativeLength) {size : Nat} (room : 0 < size)
    (bounded : size ≤ maxNativeLength) :
    restoredAt restored size (stored level data) =
      if size < data.length then .error (.operationFailed .decompress Status.bufferError)
      else .ok data := by
  have fits : (stored level data).length ≤ maxNativeLength := by rwa [length_stored]
  have counted : data.length < UInt32.size := by
    rw [maxNativeLength] at short
    omega
  rw [restoredAt, Session.lengths_whole fits room bounded]
  dsimp only
  rw [restored, restore?_stored level counted, EntryPoints.toNat_capacity bounded]
  dsimp only
  by_cases small : size < data.length
  · rw [if_pos small, if_pos small]
    rfl
  · rw [if_neg small, if_neg small]
    rfl

section Calls

variable {name : String} {session : Session State UInt32} {world : World State}
  (on : session.library = .ofEntryPoints name (entryPoints hasFree hasTeardown))
  (regular : Regular world.native)
include on regular

/-- Whatever a session has gone through, it stores all data whose block has a length. -/
theorem compressBytes_regular {data : Bytes} (fits : data.length ≤ maxNativeLength) :
    (session.compressBytes data world).result =
      if data.length + 8 ≤ maxNativeLength then
        .ok (stored (levelOf session.record world.native) data)
      else .error (.operationFailed .compress Status.bufferError) := by
  have determined : session.library.entries.LevelDetermined Regular (·.defaults.level)
      SessionRecord.internal coded := by
    rw [on]
    exact ⟨rfl, levelDetermined.compress, levelDetermined.maxCompressedLength,
      levelDetermined.bound⟩
  have bound : (session.library.entries.maxCompressedLength (UInt32.ofNat data.length)
      world.native).1.toNat = min (data.length + 8) maxNativeLength := by
    obtain ⟨_, done⟩ := maxCompressedLength_eq regular (UInt32.ofNat data.length)
    rw [on]
    refine (congrArg (fun outcome => outcome.1.toNat) done).trans ?_
    rw [EntryPoints.toNat_capacity fits]
    exact EntryPoints.toNat_capacity (Nat.min_le_right _ _)
  have made := determined.compressBytes regular fits
  dsimp only at made
  rw [made, bound]
  exact codedAt_bound _ fits

theorem decompressBytes_regular {data : Bytes} (short : data.length + 8 ≤ maxNativeLength)
    (level : UInt32) {size : Nat} (room : 0 < size) (bounded : size ≤ maxNativeLength) :
    (session.decompressBytes (stored level data) size world).result =
      if size < data.length then .error (.operationFailed .decompress Status.bufferError)
      else .ok data := by
  have determined : session.library.entries.PayloadDetermined Regular restored := by
    rw [on]
    exact ⟨payloadDetermined.decompress, payloadDetermined.maxCompressedLength⟩
  rw [(determined.uniform rfl size).result session (stored level data) world rfl regular]
  exact restoredAt_stored level short room bounded

end Calls

/-- The bound on the compressed size of data that has one. -/
theorem bound_regular {name : String} {world : World State} (regular : Regular world.native)
    {length : Nat} (short : length + 8 ≤ maxNativeLength) :
    (((Library.ofEntryPoints name (entryPoints hasFree hasTeardown)).maxCompressedLength
      length).runOn world).1 = .ok (length + 8) := by
  have fits : length ≤ maxNativeLength := by omega
  obtain ⟨_, done⟩ := maxCompressedLength_eq regular (UInt32.ofNat length)
  have bound : (library.entries.maxCompressedLength (UInt32.ofNat length)
      world.native).1.toNat = length + 8 := by
    rw [done, EntryPoints.toNat_capacity fits]
    exact (EntryPoints.toNat_capacity (Nat.min_le_right _ _)).trans (Nat.min_eq_left short)
  rw [Library.maxCompressedLength, Act.runOn_of, if_pos fits]
  exact congrArg Except.ok bound

end Simulated

/-- Calls leave the simulated library in its normal mode, whatever they return. In that mode what one
session compresses keeps within the bound, and any session restores it, where there is room for the
data, and rejects it where there is not, whatever both have gone through before. Too much data is
refused without a call, in any mode. -/
theorem Desk.vectors_round_trip (name : String) (hasFree hasTeardown : Bool)
    (world : World Simulated.State) :
    let library := Library.ofEntryPoints name (Simulated.entryPoints hasFree hasTeardown)
    let desk := (Desk.new library world).after library
    let normal (turns : List (DeskTurn Simulated.State UInt32)) :=
      Simulated.Regular (desk turns).world.native
    (∀ earlier later, (∀ turn ∈ later, DeskTurn.isCall turn = true) → normal earlier →
      normal (earlier ++ later)) ∧
    ∀ earlier later i j data,
      let compressed := ((desk earlier).sessions i).compressBytes data (desk earlier).world
      let next := desk (earlier ++ .call i (.compressBytes data) :: later)
      (maxNativeLength < data.length →
        compressed =
          ⟨.error (.tooLarge data.length), (desk earlier).sessions i, (desk earlier).world⟩) ∧
      (normal earlier → data.length + 8 ≤ maxNativeLength →
        ∃ bytes, compressed.result = .ok bytes) ∧
      ∀ bytes, normal earlier → compressed.result = .ok bytes →
        (∀ asked : World Simulated.State, Simulated.Regular asked.native →
          ∃ bound, ((library.maxCompressedLength data.length).runOn asked).1 = .ok bound ∧
            bytes.length ≤ bound) ∧
        (Simulated.Regular next.world.native → ∀ size,
          (max 1 data.length ≤ size → size ≤ maxNativeLength →
            ((next.sessions j).decompressBytes bytes size next.world).result = .ok data) ∧
          (0 < size → size < data.length →
            ((next.sessions j).decompressBytes bytes size next.world).result =
              .error (.operationFailed .decompress Status.bufferError))) := by
  intro library desk normal
  have on : ∀ turns, (desk turns).On library := (Desk.on_new library world).after
  refine ⟨fun earlier later calls before => ?_, ?_⟩
  · have joined : desk (earlier ++ later) = (desk earlier).after library later :=
      List.foldl_append
    dsimp only [normal]
    rw [joined]
    exact (on earlier).keeps_after Simulated.keepAll_regular calls before
  intro earlier later i j data compressed next
  have stores : normal earlier → data.length ≤ maxNativeLength → compressed.result = _ :=
    fun before fits => Simulated.compressBytes_regular (on earlier i) before fits
  refine ⟨fun long => Session.compressBytes_tooLarge _ long _, fun before short => ?_,
    fun bytes before made => ?_⟩
  · rw [stores before (by omega), if_pos short]
    exact ⟨_, rfl⟩
  -- What is compressed has a length, and so has its block.
  have fits : data.length ≤ maxNativeLength := by
    refine Nat.le_of_not_lt fun long => ?_
    have refused : compressed = _ := Session.compressBytes_tooLarge _ long _
    rw [refused] at made
    cases made
  rw [stores before fits] at made
  split at made
  · next short =>
    obtain rfl := Except.ok.inj made
    refine ⟨fun asked regular => ⟨_, Simulated.bound_regular regular short,
      Nat.le_of_eq (Simulated.length_stored _ _)⟩, fun after size => ?_⟩
    have there : (next.sessions j).library = library := on _ j
    constructor
    · intro enough bounded
      rw [Simulated.decompressBytes_regular there after short _ (by omega) bounded,
        if_neg (by omega)]
    · intro room small
      rw [Simulated.decompressBytes_regular there after short _ room (by omega), if_pos small]
  · cases made

namespace Simulated

/-- The library goes wrong, fails a call, and is mended. -/
def mended : List (DeskTurn State UInt32) :=
  let wrong (faults : Faults) : DeskTurn State UInt32 :=
    .elsewhere fun world => { world with native := { world.native with faults } }
  [wrong { next := [(.compress, [-1])], corrupt := true }, .call 0 (.compressBytes [7]), wrong {}]

/-- Calls of two sessions, most of which the library rejects. -/
def mixed : List (DeskTurn State UInt32) :=
  [.call 0 (.compressBytes [7, 8]), .call 1 (.decompressBytes [0, 1, 2] 4),
    .call 0 (.decompressBytes [] 1), .call 1 (.decompressBytes (stored 1 [5, 6]) 1)]

/-- Sessions of the library after some turns. -/
def deskAfter (turns : List (DeskTurn State UInt32)) : Desk State UInt32 :=
  (Desk.new library { native := {} }).after library turns

/-- Behind all these calls, and with all of them once more between, three bytes are restored. -/
theorem vectors_round_trip_mended :
    let before := mended ++ mixed
    let after := before ++ .call 0 (.compressBytes [1, 2, 3]) :: mixed
    let restored (size : Nat) := (((deskAfter after).sessions 1).decompressBytes
      (stored 1 [1, 2, 3]) size (deskAfter after).world).result
    Regular (deskAfter before).world.native ∧ Regular (deskAfter after).world.native ∧
      (((deskAfter before).sessions 0).compressBytes [1, 2, 3] (deskAfter before).world).result =
        .ok (stored 1 [1, 2, 3]) ∧
      restored 3 = .ok [1, 2, 3] ∧
      restored 2 = .error (.operationFailed .decompress Status.bufferError) := by
  obtain ⟨stays, trips⟩ := Desk.vectors_round_trip "simulated" true true { native := {} }
  have found : Regular (deskAfter (mended ++ mixed)).world.native :=
    stays mended mixed (by decide) ⟨rfl, rfl, rfl, rfl, rfl⟩
  have left := stays (mended ++ mixed) (.call 0 (.compressBytes [1, 2, 3]) :: mixed) (by decide)
    found
  have made : (((deskAfter (mended ++ mixed)).sessions 0).compressBytes [1, 2, 3]
      (deskAfter (mended ++ mixed)).world).result = .ok (stored 1 [1, 2, 3]) := by decide +kernel
  obtain ⟨-, -, restores⟩ := trips (mended ++ mixed) mixed 0 1 [1, 2, 3]
  have sizes := (restores _ found made).2 left
  exact ⟨found, left, made, (sizes 3).1 (by decide) (by decide),
    (sizes 2).2 (by decide) (by decide)⟩

end Simulated

end OffloadCodec

import Mathlib.Data.List.Forall2
import OffloadCodec.IoError
import OffloadCodec.Session

/-!
# Codec calls one after another

A session that codes blocks one after another into one output region goes through a `CodecState`: the
library's record of the session, the region and the library's own state. `EntryPoints.compressNext`
and `EntryPoints.decompressNext` are one call each, written in terms of the library alone, and
`codeEach` codes a list of blocks and stops at the first failure.

A session's call on a whole region is such a step (`Session.compress_follows`,
`Session.decompress_follows`).
-/

namespace OffloadCodec

/-- What a session's calls on one output region go through. -/
structure CodecState (σ ι : Type) where
  /-- The library's record of the session. -/
  record : SessionRecord ι := {}
  /-- Receives the output of every call. -/
  region : Memory
  /-- The library's own state. -/
  native : σ

/-- The first `n` bytes of a region. A program that asks for more than there are stops. -/
def Memory.takeFront (region : Memory) (n : Nat) : Except StreamFailure Bytes :=
  if region.size < n then .error .overrun else .ok (region.read 0 n)

theorem Memory.takeFront_ok {region : Memory} {n : Nat} {bytes : Bytes}
    (taken : region.takeFront n = .ok bytes) : bytes.length = n ∧ bytes = region.read 0 n := by
  unfold takeFront at taken
  split at taken
  · simp at taken
  · obtain rfl := Except.ok.inj taken
    refine ⟨?_, rfl⟩
    rw [length_read]
    omega

theorem Memory.takeFront_of_ne_overrun {region : Memory} {n : Nat}
    (unstopped : region.takeFront n ≠ .error .overrun) :
    region.takeFront n = .ok (region.read 0 n) := by
  unfold takeFront at unstopped ⊢
  split at unstopped
  · exact absurd rfl unstopped
  · next within => rw [if_neg within]

/-- Taking the front of a region does not fail, unless it stops the program. -/
theorem Memory.takeFront_ne_error {region : Memory} {n : Nat} (e : IoError) :
    region.takeFront n ≠ .error (.error e) := by
  rw [takeFront]
  split
  · exact fun failed => by cases failed
  · exact fun failed => by cases failed

variable {σ ι : Type}

/-- Takes a library's reply in. If the call succeeded its output is the front of the region, as long
as the library reports. -/
def CodecState.settle (state : CodecState σ ι) (operation : Operation) (reply : CodecReply ι × σ) :
    Except StreamFailure Bytes × CodecState σ ι :=
  let region := state.region.write 0 (reply.1.written.take state.region.size)
  let output :=
    match CodecError.ofStatus? operation reply.1.status with
    | none => region.takeFront reply.1.reported.toNat
    | some e => .error (.error (.codec e))
  (output, { record := reply.1.record, region, native := reply.2 })

/-- A call that succeeds leaves its output at the front of the region. -/
theorem CodecState.settle_ok {state after : CodecState σ ι} {operation : Operation}
    {reply : CodecReply ι × σ} {output : Bytes}
    (settled : state.settle operation reply = (.ok output, after)) :
    reply.1.status = Status.ok ∧
      (state.region.write 0 (reply.1.written.take state.region.size)).takeFront
        reply.1.reported.toNat = .ok output := by
  simp only [settle, Prod.mk.injEq] at settled
  obtain ⟨answered, -⟩ := settled
  split at answered
  · next succeeded => exact ⟨CodecError.ofStatus?_eq_none_iff.1 succeeded, answered⟩
  · simp at answered

/-- A call that fails is rejected by the codec, or stops the program. -/
theorem CodecState.settle_error {state after : CodecState σ ι} {operation : Operation}
    {reply : CodecReply ι × σ} {e : IoError}
    (settled : state.settle operation reply = (.error (.error e), after)) :
    ∃ rejection, e = .codec rejection := by
  simp only [settle, Prod.mk.injEq] at settled
  obtain ⟨answered, -⟩ := settled
  split at answered
  · exact absurd answered (Memory.takeFront_ne_error e)
  · next rejection _ =>
    exact ⟨rejection, (StreamFailure.error.inj (Except.error.inj answered)).symm⟩

/-- A reply stops the program only if it reports more than the region has room for. -/
theorem CodecState.settle_ne_overrun {state : CodecState σ ι} {operation : Operation}
    {reply : CodecReply ι × σ}
    (within : reply.1.status = Status.ok → reply.1.reported.toNat ≤ state.region.size) :
    (state.settle operation reply).1 ≠ .error .overrun := by
  rw [settle]
  dsimp only
  cases failed : CodecError.ofStatus? operation reply.1.status with
  | some e => simp
  | none =>
    have fits := within (CodecError.ofStatus?_eq_none_iff.1 failed)
    have inside : ¬(state.region.write 0 (reply.1.written.take state.region.size)).size <
        reply.1.reported.toNat := by
      rw [Memory.size_write]
      omega
    dsimp only
    rw [Memory.takeFront, if_neg inside]
    simp

/-- What the library has written is what it returns, as far as that goes. -/
theorem Memory.takeFront_write {region : Memory} {written : Bytes} {n : Nat}
    (fits : n ≤ region.size) (reaches : n ≤ written.length) :
    (region.write 0 (written.take region.size)).takeFront n = .ok (written.take n) := by
  have inside : ¬(region.write 0 (written.take region.size)).size < n := by
    rw [size_write]
    omega
  have enough : n ≤ (written.take region.size).length := by
    rw [List.length_take]
    omega
  rw [takeFront, if_neg inside, read_write_front fits enough, List.take_take,
    Nat.min_eq_left fits]

/-- Whether a call reaches the library is up to the lengths alone. -/
theorem Session.lengths_congr {input input' output output' : View}
    (inputs : input.length = input'.length) (outputs : output.length = output'.length)
    (what : String) : Session.lengths input output what = Session.lengths input' output' what := by
  simp only [Session.lengths, View.length32, View.capacity32, inputs, outputs]

/-- A call reaches the library with these lengths. -/
theorem Session.lengths_ok_iff {input output : View} {what : String} {both : UInt32 × UInt32} :
    Session.lengths input output what = .ok both ↔
      input.length ≤ maxNativeLength ∧ 0 < output.length ∧ output.length ≤ maxNativeLength ∧
        both = (UInt32.ofNat input.length, UInt32.ofNat output.length) := by
  unfold Session.lengths
  cases first : input.length32 with
  | error e =>
    refine ⟨fun checked => by simp at checked, fun within => ?_⟩
    rw [View.length32_ok_iff.2 ⟨within.1, rfl⟩] at first
    simp at first
  | ok length =>
    obtain ⟨fits, rfl⟩ := View.length32_ok_iff.1 first
    cases second : output.capacity32 what with
    | error e =>
      refine ⟨fun checked => by simp at checked, fun within => ?_⟩
      rw [View.capacity32_ok_iff.2 ⟨within.2.1, within.2.2.1, rfl⟩] at second
      simp at second
    | ok capacity =>
      obtain ⟨positive, bounded, rfl⟩ := View.capacity32_ok_iff.1 second
      refine ⟨fun checked => ⟨fits, positive, bounded, (Except.ok.inj checked).symm⟩,
        fun within => ?_⟩
      rw [within.2.2.2]

namespace EntryPoints

/-- The size of a region as a capacity. -/
theorem toNat_capacity {size : Nat} (bounded : size ≤ maxNativeLength) :
    (UInt32.ofNat size).toNat = size :=
  UInt32.toNat_ofNat_of_lt' (Nat.lt_succ_of_le bounded)

/-- Compresses one more block, which may take up the whole region. -/
def compressNext (entries : EntryPoints σ ι) (state : CodecState σ ι) (block : Bytes) :
    Except StreamFailure Bytes × CodecState σ ι :=
  match Session.lengths (.whole (.ofBytes block)) (.whole state.region)
      "compressor output buffer" with
  | .error e => (.error (.error (.codec e)), state)
  | .ok (_, capacity) =>
    state.settle .compress (entries.compress state.record block capacity true state.native)

/-- Decompresses one more payload, which may take up the whole region. -/
def decompressNext (entries : EntryPoints σ ι) (state : CodecState σ ι) (payload : Bytes) :
    Except StreamFailure Bytes × CodecState σ ι :=
  match Session.lengths (.whole (.ofBytes payload)) (.whole state.region)
      "decompressor output buffer" with
  | .error e => (.error (.error (.codec e)), state)
  | .ok (_, capacity) =>
    state.settle .decompress (entries.decompress state.record payload capacity state.native)

@[simp] theorem size_region_compressNext (entries : EntryPoints σ ι) (state : CodecState σ ι)
    (block : Bytes) : (entries.compressNext state block).2.region.size = state.region.size := by
  unfold compressNext
  split <;> rfl

@[simp] theorem size_region_decompressNext (entries : EntryPoints σ ι) (state : CodecState σ ι)
    (payload : Bytes) :
    (entries.decompressNext state payload).2.region.size = state.region.size := by
  unfold decompressNext
  split <;> rfl

/-- A block is rejected by the codec, or the program stops. -/
theorem compressNext_error {entries : EntryPoints σ ι} {state after : CodecState σ ι}
    {block : Bytes} {e : IoError}
    (rejected : entries.compressNext state block = (.error (.error e), after)) :
    ∃ rejection, e = .codec rejection := by
  unfold compressNext at rejected
  split at rejected
  · simp only [Prod.mk.injEq, Except.error.injEq, StreamFailure.error.injEq] at rejected
    exact ⟨_, rejected.1.symm⟩
  · exact CodecState.settle_error rejected

/-- A payload is rejected by the codec, or the program stops. -/
theorem decompressNext_error {entries : EntryPoints σ ι} {state after : CodecState σ ι}
    {payload : Bytes} {e : IoError}
    (rejected : entries.decompressNext state payload = (.error (.error e), after)) :
    ∃ rejection, e = .codec rejection := by
  unfold decompressNext at rejected
  split at rejected
  · simp only [Prod.mk.injEq, Except.error.injEq, StreamFailure.error.injEq] at rejected
    exact ⟨_, rejected.1.symm⟩
  · exact CodecState.settle_error rejected

end EntryPoints

/-- Codes inputs in order until one fails: their outputs, and the state after the last call. -/
def codeEach {τ : Type} (code : τ → Bytes → Except StreamFailure Bytes × τ) :
    τ → List Bytes → Except StreamFailure (List Bytes) × τ
  | state, [] => (.ok [], state)
  | state, input :: inputs =>
    match code state input with
    | (.error e, state) => (.error e, state)
    | (.ok output, state) =>
      match codeEach code state inputs with
      | (.error e, state) => (.error e, state)
      | (.ok outputs, state) => (.ok (output :: outputs), state)

theorem codeEach_cons {τ : Type} {code : τ → Bytes → Except StreamFailure Bytes × τ}
    {state middle last : τ} {input output : Bytes} {inputs outputs : List Bytes}
    (first : code state input = (.ok output, middle))
    (later : codeEach code middle inputs = (.ok outputs, last)) :
    codeEach code state (input :: inputs) = (.ok (output :: outputs), last) := by
  rw [codeEach, first]
  simp only [later]

/-- One more input behind those that are coded. -/
theorem codeEach_concat {τ : Type} {code : τ → Bytes → Except StreamFailure Bytes × τ}
    {state middle last : τ} {inputs outputs : List Bytes} {input output : Bytes}
    (coded : codeEach code state inputs = (.ok outputs, middle))
    (next : code middle input = (.ok output, last)) :
    codeEach code state (inputs ++ [input]) = (.ok (outputs ++ [output]), last) := by
  induction inputs generalizing state outputs with
  | nil =>
    obtain ⟨rfl, rfl⟩ := by simpa only [codeEach, Prod.mk.injEq, Except.ok.injEq] using coded
    exact codeEach_cons next rfl
  | cons first inputs ih =>
    rw [codeEach] at coded
    split at coded
    · simp at coded
    · next here between coded_first =>
      split at coded
      · simp at coded
      · next others after coded_rest =>
        obtain ⟨rfl, rfl⟩ := by simpa only [Prod.mk.injEq, Except.ok.injEq] using coded
        exact codeEach_cons coded_first (ih coded_rest)

/-- If every call that succeeds relates its input and its output, then inputs and outputs are related
one by one. -/
theorem codeEach_forall₂ {τ : Type} {code : τ → Bytes → Except StreamFailure Bytes × τ}
    {kept : τ → Prop} {related : Bytes → Bytes → Prop}
    (step : ∀ state input output after, kept state → code state input = (.ok output, after) →
      related input output ∧ kept after)
    {state : τ} (before : kept state) {inputs outputs : List Bytes}
    (coded : (codeEach code state inputs).1 = .ok outputs) :
    List.Forall₂ related inputs outputs := by
  induction inputs generalizing state outputs with
  | nil =>
    obtain rfl := Except.ok.inj coded
    exact .nil
  | cons input inputs ih =>
    rw [codeEach] at coded
    rcases first : code state input with ⟨_ | output, middle⟩
    · simp [first] at coded
    · obtain ⟨here, between⟩ := step _ _ _ _ before first
      rw [first] at coded
      dsimp only at coded
      rcases rest : codeEach code middle inputs with ⟨_ | others, last⟩
      · simp [rest] at coded
      · rw [rest] at coded
        obtain rfl := Except.ok.inj coded
        exact .cons here (ih between (congrArg Prod.fst rest))

/-- A call for the block succeeded and reported the length of the payload. -/
def EntryPoints.Reported (entries : EntryPoints σ ι) (block payload : Bytes) : Prop :=
  ∃ record capacity native,
    let reply := (entries.compress record block capacity true native).1
    reply.status = Status.ok ∧ payload.length = reply.reported.toNat

theorem EntryPoints.compressNext_reported {entries : EntryPoints σ ι} {state after : CodecState σ ι}
    {block payload : Bytes} (coded : entries.compressNext state block = (.ok payload, after)) :
    entries.Reported block payload := by
  unfold compressNext at coded
  split at coded
  · simp at coded
  · obtain ⟨succeeded, front⟩ := CodecState.settle_ok coded
    exact ⟨_, _, _, succeeded, (Memory.takeFront_ok front).1⟩

theorem EntryPoints.codeEach_reported {entries : EntryPoints σ ι} {state : CodecState σ ι}
    {blocks payloads : List Bytes}
    (coded : (codeEach entries.compressNext state blocks).1 = .ok payloads) :
    List.Forall₂ entries.Reported blocks payloads := by
  have step : ∀ (state : CodecState σ ι) (block payload : Bytes) (after : CodecState σ ι), True →
      entries.compressNext state block = (.ok payload, after) →
      entries.Reported block payload ∧ True :=
    fun _ _ _ _ _ first => ⟨compressNext_reported first, trivial⟩
  exact codeEach_forall₂ step trivial coded

/-! ## A session's calls -/

/-- What a call obtained: the front of its region, as long as the library reports. -/
def Served.taken (served : Served σ ι) : Except StreamFailure Bytes :=
  match served.result with
  | .error e => .error (.error (.codec e))
  | .ok n => served.output.memory.takeFront n.toNat

/-- A session's call did what a codec step does. -/
structure Served.Follows (served : Served σ ι) (session : Session σ ι) (world : World σ)
    (step : Except StreamFailure Bytes × CodecState σ ι) : Prop where
  taken : served.taken = step.1
  session : served.session = { session with record := step.2.record }
  region : served.output.memory = step.2.region
  world : served.world = { world with native := step.2.native }

namespace Session

/-- What a session's calls on a region go through. -/
def codecState (session : Session σ ι) (region : Memory) (world : World σ) : CodecState σ ι :=
  { record := session.record, region, native := world.native }

/-- A call that does not reach the library changes nothing. -/
theorem rejected_follows (session : Session σ ι) (region : Memory) (world : World σ)
    (e : CodecError) :
    Served.Follows ⟨.error e, session, .whole region, world⟩ session world
      (.error (.error (.codec e)), session.codecState region world) :=
  ⟨rfl, rfl, rfl, rfl⟩

theorem accept_follows (session : Session σ ι) (operation : Operation) (region : Memory)
    (world : World σ) (reply : CodecReply ι × σ) :
    (session.accept operation (.whole region) world reply).Follows session world
      ((session.codecState region world).settle operation reply) := by
  refine ⟨?_, rfl, rfl, rfl⟩
  simp only [Served.taken, accept, CodecState.settle]
  cases CodecError.ofStatus? operation reply.1.status <;> rfl

theorem compress_follows (session : Session σ ι) (input : Bytes) (region : Memory)
    (world : World σ) :
    (session.compress (.whole (.ofBytes input)) (.whole region) world).Follows session world
      (session.library.entries.compressNext (session.codecState region world) input) := by
  have bytes : (View.whole (.ofBytes input)).bytes = input := Memory.read_ofBytes input
  rw [compress, EntryPoints.compressNext, bytes]
  dsimp only [codecState]
  cases lengths (.whole (.ofBytes input)) (.whole region) "compressor output buffer" with
  | error e => exact session.rejected_follows region world e
  | ok both => exact session.accept_follows .compress region world _

theorem decompress_follows (session : Session σ ι) (input : Bytes) (region : Memory)
    (world : World σ) :
    (session.decompress (.whole (.ofBytes input)) (.whole region) world).Follows session world
      (session.library.entries.decompressNext (session.codecState region world) input) := by
  have bytes : (View.whole (.ofBytes input)).bytes = input := Memory.read_ofBytes input
  rw [decompress, EntryPoints.decompressNext, bytes]
  dsimp only [codecState]
  cases lengths (.whole (.ofBytes input)) (.whole region) "decompressor output buffer" with
  | error e => exact session.rejected_follows region world e
  | ok both => exact session.accept_follows .decompress region world _

end Session

end OffloadCodec

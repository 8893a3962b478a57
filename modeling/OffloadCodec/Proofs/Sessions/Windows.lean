import OffloadCodec.Proofs.Levels.Threads
import OffloadCodec.Proofs.Words

/-!
# Windows of a session's calls

A view is made of a region, an offset and a length exactly if they lie inside it, and shows those
bytes (`View.range_ok_iff`, `View.shows`). Formed on words, with a sum that may overflow, the check
comes to the same (`View.checkRange_eq`).

A codec call looks at the lengths of its two views, and either refuses them and leaves all as it
was, or makes one call with the bytes that its input shows and the length of its output
(`Session.HandsOver`). What the library writes then overwrites the window that it was given, and the
rest of the caller's region stays (`View.Overwrites`).
-/

namespace OffloadCodec

variable {σ ι : Type}

/-! ## Ranges -/

namespace View

/-- The check of a range as words make it: their sum is a word and within the capacity. -/
def checkRange (capacity offset length : UInt64) : Except CodecError Unit :=
  match Word.add? offset length with
  | some last =>
    if last ≤ capacity then .ok ()
    else .error (.outOfRange offset.toNat length.toNat capacity.toNat)
  | none => .error (.outOfRange offset.toNat length.toNat capacity.toNat)

/-- A window on `length` bytes of a region from `offset` on. -/
structure Shows (view : View) (memory : Memory) (offset length : Nat) : Prop where
  region : view.memory = memory
  start : view.offset = offset
  extent : view.length = length
  count : view.bytes.length = length
  shown : ∀ i < length, view.bytes[i]? = memory.toBytes[offset + i]?

@[simp] theorem length_bytes (view : View) : view.bytes.length = view.length := by
  have inside := view.inside
  rw [bytes, Memory.length_read]
  omega

theorem shows (view : View) : view.Shows view.memory view.offset view.length where
  region := rfl
  start := rfl
  extent := rfl
  count := view.length_bytes
  shown i within := by rw [bytes_eq, List.getElem?_take_of_lt within, List.getElem?_drop]

theorem range_ok_iff {memory : Memory} {offset length : Nat} {view : View} :
    range memory offset length = .ok view ↔
      offset + length ≤ memory.size ∧ view.memory = memory ∧ view.offset = offset ∧
        view.length = length := by
  unfold range
  constructor
  · intro made
    split at made
    · next inside =>
      obtain rfl := Except.ok.inj made
      exact ⟨inside, rfl, rfl, rfl⟩
    · cases made
  · obtain ⟨_, _, _, inside⟩ := view
    rintro ⟨-, rfl, rfl, rfl⟩
    exact dif_pos inside

theorem range_error_iff {memory : Memory} {offset length : Nat} {e : CodecError} :
    range memory offset length = .error e ↔
      memory.size < offset + length ∧ e = .outOfRange offset length memory.size := by
  unfold range
  split
  · next inside => exact iff_of_false (fun made => by cases made) fun past => by omega
  · next outside => simp [Nat.lt_of_not_le outside, eq_comm]

/-- The check on words makes no difference, overflows included. -/
theorem checkRange_eq {memory : Memory} (addressable : memory.size < UInt64.size)
    (offset length : UInt64) :
    checkRange (UInt64.ofNat memory.size) offset length =
      (range memory offset.toNat length.toNat).map fun _ => () := by
  have size : (UInt64.ofNat memory.size).toNat = memory.size :=
    UInt64.toNat_ofNat_of_lt' addressable
  unfold checkRange range
  cases added : Word.add? offset length with
  | none =>
    have overflows : ¬offset.toNat + length.toNat ≤ memory.size := by
      have past := Word.ofNat?_eq_none_iff.1 added
      omega
    simp only [dif_neg overflows, size]
    rfl
  | some last =>
    have sum := Word.toNat_of_add? added
    have same : last ≤ UInt64.ofNat memory.size ↔
        offset.toNat + length.toNat ≤ memory.size := by
      rw [UInt64.le_iff_toNat_le, size, sum]
    by_cases inside : offset.toNat + length.toNat ≤ memory.size
    · simp only [if_pos (same.2 inside), dif_pos inside]
      rfl
    · simp only [if_neg (mt same.1 inside), dif_neg inside, size]
      rfl

end View

/-! ## What is written -/

theorem Memory.toBytes_write_inside {m : Memory} {offset : Nat} {bytes : Bytes}
    (fits : offset + bytes.length ≤ m.size) :
    (m.write offset bytes).toBytes =
      m.toBytes.take offset ++ (bytes ++ m.toBytes.drop (offset + bytes.length)) := by
  rw [toBytes_write, Nat.sub_eq_zero_of_le (by omega), List.replicate_zero, List.append_nil,
    List.append_assoc]
  apply List.take_of_length_le
  simp only [List.length_append, List.length_take, List.length_drop, length_toBytes]
  omega

/-- Bytes in front of what is written stay. -/
theorem Memory.toBytes_write_before {m : Memory} {offset i : Nat} {bytes : Bytes}
    (fits : offset + bytes.length ≤ m.size) (before : i < offset) :
    (m.write offset bytes).toBytes[i]? = m.toBytes[i]? := by
  have front : i < (m.toBytes.take offset).length := by
    rw [List.length_take, length_toBytes]
    omega
  rw [toBytes_write_inside fits, List.getElem?_append_left front,
    List.getElem?_take_of_lt before]

/-- Bytes behind what is written stay. -/
theorem Memory.toBytes_write_behind {m : Memory} {offset i : Nat} {bytes : Bytes}
    (fits : offset + bytes.length ≤ m.size) (behind : offset + bytes.length ≤ i) :
    (m.write offset bytes).toBytes[i]? = m.toBytes[i]? := by
  have front : (m.toBytes.take offset).length = offset := by
    rw [List.length_take, length_toBytes]
    omega
  rw [toBytes_write_inside fits, List.getElem?_append_right (by omega), front,
    List.getElem?_append_right (by omega), List.getElem?_drop]
  congr 1
  omega

theorem Memory.toBytes_write_at {m : Memory} {offset i : Nat} {bytes : Bytes}
    (fits : offset + bytes.length ≤ m.size) (within : i < bytes.length) :
    (m.write offset bytes).toBytes[offset + i]? = bytes[i]? := by
  have front : (m.toBytes.take offset).length = offset := by
    rw [List.length_take, length_toBytes]
    omega
  rw [toBytes_write_inside fits, List.getElem?_append_right (by omega), front,
    Nat.add_sub_cancel_left, List.getElem?_append_left within]

/-- Bytes are written from the start of a window on and nothing else changes. A library that writes
no more than there is room for has all of its bytes written. -/
structure View.Overwrites (before : View) (written : Bytes) (after : View) : Prop where
  offset : after.offset = before.offset
  length : after.length = before.length
  size : after.memory.size = before.memory.size
  inside : ∀ i < before.length, i < written.length →
    after.memory.toBytes[before.offset + i]? = written[i]?
  unwritten : ∀ i, written.length ≤ i → i < before.length →
    after.memory.toBytes[before.offset + i]? = before.memory.toBytes[before.offset + i]?
  outside : ∀ i, i < before.offset ∨ before.offset + before.length ≤ i →
    after.memory.toBytes[i]? = before.memory.toBytes[i]?
  whole : written.length ≤ before.length →
    after.memory = before.memory.write before.offset written

theorem View.overwrites_store (view : View) (written : Bytes) :
    view.Overwrites written (view.store written) := by
  have within := view.inside
  have cut : (written.take view.length).length = min view.length written.length :=
    List.length_take
  have fits : view.offset + (written.take view.length).length ≤ view.memory.size := by omega
  exact
    { offset := rfl
      length := rfl
      size := rfl
      inside := fun i inside reaches =>
        (Memory.toBytes_write_at fits (by omega)).trans (List.getElem?_take_of_lt inside)
      unwritten := fun i past inside => Memory.toBytes_write_behind fits (by omega)
      outside := fun i outside => outside.elim (Memory.toBytes_write_before fits)
        fun behind => Memory.toBytes_write_behind fits (by omega)
      whole := fun room => by rw [View.store, List.take_of_length_le room] }

/-! ## Codec calls -/

namespace Session

/-- Both lengths fit 32 bits, and there is room for output. -/
def Fit (input output : View) : Prop :=
  input.length ≤ maxNativeLength ∧ 0 < output.length ∧ output.length ≤ maxNativeLength

instance (input output : View) : Decidable (Fit input output) := inferInstanceAs (Decidable (_ ∧ _))

/-- What a codec call on two views comes to: a refusal for the first length that does not fit, which
leaves everything as it was, or what the library replies to one request. -/
inductive HandsOver (operation : Operation) (what : String) (session : Session σ ι)
    (input output : View) (world : World σ) : Served σ ι → Prop
  | longInput (long : maxNativeLength < input.length) :
    HandsOver operation what session input output world
      ⟨.error (.tooLarge input.length), session, output, world⟩
  | noRoom (fits : input.length ≤ maxNativeLength) (empty : output.length = 0) :
    HandsOver operation what session input output world
      ⟨.error (.outOfMemory what), session, output, world⟩
  | longOutput (fits : input.length ≤ maxNativeLength) (long : maxNativeLength < output.length) :
    HandsOver operation what session input output world
      ⟨.error (.tooLarge output.length), session, output, world⟩
  | asked {request : CodecRequest} {reply : CodecReply ι} {native : σ} {after : View}
      (fit : Fit input output) (of_operation : request.operation = operation)
      (viewed : request.input = input.bytes) (length : request.input.length = input.length)
      (capacity : request.capacity.toNat = output.length)
      (replied : session.library.entries.reply session.record request world.native =
        (reply, native))
      (written : output.Overwrites reply.written after) :
    HandsOver operation what session input output world
      { result :=
          match CodecError.ofStatus? operation reply.status with
          | none => .ok reply.reported
          | some e => .error e
        session := { session with record := reply.record }
        output := after
        world := { world with native } }

/-- A call that checks the lengths and then makes its request. -/
theorem handsOver (operation : Operation) (what : String) (session : Session σ ι)
    (input output : View) (world : World σ) :
    HandsOver operation what session input output world
      (match lengths input output what with
        | .error e => ⟨.error e, session, output, world⟩
        | .ok (_, capacity) =>
          session.accept operation output world
            (session.library.entries.reply session.record ⟨operation, input.bytes, capacity⟩
              world.native)) := by
  by_cases fits : input.length ≤ maxNativeLength
  · by_cases empty : output.length = 0
    · simp only [lengths, View.length32, View.capacity32, if_pos fits, if_pos empty]
      exact .noRoom fits empty
    · by_cases narrow : output.length ≤ maxNativeLength
      · have room := Nat.pos_of_ne_zero empty
        rw [lengths_ok_iff.2 ⟨fits, room, narrow, rfl⟩]
        exact .asked ⟨fits, room, narrow⟩ rfl rfl input.length_bytes
          (EntryPoints.toNat_capacity narrow) rfl (output.overwrites_store _)
      · simp only [lengths, View.length32, View.capacity32, if_pos fits, if_neg empty,
          if_neg narrow]
        exact .longOutput fits (Nat.lt_of_not_le narrow)
  · simp only [lengths, View.length32, if_neg fits]
    exact .longInput (Nat.lt_of_not_le fits)

end Session

/-- The library's entry point that a request goes to. -/
def CodecRequest.call (request : CodecRequest) (record : SessionRecord ι) : LibraryCall ι :=
  match request.operation with
  | .compress => .compress record request.input request.capacity true
  | _ => .decompress record request.input request.capacity

theorem EntryPoints.shared_reply (entries : EntryPoints σ ι) (record : SessionRecord ι)
    (request : CodecRequest) (turns : Turns σ ι) :
    (entries.shared.reply record request turns).2 = turns.note (request.call record) := by
  obtain ⟨operation, input, capacity⟩ := request
  cases operation with
  | compress => rfl
  | _ => rfl

/-- The one call that is made for two views that fit, and otherwise none. -/
theorem Session.HandsOver.notes {library : Library σ ι} {operation : Operation} {what : String}
    {session : Session (Turns σ ι) ι} {input output : View} {world : World (Turns σ ι)}
    {served : Served (Turns σ ι) ι} (on : session.library = library.shared)
    (hands : HandsOver operation what session input output world served) :
    served.world.native =
      if Fit input output then
        world.native.note (CodecRequest.call
          ⟨operation, input.bytes, UInt32.ofNat output.length⟩ session.record)
      else world.native := by
  cases hands with
  | longInput long => exact (if_neg fun fit => Nat.not_le.2 long fit.1).symm
  | noRoom _ empty => exact (if_neg fun fit => Nat.ne_of_gt fit.2.1 empty).symm
  | longOutput _ long => exact (if_neg fun fit => Nat.not_le.2 long fit.2.2).symm
  | @asked request reply native after fit of_operation viewed length capacity replied written =>
    obtain ⟨request, _, asked⟩ := request
    obtain rfl : request = operation := of_operation
    obtain rfl : _ = input.bytes := viewed
    have same : asked = UInt32.ofNat output.length :=
      UInt32.toNat_inj.1 (capacity.trans (EntryPoints.toNat_capacity fit.2.2).symm)
    have noted := library.entries.shared_reply session.record ⟨request, input.bytes, asked⟩
      world.native
    rw [on] at replied
    rw [if_pos fit, ← same, ← noted]
    exact (congrArg Prod.snd replied).symm

namespace Session

/-- A range is refused exactly if it does not lie inside the region, also where words overflow, and
otherwise shows what it is asked for. A codec call refuses lengths in the order of its checks, or
makes one call with exactly its two windows, and writes nowhere but in the window of its output. -/
theorem keeps_to_windows :
    (∀ (memory : Memory) (offset length : Nat),
      ((∃ view, View.range memory offset length = .ok view) ↔ offset + length ≤ memory.size) ∧
      (∀ view, View.range memory offset length = .ok view → view.Shows memory offset length) ∧
      ∀ e, View.range memory offset length = .error e →
        e = .outOfRange offset length memory.size) ∧
    (∀ (memory : Memory) (offset length : UInt64), memory.size < UInt64.size →
      View.checkRange (UInt64.ofNat memory.size) offset length =
        (View.range memory offset.toNat length.toNat).map fun _ => ()) ∧
    (∀ (session : Session σ ι) (input output : View) (world : World σ),
      HandsOver .compress "compressor output buffer" session input output world
          (session.compress input output world) ∧
        HandsOver .decompress "decompressor output buffer" session input output world
          (session.decompress input output world)) ∧
    ∀ (library : Library σ ι) (record : SessionRecord ι) (input output : View)
        (world : World (Turns σ ι)),
      let session : Session (Turns σ ι) ι := { library := library.shared, record }
      let capacity := UInt32.ofNat output.length
      (session.compress input output world).world.native =
          (if Fit input output then
            world.native.note (.compress record input.bytes capacity true)
          else world.native) ∧
        (session.decompress input output world).world.native =
          if Fit input output then
            world.native.note (.decompress record input.bytes capacity)
          else world.native := by
  refine ⟨fun memory offset length => ⟨?_, ?_, ?_⟩,
    fun memory offset length addressable => View.checkRange_eq addressable offset length,
    fun session input output world =>
      ⟨handsOver .compress _ session input output world,
        handsOver .decompress _ session input output world⟩, ?_⟩
  · constructor
    · rintro ⟨view, made⟩
      exact (View.range_ok_iff.1 made).1
    · intro inside
      exact ⟨⟨memory, offset, length, inside⟩, View.range_ok_iff.2 ⟨inside, rfl, rfl, rfl⟩⟩
  · intro view made
    obtain ⟨-, rfl, rfl, rfl⟩ := View.range_ok_iff.1 made
    exact view.shows
  · intro e refused
    exact (View.range_error_iff.1 refused).2
  · intro library record input output world session capacity
    exact ⟨(handsOver .compress _ session input output world).notes rfl,
      (handsOver .decompress _ session input output world).notes rfl⟩

/-- Three bytes of five are compressed into the middle of a region. -/
theorem keeps_to_windows_middle :
    let input : View := ⟨.ofBytes [9, 1, 2, 3, 9], 1, 3, by decide⟩
    let output : View := ⟨.filled 170 20, 4, 12, by decide⟩
    let session := Session.new Simulated.library
    let served := session.compress input output { native := {} }
    View.checkRange 20 4 12 = (View.range output.memory 4 12).map (fun _ => ()) ∧
      HandsOver .compress "compressor output buffer" session input output { native := {} } served ∧
      served.result = .ok 11 ∧
      served.output.memory.toBytes = List.replicate 4 170 ++
        Simulated.stored 1 [1, 2, 3] ++ List.replicate 5 170 := by
  intro input output session served
  obtain ⟨-, onWords, hands, -⟩ := keeps_to_windows (σ := Simulated.State) (ι := UInt32)
  exact ⟨onWords output.memory 4 12 (by decide), (hands session input output _).1,
    by decide +kernel, by decide +kernel⟩

end Session

end OffloadCodec

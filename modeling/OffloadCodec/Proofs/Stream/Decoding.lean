import OffloadCodec.IoError
import OffloadCodec.Stream.Frame

/-!
# Decoding a complete stream

`Frame.front` says how a byte string begins as a block stream, and `Frame.decode` decodes it frame by
frame, up to the first bad one. The `Ending` says what stands there; a stream is valid if that is the
boundary behind its last frame.

* A frame in front is taken off whole (`Frame.front_frame_append`), and nothing else is (`Frame.front_eq`).
* A part of a frame is no frame: the stream is cut there (`Frame.front_take`).
* A cut of a valid stream decodes to the blocks of the frames that are whole, and it is valid itself
  if it was cut between frames (`Frame.decode_take`).
-/

namespace OffloadCodec.Frame

/-- How decoding ends. -/
inductive Ending
  | boundary
  /-- Fewer bytes than a header. -/
  | cutHeader
  /-- A header with a length out of bounds. -/
  | badLength (length : Nat)
  /-- A header, and fewer bytes than it says behind it. -/
  | cutPayload
  /-- The codec does not decompress a payload. -/
  | rejected (failure : StreamFailure)

/-- The failure that stands for an ending; there is none at a boundary. -/
def Ending.failure? (bound : Nat) : Ending → Option StreamFailure
  | boundary => none
  | cutHeader => some (.error .truncatedHeader)
  | badLength length => some (.error (.lengthOutside length bound))
  | cutPayload => some (.error .sourceEnded)
  | rejected failure => some failure

/-- How a byte string begins. -/
inductive Front
  /-- There is no frame in front. -/
  | stop (ending : Ending)
  /-- A frame with this payload, and what stands behind it. -/
  | payload (payload rest : Bytes)

/-- How a byte string begins, where payloads have at most `bound` bytes. -/
def front (bound : Nat) (stream : Bytes) : Front :=
  if stream.length = 0 then .stop .boundary
  else if stream.length < headerLength then .stop .cutHeader
  else
    let length := Bytes.ofLe (stream.take headerLength)
    let rest := stream.drop headerLength
    if length = 0 ∨ bound < length then .stop (.badLength length)
    else if rest.length < length then .stop .cutPayload
    else .payload (rest.take length) (rest.drop length)

/-- A frame in front is a header with a length in bounds and as many bytes behind it. -/
theorem front_payload {bound : Nat} {stream payload rest : Bytes}
    (framed : front bound stream = .payload payload rest) :
    let length := Bytes.ofLe (stream.take headerLength)
    headerLength + length ≤ stream.length ∧ 0 < length ∧ length ≤ bound ∧
      payload = (stream.drop headerLength).take length ∧
      rest = (stream.drop headerLength).drop length := by
  intro length
  unfold front at framed
  by_cases none : stream.length = 0
  · rw [if_pos none] at framed
    cases framed
  by_cases short : stream.length < headerLength
  · rw [if_neg none, if_pos short] at framed
    cases framed
  rw [if_neg none, if_neg short] at framed
  dsimp only at framed
  by_cases bad : length = 0 ∨ bound < length
  · rw [if_pos bad] at framed
    cases framed
  by_cases cut : (stream.drop headerLength).length < length
  · rw [if_neg bad, if_pos cut] at framed
    cases framed
  rw [if_neg bad, if_neg cut] at framed
  cases framed
  rw [List.length_drop] at cut
  exact ⟨by omega, by omega, by omega, rfl, rfl⟩

theorem length_rest_lt {bound : Nat} {stream payload rest : Bytes}
    (framed : front bound stream = .payload payload rest) : rest.length < stream.length := by
  obtain ⟨enough, positive, -, -, rfl⟩ := front_payload framed
  rw [List.length_drop, List.length_drop]
  omega

/-- Decodes the frames of a byte string up to the first bad one: their blocks, and what stands
there. -/
def decode {τ : Type} (code : τ → Bytes → Except StreamFailure Bytes × τ) (bound : Nat) (state : τ)
    (stream : Bytes) : List Bytes × Ending :=
  match _framed : front bound stream with
  | .stop ending => ([], ending)
  | .payload payload rest =>
    match code state payload with
    | (.error e, _) => ([], .rejected e)
    | (.ok block, state) =>
      let (blocks, ending) := decode code bound state rest
      (block :: blocks, ending)
termination_by stream.length
decreasing_by exact length_rest_lt _framed

variable {bound : Nat} {stream payload rest : Bytes}

/-! ## Frame by frame -/

section Step

variable {τ : Type} {code : τ → Bytes → Except StreamFailure Bytes × τ} {state after : τ}

theorem decode_stop {ending : Ending} (stops : front bound stream = .stop ending) :
    decode code bound state stream = ([], ending) := by
  rw [decode]
  split
  · next ending' stops' =>
    rw [stops, Front.stop.injEq] at stops'
    rw [stops']
  · next framed => cases stops.symm.trans framed

theorem decode_ok {block : Bytes} (framed : front bound stream = .payload payload rest)
    (coded : code state payload = (.ok block, after)) :
    decode code bound state stream =
      (block :: (decode code bound after rest).1, (decode code bound after rest).2) := by
  rw [decode]
  split
  · next stops => cases framed.symm.trans stops
  · next framed' =>
    rw [framed, Front.payload.injEq] at framed'
    obtain ⟨rfl, rfl⟩ := framed'
    rw [coded]

theorem decode_error {e : StreamFailure} (framed : front bound stream = .payload payload rest)
    (coded : code state payload = (.error e, after)) :
    decode code bound state stream = ([], .rejected e) := by
  rw [decode]
  split
  · next stops => cases framed.symm.trans stops
  · next framed' =>
    rw [framed, Front.payload.injEq] at framed'
    obtain ⟨rfl, rfl⟩ := framed'
    rw [coded]

end Step

/-! ## Fronts and frames -/

/-- With a header in front its number decides. -/
theorem front_headed (bound : Nat) {header : Bytes} (headed : header.length = headerLength)
    (rest : Bytes) :
    front bound (header ++ rest) =
      if Bytes.ofLe header = 0 ∨ bound < Bytes.ofLe header then .stop (.badLength (Bytes.ofLe header))
      else if rest.length < Bytes.ofLe header then .stop .cutPayload
      else .payload (rest.take (Bytes.ofLe header)) (rest.drop (Bytes.ofLe header)) := by
  have length : (header ++ rest).length = 4 + rest.length := by
    rw [List.length_append, headed, headerLength]
  rw [front, length, if_neg (by omega), if_neg (by rw [headerLength]; omega),
    List.take_left' headed, List.drop_left' headed]

/-- The header of a frame gives the length of its payload, which has to be in bounds. -/
theorem front_frame_append (fits : payload.length < UInt32.size) (rest : Bytes) :
    front bound (frame payload ++ rest) =
      if payload.length = 0 ∨ bound < payload.length then .stop (.badLength payload.length)
      else .payload payload rest := by
  have whole : ¬(payload ++ rest).length < payload.length := by
    rw [List.length_append]
    omega
  rw [frame, List.append_assoc, front_headed bound (Bytes.length_le32 _), Bytes.ofLe_le32 fits,
    if_neg whole, List.take_left' rfl, List.drop_left' rfl]

theorem front_frame (positive : 0 < payload.length) (within : payload.length ≤ bound)
    (fits : payload.length < UInt32.size) (rest : Bytes) :
    front bound (frame payload ++ rest) = .payload payload rest := by
  rw [front_frame_append fits, if_neg (by omega)]

/-- Four bytes are the header of the number that they denote. -/
theorem le32_ofLe {bytes : Bytes} (length : bytes.length = headerLength) :
    Bytes.le32 (Bytes.ofLe bytes) = bytes := by
  match bytes, length with
  | [b₀, b₁, b₂, b₃], _ =>
    have first := b₀.toNat_lt
    have second := b₁.toNat_lt
    have third := b₂.toNat_lt
    have fourth := b₃.toNat_lt
    simp only [Bytes.ofLe, Bytes.le32, UInt8.size, List.cons.injEq, and_true]
    refine ⟨?_, ?_, ?_, ?_⟩
    all_goals
      apply UInt8.toNat_inj.1
      rw [UInt8.toNat_ofNat']
      omega

theorem ofLe_lt {bytes : Bytes} (length : bytes.length = headerLength) :
    Bytes.ofLe bytes < UInt32.size := by
  match bytes, length with
  | [b₀, b₁, b₂, b₃], _ =>
    have first := b₀.toNat_lt
    have second := b₁.toNat_lt
    have third := b₂.toNat_lt
    have fourth := b₃.toNat_lt
    simp only [Bytes.ofLe, UInt8.size, UInt32.size]
    omega

/-- What is taken off in front is a frame. -/
theorem front_eq (framed : front bound stream = .payload payload rest) :
    stream = frame payload ++ rest ∧ 0 < payload.length ∧ payload.length ≤ bound ∧
      payload.length < UInt32.size := by
  obtain ⟨enough, positive, within, rfl, rfl⟩ := front_payload framed
  have header : (stream.take headerLength).length = headerLength := by
    rw [List.length_take]
    omega
  have length : ((stream.drop headerLength).take
      (Bytes.ofLe (stream.take headerLength))).length =
      Bytes.ofLe (stream.take headerLength) := by
    rw [List.length_take, List.length_drop]
    omega
  rw [length]
  refine ⟨?_, positive, within, ofLe_lt header⟩
  rw [frame, length, le32_ofLe header, List.append_assoc, List.take_append_drop,
    List.take_append_drop]

theorem front_boundary (stops : front bound stream = .stop .boundary) : stream = [] := by
  unfold front at stops
  split at stops
  · next none => exact List.length_eq_zero_iff.1 none
  · dsimp only at stops
    repeat' split at stops
    all_goals cases stops

/-- Only the codec rejects. -/
theorem front_ne_rejected {failure : StreamFailure} :
    front bound stream ≠ .stop (.rejected failure) := by
  intro stops
  unfold front at stops
  dsimp only at stops
  repeat' split at stops
  all_goals cases stops

/-- The front of a frame is cut off within its header or within its payload. -/
theorem front_take (framed : front bound (frame payload ++ rest) = .payload payload rest) {n : Nat}
    (some : 0 < n) (less : n < (frame payload).length) :
    front bound ((frame payload).take n) = .stop .cutHeader ∨
      front bound ((frame payload).take n) = .stop .cutPayload := by
  obtain ⟨-, positive, within, fits⟩ := front_eq framed
  have length : ((frame payload).take n).length = n := by
    rw [List.length_take]
    omega
  have all : (frame payload).length = 4 + payload.length := by
    rw [frame, List.length_append, Bytes.length_le32]
  by_cases short : n < headerLength
  · left
    rw [front, length, if_neg (by omega), if_pos short]
  · right
    have header : ((frame payload).take n).take headerLength = Bytes.le32 payload.length := by
      rw [List.take_take, Nat.min_eq_left (by omega), frame]
      exact List.take_left' (Bytes.length_le32 _)
    have behind : (((frame payload).take n).drop headerLength).length = n - 4 := by
      rw [List.length_drop, length, headerLength]
    rw [front, length, if_neg (by omega), if_neg short]
    dsimp only
    rw [header, Bytes.ofLe_le32 fits, behind, if_neg (by omega), if_pos (by omega)]

/-! ## Cuts -/

/-- The first `n` bytes of the frames of these payloads have so many frames whole. -/
structure CutsAt (payloads : List Bytes) (n whole : Nat) : Prop where
  among : whole ≤ payloads.length
  inside : (encode (payloads.take whole)).length ≤ n
  beyond : ∀ more, whole < more → more ≤ payloads.length →
    n < (encode (payloads.take more)).length

theorem length_encode_take_succ (payload : Bytes) (payloads : List Bytes) (n : Nat) :
    (encode ((payload :: payloads).take (n + 1))).length =
      (frame payload).length + (encode (payloads.take n)).length := by
  rw [List.take_succ_cons, encode, encode, List.flatMap_cons, List.length_append]

theorem CutsAt.first {payloads : List Bytes} {n : Nat} (less : n < (frame payload).length) :
    CutsAt (payload :: payloads) n 0 := by
  refine ⟨Nat.zero_le _, Nat.zero_le _, fun more positive _ => ?_⟩
  obtain ⟨before, rfl⟩ := Nat.exists_eq_succ_of_ne_zero (Nat.ne_of_gt positive)
  rw [length_encode_take_succ]
  omega

theorem CutsAt.later {payloads : List Bytes} {n whole : Nat} (cuts : CutsAt payloads n whole)
    (payload : Bytes) : CutsAt (payload :: payloads) ((frame payload).length + n) (whole + 1) := by
  obtain ⟨among, inside, beyond⟩ := cuts
  refine ⟨Nat.succ_le_succ among, ?_, fun more further within => ?_⟩
  · rw [length_encode_take_succ]
    omega
  · obtain ⟨before, rfl⟩ := Nat.exists_eq_succ_of_ne_zero (Nat.ne_of_gt (Nat.zero_lt_of_lt further))
    rw [List.length_cons] at within
    have next := beyond before (by omega) (by omega)
    rw [length_encode_take_succ]
    omega

/-- A valid stream is made of frames. A cut of it decodes to the blocks of those that it has whole,
and ends at a boundary if it ends with the last one of them. -/
theorem decode_take {τ : Type} {code : τ → Bytes → Except StreamFailure Bytes × τ} {state : τ}
    {blocks : List Bytes} (valid : decode code bound state stream = (blocks, .boundary)) :
    ∃ payloads, stream = encode payloads ∧ payloads.length = blocks.length ∧
      ∀ n ≤ stream.length, ∃ whole, CutsAt payloads n whole ∧
        (decode code bound state (stream.take n)).1 = blocks.take whole ∧
        ((encode (payloads.take whole)).length = n →
          (decode code bound state (stream.take n)).2 = .boundary) ∧
        ((encode (payloads.take whole)).length ≠ n →
          (decode code bound state (stream.take n)).2 = .cutHeader ∨
            (decode code bound state (stream.take n)).2 = .cutPayload) := by
  fun_induction decode code bound state stream generalizing blocks with
  | case1 state stream ending stops =>
    obtain ⟨rfl, rfl⟩ := by simpa only [Prod.mk.injEq] using valid
    obtain rfl := front_boundary stops
    refine ⟨[], rfl, rfl, fun n short => ⟨0, ⟨Nat.le_refl 0, Nat.zero_le n, ?_⟩, ?_⟩⟩
    · intro more positive none
      exact absurd none (by simp only [List.length_nil]; omega)
    · have nothing : ([] : Bytes).take n = [] := List.take_nil
      rw [nothing, decode_stop stops]
      exact ⟨rfl, fun _ => rfl, fun uneven => absurd (Nat.le_zero.1 short).symm uneven⟩
  | case2 => simp at valid
  | case3 state stream payload rest framed block after coded blocks' ending' decoded ih =>
    obtain ⟨rfl, rfl⟩ := by simpa only [Prod.mk.injEq] using valid
    obtain ⟨payloads, rfl, lengths, cuts⟩ := ih decoded
    obtain ⟨rfl, -, -, -⟩ := front_eq framed
    refine ⟨payload :: payloads, rfl, congrArg Nat.succ lengths, fun n short => ?_⟩
    rcases Nat.lt_or_ge n (frame payload).length with less | enough
    · -- The cut is within the first frame, or in front of it.
      have cut : (frame payload ++ encode payloads).take n = (frame payload).take n :=
        List.take_append_of_le_length (Nat.le_of_lt less)
      refine ⟨0, .first less, ?_⟩
      rw [cut]
      rcases Nat.eq_zero_or_pos n with rfl | some
      · have stops : front bound [] = .stop .boundary := rfl
        rw [List.take_zero, decode_stop stops]
        exact ⟨rfl, fun _ => rfl, fun uneven => absurd rfl uneven⟩
      · have uneven : (encode ((payload :: payloads).take 0)).length ≠ n := Nat.ne_of_lt some
        rcases front_take framed some less with stops | stops
        · rw [decode_stop stops]
          exact ⟨rfl, fun even => absurd even uneven, fun _ => .inl rfl⟩
        · rw [decode_stop stops]
          exact ⟨rfl, fun even => absurd even uneven, fun _ => .inr rfl⟩
    · -- The first frame is whole, and what is left is a cut of the other ones.
      obtain ⟨m, rfl⟩ := Nat.exists_eq_add_of_le enough
      have within : m ≤ (encode payloads).length := by
        rw [List.length_append] at short
        omega
      obtain ⟨whole, at_, front_, even, uneven⟩ := cuts m within
      obtain ⟨-, positive, bounded, fits⟩ := front_eq framed
      have cut : (frame payload ++ encode payloads).take ((frame payload).length + m) =
          frame payload ++ (encode payloads).take m := by
        rw [List.take_append, List.take_of_length_le enough, Nat.add_sub_cancel_left]
      refine ⟨whole + 1, at_.later payload, ?_⟩
      rw [cut, decode_ok (front_frame positive bounded fits _) coded, length_encode_take_succ,
        front_, List.take_succ_cons]
      exact ⟨rfl, fun same => even (by omega), fun differs => uneven (by omega)⟩

end OffloadCodec.Frame

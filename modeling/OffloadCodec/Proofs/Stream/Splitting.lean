import OffloadCodec.Proofs.Stream.Decoding

/-!
# Taking a complete stream apart

`Frame.split` takes a whole stream apart before anything is decoded; `Frame.decode` takes off one
frame after another and decodes it at once. Both go by the front of what is left
(`Frame.split_eq_front`), so they meet the same frames.

* Splitting inverts framing: it succeeds for the frames of payloads with admissible lengths, and for
  nothing else (`Frame.split_eq_ok_iff`).
* A codec that treats every payload on its own decodes a stream to its end exactly if the stream can
  be taken apart and every payload is decoded (`Frame.EachBy.decode_boundary_iff`).
-/

namespace OffloadCodec.Frame

variable {bound : Nat} {stream payload rest : Bytes} {payloads : List Bytes}

/-- What is wrong with a complete stream that ends like this; nothing at a boundary. -/
def Ending.defect? (bound : Nat) : Ending → Option IoError
  | boundary => none
  | cutHeader => some .truncatedHeader
  | badLength length => some (.lengthOutside length bound)
  | cutPayload => some .truncatedPayload
  | rejected _ => none

/-- A property of every stream without a frame in front, and of a stream with one if it holds of what
stands behind the frame, holds of all streams. -/
theorem front_induction (bound : Nat) {P : Bytes → Prop}
    (stop : ∀ stream ending, front bound stream = .stop ending → P stream)
    (payload : ∀ stream payload rest, front bound stream = .payload payload rest → P rest → P stream)
    (stream : Bytes) : P stream := by
  induction length : stream.length using Nat.strongRecOn generalizing stream with
  | ind n ih =>
    subst length
    cases framed : front bound stream with
    | stop ending => exact stop stream ending framed
    | payload first rest =>
      exact payload stream first rest framed (ih _ (length_rest_lt framed) rest rfl)

/-! ## Splitting by the front -/

/-- Fewer bytes than a header are no stream. -/
theorem split_of_short (some : stream ≠ []) (short : stream.length < headerLength) :
    split stream bound = .error .truncatedHeader := by
  rw [split.eq_def]
  split
  · exact absurd rfl some
  · simp only [List.length_cons, headerLength] at short
    omega
  · rfl

/-- With a header in front the length in it decides. -/
theorem split_of_headed (enough : headerLength ≤ stream.length) :
    split stream bound =
      let length := Bytes.ofLe (stream.take headerLength)
      let rest := stream.drop headerLength
      if length = 0 ∨ bound < length then .error (.lengthOutside length bound)
      else if rest.length < length then .error .truncatedPayload
      else (split (rest.drop length) bound).map (rest.take length :: ·) := by
  match stream, enough with
  | b₀ :: b₁ :: b₂ :: b₃ :: rest, _ =>
    have header : (b₀ :: b₁ :: b₂ :: b₃ :: rest).take headerLength = [b₀, b₁, b₂, b₃] := rfl
    have behind : (b₀ :: b₁ :: b₂ :: b₃ :: rest).drop headerLength = rest := rfl
    have taken : ∀ n, (rest.take n).length < n ↔ rest.length < n := by
      intro n
      rw [List.length_take]
      omega
    rw [split, header, behind]
    simp only [taken]
    cases split (rest.drop (Bytes.ofLe [b₀, b₁, b₂, b₃])) bound with
    | ok payloads => rfl
    | error e => rfl

theorem split_eq_front (bound : Nat) (stream : Bytes) :
    split stream bound =
      match front bound stream with
      | .stop ending =>
        match ending.defect? bound with
        | none => .ok []
        | some e => .error e
      | .payload payload rest => (split rest bound).map (payload :: ·) := by
  by_cases none : stream.length = 0
  · obtain rfl := List.length_eq_zero_iff.1 none
    rw [split]
    rfl
  rw [front]
  by_cases short : stream.length < headerLength
  · have some : stream ≠ [] := fun empty => none (congrArg List.length empty)
    rw [if_neg none, if_pos short, split_of_short some short]
    rfl
  rw [if_neg none, if_neg short, split_of_headed (Nat.le_of_not_lt short)]
  dsimp only
  generalize Bytes.ofLe (stream.take headerLength) = length
  by_cases bad : length = 0 ∨ bound < length
  · rw [if_pos bad, if_pos bad]
    rfl
  by_cases cut : (stream.drop headerLength).length < length
  · rw [if_neg bad, if_pos cut, if_neg bad, if_pos cut]
    rfl
  · rw [if_neg bad, if_neg cut, if_neg bad, if_neg cut]

theorem split_of_payload (framed : front bound stream = .payload payload rest) :
    split stream bound = (split rest bound).map (payload :: ·) := by
  rw [split_eq_front, framed]

/-- Behind a frame in front, what is left has to be a stream too. -/
theorem split_of_payload_eq_ok_iff (framed : front bound stream = .payload payload rest) :
    split stream bound = .ok payloads ↔
      ∃ others, split rest bound = .ok others ∧ payloads = payload :: others := by
  rw [split_of_payload framed]
  cases split rest bound with
  | error e =>
    constructor
    · intro whole
      cases whole
    · rintro ⟨others, whole, -⟩
      cases whole
  | ok others =>
    constructor
    · intro whole
      exact ⟨others, rfl, (Except.ok.inj whole).symm⟩
    · rintro ⟨others', same, rfl⟩
      obtain rfl := Except.ok.inj same
      rfl

/-- A stream without a frame in front is empty, or there is something wrong with it. -/
theorem split_of_stop {ending : Ending} (stops : front bound stream = .stop ending) :
    (ending = .boundary ∧ split stream bound = .ok []) ∨
      (ending ≠ .boundary ∧ ∃ e, split stream bound = .error e ∧
        (e.kind = .unexpectedEof ∨ e.kind = .invalidData)) := by
  rw [split_eq_front, stops]
  cases ending with
  | boundary => exact .inl ⟨rfl, rfl⟩
  | cutHeader => exact .inr ⟨nofun, _, rfl, .inl rfl⟩
  | badLength length => exact .inr ⟨nofun, _, rfl, .inr rfl⟩
  | cutPayload => exact .inr ⟨nofun, _, rfl, .inl rfl⟩
  | rejected failure => exact absurd stops front_ne_rejected

/-! ## Splitting inverts framing -/

/-- The payload can be framed for readers that allow `bound` bytes. -/
def Admissible (bound : Nat) (payload : Bytes) : Prop :=
  0 < payload.length ∧ payload.length ≤ bound ∧ payload.length < UInt32.size

theorem split_encode (admissible : ∀ payload ∈ payloads, Admissible bound payload) :
    split (encode payloads) bound = .ok payloads := by
  induction payloads with
  | nil =>
    rw [encode, List.flatMap_nil, split]
  | cons payload payloads ih =>
    obtain ⟨positive, within, fits⟩ := admissible payload List.mem_cons_self
    have later := ih fun other member => admissible other (List.mem_cons_of_mem _ member)
    have framed : front bound (encode (payload :: payloads)) = .payload payload (encode payloads) :=
      front_frame positive within fits _
    rw [split_of_payload framed, later]
    rfl

theorem encode_of_split (whole : split stream bound = .ok payloads) :
    stream = encode payloads ∧ ∀ payload ∈ payloads, Admissible bound payload := by
  induction stream using front_induction bound generalizing payloads with
  | stop stream ending stops =>
    rcases split_of_stop stops with ⟨rfl, nothing⟩ | ⟨-, e, defect, -⟩
    · obtain rfl : [] = payloads := Except.ok.inj (nothing.symm.trans whole)
      exact ⟨front_boundary stops, fun payload member => absurd member List.not_mem_nil⟩
    · cases defect.symm.trans whole
  | payload stream first rest framed ih =>
    obtain ⟨others, taken, rfl⟩ := (split_of_payload_eq_ok_iff framed).1 whole
    obtain ⟨rfl, admissible⟩ := ih taken
    obtain ⟨rfl, first_admissible⟩ := front_eq framed
    exact ⟨rfl, List.forall_mem_cons.2 ⟨first_admissible, admissible⟩⟩

/-- The streams that can be taken apart are the frames of admissible payloads. -/
theorem split_eq_ok_iff :
    split stream bound = .ok payloads ↔
      stream = encode payloads ∧ ∀ payload ∈ payloads, Admissible bound payload := by
  constructor
  · exact encode_of_split
  · rintro ⟨rfl, admissible⟩
    exact split_encode admissible

/-- What is wrong with a stream is that it ends too early or that a length is out of bounds. -/
theorem kind_of_split_error {e : IoError} (defect : split stream bound = .error e) :
    e.kind = .unexpectedEof ∨ e.kind = .invalidData := by
  induction stream using front_induction bound with
  | stop stream ending stops =>
    rcases split_of_stop stops with ⟨-, nothing⟩ | ⟨-, e', defect', kind⟩
    · cases nothing.symm.trans defect
    · obtain rfl : e' = e := Except.error.inj (defect'.symm.trans defect)
      exact kind
  | payload stream first rest framed ih =>
    rw [split_of_payload framed] at defect
    rcases taken : split rest bound with e' | others
    · rw [taken] at defect
      obtain rfl : e' = e := Except.error.inj defect
      exact ih taken
    · rw [taken] at defect
      cases defect

/-! ## Decoding payload by payload -/

section PayloadByPayload

variable {τ : Type} {code : τ → Bytes → Except StreamFailure Bytes × τ}
  {f : Bytes → Except CodecError Bytes} {kept : τ → Prop} {state : τ}

/-- In a state that is kept, every payload is decoded as `f` says. -/
def EachBy (code : τ → Bytes → Except StreamFailure Bytes × τ) (f : Bytes → Except CodecError Bytes)
    (kept : τ → Prop) : Prop :=
  ∀ state payload, kept state →
    (code state payload).1 = (f payload).mapError (fun e => .error (.codec e)) ∧
      kept (code state payload).2

/-- A payload is decoded as `f` says, or it is rejected as `f` says. -/
theorem EachBy.cases (each : EachBy code f kept) (before : kept state) (payload : Bytes) :
    (∃ block after, f payload = .ok block ∧ code state payload = (.ok block, after) ∧ kept after) ∨
      ∃ e after, f payload = .error e ∧ code state payload = (.error (.error (.codec e)), after) := by
  obtain ⟨answered, later⟩ := each state payload before
  cases decoded : f payload with
  | ok block =>
    rw [decoded] at answered
    exact .inl ⟨block, _, rfl, Prod.ext answered rfl, later⟩
  | error e =>
    rw [decoded] at answered
    exact .inr ⟨e, _, rfl, Prod.ext answered rfl⟩

/-- No payload stops the program. -/
theorem EachBy.decode_ne_overrun (each : EachBy code f kept) (before : kept state)
    (stream : Bytes) : (decode code bound state stream).2 ≠ .rejected .overrun := by
  induction stream using front_induction bound generalizing state with
  | stop stream ending stops =>
    rw [decode_stop stops]
    rintro rfl
    exact front_ne_rejected stops
  | payload stream payload rest framed ih =>
    rcases each.cases before payload with ⟨block, after, -, coded, later⟩ | ⟨e, after, -, coded⟩
    · rw [decode_ok framed coded]
      exact ih later
    · rw [decode_error framed coded]
      nofun

/-- A stream is decoded to its end exactly if it can be taken apart and all its payloads are
decoded. -/
theorem EachBy.decode_boundary_iff (each : EachBy code f kept) (before : kept state)
    {stream : Bytes} {blocks : List Bytes} :
    decode code bound state stream = (blocks, .boundary) ↔
      ∃ payloads, split stream bound = .ok payloads ∧ payloads.map f = blocks.map .ok := by
  induction stream using front_induction bound generalizing state blocks with
  | stop stream ending stops =>
    rw [decode_stop stops, Prod.mk.injEq]
    rcases split_of_stop stops with ⟨rfl, nothing⟩ | ⟨defective, e, defect, -⟩
    · constructor
      · rintro ⟨rfl, -⟩
        exact ⟨[], nothing, rfl⟩
      · rintro ⟨payloads, whole, decoded⟩
        obtain rfl : [] = payloads := Except.ok.inj (nothing.symm.trans whole)
        exact ⟨(List.map_eq_nil_iff.1 decoded.symm).symm, rfl⟩
    · constructor
      · rintro ⟨-, rfl⟩
        exact absurd rfl defective
      · rintro ⟨payloads, whole, -⟩
        cases defect.symm.trans whole
  | payload stream payload rest framed ih =>
    simp only [split_of_payload_eq_ok_iff framed]
    rcases each.cases before payload with
      ⟨block, after, here, coded, later⟩ | ⟨e, after, here, coded⟩
    · rw [decode_ok framed coded, Prod.mk.injEq]
      constructor
      · rintro ⟨rfl, ended⟩
        obtain ⟨others, whole, decoded⟩ := (ih later).1 (Prod.ext rfl ended)
        refine ⟨payload :: others, ⟨others, whole, rfl⟩, ?_⟩
        rw [List.map_cons, List.map_cons, here, decoded]
      · rintro ⟨_, ⟨others, whole, rfl⟩, decoded⟩
        obtain ⟨first, blocks, rfl, same, behind⟩ := List.map_eq_cons_iff.1 decoded.symm
        obtain rfl : first = block := Except.ok.inj (same.trans here)
        rw [(ih later).2 ⟨others, whole, behind.symm⟩]
        exact ⟨rfl, rfl⟩
    · rw [decode_error framed coded, Prod.mk.injEq]
      constructor
      · rintro ⟨-, impossible⟩
        cases impossible
      · rintro ⟨_, ⟨others, whole, rfl⟩, decoded⟩
        obtain ⟨first, blocks, rfl, same, -⟩ := List.map_eq_cons_iff.1 decoded.symm
        cases same.trans here

end PayloadByPayload

end OffloadCodec.Frame

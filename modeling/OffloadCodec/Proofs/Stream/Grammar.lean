import OffloadCodec.Proofs.Stream.Splitting

/-!
# The grammar of block streams

A block stream is a run of frames with admissible payloads. `Frame.split` accepts the streams of this
grammar and gives their payloads back. Of everything else it reports the defect behind the longest
run of frames in front (`Frame.split_iff_grammar`).

A program takes a stream apart in a loop that cuts slices and reads single bytes, and either stops it
if it goes behind an end. `Frame.turn` is one turn of that loop, with every access checked. The loop
makes no such access, it comes to an end, and what it ends with is what `split` says
(`Frame.loops_split`).
-/

namespace OffloadCodec.Frame

variable {bound : Nat} {stream rest payload : Bytes} {payloads : List Bytes}

/-! ## The run of frames in front -/

/-- The length that the first four bytes give. -/
def announced (stream : Bytes) : Nat := Bytes.ofLe (stream.take headerLength)

/-- The stream begins with the frames of admissible payloads, and `rest` stands behind them. -/
structure Leads (bound : Nat) (stream : Bytes) (payloads : List Bytes) (rest : Bytes) : Prop where
  stream_eq : stream = encode payloads ++ rest
  admissible : ∀ payload ∈ payloads, Admissible bound payload

/-- All the frames that the stream begins with: there is not one more in front of `rest`. -/
structure LongestRun (bound : Nat) (stream : Bytes) (payloads : List Bytes) (rest : Bytes) : Prop
    extends Leads bound stream payloads rest where
  ends : ∀ payload, Admissible bound payload → ∀ behind, rest ≠ frame payload ++ behind

/-- What is wrong where no further frame stands: its class, and the error that tells it. The length is
checked first, so one that is out of bounds wins over a payload that is missing. -/
inductive Defect (bound : Nat) (rest : Bytes) : IoKind → IoError → Prop
  | header (some : 0 < rest.length) (short : rest.length < headerLength) :
    Defect bound rest .unexpectedEof .truncatedHeader
  | length (headed : headerLength ≤ rest.length)
    (outside : announced rest = 0 ∨ bound < announced rest) :
    Defect bound rest .invalidData (.lengthOutside (announced rest) bound)
  | payload (headed : headerLength ≤ rest.length) (positive : 0 < announced rest)
    (within : announced rest ≤ bound) (missing : rest.length < headerLength + announced rest) :
    Defect bound rest .unexpectedEof .truncatedPayload

theorem encode_cons (payload : Bytes) (payloads : List Bytes) :
    encode (payload :: payloads) = frame payload ++ encode payloads :=
  List.flatMap_cons

theorem encode_append (payloads others : List Bytes) :
    encode (payloads ++ others) = encode payloads ++ encode others :=
  List.flatMap_append

theorem front_of_admissible (admissible : Admissible bound payload) (behind : Bytes) :
    front bound (frame payload ++ behind) = .payload payload behind := by
  obtain ⟨positive, within, fits⟩ := admissible
  exact front_frame positive within fits behind

/-- No frame stands in front exactly if the front says what stops there. -/
theorem front_stops_iff :
    (∃ ending, front bound rest = .stop ending) ↔
      ∀ payload, Admissible bound payload → ∀ behind, rest ≠ frame payload ++ behind := by
  constructor
  · rintro ⟨ending, stops⟩ payload admissible behind rfl
    rw [front_of_admissible admissible] at stops
    cases stops
  · intro ends
    rcases framed : front bound rest with ending | ⟨payload, behind⟩
    · exact ⟨ending, rfl⟩
    · obtain ⟨framing, admissible⟩ := front_eq framed
      exact absurd framing (ends payload admissible behind)

/-- Where the front stops, nothing is left or there is a defect. -/
theorem defect_of_stop {ending : Ending} (stops : front bound rest = .stop ending) :
    (rest = [] ∧ ending.defect? bound = none) ∨
      ∃ e, Defect bound rest e.kind e ∧ ending.defect? bound = some e := by
  unfold front at stops
  dsimp only at stops
  rw [← announced] at stops
  by_cases none : rest.length = 0
  · rw [if_pos none, Front.stop.injEq] at stops
    subst stops
    exact .inl ⟨List.length_eq_zero_iff.1 none, rfl⟩
  right
  by_cases short : rest.length < headerLength
  · rw [if_neg none, if_pos short, Front.stop.injEq] at stops
    subst stops
    exact ⟨.truncatedHeader, .header (Nat.pos_of_ne_zero none) short, rfl⟩
  have headed : headerLength ≤ rest.length := Nat.le_of_not_lt short
  rw [if_neg none, if_neg short] at stops
  by_cases outside : announced rest = 0 ∨ bound < announced rest
  · rw [if_pos outside, Front.stop.injEq] at stops
    subst stops
    exact ⟨.lengthOutside (announced rest) bound, .length headed outside, rfl⟩
  obtain ⟨positive, within⟩ := not_or.1 outside
  by_cases missing : (rest.drop headerLength).length < announced rest
  · rw [if_neg outside, if_pos missing, Front.stop.injEq] at stops
    subst stops
    rw [List.length_drop] at missing
    exact ⟨.truncatedPayload, .payload headed (Nat.pos_of_ne_zero positive)
      (Nat.le_of_not_lt within) (by omega), rfl⟩
  · rw [if_neg outside, if_neg missing] at stops
    cases stops

/-- At most one of the defects is there. -/
theorem Defect.unique {kind kind' : IoKind} {e e' : IoError} (one : Defect bound rest kind e)
    (other : Defect bound rest kind' e') : kind = kind' ∧ e = e' := by
  cases one <;> cases other
  case header.header => exact ⟨rfl, rfl⟩
  case length.length => exact ⟨rfl, rfl⟩
  case payload.payload => exact ⟨rfl, rfl⟩
  all_goals omega

theorem Defect.rest_ne_nil {kind : IoKind} {e : IoError} (defect : Defect bound rest kind e) :
    rest ≠ [] := by
  rintro rfl
  cases defect with
  | header some short => exact absurd some (Nat.lt_irrefl 0)
  | length headed outside => exact absurd headed (by decide)
  | payload headed positive within missing => exact absurd headed (by decide)

/-! ## Longest runs -/

theorem LongestRun.nil (ends : ∀ payload, Admissible bound payload →
    ∀ behind, rest ≠ frame payload ++ behind) : LongestRun bound rest [] rest :=
  ⟨⟨rfl, fun _ member => absurd member List.not_mem_nil⟩, ends⟩

theorem LongestRun.cons (admissible : Admissible bound payload)
    (run : LongestRun bound stream payloads rest) :
    LongestRun bound (frame payload ++ stream) (payload :: payloads) rest := by
  obtain ⟨⟨rfl, others⟩, ends⟩ := run
  refine ⟨⟨?_, List.forall_mem_cons.2 ⟨admissible, others⟩⟩, ends⟩
  rw [encode_cons, List.append_assoc]

theorem exists_longestRun (bound : Nat) (stream : Bytes) :
    ∃ payloads rest, LongestRun bound stream payloads rest := by
  induction stream using front_induction bound with
  | stop stream ending stops =>
    exact ⟨[], stream, .nil (front_stops_iff.1 ⟨ending, stops⟩)⟩
  | payload stream payload behind framed ih =>
    obtain ⟨payloads, rest, run⟩ := ih
    obtain ⟨rfl, admissible⟩ := front_eq framed
    exact ⟨payload :: payloads, rest, run.cons admissible⟩

/-- Every run of frames in front is a part of the longest one. -/
theorem LongestRun.prefix_of_leads {others : List Bytes} {behind : Bytes}
    (run : LongestRun bound stream payloads rest) (leads : Leads bound stream others behind) :
    others <+: payloads := by
  induction others generalizing stream payloads with
  | nil => exact List.nil_prefix
  | cons first others ih =>
    obtain ⟨framing, all⟩ := leads
    obtain ⟨admissible, later⟩ := List.forall_mem_cons.1 all
    rw [encode_cons, List.append_assoc] at framing
    have framed := front_of_admissible admissible (encode others ++ behind)
    rw [← framing] at framed
    obtain ⟨⟨same, members⟩, ends⟩ := run
    cases payloads with
    | nil => exact absurd (same.symm.trans framing) (ends first admissible _)
    | cons payload payloads =>
      obtain ⟨here, behind_here⟩ := List.forall_mem_cons.1 members
      rw [encode_cons, List.append_assoc] at same
      have front_here := front_of_admissible here (encode payloads ++ rest)
      rw [← same, framed, Front.payload.injEq] at front_here
      obtain ⟨rfl, tail⟩ := front_here
      have run' : LongestRun bound (encode others ++ behind) payloads rest :=
        ⟨⟨tail, behind_here⟩, ends⟩
      exact (List.prefix_cons_inj _).2 (ih run' ⟨rfl, later⟩)

/-- The frames in front do not change what is wrong behind them. -/
theorem split_append (admissible : ∀ payload ∈ payloads, Admissible bound payload) (rest : Bytes) :
    split (encode payloads ++ rest) bound = (split rest bound).map (payloads ++ ·) := by
  induction payloads with
  | nil =>
    rcases taken : split rest bound with e | others
    · exact taken
    · exact taken
  | cons payload payloads ih =>
    obtain ⟨here, later⟩ := List.forall_mem_cons.1 admissible
    rw [encode_cons, List.append_assoc, split_of_payload (front_of_admissible here _), ih later]
    rcases split rest bound with e | others
    · rfl
    · rfl

/-- The longest run is all of the stream, or what stands behind it is reported. -/
theorem split_of_longestRun (run : LongestRun bound stream payloads rest) :
    (rest = [] ∧ split stream bound = .ok payloads) ∨
      ∃ e, Defect bound rest e.kind e ∧ split stream bound = .error e := by
  obtain ⟨⟨rfl, admissible⟩, ends⟩ := run
  obtain ⟨ending, stops⟩ := front_stops_iff.2 ends
  have behind := split_eq_front bound rest
  rw [stops] at behind
  dsimp only at behind
  rw [split_append admissible, behind]
  rcases defect_of_stop stops with ⟨rfl, nothing⟩ | ⟨e, defect, something⟩
  · refine .inl ⟨rfl, ?_⟩
    rw [nothing]
    exact congrArg Except.ok (List.append_nil payloads)
  · refine .inr ⟨e, defect, ?_⟩
    rw [something]
    rfl

theorem split_eq_error_iff {e : IoError} :
    split stream bound = .error e ↔
      ∃ payloads rest, LongestRun bound stream payloads rest ∧ Defect bound rest e.kind e := by
  constructor
  · intro failed
    obtain ⟨payloads, rest, run⟩ := exists_longestRun bound stream
    rcases split_of_longestRun run with ⟨-, whole⟩ | ⟨e', defect, failed'⟩
    · cases whole.symm.trans failed
    · obtain rfl : e' = e := Except.error.inj (failed'.symm.trans failed)
      exact ⟨payloads, rest, run, defect⟩
  · rintro ⟨payloads, rest, run, defect⟩
    rcases split_of_longestRun run with ⟨nothing, -⟩ | ⟨e', defect', failed⟩
    · exact absurd nothing defect.rest_ne_nil
    · obtain ⟨-, rfl⟩ := defect.unique defect'
      exact failed

/-! ## Where the payloads stand -/

/-- Where the frame with this number begins. -/
def frameStart (payloads : List Bytes) (i : Nat) : Nat := (encode (payloads.take i)).length

/-- The frames lie side by side from the first byte to the last, and each payload is the slice behind
its header. -/
structure Tiled (stream : Bytes) (payloads : List Bytes) : Prop where
  first : frameStart payloads 0 = 0
  last : frameStart payloads payloads.length = stream.length
  next : ∀ (i : Nat) (h : i < payloads.length),
    frameStart payloads (i + 1) = frameStart payloads i + headerLength + payloads[i].length
  slice : ∀ (i : Nat) (h : i < payloads.length),
    (stream.drop (frameStart payloads i + headerLength)).take payloads[i].length = payloads[i]

theorem length_frame (payload : Bytes) : (frame payload).length = headerLength + payload.length := by
  rw [frame, List.length_append, Bytes.length_le32, headerLength]

theorem tiled_encode (payloads : List Bytes) : Tiled (encode payloads) payloads where
  first := rfl
  last := by
    rw [frameStart, List.take_length]
  next i h := by
    rw [frameStart, List.take_add_one, List.getElem?_eq_getElem h, Option.toList_some, encode_append,
      List.length_append, encode, encode, List.flatMap_singleton, length_frame, ← Nat.add_assoc]
    rfl
  slice i h := by
    have parts : encode payloads = encode (payloads.take i) ++ (Bytes.le32 payloads[i].length ++
        (payloads[i] ++ encode (payloads.drop (i + 1)))) := by
      rw [← List.append_assoc (Bytes.le32 _), ← frame, ← encode_cons, ← encode_append,
        ← List.drop_eq_getElem_cons h, List.take_append_drop]
    have header : (Bytes.le32 payloads[i].length).length = headerLength := Bytes.length_le32 _
    rw [parts, frameStart, ← List.drop_drop, List.drop_left' rfl, List.drop_left' header,
      List.take_left' rfl]

/-! ## The loop of a program -/

/-- The two parts of a slice. -/
def splitAt? (bytes : Bytes) (middle : Nat) : Option (Bytes × Bytes) :=
  if middle ≤ bytes.length then some (bytes.take middle, bytes.drop middle) else none

/-- The number that the first four bytes of a slice denote. -/
def readLength? (header : Bytes) : Option Nat := do
  let b₀ ← header[0]?
  let b₁ ← header[1]?
  let b₂ ← header[2]?
  let b₃ ← header[3]?
  return Bytes.ofLe [b₀, b₁, b₂, b₃]

/-- What a turn of the loop comes to. -/
inductive Turn
  | done (result : Except IoError (List Bytes))
  /-- One more payload is taken, and this is left of the stream. -/
  | again (stream : Bytes) (taken : List Bytes)

/-- One turn of the loop that takes a stream apart; nothing if it reads outside a slice. -/
def turn (bound : Nat) (stream : Bytes) (taken : List Bytes) : Option Turn :=
  if stream.length = 0 then some (.done (.ok taken))
  else if stream.length < headerLength then some (.done (.error .truncatedHeader))
  else
    (splitAt? stream headerLength).bind fun (header, rest) =>
    (readLength? header).bind fun length =>
    if length = 0 ∨ bound < length then some (.done (.error (.lengthOutside length bound)))
    else if rest.length < length then some (.done (.error .truncatedPayload))
    else (splitAt? rest length).bind fun (payload, tail) => some (.again tail (taken ++ [payload]))

/-- The loop comes to an end with this result, and reads within its slices all the way. -/
inductive Loops (bound : Nat) : Bytes → List Bytes → Except IoError (List Bytes) → Prop
  | done {stream : Bytes} {taken : List Bytes} {result : Except IoError (List Bytes)}
    (last : turn bound stream taken = some (.done result)) : Loops bound stream taken result
  | again {stream rest : Bytes} {taken more : List Bytes} {result : Except IoError (List Bytes)}
    (turned : turn bound stream taken = some (.again rest more))
    (later : Loops bound rest more result) : Loops bound stream taken result

theorem splitAt?_of_le {bytes : Bytes} {middle : Nat} (within : middle ≤ bytes.length) :
    splitAt? bytes middle = some (bytes.take middle, bytes.drop middle) :=
  if_pos within

theorem readLength?_take (headed : headerLength ≤ stream.length) :
    readLength? (stream.take headerLength) = some (announced stream) := by
  match stream, headed with
  | b₀ :: b₁ :: b₂ :: b₃ :: rest, _ => rfl

/-- A turn goes by the front of the stream. -/
theorem turn_eq_front (bound : Nat) (stream : Bytes) (taken : List Bytes) :
    turn bound stream taken = some (match front bound stream with
      | .stop ending =>
        match ending.defect? bound with
        | none => .done (.ok taken)
        | some e => .done (.error e)
      | .payload payload rest => .again rest (taken ++ [payload])) := by
  unfold turn front
  by_cases none : stream.length = 0
  · rw [if_pos none, if_pos none]
    rfl
  by_cases short : stream.length < headerLength
  · rw [if_neg none, if_pos short, if_neg none, if_pos short]
    rfl
  have headed : headerLength ≤ stream.length := Nat.le_of_not_lt short
  rw [if_neg none, if_neg short, if_neg none, if_neg short, splitAt?_of_le headed, Option.bind_some]
  dsimp only
  rw [readLength?_take headed, Option.bind_some, ← announced]
  by_cases outside : announced stream = 0 ∨ bound < announced stream
  · rw [if_pos outside, if_pos outside]
    rfl
  by_cases missing : (stream.drop headerLength).length < announced stream
  · rw [if_neg outside, if_pos missing, if_neg outside, if_pos missing]
    rfl
  · rw [if_neg outside, if_neg missing, if_neg outside, if_neg missing,
      splitAt?_of_le (Nat.le_of_not_lt missing), Option.bind_some]

/-- From any turn on, the loop ends with what is taken so far and what splitting says of the rest. -/
theorem loops_split (bound : Nat) (stream : Bytes) (taken : List Bytes) :
    Loops bound stream taken ((split stream bound).map (taken ++ ·)) := by
  induction stream using front_induction bound generalizing taken with
  | stop stream ending stops =>
    apply Loops.done
    rw [turn_eq_front, split_eq_front, stops]
    dsimp only
    cases ending.defect? bound with
    | none =>
      exact congrArg (fun payloads => some (Turn.done (.ok payloads))) (List.append_nil taken).symm
    | some e => rfl
  | payload stream payload rest framed ih =>
    have turned : turn bound stream taken = some (.again rest (taken ++ [payload])) := by
      rw [turn_eq_front, framed]
    refine .again turned ?_
    have later := ih (taken ++ [payload])
    rw [split_of_payload framed]
    rcases behind : split rest bound with e | others
    · rwa [behind] at later
    · rw [behind] at later
      have same : taken ++ payload :: others = taken ++ [payload] ++ others := List.append_cons ..
      rw [Except.map, Except.map, same]
      exact later

/-- The loop has one end. -/
theorem Loops.unique {taken : List Bytes} {result result' : Except IoError (List Bytes)}
    (one : Loops bound stream taken result) (other : Loops bound stream taken result') :
    result = result' := by
  induction one with
  | done last =>
    cases other with
    | done last' => exact Turn.done.inj (Option.some.inj (last.symm.trans last'))
    | again turned later => cases last.symm.trans turned
  | again turned later ih =>
    cases other with
    | done last => cases turned.symm.trans last
    | again turned' later' =>
      obtain ⟨rfl, rfl⟩ := Turn.again.inj (Option.some.inj (turned.symm.trans turned'))
      exact ih later'

/-- Splitting accepts the streams of the grammar and gives their payloads back, which are adjacent
slices of the stream. Of every other byte string it reports the defect behind the longest run of
frames in front. The loop that does this ends for every byte string, with this result alone, and
reads within its slices. -/
theorem split_iff_grammar (stream : Bytes) (bound : Nat) :
    (∀ payloads, split stream bound = .ok payloads ↔
      stream = encode payloads ∧
        ∀ payload ∈ payloads, 1 ≤ payload.length ∧ payload.length ≤ bound ∧ payload.length < UInt32.size) ∧
    (∀ payloads, split stream bound = .ok payloads → Tiled stream payloads) ∧
    (∀ payloads others, stream = encode payloads → stream = encode others →
      (∀ payload ∈ payloads, Admissible bound payload) →
      (∀ payload ∈ others, Admissible bound payload) → payloads = others) ∧
    (∀ e, split stream bound = .error e ↔
      ∃ payloads rest, LongestRun bound stream payloads rest ∧ Defect bound rest e.kind e) ∧
    (∃ payloads rest, LongestRun bound stream payloads rest ∧
      ∀ others behind, Leads bound stream others behind → others <+: payloads) ∧
    ∀ result, Loops bound stream [] result ↔ result = split stream bound := by
  refine ⟨fun payloads => split_eq_ok_iff, ?_, ?_, fun e => split_eq_error_iff, ?_, ?_⟩
  · intro payloads whole
    obtain ⟨rfl, -⟩ := encode_of_split whole
    exact tiled_encode payloads
  · intro payloads others here there admissible admissible'
    have one := split_eq_ok_iff.2 ⟨here, admissible⟩
    have other := split_eq_ok_iff.2 ⟨there, admissible'⟩
    exact Except.ok.inj (one.symm.trans other)
  · obtain ⟨payloads, rest, run⟩ := exists_longestRun bound stream
    exact ⟨payloads, rest, run, fun others behind leads => run.prefix_of_leads leads⟩
  · have ends : Loops bound stream [] (split stream bound) := by
      have from_start := loops_split bound stream []
      rcases taken : split stream bound with e | payloads
      · rwa [taken] at from_start
      · rwa [taken] at from_start
    intro result
    constructor
    · intro loops
      exact loops.unique ends
    · rintro rfl
      exact ends

end OffloadCodec.Frame

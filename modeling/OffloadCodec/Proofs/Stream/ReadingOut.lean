import OffloadCodec.Proofs.SimulatedLibrary
import OffloadCodec.Proofs.Stream.Creation
import OffloadCodec.Proofs.Stream.Serving

/-!
# Reading a stream out

`BlockReader.use` makes a reader and reads with buffers of some sizes, one after another. Whatever
stands in the stream and however the source cuts it, the reads return the blocks that the stream
decodes to as a whole and then say how decoding ended (`BlockReader.reads_out_as_decoded`).
`ReadsOut` relates the answers to the sizes of the buffers.
-/

namespace OffloadCodec

open OffloadCodec.Frame

/-- Reads with buffers of these sizes return the data in order, each of them a part that is not empty,
and then what goes with the ending. A read into an empty buffer returns nothing. Of what follows an
error, or the overrun of a block, nothing is said. -/
inductive ReadsOut (bound : Nat) (ending : Ending) :
    Bytes → List Nat → List (Except StreamFailure Bytes) → Prop
  | done {data : Bytes} : ReadsOut bound ending data [] []
  | empty {data : Bytes} {sizes : List Nat} {answers : List (Except StreamFailure Bytes)} :
    ReadsOut bound ending data sizes answers →
    ReadsOut bound ending data (0 :: sizes) (.ok [] :: answers)
  | part {n : Nat} {part rest : Bytes} {sizes : List Nat}
      {answers : List (Except StreamFailure Bytes)} :
    part ≠ [] → part.length ≤ n → ReadsOut bound ending rest sizes answers →
    ReadsOut bound ending (part ++ rest) (n :: sizes) (.ok part :: answers)
  | atEnd {n : Nat} {sizes : List Nat} {answers : List (Except StreamFailure Bytes)} :
    ending = .boundary → n ≠ 0 → ReadsOut bound ending [] sizes answers →
    ReadsOut bound ending [] (n :: sizes) (.ok [] :: answers)
  | failed {n : Nat} {e : IoError} {sizes : List Nat}
      {answers : List (Except StreamFailure Bytes)} :
    ending.failure? bound = some (.error e) → n ≠ 0 →
    ReadsOut bound ending [] (n :: sizes) (.error (.error e) :: answers)
  | overrun {sizes : List Nat} {answers : List (Except StreamFailure Bytes)} :
    ending = .rejected .overrun → ReadsOut bound ending [] sizes answers

/-- The bytes that reads return up to the first error. -/
def returned : List (Except StreamFailure Bytes) → Bytes
  | [] => []
  | .ok part :: answers => part ++ returned answers
  | .error _ :: _ => []

namespace ReadsOut

variable {bound : Nat} {ending : Ending} {data : Bytes} {sizes : List Nat}
  {answers : List (Except StreamFailure Bytes)}

/-- Nothing but the data is returned, and in order. -/
theorem returned_prefix (reads : ReadsOut bound ending data sizes answers)
    (unstopped : ending ≠ .rejected .overrun) : returned answers <+: data := by
  induction reads with
  | done => exact List.nil_prefix
  | empty _ ih => exact ih
  | @part n part rest sizes answers _ _ _ ih =>
    exact (List.prefix_append_right_inj part).2 ih
  | atEnd _ _ _ ih => exact ih
  | failed => exact List.nil_prefix
  | overrun stopped => exact absurd stopped unstopped

/-- No read fails if decoding ends at a boundary. -/
theorem ok_of_boundary (reads : ReadsOut bound .boundary data sizes answers) :
    ∀ answer ∈ answers, ∃ part, answer = .ok part := by
  induction reads with
  | done => simp
  | empty _ ih => exact List.forall_mem_cons.2 ⟨⟨_, rfl⟩, ih⟩
  | part _ _ _ ih => exact List.forall_mem_cons.2 ⟨⟨_, rfl⟩, ih⟩
  | atEnd _ _ _ ih => exact List.forall_mem_cons.2 ⟨⟨_, rfl⟩, ih⟩
  | failed failure => cases failure
  | overrun stopped => cases stopped

/-- As many reads as there are bytes return all of them. -/
theorem returned_eq (reads : ReadsOut bound .boundary data sizes answers)
    (nonempty : ∀ n ∈ sizes, n ≠ 0) (enough : data.length ≤ sizes.length) :
    returned answers = data := by
  induction reads with
  | done => exact (List.length_eq_zero_iff.1 (Nat.le_zero.1 enough)).symm
  | empty => exact absurd rfl (nonempty 0 List.mem_cons_self)
  | @part n part rest sizes answers some _ _ ih =>
    have progress : 0 < part.length := List.length_pos_iff.2 some
    rw [List.length_append, List.length_cons] at enough
    have later := ih (fun n member => nonempty n (List.mem_cons_of_mem _ member)) (by omega)
    rw [returned, later]
  | atEnd _ _ _ ih =>
    exact ih (fun n member => nonempty n (List.mem_cons_of_mem _ member)) (Nat.zero_le _)
  | failed failure => cases failure
  | overrun stopped => cases stopped

/-- The first read that fails comes behind all the data, and fails as decoding did. -/
theorem returned_of_error {before : List Bytes} {e : StreamFailure}
    {after : List (Except StreamFailure Bytes)}
    (reads : ReadsOut bound ending data sizes (before.map .ok ++ .error e :: after))
    (unstopped : ending ≠ .rejected .overrun) :
    before.flatten = data ∧ ending.failure? bound = some e := by
  generalize answered : before.map Except.ok ++ .error e :: after = answers at reads
  induction reads generalizing before with
  | done => simp at answered
  | empty _ ih =>
    cases before with
    | nil => cases answered
    | cons part before =>
      obtain ⟨first, later⟩ := List.cons.inj answered
      cases first
      have rest := ih later
      exact rest
  | @part n part data sizes answers _ _ _ ih =>
    cases before with
    | nil => cases answered
    | cons other before =>
      obtain ⟨first, later⟩ := List.cons.inj answered
      cases first
      obtain ⟨rest, failure⟩ := ih later
      exact ⟨congrArg (part ++ ·) rest, failure⟩
  | atEnd _ _ _ ih =>
    cases before with
    | nil => cases answered
    | cons part before =>
      obtain ⟨first, later⟩ := List.cons.inj answered
      cases first
      have rest := ih later
      exact rest
  | failed failure =>
    cases before with
    | nil =>
      obtain ⟨first, -⟩ := List.cons.inj answered
      cases first
      exact ⟨rfl, failure⟩
    | cons part before =>
      obtain ⟨first, -⟩ := List.cons.inj answered
      cases first
  | overrun stopped => exact absurd stopped unstopped

/-- A read with room that returns nothing comes behind all the data, at a boundary. -/
theorem returned_of_end {before : List Bytes} {n : Nat}
    (reads : ReadsOut bound ending data (sizes ++ [n]) (before.map .ok ++ [.ok []]))
    (roomy : n ≠ 0) (same : sizes.length = before.length)
    (unstopped : ending ≠ .rejected .overrun) :
    before.flatten = data ∧ ending = .boundary := by
  induction sizes generalizing before data with
  | nil =>
    obtain rfl := List.length_eq_zero_iff.1 same.symm
    cases reads with
    | empty => exact absurd rfl roomy
    | part nonempty => exact absurd rfl nonempty
    | atEnd boundary => exact ⟨rfl, boundary⟩
    | overrun stopped => exact absurd stopped unstopped
  | cons m sizes ih =>
    obtain ⟨part, before, rfl⟩ := List.exists_cons_of_length_eq_add_one same.symm
    have fewer : sizes.length = before.length := Nat.succ.inj same
    cases reads with
    | empty later =>
      have rest := ih later fewer
      exact rest
    | part _ _ later =>
      obtain ⟨rest, boundary⟩ := ih later fewer
      exact ⟨congrArg (_ ++ ·) rest, boundary⟩
    | atEnd _ _ later =>
      have rest := ih later fewer
      exact rest
    | overrun stopped => exact absurd stopped unstopped

end ReadsOut

/-- An error says what stands at the end of decoding. -/
def Frame.Ending.Shows (e : IoError) : Ending → Prop
  | boundary => False
  | cutHeader => e.kind = .unexpectedEof
  | badLength _ => e.kind = .invalidData
  | cutPayload => e.kind = .unexpectedEof
  | rejected failure => ∃ rejection, failure = .error (.codec rejection) ∧ e = .codec rejection

namespace BlockReader

variable {σ ι : Type} {entries : EntryPoints σ ι} {bound : Nat} {reader : BlockReader σ ι}
  {world opened : World σ} {data : Bytes} {ending : Ending}

/-- Reads with buffers of these sizes, whether the reads succeed or not. -/
def readEach (reader : BlockReader σ ι) :
    List Nat → World σ → List (Except StreamFailure Bytes) × BlockReader σ ι × World σ
  | [], world => ([], reader, world)
  | n :: sizes, world =>
    match reader.read n world with
    | (answer, reader, world) =>
      match readEach reader sizes world with
      | (answers, last) => (answer :: answers, last)

/-- Makes a reader and reads with buffers of these sizes: the answers, if there is a reader. -/
def use (library : Library σ ι) (source : Source) (options : StreamOptions) (sizes : List Nat)
    (world : World σ) : Except StreamFailure (List (Except StreamFailure Bytes)) :=
  match (create library source options).runOn world with
  | (.error e, _) => .error e
  | (.ok reader, world) => .ok (reader.readEach sizes world).1

/-- Makes a reader and reads to the end: all that the stream holds, if nothing fails. -/
def readWhole (library : Library σ ι) (source : Source) (options : StreamOptions)
    (world : World σ) : Except StreamFailure Bytes :=
  match (create library source options).runOn world with
  | (.error e, _) => .error e
  | (.ok reader, world) =>
    match reader.readToEnd world with
    | (data, .ok (), _) => .ok data
    | (_, .error e, _) => .error e

/-- What a new reader has its codec go through. What it is put on has no part in that. -/
def freshState (library : Library σ ι) (options : StreamOptions) (world : World σ) :
    CodecState σ ι where
  region := .zeros options.blockSize
  native := ((create library ⟨[]⟩ options).runOn world).2.native

theorem length_readEach (reader : BlockReader σ ι) (sizes : List Nat) (world : World σ) :
    (reader.readEach sizes world).1.length = sizes.length := by
  induction sizes generalizing reader world with
  | nil => rfl
  | cons n sizes ih => exact congrArg Nat.succ (ih _ _)

theorem Faces.readEach (faces : reader.Faces entries bound world data ending)
    (sizes : List Nat) : ReadsOut bound ending data sizes (reader.readEach sizes world).1 := by
  induction sizes generalizing reader world data with
  | nil => exact .done
  | cons n sizes ih =>
    rw [BlockReader.readEach]
    by_cases none : n = 0
    · subst none
      exact .empty (ih faces)
    · have reads := faces.read none
      generalize reader.read n world = outcome at reads ⊢
      cases reads with
      | part nonempty fits later => exact .part nonempty fits (ih later)
      | atEnd later => exact .atEnd rfl none (ih later)
      | @failed ending e reader world failure =>
        cases e with
        | error e => exact .failed failure none
        | overrun =>
          cases ending with
          | rejected e =>
            obtain rfl : e = .overrun := Option.some.inj failure
            exact .overrun rfl
          | boundary => cases failure
          | cutHeader => cases failure
          | badLength => cases failure
          | cutPayload => cases failure
      | overrun => exact .overrun rfl

/-- Reading to the end returns all that the reader faces, and fails as decoding does. -/
theorem Faces.readToEnd (faces : reader.Faces entries bound world data ending)
    (unstopped : ending ≠ .rejected .overrun) :
    (reader.readToEnd world).1 = data ∧
      (reader.readToEnd world).2.1 =
        match ending.failure? bound with
        | none => .ok ()
        | some e => .error e := by
  have roomy : maxNativeLength ≠ 0 := by decide
  fun_induction BlockReader.readToEnd reader world generalizing data with
  | case1 reader world e last after answered =>
    have reads := faces.read roomy
    rw [answered] at reads
    cases reads with
    | failed failure =>
      rw [failure]
      exact ⟨rfl, rfl⟩
    | overrun => exact absurd rfl unstopped
  | case2 reader world last after answered =>
    have reads := faces.read roomy
    rw [answered] at reads
    generalize parted : ([] : Bytes) = part at reads
    cases reads with
    | part nonempty _ _ => exact absurd parted.symm nonempty
    | atEnd => exact ⟨rfl, rfl⟩
    | overrun => exact absurd rfl unstopped
  | case3 reader world part last after answered nonempty more result rest ih =>
    have reads := faces.read roomy
    rw [answered] at reads
    rw [rest] at ih
    cases reads with
    | part _ _ later =>
      obtain ⟨all, ended⟩ := ih later
      exact ⟨congrArg (part ++ ·) all, ended⟩
    | atEnd => exact absurd rfl nonempty
    | overrun => exact absurd rfl unstopped

/-- A new reader faces all that the stream decodes to. -/
theorem create_faces {library : Library σ ι} {source : Source} {options : StreamOptions}
    {stream : Bytes} (delivers : source.Delivers stream)
    (created : (create library source options).runOn world = (.ok reader, opened)) :
    reader.Faces library.entries (library.boundFor options.blockSize world.native) opened
      (decode library.entries.decompressNext (library.boundFor options.blockSize world.native)
        (freshState library options world) stream).1.flatten
      (decode library.entries.decompressNext (library.boundFor options.blockSize world.native)
        (freshState library options world) stream).2 := by
  have elsewhere := create_onto created ⟨[]⟩
  obtain ⟨-, source_eq, session, pos, filled, bound, block⟩ := create_ok created
  refine ⟨freshState library options world, stream, [], ?_, rfl, rfl⟩
  refine ⟨by rw [session]; rfl, bound, source_eq ▸ delivers, ?_, by omega, by omega, ?_⟩
  · rw [freshState, elsewhere, session, block]
    rfl
  · rw [pos, filled, Memory.read_zero]

theorem read_nothing (reader : BlockReader σ ι) (world : World σ) :
    reader.read 0 world = (.ok [], reader, world) := rfl

end BlockReader

/-- Decoding with a library ends with an error of the class that goes with the ending. -/
theorem Frame.shows_decode {σ ι : Type} {entries : EntryPoints σ ι} {bound : Nat}
    {state : CodecState σ ι} {stream : Bytes} {e : IoError}
    (failed : (decode entries.decompressNext bound state stream).2.failure? bound =
      some (.error e)) :
    (decode entries.decompressNext bound state stream).2.Shows e := by
  fun_induction decode entries.decompressNext bound state stream with
  | case1 state stream ending stops =>
    cases ending with
    | boundary => cases failed
    | cutHeader =>
      obtain rfl := by simpa only [Ending.failure?, Option.some.injEq, StreamFailure.error.injEq]
        using failed
      rfl
    | badLength length =>
      obtain rfl := by simpa only [Ending.failure?, Option.some.injEq, StreamFailure.error.injEq]
        using failed
      rfl
    | cutPayload =>
      obtain rfl := by simpa only [Ending.failure?, Option.some.injEq, StreamFailure.error.injEq]
        using failed
      rfl
    | rejected failure => exact absurd stops front_ne_rejected
  | case2 state stream payload rest framed failure after coded =>
    obtain rfl : failure = .error e := Option.some.inj failed
    obtain ⟨rejection, rfl⟩ := EntryPoints.decompressNext_error coded
    exact ⟨rejection, rfl, rfl⟩
  | case3 state stream payload rest framed block after coded blocks ending decoded ih =>
    rw [decoded] at ih
    exact ih failed

namespace BlockReader

variable {σ ι : Type} {library : Library σ ι} {source : Source} {options : StreamOptions}
  {stream : Bytes} {sizes : List Nat} {world : World σ}
  {answers : List (Except StreamFailure Bytes)}

theorem use_ok (delivers : source.Delivers stream)
    (used : use library source options sizes world = .ok answers) :
    StreamOptions.isUsable options.blockSize = true ∧
      ReadsOut (library.boundFor options.blockSize world.native)
        (decode library.entries.decompressNext (library.boundFor options.blockSize world.native)
          (freshState library options world) stream).2
        (decode library.entries.decompressNext (library.boundFor options.blockSize world.native)
          (freshState library options world) stream).1.flatten sizes answers := by
  unfold use at used
  split at used
  · simp at used
  · next reader opened created =>
    obtain rfl := Except.ok.inj used
    exact ⟨(create_ok created).1, (create_faces delivers created).readEach sizes⟩

theorem length_of_use (used : use library source options sizes world = .ok answers) :
    answers.length = sizes.length := by
  unfold use at used
  split at used
  · cases used
  · obtain rfl := Except.ok.inj used
    exact length_readEach _ _ _

/-- With heap memory, reading to the end succeeds if decoding ends at a boundary, with the blocks that
the stream decodes to. -/
theorem readWhole_eq_ok_iff (delivers : source.Delivers stream)
    (heap : options.buffers.useNative = false)
    (usable : StreamOptions.isUsable options.blockSize = true)
    (unstopped : (decode library.entries.decompressNext
      (library.boundFor options.blockSize world.native) (freshState library options world)
      stream).2 ≠ .rejected .overrun) {data : Bytes} :
    readWhole library source options world = .ok data ↔
      ∃ blocks, decode library.entries.decompressNext
        (library.boundFor options.blockSize world.native) (freshState library options world)
        stream = (blocks, .boundary) ∧ data = blocks.flatten := by
  obtain ⟨reader, created⟩ := create_heap library source world heap usable
  obtain ⟨all, ended⟩ := (create_faces delivers created).readToEnd unstopped
  rw [readWhole, created]
  dsimp only
  generalize decode _ _ (freshState library options world) stream = decoded at all ended ⊢
  generalize reader.readToEnd _ = outcome at all ended ⊢
  obtain ⟨read, result, last, after⟩ := outcome
  obtain ⟨blocks, ending⟩ := decoded
  obtain rfl : read = _ := all
  obtain rfl : result = _ := ended
  simp only [Prod.mk.injEq]
  cases ending with
  | boundary =>
    simp only [Ending.failure?, Except.ok.injEq]
    constructor
    · rintro rfl
      exact ⟨blocks, ⟨rfl, trivial⟩, rfl⟩
    · rintro ⟨_, ⟨rfl, -⟩, rfl⟩
      rfl
  | cutHeader => simp [Ending.failure?]
  | badLength length => simp [Ending.failure?]
  | cutPayload => simp [Ending.failure?]
  | rejected failure => simp [Ending.failure?]

/-- A reader returns the blocks that the stream decodes to and then shows how decoding ended. A read
into an empty buffer changes nothing. If the stream is valid, then every cut of it is read as the
blocks of the frames that are whole, and without an error if and only if it was cut between
frames. -/
theorem reads_out_as_decoded (delivers : source.Delivers stream)
    (used : use library source options sizes world = .ok answers) :
    let bound := library.boundFor options.blockSize world.native
    let decoded := decode library.entries.decompressNext bound (freshState library options world)
      stream
    ReadsOut bound decoded.2 decoded.1.flatten sizes answers ∧
      (∀ (before : List Bytes) (e : IoError) (after : List (Except StreamFailure Bytes)),
        answers = before.map .ok ++ .error (.error e) :: after →
        decoded.2 ≠ .rejected .overrun →
        before.flatten = decoded.1.flatten ∧ decoded.2.failure? bound = some (.error e)) ∧
      (∀ e, decoded.2.failure? bound = some (.error e) → decoded.2.Shows e) ∧
      (∀ (reader : BlockReader σ ι) (world : World σ),
        reader.read 0 world = (.ok [], reader, world)) ∧
      (decoded.2 = .boundary → ∃ payloads, stream = encode payloads ∧
        payloads.length = decoded.1.length ∧
        ∀ n ≤ stream.length, ∃ whole ending, CutsAt payloads n whole ∧
          ((encode (payloads.take whole)).length = n → ending = .boundary) ∧
          ((encode (payloads.take whole)).length ≠ n →
            ending = .cutHeader ∨ ending = .cutPayload) ∧
          ∀ (source' : Source) (sizes' : List Nat) (answers' : List (Except StreamFailure Bytes)),
            source'.Delivers (stream.take n) →
            use library source' options sizes' world = .ok answers' →
            ReadsOut bound ending (decoded.1.take whole).flatten sizes' answers') := by
  intro bound decoded
  obtain ⟨-, reads⟩ := use_ok delivers used
  refine ⟨reads, ?_, fun e => shows_decode, read_nothing, fun valid => ?_⟩
  · rintro before e after rfl unstopped
    exact reads.returned_of_error unstopped
  have complete : decoded = (decoded.1, .boundary) := Prod.ext rfl valid
  obtain ⟨payloads, encoded, lengths, cuts⟩ := decode_take complete
  refine ⟨payloads, encoded, lengths, fun n short => ?_⟩
  obtain ⟨whole, at_, front, even, uneven⟩ := cuts n short
  refine ⟨whole, _, at_, even, uneven, fun source' sizes' answers' delivers' used' => ?_⟩
  rw [← front]
  exact (use_ok delivers' used').2

/-- The header behind a whole frame is cut off. -/
theorem reads_out_stored :
    use Simulated.library
        ⟨[.piece [10, 0, 0], .failure (.device .interrupted ""),
          .piece [0, 81, 90, 77, 1, 2, 0, 0, 0, 1, 2, 9, 0]]⟩
        { blockSize := 2 } [1, 0, 5, 5] { native := {} } =
        .ok [.ok [1], .ok [], .ok [2], .error (.error .truncatedHeader)] ∧
      ∃ ending data, ReadsOut 10 ending data [1, 0, 5, 5]
        [.ok [1], .ok [], .ok [2], .error (.error .truncatedHeader)] := by
  have delivers : Source.Delivers
      ⟨[.piece [10, 0, 0], .failure (.device .interrupted ""),
        .piece [0, 81, 90, 77, 1, 2, 0, 0, 0, 1, 2, 9, 0]]⟩
      [10, 0, 0, 0, 81, 90, 77, 1, 2, 0, 0, 0, 1, 2, 9, 0] := by
    refine ⟨fun event member => ?_, rfl⟩
    simp only [List.mem_cons, List.not_mem_nil, or_false] at member
    rcases member with rfl | rfl | rfl
    · exact .inl ⟨_, rfl⟩
    · exact .inr ⟨_, rfl, rfl⟩
    · exact .inl ⟨_, rfl⟩
  have used : use Simulated.library
      ⟨[.piece [10, 0, 0], .failure (.device .interrupted ""),
        .piece [0, 81, 90, 77, 1, 2, 0, 0, 0, 1, 2, 9, 0]]⟩
      { blockSize := 2 } [1, 0, 5, 5] { native := {} } =
      .ok [.ok [1], .ok [], .ok [2], .error (.error .truncatedHeader)] := by decide +kernel
  exact ⟨used, _, _, (reads_out_as_decoded delivers used).1⟩

end BlockReader

end OffloadCodec

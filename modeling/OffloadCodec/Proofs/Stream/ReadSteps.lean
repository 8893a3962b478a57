import OffloadCodec.Proofs.Calls.Lengths

/-!
# A read, step by step

A program reads a block with one call of its source or its library after another, and takes a slice of
a buffer for each of them. `BlockReader.step?` is one such step of a read, with the subtraction and all
slices checked, and `BlockReader.Course` a run of steps. The loop that looks for bytes to serve may go
on through any number of blocks that are empty, and nothing that the reader holds goes down meanwhile.
What does is the source: every step uses up some of `Moment.budget`, most of which is the weight of
what is not read yet.

* Both loops that read into a buffer come to what a pull obtains (`BlockReader.reaches_pull`), and a
  turn of the outer loop to what filling the block does (`BlockReader.reaches_afterFill`).
* From a reader whose cursors are in order a read takes one course. It stays within all buffers, ends
  within the budget, and comes to what `BlockReader.read` says (`BlockReader.Sound.course_read`).
-/

namespace OffloadCodec

open OffloadCodec.Frame

variable {σ ι : Type}

/-! ## Buffers that are filled in parts -/

/-- Writing nothing to the front changes nothing. -/
theorem Memory.write_front_nil (m : Memory) : m.write 0 [] = m := by
  obtain ⟨size, front, front_le⟩ := m
  simp only [write, List.take_zero, Nat.zero_sub, List.replicate_zero, List.nil_append,
    List.length_nil, Nat.add_zero, List.drop_zero, List.take_of_length_le front_le]

/-- What is written right behind the front could have been written together with it. -/
theorem Memory.write_write_append {m : Memory} {front bytes : Bytes} (fits : front.length ≤ m.size) :
    (m.write 0 front).write front.length bytes = m.write 0 (front ++ bytes) := by
  obtain ⟨size, held, held_le⟩ := m
  dsimp only at fits
  have there : front.length ≤ ((front ++ held.drop front.length).take size).length := by
    rw [List.length_take, List.length_append]
    omega
  have written : ((front ++ held.drop front.length).take size).take front.length = front := by
    rw [List.take_take, Nat.min_eq_left fits, List.take_left]
  have behind : ((front ++ held.drop front.length).take size).drop (front.length + bytes.length) =
      (held.drop (front.length + bytes.length)).take (size - (front.length + bytes.length)) := by
    rw [List.drop_take, List.drop_append, List.drop_of_length_le (Nat.le_add_right _ _),
      List.nil_append, List.drop_drop, Nat.add_sub_cancel_left]
  simp only [write, List.take_zero, Nat.zero_sub, List.replicate_zero, List.nil_append, Nat.zero_add,
    Nat.sub_eq_zero_of_le there, List.append_nil, written, behind, Memory.mk.injEq, true_and,
    List.length_append]
  rw [List.take_append, @List.take_append _ (front ++ bytes), List.take_take, List.length_append,
    Nat.min_self]

namespace Scratch

theorem withMemory_memory (scratch : Scratch) : scratch.withMemory scratch.memory = scratch := by
  cases scratch with
  | heap => rfl
  | native => rfl

theorem withMemory_withMemory (scratch : Scratch) (memory memory' : Memory) :
    (scratch.withMemory memory).withMemory memory' = scratch.withMemory memory' := by
  cases scratch with
  | heap => rfl
  | native => rfl

end Scratch

/-! ## Single reads of a source -/

namespace Source

/-- What a source answers to one read of up to `n` bytes, and the events behind it. It returns bytes
of one piece, and nothing when it pauses or is at its end. Pieces without bytes are passed over. -/
def answerFrom (n : Nat) : List SourceEvent → Except IoError Bytes × List SourceEvent
  | [] => (.ok [], [])
  | .piece bytes :: rest =>
    if bytes = [] then answerFrom n rest
    else (.ok (bytes.take n), if bytes.length ≤ n then rest else .piece (bytes.drop n) :: rest)
  | .failure e :: rest => (.error e, rest)
  | .pause :: rest => (.ok [], rest)

/-- A loop that reads into a buffer reads once more, up to `n` bytes. It goes on with what it gets, also
when it is interrupted, and stops at an end of input or an error. -/
def readOn {α : Type} (source : Source) (n : Nat) (goesOn : Bytes → Source → α)
    (stops : Option IoError → Source → α) : α :=
  match answerFrom n source.events with
  | (.ok [], rest) => stops none ⟨rest⟩
  | (.ok bytes, rest) => goesOn bytes ⟨rest⟩
  | (.error e, rest) =>
    if e.kind = .interrupted then goesOn [] ⟨rest⟩ else stops (some e) ⟨rest⟩

/-- How reading once more turns out. What a pull obtains is what was got and what a pull obtains from
there on, and of the source there is less each time that the loop goes on. -/
inductive ReadsOn {α : Type} (source : Source) (n : Nat) (goesOn : Bytes → Source → α)
    (stops : Option IoError → Source → α) : α → Prop
  | more {bytes : Bytes} {rest : Source} :
    source.pull n = ⟨bytes ++ (rest.pull (n - bytes.length)).bytes,
      (rest.pull (n - bytes.length)).error?, (rest.pull (n - bytes.length)).rest⟩ →
    bytes.length ≤ n → bytes.length + rest.weight ≤ source.weight → rest.weight < source.weight →
    ReadsOn source n goesOn stops (goesOn bytes rest)
  | stopped {error? : Option IoError} {rest : Source} :
    source.pull n = ⟨[], error?, rest.events⟩ → rest.weight ≤ source.weight →
    ReadsOn source n goesOn stops (stops error? rest)

theorem pull_zero (source : Source) : source.pull 0 = ⟨[], none, source.events⟩ := by
  obtain ⟨_ | ⟨event, rest⟩⟩ := source
  · rfl
  · cases event with
    | piece => rfl
    | failure => rfl
    | pause => rfl

/-- A piece in front is answered with as much of it as there is room for, and the rest of it stays in
front. -/
theorem pull_piece {n : Nat} {bytes : Bytes} (nonzero : n ≠ 0) (rest : List SourceEvent) :
    let behind : Source := ⟨if bytes.length ≤ n then rest else .piece (bytes.drop n) :: rest⟩
    (⟨.piece bytes :: rest⟩ : Source).pull n =
      { behind.pull (n - (bytes.take n).length) with
        bytes := bytes.take n ++ (behind.pull (n - (bytes.take n).length)).bytes } := by
  intro behind
  rcases Nat.lt_or_ge n bytes.length with long | short
  · have kept : bytes.drop n ≠ [] := fun none => by
      have all := List.drop_eq_nil_iff.1 none
      omega
    have behind_eq : behind = ⟨.piece (bytes.drop n) :: rest⟩ := by
      simp only [behind, if_neg (Nat.not_le_of_lt long)]
    have length : n - (bytes.take n).length = 0 := by
      rw [List.length_take]
      omega
    rw [length, pull_zero, behind_eq, pull, pullFrom, if_neg nonzero, List.append_nil]
    split
    · next none => exact absurd none kept
    · rfl
  · have behind_eq : behind = ⟨rest⟩ := by simp only [behind, if_pos short]
    rw [List.take_of_length_le short, behind_eq, pull, pullFrom, if_neg nonzero]
    simp only [List.drop_of_length_le short]
    rfl

theorem weight_piece (bytes : Bytes) (rest : List SourceEvent) :
    (⟨.piece bytes :: rest⟩ : Source).weight = bytes.length + 1 + (⟨rest⟩ : Source).weight := rfl

/-- What such an answer returns is used up. -/
theorem weight_behind_piece (n : Nat) (bytes : Bytes) (rest : List SourceEvent) :
    (bytes.take n).length +
        (⟨if bytes.length ≤ n then rest else .piece (bytes.drop n) :: rest⟩ : Source).weight ≤
      (⟨.piece bytes :: rest⟩ : Source).weight := by
  rw [weight_piece, List.length_take]
  split
  · omega
  · rw [weight_piece, List.length_drop]
    omega

/-- What is passed over in front of a source has no part in it. -/
theorem ReadsOn.behind {α : Type} {n : Nat} {goesOn : Bytes → Source → α}
    {stops : Option IoError → Source → α} {source later : Source} {outcome : α}
    (reads : ReadsOn later n goesOn stops outcome) (same : source.pull n = later.pull n)
    (less : later.weight ≤ source.weight) : ReadsOn source n goesOn stops outcome := by
  cases reads with
  | more pulled fits uses less' =>
    exact .more (same.trans pulled) fits (Nat.le_trans uses less) (Nat.lt_of_lt_of_le less' less)
  | stopped pulled less' => exact .stopped (same.trans pulled) (Nat.le_trans less' less)

theorem readsOn_readOn {α : Type} {n : Nat} (nonzero : n ≠ 0) (goesOn : Bytes → Source → α)
    (stops : Option IoError → Source → α) (source : Source) :
    ReadsOn source n goesOn stops (source.readOn n goesOn stops) := by
  obtain ⟨events⟩ := source
  induction events with
  | nil => exact .stopped rfl (Nat.le_refl _)
  | cons event rest ih =>
    cases event with
    | piece bytes =>
      cases bytes with
      | nil =>
        refine ih.behind ?_ (Nat.le_add_left _ _)
        simp only [pull, pullFrom, if_neg nonzero, List.drop_nil, List.length_nil, Nat.sub_zero,
          List.nil_append]
      | cons byte bytes =>
        -- The answer is not empty, so the loop goes on.
        obtain ⟨m, rfl⟩ := Nat.exists_eq_succ_of_ne_zero nonzero
        have went : (⟨.piece (byte :: bytes) :: rest⟩ : Source).readOn (m + 1) goesOn stops =
            goesOn ((byte :: bytes).take (m + 1))
              ⟨if (byte :: bytes).length ≤ m + 1 then rest
                else .piece ((byte :: bytes).drop (m + 1)) :: rest⟩ := by
          rw [readOn, answerFrom, if_neg (List.cons_ne_nil byte bytes), List.take_succ_cons]
        rw [went]
        have uses := weight_behind_piece (m + 1) (byte :: bytes) rest
        have some : 0 < ((byte :: bytes).take (m + 1)).length := Nat.zero_lt_succ _
        exact .more (pull_piece nonzero rest) (List.length_take_le _ _) uses (by omega)
    | failure e =>
      have answered : (⟨.failure e :: rest⟩ : Source).readOn n goesOn stops =
          if e.kind = .interrupted then goesOn [] ⟨rest⟩ else stops (some e) ⟨rest⟩ := rfl
      have less : (⟨rest⟩ : Source).weight < (⟨.failure e :: rest⟩ : Source).weight :=
        Nat.lt_add_of_pos_left Nat.one_pos
      rw [answered]
      by_cases interrupted : e.kind = .interrupted
      · rw [if_pos interrupted]
        refine .more ?_ (Nat.zero_le _) ?_ less
        · rw [pull, pullFrom, if_neg nonzero, if_pos interrupted]
          rfl
        · rw [List.length_nil, Nat.zero_add]
          exact Nat.le_of_lt less
      · rw [if_neg interrupted]
        refine .stopped ?_ (Nat.le_of_lt less)
        rw [pull, pullFrom, if_neg nonzero, if_neg interrupted]
    | pause =>
      refine .stopped ?_ (Nat.le_add_left _ _)
      rw [pull, pullFrom, if_neg nonzero]

end Source

namespace BlockReader

/-! ## Steps -/

/-- How far a read has come. -/
inductive Phase
  | called
  /-- At the condition of the loop that looks for bytes to serve. -/
  | looking
  /-- Reading a header, of which it has got these bytes. -/
  | heading (got : Bytes)
  /-- Reading a payload of some length, of which it has got so many bytes. -/
  | loading (length got : Nat)
  | ended (result : Except StreamFailure Bytes)

/-- A moment of a read. -/
structure Moment (σ ι : Type) where
  phase : Phase
  reader : BlockReader σ ι
  world : World σ

/-- What follows when no more of a header is read. -/
def afterHeader (reader : BlockReader σ ι) (got : Bytes) (world : World σ) (error? : Option IoError) :
    Moment σ ι :=
  match error? with
  | some e => ⟨.ended (.error (.error e)), reader, world⟩
  | none =>
    if got.length = 0 then ⟨.ended (.ok []), reader, world⟩
    else if got.length = headerLength then
      let length := Bytes.ofLe got
      if length = 0 ∨ reader.compressed.size < length then
        ⟨.ended (.error (.error (.lengthOutside length reader.compressed.size))), reader, world⟩
      else ⟨.loading length 0, reader, world⟩
    else ⟨.ended (.error (.error .truncatedHeader)), reader, world⟩

/-- What follows when no more of a payload is read: one that is whole is decompressed. -/
def afterPayload (reader : BlockReader σ ι) (length got : Nat) (world : World σ)
    (error? : Option IoError) : Moment σ ι :=
  match error? with
  | some e => ⟨.ended (.error (.error e)), reader, world⟩
  | none =>
    if got < length then ⟨.ended (.error (.error .sourceEnded)), reader, world⟩
    else match reader.decompressBlock length world with
      | (.error e, reader, world) => ⟨.ended (.error e), reader, world⟩
      | (.ok (), reader, world) => ⟨.looking, reader, world⟩

/-- The next step of a read of `n` bytes, in which the source or the library is called once at most.
There is none behind the end, and none if the step subtracts too much or cuts outside a buffer. -/
def step? (n : Nat) : Moment σ ι → Option (Moment σ ι)
  | ⟨.called, reader, world⟩ => some ⟨if n = 0 then .ended (.ok []) else .looking, reader, world⟩
  | ⟨.looking, reader, world⟩ =>
    if reader.pos = reader.filled then some ⟨.heading [], reader, world⟩
    else if reader.filled < reader.pos then none
    else
      let count := min n (reader.filled - reader.pos)
      if n < count ∨ reader.block.size < reader.pos + count then none
      else some ⟨.ended (.ok (reader.block.memory.read reader.pos count)),
        { reader with pos := reader.pos + count }, world⟩
  | ⟨.heading got, reader, world⟩ =>
    if headerLength < got.length then none
    else if got.length < headerLength then
      some (reader.source.readOn (headerLength - got.length)
        (fun bytes source => ⟨.heading (got ++ bytes), { reader with source }, world⟩)
        fun error? source => afterHeader { reader with source } got world error?)
    else some (afterHeader reader got world none)
  | ⟨.loading length got, reader, world⟩ =>
    if reader.compressed.size < length ∨ length < got then none
    else if got < length then
      some (reader.source.readOn (length - got)
        (fun bytes source => ⟨.loading length (got + bytes.length), { reader with
          source
          compressed := reader.compressed.withMemory (reader.compressed.memory.write got bytes) },
          world⟩)
        fun error? source => afterPayload { reader with source } length got world error?)
    else some (afterPayload reader length got world none)
  | ⟨.ended _, _, _⟩ => none

/-- A read of `n` bytes gets from one moment to another in so many steps. -/
inductive Course (n : Nat) : Moment σ ι → Nat → Moment σ ι → Prop
  | here {moment : Moment σ ι} : Course n moment 0 moment
  | step {moment next last : Moment σ ι} {steps : Nat} (stepped : step? n moment = some next)
    (rest : Course n next steps last) : Course n moment (steps + 1) last

section Course

variable {n steps steps' : Nat} {moment middle last last' : Moment σ ι}

theorem Course.trans (one : Course n moment steps middle) (other : Course n middle steps' last) :
    Course n moment (steps + steps') last := by
  induction one with
  | here => rwa [Nat.zero_add]
  | step stepped _ ih =>
    rw [Nat.succ_add]
    exact .step stepped (ih other)

/-- A read takes one course to its end. -/
theorem Course.unique (one : Course n moment steps last) (other : Course n moment steps' last')
    (ended : step? n last = none) (ended' : step? n last' = none) :
    steps = steps' ∧ last = last' := by
  induction one generalizing steps' with
  | here =>
    cases other with
    | here => exact ⟨rfl, rfl⟩
    | step stepped => cases ended.symm.trans stepped
  | step stepped _ ih =>
    cases other with
    | here => cases ended'.symm.trans stepped
    | step stepped' rest' =>
      obtain rfl := Option.some.inj (stepped.symm.trans stepped')
      obtain ⟨rfl, rfl⟩ := ih rest' ended
      exact ⟨rfl, rfl⟩

/-- A read of `n` bytes gets from one moment to another. -/
def Reaches (n : Nat) (moment last : Moment σ ι) : Prop := ∃ steps, Course n moment steps last

theorem Reaches.refl (n : Nat) (moment : Moment σ ι) : Reaches n moment moment := ⟨0, .here⟩

theorem Reaches.trans (one : Reaches n moment middle) (other : Reaches n middle last) :
    Reaches n moment last := by
  obtain ⟨steps, first⟩ := one
  obtain ⟨steps', second⟩ := other
  exact ⟨steps + steps', first.trans second⟩

theorem Reaches.of_step (stepped : step? n moment = some middle) (rest : Reaches n middle last) :
    Reaches n moment last := by
  obtain ⟨steps, course⟩ := rest
  exact ⟨steps + 1, .step stepped course⟩

end Course

/-! ## What steps use up -/

/-- The steps that a read may still take. What is got of a header or payload is paid for by the bytes
that it took from the source, and pays for what is done with it. -/
def Moment.budget (moment : Moment σ ι) : Nat :=
  let unread := 2 * moment.reader.source.weight
  match moment.phase with
  | .called => unread + 4
  | .looking => unread + 3
  | .heading got => unread + (2 + got.length)
  | .loading _ got => unread + (4 + got)
  | .ended _ => 0

theorem budget_afterHeader (reader : BlockReader σ ι) (got : Bytes) (world : World σ)
    (error? : Option IoError) :
    (afterHeader reader got world error?).budget < 2 * reader.source.weight + (2 + got.length) := by
  have positive : 0 < 2 * reader.source.weight + (2 + got.length) := by omega
  cases error? with
  | some e => exact positive
  | none =>
    rw [afterHeader]
    split
    · exact positive
    split
    · next whole =>
      -- The bytes of the header pay for the step to the payload.
      have four : got.length = 4 := whole
      dsimp only
      split
      · exact positive
      · simp only [Moment.budget]
        omega
    · exact positive

theorem budget_afterPayload (reader : BlockReader σ ι) (length got : Nat) (world : World σ)
    (error? : Option IoError) :
    (afterPayload reader length got world error?).budget < 2 * reader.source.weight + (4 + got) := by
  have positive : 0 < 2 * reader.source.weight + (4 + got) := by omega
  cases error? with
  | some e => exact positive
  | none =>
    rw [afterPayload]
    split
    · exact positive
    · have same := source_decompressBlock reader length world
      generalize reader.decompressBlock length world = outcome at same ⊢
      obtain ⟨e | _, next, later⟩ := outcome
      · exact positive
      · dsimp only at same
        simp only [Moment.budget, same]
        omega

/-- Reading on into a buffer uses up what it gets from the source. -/
theorem budget_readOn {reader : BlockReader σ ι} {n held : Nat} (nonzero : n ≠ 0)
    {goesOn : Bytes → Source → Moment σ ι} {stops : Option IoError → Source → Moment σ ι}
    (on : ∀ bytes rest, (goesOn bytes rest).budget = 2 * rest.weight + (held + bytes.length))
    (ends : ∀ error? rest, (stops error? rest).budget < 2 * rest.weight + held) :
    (reader.source.readOn n goesOn stops).budget < 2 * reader.source.weight + held := by
  have reads := Source.readsOn_readOn nonzero goesOn stops reader.source
  generalize reader.source.readOn n goesOn stops = next at reads ⊢
  cases reads with
  | @more bytes rest _ _ uses less =>
    rw [on]
    omega
  | @stopped error? rest _ less =>
    have ended := ends error? rest
    omega

/-- Every step leaves less to do. -/
theorem budget_step {n : Nat} {moment next : Moment σ ι} (stepped : step? n moment = some next) :
    next.budget < moment.budget := by
  obtain ⟨phase, reader, world⟩ := moment
  cases phase with
  | called =>
    obtain rfl := Option.some.inj stepped
    by_cases none : n = 0
    · rw [if_pos none]
      exact Nat.zero_lt_succ _
    · rw [if_neg none]
      exact Nat.lt_succ_self _
  | looking =>
    rw [step?] at stepped
    split at stepped
    · obtain rfl := Option.some.inj stepped
      exact Nat.lt_succ_self _
    split at stepped
    · cases stepped
    dsimp only at stepped
    split at stepped
    · cases stepped
    · obtain rfl := Option.some.inj stepped
      exact Nat.zero_lt_succ _
  | heading got =>
    rw [step?] at stepped
    split at stepped
    · cases stepped
    split at stepped
    · next more =>
      obtain rfl := Option.some.inj stepped
      refine budget_readOn (Nat.sub_ne_zero_of_lt more) (fun bytes rest => ?_) fun error? rest =>
        budget_afterHeader { reader with source := rest } got world error?
      rw [Nat.add_assoc, ← List.length_append]
      rfl
    · obtain rfl := Option.some.inj stepped
      exact budget_afterHeader reader got world none
  | loading length got =>
    rw [step?] at stepped
    split at stepped
    · cases stepped
    split at stepped
    · next more =>
      obtain rfl := Option.some.inj stepped
      refine budget_readOn (Nat.sub_ne_zero_of_lt more) (fun bytes rest => ?_) fun error? rest =>
        budget_afterPayload { reader with source := rest } length got world error?
      rw [Nat.add_assoc]
      rfl
    · obtain rfl := Option.some.inj stepped
      exact budget_afterPayload reader length got world none
  | ended => cases stepped

theorem Course.budget {n steps : Nat} {moment last : Moment σ ι} (course : Course n moment steps last) :
    steps + last.budget ≤ moment.budget := by
  induction course with
  | here => exact Nat.le_of_eq (Nat.zero_add _)
  | step stepped _ ih =>
    have less := budget_step stepped
    omega

/-! ## What steps come to -/

section Pull

variable {n : Nat} (size : Nat) (loop : Bytes → Source → Moment σ ι)
  (stops : Bytes → Option IoError → Source → Moment σ ι)

/-- A loop that reads on into a buffer until it is full, the source ends or it fails comes to what a
pull of as many bytes obtains. -/
theorem reaches_pull
    (reads : ∀ got source, got.length < size → step? n (loop got source) =
      some (source.readOn (size - got.length) (fun bytes rest => loop (got ++ bytes) rest) (stops got)))
    (full : ∀ got source, got.length = size →
      step? n (loop got source) = some (stops got none source))
    (got : Bytes) (source : Source) (fits : got.length ≤ size) :
    let pulled := source.pull (size - got.length)
    Reaches n (loop got source) (stops (got ++ pulled.bytes) pulled.error? ⟨pulled.rest⟩) := by
  -- Not the buffer but the source gets smaller in every turn: an interruption brings no bytes.
  induction weighed : source.weight using Nat.strongRecOn generalizing got source with
  | ind weight ih =>
    intro pulled
    rcases Nat.lt_or_eq_of_le fits with more | whole
    · have stepped := reads got source more
      have on := Source.readsOn_readOn (Nat.sub_ne_zero_of_lt more)
        (fun bytes rest => loop (got ++ bytes) rest) (stops got) source
      generalize source.readOn _ _ _ = next at stepped on
      cases on with
      | @more bytes rest pulls short _ less =>
        refine .of_step stepped ?_
        have length : (got ++ bytes).length = got.length + bytes.length := List.length_append
        have later := ih rest.weight (by omega) (got ++ bytes) rest (by omega) rfl
        dsimp only at later
        rw [length, Nat.sub_add_eq, List.append_assoc] at later
        have pulled_eq : pulled = _ := pulls
        rw [pulled_eq]
        exact later
      | @stopped error? rest pulls _ =>
        have pulled_eq : pulled = _ := pulls
        rw [pulled_eq, List.append_nil]
        exact .of_step stepped (.refl n _)
    · have pulled_eq : pulled = ⟨[], none, source.events⟩ := by
        simp only [pulled, whole, Nat.sub_self, Source.pull_zero]
      rw [pulled_eq, List.append_nil]
      exact .of_step (full got source whole) (.refl n _)

end Pull

variable {reader : BlockReader σ ι} {world : World σ}

theorem reaches_afterHeader (n : Nat) (reader : BlockReader σ ι) (world : World σ) :
    let pulled := reader.source.pull headerLength
    Reaches n ⟨.heading [], reader, world⟩
      (afterHeader { reader with source := ⟨pulled.rest⟩ } pulled.bytes world pulled.error?) := by
  refine reaches_pull headerLength
    (fun got source => ⟨.heading got, { reader with source }, world⟩)
    (fun got error? source => afterHeader { reader with source } got world error?)
    (fun got source more => ?_) (fun got source whole => ?_) [] reader.source (Nat.zero_le _)
  · rw [step?, if_neg (Nat.not_lt_of_lt more), if_pos more]
  · rw [step?, if_neg (Nat.not_lt_of_le (Nat.le_of_eq whole)),
      if_neg (Nat.not_lt_of_le (Nat.le_of_eq whole.symm))]

theorem reaches_afterPayload (n : Nat) (reader : BlockReader σ ι) {length : Nat}
    (within : length ≤ reader.compressed.size) (world : World σ) :
    let pulled := reader.source.pull length
    Reaches n ⟨.loading length 0, reader, world⟩
      (afterPayload { reader with
        source := ⟨pulled.rest⟩
        compressed :=
          reader.compressed.withMemory (reader.compressed.memory.write 0 pulled.bytes) }
        length pulled.bytes.length world pulled.error?) := by
  have start : reader.compressed.withMemory (reader.compressed.memory.write 0 []) =
      reader.compressed := by
    rw [Memory.write_front_nil, Scratch.withMemory_memory]
  have size_eq : ∀ got, (reader.compressed.withMemory
      (reader.compressed.memory.write 0 got)).size = reader.compressed.size := fun got => by
    rw [Scratch.size, Scratch.memory_withMemory, Memory.size_write]
    rfl
  have pulls := reaches_pull (n := n) length
    (fun got source => ⟨.loading length got.length, { reader with
      source
      compressed := reader.compressed.withMemory (reader.compressed.memory.write 0 got) }, world⟩)
    (fun got error? source => afterPayload { reader with
      source
      compressed := reader.compressed.withMemory (reader.compressed.memory.write 0 got) }
      length got.length world error?)
    (fun got source more => ?_) (fun got source whole => ?_) [] reader.source (Nat.zero_le _)
  · rw [start] at pulls
    exact pulls
  · have inside : got.length ≤ reader.compressed.memory.size :=
      Nat.le_trans (Nat.le_of_lt more) within
    rw [step?, size_eq, if_neg (by omega), if_pos more]
    simp only [Scratch.memory_withMemory, Scratch.withMemory_withMemory,
      Memory.write_write_append inside, List.length_append]
  · rw [step?, size_eq, if_neg (by omega), if_neg (by omega)]

/-- What follows when the loop has a block, or knows that there is none. -/
def afterFill : Except StreamFailure Bool × BlockReader σ ι × World σ → Moment σ ι
  | (.error e, reader, world) => ⟨.ended (.error e), reader, world⟩
  | (.ok false, reader, world) => ⟨.ended (.ok []), reader, world⟩
  | (.ok true, reader, world) => ⟨.looking, reader, world⟩

theorem reaches_afterFill (n : Nat) (reader : BlockReader σ ι) (world : World σ) :
    Reaches n ⟨.heading [], reader, world⟩ (afterFill (reader.fillBlock world)) := by
  have headed := reaches_afterHeader n reader world
  rw [fillBlock, nextLength]
  generalize reader.source.pull headerLength = pulled at headed ⊢
  obtain ⟨got, _ | e, rest⟩ := pulled
  · dsimp only at headed ⊢
    rw [afterHeader] at headed
    by_cases none : got.length = 0
    · rw [if_pos none] at headed ⊢
      exact headed
    by_cases whole : got.length = headerLength
    · rw [if_neg none, if_pos whole] at headed ⊢
      dsimp only at headed ⊢
      generalize Bytes.ofLe got = length at headed ⊢
      by_cases bad : length = 0 ∨ reader.compressed.size < length
      · rw [if_pos bad] at headed ⊢
        exact headed
      · rw [if_neg bad] at headed ⊢
        refine headed.trans ?_
        have loaded := reaches_afterPayload n { reader with source := ⟨rest⟩ }
          (Nat.le_of_not_lt (not_or.1 bad).2) world
        rw [loadPayload]
        dsimp only at loaded ⊢
        generalize (⟨rest⟩ : Source).pull length = pulled at loaded ⊢
        obtain ⟨bytes, _ | e, left⟩ := pulled
        · dsimp only at loaded ⊢
          rw [afterPayload] at loaded
          by_cases short : bytes.length < length
          · rw [if_pos short] at loaded ⊢
            exact loaded
          · rw [if_neg short] at loaded ⊢
            dsimp only at loaded ⊢
            generalize BlockReader.decompressBlock _ length world = outcome at loaded ⊢
            obtain ⟨e | _, last, later⟩ := outcome
            · exact loaded
            · exact loaded
        · exact loaded
    · rw [if_neg none, if_neg whole] at headed ⊢
      exact headed
  · exact headed

/-- The loop that looks for bytes to serve. -/
theorem reaches_refill (n : Nat) (reader : BlockReader σ ι) (world : World σ) :
    Reaches n ⟨.looking, reader, world⟩ (afterFill (reader.refill world)) := by
  fun_induction refill reader world with
  | case1 reader world done e next later filled =>
    have fills := reaches_afterFill n reader world
    rw [filled] at fills
    exact .of_step (if_pos done) fills
  | case2 reader world done next later filled =>
    have fills := reaches_afterFill n reader world
    rw [filled] at fills
    exact .of_step (if_pos done) fills
  | case3 reader world done next later filled ih =>
    have fills := reaches_afterFill n reader world
    rw [filled] at fills
    exact .of_step (if_pos done) (fills.trans ih)
  | case4 reader world => exact .refl n _

/-- The loop ends only with bytes to serve. -/
theorem ne_of_refill {next : BlockReader σ ι} {later : World σ}
    (refilled : reader.refill world = (.ok true, next, later)) : next.pos ≠ next.filled := by
  fun_induction refill reader world with
  | case1 => cases refilled
  | case2 => cases refilled
  | case3 _ _ _ _ _ _ ih => exact ih refilled
  | case4 reader world more =>
    cases refilled
    exact more

theorem Sound.reaches_read (sound : reader.Sound) (n : Nat) (world : World σ) :
    let outcome := reader.read n world
    Reaches n ⟨.called, reader, world⟩ ⟨.ended outcome.1, outcome.2.1, outcome.2.2⟩ := by
  by_cases none : n = 0
  · subst none
    exact .of_step rfl (.refl 0 _)
  refine .of_step (congrArg some (by rw [if_neg none])) ?_
  have refills := reaches_refill n reader world
  have sound' := (sound.refill world).2
  have more : ∀ next later, reader.refill world = (.ok true, next, later) →
      next.pos ≠ next.filled := fun next later => ne_of_refill
  rw [BlockReader.read, if_neg none]
  generalize reader.refill world = outcome at refills sound' more ⊢
  obtain ⟨e | (_ | _), next, later⟩ := outcome
  · exact refills
  · exact refills
  · have some := more next later rfl
    obtain ⟨-, pos_le, filled_le⟩ := sound'
    dsimp only at pos_le filled_le ⊢
    have served : next.serve n =
        (.ok (next.block.memory.read next.pos (min n (next.filled - next.pos))),
          { next with pos := next.pos + min n (next.filled - next.pos) }) := if_neg (by omega)
    rw [served]
    refine refills.trans (.of_step ?_ (.refl n _))
    rw [afterFill, step?, if_neg some, if_neg (by omega), if_neg (by omega)]

/-- From a reader whose cursors are in order a read of `n` bytes takes one course, and comes to its
end within the budget. -/
theorem Sound.course_read (sound : reader.Sound) (n : Nat) (world : World σ) :
    ∃ steps ≤ 2 * reader.source.weight + 4, ∀ steps' result next later,
      Course n ⟨.called, reader, world⟩ steps' ⟨.ended result, next, later⟩ ↔
        steps' = steps ∧ (result, next, later) = reader.read n world := by
  obtain ⟨steps, course⟩ := sound.reaches_read n world
  refine ⟨steps, Nat.le_trans (Nat.le_add_right _ _) course.budget, fun steps' result next later =>
    ⟨fun other => ?_, ?_⟩⟩
  · obtain ⟨rfl, same⟩ := other.unique course rfl rfl
    cases same
    exact ⟨rfl, rfl⟩
  · rintro ⟨rfl, same⟩
    rw [← same] at course
    exact course

end BlockReader

end OffloadCodec

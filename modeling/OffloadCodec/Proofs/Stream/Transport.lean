import OffloadCodec.Stream.Sink
import OffloadCodec.Stream.Source

/-!
# What sinks receive and sources hand out

A sink that is offered bytes until all are taken has received exactly those bytes, however it cuts
them (`Sink.writeAll_ok`); one that refuses nothing takes them all (`Sink.Unfailing.writeAll`). If it
gives up before, it has received a part of them (`Sink.writeAll_error`).

A source that hands out bytes in pieces, with interruptions between them, gives a reader the front of
what is left, and keeps the rest (`Source.Delivers.pull`).
-/

namespace OffloadCodec

/-! ## Sinks -/

namespace Sink

variable {sink sink' : Sink} {bytes : Bytes}

theorem fill_ok {n : Nat} (filled : sink.fill bytes = (.ok n, sink')) :
    n ≤ bytes.length ∧ sink'.received = sink.received ++ bytes.take n := by
  unfold fill at filled
  split at filled
  · obtain ⟨rfl, rfl⟩ := by simpa using filled
    exact ⟨Nat.le_refl _, by rw [received_take, List.take_length]⟩
  · next room _ =>
    split at filled
    · simp at filled
    · simp only [Prod.mk.injEq, Except.ok.injEq] at filled
      obtain ⟨rfl, rfl⟩ := filled
      refine ⟨by rw [List.length_take]; omega, ?_⟩
      have received : ∀ left, ({ sink.take (bytes.take room.left) with room := left } :
          Sink).received = (sink.take (bytes.take room.left)).received := fun _ => rfl
      rw [received, received_take, List.length_take, ← List.take_take, List.take_length]

/-- A write takes the front of what is offered. -/
theorem write_ok {n : Nat} (written : sink.write bytes = (.ok n, sink')) :
    n ≤ bytes.length ∧ sink'.received = sink.received ++ bytes.take n := by
  unfold write at written
  split at written
  · exact fill_ok written
  · obtain ⟨few, received⟩ := fill_ok written
    exact ⟨few, received⟩
  · next atMost answers _ =>
    obtain ⟨few, received⟩ := fill_ok written
    rw [List.length_take] at few
    refine ⟨by omega, ?_⟩
    rw [received, List.take_take, Nat.min_eq_left (by omega)]
    rfl
  · simp at written

theorem write_error {e : IoError} (refused : sink.write bytes = (.error e, sink')) :
    sink'.received = sink.received := by
  unfold write at refused
  split at refused
  all_goals try (unfold fill at refused; repeat' split at refused)
  all_goals
    simp only [Prod.mk.injEq, reduceCtorEq, false_and] at refused
    try
      obtain ⟨-, rfl⟩ := refused
      rfl

theorem writeAll_ok (written : sink.writeAll bytes = (.ok (), sink')) :
    sink'.received = sink.received ++ bytes := by
  fun_induction writeAll sink bytes with
  | case1 sink =>
    obtain rfl := by simpa using written
    rw [List.append_nil]
  | case2 => simp at written
  | case3 sink bytes nonempty n after taken ih =>
    obtain ⟨-, received⟩ := write_ok taken
    rw [ih written, received, List.append_assoc, List.take_append_drop]
  | case4 sink bytes nonempty e after refused interrupted ih =>
    rw [ih written, write_error refused]
  | case5 => simp at written

/-- Bytes that are not all taken are taken up to some place before their end. -/
theorem writeAll_error {e : IoError} (failed : sink.writeAll bytes = (.error e, sink')) :
    ∃ part, part <+: bytes ∧ part.length < bytes.length ∧
      sink'.received = sink.received ++ part := by
  fun_induction writeAll sink bytes with
  | case1 => simp at failed
  | case2 sink bytes nonempty after stalled =>
    obtain ⟨-, rfl⟩ := by simpa only [Prod.mk.injEq] using failed
    obtain ⟨-, received⟩ := write_ok stalled
    exact ⟨[], List.nil_prefix, List.length_pos_iff.2 nonempty, received⟩
  | case3 sink bytes nonempty n after taken ih =>
    obtain ⟨few, received⟩ := write_ok taken
    obtain ⟨part, front, less, received'⟩ := ih failed
    have behind := (List.prefix_append_right_inj (bytes.take (n + 1))).2 front
    rw [List.take_append_drop] at behind
    refine ⟨bytes.take (n + 1) ++ part, behind, ?_, ?_⟩
    · rw [List.length_drop] at less
      rw [List.length_append, List.length_take]
      omega
    · rw [received', received, List.append_assoc]
  | case4 sink bytes nonempty e after refused interrupted ih =>
    obtain ⟨part, front, less, received⟩ := ih failed
    exact ⟨part, front, less, received.trans (by rw [write_error refused])⟩
  | case5 sink bytes nonempty e after refused lasting =>
    obtain ⟨-, rfl⟩ := by simpa only [Prod.mk.injEq] using failed
    exact ⟨[], List.nil_prefix, List.length_pos_iff.2 nonempty,
      (write_error refused).trans (List.append_nil _).symm⟩

/-- A sink that takes something at every write, interruptions apart, and flushes without fail. -/
structure Unfailing (sink : Sink) : Prop where
  roomy : sink.room = none
  takes : ∀ answer ∈ sink.answers, answer = .accept none ∨ (∃ n, answer = .accept (some (n + 1))) ∨
    ∃ message, answer = .refuse .interrupted message
  flushes : ∀ answer ∈ sink.flushAnswers, answer = none

namespace Unfailing

theorem write (unfailing : sink.Unfailing) (nonempty : bytes ≠ []) :
    (∃ n sink', sink.write bytes = (.ok (n + 1), sink') ∧ sink'.Unfailing) ∨
      ∃ e sink', sink.write bytes = (.error e, sink') ∧ e.kind = .interrupted ∧
        sink'.Unfailing := by
  obtain ⟨roomy, takes, flushes⟩ := unfailing
  obtain ⟨length, more⟩ := Nat.exists_eq_succ_of_ne_zero
    (Nat.ne_of_gt (List.length_pos_iff.2 nonempty))
  cases answers : sink.answers with
  | nil =>
    refine .inl ⟨length, sink.take bytes, ?_, ⟨roomy, ?_, flushes⟩⟩
    · simp only [Sink.write, answers, fill, roomy, more]
    · simp only [Sink.take, answers, List.not_mem_nil, false_imp_iff, implies_true]
  | cons answer rest =>
    rw [answers] at takes
    have later := fun other member => takes other (List.mem_cons_of_mem answer member)
    rcases takes answer List.mem_cons_self with rfl | ⟨n, rfl⟩ | ⟨message, rfl⟩
    · refine .inl ⟨length, { sink with answers := rest }.take bytes, ?_, ⟨roomy, later, flushes⟩⟩
      simp only [Sink.write, answers, fill, roomy, more]
    · refine .inl ⟨min n length, { sink with answers := rest }.take (bytes.take (n + 1)), ?_,
        ⟨roomy, later, flushes⟩⟩
      simp only [Sink.write, answers, fill, roomy, List.length_take, more, Prod.mk.injEq,
        Except.ok.injEq, and_true]
      omega
    · refine .inr ⟨.device .interrupted message, { sink with answers := rest }, ?_, rfl,
        ⟨roomy, later, flushes⟩⟩
      simp only [Sink.write, answers]

theorem writeAll (unfailing : sink.Unfailing) (bytes : Bytes) :
    ∃ sink', sink.writeAll bytes = (.ok (), sink') ∧ sink'.Unfailing := by
  fun_induction Sink.writeAll sink bytes with
  | case1 sink => exact ⟨sink, rfl, unfailing⟩
  | case2 sink bytes nonempty after stalled =>
    rcases unfailing.write nonempty with ⟨n, _, taken, -⟩ | ⟨e, _, refused, -⟩
    · simp [stalled] at taken
    · simp [stalled] at refused
  | case3 sink bytes nonempty n after taken ih =>
    rcases unfailing.write nonempty with ⟨n', after', taken', later⟩ | ⟨e, _, refused, -⟩
    · obtain ⟨-, rfl⟩ := by simpa [taken] using taken'
      exact ih later
    · simp [taken] at refused
  | case4 sink bytes nonempty e after refused interrupted ih =>
    rcases unfailing.write nonempty with ⟨n, _, taken, -⟩ | ⟨e', after', refused', -, later⟩
    · simp [refused] at taken
    · obtain ⟨-, rfl⟩ := by simpa [refused] using refused'
      exact ih later
  | case5 sink bytes nonempty e after refused lasting =>
    rcases unfailing.write nonempty with ⟨n, _, taken, -⟩ | ⟨e', _, refused', interrupted, -⟩
    · simp [refused] at taken
    · obtain ⟨rfl, -⟩ := by simpa [refused] using refused'
      exact absurd interrupted lasting

theorem flush (unfailing : sink.Unfailing) :
    ∃ sink', sink.flush = (.ok (), sink') ∧ sink'.Unfailing := by
  obtain ⟨roomy, takes, flushes⟩ := unfailing
  cases answers : sink.flushAnswers with
  | nil =>
    refine ⟨{ sink with flushes := sink.flushes + 1 }, ?_, roomy, takes, flushes⟩
    simp only [Sink.flush, answers]
  | cons answer rest =>
    rw [answers] at flushes
    obtain rfl := flushes answer List.mem_cons_self
    refine ⟨{ sink with flushes := sink.flushes + 1, flushAnswers := rest }, ?_, roomy, takes,
      fun other member => flushes other (List.mem_cons_of_mem _ member)⟩
    simp only [Sink.flush, answers]

end Unfailing

theorem received_flush (sink : Sink) : sink.flush.2.received = sink.received := by
  unfold flush
  dsimp only
  split <;> rfl

end Sink

/-! ## Sources -/

namespace Source

/-- The source hands out exactly these bytes, in pieces of any size and with any interruptions, and
is at its end after them. -/
def Delivers (source : Source) (bytes : Bytes) : Prop :=
  (∀ event ∈ source.events, (∃ piece, event = .piece piece) ∨
    ∃ error, event = .failure error ∧ error.kind = .interrupted) ∧ source.pending = bytes

theorem delivers_ofBytes (bytes : Bytes) : (ofBytes bytes).Delivers bytes := by
  refine ⟨fun event member => .inl ⟨bytes, List.mem_singleton.1 member⟩, ?_⟩
  simp only [ofBytes, pending, List.flatMap_cons, List.flatMap_nil, List.append_nil]

variable {events : List SourceEvent} {bytes : Bytes}

theorem Delivers.nil_events (delivers : (⟨[]⟩ : Source).Delivers bytes) : bytes = [] :=
  delivers.2.symm

/-- What is left behind the first event of a source. -/
theorem Delivers.tail {event : SourceEvent} (delivers : (⟨event :: events⟩ : Source).Delivers bytes) :
    (⟨events⟩ : Source).Delivers (⟨events⟩ : Source).pending :=
  ⟨fun later member => delivers.1 later (List.mem_cons_of_mem event member), rfl⟩

theorem Delivers.piece {piece : Bytes} (rest : (⟨events⟩ : Source).Delivers bytes) :
    (⟨.piece piece :: events⟩ : Source).Delivers (piece ++ bytes) := by
  refine ⟨fun event member => ?_, ?_⟩
  · rcases List.mem_cons.1 member with rfl | later
    · exact .inl ⟨piece, rfl⟩
    · exact rest.1 event later
  · rw [← rest.2]
    rfl

theorem Delivers.pullFrom (n : Nat) (delivers : (⟨events⟩ : Source).Delivers bytes) :
    (pullFrom n events).bytes = bytes.take n ∧ (pullFrom n events).error? = none ∧
      (⟨(Source.pullFrom n events).rest⟩ : Source).Delivers (bytes.drop n) := by
  fun_induction Source.pullFrom n events generalizing bytes with
  | case1 n =>
    obtain rfl := delivers.nil_events
    rw [List.take_nil, List.drop_nil]
    exact ⟨rfl, rfl, delivers⟩
  | case2 piece rest => exact ⟨rfl, rfl, delivers⟩
  | case3 n piece rest nonzero dropped later =>
    -- The whole piece is read, and more of what follows it.
    rename_i ih
    obtain rfl := delivers.2
    obtain ⟨front, error, left⟩ := ih delivers.tail
    have short : piece.length ≤ n := List.drop_eq_nil_iff.1 dropped
    have pending : (⟨.piece piece :: rest⟩ : Source).pending = piece ++ (⟨rest⟩ : Source).pending :=
      rfl
    rw [pending, List.take_append, List.drop_append, List.take_of_length_le short, dropped]
    exact ⟨congrArg (piece ++ ·) front, error, left⟩
  | case4 n piece rest nonzero kept =>
    -- The piece covers the read, and its end is kept.
    obtain rfl := delivers.2
    have long : n ≤ piece.length := by
      rcases Nat.le_total n piece.length with long | short
      · exact long
      · exact absurd (List.drop_of_length_le short) kept
    have pending : (⟨.piece piece :: rest⟩ : Source).pending = piece ++ (⟨rest⟩ : Source).pending :=
      rfl
    rw [pending, List.take_append_of_le_length long, List.drop_append_of_le_length long]
    exact ⟨rfl, rfl, delivers.tail.piece⟩
  | case5 e rest => exact ⟨rfl, rfl, delivers⟩
  | case6 n e rest nonzero interrupted ih =>
    obtain rfl := delivers.2
    exact ih delivers.tail
  | case7 n e rest nonzero lasting =>
    rcases delivers.1 _ List.mem_cons_self with ⟨piece, impossible⟩ | ⟨error, same, interrupted⟩
    · cases impossible
    · cases same
      exact absurd interrupted lasting
  | case8 rest => exact ⟨rfl, rfl, delivers⟩
  | case9 n rest nonzero =>
    rcases delivers.1 _ List.mem_cons_self with ⟨piece, impossible⟩ | ⟨error, impossible, -⟩
    · cases impossible
    · cases impossible

/-- A pull reads the front of what is left and keeps the rest. -/
theorem Delivers.pull {source : Source} (n : Nat) (delivers : source.Delivers bytes) :
    (source.pull n).bytes = bytes.take n ∧ (source.pull n).error? = none ∧
      (⟨(source.pull n).rest⟩ : Source).Delivers (bytes.drop n) :=
  delivers.pullFrom n

end Source

end OffloadCodec

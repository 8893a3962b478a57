import OffloadCodec.Bytes
import OffloadCodec.IoError

/-!
# Sinks

A sink takes bytes a part at a time. It is described by how it will answer: a finite run of any
outlet, with short writes, refusals, interruptions and a full disk, is the run of some sink.
`received` is what it has taken so far.

`writeAll` offers bytes until all are taken. It passes over interruptions, and gives up when the sink
takes nothing or refuses.
-/

namespace OffloadCodec

/-- How a sink answers one write. -/
inductive WriteAnswer
  /-- Takes what is offered, or at most so many bytes of it. -/
  | accept (atMost : Option Nat)
  /-- Takes nothing and fails. -/
  | refuse (kind : IoKind) (message : String)
deriving DecidableEq, Repr

/-- Space that runs out: once none is left, every write fails. -/
structure Room where
  left : Nat
  message : String
deriving DecidableEq, Repr

structure Sink where
  /-- What was taken, a part for each write, latest first. -/
  parts : List Bytes := []
  /-- The answers to the next writes; after them everything is accepted. -/
  answers : List WriteAnswer := []
  /-- The answers to the next flushes; after them every flush succeeds. -/
  flushAnswers : List (Option (IoKind × String)) := []
  room : Option Room := none
  /-- How often the sink was flushed. -/
  flushes : Nat := 0
deriving DecidableEq, Repr

namespace Sink

/-- Everything taken so far, in order. -/
def received (sink : Sink) : Bytes := sink.parts.reverse.flatten

/-- Takes a part in. -/
def take (sink : Sink) (part : Bytes) : Sink := { sink with parts := part :: sink.parts }

@[simp] theorem received_take (sink : Sink) (part : Bytes) :
    (sink.take part).received = sink.received ++ part := by
  simp [received, take]

/-- Takes `bytes` in, or as much of them as there is room for. -/
def fill (sink : Sink) (bytes : Bytes) : Except IoError Nat × Sink :=
  match sink.room with
  | none => (.ok bytes.length, sink.take bytes)
  | some room =>
    if room.left = 0 then (.error (.device .other room.message), sink)
    else
      let part := bytes.take room.left
      (.ok part.length,
        { sink.take part with room := some { room with left := room.left - part.length } })

/-- Offers `bytes` once: how many were taken, or the refusal. -/
def write (sink : Sink) (bytes : Bytes) : Except IoError Nat × Sink :=
  match sink.answers with
  | [] => sink.fill bytes
  | .accept none :: answers => { sink with answers }.fill bytes
  | .accept (some n) :: answers => { sink with answers }.fill (bytes.take n)
  | .refuse kind message :: answers => (.error (.device kind message), { sink with answers })

/-- Asks the sink to pass on what it holds. -/
def flush (sink : Sink) : Except IoError Unit × Sink :=
  let sink := { sink with flushes := sink.flushes + 1 }
  match sink.flushAnswers with
  | [] => (.ok (), sink)
  | none :: flushAnswers => (.ok (), { sink with flushAnswers })
  | some (kind, message) :: flushAnswers =>
    (.error (.device kind message), { sink with flushAnswers })

theorem fill_answers (sink : Sink) (bytes : Bytes) : (sink.fill bytes).2.answers = sink.answers := by
  unfold fill
  repeat' split
  all_goals rfl

theorem fill_not_interrupted {sink sink' : Sink} {bytes : Bytes} {e : IoError}
    (h : sink.fill bytes = (.error e, sink')) : e.kind ≠ .interrupted := by
  unfold fill at h
  repeat' split at h
  all_goals simp_all
  rw [← h.1]
  simp [IoError.kind]

theorem answers_le_of_write {sink sink' : Sink} {bytes : Bytes} {result : Except IoError Nat}
    (written : sink.write bytes = (result, sink')) :
    sink'.answers.length ≤ sink.answers.length := by
  obtain rfl : (sink.write bytes).2 = sink' := congrArg Prod.snd written
  unfold write
  split
  · exact Nat.le_of_eq (congrArg List.length (fill_answers sink bytes))
  · next answers =>
    rw [fill_answers, answers]
    exact Nat.le_succ _
  · next answers =>
    rw [fill_answers, answers]
    exact Nat.le_succ _
  · next answers =>
    rw [answers]
    exact Nat.le_succ _

/-- An interruption uses up an answer. -/
theorem answers_lt_of_interrupted {sink sink' : Sink} {bytes : Bytes} {e : IoError}
    (h : sink.write bytes = (.error e, sink')) (he : e.kind = .interrupted) :
    sink'.answers.length < sink.answers.length := by
  unfold write at h
  split at h
  · exact absurd he (fill_not_interrupted h)
  · exact absurd he (fill_not_interrupted h)
  · exact absurd he (fill_not_interrupted h)
  · next heq =>
    simp only [Prod.mk.injEq] at h
    rw [← h.2, heq]
    simp

/-- Offers `bytes` until all are taken. -/
def writeAll (sink : Sink) (bytes : Bytes) : Except IoError Unit × Sink :=
  if _hb : bytes = [] then (.ok (), sink)
  else
    match _h : sink.write bytes with
    | (.ok 0, sink) => (.error .sinkStalled, sink)
    | (.ok (n + 1), sink) => writeAll sink (bytes.drop (n + 1))
    | (.error e, sink) =>
      if _he : e.kind = .interrupted then writeAll sink bytes else (.error e, sink)
termination_by bytes.length + sink.answers.length
decreasing_by
  · have := List.length_pos_iff.2 _hb
    have := answers_le_of_write _h
    simp only [List.length_drop]
    omega
  · have := answers_lt_of_interrupted _h _he
    omega

end Sink

end OffloadCodec

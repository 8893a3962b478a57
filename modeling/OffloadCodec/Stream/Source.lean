import OffloadCodec.Bytes
import OffloadCodec.IoError

/-!
# Sources

A source hands out bytes a piece at a time. Like a sink it is described by how it will answer: its
events are the pieces, errors and ends of input to come, in order. After the last event it is at its
end for good.

`pull` reads until enough bytes are there, the source ends or it fails, and passes over
interruptions.
-/

namespace OffloadCodec

inductive SourceEvent
  /-- A piece; a read returns bytes of one piece only. -/
  | piece (bytes : Bytes)
  | failure (error : IoError)
  /-- An end of input that is reported once. -/
  | pause
deriving DecidableEq, Repr

structure Source where
  events : List SourceEvent
deriving DecidableEq, Repr

/-- What a run of reads obtained: the bytes, an error if one ended it, and the source after it. -/
structure Pulled where
  bytes : Bytes
  error? : Option IoError
  rest : List SourceEvent

namespace Source

/-- A source of these bytes in one piece. -/
def ofBytes (bytes : Bytes) : Source := ⟨[.piece bytes]⟩

/-- The pieces not handed out yet. -/
def pending (source : Source) : Bytes :=
  source.events.flatMap fun
    | .piece bytes => bytes
    | .failure _ => []
    | .pause => []

/-- What is left of a source, in bytes and events: every read of something makes it smaller. -/
def weightOf (events : List SourceEvent) : Nat :=
  match events with
  | [] => 0
  | .piece bytes :: rest => bytes.length + 1 + weightOf rest
  | .failure _ :: rest => 1 + weightOf rest
  | .pause :: rest => 1 + weightOf rest

def weight (source : Source) : Nat := weightOf source.events

/-- Reads up to `n` bytes: fewer when the source ends, pauses or fails before. -/
def pullFrom (n : Nat) : List SourceEvent → Pulled
  | [] => ⟨[], none, []⟩
  | .piece bytes :: rest =>
    if n = 0 then ⟨[], none, .piece bytes :: rest⟩
    else match bytes.drop n with
      | [] =>
        let next := pullFrom (n - bytes.length) rest
        { next with bytes := bytes ++ next.bytes }
      | kept => ⟨bytes.take n, none, .piece kept :: rest⟩
  | .failure e :: rest =>
    if n = 0 then ⟨[], none, .failure e :: rest⟩
    else if e.kind = .interrupted then pullFrom n rest
    else ⟨[], some e, rest⟩
  | .pause :: rest => if n = 0 then ⟨[], none, .pause :: rest⟩ else ⟨[], none, rest⟩

def pull (source : Source) (n : Nat) : Pulled := pullFrom n source.events

/-- Nothing is read twice. -/
theorem weight_pullFrom (n : Nat) (events : List SourceEvent) :
    (pullFrom n events).bytes.length + weightOf (pullFrom n events).rest ≤ weightOf events := by
  fun_induction pullFrom n events with
  | case1 => simp [weightOf]
  | case2 => simp
  | case3 n bytes rest hn hd next ih =>
    simp only [weightOf, List.length_append]
    have : next = pullFrom (n - bytes.length) rest := rfl
    rw [this]
    omega
  | case4 n bytes rest hn hne =>
    simp only [weightOf, List.length_take, List.length_drop]
    omega
  | case5 => simp
  | case6 => simp_all [weightOf]; omega
  | case7 => simp [weightOf]
  | case8 => simp
  | case9 => simp [weightOf]

theorem weight_pull (source : Source) (n : Nat) :
    (source.pull n).bytes.length + weightOf (source.pull n).rest ≤ source.weight :=
  weight_pullFrom n source.events

end Source

end OffloadCodec

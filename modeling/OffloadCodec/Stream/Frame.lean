import OffloadCodec.Bytes
import OffloadCodec.IoError

/-!
# The block stream format

A block stream is a sequence of frames with nothing before, between or after them. A frame is the
length of its payload, four bytes with the least significant first, and then the payload. A payload
has at least one byte and at most as many as the reader allows.

`encode` lays payloads out as a stream, and `split` takes a complete stream apart. The length is
checked before the payload is looked at, so a length out of bounds wins over a missing payload.
-/

namespace OffloadCodec.Frame

/-- Bytes in front of each payload. -/
def headerLength : Nat := 4

/-- A payload with its length in front. -/
def frame (payload : Bytes) : Bytes := Bytes.le32 payload.length ++ payload

/-- Payloads as a stream. -/
def encode (payloads : List Bytes) : Bytes := payloads.flatMap frame

/-- The payloads of a complete stream, each of `1..=max` bytes. -/
def split (stream : Bytes) (max : Nat) : Except IoError (List Bytes) :=
  match stream with
  | [] => .ok []
  | b₀ :: b₁ :: b₂ :: b₃ :: rest =>
    let length := Bytes.ofLe [b₀, b₁, b₂, b₃]
    if length = 0 ∨ max < length then .error (.lengthOutside length max)
    else if (rest.take length).length < length then .error .truncatedPayload
    else match split (rest.drop length) max with
      | .ok payloads => .ok (rest.take length :: payloads)
      | .error e => .error e
  | _ => .error .truncatedHeader
termination_by stream.length
decreasing_by
  simp only [List.length_drop, List.length_cons]
  omega

end OffloadCodec.Frame

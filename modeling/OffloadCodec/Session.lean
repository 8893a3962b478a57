import OffloadCodec.Library
import OffloadCodec.View

/-!
# Sessions

A session runs compress and decompress calls through the record that the native library keeps for
it. The library sets the record up on the first call that reaches its codec, with the defaults in
force at that moment; creating a session makes no call.

A call checks its two lengths first, then makes exactly one native call. `Served` is what it leaves
behind: the length reported, or the error, and in either case the session, the output window and the
world. The reported length is passed on as it is, so it may exceed the window. Only a call for a new
buffer can stop the program (`decompressBytes?`).
-/

namespace OffloadCodec

structure Session (σ ι : Type) where
  library : Library σ ι
  record : SessionRecord ι := {}

/-- What a codec call leaves behind. -/
structure Served (σ ι : Type) where
  result : Except CodecError UInt32
  session : Session σ ι
  output : View
  world : World σ

/-- What a codec call that returns its output leaves behind. -/
structure Produced (σ ι : Type) where
  result : Except CodecError Bytes
  session : Session σ ι
  world : World σ

namespace Session

variable {σ ι : Type}

/-- A session that is not set up yet. -/
def new (library : Library σ ι) : Session σ ι := { library }

/-- The library has set the session up. -/
def isSetUp (session : Session σ ι) : Bool := session.record.internal.isSome

/-- A one-line description. -/
def describe (session : Session σ ι) : String :=
  "Session \x7b library: " ++ Text.quoted session.library.name ++ ", initialized: " ++
    toString session.isSetUp ++ ", total_in: " ++ toString session.record.totalIn ++
    ", total_out: " ++ toString session.record.totalOut ++ " \x7d"

/-- The lengths that a call hands to the library: the input's, then the output's capacity. -/
def lengths (input output : View) (what : String) : Except CodecError (UInt32 × UInt32) :=
  match input.length32 with
  | .error e => .error e
  | .ok length =>
    match output.capacity32 what with
    | .error e => .error e
    | .ok capacity => .ok (length, capacity)

/-- Takes a native reply in: its status decides, the rest is kept either way. -/
def accept (session : Session σ ι) (operation : Operation) (output : View) (world : World σ)
    (reply : CodecReply ι × σ) : Served σ ι where
  result :=
    match CodecError.ofStatus? operation reply.1.status with
    | none => .ok reply.1.reported
    | some e => .error e
  session := { session with record := reply.1.record }
  output := output.store reply.1.written
  world := { world with native := reply.2 }

/-- Compresses all of `input` into `output` as one unit. -/
def compress (session : Session σ ι) (input output : View) (world : World σ) : Served σ ι :=
  match lengths input output "compressor output buffer" with
  | .error e => ⟨.error e, session, output, world⟩
  | .ok (_, capacity) =>
    session.accept .compress output world
      (session.library.entries.compress session.record input.bytes capacity true world.native)

/-- Decompresses `input` into `output`. -/
def decompress (session : Session σ ι) (input output : View) (world : World σ) : Served σ ι :=
  match lengths input output "decompressor output buffer" with
  | .error e => ⟨.error e, session, output, world⟩
  | .ok (_, capacity) =>
    session.accept .decompress output world
      (session.library.entries.decompress session.record input.bytes capacity world.native)

/-- The output of a call as bytes: the start of its region, up to the length reported. -/
def produced (served : Served σ ι) : Produced σ ι where
  result :=
    match served.result with
    | .ok n => .ok (served.output.memory.read 0 n.toNat)
    | .error e => .error e
  session := served.session
  world := served.world

/-- Compresses into a new buffer of the size that the library asks for. -/
def compressBytes (session : Session σ ι) (input : Bytes) (world : World σ) : Produced σ ι :=
  match (session.library.maxCompressedLength input.length).runOn world with
  | (.error e, world) => ⟨.error e, session, world⟩
  | (.ok bound, world) =>
    produced (session.compress (.whole (.ofBytes input)) (.whole (.zeros (max bound 1))) world)

/-- Decompresses into a new buffer of `max` bytes, once there is one. -/
def decompressBytes (session : Session σ ι) (input : Bytes) (max : Nat) (world : World σ) :
    Produced σ ι :=
  produced (session.decompress (.whole (.ofBytes input)) (.whole (.zeros max)) world)

/-- Asks for a new buffer of `max` bytes and decompresses into it. No buffer is larger than an object
may be: the program stops where one is asked for, before any call. -/
def decompressBytes? (session : Session σ ι) (input : Bytes) (max : Nat) (world : World σ) :
    Option (Produced σ ι) :=
  if max ≤ maxObjectSize then some (session.decompressBytes input max world) else none

/-- Ends the session: one that is set up is torn down if the library can, and a failure to do so is
only said. -/
def close (session : Session σ ι) (world : World σ) : World σ :=
  if session.isSetUp then
    match session.library.entries.teardown with
    | none => world
    | some teardown =>
      let (status, native) := teardown session.record world.native
      let world := { world with native }
      match CodecError.ofStatus? .teardown status with
      | none => world
      | some e => world.say 2 ("qatcodec: " ++ e.message ++ "\n")
  else world

end Session

end OffloadCodec

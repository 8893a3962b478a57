import OffloadCodec.Session

/-!
# The library check

A check reports whether the library could be bound and, when asked to, whether a fixed text survives
a round trip through it. `CheckReport.render` is the report as printed.
-/

namespace OffloadCodec

/-- How the round trip went. -/
inductive RoundTrip
  | ok
  | failed (reason : String)
deriving DecidableEq, Repr

structure CheckReport where
  loaded : Bool
  /-- Where the library was loaded from; empty when it was not loaded. -/
  library : String
  /-- Why it was not loaded. -/
  linkError : Option String
  /-- The round trip, if one was made. -/
  roundTrip : Option RoundTrip
deriving DecidableEq, Repr

namespace CheckReport

/-- The library was loaded, and no round trip failed. -/
def passed (report : CheckReport) : Bool :=
  report.loaded &&
    match report.roundTrip with
    | some (.failed _) => false
    | some .ok => true
    | none => true

def render (report : CheckReport) : String :=
  "Native library checking:\n" ++
    "qat:     " ++ toString report.loaded ++ " " ++ report.library ++ "\n" ++
    match report.roundTrip with
    | some .ok => "round trip: ok\n"
    | some (.failed reason) => "round trip: failed (" ++ reason ++ ")\n"
    | none => ""

end CheckReport

namespace Library

variable {σ ι : Type}

/-- The text that a round trip has to bring back. -/
def probe : Bytes :=
  "AAAAAAAAAA qatcodec library check qatcodec library check AAAAAAAAAA".toUTF8.toList

/-- Compresses and decompresses the probe through a fresh session. Other bytes than the probe's are
reported as bad data. -/
def roundTrip (library : Library σ ι) : Act σ CodecError Unit :=
  Act.of fun world =>
    let compressed := (Session.new library).compressBytes probe world
    match compressed.result with
    | .error e => (.error e, compressed.session.close compressed.world)
    | .ok bytes =>
      let restored := compressed.session.decompressBytes bytes probe.length compressed.world
      let world := restored.session.close restored.world
      match restored.result with
      | .error e => (.error e, world)
      | .ok bytes =>
        if bytes = probe then (.ok (), world)
        else (.error (.operationFailed .decompress Status.dataError), world)

/-- The report on a bound library. -/
def check (library : Library σ ι) (all : Bool) (world : World σ) : CheckReport × World σ :=
  if all then
    match library.roundTrip.runOn world with
    | (.ok (), world) => (⟨true, library.path, none, some .ok⟩, world)
    | (.error e, world) => (⟨true, library.path, none, some (.failed e.message)⟩, world)
  else (⟨true, library.path, none, none⟩, world)

end Library

/-- The report on a library that could not be bound. -/
def CheckReport.unbound (error : LinkError) : CheckReport := ⟨false, "", some error.message, none⟩

end OffloadCodec

import OffloadCodec.Library

/-!
# Process-wide defaults

The native library keeps one set of defaults per process, and every session set up afterwards picks
them up. An update reads them, edits the typed view and writes the whole block back; it keeps the
configuration written as `World.applied`. An update that fails changes neither.
-/

namespace OffloadCodec

/-- The error of a status, if it has one. -/
def checkStatus {σ : Type} (operation : Operation) (code : Int32) : Act σ CodecError Unit :=
  match CodecError.ofStatus? operation code with
  | none => pure ()
  | some e => throw e

namespace Library

variable {σ ι : Type}

/-- The parameter block that the library reports. -/
def readRawDefaults (library : Library σ ι) : Act σ CodecError RawParams := do
  let (status, raw) ← Act.of fun world =>
    let (reply, native) := library.entries.getDefaults RawParams.shipped world.native
    (.ok reply, { world with native })
  checkStatus .getDefaults status
  return raw

/-- The defaults now in force. -/
def defaults (library : Library σ ι) : Act σ CodecError CodecConfig :=
  return CodecConfig.ofRaw (← library.readRawDefaults)

/-- Reads the defaults, edits them and writes them back. Returns the configuration written. -/
def updateDefaults (library : Library σ ι) (edit : CodecConfig → CodecConfig) :
    Act σ CodecError CodecConfig := do
  let raw ← library.readRawDefaults
  let config := edit (CodecConfig.ofRaw raw)
  let status ← Act.of fun world =>
    let (status, native) := library.entries.setDefaults (config.writeInto raw) world.native
    (.ok status, { world with native })
  checkStatus .setDefaults status
  Act.change fun world => { world with applied := some config }
  return config

/-- Replaces every default that the typed view knows. -/
def setDefaults (library : Library σ ι) (config : CodecConfig) : Act σ CodecError Unit := do
  let _ ← library.updateDefaults fun _ => config

/-- Sets the compression level and leaves the other defaults alone. -/
def setCompressionLevel (library : Library σ ι) (level : Int32) : Act σ CodecError Unit := do
  let _ ← library.updateDefaults (·.withLevel level)

end Library

end OffloadCodec

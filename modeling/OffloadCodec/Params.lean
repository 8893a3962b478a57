import OffloadCodec.Status

/-!
# Session parameters

The library keeps one block of default parameters per process. `RawParams` is that block as the
library lays it out, `CodecConfig` its typed view. `CodecConfig.ofRaw` reads the view,
`CodecConfig.writeInto` writes the fields that the view knows and leaves the reserved bytes alone.
Values are not checked here: that is the library's business.
-/

namespace OffloadCodec

/-- How the Huffman header of a block is chosen. -/
inductive HuffmanHeader
  | dynamic
  | static
  | other (code : UInt32)
deriving DecidableEq, Repr

/-- What a session is set up for. -/
inductive Direction
  | compress
  | decompress
  | both
  | other (code : UInt32)
deriving DecidableEq, Repr

/-- The container around compressed data. -/
inductive DataFormat
  | deflate4B
  | gzip
  | gzipExt
  | raw
  | other (code : UInt32)
deriving DecidableEq, Repr

namespace HuffmanHeader

def ofCode (code : UInt32) : HuffmanHeader :=
  if code = 0 then .dynamic else if code = 1 then .static else .other code

def toCode : HuffmanHeader → UInt32
  | .dynamic => 0
  | .static => 1
  | .other code => code

@[simp] theorem toCode_ofCode (code : UInt32) : (ofCode code).toCode = code := by
  unfold ofCode
  repeat' split
  all_goals simp_all [toCode]

end HuffmanHeader

namespace Direction

def ofCode (code : UInt32) : Direction :=
  if code = 0 then .compress else if code = 1 then .decompress
  else if code = 2 then .both else .other code

def toCode : Direction → UInt32
  | .compress => 0
  | .decompress => 1
  | .both => 2
  | .other code => code

@[simp] theorem toCode_ofCode (code : UInt32) : (ofCode code).toCode = code := by
  unfold ofCode
  repeat' split
  all_goals simp_all [toCode]

end Direction

namespace DataFormat

def ofCode (code : UInt32) : DataFormat :=
  if code = 0 then .deflate4B else if code = 1 then .gzip
  else if code = 2 then .gzipExt else if code = 3 then .raw else .other code

def toCode : DataFormat → UInt32
  | .deflate4B => 0
  | .gzip => 1
  | .gzipExt => 2
  | .raw => 3
  | .other code => code

@[simp] theorem toCode_ofCode (code : UInt32) : (ofCode code).toCode = code := by
  unfold ofCode
  repeat' split
  all_goals simp_all [toCode]

end DataFormat

/-- The parameter block as the library lays it out. Newer libraries use some of the reserved bytes,
so they are carried along untouched. -/
structure RawParams where
  huffmanHeader : UInt32
  direction : UInt32
  dataFormat : UInt32
  level : UInt32
  algorithm : UInt8
  pollSleep : UInt32
  maxForks : UInt32
  swBackup : UInt8
  hwBufferSize : UInt32
  streamBufferSize : UInt32
  inputSizeThreshold : UInt32
  requestCountThreshold : UInt32
  waitCountThreshold : UInt32
  reserved : Vector UInt8 64
deriving DecidableEq

/-- The values that the library ships with. -/
def RawParams.shipped : RawParams where
  huffmanHeader := 0
  direction := 2
  dataFormat := 2
  level := 1
  algorithm := 8
  pollSleep := 10
  maxForks := 3
  swBackup := 1
  hwBufferSize := 65536
  streamBufferSize := 65536
  inputSizeThreshold := 1024
  requestCountThreshold := 32
  waitCountThreshold := 8
  reserved := Vector.replicate 64 0

/-- The typed view of the parameters. The level is signed, so that a request out of range reaches
the library as it is. -/
structure CodecConfig where
  level : Int32
  huffmanHeader : HuffmanHeader
  direction : Direction
  dataFormat : DataFormat
  algorithm : UInt8
  pollSleep : UInt32
  maxForks : UInt32
  /-- Fall back on software when no hardware instance is available. -/
  swBackup : Bool
  hwBufferSize : UInt32
  streamBufferSize : UInt32
  inputSizeThreshold : UInt32
  requestCountThreshold : UInt32
  waitCountThreshold : UInt32
deriving DecidableEq, Repr

namespace CodecConfig

def ofRaw (raw : RawParams) : CodecConfig where
  level := raw.level.toInt32
  huffmanHeader := .ofCode raw.huffmanHeader
  direction := .ofCode raw.direction
  dataFormat := .ofCode raw.dataFormat
  algorithm := raw.algorithm
  pollSleep := raw.pollSleep
  maxForks := raw.maxForks
  swBackup := raw.swBackup != 0
  hwBufferSize := raw.hwBufferSize
  streamBufferSize := raw.streamBufferSize
  inputSizeThreshold := raw.inputSizeThreshold
  requestCountThreshold := raw.requestCountThreshold
  waitCountThreshold := raw.waitCountThreshold

/-- Overwrites every field that the view knows. -/
def writeInto (config : CodecConfig) (raw : RawParams) : RawParams where
  huffmanHeader := config.huffmanHeader.toCode
  direction := config.direction.toCode
  dataFormat := config.dataFormat.toCode
  level := config.level.toUInt32
  algorithm := config.algorithm
  pollSleep := config.pollSleep
  maxForks := config.maxForks
  swBackup := config.swBackup.toUInt8
  hwBufferSize := config.hwBufferSize
  streamBufferSize := config.streamBufferSize
  inputSizeThreshold := config.inputSizeThreshold
  requestCountThreshold := config.requestCountThreshold
  waitCountThreshold := config.waitCountThreshold
  reserved := raw.reserved

/-- The view of the shipped values. -/
def shipped : CodecConfig := ofRaw RawParams.shipped

def withLevel (config : CodecConfig) (level : Int32) : CodecConfig := { config with level }

@[simp] theorem reserved_writeInto (config : CodecConfig) (raw : RawParams) :
    (config.writeInto raw).reserved = raw.reserved := rfl

@[simp] theorem level_writeInto (config : CodecConfig) (raw : RawParams) :
    (config.writeInto raw).level = config.level.toUInt32 := rfl

end CodecConfig

end OffloadCodec

import OffloadCodec.Size
import OffloadCodec.Console

/-!
# Settings

Settings come from environment variables, each with a default. A value that cannot be used is
replaced by the default and leaves a warning. Reading is split in two: `libraryNameFrom`,
`levelFrom` and `blockSizeFrom` decide on the value of one variable, and `Setting.take` writes the
warning.
-/

namespace OffloadCodec

/-- Environment variables with their values. -/
abbrev Environment := List (String × String)

namespace Settings

def libraryVariable : String := "QATCODEC_LIBRARY"
def levelVariable : String := "QATCODEC_CLEVEL"
def blockSizeVariable : String := "QATCODEC_BLOCK_SIZE"

/-- The file that the platform's loader is asked for, unless set otherwise. -/
def libraryDefault : String := "libqatzip.so"

/-- The library's own default level. -/
def levelDefault : Int32 := 1

/-- A variable whose value is ignored, and why. -/
structure Ignored where
  variableName : String
  value : String
  reason : String
deriving DecidableEq, Repr

def Ignored.message (ignored : Ignored) : String :=
  "Ignore environment variable setting " ++ ignored.variableName ++ "=" ++ ignored.value ++ ": " ++
    ignored.reason ++ " \n"

/-- A setting and, when it is the default for want of a usable value, what was ignored. -/
structure Setting (α : Type) where
  value : α
  ignored : Option Ignored := none

/-- The setting's value; what was ignored is said at level 2. -/
def Setting.take {α : Type} (setting : Setting α) (console : Console) : α × Console :=
  match setting.ignored with
  | none => (setting.value, console)
  | some ignored => (setting.value, console.say 2 ignored.message)

/-- The library to open; a blank value counts as none. -/
def libraryNameFrom (value : Option String) : String :=
  match value with
  | none => libraryDefault
  | some text =>
    let name := Text.trim text.toList
    if name = [] then libraryDefault else String.ofList name

/-- The compression level: any 32-bit integer, since the library checks it. -/
def levelFrom (value : Option String) : Setting Int32 :=
  match value with
  | none => ⟨levelDefault, none⟩
  | some text =>
    match Text.int32? (Text.trim text.toList) with
    | some level => ⟨level, none⟩
    | none => ⟨levelDefault, some ⟨levelVariable, text, "not a valid integer"⟩⟩

/-- The block size of streams. -/
def blockSizeFrom (value : Option String) : Setting Nat :=
  match value with
  | none => ⟨Size.blockSizeDefault, none⟩
  | some text =>
    match Size.parse? text with
    | some size =>
      if Size.isBlockSize size then ⟨size, none⟩
      else ⟨Size.blockSizeDefault, some ⟨blockSizeVariable, text, "outside 32K..512M"⟩⟩
    | none => ⟨Size.blockSizeDefault, some ⟨blockSizeVariable, text, "not a valid size"⟩⟩

def libraryName (environment : Environment) : String :=
  libraryNameFrom (environment.lookup libraryVariable)

def level (environment : Environment) : Setting Int32 :=
  levelFrom (environment.lookup levelVariable)

def blockSize (environment : Environment) : Setting Nat :=
  blockSizeFrom (environment.lookup blockSizeVariable)

end Settings

/-- How the working buffers of a stream are obtained. -/
structure BufferPrefs where
  /-- Ask the native library for them. -/
  useNative : Bool := false
  /-- Ask for memory close to the processor. -/
  numa : Bool := false
  /-- Ask for pinned memory. -/
  forcePinned : Bool := true
deriving DecidableEq, Repr

/-- Block size and buffers of a stream. -/
structure StreamOptions where
  /-- Uncompressed bytes per block. -/
  blockSize : Nat := Size.blockSizeDefault
  buffers : BufferPrefs := {}
deriving DecidableEq, Repr

namespace StreamOptions

/-- The defaults, with the block size from the environment. -/
def fromEnvironment (environment : Environment) : Settings.Setting StreamOptions :=
  let size := Settings.blockSize environment
  ⟨{ blockSize := size.value }, size.ignored⟩

/-- The block size is positive and fits the 32-bit length fields. -/
def isUsable (blockSize : Nat) : Bool := blockSize ≠ 0 && blockSize ≤ maxNativeLength

end StreamOptions

end OffloadCodec

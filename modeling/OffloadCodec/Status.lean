/-!
# Status codes of the native library

Every native call answers with a signed 32-bit code. `Status.name` is its published name, and
`Status.verdict` sorts it: zero is success, one code says that a parameter is at fault, a fixed
family says that the call did not succeed, and everything else, the positive informational codes
included, is unrecognised.
-/

namespace OffloadCodec

/-- The native call that a status comes from. -/
inductive Operation
  | compress
  | decompress
  | getDefaults
  | setDefaults
  | teardown
deriving DecidableEq, Repr

/-- What the operation does, as a message puts it. -/
def Operation.description : Operation → String
  | .compress => "compress data"
  | .decompress => "decompress data"
  | .getDefaults => "read session defaults"
  | .setDefaults => "write session defaults"
  | .teardown => "tear down session"

namespace Status

/-- Success. -/
def ok : Int32 := 0

/-- The session or a member of its parameters is invalid. -/
def invalidParameters : Int32 := -1

/-- The output does not fit its buffer. -/
def bufferError : Int32 := -3

/-- The input is not what the library wrote. -/
def dataError : Int32 := -4

/-- Every published code with its name. -/
def published : List (Int32 × String) :=
  [(0, "QZ_OK"), (1, "QZ_DUPLICATE"), (2, "QZ_FORCE_SW"), (-1, "QZ_PARAMS"), (-2, "QZ_FAIL"),
    (-3, "QZ_BUF_ERROR"), (-4, "QZ_DATA_ERROR"), (-5, "QZ_TIMEOUT"), (-100, "QZ_INTEG"),
    (11, "QZ_NO_HW"), (12, "QZ_NO_MDRV"), (13, "QZ_NO_INST_ATTACH"), (14, "QZ_LOW_MEM"),
    (15, "QZ_LOW_DEST_MEM"), (16, "QZ_UNSUPPORTED_FMT"), (100, "QZ_NONE"),
    (-101, "QZ_NOSW_NO_HW"), (-102, "QZ_NOSW_NO_MDRV"), (-103, "QZ_NOSW_NO_INST_ATTACH"),
    (-104, "QZ_NOSW_LOW_MEM"), (-105, "QZ_NO_SW_AVAIL"), (-116, "QZ_NOSW_UNSUPPORTED_FMT"),
    (-117, "QZ_POST_PROCESS_ERROR")]

/-- The published name of a code. -/
def name (code : Int32) : String := (published.lookup code).getD "unknown"

/-- The codes that say that a call did not succeed: all published negative ones but one. -/
def failures : List Int32 :=
  [-2, -3, -4, -5, -100, -117, -101, -102, -103, -104, -105, -116]

/-- How a code is to be taken. -/
inductive Verdict
  | success
  | invalidParameters
  | failed
  | unrecognized
deriving DecidableEq, Repr

def verdict (code : Int32) : Verdict :=
  if code = ok then .success
  else if code = invalidParameters then .invalidParameters
  else if code ∈ failures then .failed
  else .unrecognized

end Status

end OffloadCodec

import OffloadCodec.Status

/-!
# Errors of the codec and of binding the library

* `CodecError`: a native call reported failure, or a buffer could not be handed to it.
* `LinkError`: the library or one of its entry points could not be bound, or was not bound yet.
* `OffloadError`: either of them, for callers of the facade.

`CodecError.ofStatus?` is the only place where a status becomes an error, so a status other than
zero is never lost (`ofStatus?_eq_none_iff`) and stays readable from the error (`status?`).
-/

namespace OffloadCodec

/-- The largest length that a machine word holds. -/
def maxLength : Nat := UInt64.size - 1

/-- The largest length that the native library's 32-bit fields hold. -/
def maxNativeLength : Nat := UInt32.size - 1

inductive CodecError
  /-- The session or a parameter is invalid. -/
  | invalidParameters (operation : Operation) (code : Int32)
  /-- The library declined the operation. -/
  | operationFailed (operation : Operation) (code : Int32)
  /-- No address for a buffer: a null pointer, an empty output region or a refused allocation. -/
  | outOfMemory (what : String)
  /-- A status outside the known ones. -/
  | unrecognizedCode (operation : Operation) (code : Int32)
  /-- A range reaches past the end of its buffer. -/
  | outOfRange (offset length capacity : Nat)
  /-- A length does not fit 32 bits. -/
  | tooLarge (length : Nat)
deriving DecidableEq, Repr

namespace CodecError

/-- The error that a status stands for; `none` for success. -/
def ofStatus? (operation : Operation) (code : Int32) : Option CodecError :=
  match Status.verdict code with
  | .success => none
  | .invalidParameters => some (.invalidParameters operation code)
  | .failed => some (.operationFailed operation code)
  | .unrecognized => some (.unrecognizedCode operation code)

/-- The native status that the error carries, if it came from the library. -/
def status? : CodecError → Option Int32
  | .invalidParameters _ code => some code
  | .operationFailed _ code => some code
  | .unrecognizedCode _ code => some code
  | .outOfMemory _ => none
  | .outOfRange .. => none
  | .tooLarge _ => none

/-- The native call that the error is about, if it came from the library. -/
def operation? : CodecError → Option Operation
  | .invalidParameters operation _ => some operation
  | .operationFailed operation _ => some operation
  | .unrecognizedCode operation _ => some operation
  | .outOfMemory _ => none
  | .outOfRange .. => none
  | .tooLarge _ => none

def message : CodecError → String
  | .invalidParameters operation code =>
    "Could not " ++ operation.description ++
      ". *sess is NULL or member of params is invalid (" ++ Status.name code ++ ", " ++
      toString code ++ ")"
  | .operationFailed operation code =>
    "Could not " ++ operation.description ++ ". Function did not succeed (" ++
      Status.name code ++ ", " ++ toString code ++ ")"
  | .outOfMemory what => "Can't get " ++ what
  | .unrecognizedCode operation code =>
    "Could not " ++ operation.description ++ ". Return error code " ++ toString code
  | .outOfRange offset length capacity =>
    "range " ++ toString offset ++ ".." ++ toString (min (offset + length) maxLength) ++
      " is outside a buffer of " ++ toString capacity ++ " bytes"
  | .tooLarge length =>
    "length " ++ toString length ++ " exceeds the 32-bit limit of libqatzip"

theorem ofStatus?_eq_none_iff {operation : Operation} {code : Int32} :
    ofStatus? operation code = none ↔ code = Status.ok := by
  unfold ofStatus? Status.verdict
  by_cases h : code = Status.ok
  · simp [h]
  · by_cases hp : code = Status.invalidParameters
    · have hne : Status.invalidParameters ≠ Status.ok := by decide
      simp [hp, hne]
    · by_cases hf : code ∈ Status.failures <;> simp [h, hp, hf]

end CodecError

inductive LinkError
  /-- The platform's loader rejected the file, for the reason it gives. -/
  | libraryNotFound (library reason : String)
  /-- The library lacks an entry point that it must have. -/
  | missingSymbol (library symbol : String)
  /-- There is no dynamic loading on this platform. -/
  | unsupported (library : String)
  /-- A call came before any library was bound. -/
  | notInitialized
deriving DecidableEq, Repr

def LinkError.message : LinkError → String
  | .libraryNotFound library reason => "Can't load " ++ library ++ " due to " ++ reason
  | .missingSymbol library symbol => "Failed to load " ++ symbol ++ " from " ++ library
  | .unsupported library =>
    "Can't load " ++ library ++ ": dynamic loading is not supported on this platform"
  | .notInitialized => "libqatzip is not initialized; call qatcodec::init() first"

/-- Any failure of a call on the bound library. -/
inductive OffloadError
  | link (error : LinkError)
  | codec (error : CodecError)
deriving DecidableEq, Repr

def OffloadError.message : OffloadError → String
  | .link error => error.message
  | .codec error => error.message

end OffloadCodec

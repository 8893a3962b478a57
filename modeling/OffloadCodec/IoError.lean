import OffloadCodec.Error

/-!
# Input and output errors

Streams, files and the parallel codec fail with an `IoError`. Each constructor is a cause;
`kind` classes it and `message` words it. An error of the codec passes through whole, so its
status can still be read from the input or output error that carries it.
-/

namespace OffloadCodec

/-- The class of an input or output error. -/
inductive IoKind
  | notFound
  | permissionDenied
  | connectionRefused
  | connectionReset
  | connectionAborted
  | notConnected
  | addrInUse
  | addrNotAvailable
  | brokenPipe
  | alreadyExists
  | wouldBlock
  | notADirectory
  | isADirectory
  | directoryNotEmpty
  | readOnlyFilesystem
  | invalidInput
  | invalidData
  | invalidFilename
  | timedOut
  | writeZero
  | storageFull
  | fileTooLarge
  | resourceBusy
  | deadlock
  | interrupted
  | unsupported
  | unexpectedEof
  | outOfMemory
  | other
deriving DecidableEq, Repr

/-- Refusals of the file system. -/
inductive FileError
  | noSuchFile
  | notADirectory
  | isADirectory
  | nameTooLong
  | nulInName
deriving DecidableEq, Repr

namespace FileError

def kind : FileError → IoKind
  | .noSuchFile => .notFound
  | .notADirectory => .notADirectory
  | .isADirectory => .isADirectory
  | .nameTooLong => .invalidFilename
  | .nulInName => .invalidInput

def message : FileError → String
  | .noSuchFile => "No such file or directory (os error 2)"
  | .notADirectory => "Not a directory (os error 20)"
  | .isADirectory => "Is a directory (os error 21)"
  | .nameTooLong => "File name too long (os error 36)"
  | .nulInName => "file name contained an unexpected NUL byte"

end FileError

inductive IoError
  /-- A codec call failed. -/
  | codec (error : CodecError)
  /-- No library is bound. -/
  | link (error : LinkError)
  /-- A source or sink reported an error of its own. -/
  | device (kind : IoKind) (message : String)
  | file (error : FileError)
  /-- The block size is zero or does not fit 32 bits. -/
  | unusableBlockSize (size : Nat)
  /-- The stream ends inside a block header. -/
  | truncatedHeader
  /-- The stream ends inside a block's payload. -/
  | truncatedPayload
  /-- A block header gives a length outside `1..=max`. -/
  | lengthOutside (length max : Nat)
  /-- A writer that failed before is used again. -/
  | writerFailed
  /-- A source ended before a buffer was full. -/
  | sourceEnded
  /-- A sink took none of the bytes offered. -/
  | sinkStalled
deriving DecidableEq, Repr

namespace IoError

/-- The class of a codec error: bad arguments are input errors, what the library cannot decompress
is bad data, a missing buffer is lack of memory. -/
def kindOfCodec : CodecError → IoKind
  | .outOfMemory _ => .outOfMemory
  | .invalidParameters .. => .invalidInput
  | .outOfRange .. => .invalidInput
  | .tooLarge _ => .invalidInput
  | .operationFailed .decompress _ => .invalidData
  | .operationFailed .. => .other
  | .unrecognizedCode .. => .other

def kind : IoError → IoKind
  | .codec error => kindOfCodec error
  | .link _ => .notFound
  | .device kind _ => kind
  | .file error => error.kind
  | .unusableBlockSize _ => .invalidInput
  | .truncatedHeader => .unexpectedEof
  | .truncatedPayload => .unexpectedEof
  | .lengthOutside .. => .invalidData
  | .writerFailed => .other
  | .sourceEnded => .unexpectedEof
  | .sinkStalled => .writeZero

def message : IoError → String
  | .codec error => error.message
  | .link error => error.message
  | .device _ message => message
  | .file error => error.message
  | .unusableBlockSize size => "block size " ++ toString size ++ " is not usable"
  | .truncatedHeader => "truncated block header"
  | .truncatedPayload => "truncated block payload"
  | .lengthOutside length max =>
    "block length " ++ toString length ++ " outside 1..=" ++ toString max
  | .writerFailed => "block writer failed earlier; stream is incomplete"
  | .sourceEnded => "failed to fill whole buffer"
  | .sinkStalled => "failed to write whole buffer"

end IoError

/-- The input or output error that carries a failure of the bound library. -/
def OffloadError.toIoError : OffloadError → IoError
  | .link error => .link error
  | .codec error => .codec error

/-- How a stream operation ends when it does not succeed. -/
inductive StreamFailure
  /-- It reports an error. -/
  | error (error : IoError)
  /-- The program stops. The library reported a length that reaches past the buffer it was given, and a
  window of that length was taken; or a new buffer larger than an object may be was asked for. What is
  left behind is how things stand at that moment: what goes as the program unwinds is not followed. -/
  | overrun
deriving DecidableEq, Repr

/-- The error reported, if the program goes on. -/
def StreamFailure.error? : StreamFailure → Option IoError
  | .error e => some e
  | .overrun => none

end OffloadCodec

import OffloadCodec.Native

/-!
# The journal of a simulated library

A simulated library notes every call that reaches it. `Call` is an entry of the journal and
`Call.describe` its line.
-/

namespace OffloadCodec.Simulated

inductive Call
  /-- A session was set up, with this level. -/
  | setUp (level : UInt32)
  | compress (length : Nat) (capacity : UInt32) (last : Bool) (status : Int32)
  | decompress (length : Nat) (capacity : UInt32) (status : Int32)
  | getDefaults (status : Int32)
  | setDefaults (raw : RawParams) (status : Int32)
  | maxCompressedLength (length bound : UInt32)
  /-- An allocation, without an address if it was refused. -/
  | malloc (address : Option Address) (size : Nat) (numa pinned : Bool)
  | free (address : Address)
  | teardown (status : Int32)
deriving DecidableEq

/-- The numbers of a parameter block with their short names. -/
def numbers (raw : RawParams) : List (String × Nat) :=
  [("h", raw.huffmanHeader.toNat), ("d", raw.direction.toNat), ("f", raw.dataFormat.toNat),
    ("l", raw.level.toNat), ("a", raw.algorithm.toNat), ("ps", raw.pollSleep.toNat),
    ("mf", raw.maxForks.toNat), ("sw", raw.swBackup.toNat), ("hw", raw.hwBufferSize.toNat),
    ("st", raw.streamBufferSize.toNat), ("in", raw.inputSizeThreshold.toNat),
    ("rq", raw.requestCountThreshold.toNat), ("wt", raw.waitCountThreshold.toNat)]

/-- A parameter block on one line; zeros at the end of the reserved bytes are left out. -/
def describeParams (raw : RawParams) : String :=
  String.join ((numbers raw).map fun (name, n) => name ++ "=" ++ toString n ++ " ") ++ "res=" ++
    Bytes.toHex (raw.reserved.toList.reverse.dropWhile (· = 0)).reverse

def Call.describe : Call → String
  | setUp level => "setup level=" ++ toString level
  | compress length capacity last status =>
    "compress in=" ++ toString length ++ " out=" ++ toString capacity ++ " last=" ++
      toString last.toNat ++ " rc=" ++ toString status
  | decompress length capacity status =>
    "decompress in=" ++ toString length ++ " out=" ++ toString capacity ++ " rc=" ++
      toString status
  | getDefaults status => "getDefaults rc=" ++ toString status
  | setDefaults raw status => "setDefaults " ++ describeParams raw ++ " rc=" ++ toString status
  | maxCompressedLength length bound =>
    "bound in=" ++ toString length ++ " ret=" ++ toString bound
  | malloc address size numa pinned =>
    "malloc " ++ (match address with
      | some address => "#" ++ toString address
      | none => "NULL") ++
      " size=" ++ toString size ++ " numa=" ++ toString numa.toNat ++ " pinned=" ++
      toString pinned.toNat
  | free address => "free #" ++ toString address
  | teardown status => "teardown rc=" ++ toString status

end OffloadCodec.Simulated

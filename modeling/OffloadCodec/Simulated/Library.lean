import OffloadCodec.Simulated.Journal

/-!
# A simulated library

A native library in software, for places that have none. It stores data instead of compressing it:
a block is a tag, the session's level, the length and the data, so it is eight bytes longer than
its input. `restore?` takes a block apart again (`restore?_stored`).

It latches the level of the defaults when it sets a session up, hands out addresses in order and
notes every call in its journal. `Faults` make it misbehave: statuses can be chosen for each entry
point, and bounds, restored data and reported lengths can be wrong.
-/

namespace OffloadCodec.Simulated

/-- The entry points whose status can be chosen. -/
inductive Function
  | compress
  | decompress
  | getDefaults
  | setDefaults
  | malloc
  | teardown
deriving DecidableEq, Repr

structure Faults where
  /-- Statuses for the next calls of a function; zero lets a call do its work. -/
  next : List (Function × List Int32) := []
  /-- The status of every call of a function that has no next one. -/
  always : List (Function × Int32) := []
  /-- The bound on the compressed size of a length. -/
  bound : Nat → Nat := (· + 8)
  /-- Inverts the last byte of restored data. -/
  corrupt : Bool := false
  /-- The length reported for restored data, instead of its own. -/
  report : Option Nat := none
  /-- Takes levels outside 1 to 9 as defaults. -/
  anyLevel : Bool := false

structure State where
  defaults : RawParams := .shipped
  faults : Faults := {}
  /-- Successful allocations so far. -/
  allocated : Nat := 0
  /-- Calls so far, latest first. -/
  journal : List Call := []

/-! ## Stored blocks -/

def tag : Bytes := [0x51, 0x5a, 0x4d]

/-- Data as a block; of the level the low byte is kept. -/
def stored (level : UInt32) (data : Bytes) : Bytes :=
  tag ++ [level.toUInt8] ++ Bytes.le32 data.length ++ data

/-- The data of a block. The level is not looked at, nor what stands behind the data. -/
def restore? (block : Bytes) : Option Bytes :=
  let length := Bytes.ofLe ((block.drop 4).take 4)
  if block.length < 8 ∨ block.take 3 ≠ tag ∨ block.length < 8 + length then none
  else some ((block.drop 8).take length)

theorem length_stored (level : UInt32) (data : Bytes) :
    (stored level data).length = data.length + 8 := by
  simp [stored, tag, Bytes.le32]

theorem restore?_stored (level : UInt32) {data : Bytes} (h : data.length < UInt32.size) :
    restore? (stored level data) = some data := by
  have hlength : Bytes.ofLe (((stored level data).drop 4).take 4) = data.length := by
    simpa [stored, tag, Bytes.le32] using Bytes.ofLe_le32 h
  simp only [restore?, hlength, length_stored]
  rw [if_neg (by simp [stored, tag]; omega)]
  simp [stored, tag, Bytes.le32]

/-! ## Entry points -/

abbrev Run := StateM State

def note (call : Call) : Run Unit := modify fun s => { s with journal := call :: s.journal }

/-- The status chosen for a call of a function, which is used up; zero if there is none. -/
def chosen (f : Function) : Run Int32 := do
  let s ← get
  match s.faults.next.lookup f with
  | some (code :: rest) =>
    let next := (f, rest) :: s.faults.next.filter (·.1 ≠ f)
    set { s with faults := { s.faults with next } }
    return code
  | _ => return (s.faults.always.lookup f).getD 0

/-- The session's level, and its record set up. -/
def setUp (record : SessionRecord UInt32) : Run (UInt32 × SessionRecord UInt32) := do
  match record.internal with
  | some level => return (level, record)
  | none =>
    let level := (← get).defaults.level
    note (.setUp level)
    return (level, { record with internal := some level })

/-- A codec call that succeeded. -/
def success (record : SessionRecord UInt32) (consumed reported : Nat) (written : Bytes) :
    CodecReply UInt32 where
  status := 0
  reported := UInt32.ofNat reported
  written := written
  record := { record with
    totalIn := record.totalIn + UInt64.ofNat consumed
    totalOut := record.totalOut + UInt64.ofNat written.length }

def compress (record : SessionRecord UInt32) (input : Bytes) (capacity : UInt32) (last : Bool) :
    Run (CodecReply UInt32) := do
  let code ← chosen .compress
  let reply ←
    if code ≠ 0 then pure ⟨code, capacity, [], record⟩
    else if !last then pure ⟨Status.invalidParameters, capacity, [], record⟩
    else do
      let (level, record) ← setUp record
      if capacity.toNat < input.length + 8 then pure ⟨Status.bufferError, 0, [], record⟩
      else pure (success record input.length (input.length + 8) (stored level input))
  note (.compress input.length capacity last reply.status)
  return reply

def decompress (record : SessionRecord UInt32) (input : Bytes) (capacity : UInt32) :
    Run (CodecReply UInt32) := do
  let code ← chosen .decompress
  let reply ←
    if code ≠ 0 then pure ⟨code, capacity, [], record⟩
    else do
      let (_, record) ← setUp record
      let faults := (← get).faults
      match restore? input with
      | none => pure ⟨Status.dataError, capacity, [], record⟩
      | some data =>
        if capacity.toNat < data.length then pure ⟨Status.bufferError, capacity, [], record⟩
        else
          let written := if faults.corrupt then data.modify (data.length - 1) (~~~ ·) else data
          pure (success record (data.length + 8) (faults.report.getD data.length) written)
  note (.decompress input.length capacity reply.status)
  return reply

def getDefaults (raw : RawParams) : Run (Int32 × RawParams) := do
  let code ← chosen .getDefaults
  note (.getDefaults code)
  let s ← get
  return (code, if code = 0 then s.defaults else raw)

def setDefaults (raw : RawParams) : Run Int32 := do
  let code ← chosen .setDefaults
  let s ← get
  let refused := !s.faults.anyLevel && (raw.level < 1 || 9 < raw.level)
  let code := if code = 0 && refused then Status.invalidParameters else code
  if code = 0 then set { s with defaults := raw }
  note (.setDefaults raw code)
  return code

/-- Bounds that do not fit 32 bits are cut to the largest that does. -/
def maxCompressedLength (length : UInt32) : Run UInt32 := do
  let bound := UInt32.ofNat (min ((← get).faults.bound length.toNat) (UInt32.size - 1))
  note (.maxCompressedLength length bound)
  return bound

/-- The largest allocation. -/
def mallocMax : Nat := 64 * 1048576

def malloc (size : Nat) (numa pinned : Bool) : Run (Option Address) := do
  let code ← chosen .malloc
  let address := (← get).allocated
  if code ≠ 0 ∨ mallocMax < size then
    note (.malloc none size numa pinned)
    return none
  else
    modify fun s => { s with allocated := s.allocated + 1 }
    note (.malloc (some address) size numa pinned)
    return some address

def free (address : Address) : Run Unit := note (.free address)

def teardown (_ : SessionRecord UInt32) : Run Int32 := do
  let code ← chosen .teardown
  note (.teardown code)
  return code

/-- All entry points, the optional ones as far as they are asked for. -/
def entryPoints (hasFree hasTeardown : Bool) : EntryPoints State UInt32 where
  compress record input capacity last s := (compress record input capacity last).run s
  decompress record input capacity s := (decompress record input capacity).run s
  getDefaults raw s := (getDefaults raw).run s
  setDefaults raw s := (setDefaults raw).run s
  maxCompressedLength length s := (maxCompressedLength length).run s
  malloc size numa pinned s := (malloc size numa pinned).run s
  free := if hasFree then some fun address s => ((free address).run s).2 else none
  teardown := if hasTeardown then some fun record s => (teardown record).run s else none

end OffloadCodec.Simulated

import OffloadCodec.Native
import OffloadCodec.Status

/-!
# What is assumed of a native library

Nothing is known of a native library but its entry points, so what depends on how it behaves is shown
under a contract. A contract is about the states of the library that are normal, a predicate that the
library's calls keep.

* `EntryPoints.Lossless`: what was compressed is restored.
* `EntryPoints.LevelDetermined`: the result of a compression depends on the session's level, the
  input and the capacity only.
* `EntryPoints.PayloadDetermined`: the result of a decompression depends on the payload and the
  capacity only.
* `EntryPoints.ReportsWithin`: a compression reports no more than there was room for, in any state.
* `EntryPoints.WritesReported`: a codec call writes what it reports.
* `EntryPoints.AllocatesApart`: obtaining memory and giving it back has no part in anything else.
* `EntryPoints.KeepsDefaults`: reading and replacing the defaults leaves a normal library normal.
* `EntryPoints.HoldsDefaults`: the library holds a parameter block, which is read and replaced as a
  whole, in any state.
-/

namespace OffloadCodec

variable {σ ι : Type}

namespace EntryPoints

/-- Every entry point that a stream calls keeps a property of the library's state. -/
structure Keep (entries : EntryPoints σ ι) (normal : σ → Prop) : Prop where
  compress : ∀ record input capacity native, normal native →
    normal (entries.compress record input capacity true native).2
  decompress : ∀ record input capacity native, normal native →
    normal (entries.decompress record input capacity native).2
  maxCompressedLength : ∀ length native, normal native →
    normal (entries.maxCompressedLength length native).2
  malloc : ∀ size numa pinned native, normal native →
    normal (entries.malloc size numa pinned native).2
  free : ∀ free, entries.free = some free → ∀ address native, normal native →
    normal (free address native)

/-- Reading and replacing the defaults keeps a property of the library's state. -/
structure KeepsDefaults (entries : EntryPoints σ ι) (normal : σ → Prop) : Prop where
  getDefaults : ∀ raw native, normal native → normal (entries.getDefaults raw native).2
  setDefaults : ∀ raw native, normal native → normal (entries.setDefaults raw native).2

/-- In a normal state a payload decompresses to this data if there is room for it, and is rejected if
there is not. -/
def Restores (entries : EntryPoints σ ι) (normal : σ → Prop) (payload data : Bytes) : Prop :=
  ∀ record capacity native, normal native →
    let reply := (entries.decompress record payload capacity native).1
    (data.length ≤ capacity.toNat →
      reply.status = Status.ok ∧ reply.reported.toNat = data.length ∧
        reply.written.take data.length = data) ∧
    (capacity.toNat < data.length → reply.status ≠ Status.ok)

/-- In normal states compression loses nothing: if it succeeds then it reports a positive length
within the capacity, has written that many bytes, and they restore the input. Longer inputs have no
smaller bounds. -/
structure Lossless (entries : EntryPoints σ ι) (normal : σ → Prop) : Prop
    extends entries.Keep normal where
  reports : ∀ record input capacity native, normal native →
    let reply := (entries.compress record input capacity true native).1
    reply.status = Status.ok →
      0 < reply.reported.toNat ∧ reply.reported.toNat ≤ capacity.toNat ∧
        reply.reported.toNat ≤ reply.written.length
  restores : ∀ record input capacity native, normal native →
    let reply := (entries.compress record input capacity true native).1
    reply.status = Status.ok →
      entries.Restores normal (reply.written.take reply.reported.toNat) input
  grows : ∀ shorter longer native native', shorter ≤ longer → normal native → normal native' →
    (entries.maxCompressedLength shorter native).1 ≤ (entries.maxCompressedLength longer native').1

/-- In normal states the result of a compression depends on the session's level, the input and the
capacity: `result` gives the status and, for a success, the output, which was written and reported
within the capacity. A session without a level takes the one in force, which no call changes. A
length has one bound. -/
structure LevelDetermined {Level : Type} (entries : EntryPoints σ ι) (normal : σ → Prop)
    (inForce : σ → Level) (latched : SessionRecord ι → Option Level)
    (result : Level → Bytes → UInt32 → Int32 × Bytes) : Prop where
  fresh : latched {} = none
  compress : ∀ record input capacity native, normal native →
    let level := (latched record).getD (inForce native)
    let reply := entries.compress record input capacity true native
    reply.1.status = (result level input capacity).1 ∧
      (reply.1.status = Status.ok →
        reply.1.reported.toNat ≤ capacity.toNat ∧
          reply.1.reported.toNat ≤ reply.1.written.length ∧
          reply.1.written.take reply.1.reported.toNat = (result level input capacity).2) ∧
      (latched reply.1.record = latched record ∨ latched reply.1.record = some level) ∧
      normal reply.2 ∧ inForce reply.2 = inForce native
  maxCompressedLength : ∀ length native, normal native →
    normal (entries.maxCompressedLength length native).2 ∧
      inForce (entries.maxCompressedLength length native).2 = inForce native
  bound : ∀ length native native', normal native → normal native' →
    (entries.maxCompressedLength length native).1 = (entries.maxCompressedLength length native').1

/-- In normal states the result of a decompression depends on the payload and the capacity: `result`
gives the status and, for a success, the output, which was written and reported within the
capacity. -/
structure PayloadDetermined (entries : EntryPoints σ ι) (normal : σ → Prop)
    (result : Bytes → UInt32 → Int32 × Bytes) : Prop where
  decompress : ∀ record payload capacity native, normal native →
    let reply := entries.decompress record payload capacity native
    reply.1.status = (result payload capacity).1 ∧
      (reply.1.status = Status.ok →
        reply.1.reported.toNat ≤ capacity.toNat ∧
          reply.1.reported.toNat ≤ reply.1.written.length ∧
          reply.1.written.take reply.1.reported.toNat = (result payload capacity).2) ∧
      normal reply.2
  maxCompressedLength : ∀ length native, normal native →
    normal (entries.maxCompressedLength length native).2

/-- A compression that succeeds reports a length within the capacity. -/
def ReportsWithin (entries : EntryPoints σ ι) : Prop :=
  ∀ record input capacity native,
    let reply := (entries.compress record input capacity true native).1
    reply.status = Status.ok → reply.reported.toNat ≤ capacity.toNat

end EntryPoints

/-- A codec call that succeeded has written all that it reports. -/
def CodecReply.WritesReported (reply : CodecReply ι) : Prop :=
  reply.status = Status.ok → reply.reported.toNat ≤ reply.written.length

namespace EntryPoints

/-- In normal states codec calls of a kind write what they report. -/
def WritesReported (entries : EntryPoints σ ι) (normal : σ → Prop) : Operation → Prop
  | .compress => ∀ record input capacity native, normal native →
    (entries.compress record input capacity true native).1.WritesReported
  | .decompress => ∀ record input capacity native, normal native →
    (entries.decompress record input capacity native).1.WritesReported
  | _ => True

/-- States are the `same` if they differ in no more than what memory has been obtained and given
back. All other calls reply the same in such states. -/
structure AllocatesApart (entries : EntryPoints σ ι) (same : σ → σ → Prop) : Prop where
  symm : ∀ {native native'}, same native native' → same native' native
  trans : ∀ {native native' native''}, same native native' → same native' native'' →
    same native native''
  malloc : ∀ size numa pinned {native native'}, same native native' →
    same (entries.malloc size numa pinned native).2 native'
  free : ∀ free, entries.free = some free → ∀ address {native native'}, same native native' →
    same (free address native) native'
  compress : ∀ record input capacity {native native'}, same native native' →
    (entries.compress record input capacity true native).1 =
        (entries.compress record input capacity true native').1 ∧
      same (entries.compress record input capacity true native).2
        (entries.compress record input capacity true native').2
  decompress : ∀ record input capacity {native native'}, same native native' →
    (entries.decompress record input capacity native).1 =
        (entries.decompress record input capacity native').1 ∧
      same (entries.decompress record input capacity native).2
        (entries.decompress record input capacity native').2
  maxCompressedLength : ∀ length {native native'}, same native native' →
    (entries.maxCompressedLength length native).1 =
        (entries.maxCompressedLength length native').1 ∧
      same (entries.maxCompressedLength length native).2
        (entries.maxCompressedLength length native').2
  teardown : ∀ teardown, entries.teardown = some teardown → ∀ record {native native'},
    same native native' → (teardown record native).1 = (teardown record native').1 ∧
      same (teardown record native).2 (teardown record native').2

/-- The library's state has a parameter block in it. A call that succeeds reads it or replaces it; a
call that fails leaves it alone. -/
structure HoldsDefaults (entries : EntryPoints σ ι) (params : σ → RawParams) : Prop where
  getDefaults : ∀ raw native,
    let reply := entries.getDefaults raw native
    (reply.1.1 = Status.ok → reply.1.2 = params native) ∧ params reply.2 = params native
  setDefaults : ∀ raw native,
    let reply := entries.setDefaults raw native
    (reply.1 = Status.ok → params reply.2 = raw) ∧
      (reply.1 ≠ Status.ok → params reply.2 = params native)

end EntryPoints

end OffloadCodec

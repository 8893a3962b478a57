import OffloadCodec.Defaults
import OffloadCodec.Proofs.LibraryContract

/-!
# Updates of the defaults

An update reads the parameter block, edits its typed view, writes the block back and notes what it
has written (`Library.runOn_updateDefaults`). With a library that holds a block, an update that
succeeds replaces the block by the edited one and the note by its configuration
(`Library.updateDefaults_ok`); one that fails returns the status that it failed with and changes
neither (`Library.updateDefaults_error`).
-/

namespace OffloadCodec

variable {σ ι : Type}

theorem runOn_checkStatus (operation : Operation) (code : Int32) (world : World σ) :
    (checkStatus operation code).runOn world =
      match CodecError.ofStatus? operation code with
      | none => (.ok (), world)
      | some e => (.error e, world) := by
  rw [checkStatus]
  cases CodecError.ofStatus? operation code with
  | none => rfl
  | some e => rfl

/-- Writing a view twice is writing it once. -/
@[simp] theorem CodecConfig.writeInto_writeInto (config : CodecConfig) (raw : RawParams) :
    config.writeInto (config.writeInto raw) = config.writeInto raw := rfl

namespace Library

/-- Replaces the parameter block. -/
def writeRawDefaults (library : Library σ ι) (raw : RawParams) : Act σ CodecError Unit := do
  let status ← Act.of fun world =>
    let (status, native) := library.entries.setDefaults raw world.native
    (.ok status, { world with native })
  checkStatus .setDefaults status

theorem runOn_readRawDefaults (library : Library σ ι) (world : World σ) :
    library.readRawDefaults.runOn world =
      let reply := library.entries.getDefaults .shipped world.native
      (match CodecError.ofStatus? .getDefaults reply.1.1 with
        | none => .ok reply.1.2
        | some e => .error e, { world with native := reply.2 }) := by
  simp only [readRawDefaults, Act.runOn_bind, Act.runOn_of, runOn_checkStatus]
  cases CodecError.ofStatus? .getDefaults
      (library.entries.getDefaults .shipped world.native).1.1 with
  | none => rfl
  | some e => rfl

theorem runOn_writeRawDefaults (library : Library σ ι) (raw : RawParams) (world : World σ) :
    (library.writeRawDefaults raw).runOn world =
      let reply := library.entries.setDefaults raw world.native
      (match CodecError.ofStatus? .setDefaults reply.1 with
        | none => .ok ()
        | some e => .error e, { world with native := reply.2 }) := by
  simp only [writeRawDefaults, Act.runOn_bind, Act.runOn_of, runOn_checkStatus]
  cases CodecError.ofStatus? .setDefaults (library.entries.setDefaults raw world.native).1 with
  | none => rfl
  | some e => rfl

theorem runOn_updateDefaults (library : Library σ ι) (edit : CodecConfig → CodecConfig)
    (world : World σ) :
    (library.updateDefaults edit).runOn world =
      match library.readRawDefaults.runOn world with
      | (.error e, world) => (.error e, world)
      | (.ok raw, world) =>
        let config := edit (.ofRaw raw)
        match (library.writeRawDefaults (config.writeInto raw)).runOn world with
        | (.error e, world) => (.error e, world)
        | (.ok (), world) => (.ok config, { world with applied := some config }) := by
  rw [updateDefaults, Act.runOn_bind]
  rcases library.readRawDefaults.runOn world with ⟨_ | raw, middle⟩
  · rfl
  · simp only [runOn_writeRawDefaults, Act.runOn_bind, Act.runOn_of, runOn_checkStatus]
    cases CodecError.ofStatus? .setDefaults (library.entries.setDefaults
        ((edit (.ofRaw raw)).writeInto raw) middle.native).1 with
    | none => rfl
    | some e => rfl

/-- The status that the library answers an update with is one of an error. -/
def RefusesUpdate (library : Library σ ι) (edit : CodecConfig → CodecConfig) (native : σ)
    (e : CodecError) : Prop :=
  let read := library.entries.getDefaults .shipped native
  CodecError.ofStatus? .getDefaults read.1.1 = some e ∨
    (read.1.1 = Status.ok ∧
      CodecError.ofStatus? .setDefaults (library.entries.setDefaults
        ((edit (.ofRaw read.1.2)).writeInto read.1.2) read.2).1 = some e)

/-! ## With a library that holds a parameter block -/

variable {library : Library σ ι} {params : σ → RawParams} {world after : World σ}
  {raw : RawParams} {edit : CodecConfig → CodecConfig} {config : CodecConfig} {e : CodecError}

/-- A read that succeeds makes one call, and that succeeds. -/
theorem readRawDefaults_reply (read : library.readRawDefaults.runOn world = (.ok raw, after)) :
    let reply := library.entries.getDefaults .shipped world.native
    reply.1.1 = Status.ok ∧ raw = reply.1.2 ∧ after = { world with native := reply.2 } := by
  rw [runOn_readRawDefaults] at read
  dsimp only at read
  split at read
  · next succeeded =>
    obtain ⟨rfl, rfl⟩ := by simpa only [Prod.mk.injEq, Except.ok.injEq] using read
    exact ⟨CodecError.ofStatus?_eq_none_iff.1 succeeded, rfl, rfl⟩
  · simp at read

variable (holds : library.entries.HoldsDefaults params)
include holds

theorem readRawDefaults_ok (read : library.readRawDefaults.runOn world = (.ok raw, after)) :
    raw = params world.native ∧ params after.native = params world.native ∧
      after.applied = world.applied := by
  obtain ⟨reports, leaves⟩ := holds.getDefaults .shipped world.native
  obtain ⟨succeeded, rfl, rfl⟩ := readRawDefaults_reply read
  exact ⟨reports succeeded, leaves, rfl⟩

theorem readRawDefaults_error (failed : library.readRawDefaults.runOn world = (.error e, after)) :
    CodecError.ofStatus? .getDefaults
        (library.entries.getDefaults .shipped world.native).1.1 = some e ∧
      params after.native = params world.native ∧ after.applied = world.applied := by
  obtain ⟨-, leaves⟩ := holds.getDefaults .shipped world.native
  rw [runOn_readRawDefaults] at failed
  dsimp only at failed
  split at failed
  · simp at failed
  · next refused =>
    obtain ⟨rfl, rfl⟩ := by simpa only [Prod.mk.injEq, Except.error.injEq] using failed
    exact ⟨refused, leaves, rfl⟩

theorem writeRawDefaults_ok (wrote : (library.writeRawDefaults raw).runOn world = (.ok (), after)) :
    params after.native = raw ∧ after.applied = world.applied := by
  obtain ⟨replaces, -⟩ := holds.setDefaults raw world.native
  rw [runOn_writeRawDefaults] at wrote
  dsimp only at wrote
  split at wrote
  · next succeeded =>
    obtain ⟨-, rfl⟩ := by simpa only [Prod.mk.injEq] using wrote
    exact ⟨replaces (CodecError.ofStatus?_eq_none_iff.1 succeeded), rfl⟩
  · simp at wrote

theorem writeRawDefaults_error
    (failed : (library.writeRawDefaults raw).runOn world = (.error e, after)) :
    CodecError.ofStatus? .setDefaults (library.entries.setDefaults raw world.native).1 = some e ∧
      params after.native = params world.native ∧ after.applied = world.applied := by
  obtain ⟨-, leaves⟩ := holds.setDefaults raw world.native
  rw [runOn_writeRawDefaults] at failed
  dsimp only at failed
  split at failed
  · simp at failed
  · next refused =>
    obtain ⟨rfl, rfl⟩ := by simpa only [Prod.mk.injEq, Except.error.injEq] using failed
    have unsuccessful : (library.entries.setDefaults raw world.native).1 ≠ Status.ok := by
      intro succeeded
      rw [CodecError.ofStatus?_eq_none_iff.2 succeeded] at refused
      cases refused
    exact ⟨refused, leaves unsuccessful, rfl⟩

theorem updateDefaults_ok
    (updated : (library.updateDefaults edit).runOn world = (.ok config, after)) :
    config = edit (.ofRaw (params world.native)) ∧
      params after.native = config.writeInto (params world.native) ∧
      after.applied = some config := by
  rw [runOn_updateDefaults] at updated
  split at updated
  · simp at updated
  · next raw middle read =>
    obtain ⟨rfl, -⟩ := readRawDefaults_ok holds read
    dsimp only at updated
    split at updated
    · simp at updated
    · next last wrote =>
      obtain ⟨rfl, rfl⟩ := by simpa only [Prod.mk.injEq, Except.ok.injEq] using updated
      exact ⟨rfl, (writeRawDefaults_ok holds wrote).1, rfl⟩

theorem updateDefaults_error
    (failed : (library.updateDefaults edit).runOn world = (.error e, after)) :
    library.RefusesUpdate edit world.native e ∧ params after.native = params world.native ∧
      after.applied = world.applied := by
  rw [runOn_updateDefaults] at failed
  split at failed
  · next refused =>
    obtain ⟨rfl, rfl⟩ := by simpa only [Prod.mk.injEq, Except.error.injEq] using failed
    obtain ⟨status, same, kept⟩ := readRawDefaults_error holds refused
    exact ⟨.inl status, same, kept⟩
  · next raw middle read =>
    obtain ⟨-, same, kept⟩ := readRawDefaults_ok holds read
    dsimp only at failed
    split at failed
    · next refused =>
      obtain ⟨rfl, rfl⟩ := by simpa only [Prod.mk.injEq, Except.error.injEq] using failed
      obtain ⟨status, same', kept'⟩ := writeRawDefaults_error holds refused
      refine ⟨.inr ?_, same'.trans same, kept'.trans kept⟩
      obtain ⟨succeeded, rfl, rfl⟩ := readRawDefaults_reply read
      exact ⟨succeeded, status⟩
    · simp at failed

end Library

end OffloadCodec

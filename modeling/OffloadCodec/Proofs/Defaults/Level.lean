import OffloadCodec.Facade
import OffloadCodec.Proofs.Defaults.Conversion
import OffloadCodec.Proofs.Defaults.Updates
import OffloadCodec.Proofs.SimulatedLibrary

/-!
# Setting the level

Setting the level is an update, so all fields that the typed view knows are written back, from the
view. The view holds the value of every field but one: of the fallback on software it only holds
whether it is zero. So the level is set and everything else is left as it was, but for a fallback of
two and more, which becomes one (`Library.setCompressionLevel_params`).
-/

namespace OffloadCodec

/-- The parameters that setting a level leaves. -/
def RawParams.atLevel (raw : RawParams) (level : Int32) : RawParams :=
  { raw with
    level := level.toUInt32
    swBackup := if raw.swBackup = 0 then 0 else 1 }

/-- The view of a field gives its value back, but for the fallback on software. -/
theorem CodecConfig.writeInto_withLevel (raw : RawParams) (level : Int32) :
    ((ofRaw raw).withLevel level).writeInto raw = raw.atLevel level := by
  calc ((ofRaw raw).withLevel level).writeInto raw
      = { (ofRaw raw).writeInto raw with level := level.toUInt32 } := rfl
    _ = raw.atLevel level := by rw [writeInto_ofRaw, RawParams.atLevel]

/-- Nothing but the level has changed if the fallback is one of the values that a view writes. -/
theorem RawParams.atLevel_eq_iff (raw : RawParams) (level : Int32) :
    raw.atLevel level = { raw with level := level.toUInt32 } ↔
      raw.swBackup = 0 ∨ raw.swBackup = 1 := by
  have only : raw.atLevel level = { raw with level := level.toUInt32 } ↔
      (if raw.swBackup = 0 then 0 else 1) = raw.swBackup := by
    constructor
    · intro same
      exact congrArg RawParams.swBackup same
    · intro same
      rw [atLevel, same]
  rw [only]
  by_cases zero : raw.swBackup = 0
  · rw [zero]
    exact iff_of_true rfl (.inl rfl)
  · rw [if_neg zero]
    exact ⟨fun one => .inr one.symm, fun either => (either.resolve_left zero).symm⟩

variable {σ ι : Type} {library : Library σ ι} {params : σ → RawParams}

namespace Library

theorem setCompressionLevel_ok (holds : library.entries.HoldsDefaults params) {level : Int32}
    {world after : World σ}
    (set : (library.setCompressionLevel level).runOn world = (.ok (), after)) :
    params after.native = (params world.native).atLevel level := by
  rw [setCompressionLevel, Act.runOn_bind] at set
  split at set
  · next config last updated =>
    obtain ⟨-, rfl⟩ := by simpa only [Act.runOn_pure, Prod.mk.injEq] using set
    obtain ⟨rfl, written, -⟩ := updateDefaults_ok holds updated
    rw [written, CodecConfig.writeInto_withLevel]
  · simp at set

end Library

/-- The facade sets the level of the library that is bound. -/
theorem Host.setCompressionLevel_ok {host host' : Host σ ι} {level : Int32}
    (bound : host.bound = some library)
    (set : host.setCompressionLevel level = (.ok (), host')) :
    (library.setCompressionLevel level).runOn host.world = (.ok (), host'.world) := by
  have found : host.boundLibrary = .ok library := by
    simp only [Host.boundLibrary, Host.library, bound]
  rw [Host.setCompressionLevel, Host.onLibrary, found] at set
  dsimp only at set
  split at set
  · next u after ran =>
    obtain ⟨-, rfl⟩ := by simpa only [Prod.mk.injEq] using set
    exact ran
  · simp at set

namespace Library

/-- Setting the level, directly or through the facade, leaves the parameters as `atLevel` says. That
is what they were with another level exactly if the fallback on software was zero or one. -/
theorem setCompressionLevel_params (holds : library.entries.HoldsDefaults params)
    (level : Int32) :
    (∀ world after : World σ, (library.setCompressionLevel level).runOn world = (.ok (), after) →
      params after.native = (params world.native).atLevel level) ∧
    (∀ host host' : Host σ ι, host.bound = some library →
      host.setCompressionLevel level = (.ok (), host') →
      params host'.world.native = (params host.world.native).atLevel level) ∧
    ∀ raw : RawParams, raw.atLevel level = { raw with level := level.toUInt32 } ↔
      raw.swBackup = 0 ∨ raw.swBackup = 1 := by
  refine ⟨fun world after set => setCompressionLevel_ok holds set, ?_,
    fun raw => raw.atLevel_eq_iff level⟩
  intro host host' bound set
  exact setCompressionLevel_ok holds (Host.setCompressionLevel_ok bound set)

/-- A fallback that is on stays on. -/
theorem setCompressionLevel_params_shipped :
    let after := ((Simulated.library.setCompressionLevel 6).runOn { native := {} }).2
    after.native.defaults = { RawParams.shipped with level := 6 } := by
  have set : ((Simulated.library.setCompressionLevel 6).runOn { native := {} }).1 = .ok () := by
    decide +kernel
  obtain ⟨directly, -, same⟩ := setCompressionLevel_params Simulated.holdsDefaults 6
  exact (directly _ _ (Prod.ext set rfl)).trans ((same RawParams.shipped).2 (.inr rfl))

/-- A fallback of two does not stay two. -/
theorem setCompressionLevel_loses_fallback :
    ¬∀ (world after : World Simulated.State) (level : Int32),
      (Simulated.library.setCompressionLevel level).runOn world = (.ok (), after) →
      after.native.defaults = { world.native.defaults with level := level.toUInt32 } := by
  intro claimed
  let world : World Simulated.State :=
    { native := { defaults := { RawParams.shipped with swBackup := 2 } } }
  have set : ((Simulated.library.setCompressionLevel 6).runOn world).1 = .ok () := by
    decide +kernel
  have one : ((Simulated.library.setCompressionLevel 6).runOn world).2.native.defaults.swBackup =
      1 := by
    decide +kernel
  rcases ran : (Simulated.library.setCompressionLevel 6).runOn world with ⟨result, after⟩
  rw [ran] at set one
  obtain rfl : result = _ := set
  have two : after.native.defaults.swBackup = 2 :=
    congrArg RawParams.swBackup (claimed world after 6 ran)
  exact absurd (one.symm.trans two) (by decide)

end Library

end OffloadCodec

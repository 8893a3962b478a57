import OffloadCodec.Console
import OffloadCodec.FileTree
import OffloadCodec.Params
import OffloadCodec.Settings

/-!
# The world around the codec

`World σ` is everything that operations share: the native library's own state, of an arbitrary
type `σ`, the configuration last written through the library, the console, the files and the
environment. An operation that changes no object of its own is an `Act`: it takes the world to a
result or an error, and to the world afterwards in either case.
-/

namespace OffloadCodec

structure World (σ : Type) where
  /-- The native library's state, which only its entry points read and change. -/
  native : σ
  /-- The configuration that was last written through the library, if any was. -/
  applied : Option CodecConfig := none
  console : Console := {}
  files : FileTree := {}
  environment : Environment := []

namespace World

variable {σ : Type}

/-- Writes to the console's diagnostics, whatever the level. -/
def warn (world : World σ) (text : String) : World σ :=
  { world with console := world.console.warn text }

/-- Writes a diagnostic if the display level reaches `level`. -/
def say (world : World σ) (level : Nat) (text : String) : World σ :=
  { world with console := world.console.say level text }

/-- The value of a setting; what was ignored for it is said. -/
def take {α : Type} (world : World σ) (setting : Settings.Setting α) : α × World σ :=
  let (value, console) := setting.take world.console
  (value, { world with console })

end World

/-- An operation on the world that may fail. -/
abbrev Act (σ ε : Type) := ExceptT ε (StateM (World σ))

namespace Act

variable {σ ε ε' α : Type}

/-- Runs an operation: its result and the world afterwards. -/
def runOn (act : Act σ ε α) (world : World σ) : Except ε α × World σ := act.run.run world

/-- An operation from its effect. -/
def of (effect : World σ → Except ε α × World σ) : Act σ ε α := ExceptT.mk effect

/-- A change of the world that cannot fail. -/
def change (f : World σ → World σ) : Act σ ε Unit := of fun world => (.ok (), f world)

/-- A result that needs no effect. -/
def ofExcept (result : Except ε α) : Act σ ε α := of fun world => (result, world)

/-- The same operation with its error carried by another. -/
def mapError (f : ε → ε') (act : Act σ ε α) : Act σ ε' α :=
  of fun world =>
    match act.runOn world with
    | (.ok a, world) => (.ok a, world)
    | (.error e, world) => (.error (f e), world)

@[simp] theorem runOn_of (effect : World σ → Except ε α × World σ) (world : World σ) :
    (of effect).runOn world = effect world := rfl

@[simp] theorem runOn_pure (a : α) (world : World σ) :
    (pure a : Act σ ε α).runOn world = (.ok a, world) := rfl

@[simp] theorem runOn_throw (e : ε) (world : World σ) :
    (throw e : Act σ ε α).runOn world = (.error e, world) := rfl

theorem runOn_bind {β : Type} (act : Act σ ε α) (f : α → Act σ ε β) (world : World σ) :
    (act >>= f).runOn world =
      match act.runOn world with
      | (.ok a, world) => (f a).runOn world
      | (.error e, world) => (.error e, world) := by
  simp only [runOn, bind, ExceptT.bind, ExceptT.mk, ExceptT.run, StateT.run, StateT.bind,
    ExceptT.bindCont]
  rcases act world with ⟨_ | _, _⟩ <;> rfl

@[simp] theorem runOn_change (f : World σ → World σ) (world : World σ) :
    (change f : Act σ ε Unit).runOn world = (.ok (), f world) := rfl

@[simp] theorem runOn_ofExcept (result : Except ε α) (world : World σ) :
    (ofExcept result : Act σ ε α).runOn world = (result, world) := rfl

end Act

end OffloadCodec

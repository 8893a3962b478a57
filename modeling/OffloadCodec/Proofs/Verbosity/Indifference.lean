import OffloadCodec.LibraryCheck
import OffloadCodec.Proofs.Defaults.Sharing
import OffloadCodec.Proofs.Levels.Uses

/-!
# Worlds that differ in their consoles

Diagnostics are written and never read. `World.ConsoleOnly` is a relation of worlds that are the same
up to their consoles, which lasts whatever becomes of the rest and whatever is said. Nothing that the
program does can tell such worlds apart: an operation that is `Act.Indifferent` returns the same in
both and leaves worlds behind that are related again.

To a session, a writer or a reader the library looks like itself from both worlds
(`World.ConsoleOnly.likeness`), so what is shown of libraries that look alike holds of them.
-/

namespace OffloadCodec

variable {σ ι : Type}

/-- Worlds so related are the same but for their consoles, and stay related. Something that is said
has a positive level. -/
structure World.ConsoleOnly (alike : World σ → World σ → Prop) : Prop where
  native : ∀ {world world'}, alike world world' → world.native = world'.native
  applied : ∀ {world world'}, alike world world' → world.applied = world'.applied
  files : ∀ {world world'}, alike world world' → world.files = world'.files
  environment : ∀ {world world'}, alike world world' → world.environment = world'.environment
  keeps : ∀ {world world'}, alike world world' → ∀ native applied files environment,
    alike { world with native, applied, files, environment }
      { world' with native, applied, files, environment }
  say : ∀ {world world'}, alike world world' → ∀ level text, 0 < level →
    alike (world.say level text) (world'.say level text)
  report : ∀ {world world'}, alike world world' → ∀ text,
    alike { world with console := world.console.report text }
      { world' with console := world'.console.report text }

/-- Related worlds, and beside them one and the same object. -/
def World.Beside {α : Type} (alike : World σ → World σ → Prop) (a : α) (world : World σ) (b : α)
    (world' : World σ) : Prop :=
  a = b ∧ alike world world'

/-- The operation does the same in related worlds, and leads to related ones. -/
def Act.Indifferent {ε α : Type} (alike : World σ → World σ → Prop) (act : Act σ ε α) : Prop :=
  act.MakeAlike alike alike Eq act

section Acts

variable {ε ε' α β : Type} {alike : World σ → World σ → Prop}

theorem Act.Indifferent.same {act : Act σ ε α} (indifferent : act.Indifferent alike)
    {world world' : World σ} (like : alike world world') :
    SameEnd alike (act.runOn world) (act.runOn world') := by
  have made := indifferent world world' like
  generalize act.runOn world = outcome, act.runOn world' = outcome' at made ⊢
  cases made with
  | ok same still =>
    cases same
    exact .of _ still
  | error e left => exact .of _ left

theorem Act.indifferent_of {act : Act σ ε α}
    (same : ∀ world world', alike world world' →
      SameEnd alike (act.runOn world) (act.runOn world')) : act.Indifferent alike := by
  intro world world' like
  have ends := same world world' like
  generalize act.runOn world = outcome, act.runOn world' = outcome' at ends ⊢
  obtain ⟨result, left⟩ := ends
  cases result with
  | ok a => exact .ok rfl left
  | error e => exact .error e left

theorem Act.indifferent_pure (a : α) : (pure a : Act σ ε α).Indifferent alike :=
  Act.makeAlike_pure rfl

theorem Act.indifferent_throw (e : ε) : (throw e : Act σ ε α).Indifferent alike :=
  Act.makeAlike_throw (fun _ _ like => like) e

theorem Act.Indifferent.bind {act : Act σ ε α} {next : α → Act σ ε β}
    (first : act.Indifferent alike) (rest : ∀ a, (next a).Indifferent alike) :
    (act >>= next).Indifferent alike := by
  refine MakeAlike.bind first fun a b same => ?_
  cases same
  exact rest a

theorem Act.Indifferent.mapError {act : Act σ ε α} (indifferent : act.Indifferent alike)
    (f : ε → ε') : (act.mapError f).Indifferent alike :=
  MakeAlike.mapError indifferent f

end Acts

namespace World.ConsoleOnly

variable {alike : World σ → World σ → Prop} (only : ConsoleOnly alike) {world world' : World σ}
  {library : Library σ ι}

include only in
/-- The relation the other way round. -/
theorem flip : ConsoleOnly fun world world' => alike world' world where
  native like := (only.native like).symm
  applied like := (only.applied like).symm
  files like := (only.files like).symm
  environment like := (only.environment like).symm
  keeps like := only.keeps like
  say like := only.say like
  report like := only.report like

include only in
/-- The parts of two worlds. -/
theorem split (like : alike world world') :
    ∃ native applied console console' files environment,
      world = ⟨native, applied, console, files, environment⟩ ∧
        world' = ⟨native, applied, console', files, environment⟩ := by
  have native := only.native like
  have applied := only.applied like
  have files := only.files like
  have environment := only.environment like
  obtain ⟨native, applied, console, files, environment⟩ := world
  obtain ⟨native', applied', console', files', environment'⟩ := world'
  cases native
  cases applied
  cases files
  cases environment
  exact ⟨native, applied, console, console', files, environment, rfl, rfl⟩

include only in
/-- Behind a call of the library. -/
theorem call (like : alike world world') (native : σ) :
    alike { world with native } { world' with native } := by
  obtain ⟨_, _, _, _, _, _, rfl, rfl⟩ := only.split like
  exact only.keeps like native _ _ _

/-! ## Libraries -/

/-- The library looks like itself. -/
def likeness (library : Library σ ι) : library.Likeness library where
  like record world record' world' := World.Beside alike record world record' world'
  placed := Eq
  differ _ := False
  heap := rfl
  totals like := by rw [like.1]
  say like level text positive := ⟨like.1, only.say like.2 level text positive⟩
  compress like input capacity := by
    obtain ⟨rfl, like⟩ := like
    rw [← only.native like]
    exact ⟨rfl, rfl, rfl, False.elim, rfl, only.call like _⟩
  decompress like input capacity := by
    obtain ⟨rfl, like⟩ := like
    rw [← only.native like]
    exact ⟨rfl, rfl, rfl, False.elim, rfl, only.call like _⟩
  bound like length := by
    obtain ⟨rfl, like⟩ := like
    rw [← only.native like]
    exact ⟨rfl, rfl, only.call like _⟩

section Libraries

variable (library)
include only

theorem fresh : (only.likeness library).Fresh world world' ↔ alike world world' :=
  ⟨fun like => like.2, fun like => ⟨rfl, like⟩⟩

theorem release {buffer buffer' : Scratch} (placed : buffer.address? = buffer'.address?)
    (like : alike world world') :
    alike (buffer.release library world) (buffer'.release library world') := by
  cases buffer with
  | heap memory =>
    cases buffer' with
    | heap memory' => exact like
    | native buffer' => cases placed
  | native buffer =>
    cases buffer' with
    | heap memory' => cases placed
    | native buffer' =>
      have same : buffer.address = buffer'.address := Option.some.inj placed
      unfold Scratch.release NativeBuffer.release
      dsimp only
      rw [← same, ← only.native like]
      cases library.entries.free with
      | none => exact like
      | some free => exact only.call like _

theorem closes : (only.likeness library).Closes alike where
  stopped like := like.2
  ended := by
    rintro record world record' world' ⟨rfl, like⟩
    refine Session.close_alike rfl like only.say ?_
    dsimp only
    rw [← only.native like]
    cases library.entries.teardown with
    | none => exact .none
    | some teardown => exact .some ⟨rfl, only.call like _⟩
  released placed like := only.release library placed like

theorem allocates : (only.likeness library).Allocates where
  granted like _ _ _ := by rw [only.native like.2]
  placed like _ _ _ := by rw [only.native like.2]; rfl
  still like _ _ _ := by
    rw [← only.native like.2]
    exact ⟨rfl, only.call like.2 _⟩

end Libraries

end World.ConsoleOnly

/-! ## Sessions -/

section Sessions

variable {alike : World σ → World σ → Prop} (only : World.ConsoleOnly alike)
  {world world' : World σ}
include only

/-- One and the same session is alike in related worlds. -/
theorem Session.like_self (session : Session σ ι) (like : alike world world') :
    session.Like (only.likeness session.library) world session world' :=
  ⟨rfl, rfl, rfl, like⟩

omit only in
/-- Sessions that are alike are one and the same. -/
theorem Session.Like.beside {only : World.ConsoleOnly alike} {library : Library σ ι}
    {session session' : Session σ ι}
    (like : session.Like (only.likeness library) world session' world') :
    World.Beside alike session world session' world' := by
  obtain ⟨on, on', same, like⟩ := like
  exact ⟨congrArg₂ Session.mk (on.trans on'.symm) same, like⟩

theorem Session.perform_indifferent (session : Session σ ι) (call : SessionCall)
    (like : alike world world') :
    SameOutcome (World.Beside alike) (session.perform call world) (session.perform call world') :=
  ((session.like_self only like).perform call).mono fun like => like.beside

theorem Session.close_indifferent (session : Session σ ι) (like : alike world world') :
    alike (session.close world) (session.close world') :=
  (session.like_self only like).close (only.closes session.library)

end Sessions

end OffloadCodec

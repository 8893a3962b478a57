import Mathlib.Data.List.Basic
import Mathlib.Logic.Function.Basic
import OffloadCodec.Host
import OffloadCodec.Simulated.Library

/-!
# Threads that bind the library of their process

Any number of threads ask their process for its library, bring one of their own, or have one opened.
`Process.Step` takes one thread one step further: it looks whether a library is registered, takes
the lock, looks again, opens a library under a name, registers it, or gives the lock back with an
answer. Steps of different threads may come in any order, and between any two of them the loader,
the environment and everything else around the process may change.

`Process.Run` keeps the events that can be told from outside. `Process.Sound` is what every step of
a run keeps: what was registered is what is, threads without the lock rely on nothing, and a thread
that has looked under the lock relies on what it saw. An answer then goes by what is registered when
it is given (`Process.Sound.of_answer`), and a library is opened only while there is none
(`Process.Sound.of_open`).

A call that nothing comes between is the one of `Host` (`Process.calls`).
-/

namespace OffloadCodec

variable {σ ι κ : Type}

/-- A library that a process may register. Two that are opened under one name have different
numbers. -/
structure Candidate (σ ι : Type) where
  number : Nat
  library : Library σ ι

/-- What a thread may ask of its process. -/
inductive BindingCall (σ ι : Type)
  | init
  | initFrom (name : String)
  | install (brought : Library σ ι)
  | library
  | isInitialized

/-- What it is answered. -/
inductive BindingAnswer (α : Type)
  | library (result : Except LinkError α)
  | initialized (yes : Bool)

def BindingAnswer.map {α β : Type} (f : α → β) : BindingAnswer α → BindingAnswer β
  | library result => .library (result.map f)
  | initialized yes => .initialized yes

theorem BindingAnswer.of_map_ok {α β : Type} {f : α → β} {answer : BindingAnswer α} {b : β}
    (mapped : answer.map f = .library (.ok b)) : ∃ a, answer = .library (.ok a) ∧ f a = b := by
  cases answer with
  | library result =>
    cases result with
    | ok a => exact ⟨a, rfl, by simpa [map, Except.map] using mapped⟩
    | error e => simp [map, Except.map] at mapped
  | initialized yes => simp [map] at mapped

/-- Where no library is bound, binding one goes as opening it does. -/
theorem Host.initFrom_of_unbound {host : Host σ ι} (unbound : host.bound = none) (name : String) :
    (host.initFrom name).1 = ((Library.openWith host.loader name).runOn host.world).1 := by
  unfold Host.initFrom
  rw [unbound]
  rcases (Library.openWith host.loader name).runOn host.world with ⟨_ | _, _⟩ <;> rfl

namespace BindingCall

/-- The name under which the call opens a library, if it opens one. -/
def name? (environment : Environment) : BindingCall σ ι → Option String
  | init => some (Settings.libraryName environment)
  | initFrom name => some name
  | install _ => none
  | library => none
  | isInitialized => none

/-- The call on a process that does nothing else. -/
def perform (host : Host σ ι) : BindingCall σ ι → BindingAnswer (Library σ ι) × Host σ ι
  | init => (.library host.init.1, host.init.2)
  | initFrom name => (.library (host.initFrom name).1, (host.initFrom name).2)
  | install brought => (.library (.ok (host.install brought).1), (host.install brought).2)
  | library => (.library host.library, host)
  | isInitialized => (.initialized host.isInitialized, host)

/-- The call leaves a library registered, if it can. -/
def Binds : BindingCall σ ι → Prop
  | init => True
  | initFrom _ => True
  | install _ => True
  | library => False
  | isInitialized => False

theorem binds_of_name {environment : Environment} {call : BindingCall σ ι} {name : String}
    (named : call.name? environment = some name) : call.Binds := by
  cases call with
  | init => trivial
  | initFrom name => trivial
  | install brought => trivial
  | library => cases named
  | isInitialized => cases named

/-- Calls that open a library differ in where they have its name from. -/
theorem perform_of_name {host : Host σ ι} {call : BindingCall σ ι} {name : String}
    (named : call.name? host.world.environment = some name) :
    call.perform host = (.library (host.initFrom name).1, (host.initFrom name).2) := by
  cases call with
  | init =>
    obtain rfl := Option.some.inj named
    rfl
  | initFrom name' =>
    obtain rfl := Option.some.inj named
    rfl
  | install brought => cases named
  | library => cases named
  | isInitialized => cases named

end BindingCall

/-! ## Threads -/

/-- What a thread wants the lock for. -/
inductive Errand (σ ι : Type)
  /-- To open a library under a name. -/
  | load (name : String)
  /-- To register a library that is at hand. -/
  | offer (candidate : Candidate σ ι)

/-- How far a thread has got with a call. -/
inductive Stage (σ ι : Type)
  | idle
  /-- It has not looked yet. -/
  | seeking (call : BindingCall σ ι) (name : String)
  /-- It waits for the lock. -/
  | waiting (call : BindingCall σ ι) (errand : Errand σ ι)
  /-- It has the lock. -/
  | locked (call : BindingCall σ ι) (errand : Errand σ ι)
  /-- It has looked again: nothing is registered. -/
  | cleared (call : BindingCall σ ι) (name : String)
  /-- It has its answer, and still the lock. -/
  | answered (call : BindingCall σ ι) (result : Except LinkError (Candidate σ ι))

/-- The thread has not taken the lock. -/
def Stage.Outside : Stage σ ι → Prop
  | idle => True
  | seeking _ _ => True
  | waiting _ _ => True
  | locked _ _ => False
  | cleared _ _ => False
  | answered _ _ => False

/-- What can be told from outside. -/
inductive BindingEvent (σ ι κ : Type)
  | asks (thread : κ) (call : BindingCall σ ι)
  | opens (thread : κ) (name : String) (result : Except LinkError (Library σ ι))
  | registers (thread : κ) (candidate : Candidate σ ι)
  | answers (thread : κ) (call : BindingCall σ ι) (answer : BindingAnswer (Candidate σ ι))

namespace BindingEvent

def thread : BindingEvent σ ι κ → κ
  | asks thread _ => thread
  | opens thread _ _ => thread
  | registers thread _ => thread
  | answers thread _ _ => thread

def registered? : BindingEvent σ ι κ → Option (Candidate σ ι)
  | asks _ _ => none
  | opens _ _ _ => none
  | registers _ candidate => some candidate
  | answers _ _ _ => none

/-- The libraries that were registered, in order. -/
def bindings (trace : List (BindingEvent σ ι κ)) : List (Candidate σ ι) :=
  trace.filterMap registered?

@[simp] theorem bindings_nil : bindings ([] : List (BindingEvent σ ι κ)) = [] := rfl

@[simp] theorem bindings_append (first second : List (BindingEvent σ ι κ)) :
    bindings (first ++ second) = bindings first ++ bindings second := List.filterMap_append

/-- The events of one thread. -/
def own [DecidableEq κ] (thread : κ) (trace : List (BindingEvent σ ι κ)) :
    List (BindingEvent σ ι κ) :=
  trace.filter (·.thread = thread)

@[simp] theorem own_append [DecidableEq κ] (thread : κ) (first second : List (BindingEvent σ ι κ)) :
    own thread (first ++ second) = own thread first ++ own thread second := List.filter_append ..

theorem own_singleton [DecidableEq κ] {thread : κ} {event : BindingEvent σ ι κ}
    (mine : event.thread = thread) : own thread [event] = [event] := by
  simp [own, mine]

theorem own_of_ne [DecidableEq κ] {thread : κ} {event : Option (BindingEvent σ ι κ)}
    (apart : ∀ e ∈ event, e.thread ≠ thread) : own thread event.toList = [] := by
  cases event with
  | none => rfl
  | some e => simpa [own] using apart e rfl

end BindingEvent

/-- A process and its threads. -/
structure Process (σ ι κ : Type) where
  world : World σ
  loader : Option (Loader σ ι)
  /-- The library that the threads share. -/
  registered : Option (Candidate σ ι) := none
  /-- Libraries that were opened or brought so far. -/
  candidates : Nat := 0
  /-- The thread that has the lock. -/
  holder : Option κ := none
  stage : κ → Stage σ ι

namespace Process

/-- The process without its threads. -/
def host (s : Process σ ι κ) : Host σ ι where
  world := s.world
  loader := s.loader
  bound := s.registered.map (·.library)

/-- Nothing has been asked for, and nothing is registered. -/
structure Fresh (s : Process σ ι κ) : Prop where
  unbound : s.registered = none
  unlocked : s.holder = none
  idle : ∀ thread, s.stage thread = .idle

section Steps

variable [DecidableEq κ]

/-- A thread gets to a stage. -/
def goes (s : Process σ ι κ) (thread : κ) (stage : Stage σ ι) : Process σ ι κ :=
  { s with stage := Function.update s.stage thread stage }

@[simp] theorem registered_goes (s : Process σ ι κ) (thread : κ) (stage : Stage σ ι) :
    (s.goes thread stage).registered = s.registered := rfl

@[simp] theorem stage_goes (s : Process σ ι κ) (thread : κ) (stage : Stage σ ι) :
    (s.goes thread stage).stage thread = stage := Function.update_self _ _ _

/-- The process when everything around it has changed. -/
def surrounded (s : Process σ ι κ) (world : World σ) (loader : Option (Loader σ ι)) :
    Process σ ι κ :=
  { s with world, loader }

/-- One thread gets one step further, or something around the process changes. -/
inductive Step : Process σ ι κ → Option (BindingEvent σ ι κ) → Process σ ι κ → Prop
  | library {s : Process σ ι κ} (thread : κ) :
    s.stage thread = .idle →
    Step s (some (.answers thread .library
      (.library (s.registered.elim (.error .notInitialized) .ok)))) s
  | isInitialized {s : Process σ ι κ} (thread : κ) :
    s.stage thread = .idle →
    Step s (some (.answers thread .isInitialized (.initialized s.registered.isSome))) s
  | seek {s : Process σ ι κ} (thread : κ) {call : BindingCall σ ι} {name : String} :
    s.stage thread = .idle → call.name? s.world.environment = some name →
    Step s (some (.asks thread call)) (s.goes thread (.seeking call name))
  | bring {s : Process σ ι κ} (thread : κ) (library : Library σ ι) :
    s.stage thread = .idle →
    Step s (some (.asks thread (.install library)))
      { s.goes thread (.waiting (.install library) (.offer ⟨s.candidates, library⟩)) with
        candidates := s.candidates + 1 }
  | find {s : Process σ ι κ} (thread : κ) {call : BindingCall σ ι} {name : String}
      {candidate : Candidate σ ι} :
    s.stage thread = .seeking call name → s.registered = some candidate →
    Step s (some (.answers thread call (.library (.ok candidate)))) (s.goes thread .idle)
  | miss {s : Process σ ι κ} (thread : κ) {call : BindingCall σ ι} {name : String} :
    s.stage thread = .seeking call name → s.registered = none →
    Step s none (s.goes thread (.waiting call (.load name)))
  | lock {s : Process σ ι κ} (thread : κ) {call : BindingCall σ ι} {errand : Errand σ ι} :
    s.holder = none → s.stage thread = .waiting call errand →
    Step s none { s.goes thread (.locked call errand) with holder := some thread }
  | findLocked {s : Process σ ι κ} (thread : κ) {call : BindingCall σ ι} {name : String}
      {candidate : Candidate σ ι} :
    s.stage thread = .locked call (.load name) → s.registered = some candidate →
    Step s none (s.goes thread (.answered call (.ok candidate)))
  | missLocked {s : Process σ ι κ} (thread : κ) {call : BindingCall σ ι} {name : String} :
    s.stage thread = .locked call (.load name) → s.registered = none →
    Step s none (s.goes thread (.cleared call name))
  | openFailed {s : Process σ ι κ} (thread : κ) {call : BindingCall σ ι} {name : String}
      {e : LinkError} {world : World σ} :
    s.stage thread = .cleared call name →
    (Library.openWith s.loader name).runOn s.world = (.error e, world) →
    Step s (some (.opens thread name (.error e)))
      { s.goes thread (.answered call (.error e)) with world }
  | opened {s : Process σ ι κ} (thread : κ) {call : BindingCall σ ι} {name : String}
      {library : Library σ ι} {world : World σ} :
    s.stage thread = .cleared call name →
    (Library.openWith s.loader name).runOn s.world = (.ok library, world) →
    Step s (some (.opens thread name (.ok library)))
      { s.goes thread (.locked call (.offer ⟨s.candidates, library⟩)) with
        world, candidates := s.candidates + 1 }
  | register {s : Process σ ι κ} (thread : κ) {call : BindingCall σ ι}
      {candidate : Candidate σ ι} :
    s.stage thread = .locked call (.offer candidate) → s.registered = none →
    Step s (some (.registers thread candidate))
      { s.goes thread (.answered call (.ok candidate)) with registered := some candidate }
  | keep {s : Process σ ι κ} (thread : κ) {call : BindingCall σ ι}
      {candidate earlier : Candidate σ ι} :
    s.stage thread = .locked call (.offer candidate) → s.registered = some earlier →
    Step s none (s.goes thread (.answered call (.ok earlier)))
  | unlock {s : Process σ ι κ} (thread : κ) {call : BindingCall σ ι}
      {result : Except LinkError (Candidate σ ι)} :
    s.stage thread = .answered call result →
    Step s (some (.answers thread call (.library result)))
      { s.goes thread .idle with holder := none }
  | elsewhere {s : Process σ ι κ} (world : World σ) (loader : Option (Loader σ ι)) :
    Step s none (s.surrounded world loader)

/-- A run of a process with the events in it. -/
inductive Run (start : Process σ ι κ) : List (BindingEvent σ ι κ) → Process σ ι κ → Prop
  | start : Run start [] start
  | step {trace : List (BindingEvent σ ι κ)} {s s' : Process σ ι κ}
      {event : Option (BindingEvent σ ι κ)} :
    Run start trace s → Step s event s' → Run start (trace ++ event.toList) s'

namespace Run

variable {start s s' : Process σ ι κ} {trace trace' : List (BindingEvent σ ι κ)}

theorem trans (first : Run start trace s) (second : Run s trace' s') :
    Run start (trace ++ trace') s' := by
  induction second with
  | start => simpa using first
  | step _ next ih =>
    rw [← List.append_assoc]
    exact .step ih next

/-- An event of a run is that of one of its steps. -/
theorem at_event (run : Run start trace s) {before after : List (BindingEvent σ ι κ)}
    {event : BindingEvent σ ι κ} (split : trace = before ++ event :: after) :
    ∃ mid next, Run start before mid ∧ Step mid (some event) next := by
  induction run generalizing after with
  | start => simp at split
  | @step trace mid next last run taken ih =>
    cases last with
    | none => exact ih (by simpa using split)
    | some last =>
      obtain rfl | ⟨later, latest, rfl⟩ := after.eq_nil_or_concat
      · obtain ⟨rfl, same⟩ := List.append_inj' split rfl
        obtain rfl := List.singleton_inj.mp same
        exact ⟨mid, next, run, taken⟩
      · have longer : trace ++ [last] = (before ++ event :: later) ++ [latest] := by
          simpa using split
        exact ih (List.append_inj' longer rfl).1

end Run

/-! ## What every step keeps -/

/-- A thread has asked for a library under a name, and has made some events since. -/
def Since (start : Process σ ι κ) (trace : List (BindingEvent σ ι κ)) (thread : κ)
    (call : BindingCall σ ι) (name : String) (made : List (BindingEvent σ ι κ)) : Prop :=
  ∃ earlier between mid, trace = earlier ++ .asks thread call :: between ∧
    Run start earlier mid ∧ call.name? mid.world.environment = some name ∧
    BindingEvent.own thread between = made

namespace Since

variable {start s : Process σ ι κ} {trace : List (BindingEvent σ ι κ)} {thread : κ}
  {call : BindingCall σ ι} {name : String} {made : List (BindingEvent σ ι κ)}

theorem asked (run : Run start trace s) (named : call.name? s.world.environment = some name) :
    Since start (trace ++ [.asks thread call]) thread call name [] :=
  ⟨trace, [], s, rfl, run, named, rfl⟩

theorem binds (since : Since start trace thread call name made) : call.Binds := by
  obtain ⟨_, _, _, _, _, named, _⟩ := since
  exact BindingCall.binds_of_name named

theorem append (since : Since start trace thread call name made)
    (events : List (BindingEvent σ ι κ)) :
    Since start (trace ++ events) thread call name (made ++ BindingEvent.own thread events) := by
  obtain ⟨earlier, between, mid, rfl, run, named, rfl⟩ := since
  exact ⟨earlier, between ++ events, mid, by simp, run, named, BindingEvent.own_append ..⟩

end Since

/-- What a thread at some stage has done, and what it may rely on. -/
def Fits (start : Process σ ι κ) (trace : List (BindingEvent σ ι κ)) (thread : κ)
    (registered : Option (Candidate σ ι)) : Stage σ ι → Prop
  | .idle => True
  | .seeking call name => Since start trace thread call name []
  | .waiting call (.load name) => Since start trace thread call name []
  | .waiting call (.offer _) => call.Binds
  | .locked call (.load name) => Since start trace thread call name []
  | .locked call (.offer _) => call.Binds
  | .cleared call name => registered = none ∧ Since start trace thread call name []
  | .answered call (.ok candidate) => registered = some candidate ∧ call.Binds
  | .answered call (.error e) =>
    registered = none ∧ ∃ name, Since start trace thread call name [.opens thread name (.error e)]

namespace Fits

variable {start : Process σ ι κ} {trace : List (BindingEvent σ ι κ)} {thread : κ}
  {registered registered' : Option (Candidate σ ι)} {stage : Stage σ ι}

/-- Events of other threads are no concern of a thread. -/
theorem append (fits : Fits start trace thread registered stage)
    {events : List (BindingEvent σ ι κ)} (others : BindingEvent.own thread events = []) :
    Fits start (trace ++ events) thread registered stage := by
  have later {call : BindingCall σ ι} {name : String} {made : List (BindingEvent σ ι κ)}
      (since : Since start trace thread call name made) :
      Since start (trace ++ events) thread call name made := by
    simpa [others] using since.append events
  cases stage with
  | idle => trivial
  | seeking call name => exact later fits
  | waiting call errand =>
    cases errand with
    | load name => exact later fits
    | offer candidate => exact fits
  | locked call errand =>
    cases errand with
    | load name => exact later fits
    | offer candidate => exact fits
  | cleared call name => exact ⟨fits.1, later fits.2⟩
  | answered call result =>
    cases result with
    | ok candidate => exact fits
    | error e =>
      obtain ⟨unbound, name, since⟩ := fits
      exact ⟨unbound, name, later since⟩

/-- A thread without the lock relies on nothing. -/
theorem of_outside (fits : Fits start trace thread registered stage) (outside : stage.Outside) :
    Fits start trace thread registered' stage := by
  cases stage with
  | idle => trivial
  | seeking call name => exact fits
  | waiting call errand => cases errand <;> exact fits
  | locked call errand => exact outside.elim
  | cleared call name => exact outside.elim
  | answered call result => exact outside.elim

end Fits

/-- What every run from a fresh process keeps. -/
structure Sound (start : Process σ ι κ) (trace : List (BindingEvent σ ι κ))
    (s : Process σ ι κ) : Prop where
  bindings : BindingEvent.bindings trace = s.registered.toList
  outside : ∀ thread, s.holder ≠ some thread → (s.stage thread).Outside
  fits : ∀ thread, Fits start trace thread s.registered (s.stage thread)

namespace Sound

variable {start s s' : Process σ ι κ} {trace : List (BindingEvent σ ι κ)}

theorem of_fresh (fresh : s.Fresh) : Sound s [] s where
  bindings := by simp [fresh.unbound]
  outside thread _ := by simp [fresh.idle thread, Stage.Outside]
  fits thread := by simp [fresh.idle thread, Fits]

theorem at_stage (sound : Sound start trace s) {thread : κ} {stage : Stage σ ι}
    (reached : s.stage thread = stage) : Fits start trace thread s.registered stage :=
  reached ▸ sound.fits thread

theorem holds (sound : Sound start trace s) {thread : κ}
    (inside : ¬ (s.stage thread).Outside) : s.holder = some thread := by
  by_contra without
  exact inside (sound.outside thread without)

/-- One thread gets to a stage, and says so by its own events only. Where it changes what is
registered, it has the lock. -/
theorem turn (sound : Sound start trace s) {thread : κ} {stage : Stage σ ι}
    {event : Option (BindingEvent σ ι κ)}
    (stages : s'.stage = Function.update s.stage thread stage)
    (own : ∀ e ∈ event, e.thread = thread)
    (bindings : s'.registered.toList =
      s.registered.toList ++ BindingEvent.bindings event.toList)
    (alone : s'.registered = s.registered ∨ s.holder = some thread)
    (held : ∀ other, other ≠ thread → s'.holder ≠ some other → s.holder ≠ some other)
    (outside : s'.holder ≠ some thread → stage.Outside)
    (fits : Fits start (trace ++ event.toList) thread s'.registered stage) :
    Sound start (trace ++ event.toList) s' := by
  have apart {other : κ} (different : other ≠ thread) :
      BindingEvent.own other event.toList = [] :=
    BindingEvent.own_of_ne fun e given => own e given ▸ different.symm
  refine ⟨?_, fun other without => ?_, fun other => ?_⟩
  · rw [BindingEvent.bindings_append, sound.bindings, bindings]
  · rw [stages]
    by_cases same : other = thread
    · subst same
      simpa using outside without
    · rw [Function.update_of_ne same]
      exact sound.outside other (held other same without)
  · rw [stages]
    by_cases same : other = thread
    · subst same
      simpa using fits
    · rw [Function.update_of_ne same]
      have kept := (sound.fits other).append (apart same)
      obtain unchanged | mine := alone
      · exact unchanged ▸ kept
      · have without : s.holder ≠ some other := by simpa [mine] using Ne.symm same
        exact kept.of_outside (sound.outside other without)

/-- A thread gets to a stage that it needs no other lock for, and registers nothing. -/
theorem goes (sound : Sound start trace s) {thread : κ} {stage : Stage σ ι}
    {event : Option (BindingEvent σ ι κ)}
    (stages : s'.stage = Function.update s.stage thread stage)
    (registered : s'.registered = s.registered) (holder : s'.holder = s.holder)
    (own : ∀ e ∈ event, e.thread = thread)
    (silent : BindingEvent.bindings event.toList = [])
    (outside : stage.Outside ∨ ¬ (s.stage thread).Outside)
    (fits : Fits start (trace ++ event.toList) thread s.registered stage) :
    Sound start (trace ++ event.toList) s' := by
  refine sound.turn stages own (by simp [registered, silent]) (.inl registered)
    (fun other _ without => holder ▸ without) (fun without => ?_) (registered ▸ fits)
  obtain outside | inside := outside
  · exact outside
  · exact absurd (holder ▸ sound.holds inside) without

theorem step (run : Run start trace s) (sound : Sound start trace s)
    {event : Option (BindingEvent σ ι κ)} (taken : Step s event s') :
    Sound start (trace ++ event.toList) s' := by
  cases taken with
  | library thread idle =>
    have stages : s.stage = Function.update s.stage thread .idle := by
      rw [← idle, Function.update_eq_self]
    exact sound.goes stages rfl rfl (by simp [BindingEvent.thread]) rfl (.inl trivial) trivial
  | isInitialized thread idle =>
    have stages : s.stage = Function.update s.stage thread .idle := by
      rw [← idle, Function.update_eq_self]
    exact sound.goes stages rfl rfl (by simp [BindingEvent.thread]) rfl (.inl trivial) trivial
  | seek _ idle named =>
    exact sound.goes rfl rfl rfl (by simp [BindingEvent.thread]) rfl (.inl trivial)
      (Since.asked run named)
  | bring _ library idle =>
    exact sound.goes rfl rfl rfl (by simp [BindingEvent.thread]) rfl (.inl trivial) trivial
  | find _ reached found =>
    exact sound.goes rfl rfl rfl (by simp [BindingEvent.thread]) rfl (.inl trivial) trivial
  | miss _ reached missed =>
    have since := sound.at_stage reached
    exact sound.goes rfl rfl rfl (by simp) rfl (.inl trivial) (by simpa [Fits] using since)
  | @lock thread call errand free reached =>
    have fits := sound.at_stage reached
    refine sound.turn rfl (by simp) (by simp) (.inl rfl) (by simp [free]) (by simp) ?_
    cases errand with
    | load name => simpa [Fits] using fits
    | offer candidate => exact fits
  | findLocked _ reached found =>
    have since := sound.at_stage reached
    exact sound.goes rfl rfl rfl (by simp) rfl (.inr (by simp [reached, Stage.Outside]))
      ⟨found, since.binds⟩
  | missLocked _ reached missed =>
    have since := sound.at_stage reached
    exact sound.goes rfl rfl rfl (by simp) rfl (.inr (by simp [reached, Stage.Outside]))
      ⟨missed, by simpa [Fits] using since⟩
  | @openFailed thread call name e world reached failed =>
    obtain ⟨unbound, since⟩ := sound.at_stage reached
    have mine : BindingEvent.own thread
        [(.opens thread name (.error e) : BindingEvent σ ι κ)] = [.opens thread name (.error e)] :=
      BindingEvent.own_singleton rfl
    have opened := since.append [.opens thread name (.error e)]
    rw [mine] at opened
    exact sound.goes rfl rfl rfl (by simp [BindingEvent.thread]) rfl
      (.inr (by simp [reached, Stage.Outside])) ⟨unbound, name, opened⟩
  | opened _ reached succeeded =>
    obtain ⟨_, since⟩ := sound.at_stage reached
    exact sound.goes rfl rfl rfl (by simp [BindingEvent.thread]) rfl
      (.inr (by simp [reached, Stage.Outside])) since.binds
  | @register thread call candidate reached missed =>
    have mine : s.holder = some thread := sound.holds (by simp [reached, Stage.Outside])
    exact sound.turn rfl (by simp [BindingEvent.thread])
      (by simp [missed, BindingEvent.bindings, BindingEvent.registered?]) (.inr mine)
      (fun other _ without => without) (fun without => absurd mine without)
      ⟨rfl, sound.at_stage reached⟩
  | keep _ reached found =>
    exact sound.goes rfl rfl rfl (by simp) rfl (.inr (by simp [reached, Stage.Outside]))
      ⟨found, sound.at_stage reached⟩
  | @unlock thread call result reached =>
    have mine : s.holder = some thread := sound.holds (by simp [reached, Stage.Outside])
    refine sound.turn rfl (by simp [BindingEvent.thread])
      (by simp [BindingEvent.bindings, BindingEvent.registered?]) (.inl rfl)
      (fun other different _ => by simpa [mine] using Ne.symm different) (fun _ => trivial) trivial
  | elsewhere world loader =>
    simpa using ⟨sound.bindings, sound.outside, sound.fits⟩

theorem of_run (fresh : start.Fresh) (run : Run start trace s) : Sound start trace s := by
  induction run with
  | start => exact of_fresh fresh
  | step run taken ih => exact ih.step run taken

end Sound

/-! ## What an event tells -/

section Events

variable {start s s' : Process σ ι κ} {trace : List (BindingEvent σ ι κ)} {thread : κ}
  {call : BindingCall σ ι}

/-- The four ways to an answer: by asking, by looking without the lock, and by giving it back. -/
theorem Step.of_answer {answer : BindingAnswer (Candidate σ ι)}
    (taken : Step s (some (.answers thread call answer)) s') :
    (call = .library ∧ answer = .library (s.registered.elim (.error .notInitialized) .ok)) ∨
    (call = .isInitialized ∧ answer = .initialized s.registered.isSome) ∨
    (∃ name candidate, s.stage thread = .seeking call name ∧ s.registered = some candidate ∧
      answer = .library (.ok candidate)) ∨
    ∃ result, s.stage thread = .answered call result ∧ answer = .library result ∧
      s' = { s.goes thread .idle with holder := none } := by
  generalize shown : some (BindingEvent.answers thread call answer) = event at taken
  cases taken with
  | library _ idle => exact .inl (by simp_all)
  | isInitialized _ idle => exact .inr (.inl (by simp_all))
  | @find thread call name candidate reached found =>
    simp only [Option.some.injEq, BindingEvent.answers.injEq] at shown
    obtain ⟨rfl, rfl, rfl⟩ := shown
    exact .inr (.inr (.inl ⟨name, candidate, reached, found, rfl⟩))
  | @unlock thread call result reached =>
    simp only [Option.some.injEq, BindingEvent.answers.injEq] at shown
    obtain ⟨rfl, rfl, rfl⟩ := shown
    exact .inr (.inr (.inr ⟨result, reached, rfl, rfl⟩))
  | _ => simp at shown

/-- What a call is answered goes by what is registered then. Where nothing is, a call that wanted a
library has failed: with the error of what it opened itself, and without keeping the lock. -/
theorem Sound.of_answer (sound : Sound start trace s) {answer : BindingAnswer (Candidate σ ι)}
    (taken : Step s (some (.answers thread call answer)) s') :
    (call = .library ∧ answer = .library (s.registered.elim (.error .notInitialized) .ok)) ∨
    (call = .isInitialized ∧ answer = .initialized s.registered.isSome) ∨
    call.Binds ∧
      ((∃ candidate, s.registered = some candidate ∧ answer = .library (.ok candidate)) ∨
        ∃ e name, s.registered = none ∧ answer = .library (.error e) ∧
          Since start trace thread call name [.opens thread name (.error e)] ∧
          s'.registered = none ∧ s'.holder = none ∧ s'.stage thread = .idle) := by
  obtain asked | asked | ⟨name, candidate, reached, found, rfl⟩ | ⟨result, reached, rfl, rfl⟩ :=
    taken.of_answer
  · exact .inl asked
  · exact .inr (.inl asked)
  · exact .inr (.inr ⟨(sound.at_stage reached).binds, .inl ⟨candidate, found, rfl⟩⟩)
  · have fits := sound.at_stage reached
    cases result with
    | ok candidate => exact .inr (.inr ⟨fits.2, .inl ⟨candidate, fits.1, rfl⟩⟩)
    | error e =>
      obtain ⟨unbound, name, since⟩ := fits
      exact .inr (.inr ⟨since.binds,
        .inr ⟨e, name, unbound, rfl, since, unbound, rfl, stage_goes ..⟩⟩)

theorem Sound.of_answer_binds (sound : Sound start trace s)
    {answer : BindingAnswer (Candidate σ ι)}
    (taken : Step s (some (.answers thread call answer)) s') (binds : call.Binds) :
    (∃ candidate, s.registered = some candidate ∧ answer = .library (.ok candidate)) ∨
      ∃ e name, s.registered = none ∧ answer = .library (.error e) ∧
        Since start trace thread call name [.opens thread name (.error e)] ∧
        s'.registered = none ∧ s'.holder = none ∧ s'.stage thread = .idle := by
  obtain ⟨rfl, _⟩ | ⟨rfl, _⟩ | ⟨_, told⟩ := sound.of_answer taken
  · exact binds.elim
  · exact binds.elim
  · exact told

/-- Whoever is answered with a library gets the one that is registered. -/
theorem Sound.registered_of_answer (sound : Sound start trace s) {candidate : Candidate σ ι}
    (taken : Step s (some (.answers thread call (.library (.ok candidate)))) s') :
    s.registered = some candidate := by
  obtain ⟨_, told⟩ | ⟨_, told⟩ | ⟨_, ⟨_, found, told⟩ | ⟨_, _, _, told, _⟩⟩ := sound.of_answer taken
  · cases registered : s.registered with
    | none => simp [registered] at told
    | some other => simp_all
  · cases told
  · cases told
    exact found
  · cases told

/-- Only a thread that has the lock and found nothing registered opens a library. -/
theorem Sound.of_open (sound : Sound start trace s) {name : String}
    {result : Except LinkError (Library σ ι)}
    (taken : Step s (some (.opens thread name result)) s') :
    s.registered = none ∧ ((Library.openWith s.loader name).runOn s.world).1 = result := by
  generalize shown : some (BindingEvent.opens thread name result) = event at taken
  cases taken with
  | openFailed _ reached failed =>
    simp only [Option.some.injEq, BindingEvent.opens.injEq] at shown
    obtain ⟨rfl, rfl, rfl⟩ := shown
    exact ⟨(sound.at_stage reached).1, by rw [failed]⟩
  | opened _ reached succeeded =>
    simp only [Option.some.injEq, BindingEvent.opens.injEq] at shown
    obtain ⟨rfl, rfl, rfl⟩ := shown
    exact ⟨(sound.at_stage reached).1, by rw [succeeded]⟩
  | _ => simp at shown

end Events

/-! ## Calls that nothing comes between -/

section Alone

variable {s : Process σ ι κ} {thread : κ}

/-- A thread makes a whole call: `s'` is what the process is like afterwards. -/
def Calls (s : Process σ ι κ) (thread : κ) (call : BindingCall σ ι)
    (answer : BindingAnswer (Candidate σ ι)) (s' : Process σ ι κ) : Prop :=
  (∃ events, Run s (events ++ [.answers thread call answer]) s') ∧
    s'.host = (call.perform s.host).2 ∧ answer.map (·.library) = (call.perform s.host).1 ∧
    s'.holder = none ∧ s'.stage = s.stage

/-- A thread that gets through a call is where it was before. -/
theorem stage_back (idle : s.stage thread = .idle) (stages : List (Stage σ ι)) :
    Function.update (stages.foldl (Function.update · thread ·) s.stage) thread .idle = s.stage := by
  have last (before : κ → Stage σ ι) :
      Function.update (stages.foldl (Function.update · thread ·) before) thread .idle =
        Function.update before thread .idle := by
    induction stages generalizing before with
    | nil => rfl
    | cons stage later ih => simpa using ih (Function.update before thread stage)
  rw [last, ← idle, Function.update_eq_self]

theorem calls_name (free : s.holder = none) (idle : s.stage thread = .idle)
    {call : BindingCall σ ι} {name : String}
    (named : call.name? s.world.environment = some name) :
    ∃ answer s', Calls s thread call answer s' := by
  unfold Calls
  have performed : call.perform s.host =
      (.library (s.host.initFrom name).1, (s.host.initFrom name).2) :=
    BindingCall.perform_of_name named
  rw [performed]
  have sought := Run.start.step (Step.seek thread idle named)
  cases registered : s.registered with
  | some candidate =>
    have found := sought.step (.find thread (stage_goes ..) registered)
    refine ⟨_, _, ⟨_, found⟩, ?_, ?_, free, stage_back idle [_]⟩
    · simp [host, goes, Host.initFrom, registered]
    · simp [host, Host.initFrom, registered, BindingAnswer.map, Except.map]
  | none =>
    have missed := sought.step (.miss thread (stage_goes ..) registered)
    have locked := missed.step (.lock thread free (stage_goes ..))
    have cleared := locked.step (.missLocked thread (stage_goes ..) registered)
    cases opening : (Library.openWith s.loader name).runOn s.world with
    | mk result world =>
      cases result with
      | error e =>
        have failed := cleared.step (.openFailed thread (stage_goes ..) opening)
        have done := failed.step (.unlock thread (stage_goes ..))
        refine ⟨_, _, ⟨_, done⟩, ?_, ?_, rfl, stage_back idle [_, _, _, _, _]⟩
        · simp [host, goes, Host.initFrom, registered, opening]
        · simp [host, Host.initFrom, registered, opening, BindingAnswer.map, Except.map]
      | ok library =>
        have opened := cleared.step (.opened thread (stage_goes ..) opening)
        have bound := opened.step (.register thread (stage_goes ..) registered)
        have done := bound.step (.unlock thread (stage_goes ..))
        refine ⟨_, _, ⟨_, done⟩, ?_, ?_, rfl, stage_back idle [_, _, _, _, _, _]⟩
        · simp [host, goes, Host.initFrom, registered, opening]
        · simp [host, Host.initFrom, registered, opening, BindingAnswer.map, Except.map]

theorem calls_install (free : s.holder = none) (idle : s.stage thread = .idle)
    (brought : Library σ ι) :
    ∃ answer s', Calls s thread (.install brought) answer s' := by
  have waiting := Run.start.step (Step.bring thread brought idle)
  have locked := waiting.step (.lock thread free (stage_goes ..))
  cases registered : s.registered with
  | some candidate =>
    have kept := locked.step (.keep thread (stage_goes ..) registered)
    have done := kept.step (.unlock thread (stage_goes ..))
    refine ⟨_, _, ⟨_, done⟩, ?_, ?_, rfl, stage_back idle [_, _, _]⟩
    · simp [host, goes, BindingCall.perform, Host.install, registered]
    · simp [host, BindingCall.perform, Host.install, registered, BindingAnswer.map, Except.map]
  | none =>
    have bound := locked.step (.register thread (stage_goes ..) registered)
    have done := bound.step (.unlock thread (stage_goes ..))
    refine ⟨_, _, ⟨_, done⟩, ?_, ?_, rfl, stage_back idle [_, _, _]⟩
    · simp [host, goes, BindingCall.perform, Host.install, registered]
    · simp [host, BindingCall.perform, Host.install, registered, BindingAnswer.map, Except.map]

/-- Where the lock is free, a thread may make any call as a process does that does nothing else. -/
theorem calls (free : s.holder = none) (idle : s.stage thread = .idle) (call : BindingCall σ ι) :
    ∃ answer s', Calls s thread call answer s' := by
  cases call with
  | init => exact calls_name free idle rfl
  | initFrom name => exact calls_name free idle rfl
  | install brought => exact calls_install free idle brought
  | library =>
    refine ⟨_, s, ⟨_, Run.start.step (.library thread idle)⟩, rfl, ?_, free, rfl⟩
    cases registered : s.registered <;>
      simp [host, BindingCall.perform, Host.library, registered, BindingAnswer.map, Except.map]
  | isInitialized =>
    refine ⟨_, s, ⟨_, Run.start.step (.isInitialized thread idle)⟩, rfl, ?_, free, rfl⟩
    simp [host, BindingCall.perform, Host.isInitialized, BindingAnswer.map]

end Alone

/-! ## The library of a process -/

/-- What a run tells about the library of its process. -/
structure BindsOnce (start : Process σ ι κ) (trace : List (BindingEvent σ ι κ))
    (s : Process σ ι κ) : Prop where
  /-- A library is registered at most once, and stays. -/
  registered : BindingEvent.bindings trace = s.registered.toList
  /-- Every library in an answer is that one, and was registered before. -/
  one : ∀ before after thread call candidate,
    trace = before ++ .answers thread call (.library (.ok candidate)) :: after →
    BindingEvent.bindings before = [candidate] ∧ s.registered = some candidate
  /-- Who only asks is answered by what is registered, -/
  library : ∀ before after thread answer, trace = before ++ .answers thread .library answer :: after →
    answer = .library ((BindingEvent.bindings before).head?.elim (.error .notInitialized) .ok)
  isInitialized : ∀ before after thread answer,
    trace = before ++ .answers thread .isInitialized answer :: after →
    answer = .initialized (BindingEvent.bindings before).head?.isSome
  /-- and who wants one, once it is there, by that one. -/
  kept : ∀ before after thread call answer candidate,
    trace = before ++ .answers thread call answer :: after → call.Binds →
    BindingEvent.bindings before = [candidate] → answer = .library (.ok candidate)
  /-- Before that a call that fails has opened something itself, once since it began, and fails with
  the error of that. Nothing is registered then, and the lock is free. -/
  failed : ∀ before after thread call answer,
    trace = before ++ .answers thread call answer :: after → call.Binds →
    BindingEvent.bindings before = [] →
    ∃ e name, answer = .library (.error e) ∧
      Since start before thread call name [.opens thread name (.error e)] ∧
      ∃ next, Run start (before ++ [.answers thread call answer]) next ∧
        next.registered = none ∧ next.holder = none ∧ next.stage thread = .idle
  /-- What is opened is opened in the state that the process is in, and only before a library is
  registered. -/
  opens : ∀ before after thread name result, trace = before ++ .opens thread name result :: after →
    BindingEvent.bindings before = [] ∧
      ∃ mid, Run start before mid ∧ ((Library.openWith mid.loader name).runOn mid.world).1 = result
  /-- Where the lock is free, a thread may make any call, however the world around it has become,
  and what comes of it is what `Host` says. -/
  calls : s.holder = none → ∀ thread, s.stage thread = .idle → ∀ world loader call,
    ∃ answer s', Calls (s.surrounded world loader) thread call answer s' ∧
      ∃ events, Run start (trace ++ events ++ [.answers thread call answer]) s'
  /-- So a later call succeeds if its library can be opened by then. -/
  retried : s.registered = none → s.holder = none → ∀ thread, s.stage thread = .idle →
    ∀ world loader name library, ((Library.openWith loader name).runOn world).1 = .ok library →
    ∃ candidate events s', candidate.library = library ∧
      Run start (trace ++ events ++ [.answers thread (.initFrom name) (.library (.ok candidate))]) s'

theorem binds_at_most_once {start s : Process σ ι κ} {trace : List (BindingEvent σ ι κ)}
    (fresh : start.Fresh) (run : Run start trace s) : BindsOnce start trace s := by
  have sound {before : List (BindingEvent σ ι κ)} {mid : Process σ ι κ}
      (earlier : Run start before mid) : Sound start before mid := .of_run fresh earlier
  refine ⟨(sound run).bindings, ?_, ?_, ?_, ?_, ?_, ?_, ?_, ?_⟩
  · intro before after thread call candidate split
    obtain ⟨mid, next, earlier, taken⟩ := run.at_event split
    have found := (sound earlier).registered_of_answer taken
    have once : BindingEvent.bindings before = [candidate] := by
      rw [(sound earlier).bindings, found]
      rfl
    have later := (sound run).bindings
    rw [split, BindingEvent.bindings_append, once] at later
    cases registered : s.registered with
    | none => simp [registered] at later
    | some other => simp_all
  · intro before after thread answer split
    obtain ⟨mid, next, earlier, taken⟩ := run.at_event split
    rw [(sound earlier).bindings, Option.head?_toList]
    obtain ⟨_, told⟩ | ⟨other, _⟩ | ⟨other, _⟩ := (sound earlier).of_answer taken
    · exact told
    · cases other
    · exact other.elim
  · intro before after thread answer split
    obtain ⟨mid, next, earlier, taken⟩ := run.at_event split
    rw [(sound earlier).bindings, Option.head?_toList]
    obtain ⟨other, _⟩ | ⟨_, told⟩ | ⟨other, _⟩ := (sound earlier).of_answer taken
    · cases other
    · exact told
    · exact other.elim
  · intro before after thread call answer candidate split binds once
    obtain ⟨mid, next, earlier, taken⟩ := run.at_event split
    rw [(sound earlier).bindings, Option.toList_eq_singleton_iff] at once
    obtain ⟨candidate', found, told⟩ | ⟨e, name, missed, _⟩ :=
      (sound earlier).of_answer_binds taken binds
    · simp_all
    · simp_all
  · intro before after thread call answer split binds unbound
    obtain ⟨mid, next, earlier, taken⟩ := run.at_event split
    rw [(sound earlier).bindings, Option.toList_eq_nil_iff] at unbound
    obtain ⟨candidate, found, _⟩ | ⟨e, name, _, told, since, rest⟩ :=
      (sound earlier).of_answer_binds taken binds
    · simp_all
    · exact ⟨e, name, told, since, next, earlier.step taken, rest⟩
  · intro before after thread name result split
    obtain ⟨mid, next, earlier, taken⟩ := run.at_event split
    obtain ⟨missed, made⟩ := (sound earlier).of_open taken
    rw [(sound earlier).bindings, missed]
    exact ⟨rfl, mid, earlier, made⟩
  · intro free thread idle world loader call
    have changed := run.step (.elsewhere world loader)
    have free : (s.surrounded world loader).holder = none := free
    obtain ⟨answer, s', made⟩ := calls free idle call
    obtain ⟨events, later⟩ := made.1
    exact ⟨answer, s', made, events, by simpa using changed.trans later⟩
  · intro unbound free thread idle world loader name library opening
    have changed := run.step (.elsewhere world loader)
    have free : (s.surrounded world loader).holder = none := free
    obtain ⟨answer, s', ⟨events, later⟩, _, told, _⟩ := calls free idle (.initFrom name)
    have succeeds : answer.map (·.library) = .library (.ok library) := by
      rw [told, BindingCall.perform, Host.initFrom_of_unbound (by simp [host, surrounded, unbound])]
      exact congrArg _ opening
    obtain ⟨candidate, rfl, same⟩ := BindingAnswer.of_map_ok succeeds
    exact ⟨candidate, events, s', same, by simpa using changed.trans later⟩

end Steps

end Process

/-- A file that exports a whole table. -/
def EntryPoints.image (entries : EntryPoints σ ι) (path : String) : Image σ ι where
  path := path
  compress := some entries.compress
  decompress := some entries.decompress
  getDefaults := some entries.getDefaults
  setDefaults := some entries.setDefaults
  maxCompressedLength := some entries.maxCompressedLength
  malloc := some entries.malloc
  free := entries.free
  teardown := entries.teardown

/-- The platform knows one file. -/
def Simulated.loader : Loader State UInt32 := fun name _ =>
  if name = Settings.libraryDefault then .ok ((entryPoints true true).image name) else .error "not found"

namespace Process

/-- Two threads, and one file for the simulated library. -/
def twoThreads : Process Simulated.State UInt32 Bool where
  world := { native := {} }
  loader := some Simulated.loader
  stage _ := .idle

/-- Both threads find no library at first. The one with a name for which there is no file fails, the
other one succeeds, and then so does the first under the same name. -/
theorem binds_at_most_once_two : ∃ trace s, twoThreads.Fresh ∧ Run twoThreads trace s ∧
    .answers false (.initFrom "absent") (.library (.error (.libraryNotFound "absent" "not found")))
      ∈ trace ∧ s.registered.isSome ∧ BindsOnce twoThreads trace s := by
  have fresh : twoThreads.Fresh := ⟨rfl, rfl, fun _ => rfl⟩
  have sought : Run twoThreads [.asks false (.initFrom "absent")] _ :=
    Run.start.step (.seek false rfl rfl)
  have sought : Run twoThreads [.asks false (.initFrom "absent"), .asks true .init] _ :=
    sought.step (.seek true rfl rfl)
  have missed := (sought.step (.miss false rfl rfl)).step (.miss true rfl rfl)
  have cleared := (missed.step (.lock false rfl rfl)).step (.missLocked false rfl rfl)
  have failed := (cleared.step (.openFailed false rfl rfl)).step (.unlock false rfl)
  have cleared := (failed.step (.lock true rfl rfl)).step (.missLocked true rfl rfl)
  have bound := (cleared.step (.opened true rfl rfl)).step (.register true rfl rfl)
  have again : Run twoThreads (_ ++ [.asks false (.initFrom "absent")]) _ :=
    (bound.step (.unlock true rfl)).step (.seek false rfl rfl)
  have found := again.step (.find false rfl rfl)
  exact ⟨_, _, fresh, found, by simp, rfl, binds_at_most_once fresh found⟩

end Process

end OffloadCodec

import OffloadCodec.LibraryCheck
import OffloadCodec.Session

/-!
# The host process

`Host` is a process as seen by the facade: the world around it, its loader, and the library that all
of its threads share. A process binds at most one library and then keeps it: `initFrom` opens one
unless one is bound, `install` registers one unless one is bound, and whoever asks gets the one that
is bound. An attempt that fails leaves the process as it was, so a later one may succeed.

Each thread has a session of its own on that library, made when the thread first needs it and ended
with the thread, and the text of the last failure of a call through the C interface.
-/

namespace OffloadCodec

/-- What a thread keeps. -/
structure Thread (σ ι : Type) where
  session : Option (Session σ ι) := none
  /-- The message of the last call through the C interface that failed; empty before any did. -/
  lastError : String := ""

/-- A process that may have a library bound. -/
structure Host (σ ι : Type) where
  world : World σ
  /-- The platform's loader, where there is one. -/
  loader : Option (Loader σ ι)
  bound : Option (Library σ ι) := none
  /-- Threads by number, as far as they have kept anything. -/
  threads : List (Nat × Thread σ ι) := []

namespace Host

variable {σ ι : Type}

/-- A library is bound. -/
def isInitialized (host : Host σ ι) : Bool := host.bound.isSome

/-- The bound library. -/
def library (host : Host σ ι) : Except LinkError (Library σ ι) :=
  match host.bound with
  | some library => .ok library
  | none => .error .notInitialized

/-- Binds the library under a name, unless one is bound already. -/
def initFrom (host : Host σ ι) (name : String) :
    Except LinkError (Library σ ι) × Host σ ι :=
  match host.bound with
  | some library => (.ok library, host)
  | none =>
    match (Library.openWith host.loader name).runOn host.world with
    | (.error e, world) => (.error e, { host with world })
    | (.ok library, world) => (.ok library, { host with world, bound := some library })

/-- Binds the library that the environment names, or the default one. -/
def init (host : Host σ ι) : Except LinkError (Library σ ι) × Host σ ι :=
  host.initFrom (Settings.libraryName host.world.environment)

/-- Binds a library that is at hand, unless one is bound already. Returns the bound one. -/
def install (host : Host σ ι) (library : Library σ ι) : Library σ ι × Host σ ι :=
  match host.bound with
  | some library => (library, host)
  | none => (library, { host with bound := some library })

/-- Binds a library and reports on it. -/
def checkLibrary (host : Host σ ι) (name : String) (all : Bool) :
    CheckReport × Host σ ι :=
  match host.initFrom name with
  | (.error e, host) => (.unbound e, host)
  | (.ok library, host) =>
    let (report, world) := library.check all host.world
    (report, { host with world })

/-- What a thread keeps now. -/
def thread (host : Host σ ι) (id : Nat) : Thread σ ι := (host.threads.lookup id).getD {}

/-- Changes what a thread keeps. -/
def setThread (host : Host σ ι) (id : Nat) (thread : Thread σ ι) : Host σ ι :=
  { host with threads := (id, thread) :: host.threads.filter (·.1 != id) }

/-- Ends the threads in the order of their numbers, and with each its session. -/
def endThreads (host : Host σ ι) : Host σ ι :=
  let threads := host.threads.mergeSort fun a b => a.1 ≤ b.1
  let world := threads.foldl (fun world thread =>
    match thread.2.session with
    | some session => session.close world
    | none => world) host.world
  { host with world, threads := [] }

end Host

end OffloadCodec

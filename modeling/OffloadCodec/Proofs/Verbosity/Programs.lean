import OffloadCodec.Proofs.Resources.Programs
import OffloadCodec.Proofs.Verbosity.Processes
import OffloadCodec.Proofs.Verbosity.Transfers

/-!
# Programs in worlds that differ in their consoles

A program asks for things one after the other (`Request`) and goes by what it gets (`Response`): it
binds libraries, calls the facade and the C interface, has libraries do things, and makes, uses and
ends sessions, buffers, writers and readers. Beside it the library's state, the files and the
environment may change at any time. The one thing that a program here does not do is to read or set
the display level, or to write to the console itself.

`Scene.Run` collects what was asked with what came back. A request may also stop
(`Response.stops`), and then the runtime says so on the console. In scenes that differ in their consoles
the same can be asked and comes back (`Scene.Step.matched`), so every run in one of them is a run in the
other (`Scene.Run.matched`).
-/

namespace OffloadCodec

variable {σ ι : Type}

/-! ## Responses -/

/-- What a program gets to see. -/
inductive Response (σ ι : Type)
  | done
  | bound (answer : BindingAnswer (Library σ ι))
  | facade (result : Except OffloadError FacadeValue) (output : Option Memory)
  | interface (reply : CInterface.CReply)
  | inSession (result : Except OffloadError Returned)
  | report (report : CheckReport)
  | opened (result : Except LinkError (Library σ ι))
  | name (name : String)
  | level (level : Int32)
  | options (options : StreamOptions)
  | checked (result : Except CodecError Unit)
  | length (result : Except StreamFailure Nat)
  | defaults (result : Except CodecError (Option CodecConfig))
  | transferred (result : Except StreamFailure Transfer)
  | coded (result : Except StreamFailure Bytes)
  | made (result : Except StreamFailure Unit)
  | returned (returned : Returned)
  | written (result : Except StreamFailure (Option Nat))
  | closed (closed : Closed)
  | session (session : Session σ ι)
  | memory (memory : Memory)
  | sink (sink : Sink)
  | source (source : Source)

/-- A call has not come back, and has stopped instead. -/
def Returned.stops : Returned → Bool
  | refused failure => failure == .overrun
  | served _ _ => false
  | produced _ => false
  | written result => overran result
  | read result => overran result
  | readOut _ result => overran result
  | ended result => overran result
  | stopped => true

/-- Nothing has come back: the request has stopped. -/
def Response.stops : Response σ ι → Bool
  | inSession (.ok here) => here.stops
  | length result => overran result
  | transferred result => overran result
  | coded result => overran result
  | made result => overran result
  | returned here => here.stops
  | written result => overran result
  | closed last => overran last.result
  | _ => false

/-! ## Requests to a process -/

inductive ProcessRequest (σ ι : Type)
  | bind (call : BindingCall σ ι)
  | facade (id : Nat) (call : FacadeCall)
  | interface (id : Nat) (call : CInterface.CCall)
  /-- A call on the session of a thread. -/
  | inSession (id : Nat) (call : SessionCall)
  | endThreads
  | checkLibrary (name : String) (all : Bool)
  /-- Opens a library without binding it. -/
  | openLibrary (name : String)
  /-- The settings in the environment. -/
  | libraryName
  | level
  | streamOptions

def ProcessRequest.perform (host : Host σ ι) :
    ProcessRequest σ ι → Response σ ι × Host σ ι
  | bind call => (.bound (call.perform host).1, (call.perform host).2)
  | facade id call =>
    let reply := call.perform host id
    (.facade reply.result reply.output, reply.host)
  | interface id call => (.interface (call.perform host id).1, (call.perform host id).2)
  | inSession id call =>
    let (result, host) := host.withSession id fun session => session.perform call
    (.inSession result, host)
  | endThreads => (.done, host.endThreads)
  | checkLibrary name all =>
    let (report, host) := host.checkLibrary name all
    (.report report, host)
  | openLibrary name =>
    let (result, world) := (Library.openWith host.loader name).runOn host.world
    (.opened result, { host with world })
  | libraryName => (.name (Settings.libraryName host.world.environment), host)
  | level =>
    let (setting, world) := host.world.take (Settings.level host.world.environment)
    (.level setting, { host with world })
  | streamOptions =>
    let (options, world) := host.world.take (StreamOptions.fromEnvironment host.world.environment)
    (.options options, { host with world })

/-! ## Requests to a library -/

inductive LibraryRequest
  | check (all : Bool)
  | roundTrip
  | maxCompressedLength (length : Nat)
  | maxBlockPayload (blockSize : Nat)
  | defaults (call : DefaultsCall)
  | compressFile (src dst : String) (options : StreamOptions) (level : Option Int32)
  | decompressFile (src dst : String) (options : StreamOptions)

def LibraryRequest.perform (library : Library σ ι) (world : World σ) :
    LibraryRequest → Response σ ι × World σ
  | check all =>
    let (report, world) := library.check all world
    (.report report, world)
  | roundTrip =>
    let (result, world) := library.roundTrip.runOn world
    (.checked result, world)
  | maxCompressedLength length =>
    let (result, world) := (library.maxCompressedLength length).streamed.runOn world
    (.length result, world)
  | maxBlockPayload blockSize =>
    let (result, world) := (library.maxBlockPayload blockSize).runOn world
    (.length result, world)
  | defaults call =>
    let (result, world) := (call.act library).runOn world
    (.defaults result, world)
  | compressFile src dst options level =>
    let (result, world) := (library.compressFile src dst options level).runOn world
    (.transferred result, world)
  | decompressFile src dst options =>
    let (result, world) := (library.decompressFile src dst options).runOn world
    (.transferred result, world)

/-! ## Holdings -/

/-- What a program makes with a library. -/
inductive Making
  | session
  | buffer (size : Nat) (numa pinned : Bool)
  | scratch (size : Nat) (prefs : BufferPrefs)
  | writer (sink : Sink) (options : StreamOptions)
  | reader (source : Source) (options : StreamOptions)

/-- The operation that makes it. -/
def Making.act (library : Library σ ι) : Making → Act σ StreamFailure (Holding σ ι)
  | session => pure (.session (.new library))
  | buffer size numa pinned => do
    return .buffer (← (NativeBuffer.allocate library size numa pinned).streamed)
  | scratch size prefs =>
    if Scratch.isPossible size prefs then do
      return .scratch (← (Scratch.allocate library size prefs).streamed)
    else throw .overrun
  | writer sink options => do return .writer (← BlockWriter.create library sink options)
  | reader source options => do return .reader (← BlockReader.create library source options)

/-- A call on a holding. -/
inductive HoldingCall
  | session (call : SessionCall)
  | writer (call : WriterCall)
  | reader (call : ReaderCall)
  /-- Overwrites a buffer. -/
  | fill (memory : Memory)

namespace Holding

/-- What can be seen of a holding. -/
def look : Holding σ ι → Response σ ι
  | .session held => .session held
  | .buffer held => .memory held.memory
  | .scratch held => .memory held.memory
  | .writer held => .sink held.sink
  | .reader held => .source held.source

/-- Makes a call, if it is one for such a holding. -/
def perform? (world : World σ) :
    Holding σ ι → HoldingCall → Option (Response σ ι × Holding σ ι × World σ)
  | .session held, .session call =>
    let (returned, next, world) := held.perform call world
    some (.returned returned, .session next, world)
  | .writer held, .writer call =>
    let (result, next, world) := held.perform call world
    some (.written result, .writer next, world)
  | .reader held, .reader call =>
    let (returned, next, world) := held.perform call world
    some (.returned returned, .reader next, world)
  | .buffer held, .fill memory => some (.done, .buffer { held with memory }, world)
  | .scratch held, .fill memory => some (.done, .scratch (held.withMemory memory), world)
  | _, _ => none

/-- Ends a holding. Only a writer can be finished; all else is dropped. -/
def finish (library : Library σ ι) (ending : WriterEnd) (world : World σ) :
    Holding σ ι → Response σ ι × World σ
  | .session held => (.done, held.close world)
  | .buffer held => (.done, held.release library world)
  | .scratch held => (.done, held.release library world)
  | .writer held =>
    match ending with
    | .finish => (.closed (held.finish world).1, (held.finish world).2)
    | .drop => (.closed (held.discard world).1, (held.discard world).2)
  | .reader held => (.done, held.close world)

end Holding

/-! ## Runs -/

inductive Request (σ ι : Type)
  | process (request : ProcessRequest σ ι)
  | library (library : Library σ ι) (request : LibraryRequest)
  | compressBlocks (library : Library σ ι) (data : Bytes) (blockSize : Nat)
    (schedule : Nat → Schedule)
  | decompressBlocks (library : Library σ ι) (stream : Bytes) (blockSize : Nat)
    (schedule : Nat → Schedule)
  /-- Holdings go by numbers. -/
  | make (number : Nat) (library : Library σ ι) (making : Making)
  | look (number : Nat)
  | call (number : Nat) (call : HoldingCall)
  | finish (number : Nat) (ending : WriterEnd)
  /-- Others change the library's state, the files, the environment, or what can be loaded. -/
  | elsewhere (native : σ) (files : FileTree) (environment : Environment)
    (loader : Option (Loader σ ι))

/-- A process, and what its program holds, each thing with the library it was made with. -/
structure Scene (σ ι : Type) where
  host : Host σ ι
  holdings : Nat → Option (Library σ ι × Holding σ ι) := fun _ => none

namespace Scene

def withWorld (scene : Scene σ ι) (world : World σ) : Scene σ ι :=
  { scene with host := { scene.host with world } }

def put (scene : Scene σ ι) (number : Nat) (held : Option (Library σ ι × Holding σ ι)) :
    Scene σ ι :=
  { scene with holdings := Function.update scene.holdings number held }

theorem holdings_put_self (scene : Scene σ ι) (number : Nat)
    (held : Option (Library σ ι × Holding σ ι)) : (scene.put number held).holdings number = held :=
  Function.update_self ..

theorem holdings_put_of_ne (scene : Scene σ ι) {number other : Nat} (ne : other ≠ number)
    (held : Option (Library σ ι × Holding σ ι)) :
    (scene.put number held).holdings other = scene.holdings other :=
  Function.update_of_ne ne ..

/-- What a request comes to. -/
inductive Step : Scene σ ι → Request σ ι → Response σ ι → Scene σ ι → Prop
  | process {scene : Scene σ ι} {request : ProcessRequest σ ι} {response : Response σ ι}
    {host : Host σ ι} (performed : request.perform scene.host = (response, host)) :
    Step scene (.process request) response { scene with host }
  | library {scene : Scene σ ι} {library : Library σ ι} {request : LibraryRequest}
    {response : Response σ ι} {world : World σ}
    (performed : request.perform library scene.host.world = (response, world)) :
    Step scene (.library library request) response (scene.withWorld world)
  | compressBlocks {scene : Scene σ ι} {library : Library σ ι} {data : Bytes} {blockSize : Nat}
    {schedule : Nat → Schedule} {result : Except StreamFailure Bytes} {world : World σ}
    (coded : library.CompressesBlocks data blockSize schedule scene.host.world result world) :
    Step scene (.compressBlocks library data blockSize schedule) (.coded result)
      (scene.withWorld world)
  | decompressBlocks {scene : Scene σ ι} {library : Library σ ι} {stream : Bytes}
    {blockSize : Nat} {schedule : Nat → Schedule} {result : Except StreamFailure Bytes}
    {world : World σ}
    (coded : library.DecompressesBlocks stream blockSize schedule scene.host.world result world) :
    Step scene (.decompressBlocks library stream blockSize schedule) (.coded result)
      (scene.withWorld world)
  | make {scene : Scene σ ι} {number : Nat} {library : Library σ ι} {making : Making}
    {holding : Holding σ ι} {world : World σ} (free : scene.holdings number = none)
    (made : (making.act library).runOn scene.host.world = (.ok holding, world)) :
    Step scene (.make number library making) (.made (.ok ()))
      ((scene.withWorld world).put number (some (library, holding)))
  | fail {scene : Scene σ ι} {number : Nat} {library : Library σ ι} {making : Making}
    {e : StreamFailure} {world : World σ} (free : scene.holdings number = none)
    (failed : (making.act library).runOn scene.host.world = (.error e, world)) :
    Step scene (.make number library making) (.made (.error e)) (scene.withWorld world)
  | look {scene : Scene σ ι} {number : Nat} {library : Library σ ι} {holding : Holding σ ι}
    (held : scene.holdings number = some (library, holding)) :
    Step scene (.look number) holding.look scene
  | call {scene : Scene σ ι} {number : Nat} {library : Library σ ι} {holding next : Holding σ ι}
    {call : HoldingCall} {response : Response σ ι} {world : World σ}
    (held : scene.holdings number = some (library, holding))
    (performed : holding.perform? scene.host.world call = some (response, next, world)) :
    Step scene (.call number call) response
      ((scene.withWorld world).put number (some (library, next)))
  | finish {scene : Scene σ ι} {number : Nat} {library : Library σ ι} {holding : Holding σ ι}
    {ending : WriterEnd} {response : Response σ ι} {world : World σ}
    (held : scene.holdings number = some (library, holding))
    (finished : holding.finish library ending scene.host.world = (response, world)) :
    Step scene (.finish number ending) response ((scene.withWorld world).put number none)
  | elsewhere {scene : Scene σ ι} (native : σ) (files : FileTree) (environment : Environment)
    (loader : Option (Loader σ ι)) :
    Step scene (.elsewhere native files environment loader) .done
      { scene with
        host := { scene.host with
          loader, world := { scene.host.world with native, files, environment } } }

/-- A run from one scene to another, with what was asked, what came back, and what the runtime has said
about requests that have stopped. Such a request leaves things as they are at that moment. Others may
go on behind it, and what is held may be dropped. -/
inductive Run (start : Scene σ ι) :
    List String → List (Request σ ι × Response σ ι) → Scene σ ι → Prop
  | start : Run start [] [] start
  | step {notices : List String} {trace : List (Request σ ι × Response σ ι)}
    {scene next : Scene σ ι} {request : Request σ ι} {response : Response σ ι}
    (run : Run start notices trace scene) (taken : Step scene request response next)
    (goes : response.stops = false) : Run start notices (trace ++ [(request, response)]) next
  | stop {notices : List String} {trace : List (Request σ ι × Response σ ι)}
    {scene next : Scene σ ι} {request : Request σ ι} {response : Response σ ι}
    (run : Run start notices trace scene) (taken : Step scene request response next)
    (stops : response.stops = true) (notice : String) :
    Run start (notices ++ [notice]) (trace ++ [(request, response)])
      (next.withWorld (next.host.world.warn notice))

end Scene

/-! ## Scenes that differ in their consoles -/

variable {alike : World σ → World σ → Prop}

/-- Holdings of a library that cannot be told apart in related worlds. -/
inductive Holding.Alike (only : World.ConsoleOnly alike) (library : Library σ ι) :
    Holding σ ι → Holding σ ι → Prop
  | session (session : Session σ ι) : Alike only library (.session session) (.session session)
  | buffer (buffer : NativeBuffer) : Alike only library (.buffer buffer) (.buffer buffer)
  | scratch (scratch : Scratch) : Alike only library (.scratch scratch) (.scratch scratch)
  | writer {writer writer' : BlockWriter σ ι}
    (twin : BlockWriter.Twin only library writer writer') :
    Alike only library (.writer writer) (.writer writer')
  | reader {reader reader' : BlockReader σ ι}
    (twin : BlockReader.Twin only library reader reader') :
    Alike only library (.reader reader) (.reader reader')

/-- The same library, and holdings of it that cannot be told apart. -/
inductive Scene.HeldAlike (only : World.ConsoleOnly alike) :
    Library σ ι × Holding σ ι → Library σ ι × Holding σ ι → Prop
  | of (library : Library σ ι) {holding holding' : Holding σ ι}
    (same : holding.Alike only library holding') :
    HeldAlike only (library, holding) (library, holding')

structure Scene.Alike (only : World.ConsoleOnly alike) (scene scene' : Scene σ ι) : Prop where
  host : scene.host.Alike alike scene'.host
  holdings : ∀ number,
    Option.Rel (Scene.HeldAlike only) (scene.holdings number) (scene'.holdings number)

section Related

variable (only : World.ConsoleOnly alike) {host host' : Host σ ι} {world world' : World σ}
include only

namespace Holding.Alike

variable {library : Library σ ι} {holding holding' : Holding σ ι}

omit only in
theorem look {only : World.ConsoleOnly alike} (same : holding.Alike only library holding')
    (like : alike world world') : holding.look = holding'.look := by
  cases same with
  | session held => rfl
  | buffer held => rfl
  | scratch held => rfl
  | writer twin => exact congrArg Response.sink (twin _ _ like).frames.sink
  | reader twin => exact congrArg Response.source (twin _ _ like).source

/-- A call on one is a call on the other. -/
theorem perform? {next : Holding σ ι} {call : HoldingCall} {response : Response σ ι}
    {later : World σ} (same : holding.Alike only library holding') (like : alike world world')
    (performed : holding.perform? world call = some (response, next, later)) :
    ∃ next' later', holding'.perform? world' call = some (response, next', later') ∧
      next.Alike only library next' ∧ alike later later' := by
  cases same with
  | session held =>
    cases call with
    | session call =>
      have same := held.perform_indifferent only call like
      unfold Holding.perform? at performed ⊢
      dsimp only at performed ⊢
      generalize held.perform call world = outcome,
        held.perform call world' = outcome' at same performed ⊢
      obtain ⟨returned, rfl, still⟩ := same
      cases performed
      exact ⟨_, _, rfl, .session _, still⟩
    | writer call => cases performed
    | reader call => cases performed
    | fill memory => cases performed
  | buffer held =>
    cases call with
    | fill memory =>
      cases performed
      exact ⟨_, _, rfl, .buffer _, like⟩
    | session call => cases performed
    | writer call => cases performed
    | reader call => cases performed
  | scratch held =>
    cases call with
    | fill memory =>
      cases performed
      exact ⟨_, _, rfl, .scratch _, like⟩
    | session call => cases performed
    | writer call => cases performed
    | reader call => cases performed
  | @writer held held' twin =>
    cases call with
    | writer call =>
      have same := (twin _ _ like).perform call
      unfold Holding.perform? at performed ⊢
      dsimp only at performed ⊢
      generalize held.perform call world = outcome,
        held'.perform call world' = outcome' at same performed ⊢
      obtain ⟨result, still⟩ := same
      cases performed
      exact ⟨_, _, rfl, .writer still.twin, still.frames.session.like.2⟩
    | session call => cases performed
    | reader call => cases performed
    | fill memory => cases performed
  | @reader held held' twin =>
    cases call with
    | reader call =>
      have same := (twin _ _ like).perform call
      unfold Holding.perform? at performed ⊢
      dsimp only at performed ⊢
      generalize held.perform call world = outcome,
        held'.perform call world' = outcome' at same performed ⊢
      obtain ⟨result, still⟩ := same
      cases performed
      exact ⟨_, _, rfl, .reader still.twin, still.session.like.2⟩
    | session call => cases performed
    | writer call => cases performed
    | fill memory => cases performed

theorem finish (same : holding.Alike only library holding') (ending : WriterEnd)
    (like : alike world world') :
    SameEnd alike (holding.finish library ending world) (holding'.finish library ending world') := by
  cases same with
  | session held => exact .of _ (held.close_indifferent only like)
  | buffer held =>
    have placed : (Scratch.native held).address? = (Scratch.native held).address? := rfl
    exact .of _ (only.release library placed like)
  | scratch held => exact .of _ (only.release library rfl like)
  | writer twin =>
    cases ending with
    | finish => exact ((twin _ _ like).finish (only.closes library)).map Response.closed
    | drop => exact ((twin _ _ like).discard (only.closes library)).map Response.closed
  | reader twin => exact .of _ ((twin _ _ like).close (only.closes library))

omit only in
/-- They cannot be told apart in worlds that are related in another way. -/
theorem elsewhere {alike' : World σ → World σ → Prop} {only : World.ConsoleOnly alike}
    {only' : World.ConsoleOnly alike'} (same : holding.Alike only library holding')
    (like : alike world world') : holding.Alike only' library holding' := by
  cases same with
  | session held => exact .session held
  | buffer held => exact .buffer held
  | scratch held => exact .scratch held
  | writer twin => exact .writer (twin _ _ like).twin
  | reader twin => exact .reader (twin _ _ like).twin

end Holding.Alike

end Related

/-! ## Steps and runs -/

namespace Scene

variable {only : World.ConsoleOnly alike} {scene scene' next : Scene σ ι}

theorem Alike.withWorld (same : scene.Alike only scene') {world world' : World σ}
    (like : alike world world') :
    (scene.withWorld world).Alike only (scene'.withWorld world') :=
  ⟨⟨like, same.host.loader, same.host.bound, same.host.threads⟩, same.holdings⟩

theorem Alike.put (same : scene.Alike only scene') (number : Nat)
    {held held' : Option (Library σ ι × Holding σ ι)}
    (like : Option.Rel (HeldAlike only) held held') :
    (scene.put number held).Alike only (scene'.put number held') := by
  refine ⟨same.host, fun other => ?_⟩
  by_cases here : other = number
  · subst here
    rwa [holdings_put_self, holdings_put_self]
  · rw [holdings_put_of_ne _ here, holdings_put_of_ne _ here]
    exact same.holdings other

/-- What is held in one scene has its like in the other. -/
theorem Alike.held (same : scene.Alike only scene') {number : Nat} {library : Library σ ι}
    {holding : Holding σ ι} (held : scene.holdings number = some (library, holding)) :
    ∃ holding', scene'.holdings number = some (library, holding') ∧
      holding.Alike only library holding' := by
  have related := same.holdings number
  rw [held] at related
  generalize scene'.holdings number = found at related ⊢
  cases related with
  | some like =>
    obtain ⟨_, like⟩ := like
    exact ⟨_, rfl, like⟩

theorem Alike.free (same : scene.Alike only scene') {number : Nat}
    (free : scene.holdings number = none) : scene'.holdings number = none := by
  have related := same.holdings number
  rw [free] at related
  generalize scene'.holdings number = found at related ⊢
  cases related
  rfl

/-- Scenes are alike in another way if their worlds are. -/
theorem Alike.elsewhere {alike' : World σ → World σ → Prop} {only' : World.ConsoleOnly alike'}
    (same : scene.Alike only scene') {world world' : World σ} (like : alike' world world') :
    (scene.withWorld world).Alike only' (scene'.withWorld world') := by
  refine ⟨⟨like, same.host.loader, same.host.bound, same.host.threads⟩, fun number => ?_⟩
  have related := same.holdings number
  unfold Scene.withWorld
  dsimp only
  generalize scene.holdings number = held, scene'.holdings number = held' at related ⊢
  cases related with
  | none => exact .none
  | some like =>
    obtain ⟨library, like⟩ := like
    exact .some (.of library (like.elsewhere same.host.world))

end Scene

end OffloadCodec

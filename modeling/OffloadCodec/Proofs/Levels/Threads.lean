import OffloadCodec.Proofs.Files.Transfers
import OffloadCodec.Proofs.Levels.Turns
import OffloadCodec.Proofs.Process.CInterface

/-!
# Threads of a process

In a process with a library many threads make facade calls, and the library is called from elsewhere
too, in any order (`ProcessTurn`). Each thread has its codec calls answered by a session of its own.

So what a thread gets is a function of its own codec calls and one level (`FacadeRequest.comesTo`),
the one in force when the first of them reaches the library (`Host.apart`). What other threads do,
and what is done to the defaults before and after, has no other part in it.
-/

namespace OffloadCodec

variable {σ ι : Type}

/-! ## Codec calls of the facade -/

/-- What a codec call comes to at a level. -/
def LevelCodec.of (codec : LevelCodec) : Operation → UInt32 → Bytes → UInt32 → CodecOutcome
  | .compress => codec.compress
  | _ => codec.decompress

/-- What a codec call asks of the library, unless it is refused before. -/
structure CodecRequest where
  operation : Operation
  input : Bytes
  capacity : UInt32

/-- A codec call of the facade and the output region that comes with it. -/
structure FacadeRequest where
  asked : Except CodecError CodecRequest
  dst : Memory

namespace FacadeCall

/-- The request of a codec call on a range of the source. -/
def requestOf (operation : Operation) (what : String) (source : Except CodecError View)
    (dst : Memory) : FacadeRequest where
  asked :=
    match source with
    | .error e => .error e
    | .ok input =>
      match Session.lengths input (.whole dst) what with
      | .error e => .error e
      | .ok (_, capacity) => .ok ⟨operation, input.bytes, capacity⟩
  dst := dst

/-- The request that a call makes, if it is a codec call. -/
def request? : FacadeCall → Option FacadeRequest
  | compress src length dst =>
    some (requestOf .compress "compressor output buffer" (View.range src 0 length) dst)
  | decompress src offset length dst =>
    some (requestOf .decompress "decompressor output buffer" (View.range src offset length) dst)
  | _ => none

end FacadeCall

/-- What a facade call returns, and its output region. -/
abbrev Reply := Except OffloadError FacadeValue × Option Memory

namespace FacadeRequest

/-- What is returned when the library has replied. -/
def returns (request : FacadeRequest) (operation : Operation) (status : Int32) (reported : UInt32)
    (written : Bytes) : Reply :=
  (match CodecError.ofStatus? operation status with
    | none => .ok (.length reported.toNat)
    | some e => .error (.codec e),
    some ((View.whole request.dst).store written).memory)

/-- What comes of the request at a level. -/
def comesTo (request : FacadeRequest) (codec : LevelCodec) (level : UInt32) : Reply :=
  match request.asked with
  | .error e => (.error (.codec e), some request.dst)
  | .ok asked =>
    let outcome := codec.of asked.operation level asked.input asked.capacity
    request.returns asked.operation outcome.status outcome.reported outcome.written

/-- The library is asked. -/
def reaches (request : FacadeRequest) : Bool :=
  match request.asked with
  | .error _ => false
  | .ok _ => true

/-- Bytes that the session takes in. -/
def takenIn (codec : LevelCodec) (level : UInt32) (request : FacadeRequest) : UInt64 :=
  match request.asked with
  | .error _ => 0
  | .ok asked => (codec.of asked.operation level asked.input asked.capacity).takenIn

/-- Bytes that the session gives out. -/
def givenOut (codec : LevelCodec) (level : UInt32) (request : FacadeRequest) : UInt64 :=
  match request.asked with
  | .error _ => 0
  | .ok asked => (codec.of asked.operation level asked.input asked.capacity).givenOut

end FacadeRequest

/-! ## Runs of a process -/

/-- A turn in a process: a facade call of a thread, or a call of the library from elsewhere. -/
inductive ProcessTurn (ι : Type)
  | call (thread : Nat) (call : FacadeCall)
  | elsewhere (call : LibraryCall ι)

/-- The request that a turn makes for a thread. -/
def ProcessTurn.requestOf? (id : Nat) : ProcessTurn ι → Option FacadeRequest
  | call thread made => if thread = id then made.request? else none
  | elsewhere _ => none

namespace Host

/-- The process after a turn. -/
def turn (host : Host σ ι) : ProcessTurn ι → Host σ ι
  | .call thread call => (call.perform host thread).host
  | .elsewhere call =>
    match host.bound with
    | some library =>
      { host with world := { host.world with
          native := call.leaves library.entries host.world.native } }
    | none => host

/-- What a turn returns to the thread whose turn it is. -/
def reply (host : Host σ ι) : ProcessTurn ι → Option Reply
  | .call thread call =>
    let reply := call.perform host thread
    some (reply.result, reply.output)
  | .elsewhere _ => none

/-- The process after some turns. -/
def after (host : Host σ ι) (turns : List (ProcessTurn ι)) : Host σ ι := turns.foldl turn host

/-- What the codec calls of a thread return in a run. -/
def replies (host : Host σ ι) (id : Nat) : List (ProcessTurn ι) → List Reply
  | [] => []
  | turn :: later =>
    let others := (host.turn turn).replies id later
    match turn.requestOf? id with
    | none => others
    | some _ => (host.reply turn).toList ++ others

/-- The levels in force when codec calls of a thread reach the library. -/
def levelsFound (params : σ → RawParams) (host : Host σ ι) (id : Nat) :
    List (ProcessTurn ι) → List UInt32
  | [] => []
  | turn :: later =>
    let others := (host.turn turn).levelsFound params id later
    match turn.requestOf? id with
    | none => others
    | some request =>
      if request.reaches then (params host.world.native).level :: others else others

/-- The session of a thread, a new one if it has none yet. -/
def sessionOf (host : Host σ ι) (library : Library σ ι) (id : Nat) : Session σ ι :=
  (host.thread id).session.getD (.new library)

section Serving

variable {library : Library σ ι} {host : Host σ ι}

theorem boundLibrary_of_bound (bound : host.bound = some library) :
    host.boundLibrary = .ok library := by
  simp only [boundLibrary, Host.library, bound]

/-- A codec call on the session of a thread. -/
theorem serve_eq (bound : host.bound = some library) (id : Nat) (dst : Memory)
    (call : Session σ ι → World σ → Served σ ι) :
    let served := call (host.sessionOf library id) host.world
    host.serve id dst call =
      { result :=
          match served.result with
          | .ok n => .ok n.toNat
          | .error e => .error (.codec e)
        output := served.output.memory
        host := { host with world := served.world }.setThread id
          { host.thread id with session := some served.session } } := by
  unfold serve withSession
  rw [boundLibrary_of_bound bound]
  dsimp only [sessionOf]
  generalize call ((host.thread id).session.getD (.new library)) host.world = served
  obtain ⟨e | n, session, output, world⟩ := served
  · rfl
  · rfl

theorem sessionOf_setThread (host : Host σ ι) (library : Library σ ι) (id other : Nat)
    (thread : Thread σ ι) :
    (host.setThread id thread).sessionOf library other =
      if other = id then thread.session.getD (.new library) else host.sessionOf library other := by
  unfold sessionOf
  rw [thread_setThread]
  split
  · rfl
  · rfl

end Serving

end Host

/-! ## A codec call -/

/-- The library's reply to a codec call. -/
def EntryPoints.reply (entries : EntryPoints σ ι) (record : SessionRecord ι)
    (asked : CodecRequest) (native : σ) : CodecReply ι × σ :=
  match asked.operation with
  | .compress => entries.compress record asked.input asked.capacity true native
  | _ => entries.decompress record asked.input asked.capacity native

theorem EntryPoints.LatchesLevel.reply {entries : EntryPoints σ ι} {normal : σ → Prop}
    {params : σ → RawParams} {latched : SessionRecord ι → Option UInt32} {codec : LevelCodec}
    (latches : entries.LatchesLevel normal params latched codec) (record : SessionRecord ι)
    (asked : CodecRequest) {native : σ} (before : normal native) :
    (codec.of asked.operation ((latched record).getD (params native).level) asked.input
        asked.capacity).Answers latched ((latched record).getD (params native).level) record
        (entries.reply record asked native).1 ∧
      normal (entries.reply record asked native).2 := by
  obtain ⟨operation, input, capacity⟩ := asked
  have decompressed := And.intro (latches.decompress record input capacity native before)
    (latches.keeps (.decompress record input capacity) native before)
  cases operation with
  | compress =>
    exact ⟨latches.compress record input capacity native before,
      latches.keeps (.compress record input capacity true) native before⟩
  | _ => exact decompressed

/-- What a codec call of a thread returns, and what it does to the process: it is refused, or the
library is asked. -/
inductive Host.Codes (library : Library σ ι) (host : Host σ ι) (id : Nat)
    (request : FacadeRequest) : Reply → Host σ ι → Prop
  | refused {e : CodecError} {after : Host σ ι} (refusal : request.asked = .error e)
    (bound : after.bound = host.bound) (native : after.world.native = host.world.native)
    (session : ∀ thread, after.sessionOf library thread = host.sessionOf library thread) :
    Codes library host id request (.error (.codec e), some request.dst) after
  | asked {asked : CodecRequest} {answer : CodecReply ι} {after : Host σ ι}
    (asks : request.asked = .ok asked) (bound : after.bound = host.bound)
    (answered : library.entries.reply (host.sessionOf library id).record asked host.world.native =
      (answer, after.world.native))
    (session : ∀ thread, after.sessionOf library thread =
      if thread = id then ⟨library, answer.record⟩ else host.sessionOf library thread) :
    Codes library host id request
      (request.returns asked.operation answer.status answer.reported answer.written) after

namespace Host

variable {library : Library σ ι} {host : Host σ ι}

/-- A request that is refused before leaves the library alone. -/
theorem Codes.idle {id : Nat} {request : FacadeRequest} {reply : Reply} {after : Host σ ι}
    (codes : host.Codes library id request reply after) (silent : request.reaches = false) :
    after.world.native = host.world.native := by
  cases codes with
  | refused _ _ native _ => exact native
  | asked asks =>
    rw [FacadeRequest.reaches, asks] at silent
    nomatch silent

/-- A codec call of a session, with its native call and its name for an output region. -/
theorem codes_serve (bound : host.bound = some library) (id : Nat)
    (on : (host.sessionOf library id).library = library) (operation : Operation) (what : String)
    (input : View) (dst : Memory)
    (call : Session σ ι → World σ → Served σ ι)
    (calls : ∀ session world, session.library = library → call session world =
      match Session.lengths input (.whole dst) what with
      | .error e => ⟨.error e, session, .whole dst, world⟩
      | .ok (_, capacity) => session.accept operation (.whole dst) world
          (library.entries.reply session.record ⟨operation, input.bytes, capacity⟩ world.native)) :
    let answer := host.serve id dst call
    Codes library host id (FacadeCall.requestOf operation what (.ok input) dst)
      (answer.result.map .length, some answer.output) answer.host := by
  rw [serve_eq bound, calls _ _ on]
  cases fits : Session.lengths input (.whole dst) what with
  | error e =>
    refine .refused (by simp only [FacadeCall.requestOf, fits]) rfl rfl fun thread => ?_
    rw [sessionOf_setThread]
    split
    · next same => rw [same, Option.getD_some]
    · rfl
  | ok both =>
    obtain ⟨length, capacity⟩ := both
    dsimp only
    generalize answered : library.entries.reply (host.sessionOf library id).record
      ⟨operation, input.bytes, capacity⟩ host.world.native = answer
    obtain ⟨answer, native⟩ := answer
    have returned : ((match ((host.sessionOf library id).accept operation (.whole dst) host.world
        (answer, native)).result with
          | .ok n => .ok n.toNat
          | .error e => .error (.codec e) : Except OffloadError Nat).map FacadeValue.length,
        some ((View.whole dst).store answer.written).memory) =
        (FacadeCall.requestOf operation what (.ok input) dst).returns operation answer.status
          answer.reported answer.written := by
      simp only [Session.accept, FacadeRequest.returns]
      cases CodecError.ofStatus? operation answer.status with
      | none => rfl
      | some e => rfl
    have asks : (FacadeCall.requestOf operation what (.ok input) dst).asked =
        .ok ⟨operation, input.bytes, capacity⟩ := by
      simp only [FacadeCall.requestOf, fits]
    let session : Session σ ι := { host.sessionOf library id with record := answer.record }
    let world : World σ := { host.world with native }
    have kept : ∀ thread, (({ host with world }).setThread id
        { host.thread id with session := some session }).sessionOf library thread =
        if thread = id then ⟨library, answer.record⟩ else host.sessionOf library thread := by
      intro thread
      rw [sessionOf_setThread]
      split
      · exact congrArg (Session.mk · answer.record) on
      · rfl
    have coded := Codes.asked asks (by rfl) answered kept
    rw [← returned] at coded
    exact coded

/-- A codec call of a thread. -/
theorem codes_perform (bound : host.bound = some library) (id : Nat)
    (on : (host.sessionOf library id).library = library) {call : FacadeCall}
    {request : FacadeRequest} (requested : call.request? = some request) :
    Codes library host id request
      ((call.perform host id).result, (call.perform host id).output)
      (call.perform host id).host := by
  cases call with
  | compress src length dst =>
    obtain rfl := Option.some.inj requested
    change Codes library host id _ ((host.compress id src length dst).result.map .length,
      some (host.compress id src length dst).output) (host.compress id src length dst).host
    unfold Host.compress
    cases View.range src 0 length with
    | error e =>
      change Codes library host id _ (.error (.codec e), some dst) host
      exact .refused rfl rfl rfl fun _ => rfl
    | ok input =>
      refine codes_serve bound id on .compress _ input dst _ fun session world on => ?_
      unfold Session.compress
      rw [on]
      rfl
  | decompress src offset length dst =>
    obtain rfl := Option.some.inj requested
    change Codes library host id _ ((host.decompress id src offset length dst).result.map .length,
      some (host.decompress id src offset length dst).output)
      (host.decompress id src offset length dst).host
    unfold Host.decompress
    cases View.range src offset length with
    | error e =>
      change Codes library host id _ (.error (.codec e), some dst) host
      exact .refused rfl rfl rfl fun _ => rfl
    | ok input =>
      refine codes_serve bound id on .decompress _ input dst _ fun session world on => ?_
      unfold Session.decompress
      rw [on]
      rfl
  | _ => nomatch requested

end Host

/-! ## Turns -/

section Standing

variable {library : Library σ ι} {normal : σ → Prop} {params : σ → RawParams}
  {latched : SessionRecord ι → Option UInt32} {codec : LevelCodec} {level : UInt32}
  {host : Host σ ι}

/-- A process that has bound the library, which is in a normal state. All sessions of threads are on
it. -/
structure Host.Sound (library : Library σ ι) (normal : σ → Prop) (host : Host σ ι) : Prop where
  bound : host.bound = some library
  normal : normal host.world.native
  on : ∀ id, (host.sessionOf library id).library = library

namespace Host

variable (latches : library.entries.LatchesLevel normal params latched codec)
include latches

/-- The calls of the facade that are no codec calls have no part in any session. -/
theorem Sound.perform (sound : host.Sound library normal) (id : Nat) {call : FacadeCall}
    (requested : call.request? = none) :
    (call.perform host id).host.Sound library normal ∧
      (call.perform host id).host.threads = host.threads := by
  have updated : ∀ {α : Type} (act : Library σ ι → Act σ CodecError α),
      (act library).Maintains (fun world => normal world.native) →
      (host.onLibrary act).2.Sound library normal ∧
        (host.onLibrary act).2.threads = host.threads := by
    intro α act maintains
    have after := maintains host.world sound.normal
    unfold onLibrary
    rw [boundLibrary_of_bound sound.bound]
    dsimp only
    generalize (act library).runOn host.world = outcome at after ⊢
    obtain ⟨e | a, world⟩ := outcome
    · exact ⟨⟨sound.bound, after, sound.on⟩, rfl⟩
    · exact ⟨⟨sound.bound, after, sound.on⟩, rfl⟩
  cases call with
  | init =>
    have same : host.bindDefault = (.ok (), host) := by
      simp only [bindDefault, init, initFrom, sound.bound]
    unfold FacadeCall.perform
    rw [same]
    exact ⟨sound, rfl⟩
  | maxCompressedLength length =>
    refine updated (·.maxCompressedLength length) fun world before => ?_
    unfold Library.maxCompressedLength
    rw [Act.runOn_of]
    split
    · exact latches.keeps (.maxCompressedLength _) world.native before
    · exact before
  | allocateAligned capacity alignment granted => exact ⟨sound, rfl⟩
  | setCompressionLevel level =>
    have updates : library.Updates fun world => normal world.native := {
      reads := fun raw world => latches.keeps (.getDefaults raw) world.native
      writes := fun raw world => latches.keeps (.setDefaults raw) world.native
      notes := fun _ _ before => before }
    exact updated (·.setCompressionLevel level)
      (Library.maintains_setCompressionLevel updates level)
  | libraryName => exact ⟨sound, rfl⟩
  | compress => cases requested
  | decompress => cases requested

/-- A codec call on any thread leaves the process sound, and other threads' sessions alone. -/
theorem Sound.codes (sound : host.Sound library normal) {id : Nat} {request : FacadeRequest}
    {reply : Reply} {after : Host σ ι} (codes : host.Codes library id request reply after) :
    after.Sound library normal ∧
      ∀ thread, thread ≠ id → after.sessionOf library thread = host.sessionOf library thread := by
  cases codes with
  | refused _ bound native session =>
    refine ⟨⟨bound.trans sound.bound, native ▸ sound.normal, fun thread => ?_⟩,
      fun thread _ => session thread⟩
    rw [session]
    exact sound.on thread
  | @asked asked _ _ _ bound answered session =>
    have kept := (latches.reply (host.sessionOf library id).record asked sound.normal).2
    rw [answered] at kept
    refine ⟨⟨bound.trans sound.bound, kept, fun thread => ?_⟩, fun thread other => ?_⟩
    · rw [session]
      split
      · rfl
      · exact sound.on thread
    · rw [session, if_neg other]

/-- A turn leaves the process sound. A thread has its session left alone unless the turn is a codec
call of the thread. -/
theorem Sound.turn (sound : host.Sound library normal) (turn : ProcessTurn ι) :
    (host.turn turn).Sound library normal ∧
      ∀ id, turn.requestOf? id = none →
        (host.turn turn).sessionOf library id = host.sessionOf library id := by
  cases turn with
  | elsewhere call =>
    unfold Host.turn
    rw [sound.bound]
    exact ⟨⟨rfl, latches.keeps call host.world.native sound.normal, sound.on⟩, fun _ _ => rfl⟩
  | call thread call =>
    cases requested : call.request? with
    | none =>
      obtain ⟨still, threads⟩ := sound.perform latches thread requested
      refine ⟨still, fun id _ => ?_⟩
      unfold sessionOf Host.thread Host.turn
      rw [threads]
    | some request =>
      have codes := codes_perform sound.bound thread (sound.on thread) requested
      obtain ⟨still, others⟩ := sound.codes latches codes
      refine ⟨still, fun id none => others id fun same => ?_⟩
      subst same
      simp [ProcessTurn.requestOf?, requested] at none

end Host

/-! ## One thread -/

/-- How a thread's session stands that has made these requests, if `level` is in force when the
first of them reaches the library. -/
structure Host.Serves (library : Library σ ι) (normal : σ → Prop)
    (latched : SessionRecord ι → Option UInt32) (codec : LevelCodec) (level : UInt32) (id : Nat)
    (host : Host σ ι) (made : List FacadeRequest) : Prop where
  sound : host.Sound library normal
  latched : latched (host.sessionOf library id).record =
    if made.any (·.reaches) then some level else none
  totalIn : (host.sessionOf library id).record.totalIn = (made.map (·.takenIn codec level)).sum
  totalOut : (host.sessionOf library id).record.totalOut = (made.map (·.givenOut codec level)).sum

namespace Host.Serves

variable {id : Nat} {made : List FacadeRequest}

theorem totals (serves : host.Serves library normal latched codec level id made) :
    (host.sessionOf library id).record.totals =
      ((made.map (·.takenIn codec level)).sum, (made.map (·.givenOut codec level)).sum) := by
  rw [SessionRecord.totals, serves.totalIn, serves.totalOut]

variable (latches : library.entries.LatchesLevel normal params latched codec)
include latches

/-- A codec call of the thread. -/
theorem code (serves : host.Serves library normal latched codec level id made)
    {request : FacadeRequest} {reply : Reply} {after : Host σ ι}
    (codes : host.Codes library id request reply after)
    (first : made.any (·.reaches) = false → request.reaches = true →
      (params host.world.native).level = level) :
    reply = request.comesTo codec level ∧
      after.Serves library normal latched codec level id (made ++ [request]) := by
  have sound := (serves.sound.codes latches codes).1
  cases codes with
  | @refused e _ refusal _ _ session =>
    have silent : request.reaches = false := by rw [FacadeRequest.reaches, refusal]
    have nothing : request.takenIn codec level = 0 := by rw [FacadeRequest.takenIn, refusal]
    have nothing' : request.givenOut codec level = 0 := by rw [FacadeRequest.givenOut, refusal]
    refine ⟨by rw [FacadeRequest.comesTo, refusal], sound, ?_, ?_, ?_⟩
    · rw [session, serves.latched]
      simp [silent]
    · rw [session, serves.totalIn]
      simp [nothing]
    · rw [session, serves.totalOut]
      simp [nothing']
  | @asked asked answer _ asks _ answered session =>
    have reaches : request.reaches = true := by rw [FacadeRequest.reaches, asks]
    have answers := (latches.reply (host.sessionOf library id).record asked
      serves.sound.normal).1
    have same : (latched (host.sessionOf library id).record).getD
        (params host.world.native).level = level := by
      rw [serves.latched]
      cases before : made.any (·.reaches) with
      | false => exact first before reaches
      | true => rfl
    rw [same, answered] at answers
    have counted : request.takenIn codec level =
        (codec.of asked.operation level asked.input asked.capacity).takenIn := by
      rw [FacadeRequest.takenIn, asks]
    have counted' : request.givenOut codec level =
        (codec.of asked.operation level asked.input asked.capacity).givenOut := by
      rw [FacadeRequest.givenOut, asks]
    refine ⟨?_, sound, ?_, ?_, ?_⟩
    · rw [FacadeRequest.comesTo, asks]
      dsimp only at answers ⊢
      rw [answers.status, answers.reported, answers.written]
    · rw [session, if_pos rfl, answers.latched]
      simp [reaches]
    · rw [session, if_pos rfl, answers.totalIn, serves.totalIn, ← counted]
      simp
    · rw [session, if_pos rfl, answers.totalOut, serves.totalOut, ← counted']
      simp

end Host.Serves

theorem ProcessTurn.of_requestOf {id : Nat} {turn : ProcessTurn ι} {request : FacadeRequest}
    (requested : turn.requestOf? id = some request) :
    ∃ made, turn = .call id made ∧ made.request? = some request := by
  cases turn with
  | elsewhere => nomatch requested
  | call thread made =>
    change (if thread = id then made.request? else none) = some request at requested
    by_cases same : thread = id
    · rw [if_pos same] at requested
      exact ⟨made, by rw [same], requested⟩
    · rw [if_neg same] at requested
      nomatch requested

/-- The requests that a thread makes in a run. -/
def requestsOf (id : Nat) (turns : List (ProcessTurn ι)) : List FacadeRequest :=
  turns.filterMap (·.requestOf? id)

/-- What a thread gets in a run is what its own requests come to at the level in force when the
first of them reaches the library. -/
theorem Host.Serves.run (latches : library.entries.LatchesLevel normal params latched codec)
    {id : Nat} {made : List FacadeRequest}
    (serves : host.Serves library normal latched codec level id made)
    (turns : List (ProcessTurn ι))
    (first : made.any (·.reaches) = false →
      ∀ found ∈ (host.levelsFound params id turns).head?, found = level) :
    host.replies id turns = (requestsOf id turns).map (·.comesTo codec level) ∧
      (host.after turns).Serves library normal latched codec level id
        (made ++ requestsOf id turns) := by
  induction turns generalizing host made with
  | nil => exact ⟨rfl, by rwa [requestsOf, List.filterMap_nil, List.append_nil]⟩
  | cons turn turns ih =>
    obtain ⟨sound, apart⟩ := serves.sound.turn latches turn
    unfold Host.replies
    unfold Host.levelsFound at first
    cases requested : turn.requestOf? id with
    | none =>
      rw [requested] at first
      have same := apart id requested
      have still : (host.turn turn).Serves library normal latched codec level id made :=
        ⟨sound, same ▸ serves.latched, same ▸ serves.totalIn, same ▸ serves.totalOut⟩
      obtain ⟨replies, last⟩ := ih still first
      have rest : requestsOf id (turn :: turns) = requestsOf id turns :=
        List.filterMap_cons_none requested
      rw [rest]
      exact ⟨replies, last⟩
    | some request =>
      rw [requested] at first
      dsimp only at first
      obtain ⟨call, rfl, asks⟩ := ProcessTurn.of_requestOf requested
      have codes := codes_perform serves.sound.bound id (serves.sound.on id) asks
      have level_here : made.any (·.reaches) = false → request.reaches = true →
          (params host.world.native).level = level := by
        intro before reaches
        refine first before _ ?_
        simp [reaches]
      obtain ⟨replied, still⟩ := serves.code latches codes level_here
      have later : (made ++ [request]).any (·.reaches) = false →
          ∀ found ∈ ((host.turn (.call id call)).levelsFound params id turns).head?,
            found = level := by
        intro before
        obtain ⟨before, silent⟩ : made.any (·.reaches) = false ∧ request.reaches = false := by
          simpa using before
        rw [silent, if_neg Bool.false_ne_true] at first
        exact first before
      obtain ⟨replies, last⟩ := ih still later
      have rest : requestsOf id (.call id call :: turns) = request :: requestsOf id turns :=
        List.filterMap_cons_some requested
      rw [rest]
      refine ⟨?_, ?_⟩
      · rw [List.map_cons, ← replied, ← replies]
        rfl
      · rw [List.append_cons]
        exact last

/-- The turns that are codec calls of a thread. -/
def ownTurns (id : Nat) (turns : List (ProcessTurn ι)) : List (ProcessTurn ι) :=
  turns.filter fun turn => (turn.requestOf? id).isSome

theorem requestsOf_ownTurns (id : Nat) (turns : List (ProcessTurn ι)) :
    requestsOf id (ownTurns id turns) = requestsOf id turns := by
  unfold requestsOf ownTurns
  rw [List.filterMap_filter]
  congr 1
  funext turn
  cases turn.requestOf? id with
  | none => rfl
  | some request => rfl

namespace Host

/-- A thread that is alone finds the level that is there when it starts. -/
theorem levelsFound_alone (latches : library.entries.LatchesLevel normal params latched codec)
    (sound : host.Sound library normal) {id : Nat} {turns : List (ProcessTurn ι)}
    (own : ∀ turn ∈ turns, (turn.requestOf? id).isSome = true) :
    ∀ found ∈ (host.levelsFound params id turns).head?,
      found = (params host.world.native).level := by
  induction turns generalizing host with
  | nil => nofun
  | cons turn turns ih =>
    obtain ⟨request, requested⟩ := Option.isSome_iff_exists.1 (own turn (List.mem_cons_self ..))
    obtain ⟨call, rfl, asks⟩ := ProcessTurn.of_requestOf requested
    have codes := codes_perform sound.bound id (sound.on id) asks
    unfold levelsFound
    rw [requested]
    dsimp only
    by_cases reaches : request.reaches = true
    · rw [if_pos reaches]
      exact fun found here => (Option.some.inj here).symm
    · rw [if_neg reaches, ← codes.idle (Bool.eq_false_iff.2 reaches)]
      exact ih (sound.codes latches codes).1 fun turn member =>
        own turn (List.mem_cons_of_mem _ member)

/-- A thread that has no session yet. -/
theorem Sound.fresh (latches : library.entries.LatchesLevel normal params latched codec)
    (sound : host.Sound library normal) {id : Nat} (new : (host.thread id).session = none) :
    host.Serves library normal latched codec level id [] := by
  have record : (host.sessionOf library id).record = {} := by rw [sessionOf, new]; rfl
  exact ⟨sound, by rw [record]; exact latches.fresh, by rw [record]; rfl, by rw [record]; rfl⟩

/-- A thread's codec calls in a run come to what they come to at a level, and to what they come to
in a process where the thread is alone. The totals of its session are the same there, and the sums
over its calls. -/
structure Apart (library : Library σ ι) (codec : LevelCodec) (level : UInt32) (id : Nat)
    (turns : List (ProcessTurn ι)) (host alone : Host σ ι) : Prop where
  coded : host.replies id turns = (requestsOf id turns).map (·.comesTo codec level)
  same : host.replies id turns = alone.replies id (ownTurns id turns)
  totals : ((host.after turns).sessionOf library id).record.totals =
    (((requestsOf id turns).map (·.takenIn codec level)).sum,
      ((requestsOf id turns).map (·.givenOut codec level)).sum)
  sameTotals : ((host.after turns).sessionOf library id).record.totals =
    ((alone.after (ownTurns id turns)).sessionOf library id).record.totals

/-- A thread is apart from all others, at the level that its first codec call to reach the library
finds in force. -/
theorem apart (latches : library.entries.LatchesLevel normal params latched codec)
    {alone : Host σ ι} (sound : host.Sound library normal) (sound' : alone.Sound library normal)
    {id : Nat} (new : (host.thread id).session = none) (new' : (alone.thread id).session = none)
    (turns : List (ProcessTurn ι))
    (first : ∀ found ∈ (host.levelsFound params id turns).head?,
      found = (params alone.world.native).level) :
    Apart library codec (params alone.world.native).level id turns host alone := by
  have own : ∀ turn ∈ ownTurns id turns, (turn.requestOf? id).isSome = true :=
    fun turn member => (List.mem_filter.1 member).2
  obtain ⟨replies, last⟩ := (sound.fresh latches new).run latches turns fun _ => first
  obtain ⟨replies', last'⟩ := (sound'.fresh latches new').run latches (ownTurns id turns)
    fun _ => levelsFound_alone latches sound' own
  rw [requestsOf_ownTurns] at replies' last'
  have totals := last.totals
  have totals' := last'.totals
  rw [List.nil_append] at totals totals'
  exact ⟨replies, replies.trans replies'.symm, totals, totals.trans totals'.symm⟩

end Host

end Standing

end OffloadCodec

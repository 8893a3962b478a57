import OffloadCodec.Proofs.Levels.Turns

/-!
# What a user does with a library

A `Use` makes a session, a writer or a reader, makes calls with it and may end it. Its `Account` is
all that comes back: the results of the calls with what they return, the sink of a writer, and the
totals of the session unless it went with a writer.

On libraries that look alike a use has the same account (`Use.run_alike`). On a library that is
shared the user's session stands as it should when the use is over, with the totals of the account
(`Use.run_serves`).
-/

namespace OffloadCodec

variable {σ ι τ κ : Type}

/-! ## Calls -/

inductive SessionCall
  | compress (input output : View)
  | decompress (input output : View)
  | compressBytes (input : Bytes)
  /-- Into a new buffer of `max` bytes, if there can be one. -/
  | decompressBytes (input : Bytes) (max : Nat)

inductive ReaderCall
  | read (n : Nat)
  | readExact (n : Nat)
  | readToEnd

/-- What comes back from making an object, from a call, or from the end of a writer. -/
inductive Returned
  | refused (failure : StreamFailure)
  | served (result : Except CodecError UInt32) (output : View)
  | produced (result : Except CodecError Bytes)
  | written (result : Except StreamFailure (Option Nat))
  | read (result : Except StreamFailure Bytes)
  | readOut (bytes : Bytes) (result : Except StreamFailure Unit)
  | ended (result : Except StreamFailure Unit)
  /-- Nothing: a call on a session has stopped the program. -/
  | stopped

/-- Makes a call. -/
def Session.perform (session : Session σ ι) (call : SessionCall) (world : World σ) :
    Returned × Session σ ι × World σ :=
  match call with
  | .compress input output =>
    let served := session.compress input output world
    (.served served.result served.output, served.session, served.world)
  | .decompress input output =>
    let served := session.decompress input output world
    (.served served.result served.output, served.session, served.world)
  | .compressBytes input =>
    let produced := session.compressBytes input world
    (.produced produced.result, produced.session, produced.world)
  | .decompressBytes input max =>
    match session.decompressBytes? input max world with
    | some produced => (.produced produced.result, produced.session, produced.world)
    | none => (.stopped, session, world)

/-- Whatever a session is asked for, it makes calls and stays with its library. -/
theorem Session.perform_continues (session : Session σ ι) (call : SessionCall) (world : World σ) :
    ∃ refused, session.Continues world refused (session.perform call world).2.1
      (session.perform call world).2.2 := by
  cases call with
  | compress input output =>
    obtain ⟨refused, continues, -⟩ := session.compress_continues input output world
    exact ⟨refused, continues⟩
  | decompress input output =>
    obtain ⟨refused, continues, -⟩ := session.decompress_continues input output world
    exact ⟨refused, continues⟩
  | compressBytes input =>
    obtain ⟨refused, continues, -⟩ := session.compressBytes_continues input world
    exact ⟨refused, continues⟩
  | decompressBytes input max =>
    unfold perform decompressBytes?
    by_cases possible : max ≤ maxObjectSize
    · simp only [if_pos possible]
      obtain ⟨refused, continues, -⟩ := session.decompressBytes_continues input max world
      exact ⟨refused, continues⟩
    · simp only [if_neg possible]
      exact ⟨none, .idle session world⟩

/-- Makes a call. -/
def BlockReader.perform (reader : BlockReader σ ι) (call : ReaderCall) (world : World σ) :
    Returned × BlockReader σ ι × World σ :=
  match call with
  | .read n =>
    let (result, next) := reader.read n world
    (.read result, next)
  | .readExact n =>
    let (result, next) := reader.readExact n world
    (.read result, next)
  | .readToEnd =>
    let (bytes, result, next) := reader.readToEnd world
    (.readOut bytes result, next)

/-- Makes calls one after the other, whether they succeed or not. -/
def callAll {α γ ρ : Type} (perform : α → γ → World σ → ρ × α × World σ) (object : α) :
    List γ → World σ → List ρ × α × World σ
  | [], world => ([], object, world)
  | call :: calls, world =>
    match perform object call world with
    | (returned, object, world) =>
      match callAll perform object calls world with
      | (others, last) => (returned :: others, last)

/-- Calls that all keep what holds of an object and the world. -/
theorem callAll_keeps {α γ ρ : Type} {perform : α → γ → World σ → ρ × α × World σ}
    {kept : α → World σ → Prop}
    (step : ∀ object call world, kept object world →
      kept (perform object call world).2.1 (perform object call world).2.2)
    {object : α} {world : World σ} (before : kept object world) (calls : List γ) :
    kept (callAll perform object calls world).2.1 (callAll perform object calls world).2.2 := by
  induction calls generalizing object world with
  | nil => exact before
  | cons call calls ih =>
    unfold callAll
    exact ih (step object call world before)

/-- What each call returns is related to it if all keep what that takes. -/
theorem callAll_forall₂ {α γ ρ : Type} {perform : α → γ → World σ → ρ × α × World σ}
    {kept : α → World σ → Prop} {related : γ → ρ → Prop}
    (step : ∀ object call world, kept object world →
      related call (perform object call world).1 ∧
        kept (perform object call world).2.1 (perform object call world).2.2)
    {object : α} {world : World σ} (before : kept object world) (calls : List γ) :
    List.Forall₂ related calls (callAll perform object calls world).1 := by
  induction calls generalizing object world with
  | nil => exact .nil
  | cons call calls ih =>
    unfold callAll
    obtain ⟨here, after⟩ := step object call world before
    exact .cons here (ih after)

/-- Calls that all return the same return the same together. -/
theorem SameOutcome.callAll {α β γ ρ : Type} {perform : α → γ → World σ → ρ × α × World σ}
    {perform' : β → γ → World τ → ρ × β × World τ} {related : α → World σ → β → World τ → Prop}
    (step : ∀ a call world b world', related a world b world' →
      SameOutcome related (perform a call world) (perform' b call world'))
    {a : α} {world : World σ} {b : β} {world' : World τ} (before : related a world b world')
    (calls : List γ) :
    SameOutcome related (OffloadCodec.callAll perform a calls world)
      (OffloadCodec.callAll perform' b calls world') := by
  induction calls generalizing a world b world' with
  | nil => exact .of _ before
  | cons call calls ih =>
    unfold OffloadCodec.callAll
    have same := step a call world b world' before
    generalize perform a call world = outcome, perform' b call world' = outcome' at same ⊢
    obtain @⟨next, later, next', later', returned, still⟩ := same
    have rest := ih still
    dsimp only
    generalize OffloadCodec.callAll perform next calls later = outcome,
      OffloadCodec.callAll perform' next' calls later' = outcome' at rest ⊢
    obtain ⟨others, last⟩ := rest
    exact .of _ last

/-! ## Uses -/

inductive Use
  | session (calls : List SessionCall) (ends : Bool)
  | writer (sink : Sink) (options : StreamOptions) (calls : List WriterCall)
    (ending : Option WriterEnd)
  | reader (source : Source) (options : StreamOptions) (calls : List ReaderCall) (ends : Bool)

/-- What comes of a use. -/
structure Account where
  returned : List Returned
  sink : Option Sink := none
  totals : Option (UInt64 × UInt64) := none

/-- A use of a library: its account, and the world afterwards. -/
def Use.run (library : Library σ ι) (world : World σ) : Use → Account × World σ
  | .session calls ends =>
    let (returned, last, world) := callAll Session.perform (Session.new library) calls world
    ({ returned, totals := last.record.totals }, if ends then last.close world else world)
  | .writer sink options calls ending =>
    match (BlockWriter.create library sink options).runOn world with
    | (.error e, world) => ({ returned := [.refused e] }, world)
    | (.ok made, world) =>
      let (answers, last, world) := callAll BlockWriter.perform made calls world
      match ending with
      | none =>
        ({ returned := answers.map .written, sink := last.sink
           totals := last.session.record.totals }, world)
      | some ending =>
        let (closed, world) := last.endWith ending world
        ({ returned := answers.map .written ++ [.ended closed.result], sink := closed.sink }, world)
  | .reader source options calls ends =>
    match (BlockReader.create library source options).runOn world with
    | (.error e, world) => ({ returned := [.refused e] }, world)
    | (.ok made, world) =>
      let (returned, last, world) := callAll BlockReader.perform made calls world
      ({ returned, totals := last.session.record.totals },
        if ends then last.close world else world)

/-! ## Libraries that look alike -/

section Alike

variable {library : Library σ ι} {library' : Library τ κ} {alike : library.Likeness library'}

namespace Session

variable {session : Session σ ι} {world : World σ} {session' : Session τ κ} {world' : World τ}

theorem ServedAlike.same {operation : Operation} {output : View} {served : Served σ ι}
    {served' : Served τ κ} (same : ServedAlike alike operation output output served served') :
    SameOutcome (Session.Like alike)
      (Returned.served served.result served.output, served.session, served.world)
      (Returned.served served'.result served'.output, served'.session, served'.world) := by
  rw [same.result, same.output.same]
  exact .of _ same.still

theorem ProducedAlike.same {produced : Produced σ ι} {produced' : Produced τ κ}
    (same : ProducedAlike alike produced produced') :
    SameOutcome (Session.Like alike)
      (Returned.produced produced.result, produced.session, produced.world)
      (Returned.produced produced'.result, produced'.session, produced'.world) := by
  rw [same.result]
  exact .of _ same.still

theorem Like.perform (like : session.Like alike world session' world') (call : SessionCall) :
    SameOutcome (Session.Like alike) (session.perform call world)
      (session'.perform call world') := by
  cases call with
  | compress input output => exact (like.compress input rfl).same
  | decompress input output => exact (like.decompress input rfl).same
  | compressBytes input => exact (like.compressBytes input).same
  | decompressBytes input max =>
    unfold Session.perform Session.decompressBytes?
    by_cases possible : max ≤ maxObjectSize
    · simp only [if_pos possible]
      exact (like.decompressBytes input max).same
    · simp only [if_neg possible]
      exact .of _ like

end Session

namespace BlockReader

variable {reader : BlockReader σ ι} {world : World σ} {reader' : BlockReader τ κ} {world' : World τ}

theorem Like.perform (like : reader.Like alike world reader' world') (call : ReaderCall) :
    SameOutcome (BlockReader.Like alike) (reader.perform call world)
      (reader'.perform call world') := by
  cases call with
  | read n =>
    have same := like.read n
    unfold BlockReader.perform
    dsimp only
    generalize reader.read n world = outcome, reader'.read n world' = outcome' at same ⊢
    obtain ⟨result, still⟩ := same
    exact .of _ still
  | readExact n =>
    have same := like.readExact n
    unfold BlockReader.perform
    dsimp only
    generalize reader.readExact n world = outcome, reader'.readExact n world' = outcome' at same ⊢
    obtain ⟨result, still⟩ := same
    exact .of _ still
  | readToEnd =>
    have same := like.readToEnd
    unfold BlockReader.perform
    dsimp only
    generalize reader.readToEnd world = outcome, reader'.readToEnd world' = outcome' at same ⊢
    obtain ⟨bytes, outcome⟩ := outcome
    obtain ⟨bytes', outcome'⟩ := outcome'
    obtain ⟨rfl : bytes = bytes', same⟩ := same
    obtain ⟨result, still⟩ : SameOutcome _ outcome outcome' := same
    exact .of _ still

end BlockReader

namespace Use

/-- On libraries that look alike a use has the same account. -/
theorem run_alike (allocates : alike.Allocates) {gone : World σ → World τ → Prop}
    (closes : alike.Closes gone) {world : World σ} {world' : World τ}
    (fresh : alike.Fresh world world') (use : Use) :
    SameEnd gone (use.run library world) (use.run library' world') := by
  cases use with
  | session calls ends =>
    have like : (Session.new library).Like alike world (.new library') world' := ⟨rfl, rfl, fresh⟩
    have same := SameOutcome.callAll (fun _ call _ _ _ like => like.perform call) like calls
    unfold Use.run
    dsimp only
    generalize callAll Session.perform (Session.new library) calls world = outcome,
      callAll Session.perform (Session.new library') calls world' = outcome' at same ⊢
    obtain ⟨returned, still⟩ := same
    dsimp only
    rw [alike.totals still.like]
    cases ends with
    | false => exact .of _ (closes.stopped still.like)
    | true => exact .of _ (still.close closes)
  | writer sink options calls ending =>
    have made := closes.makeAlike_writer allocates sink options world world' fresh
    unfold Use.run
    dsimp only
    generalize (BlockWriter.create library sink options).runOn world = outcome,
      (BlockWriter.create library' sink options).runOn world' = outcome' at made ⊢
    cases made with
    | error e left => exact .of _ left
    | @ok writer opened writer' opened' made still =>
      have same := SameOutcome.callAll (fun _ call _ _ _ like => like.perform call)
        (made _ _ still) calls
      dsimp only
      generalize callAll BlockWriter.perform writer calls opened = outcome,
        callAll BlockWriter.perform writer' calls opened' = outcome' at same ⊢
      obtain @⟨last, later, last', later', answers, still⟩ := same
      cases ending with
      | none =>
        dsimp only
        rw [alike.totals still.frames.session.like, still.frames.sink]
        exact .of _ (closes.stopped still.frames.session.like)
      | some ending =>
        have ended := still.endWith closes ending
        dsimp only
        generalize last.endWith ending later = outcome,
          last'.endWith ending later' = outcome' at ended ⊢
        obtain ⟨closed, left⟩ := ended
        exact .of _ left
  | reader source options calls ends =>
    have made := closes.makeAlike_reader allocates source options world world' fresh
    unfold Use.run
    dsimp only
    generalize (BlockReader.create library source options).runOn world = outcome,
      (BlockReader.create library' source options).runOn world' = outcome' at made ⊢
    cases made with
    | error e left => exact .of _ left
    | @ok reader opened reader' opened' made still =>
      have same := SameOutcome.callAll (fun _ call _ _ _ like => like.perform call)
        (made _ _ still) calls
      dsimp only
      generalize callAll BlockReader.perform reader calls opened = outcome,
        callAll BlockReader.perform reader' calls opened' = outcome' at same ⊢
      obtain ⟨returned, still⟩ := same
      dsimp only
      rw [alike.totals still.session.like]
      cases ends with
      | false => exact .of _ (closes.stopped still.session.like)
      | true => exact .of _ (still.close closes)

end Use

end Alike

/-! ## A library that is shared -/

/-- A new writer has a new session. -/
theorem BlockWriter.session_create {library : Library σ ι} {sink : Sink} {options : StreamOptions}
    {world opened : World σ} {writer : BlockWriter σ ι}
    (created : (BlockWriter.create library sink options).runOn world = (.ok writer, opened)) :
    writer.session = .new library := by
  obtain ⟨-, -, on, -, state⟩ := BlockWriter.create_ok created
  have record : writer.session.record = {} := congrArg CodecState.record state
  calc writer.session = ⟨writer.session.library, writer.session.record⟩ := rfl
    _ = .new library := by rw [on, record, Session.new]

section Shared

variable {library : Library σ ι} {normal : σ → Prop} {params : σ → RawParams}
  {latched : SessionRecord ι → Option UInt32} {codec : LevelCodec} {level : UInt32}

/-- The session of a user of the library stands as it should. -/
structure Session.Standing (library : Library σ ι) (normal : σ → Prop) (params : σ → RawParams)
    (latched : SessionRecord ι → Option UInt32) (codec : LevelCodec) (level : UInt32)
    (session : Session (Turns σ ι) ι) (world : World (Turns σ ι)) : Prop where
  on : session.library = library.shared
  serves : world.native.Serves library.entries normal params latched codec level session.record

variable (latches : library.entries.LatchesLevel normal params latched codec)
  {world later : World (Turns σ ι)}
include latches

omit latches in
theorem Session.Standing.new {session : Session (Turns σ ι) ι}
    (new : session = .new library.shared)
    (fresh : world.native.Serves library.entries normal params latched codec level {}) :
    session.Standing library normal params latched codec level world := by
  rw [new]
  exact ⟨rfl, fresh⟩

theorem Session.Continues.standing {session next : Session (Turns σ ι) ι}
    {refused : Option CodecError} (continues : session.Continues world refused next later)
    (standing : session.Standing library normal params latched codec level world) :
    next.Standing library normal params latched codec level later := by
  have trail := continues.trail
  rw [standing.on] at trail
  exact ⟨continues.library.trans standing.on, trail.serves_shared latches standing.serves⟩

theorem Session.Standing.perform {session : Session (Turns σ ι) ι}
    (standing : session.Standing library normal params latched codec level world)
    (call : SessionCall) :
    (session.perform call world).2.1.Standing library normal params latched codec level
      (session.perform call world).2.2 := by
  obtain ⟨_, continues⟩ := session.perform_continues call world
  exact continues.standing latches standing

theorem BlockWriter.perform_standing {writer : BlockWriter (Turns σ ι) ι}
    (standing : writer.session.Standing library normal params latched codec level world)
    (call : WriterCall) :
    (writer.perform call world).2.1.session.Standing library normal params latched codec level
      (writer.perform call world).2.2 := by
  obtain ⟨_, works, -⟩ := writer.perform_serves call world
  exact works.session.standing latches standing

theorem BlockWriter.callAll_standing {writer : BlockWriter (Turns σ ι) ι}
    (standing : writer.session.Standing library normal params latched codec level world)
    (calls : List WriterCall) :
    let after := callAll BlockWriter.perform writer calls world
    after.2.1.session.Standing library normal params latched codec level after.2.2 := by
  let kept (writer : BlockWriter (Turns σ ι) ι) (world : World (Turns σ ι)) :=
    writer.session.Standing library normal params latched codec level world
  have step : ∀ writer call world, kept writer world →
      kept (BlockWriter.perform writer call world).2.1
        (BlockWriter.perform writer call world).2.2 :=
    fun _ call _ standing => perform_standing latches standing call
  exact callAll_keeps step standing calls

theorem BlockReader.perform_standing {reader : BlockReader (Turns σ ι) ι}
    (standing : reader.session.Standing library normal params latched codec level world)
    (call : ReaderCall) :
    (reader.perform call world).2.1.session.Standing library normal params latched codec level
      (reader.perform call world).2.2 := by
  cases call with
  | read n =>
    obtain ⟨_, works, -⟩ := reader.read_serves n world
    exact works.session.standing latches standing
  | readExact n =>
    obtain ⟨_, works, -⟩ := reader.readExact_serves n world
    exact works.session.standing latches standing
  | readToEnd =>
    obtain ⟨_, works, -⟩ := reader.readToEnd_serves world
    exact works.session.standing latches standing

theorem BlockReader.callAll_standing {reader : BlockReader (Turns σ ι) ι}
    (standing : reader.session.Standing library normal params latched codec level world)
    (calls : List ReaderCall) :
    let after := callAll BlockReader.perform reader calls world
    after.2.1.session.Standing library normal params latched codec level after.2.2 := by
  let kept (reader : BlockReader (Turns σ ι) ι) (world : World (Turns σ ι)) :=
    reader.session.Standing library normal params latched codec level world
  have step : ∀ reader call world, kept reader world →
      kept (BlockReader.perform reader call world).2.1
        (BlockReader.perform reader call world).2.2 :=
    fun _ call _ standing => perform_standing latches standing call
  exact callAll_keeps step standing calls

omit latches in
/-- Ending a session leaves what was coded for it. -/
theorem Session.Standing.closes {session : Session (Turns σ ι) ι}
    (standing : session.Standing library normal params latched codec level world) :
    session.library.Closes fun world =>
      world.native.Serves library.entries normal params latched codec level session.record := by
  rw [standing.on]
  exact Library.shared_closes fun _ _ isCodec _ serves => serves.pass isCodec

/-- A writer that is gone has made its calls before. -/
theorem BlockWriter.Gone.serves {writer : BlockWriter (Turns σ ι) ι} {refused : Option CodecError}
    {outcome : Closed × World (Turns σ ι)} (gone : writer.Gone world refused outcome)
    (standing : writer.session.Standing library normal params latched codec level world) :
    ∃ record, outcome.2.native.Serves library.entries normal params latched codec level record := by
  obtain ⟨last, middle, works, ended⟩ := gone
  have after := works.session.standing latches standing
  rcases ended with ⟨-, rfl, -⟩ | same
  · exact ⟨_, after.serves⟩
  · rw [same]
    exact ⟨_, last.kept_close after.closes after.serves⟩

theorem BlockWriter.endWith_serves {writer : BlockWriter (Turns σ ι) ι}
    (standing : writer.session.Standing library normal params latched codec level world)
    (ending : WriterEnd) :
    ∃ record, (writer.endWith ending world).2.native.Serves library.entries normal params latched
      codec level record := by
  cases ending with
  | finish =>
    obtain ⟨_, gone, -⟩ := writer.finish_gone world
    exact gone.serves latches standing
  | drop =>
    obtain ⟨_, gone⟩ := writer.discard_gone world
    exact gone.serves latches standing

/-- However a use goes, the user's session stands as it should afterwards, and the totals that come
of it are the session's. -/
theorem Use.run_serves
    (fresh : world.native.Serves library.entries normal params latched codec level {}) (use : Use) :
    ∃ record, (use.run library.shared world).2.native.Serves library.entries normal params latched
        codec level record ∧
      ∀ totals ∈ (use.run library.shared world).1.totals, totals = record.totals := by
  have obtains : library.shared.Obtains fun world =>
      world.native.Serves library.entries normal params latched codec level {} :=
    Library.shared_obtains fun _ _ isCodec _ serves => serves.pass isCodec
  cases use with
  | session calls ends =>
    have new : (Session.new library.shared).Standing library normal params latched codec level
        world := .new rfl fresh
    have standing := callAll_keeps (fun _ call _ standing => standing.perform latches call) new
      calls
    unfold Use.run
    dsimp only
    generalize callAll Session.perform (Session.new library.shared) calls world = outcome
      at standing ⊢
    obtain ⟨returned, last, later⟩ := outcome
    refine ⟨last.record, ?_, fun totals came => (Option.some.inj came).symm⟩
    cases ends with
    | false => exact standing.serves
    | true => exact last.kept_close standing.closes standing.serves
  | writer sink options calls ending =>
    have made := BlockWriter.maintains_create obtains sink options world fresh
    unfold Use.run
    dsimp only
    rcases created : (BlockWriter.create library.shared sink options).runOn world with
      ⟨e | writer, opened⟩
    · rw [created] at made
      exact ⟨{}, made, nofun⟩
    · rw [created] at made
      have new := Session.Standing.new (BlockWriter.session_create created) made
      have standing := BlockWriter.callAll_standing latches new calls
      dsimp only
      generalize callAll BlockWriter.perform writer calls opened = outcome at standing ⊢
      obtain ⟨answers, last, later⟩ := outcome
      cases ending with
      | none =>
        exact ⟨_, standing.serves, fun totals came => (Option.some.inj came).symm⟩
      | some ending =>
        obtain ⟨record, serves⟩ := BlockWriter.endWith_serves latches standing ending
        exact ⟨record, serves, nofun⟩
  | reader source options calls ends =>
    have made := BlockReader.maintains_create obtains source options world fresh
    unfold Use.run
    dsimp only
    rcases created : (BlockReader.create library.shared source options).runOn world with
      ⟨e | reader, opened⟩
    · rw [created] at made
      exact ⟨{}, made, nofun⟩
    · rw [created] at made
      obtain ⟨-, -, new, -⟩ := BlockReader.create_ok created
      have standing := BlockReader.callAll_standing latches (Session.Standing.new new made) calls
      dsimp only
      generalize callAll BlockReader.perform reader calls opened = outcome at standing ⊢
      obtain ⟨returned, last, later⟩ := outcome
      refine ⟨last.session.record, ?_, fun totals came => (Option.some.inj came).symm⟩
      cases ends with
      | false => exact standing.serves
      | true => exact last.kept_close standing.closes standing.serves

end Shared

end OffloadCodec

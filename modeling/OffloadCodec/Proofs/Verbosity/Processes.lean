import OffloadCodec.Proofs.Process.CInterface
import OffloadCodec.Proofs.Verbosity.Operations

/-!
# Processes that differ in their consoles

Processes are `Host.Alike` if their worlds are the same but for the consoles and all else is the same.
Binding a library, the calls of the facade and those of the C interface have the same answers in both
and leave such processes behind. So do calls on the session of a thread, the end of all threads, and
a check of the library.
-/

namespace OffloadCodec

variable {σ ι : Type}

/-- Processes with related worlds that are the same otherwise. -/
structure Host.Alike (alike : World σ → World σ → Prop) (host host' : Host σ ι) : Prop where
  world : alike host.world host'.world
  loader : host.loader = host'.loader
  bound : host.bound = host'.bound
  threads : host.threads = host'.threads

variable {alike : World σ → World σ → Prop} {host host' : Host σ ι}

namespace Host.Alike

/-- The parts of two processes. -/
theorem split (like : host.Alike alike host') :
    ∃ world world' loader bound threads, host = ⟨world, loader, bound, threads⟩ ∧
      host' = ⟨world', loader, bound, threads⟩ ∧ alike world world' := by
  obtain ⟨world, loader, bound, threads⟩ := host
  obtain ⟨world', loader', bound', threads'⟩ := host'
  obtain ⟨like, rfl, rfl, rfl⟩ := like
  exact ⟨world, world', _, _, _, rfl, rfl, like⟩

/-- The relation the other way round. -/
theorem flip (like : host.Alike alike host') :
    host'.Alike (fun world world' => alike world' world) host :=
  ⟨like.world, like.loader.symm, like.bound.symm, like.threads.symm⟩

theorem setThread (like : host.Alike alike host') (id : Nat) (thread : Thread σ ι) :
    (host.setThread id thread).Alike alike (host'.setThread id thread) := by
  obtain ⟨_, _, _, _, _, rfl, rfl, worlds⟩ := like.split
  exact ⟨worlds, rfl, rfl, rfl⟩

theorem thread (like : host.Alike alike host') (id : Nat) : host.thread id = host'.thread id := by
  unfold Host.thread
  rw [like.threads]

theorem library (like : host.Alike alike host') : host.library = host'.library := by
  unfold Host.library
  rw [like.bound]

theorem boundLibrary (like : host.Alike alike host') :
    host.boundLibrary = host'.boundLibrary := by
  unfold Host.boundLibrary
  rw [like.library]

/-- The processes after what leaves their worlds related. -/
theorem within (like : host.Alike alike host') {ρ : Type} {outcome outcome' : ρ × World σ}
    (same : SameEnd alike outcome outcome') :
    SameEnd (Host.Alike alike) (outcome.1, { host with world := outcome.2 })
      (outcome'.1, { host' with world := outcome'.2 }) := by
  obtain ⟨_, _, _, _, _, rfl, rfl, -⟩ := like.split
  obtain ⟨result, left⟩ := same
  exact .of _ ⟨left, rfl, rfl, rfl⟩

theorem install (like : host.Alike alike host') (brought : Library σ ι) :
    SameEnd (Host.Alike alike) (host.install brought) (host'.install brought) := by
  obtain ⟨_, _, _, bound, _, rfl, rfl, worlds⟩ := like.split
  unfold Host.install
  cases bound with
  | some library => exact .of _ ⟨worlds, rfl, rfl, rfl⟩
  | none => exact .of _ ⟨worlds, rfl, rfl, rfl⟩

section Binding

variable (only : World.ConsoleOnly alike)
include only

theorem initFrom (like : host.Alike alike host') (name : String) :
    SameEnd (Host.Alike alike) (host.initFrom name) (host'.initFrom name) := by
  obtain ⟨world, world', loader, bound, _, rfl, rfl, worlds⟩ := like.split
  unfold Host.initFrom
  cases bound with
  | some library => exact .of _ ⟨worlds, rfl, rfl, rfl⟩
  | none =>
    have same := (Library.indifferent_openWith only loader name).same worlds
    dsimp only
    generalize (Library.openWith loader name).runOn world = outcome,
      (Library.openWith loader name).runOn world' = outcome' at same ⊢
    obtain ⟨result, left⟩ := same
    cases result with
    | error e => exact .of _ ⟨left, rfl, rfl, rfl⟩
    | ok library => exact .of _ ⟨left, rfl, rfl, rfl⟩

theorem init (like : host.Alike alike host') :
    SameEnd (Host.Alike alike) host.init host'.init := by
  unfold Host.init
  rw [← only.environment like.world]
  exact like.initFrom only _

theorem bindDefault (like : host.Alike alike host') :
    SameEnd (Host.Alike alike) host.bindDefault host'.bindDefault := by
  have same := like.init only
  unfold Host.bindDefault
  generalize host.init = outcome, host'.init = outcome' at same ⊢
  obtain ⟨result, still⟩ := same
  cases result with
  | ok library => exact .of _ still
  | error e => exact .of _ still

/-- A call that binds a library or asks for the one that is bound. -/
theorem bind (like : host.Alike alike host') (call : BindingCall σ ι) :
    SameEnd (Host.Alike alike) (call.perform host) (call.perform host') := by
  cases call with
  | init => exact (like.init only).map _
  | initFrom name => exact (like.initFrom only name).map _
  | install brought => exact (like.install brought).map fun library =>
    BindingAnswer.library (.ok library)
  | library =>
    unfold BindingCall.perform
    dsimp only
    rw [like.library]
    exact .of _ like
  | isInitialized =>
    unfold BindingCall.perform Host.isInitialized
    dsimp only
    rw [like.bound]
    exact .of _ like

/-- A report on the library of a name. -/
theorem checkLibrary (like : host.Alike alike host') (name : String) (all : Bool) :
    SameEnd (Host.Alike alike) (host.checkLibrary name all) (host'.checkLibrary name all) := by
  have same := like.initFrom only name
  unfold Host.checkLibrary
  generalize host.initFrom name = outcome, host'.initFrom name = outcome' at same ⊢
  obtain @⟨host, host', result, still⟩ := same
  cases result with
  | error e => exact .of _ still
  | ok library =>
    exact still.within (library.check_indifferent only all still.world)

/-- The end of all threads. -/
theorem endThreads (like : host.Alike alike host') :
    host.endThreads.Alike alike host'.endThreads := by
  obtain ⟨world, world', _, _, threads, rfl, rfl, worlds⟩ := like.split
  refine ⟨?_, rfl, rfl, rfl⟩
  refine List.foldl_rel worlds fun entry _ world world' still => ?_
  cases entry.2.session with
  | none => exact still
  | some session => exact session.close_indifferent only still

end Binding

/-! ## The facade -/

section Facade

variable {α : Type}

/-- Whatever is done with the session of a thread, if it comes to the same in related worlds. -/
theorem withSession (like : host.Alike alike host') (id : Nat)
    {use : Session σ ι → World σ → α × Session σ ι × World σ}
    (same : ∀ session {world world'}, alike world world' →
      SameOutcome (World.Beside alike) (use session world) (use session world')) :
    SameEnd (Host.Alike alike) (host.withSession id use) (host'.withSession id use) := by
  unfold Host.withSession
  rw [← like.boundLibrary, ← like.thread]
  cases host.boundLibrary with
  | error e => exact .of _ like
  | ok library =>
    obtain ⟨world, world', _, _, _, rfl, rfl, worlds⟩ := like.split
    dsimp only
    generalize Host.thread _ id = thread
    have same := same (thread.session.getD (.new library)) worlds
    generalize use _ world = outcome, use _ world' = outcome' at same ⊢
    obtain ⟨a, rfl, still⟩ := same
    refine .of _ (Host.Alike.setThread ?_ id _)
    exact ⟨still, rfl, rfl, rfl⟩

variable (only : World.ConsoleOnly alike)
include only

/-- A call on the session of a thread. -/
theorem inSession (like : host.Alike alike host') (id : Nat) (call : SessionCall) :
    SameEnd (Host.Alike alike) (host.withSession id fun session => session.perform call)
      (host'.withSession id fun session => session.perform call) :=
  like.withSession id fun session {_ _} like => session.perform_indifferent only call like

/-- A codec call on the session of a thread. -/
theorem serve (like : host.Alike alike host') (id : Nat) (dst : Memory)
    {call : Session σ ι → World σ → Served σ ι} {operation : Operation}
    (same : ∀ session {world world'}, alike world world' →
      Session.ServedAlike (only.likeness session.library) operation (.whole dst) (.whole dst)
        (call session world) (call session world')) :
    (host.serve id dst call).result = (host'.serve id dst call).result ∧
      (host.serve id dst call).output = (host'.serve id dst call).output ∧
      (host.serve id dst call).host.Alike alike (host'.serve id dst call).host := by
  have served : SameEnd (Host.Alike alike)
      (host.withSession id fun session world =>
        (((call session world).result, (call session world).output.memory),
          (call session world).session, (call session world).world))
      (host'.withSession id fun session world =>
        (((call session world).result, (call session world).output.memory),
          (call session world).session, (call session world).world)) := by
    refine like.withSession id fun session {world world'} like => ?_
    have served := same session like
    rw [served.result, served.output.same]
    exact .of _ served.still.beside
  unfold Host.serve
  dsimp only at served ⊢
  generalize host.withSession id _ = outcome, host'.withSession id _ = outcome' at served ⊢
  obtain ⟨result, still⟩ := served
  obtain _ | ⟨_ | _, _⟩ := result
  · exact ⟨rfl, rfl, still⟩
  · exact ⟨rfl, rfl, still⟩
  · exact ⟨rfl, rfl, still⟩

theorem compress (like : host.Alike alike host') (id : Nat) (src : Memory) (length : Nat)
    (dst : Memory) :
    (host.compress id src length dst).result = (host'.compress id src length dst).result ∧
      (host.compress id src length dst).output = (host'.compress id src length dst).output ∧
      (host.compress id src length dst).host.Alike alike
        (host'.compress id src length dst).host := by
  unfold Host.compress
  cases View.range src 0 length with
  | error e => exact ⟨rfl, rfl, like⟩
  | ok input =>
    exact like.serve only id dst fun session {_ _} like =>
      (session.like_self only like).compress input rfl

theorem decompress (like : host.Alike alike host') (id : Nat) (src : Memory) (offset length : Nat)
    (dst : Memory) :
    (host.decompress id src offset length dst).result =
        (host'.decompress id src offset length dst).result ∧
      (host.decompress id src offset length dst).output =
        (host'.decompress id src offset length dst).output ∧
      (host.decompress id src offset length dst).host.Alike alike
        (host'.decompress id src offset length dst).host := by
  unfold Host.decompress
  cases View.range src offset length with
  | error e => exact ⟨rfl, rfl, like⟩
  | ok input =>
    exact like.serve only id dst fun session {_ _} like =>
      (session.like_self only like).decompress input rfl

omit only in
theorem onLibrary (like : host.Alike alike host') {act : Library σ ι → Act σ CodecError α}
    (indifferent : ∀ library, (act library).Indifferent alike) :
    SameEnd (Host.Alike alike) (host.onLibrary act) (host'.onLibrary act) := by
  unfold Host.onLibrary
  rw [← like.boundLibrary]
  cases host.boundLibrary with
  | error e => exact .of _ like
  | ok library =>
    obtain ⟨world, world', _, _, _, rfl, rfl, worlds⟩ := like.split
    have same := (indifferent library).same worlds
    dsimp only
    generalize (act library).runOn world = outcome,
      (act library).runOn world' = outcome' at same ⊢
    obtain ⟨result, left⟩ := same
    cases result with
    | ok a => exact .of _ ⟨left, rfl, rfl, rfl⟩
    | error e => exact .of _ ⟨left, rfl, rfl, rfl⟩

theorem maxCompressedLength (like : host.Alike alike host') (length : Nat) :
    SameEnd (Host.Alike alike) (host.maxCompressedLength length)
      (host'.maxCompressedLength length) :=
  like.onLibrary fun library => library.indifferent_maxCompressedLength only length

theorem setCompressionLevel (like : host.Alike alike host') (level : Int32) :
    SameEnd (Host.Alike alike) (host.setCompressionLevel level)
      (host'.setCompressionLevel level) :=
  like.onLibrary fun library => library.indifferent_setCompressionLevel only level

/-- A call of the facade. -/
theorem perform (like : host.Alike alike host') (id : Nat) (call : FacadeCall) :
    (call.perform host id).result = (call.perform host' id).result ∧
      (call.perform host id).output = (call.perform host' id).output ∧
      (call.perform host id).host.Alike alike (call.perform host' id).host := by
  cases call with
  | init =>
    have same := like.bindDefault only
    exact ⟨congrArg (Except.map _) same.result, rfl, same.left⟩
  | compress src length dst =>
    obtain ⟨same, output, still⟩ := like.compress only id src length dst
    exact ⟨congrArg (Except.map _) same, congrArg some output, still⟩
  | decompress src offset length dst =>
    obtain ⟨same, output, still⟩ := like.decompress only id src offset length dst
    exact ⟨congrArg (Except.map _) same, congrArg some output, still⟩
  | maxCompressedLength length =>
    have same := like.maxCompressedLength only length
    exact ⟨congrArg (Except.map _) same.result, rfl, same.left⟩
  | allocateAligned capacity alignment granted => exact ⟨rfl, rfl, like⟩
  | setCompressionLevel level =>
    have same := like.setCompressionLevel only level
    exact ⟨congrArg (Except.map _) same.result, rfl, same.left⟩
  | libraryName =>
    unfold FacadeCall.perform Host.libraryName
    dsimp only
    rw [like.boundLibrary]
    exact ⟨rfl, rfl, like⟩

end Facade

/-! ## The C interface -/

section Interface

open CInterface (CCall CReply readable)

variable {α : Type}

theorem fail (like : host.Alike alike host') (id : Nat) (error : OffloadError) :
    SameEnd (Host.Alike alike) (CInterface.fail host id error)
      (CInterface.fail host' id error) := by
  unfold CInterface.fail
  rw [like.thread]
  exact .of _ (like.setThread id _)

theorem conclude (id : Nat) (number : α → Int) {answer answer' : Except OffloadError α × Host σ ι}
    (same : SameEnd (Host.Alike alike) answer answer') :
    SameEnd (Host.Alike alike) (CInterface.conclude id number answer)
      (CInterface.conclude id number answer') := by
  obtain ⟨result, still⟩ := same
  cases result with
  | ok a => exact .of _ still
  | error e => exact still.fail id e

/-- The answer of a call with a destination. -/
theorem reply (id : Nat) {answer answer' : Answer σ ι Nat}
    (same : answer.result = answer'.result ∧ answer.output = answer'.output ∧
      answer.host.Alike alike answer'.host) :
    SameEnd (Host.Alike alike)
      (CReply.number (CInterface.reply id answer).code (CInterface.reply id answer).dst,
        (CInterface.reply id answer).host)
      (CReply.number (CInterface.reply id answer').code (CInterface.reply id answer').dst,
        (CInterface.reply id answer').host) := by
  obtain ⟨result, output, host⟩ := answer
  obtain ⟨result', output', host'⟩ := answer'
  obtain ⟨rfl, rfl, still⟩ : result = result' ∧ output = output' ∧ _ := same
  have concluded : SameEnd (Host.Alike alike) (result, host) (result, host') := .of _ still
  exact (Host.Alike.conclude id Int.ofNat concluded).map fun code => CReply.number code (some output)

theorem refuse (like : host.Alike alike host') (id : Nat) (dst : Option Memory)
    (error : CodecError) :
    SameEnd (Host.Alike alike)
      (CReply.number (CInterface.refuse host id dst error).code
          (CInterface.refuse host id dst error).dst,
        (CInterface.refuse host id dst error).host)
      (CReply.number (CInterface.refuse host' id dst error).code
          (CInterface.refuse host' id dst error).dst,
        (CInterface.refuse host' id dst error).host) :=
  (like.fail id (.codec error)).map fun code => CReply.number code dst

variable (only : World.ConsoleOnly alike)
include only

/-- A call through the C interface. -/
theorem interface (like : host.Alike alike host') (id : Nat) (call : CCall) :
    SameEnd (Host.Alike alike) (call.perform host id) (call.perform host' id) := by
  cases call with
  | init =>
    exact (Host.Alike.conclude id _ (like.bindDefault only)).map fun code => CReply.number code none
  | compress src length dst =>
    unfold CCall.perform CInterface.compress
    by_cases missing : src.isNone ∧ length ≠ 0
    · simp only [if_pos missing]
      exact like.refuse id _ _
    · simp only [if_neg missing]
      cases dst with
      | none => exact like.refuse id _ _
      | some output =>
        by_cases empty : output.size = 0
        · simp only [if_pos empty]
          exact like.refuse id _ _
        · simp only [if_neg empty]
          exact Host.Alike.reply id (like.compress only id (readable src length) length output)
  | decompress src offset length dst =>
    unfold CCall.perform CInterface.decompress
    by_cases missing : src.isNone ∧ length ≠ 0
    · simp only [if_pos missing]
      exact like.refuse id _ _
    · simp only [if_neg missing]
      cases dst with
      | none => exact like.refuse id _ _
      | some output =>
        by_cases empty : output.size = 0
        · simp only [if_pos empty]
          exact like.refuse id _ _
        · simp only [if_neg empty]
          by_cases far : maxLength < offset + length
          · simp only [if_pos far]
            exact like.refuse id _ _
          · simp only [if_neg far]
            exact Host.Alike.reply id
              (like.decompress only id (readable src (offset + length)) offset length output)
  | maxCompressedLength length =>
    exact (Host.Alike.conclude id _ (like.maxCompressedLength only length)).map
      fun code => CReply.number code none
  | allocateAligned capacity alignment granted =>
    unfold CCall.perform CInterface.allocateAligned
    dsimp only
    cases Host.allocateAligned capacity alignment granted with
    | ok buffer => exact .of _ like
    | error e => exact .of _ (like.fail id e).left
  | freeAligned buffer => exact .of _ like
  | setCompressionLevel level =>
    exact (Host.Alike.conclude id _ (like.setCompressionLevel only level)).map
      fun code => CReply.number code none
  | lastError buffer =>
    unfold CCall.perform CInterface.lastError
    rw [like.thread]
    exact .of _ like

end Interface

end Host.Alike

end OffloadCodec

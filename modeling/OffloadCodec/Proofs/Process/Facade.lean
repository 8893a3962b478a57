import OffloadCodec.Facade
import OffloadCodec.Proofs.Process.Binding

/-!
# The facade of a process without a library

`FacadeCall` is a call of the facade as data, and `FacadeReply` what it leaves behind.
`Host.Unserved` is a process in which no attempt at a library has succeeded: attempts that fail,
calls of the facade and all that happens elsewhere in the process, in any order.

None of these binds a library (`Host.Unserved.unbound`), so no call has one to run on. A call says
so unless its range lies outside its buffer, and leaves its output and the process alone
(`Host.unserved_calls_fail`). The range comes first, which is not what one would expect of a process
that has to be initialised (`Host.range_before_library`).
-/

namespace OffloadCodec

variable {σ ι : Type}

/-! ## Calls -/

inductive FacadeCall
  | init
  | compress (src : Memory) (length : Nat) (dst : Memory)
  | decompress (src : Memory) (offset length : Nat) (dst : Memory)
  | maxCompressedLength (length : Nat)
  /-- The allocator grants the memory or refuses it. -/
  | allocateAligned (capacity alignment : Nat) (granted : Bool)
  | setCompressionLevel (level : Int32)
  | libraryName

/-- What a call returns when it succeeds. -/
inductive FacadeValue
  | done
  | length (length : Nat)
  | buffer (buffer : AlignedBuffer)
  | name (name : String)

/-- What a call leaves behind. -/
structure FacadeReply (σ ι : Type) where
  result : Except OffloadError FacadeValue
  /-- The output region, if the call has one. -/
  output : Option Memory
  host : Host σ ι

namespace FacadeCall

/-- The call on a thread of a process. -/
def perform (host : Host σ ι) (id : Nat) : FacadeCall → FacadeReply σ ι
  | init => ⟨host.bindDefault.1.map fun _ => .done, none, host.bindDefault.2⟩
  | compress src length dst =>
    let answer := host.compress id src length dst
    ⟨answer.result.map .length, some answer.output, answer.host⟩
  | decompress src offset length dst =>
    let answer := host.decompress id src offset length dst
    ⟨answer.result.map .length, some answer.output, answer.host⟩
  | maxCompressedLength length =>
    let answer := host.maxCompressedLength length
    ⟨answer.1.map .length, none, answer.2⟩
  | allocateAligned capacity alignment granted =>
    ⟨(Host.allocateAligned capacity alignment granted).map .buffer, none, host⟩
  | setCompressionLevel level =>
    let answer := host.setCompressionLevel level
    ⟨answer.1.map fun _ => .done, none, answer.2⟩
  | libraryName => ⟨host.libraryName.map .name, none, host⟩

end FacadeCall

/-! ## Processes without a library -/

namespace Host

/-- No attempt at a library has succeeded since the start. -/
inductive Unserved (start : Host σ ι) : Host σ ι → Prop
  | start : Unserved start start
  | attempt {host : Host σ ι} (call : BindingCall σ ι) :
    Unserved start host → (∀ library, (call.perform host).1 ≠ .library (.ok library)) →
    Unserved start (call.perform host).2
  | call {host : Host σ ι} (id : Nat) (call : FacadeCall) :
    Unserved start host → (call = .init → ∃ e, (call.perform host id).result = .error e) →
    Unserved start (call.perform host id).host
  | elsewhere {host : Host σ ι} (world : World σ) (loader : Option (Loader σ ι))
      (threads : List (Nat × Thread σ ι)) :
    Unserved start host → Unserved start { host with world, loader, threads }

section Unbound

variable {host : Host σ ι}

/-- An attempt that fails binds nothing. -/
theorem bound_initFrom (unbound : host.bound = none) {name : String}
    (failed : ∀ library, (host.initFrom name).1 ≠ .ok library) :
    (host.initFrom name).2.bound = none := by
  unfold initFrom at failed ⊢
  rw [unbound] at failed ⊢
  rcases opening : (Library.openWith host.loader name).runOn host.world with ⟨_ | library, world⟩
  · simp
  · simp [opening] at failed

theorem bound_perform (unbound : host.bound = none) {call : BindingCall σ ι}
    (failed : ∀ library, (call.perform host).1 ≠ .library (.ok library)) :
    (call.perform host).2.bound = none := by
  cases call with
  | init =>
    exact bound_initFrom unbound fun library succeeded => failed library (congrArg _ succeeded)
  | initFrom name =>
    exact bound_initFrom unbound fun library succeeded => failed library (congrArg _ succeeded)
  | install brought => exact absurd rfl (failed _)
  | library => exact unbound
  | isInitialized => exact unbound

theorem boundLibrary_of_unbound (unbound : host.bound = none) :
    host.boundLibrary = .error (.link .notInitialized) := by
  simp [boundLibrary, library, unbound]

theorem withSession_of_unbound {α : Type} (unbound : host.bound = none) (id : Nat)
    (use : Session σ ι → World σ → α × Session σ ι × World σ) :
    host.withSession id use = (.error (.link .notInitialized), host) := by
  simp [withSession, boundLibrary_of_unbound unbound]

theorem onLibrary_of_unbound {α : Type} (unbound : host.bound = none)
    (act : Library σ ι → Act σ CodecError α) :
    host.onLibrary act = (.error (.link .notInitialized), host) := by
  simp [onLibrary, boundLibrary_of_unbound unbound]

theorem serve_of_unbound (unbound : host.bound = none) (id : Nat) (dst : Memory)
    (call : Session σ ι → World σ → Served σ ι) :
    host.serve id dst call = ⟨.error (.link .notInitialized), dst, host⟩ := by
  simp [serve, withSession_of_unbound unbound]

/-- Why a codec call on a range of its source fails: the range comes first. -/
def refusal (src : Memory) (offset length : Nat) : OffloadError :=
  if offset + length ≤ src.size then .link .notInitialized
  else .codec (.outOfRange offset length src.size)

theorem compress_of_unbound (unbound : host.bound = none) (id : Nat) (src : Memory) (length : Nat)
    (dst : Memory) :
    host.compress id src length dst = ⟨.error (refusal src 0 length), dst, host⟩ := by
  unfold compress refusal View.range
  by_cases inside : 0 + length ≤ src.size
  · simp only [inside, dite_true, if_true]
    exact serve_of_unbound unbound id dst _
  · simp only [inside, dite_false, if_false]

theorem decompress_of_unbound (unbound : host.bound = none) (id : Nat) (src : Memory)
    (offset length : Nat) (dst : Memory) :
    host.decompress id src offset length dst = ⟨.error (refusal src offset length), dst, host⟩ := by
  unfold decompress refusal View.range
  by_cases inside : offset + length ≤ src.size
  · simp only [inside, dite_true, if_true]
    exact serve_of_unbound unbound id dst _
  · simp only [inside, dite_false, if_false]

theorem libraryName_of_unbound (unbound : host.bound = none) :
    host.libraryName = .error (.link .notInitialized) := by
  simp [libraryName, boundLibrary_of_unbound unbound]

theorem bindDefault_eq (host : Host σ ι) :
    host.bindDefault = ((host.init.1.mapError .link).map fun _ => (), host.init.2) := by
  unfold bindDefault
  rcases host.init with ⟨_ | _, _⟩ <;> rfl

theorem bound_bindDefault (unbound : host.bound = none) {e : OffloadError}
    (failed : host.bindDefault.1 = .error e) : host.bindDefault.2.bound = none := by
  rw [bindDefault_eq] at failed ⊢
  refine bound_initFrom unbound fun library succeeded => ?_
  rw [show host.init.1 = .ok library from succeeded] at failed
  cases failed

theorem bound_call (unbound : host.bound = none) {id : Nat} {call : FacadeCall}
    (failed : call = .init → ∃ e, (call.perform host id).result = .error e) :
    (call.perform host id).host.bound = none := by
  cases call with
  | init =>
    obtain ⟨e, failed⟩ := failed rfl
    cases result : host.bindDefault.1 with
    | ok done => simp [FacadeCall.perform, result, Except.map] at failed
    | error e => exact bound_bindDefault unbound result
  | compress src length dst => simp [FacadeCall.perform, compress_of_unbound unbound, unbound]
  | decompress src offset length dst =>
    simp [FacadeCall.perform, decompress_of_unbound unbound, unbound]
  | maxCompressedLength length =>
    simp [FacadeCall.perform, maxCompressedLength, onLibrary_of_unbound unbound, unbound]
  | allocateAligned capacity alignment granted => exact unbound
  | setCompressionLevel level =>
    simp [FacadeCall.perform, setCompressionLevel, onLibrary_of_unbound unbound, unbound]
  | libraryName => exact unbound

end Unbound

/-- Attempts that fail, and all that happens besides, leave a process without a library. -/
theorem Unserved.unbound {start host : Host σ ι} (unbound : start.bound = none)
    (unserved : Unserved start host) : host.bound = none := by
  induction unserved with
  | start => exact unbound
  | attempt call _ failed ih => exact bound_perform ih failed
  | call id call _ failed ih => exact bound_call ih failed
  | elsewhere world loader threads _ ih => exact ih

/-- Until an attempt at a library has succeeded, every call but the allocation of buffers fails for
want of one, a codec call after a look at its range; outputs and the process stay as they are. -/
theorem unserved_calls_fail {start host : Host σ ι} (unbound : start.bound = none)
    (unserved : Unserved start host) (id : Nat) :
    (∀ src length dst,
      host.compress id src length dst = ⟨.error (refusal src 0 length), dst, host⟩) ∧
    (∀ src offset length dst,
      host.decompress id src offset length dst = ⟨.error (refusal src offset length), dst, host⟩) ∧
    (∀ length, host.maxCompressedLength length = (.error (.link .notInitialized), host)) ∧
    (∀ level, host.setCompressionLevel level = (.error (.link .notInitialized), host)) ∧
    host.libraryName = .error (.link .notInitialized) ∧
    ∀ (α : Type) (use : Session σ ι → World σ → α × Session σ ι × World σ),
      host.withSession id use = (.error (.link .notInitialized), host) := by
  have still := unserved.unbound unbound
  refine ⟨compress_of_unbound still id, decompress_of_unbound still id, fun length => ?_,
    fun level => ?_, libraryName_of_unbound still, fun α use => withSession_of_unbound still id use⟩
  · exact onLibrary_of_unbound still _
  · exact onLibrary_of_unbound still _

/-- A process that knows one file. -/
def idle : Host Simulated.State UInt32 where
  world := { native := {} }
  loader := some Simulated.loader

/-- A process whose only attempt so far was for a file that is not there. -/
theorem unserved_calls_fail_absent :
    let host := (idle.initFrom "absent").2
    Unserved idle host ∧
      ((host.compress 0 (.ofBytes [1, 2, 3]) 3 (.zeros 64)).result = .error (.link .notInitialized)) ∧
      (host.maxCompressedLength 3).1 = .error (.link .notInitialized) := by
  have unserved : Unserved idle (idle.initFrom "absent").2 :=
    .attempt (.initFrom "absent") .start (fun library succeeded => by
      have failed : (idle.initFrom "absent").1 = .error (.libraryNotFound "absent" "not found") := rfl
      rw [BindingCall.perform, failed] at succeeded
      cases succeeded)
  obtain ⟨compress, _, maxCompressedLength, _⟩ := unserved_calls_fail rfl unserved 0
  exact ⟨unserved, by rw [compress]; rfl, by rw [maxCompressedLength]⟩

/-- A process that no library was asked for looks at the range of a call first. -/
theorem range_before_library :
    (idle.compress 0 (.ofBytes [97, 98, 99]) 4 (.zeros 64)).result =
        .error (.codec (.outOfRange 0 4 3)) ∧
      (idle.compress 0 (.ofBytes [97, 98, 99]) 4 (.zeros 64)).result ≠
        .error (.link .notInitialized) := by
  have reported : (idle.compress 0 (.ofBytes [97, 98, 99]) 4 (.zeros 64)).result =
      .error (.codec (.outOfRange 0 4 3)) := rfl
  exact ⟨reported, by simp [reported]⟩

end Host

end OffloadCodec

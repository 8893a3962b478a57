import OffloadCodec.CInterface
import OffloadCodec.Proofs.Process.Facade

/-!
# The C interface as an image of the facade

`CCall` is a call through the C interface as data. Two kinds of calls ask nothing of the facade. Of
the others some are refused for their pointers and lengths (`CCall.unfit_iff`), and each of the rest
makes one call of the facade (`CCall.request`), whose result comes back as a number or a pointer
(`CCall.image`).

A sequence of calls, of any number of threads, is compared with the facade calls that it makes in a
process that keeps no messages. `Host.Mirrors` says which messages the threads keep and that all
else is alike; the facade keeps it (`Host.Mirrors.perform`), a call changes the message of its own
thread if it fails (`perform_mirrors`), and so any sequence of calls is an image of what the facade
does (`images_facade`).
-/

namespace OffloadCodec

variable {σ ι : Type}

/-! ## Processes up to their messages -/

namespace Host

/-- A process whose threads keep these messages, and in which all else is as in the other one. -/
structure Mirrors (host other : Host σ ι) (messages : Nat → String) : Prop where
  world : host.world = other.world
  loader : host.loader = other.loader
  bound : host.bound = other.bound
  session : ∀ id, (host.thread id).session = (other.thread id).session
  message : ∀ id, (host.thread id).lastError = messages id

/-- Dropping the entries of one thread leaves those of the others. -/
theorem lookup_others {α : Type} {id other : Nat} (different : other ≠ id)
    (threads : List (Nat × α)) :
    (threads.filter (·.1 != id)).lookup other = threads.lookup other := by
  induction threads with
  | nil => rfl
  | cons entry rest ih =>
    obtain ⟨key, thread⟩ := entry
    by_cases same : key = id
    · have apart : (other == id) = false := by simp [different]
      simp [same, ih, List.lookup_cons, apart]
    · simp [same, ih, List.lookup_cons]

theorem thread_setThread (host : Host σ ι) (id other : Nat) (thread : Thread σ ι) :
    (host.setThread id thread).thread other = if other = id then thread else host.thread other := by
  by_cases same : other = id
  · simp [Host.thread, setThread, same]
  · have apart : (other == id) = false := by simp [same]
    simp [Host.thread, setThread, same, List.lookup_cons, apart, lookup_others same]

@[simp] theorem thread_withWorld (host : Host σ ι) (world : World σ) (id : Nat) :
    ({ host with world }).thread id = host.thread id := rfl

namespace Mirrors

variable {host other : Host σ ι} {messages : Nat → String}

/-- A thread is told about a failure. -/
theorem fail (mirrors : host.Mirrors other messages) (id : Nat) (error : OffloadError) :
    (CInterface.fail host id error).2.Mirrors other (Function.update messages id error.message) := by
  unfold CInterface.fail
  refine ⟨mirrors.world, mirrors.loader, mirrors.bound, fun any => ?_, fun any => ?_⟩
  · rw [thread_setThread]
    by_cases same : any = id
    · simp [same, mirrors.session]
    · simp [same, mirrors.session]
  · rw [thread_setThread]
    by_cases same : any = id
    · simp [same]
    · simp [same, mirrors.message]

theorem boundLibrary (mirrors : host.Mirrors other messages) :
    host.boundLibrary = other.boundLibrary := by
  simp [Host.boundLibrary, library, mirrors.bound]

theorem initFrom (mirrors : host.Mirrors other messages) (name : String) :
    (host.initFrom name).1 = (other.initFrom name).1 ∧
      (host.initFrom name).2.Mirrors (other.initFrom name).2 messages := by
  unfold Host.initFrom
  rw [← mirrors.bound, ← mirrors.loader, ← mirrors.world]
  cases bound : host.bound with
  | some library => exact ⟨rfl, mirrors⟩
  | none =>
    rcases (Library.openWith host.loader name).runOn host.world with ⟨e | library, world⟩
    · exact ⟨rfl, rfl, rfl, rfl, mirrors.session, mirrors.message⟩
    · exact ⟨rfl, rfl, rfl, rfl, mirrors.session, mirrors.message⟩

theorem bindDefault (mirrors : host.Mirrors other messages) :
    host.bindDefault.1 = other.bindDefault.1 ∧
      host.bindDefault.2.Mirrors other.bindDefault.2 messages := by
  rw [bindDefault_eq, bindDefault_eq]
  unfold init
  rw [← mirrors.world]
  obtain ⟨same, still⟩ := mirrors.initFrom (Settings.libraryName host.world.environment)
  exact ⟨by rw [same], still⟩

theorem withSession {α : Type} (mirrors : host.Mirrors other messages) (id : Nat)
    (use : Session σ ι → World σ → α × Session σ ι × World σ) :
    (host.withSession id use).1 = (other.withSession id use).1 ∧
      (host.withSession id use).2.Mirrors (other.withSession id use).2 messages := by
  unfold Host.withSession
  rw [← mirrors.boundLibrary, ← mirrors.world]
  cases host.boundLibrary with
  | error e => exact ⟨rfl, mirrors⟩
  | ok library =>
    dsimp only
    rw [← mirrors.session]
    refine ⟨rfl, rfl, mirrors.loader, mirrors.bound, fun any => ?_, fun any => ?_⟩
    · rw [thread_setThread, thread_setThread]
      by_cases same : any = id
      · simp [same]
      · simpa [same] using mirrors.session any
    · rw [thread_setThread]
      by_cases same : any = id
      · simpa [same] using mirrors.message id
      · simpa [same] using mirrors.message any

theorem serve (mirrors : host.Mirrors other messages) (id : Nat) (dst : Memory)
    (call : Session σ ι → World σ → Served σ ι) :
    (host.serve id dst call).result = (other.serve id dst call).result ∧
      (host.serve id dst call).output = (other.serve id dst call).output ∧
      (host.serve id dst call).host.Mirrors (other.serve id dst call).host messages := by
  obtain ⟨same, still⟩ := mirrors.withSession id fun session world =>
    let served := call session world
    ((served.result, served.output.memory), served.session, served.world)
  unfold Host.serve
  revert same still
  generalize host.withSession id _ = here
  generalize other.withSession id _ = there
  obtain ⟨result, here⟩ := here
  obtain ⟨result', there⟩ := there
  rintro (rfl : result = result') still
  obtain _ | ⟨_ | _, _⟩ := result <;> exact ⟨rfl, rfl, still⟩

theorem onLibrary {α : Type} (mirrors : host.Mirrors other messages)
    (act : Library σ ι → Act σ CodecError α) :
    (host.onLibrary act).1 = (other.onLibrary act).1 ∧
      (host.onLibrary act).2.Mirrors (other.onLibrary act).2 messages := by
  unfold Host.onLibrary
  rw [← mirrors.boundLibrary, ← mirrors.world]
  cases host.boundLibrary with
  | error e => exact ⟨rfl, mirrors⟩
  | ok library =>
    dsimp only
    rcases (act library).runOn host.world with ⟨_ | _, world⟩
    · exact ⟨rfl, rfl, mirrors.loader, mirrors.bound, mirrors.session, mirrors.message⟩
    · exact ⟨rfl, rfl, mirrors.loader, mirrors.bound, mirrors.session, mirrors.message⟩

theorem compress (mirrors : host.Mirrors other messages) (id : Nat) (src : Memory) (length : Nat)
    (dst : Memory) :
    (host.compress id src length dst).result = (other.compress id src length dst).result ∧
      (host.compress id src length dst).output = (other.compress id src length dst).output ∧
      (host.compress id src length dst).host.Mirrors (other.compress id src length dst).host
        messages := by
  unfold Host.compress
  cases View.range src 0 length with
  | error e => exact ⟨rfl, rfl, mirrors⟩
  | ok input => exact mirrors.serve ..

theorem decompress (mirrors : host.Mirrors other messages) (id : Nat) (src : Memory)
    (offset length : Nat) (dst : Memory) :
    (host.decompress id src offset length dst).result =
        (other.decompress id src offset length dst).result ∧
      (host.decompress id src offset length dst).output =
        (other.decompress id src offset length dst).output ∧
      (host.decompress id src offset length dst).host.Mirrors
        (other.decompress id src offset length dst).host messages := by
  unfold Host.decompress
  cases View.range src offset length with
  | error e => exact ⟨rfl, rfl, mirrors⟩
  | ok input => exact mirrors.serve ..

/-- A call of the facade goes alike on both, and no thread is told anything. -/
theorem perform (mirrors : host.Mirrors other messages) (id : Nat) (call : FacadeCall) :
    (call.perform host id).result = (call.perform other id).result ∧
      (call.perform host id).output = (call.perform other id).output ∧
      (call.perform host id).host.Mirrors (call.perform other id).host messages := by
  cases call with
  | init =>
    obtain ⟨same, still⟩ := mirrors.bindDefault
    exact ⟨congrArg (Except.map _) same, rfl, still⟩
  | compress src length dst =>
    obtain ⟨same, output, still⟩ := mirrors.compress id src length dst
    exact ⟨congrArg (Except.map _) same, congrArg some output, still⟩
  | decompress src offset length dst =>
    obtain ⟨same, output, still⟩ := mirrors.decompress id src offset length dst
    exact ⟨congrArg (Except.map _) same, congrArg some output, still⟩
  | maxCompressedLength length =>
    obtain ⟨same, still⟩ := mirrors.onLibrary (·.maxCompressedLength length)
    exact ⟨congrArg (Except.map _) same, rfl, still⟩
  | allocateAligned capacity alignment granted => exact ⟨rfl, rfl, mirrors⟩
  | setCompressionLevel level =>
    obtain ⟨same, still⟩ := mirrors.onLibrary (·.setCompressionLevel level)
    exact ⟨congrArg (Except.map _) same, rfl, still⟩
  | libraryName =>
    exact ⟨by simp [FacadeCall.perform, Host.libraryName, mirrors.boundLibrary], rfl, mirrors⟩

end Mirrors

/-! ## Lengths -/

section Lengths

variable {host : Host σ ι} {n : Nat}

theorem serve_length {id : Nat} {dst : Memory} {call : Session σ ι → World σ → Served σ ι}
    (served : (host.serve id dst call).result = .ok n) : n ≤ maxNativeLength := by
  unfold serve at served
  revert served
  generalize host.withSession id _ = later
  obtain ⟨_ | ⟨_ | length, _⟩, _⟩ := later
  · rintro ⟨⟩
  · rintro ⟨⟩
  · rintro ⟨⟩
    exact Nat.le_pred_of_lt length.toNat_lt

theorem maxCompressedLength_length {length : Nat}
    (bounded : (host.maxCompressedLength length).1 = .ok n) : n ≤ maxNativeLength := by
  unfold maxCompressedLength onLibrary at bounded
  cases bound : host.boundLibrary with
  | error e => simp [bound] at bounded
  | ok library =>
    simp only [bound, Library.maxCompressedLength, Act.runOn_of] at bounded
    by_cases fits : length ≤ maxNativeLength
    · simp only [fits, if_true, Except.ok.injEq] at bounded
      rw [← bounded]
      exact Nat.le_pred_of_lt (UInt32.toNat_lt _)
    · simp [fits] at bounded

/-- Every length that a call of the facade returns fits 32 bits. -/
theorem perform_length {id : Nat} {call : FacadeCall}
    (returned : (call.perform host id).result = .ok (.length n)) : n ≤ maxNativeLength := by
  have of_map {result : Except OffloadError Nat}
      (mapped : result.map FacadeValue.length = .ok (.length n)) : result = .ok n := by
    cases result with
    | ok m => simpa [Except.map] using mapped
    | error e => cases mapped
  cases call with
  | init =>
    cases result : host.bindDefault.1 <;> simp [FacadeCall.perform, result, Except.map] at returned
  | compress src length dst =>
    have returned := of_map returned
    unfold compress at returned
    cases range : View.range src 0 length with
    | error e => simp [range] at returned
    | ok input => exact serve_length (by simpa [range] using returned)
  | decompress src offset length dst =>
    have returned := of_map returned
    unfold decompress at returned
    cases range : View.range src offset length with
    | error e => simp [range] at returned
    | ok input => exact serve_length (by simpa [range] using returned)
  | maxCompressedLength length => exact maxCompressedLength_length (of_map returned)
  | allocateAligned capacity alignment granted =>
    cases result : allocateAligned capacity alignment granted <;>
      simp [FacadeCall.perform, result, Except.map] at returned
  | setCompressionLevel level =>
    cases result : (host.setCompressionLevel level).1 <;>
      simp [FacadeCall.perform, result, Except.map] at returned
  | libraryName =>
    cases result : host.libraryName <;> simp [FacadeCall.perform, result, Except.map] at returned

end Lengths

end Host

namespace CInterface

/-! ## Calls -/

inductive CCall
  | init
  | compress (src : Option Memory) (length : Nat) (dst : Option Memory)
  | decompress (src : Option Memory) (offset length : Nat) (dst : Option Memory)
  | maxCompressedLength (length : Nat)
  /-- The allocator grants the memory or refuses it. -/
  | allocateAligned (capacity alignment : Nat) (granted : Bool)
  /-- Gives back what was allocated, which concerns nothing else. -/
  | freeAligned (buffer : AlignedBuffer)
  | setCompressionLevel (level : Int32)
  | lastError (buffer : Option Memory)

/-- What a call returns, with the memory at the pointer that it was given to write to. -/
inductive CReply
  | number (code : Int) (dst : Option Memory)
  | pointer (buffer : Option AlignedBuffer)
  | text (length : Nat) (buffer : Option Memory)
  | nothing

/-- How a caller tells success: a number is not negative, a pointer is not null. -/
def CReply.Succeeds : CReply → Prop
  | number code _ => 0 ≤ code
  | pointer buffer => buffer.isSome
  | text _ _ => True
  | nothing => True

/-- The number for a result of the facade. -/
def numberOf : Except OffloadError FacadeValue → Int
  | .ok .done => 0
  | .ok (.length n) => n
  | .ok (.buffer _) => 0
  | .ok (.name _) => 0
  | .error e => codeOf e

/-- The pointer for a result of the facade. -/
def pointerOf : Except OffloadError FacadeValue → Option AlignedBuffer
  | .ok (.buffer buffer) => some buffer
  | _ => none

theorem codeOf_range (e : OffloadError) : -6 ≤ codeOf e ∧ codeOf e < 0 := by
  obtain _ | _ | _ | _ | _ | _ | _ := e <;> simp [codeOf]

theorem numberOf_nonneg_iff {result : Except OffloadError FacadeValue} :
    0 ≤ numberOf result ↔ ∃ value, result = .ok value := by
  cases result with
  | ok value => cases value <;> simp [numberOf]
  | error e => simp [numberOf, (codeOf_range e).2]

theorem succeeds_pointerOf {result : Except OffloadError AlignedBuffer} :
    (CReply.pointer (pointerOf (result.map .buffer))).Succeeds ↔
      ∃ value, result.map FacadeValue.buffer = .ok value := by
  cases result with
  | ok buffer => exact iff_of_true rfl ⟨_, rfl⟩
  | error e => exact iff_of_false Bool.false_ne_true (by simp [Except.map])

namespace CCall

def perform (host : Host σ ι) (id : Nat) : CCall → CReply × Host σ ι
  | init => (.number (CInterface.init host id).1 none, (CInterface.init host id).2)
  | compress src length dst =>
    let reply := CInterface.compress host id src length dst
    (.number reply.code reply.dst, reply.host)
  | decompress src offset length dst =>
    let reply := CInterface.decompress host id src offset length dst
    (.number reply.code reply.dst, reply.host)
  | maxCompressedLength length =>
    let answer := CInterface.maxCompressedLength host id length
    (.number answer.1 none, answer.2)
  | allocateAligned capacity alignment granted =>
    let answer := CInterface.allocateAligned host id capacity alignment granted
    (.pointer answer.1, answer.2)
  | freeAligned _ => (.nothing, host)
  | setCompressionLevel level =>
    let answer := CInterface.setCompressionLevel host id level
    (.number answer.1 none, answer.2)
  | lastError buffer =>
    let answer := CInterface.lastError host id buffer
    (.text answer.1 answer.2, host)

/-- The pointer to write to. -/
def dst : CCall → Option Memory
  | compress _ _ dst => dst
  | decompress _ _ _ dst => dst
  | _ => none

/-- A null or empty destination. -/
def Unwritable (dst : Option Memory) : Prop := ∀ memory ∈ dst, memory.size = 0

/-- The pointers and lengths are of no use to the facade. -/
def Unfit : CCall → Prop
  | compress src length dst => src = none ∧ length ≠ 0 ∨ Unwritable dst
  | decompress src offset length dst =>
    src = none ∧ length ≠ 0 ∨ Unwritable dst ∨ maxLength < offset + length
  | _ => False

/-- The checks that stand before both codec calls. -/
def checked (what : String) (src : Option Memory) (length : Nat) (dst : Option Memory)
    (next : Memory → Except CodecError FacadeCall) : Except CodecError FacadeCall :=
  if src.isNone ∧ length ≠ 0 then .error (.outOfMemory (what ++ " input buffer"))
  else match dst with
    | none => .error (.outOfMemory (what ++ " output buffer"))
    | some output =>
      if output.size = 0 then .error (.outOfMemory (what ++ " output buffer")) else next output

/-- What is asked of the facade, or why nothing is; the two last calls ask for nothing. -/
def request : CCall → Option (Except CodecError FacadeCall)
  | init => some (.ok .init)
  | compress src length dst => some <| checked "compressor" src length dst fun output =>
    .ok (.compress (readable src length) length output)
  | decompress src offset length dst => some <| checked "decompressor" src length dst fun output =>
    if maxLength < offset + length then .error (.tooLarge maxLength)
    else .ok (.decompress (readable src (offset + length)) offset length output)
  | maxCompressedLength length => some (.ok (.maxCompressedLength length))
  | allocateAligned capacity alignment granted =>
    some (.ok (.allocateAligned capacity alignment granted))
  | setCompressionLevel level => some (.ok (.setCompressionLevel level))
  | freeAligned _ => none
  | lastError _ => none

/-- What a call comes to on the facade of a process. A call that is refused leaves everything as it
is. -/
def outcome (host : Host σ ι) (id : Nat) (call : CCall) : Option (FacadeReply σ ι) :=
  call.request.map fun
    | .ok facade => facade.perform host id
    | .error e => ⟨.error (.codec e), call.dst, host⟩

/-- The answer that a caller in C gets for it. -/
def image (call : CCall) (reply : FacadeReply σ ι) : CReply :=
  match call with
  | allocateAligned .. => .pointer (pointerOf reply.result)
  | _ => .number (numberOf reply.result) reply.output

theorem checked_error_iff {what : String} {src dst : Option Memory} {length : Nat}
    {next : Memory → Except CodecError FacadeCall} :
    (∃ e, checked what src length dst next = .error e) ↔
      src = none ∧ length ≠ 0 ∨ Unwritable dst ∨ ∃ output ∈ dst, ∃ e, next output = .error e := by
  rw [← Option.isNone_iff_eq_none]
  unfold checked Unwritable
  by_cases missing : src.isNone ∧ length ≠ 0
  · rw [if_pos missing]
    exact iff_of_true ⟨_, rfl⟩ (.inl missing)
  · rw [if_neg missing]
    cases dst with
    | none => exact iff_of_true ⟨_, rfl⟩ (.inr (.inl (by simp)))
    | some output =>
      by_cases empty : output.size = 0
      · simp [empty]
      · simp only [empty, if_false, missing, false_or, Option.mem_some_iff, forall_eq']
        simp

/-- A call is refused for its pointers and lengths, and for nothing else. -/
theorem unfit_iff (call : CCall) : call.Unfit ↔ ∃ e, call.request = some (.error e) := by
  cases call with
  | compress src length dst =>
    simp only [Unfit, request, Option.some.injEq, checked_error_iff]
    simp
  | decompress src offset length dst =>
    simp only [Unfit, request, Option.some.injEq, checked_error_iff]
    cases dst with
    | none => simp [Unwritable]
    | some output =>
      by_cases far : maxLength < offset + length
      · simp [far]
      · simp [far]
  | _ => simp [Unfit, request]

end CCall

/-! ## One call -/

/-- The messages of the threads after a result. -/
def notes {α : Type} (messages : Nat → String) (id : Nat) : Except OffloadError α → Nat → String
  | .ok _ => messages
  | .error e => Function.update messages id e.message

section Answers

variable {host other : Host σ ι} {messages : Nat → String} {id : Nat}

theorem conclude_mirrors {α : Type} (number : α → Int) (value : α → FacadeValue)
    (numbers : ∀ a, number a = numberOf (.ok (value a)))
    {answer : Except OffloadError α × Host σ ι} {result : Except OffloadError α}
    (same : answer.1 = result) (mirrors : answer.2.Mirrors other messages) :
    (conclude id number answer).1 = numberOf (result.map value) ∧
      (conclude id number answer).2.Mirrors other (notes messages id (result.map value)) := by
  obtain ⟨result', later⟩ := answer
  obtain rfl : result' = result := same
  cases result' with
  | ok a => exact ⟨numbers a, mirrors⟩
  | error e => exact ⟨rfl, mirrors.fail id e⟩

theorem reply_mirrors {answer answer' : Answer σ ι Nat}
    (mirrors : answer.result = answer'.result ∧ answer.output = answer'.output ∧
      answer.host.Mirrors answer'.host messages) :
    (reply id answer).code = numberOf (answer'.result.map .length) ∧
      (reply id answer).dst = some answer'.output ∧
      (reply id answer).host.Mirrors answer'.host
        (notes messages id (answer'.result.map FacadeValue.length)) := by
  obtain ⟨same, output, mirrors⟩ := mirrors
  have told : (answer.result, answer.host).1 = answer'.result := same
  obtain ⟨code, still⟩ := conclude_mirrors Int.ofNat .length (fun _ => rfl) told mirrors
  exact ⟨code, congrArg some output, still⟩

/-- A call that asks the facade is answered as the facade answers, and tells its thread of a
failure. -/
theorem perform_mirrors (mirrors : host.Mirrors other messages) {call : CCall}
    {reply : FacadeReply σ ι} (outcome : call.outcome other id = some reply) :
    (call.perform host id).1 = call.image reply ∧
      (call.perform host id).2.Mirrors reply.host (notes messages id reply.result) := by
  unfold CCall.outcome at outcome
  cases call with
  | init =>
    obtain rfl := Option.some.inj outcome
    obtain ⟨same, still⟩ := mirrors.bindDefault
    obtain ⟨number, told⟩ := conclude_mirrors (fun _ => 0) (fun _ => .done) (fun _ => rfl) same still
    exact ⟨congrArg (CReply.number · none) number, told⟩
  | compress src length dst =>
    obtain rfl := Option.some.inj outcome
    unfold CCall.perform CInterface.compress CCall.checked
    by_cases missing : src.isNone ∧ length ≠ 0
    · simp only [if_pos missing]
      exact ⟨rfl, mirrors.fail id _⟩
    · simp only [if_neg missing]
      cases dst with
      | none => exact ⟨rfl, mirrors.fail id _⟩
      | some output =>
        by_cases empty : output.size = 0
        · simp only [if_pos empty]
          exact ⟨rfl, mirrors.fail id _⟩
        · simp only [if_neg empty]
          obtain ⟨code, written, told⟩ :=
            reply_mirrors (mirrors.compress id (readable src length) length output)
          exact ⟨congrArg₂ CReply.number code written, told⟩
  | decompress src offset length dst =>
    obtain rfl := Option.some.inj outcome
    unfold CCall.perform CInterface.decompress CCall.checked
    by_cases missing : src.isNone ∧ length ≠ 0
    · simp only [if_pos missing]
      exact ⟨rfl, mirrors.fail id _⟩
    · simp only [if_neg missing]
      cases dst with
      | none => exact ⟨rfl, mirrors.fail id _⟩
      | some output =>
        by_cases empty : output.size = 0
        · simp only [if_pos empty]
          exact ⟨rfl, mirrors.fail id _⟩
        · simp only [if_neg empty]
          by_cases far : maxLength < offset + length
          · simp only [if_pos far]
            exact ⟨rfl, mirrors.fail id _⟩
          · simp only [if_neg far]
            obtain ⟨code, written, told⟩ := reply_mirrors
              (mirrors.decompress id (readable src (offset + length)) offset length output)
            exact ⟨congrArg₂ CReply.number code written, told⟩
  | maxCompressedLength length =>
    obtain rfl := Option.some.inj outcome
    obtain ⟨same, still⟩ := mirrors.onLibrary (·.maxCompressedLength length)
    obtain ⟨number, told⟩ := conclude_mirrors Int.ofNat .length (fun _ => rfl) same still
    exact ⟨congrArg (CReply.number · none) number, told⟩
  | allocateAligned capacity alignment granted =>
    obtain rfl := Option.some.inj outcome
    simp only [CCall.perform, CInterface.allocateAligned, FacadeCall.perform]
    cases Host.allocateAligned capacity alignment granted with
    | ok buffer => exact ⟨rfl, mirrors⟩
    | error e => exact ⟨rfl, mirrors.fail id e⟩
  | setCompressionLevel level =>
    obtain rfl := Option.some.inj outcome
    obtain ⟨same, still⟩ := mirrors.onLibrary (·.setCompressionLevel level)
    obtain ⟨number, told⟩ := conclude_mirrors (fun _ => 0) (fun _ => .done) (fun _ => rfl) same still
    exact ⟨congrArg (CReply.number · none) number, told⟩
  | freeAligned buffer => cases outcome
  | lastError buffer => cases outcome

/-- A success is one for a caller in C too. -/
theorem succeeds_image {call : CCall} {reply : FacadeReply σ ι}
    (outcome : call.outcome other id = some reply) :
    (call.image reply).Succeeds ↔ ∃ value, reply.result = .ok value := by
  cases call with
  | allocateAligned capacity alignment granted =>
    obtain rfl := Option.some.inj outcome
    exact succeeds_pointerOf
  | freeAligned buffer => cases outcome
  | lastError buffer => cases outcome
  | _ => exact numberOf_nonneg_iff

theorem numberOf_range {call : CCall} {reply : FacadeReply σ ι}
    (outcome : call.outcome other id = some reply) :
    -6 ≤ numberOf reply.result ∧ numberOf reply.result ≤ maxNativeLength := by
  cases result : reply.result with
  | error e =>
    obtain ⟨least, negative⟩ := codeOf_range e
    have code : numberOf (.error e) = codeOf e := rfl
    omega
  | ok value =>
    have positive : 0 ≤ numberOf (.ok value) := numberOf_nonneg_iff.2 ⟨value, rfl⟩
    refine ⟨by omega, ?_⟩
    cases value with
    | length n =>
      unfold CCall.outcome at outcome
      cases asked : call.request with
      | none => simp [asked] at outcome
      | some request =>
        cases request with
        | error e =>
          rw [asked] at outcome
          obtain rfl := Option.some.inj outcome
          cases result
        | ok facade =>
          rw [asked] at outcome
          obtain rfl := Option.some.inj outcome
          exact Int.ofNat_le.2 (Host.perform_length result)
    | _ => exact Int.natCast_nonneg _

theorem codes_image (mirrors : host.Mirrors other messages) {call : CCall} {code : Int}
    {dst : Option Memory} (returned : (call.perform host id).1 = .number code dst) :
    -6 ≤ code ∧ code ≤ maxNativeLength := by
  cases outcome : call.outcome other id with
  | none =>
    cases call with
    | freeAligned buffer => cases returned
    | lastError buffer => cases returned
    | _ => simp [CCall.outcome, CCall.request] at outcome
  | some reply =>
    rw [(perform_mirrors mirrors outcome).1] at returned
    unfold CCall.image at returned
    split at returned
    · cases returned
    · cases returned
      exact numberOf_range outcome

/-- A call that does not ask the facade changes nothing. -/
theorem perform_of_outcome_none {call : CCall} (silent : call.outcome other id = none) :
    (call.perform host id).2 = host := by
  cases call with
  | freeAligned buffer => rfl
  | lastError buffer => rfl
  | _ => simp [CCall.outcome, CCall.request] at silent

end Answers

/-! ## Sequences of calls -/

/-- A process after some calls, each on a thread of its own. -/
def after (host : Host σ ι) (calls : List (Nat × CCall)) : Host σ ι :=
  calls.foldl (fun host call => (call.2.perform host call.1).2) host

/-- What the calls come to without the C interface: the process that the facade has been asked in,
and which failures were reported to which threads. -/
structure Account (σ ι : Type) where
  host : Host σ ι
  failures : List (Nat × OffloadError) := []

namespace Account

/-- The message of the failure that was reported to a thread most recently. -/
def message (account : Account σ ι) (id : Nat) : String :=
  ((account.failures.filter (·.1 = id)).getLast?).elim "" (·.2.message)

def failure {α : Type} (id : Nat) : Except OffloadError α → List (Nat × OffloadError)
  | .ok _ => []
  | .error e => [(id, e)]

def add (account : Account σ ι) (call : Nat × CCall) : Account σ ι :=
  match call.2.outcome account.host call.1 with
  | none => account
  | some reply => ⟨reply.host, account.failures ++ failure call.1 reply.result⟩

/-- The account of some calls. -/
def of (host : Host σ ι) (calls : List (Nat × CCall)) : Account σ ι := calls.foldl add { host }

theorem message_failure {α : Type} (account : Account σ ι) (host : Host σ ι) (id : Nat)
    (result : Except OffloadError α) :
    message ⟨host, account.failures ++ failure id result⟩ = notes account.message id result := by
  funext any
  cases result with
  | ok a => simp [message, failure, notes]
  | error e =>
    by_cases same : any = id
    · simp [message, failure, notes, same]
    · simp [message, failure, notes, same, Ne.symm same]

end Account

theorem mirrors_add {host : Host σ ι} {account : Account σ ι}
    (mirrors : host.Mirrors account.host account.message) (call : Nat × CCall) :
    (call.2.perform host call.1).2.Mirrors (account.add call).host (account.add call).message := by
  unfold Account.add
  cases outcome : call.2.outcome account.host call.1 with
  | none =>
    rw [perform_of_outcome_none outcome]
    exact mirrors
  | some reply =>
    dsimp only
    rw [account.message_failure]
    exact (perform_mirrors mirrors outcome).2

theorem mirrors_foldl {host : Host σ ι} {account : Account σ ι}
    (mirrors : host.Mirrors account.host account.message) (calls : List (Nat × CCall)) :
    (after host calls).Mirrors (calls.foldl Account.add account).host
      (calls.foldl Account.add account).message := by
  induction calls generalizing host account with
  | nil => exact mirrors
  | cons call later ih => exact ih (mirrors_add mirrors call)

/-- What is found at a pointer after a text was written there: as much of it as there is room for, a
zero byte, and behind that what was there before. -/
def Shows (bytes : Bytes) : Option Memory → Option Memory → Prop
  | some before, some written => written.size = before.size ∧
    written.toBytes = if before.size = 0 then before.toBytes else
      bytes.take (before.size - 1) ++ [0] ++
        before.toBytes.drop (min bytes.length (before.size - 1) + 1)
  | none, none => True
  | _, _ => False

theorem lastError_shows (host : Host σ ι) (id : Nat) (buffer : Option Memory) :
    (lastError host id buffer).1 = (host.thread id).lastError.toUTF8.toList.length ∧
      Shows (host.thread id).lastError.toUTF8.toList buffer (lastError host id buffer).2 := by
  unfold lastError
  generalize (host.thread id).lastError.toUTF8.toList = bytes
  cases buffer with
  | none => exact ⟨rfl, trivial⟩
  | some memory =>
    by_cases empty : memory.size = 0
    · simp [empty, Shows]
    · have room : (bytes.take (memory.size - 1) ++ [0]).length =
          min bytes.length (memory.size - 1) + 1 := by
        simp [Nat.min_comm]
      have fits : (bytes.take (memory.size - 1) ++ [0] ++
          memory.toBytes.drop (min bytes.length (memory.size - 1) + 1)).length = memory.size := by
        rw [List.length_append, room, List.length_drop, Memory.length_toBytes]
        omega
      simp only [empty, if_false, Shows]
      refine ⟨trivial, rfl, ?_⟩
      rw [Memory.toBytes_write, List.take_zero, Nat.zero_sub, List.replicate_zero, List.nil_append,
        List.nil_append, Nat.zero_add, room, List.take_of_length_le (Nat.le_of_eq fits)]

/-- A moment in a sequence of calls and the call that is made then. -/
structure Images (host : Host σ ι) (account : Account σ ι) (id : Nat) (call : CCall) : Prop where
  /-- The process is the facade's, and its threads keep their most recent failures. -/
  mirrors : host.Mirrors account.host account.message
  /-- What the facade would answer is answered, and a success is one. -/
  answered : ∀ reply, call.outcome account.host id = some reply →
    (call.perform host id).1 = call.image reply ∧
      ((call.perform host id).1.Succeeds ↔ ∃ value, reply.result = .ok value)
  /-- A number is a length or a code. -/
  codes : ∀ code dst, (call.perform host id).1 = .number code dst →
    -6 ≤ code ∧ code ≤ maxNativeLength
  /-- What is of no use to the facade fails at once: nothing else happens. -/
  refused : call.Unfit → ∃ e,
    (call.perform host id).1 = .number (codeOf (.codec e)) call.dst ∧
      (call.perform host id).2.Mirrors account.host
        (Function.update account.message id (OffloadError.codec e).message)
  /-- Every thread may ask for the text of its last failure, which changes nothing. -/
  text : ∀ any buffer, ∃ written,
    (CCall.lastError buffer).perform host any =
        (.text (account.message any).toUTF8.toList.length written, host) ∧
      Shows (account.message any).toUTF8.toList buffer written

theorem images_facade {start : Host σ ι} (fresh : ∀ id, (start.thread id).lastError = "")
    (before : List (Nat × CCall)) (id : Nat) (call : CCall) :
    Images (after start before) (.of start before) id call := by
  have first : start.Mirrors start (Account.of start []).message :=
    ⟨rfl, rfl, rfl, fun _ => rfl, fresh⟩
  have mirrors : (after start before).Mirrors (Account.of start before).host
      (Account.of start before).message := mirrors_foldl first before
  refine ⟨mirrors, fun reply outcome => ?_, fun code dst returned => ?_, fun unfit => ?_,
    fun any buffer => ?_⟩
  · obtain ⟨answered, -⟩ := perform_mirrors mirrors outcome
    rw [answered]
    exact ⟨rfl, succeeds_image outcome⟩
  · exact codes_image mirrors returned
  · obtain ⟨e, refused⟩ := call.unfit_iff.1 unfit
    have outcome : call.outcome (Account.of start before).host id =
        some ⟨.error (.codec e), call.dst, (Account.of start before).host⟩ := by
      simp [CCall.outcome, refused]
    obtain ⟨answered, later⟩ := perform_mirrors mirrors outcome
    refine ⟨e, ?_, later⟩
    rw [answered]
    cases call with
    | compress src length dst => rfl
    | decompress src offset length dst => rfl
    | _ => exact unfit.elim
  · obtain ⟨length, shown⟩ := lastError_shows (after start before) any buffer
    rw [mirrors.message] at length shown
    exact ⟨_, by rw [CCall.perform, length], shown⟩

/-- A thread calls too early, binds the library and asks for a bound, while another one fails. -/
theorem images_facade_early :
    let before : List (Nat × CCall) :=
      [(0, .maxCompressedLength 3), (1, .compress none 3 none), (0, .init)]
    Images (after Host.idle before) (.of Host.idle before) 0 (.maxCompressedLength 3) ∧
      (Account.of Host.idle before).message 0 = LinkError.notInitialized.message ∧
      (Account.of Host.idle before).message 1 = "Can't get compressor input buffer" :=
  ⟨images_facade (fun _ => rfl) _ _ _, rfl, rfl⟩

end CInterface

end OffloadCodec

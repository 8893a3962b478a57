import Mathlib.Algebra.Group.Prod
import Mathlib.Algebra.Order.Group.Multiset
import Mathlib.Data.Multiset.Count
import OffloadCodec.Proofs.Calls.Observed

/-!
# The ledger of native resources

A journal of calls is a ledger of what the library has handed out and got back: memory by its address,
and sessions from the moment they are set up by their numbers. `Sound` journals have no call that must
not be made: nothing is freed that is not out, and a session is used and torn down only while it is
set up, so never again after its end (`Sound.not_after_end`).

An `Estate` is what somebody holds. `Owns` says of a sound journal that an estate is all that is out,
save what the library has no entry point to take back. Each call changes what is owned in one way only
(`Owns.note` and the lemmas behind it).
-/

namespace OffloadCodec

variable {σ ι : Type}

/-! ## Counting calls -/

namespace NativeCall

/-- The call hands this address out. -/
def grants (address : Address) : NativeCall → Bool
  | .malloc (some granted) => granted == address
  | _ => false

/-- The call gives this address back. -/
def frees (address : Address) : NativeCall → Bool
  | .free freed => freed == address
  | _ => false

/-- The call sets a session up under this number. -/
def setsUp (number : Nat) : NativeCall → Bool
  | .codec _ none (some after) _ => after == number
  | _ => false

/-- Behind the call the session with this number is not set up any more: it was torn down, or the
library has taken it back by itself. -/
def ends (number : Nat) : NativeCall → Bool
  | .codec _ (some before) none _ => before == number
  | .teardown (some session) _ => session == number
  | _ => false

/-- The call tears this session down. -/
def tearsDown (number : Nat) : NativeCall → Bool
  | .teardown (some session) _ => session == number
  | _ => false

/-- The library takes this session back by itself. -/
def takesBack (number : Nat) : NativeCall → Bool
  | .codec _ (some before) none _ => before == number
  | _ => false

theorem setsUp_iff {call : NativeCall} {number : Nat} :
    call.setsUp number = true ↔
      ∃ operation status, call = .codec operation none (some number) status := by
  constructor
  · intro sets
    unfold setsUp at sets
    split at sets
    · obtain rfl := beq_iff_eq.1 sets
      exact ⟨_, _, rfl⟩
    · cases sets
  · rintro ⟨operation, status, rfl⟩
    exact beq_self_eq_true number

end NativeCall

/-- How often an address was handed out. -/
def granted (calls : List NativeCall) (address : Address) : Nat := calls.countP (·.grants address)

/-- How often it was given back. -/
def freed (calls : List NativeCall) (address : Address) : Nat := calls.countP (·.frees address)

/-- How often a session was set up under a number. -/
def setUps (calls : List NativeCall) (number : Nat) : Nat := calls.countP (·.setsUp number)

/-- How often it ended. -/
def ended (calls : List NativeCall) (number : Nat) : Nat := calls.countP (·.ends number)

/-- How often it was torn down. -/
def tornDown (calls : List NativeCall) (number : Nat) : Nat := calls.countP (·.tearsDown number)

/-- How often the library took it back by itself. -/
def takenBack (calls : List NativeCall) (number : Nat) : Nat := calls.countP (·.takesBack number)

section Counts

variable (calls more : List NativeCall) (address : Address) (number : Nat)

theorem granted_append :
    granted (calls ++ more) address = granted calls address + granted more address :=
  List.countP_append

theorem freed_append : freed (calls ++ more) address = freed calls address + freed more address :=
  List.countP_append

theorem setUps_append : setUps (calls ++ more) number = setUps calls number + setUps more number :=
  List.countP_append

theorem ended_append : ended (calls ++ more) number = ended calls number + ended more number :=
  List.countP_append

theorem ended_eq : ended calls number = tornDown calls number + takenBack calls number := by
  induction calls with
  | nil => rfl
  | cons call calls ih =>
    have here : (if call.ends number = true then 1 else 0) =
        (if call.tearsDown number = true then 1 else 0) +
          (if call.takesBack number = true then 1 else 0) := by
      cases call with
      | codec operation before after status =>
        rcases before with _ | before
        · rfl
        rcases after with _ | after
        · exact (Nat.zero_add _).symm
        · rfl
      | teardown session status =>
        cases session with
        | none => rfl
        | some session => rfl
      | defaults _ _ => rfl
      | bound _ => rfl
      | malloc _ => rfl
      | free _ => rfl
    rw [ended, tornDown, takenBack] at ih ⊢
    rw [List.countP_cons, List.countP_cons, List.countP_cons]
    omega

/-- One call counts for one key. -/
theorem countP_singleton_eq {call : NativeCall} {p : NativeCall → Bool} {value key : Nat}
    (same : p call = (value == key)) : [call].countP p = ({value} : Multiset Nat).count key := by
  rw [List.countP_singleton, Multiset.count_singleton]
  by_cases equal : key = value
  · rw [if_pos equal, same, equal, beq_self_eq_true]
    rfl
  · have different : (value == key) = false := beq_eq_false_iff_ne.2 (Ne.symm equal)
    rw [if_neg equal, same, different]
    rfl

end Counts

/-! ## Sound journals -/

/-- The call may be made behind these calls. A session that is set up is known by the number of calls
before it, and keeps this number. -/
def NativeCall.Allowed (calls : List NativeCall) : NativeCall → Prop
  | .codec _ none none _ => True
  | .codec _ none (some after) _ => after = calls.length
  | .codec _ (some before) after _ =>
    ended calls before < setUps calls before ∧ (after = some before ∨ after = none)
  | .defaults _ _ => True
  | .bound _ => True
  | .malloc _ => True
  | .free address => freed calls address < granted calls address
  | .teardown (some session) _ => ended calls session < setUps calls session
  | .teardown none _ => False

/-- Each call was allowed behind the calls before it. -/
inductive Sound : List NativeCall → Prop
  | nil : Sound []
  | snoc {calls : List NativeCall} {call : NativeCall} (sound : Sound calls)
    (allowed : call.Allowed calls) : Sound (calls ++ [call])

namespace Sound

variable {calls earlier later : List NativeCall} {call : NativeCall} {number : Nat}

theorem append_left (sound : Sound calls) (parts : calls = earlier ++ later) : Sound earlier := by
  induction sound generalizing later with
  | nil =>
    obtain ⟨rfl, -⟩ := List.append_eq_nil_iff.1 parts.symm
    exact .nil
  | @snoc before last sound allowed ih =>
    rcases List.eq_nil_or_concat later with rfl | ⟨front, call, rfl⟩
    · rw [List.append_nil] at parts
      rw [← parts]
      exact .snoc sound allowed
    · rw [List.concat_eq_append, ← List.append_assoc] at parts
      exact ih (List.append_inj' parts rfl).1

/-- Every call of a sound journal was allowed. -/
theorem allowed (sound : Sound (earlier ++ call :: later)) : call.Allowed earlier := by
  have upTo : Sound (earlier ++ [call]) :=
    sound.append_left (by rw [List.append_assoc, List.singleton_append])
  generalize parts : earlier ++ [call] = calls at upTo
  cases upTo with
  | nil => cases List.append_ne_nil_of_right_ne_nil earlier (List.cons_ne_nil call []) parts
  | snoc sound allowed =>
    obtain ⟨rfl, last⟩ := List.append_inj' parts rfl
    obtain rfl := List.singleton_inj.1 last
    exact allowed

/-- No number is given twice. -/
theorem setUps_le_one (sound : Sound calls) (number : Nat) :
    setUps calls number ≤ 1 ∧ (calls.length ≤ number → setUps calls number = 0) := by
  induction sound with
  | nil => exact ⟨Nat.zero_le 1, fun _ => rfl⟩
  | @snoc calls call sound allowed ih =>
    obtain ⟨once, fresh⟩ := ih
    rw [setUps_append, List.length_append, List.length_singleton]
    have one : setUps [call] number = 0 ∨ setUps [call] number = 1 ∧ number = calls.length := by
      rw [setUps, List.countP_singleton]
      cases set : call.setsUp number with
      | false => exact .inl rfl
      | true =>
        obtain ⟨operation, status, rfl⟩ := NativeCall.setsUp_iff.1 set
        exact .inr ⟨rfl, allowed⟩
    omega

/-- A session that has ended is not used again. -/
theorem not_live_of_ended (sound : Sound calls) (gone : 0 < ended calls number) :
    ¬ ended calls number < setUps calls number := by
  have once := (sound.setUps_le_one number).1
  omega

/-- Behind the end of a session there is neither a codec call nor another end of it. -/
theorem not_after_end {last : NativeCall} {between : List NativeCall}
    (sound : Sound (earlier ++ last :: between ++ call :: later)) (gone : last.ends number = true) :
    (∀ operation after status, call ≠ .codec operation (some number) after status) ∧
      ∀ status, call ≠ .teardown (some number) status := by
  have some : 0 < ended (earlier ++ last :: between) number := by
    rw [ended_append]
    have here : 0 < ended (last :: between) number :=
      List.countP_pos_iff.2 ⟨last, List.mem_cons_self, gone⟩
    omega
  have not := (sound.append_left rfl).not_live_of_ended some
  have allowed := sound.allowed
  constructor
  · rintro operation after status rfl
    exact not allowed.1
  · rintro status rfl
    exact not allowed

end Sound

/-! ## Owning -/

/-- Addresses of native memory, and numbers of sessions that are set up. -/
abbrev Estate := Multiset Address × Multiset Nat

/-- A buffer that lies there, if it is from the library's allocator. -/
def Estate.ofMemory : Option Address → Estate
  | none => 0
  | some address => ({address}, 0)

/-- A session with this number, if it is set up. -/
def Estate.ofSession : Option Nat → Estate
  | none => 0
  | some number => (0, {number})

/-- Nothing is out but this estate, save what the library has no entry point to take back. Then it was
not asked to. -/
structure Owns (library : Library σ ι) (state : Observed σ) (estate : Estate) : Prop where
  sound : Sound state.journal
  memory_le : ∀ address, freed state.journal address + estate.1.count address ≤
    granted state.journal address
  memory : library.entries.free.isSome = true → ∀ address,
    granted state.journal address = freed state.journal address + estate.1.count address
  sessions_le : ∀ number, ended state.journal number + estate.2.count number ≤
    setUps state.journal number
  sessions : library.entries.teardown.isSome = true → ∀ number,
    setUps state.journal number = ended state.journal number + estate.2.count number
  noFree : library.entries.free = none → ∀ address, .free address ∉ state.journal
  noTeardown : library.entries.teardown = none → ∀ session status,
    .teardown session status ∉ state.journal

namespace Owns

variable {library : Library σ ι} {state : Observed σ} {estate estate' rest : Estate}

/-- A library that was not called has handed nothing out. -/
theorem start (fresh : state.journal = []) : Owns library state 0 := by
  obtain ⟨native, journal⟩ := state
  obtain rfl : journal = [] := fresh
  exact ⟨.nil, fun _ => Nat.le_refl 0, fun _ _ => rfl, fun _ => Nat.le_refl 0, fun _ _ => rfl,
    fun _ _ => List.not_mem_nil, fun _ _ _ => List.not_mem_nil⟩

/-- One more call that is allowed, where the estate changes as the call says. -/
theorem note (owns : Owns library state estate) (native : σ) {call : NativeCall}
    (allowed : call.Allowed state.journal)
    (memory : ∀ address, freed [call] address + estate'.1.count address =
      granted [call] address + estate.1.count address)
    (sessions : ∀ number, ended [call] number + estate'.2.count number =
      setUps [call] number + estate.2.count number)
    (frees : library.entries.free = none → ∀ address, call ≠ .free address)
    (teardowns : library.entries.teardown = none → ∀ session status,
      call ≠ .teardown session status) :
    Owns library (state.note native call) estate' where
  sound := .snoc owns.sound allowed
  memory_le address := by
    have before := owns.memory_le address
    have now := memory address
    rw [Observed.journal_note, granted_append, freed_append]
    omega
  memory exported address := by
    have before := owns.memory exported address
    have now := memory address
    rw [Observed.journal_note, granted_append, freed_append]
    omega
  sessions_le number := by
    have before := owns.sessions_le number
    have now := sessions number
    rw [Observed.journal_note, setUps_append, ended_append]
    omega
  sessions exported number := by
    have before := owns.sessions exported number
    have now := sessions number
    rw [Observed.journal_note, setUps_append, ended_append]
    omega
  noFree absent address member := by
    rcases List.mem_append.1 member with member | member
    · exact owns.noFree absent address member
    · exact frees absent address (List.mem_singleton.1 member).symm
  noTeardown absent session status member := by
    rcases List.mem_append.1 member with member | member
    · exact owns.noTeardown absent session status member
    · exact teardowns absent session status (List.mem_singleton.1 member).symm

theorem bound (owns : Owns library state estate) (native : σ) (length : UInt32) :
    Owns library (state.note native (.bound length)) estate :=
  owns.note native trivial (fun _ => rfl) (fun _ => rfl) (fun _ _ => nofun) (fun _ _ _ => nofun)

theorem defaults (owns : Owns library state estate) (native : σ) (operation : Operation)
    (status : Int32) : Owns library (state.note native (.defaults operation status)) estate :=
  owns.note native trivial (fun _ => rfl) (fun _ => rfl) (fun _ _ => nofun) (fun _ _ _ => nofun)

/-- What is granted is owned. -/
theorem malloc (owns : Owns library state estate) (native : σ) (granted? : Option Address) :
    Owns library (state.note native (.malloc granted?)) (.ofMemory granted? + estate) := by
  cases granted? with
  | none =>
    rw [Estate.ofMemory, zero_add]
    exact owns.note native trivial (fun _ => rfl) (fun _ => rfl) (fun _ _ => nofun)
      (fun _ _ _ => nofun)
  | some granted =>
    refine owns.note native trivial (fun address => ?_) (fun number => ?_) (fun _ _ => nofun)
      (fun _ _ _ => nofun)
    · have one : OffloadCodec.granted [.malloc (some granted)] address =
          ({granted} : Multiset Address).count address := countP_singleton_eq rfl
      rw [one]
      exact (Nat.zero_add _).trans (Multiset.count_add address _ _)
    · exact congrArg (0 + Multiset.count number ·) (zero_add estate.2)

/-- What is owned can be freed, and then is not owned any more. -/
theorem free {address : Address} (owns : Owns library state (.ofMemory (some address) + estate))
    (exported : library.entries.free.isSome = true) (native : σ) :
    Owns library (state.note native (.free address)) estate := by
  have held : ∀ other, (Estate.ofMemory (some address) + estate).1.count other =
      ({address} : Multiset Address).count other + estate.1.count other :=
    fun other => Multiset.count_add other _ _
  refine owns.note native ?_ (fun other => ?_) (fun number => ?_) ?_ (fun _ _ _ => nofun)
  · have some : 0 < ({address} : Multiset Address).count address := by
      rw [Multiset.count_singleton_self]
      exact Nat.one_pos
    have out := owns.memory exported address
    rw [held] at out
    change freed state.journal address < granted state.journal address
    omega
  · have one : freed [.free address] other = ({address} : Multiset Address).count other :=
      countP_singleton_eq rfl
    rw [one, held]
    exact (Nat.zero_add _).symm
  · exact congrArg (0 + Multiset.count number ·) (zero_add estate.2).symm
  · intro absent
    rw [absent] at exported
    cases exported

/-- What cannot be given back is owned no more without a call. -/
theorem abandon {lost : Estate} (owns : Owns library state (lost + estate))
    (memory : library.entries.free.isSome = true → lost.1 = 0)
    (sessions : library.entries.teardown.isSome = true → lost.2 = 0) :
    Owns library state estate where
  sound := owns.sound
  memory_le address := by
    have held : (lost + estate).1.count address = lost.1.count address + estate.1.count address :=
      Multiset.count_add address _ _
    have before := owns.memory_le address
    omega
  memory exported address := by
    have held : (lost + estate).1 = estate.1 := by
      rw [Prod.fst_add, memory exported, zero_add]
    have before := owns.memory exported address
    rwa [held] at before
  sessions_le number := by
    have held : (lost + estate).2.count number = lost.2.count number + estate.2.count number :=
      Multiset.count_add number _ _
    have before := owns.sessions_le number
    omega
  sessions exported number := by
    have held : (lost + estate).2 = estate.2 := by
      rw [Prod.snd_add, sessions exported, zero_add]
    have before := owns.sessions exported number
    rwa [held] at before
  noFree := owns.noFree
  noTeardown := owns.noTeardown

section Sessions

variable {number : Nat}

theorem count_session (number other : Nat) (estate : Estate) :
    (Estate.ofSession (some number) + estate).2.count other =
      ({number} : Multiset Nat).count other + estate.2.count other :=
  Multiset.count_add other _ _

/-- A session that is owned is set up. -/
theorem live (owns : Owns library state (.ofSession (some number) + estate)) :
    ended state.journal number < setUps state.journal number := by
  have some : ({number} : Multiset Nat).count number = 1 := Multiset.count_singleton_self number
  have out := owns.sessions_le number
  rw [count_session, some] at out
  omega

/-- A session that is owned can be torn down, and then is not owned any more. -/
theorem teardown (owns : Owns library state (.ofSession (some number) + estate))
    (exported : library.entries.teardown.isSome = true) (native : σ) (status : Int32) :
    Owns library (state.note native (.teardown (some number) status)) estate := by
  refine owns.note native owns.live (fun address => ?_) (fun other => ?_) (fun _ _ => nofun) ?_
  · exact congrArg (0 + Multiset.count address ·) (zero_add estate.1).symm
  · have one : ended [.teardown (some number) status] other =
        ({number} : Multiset Nat).count other := countP_singleton_eq rfl
    rw [one, count_session]
    exact (Nat.zero_add _).symm
  · intro absent
    rw [absent] at exported
    cases exported

/-- A codec call sets its session up, keeps it, or takes it back. -/
theorem codec {before after : Option Nat} (owns : Owns library state (.ofSession before + estate))
    (keeps : after = none ∨ after = some (before.getD state.journal.length)) (native : σ)
    (operation : Operation) (status : Int32) :
    Owns library (state.note native (.codec operation before after status))
      (.ofSession after + estate) := by
  have memory : ∀ (one other : Option Nat) (address : Address),
      freed [.codec operation before after status] address +
          (Estate.ofSession one + estate).1.count address =
        granted [.codec operation before after status] address +
          (Estate.ofSession other + estate).1.count address := by
    intro one other address
    have same : ∀ session, (Estate.ofSession session + estate).1 = estate.1 := by
      intro session
      cases session with
      | none => exact zero_add estate.1
      | some number => exact zero_add estate.1
    rw [same, same]
    rfl
  rcases before with _ | number
  · rcases keeps with rfl | rfl
    · exact owns.note native trivial (memory none none) (fun _ => rfl) (fun _ _ => nofun)
        (fun _ _ _ => nofun)
    · refine owns.note native rfl (memory _ none) (fun other => ?_) (fun _ _ => nofun)
        (fun _ _ _ => nofun)
      have one : setUps [.codec operation none (some state.journal.length) status] other =
          ({state.journal.length} : Multiset Nat).count other := countP_singleton_eq rfl
      have none : (Estate.ofSession none + estate).2 = estate.2 := zero_add estate.2
      rw [Option.getD_none, one, none, count_session]
      exact Nat.zero_add _
  · rcases keeps with rfl | rfl
    · refine owns.note native ⟨owns.live, .inr rfl⟩ (memory none _) (fun other => ?_)
        (fun _ _ => nofun) (fun _ _ _ => nofun)
      have one : ended [.codec operation (some number) none status] other =
          ({number} : Multiset Nat).count other := countP_singleton_eq rfl
      have none : (Estate.ofSession none + estate).2 = estate.2 := zero_add estate.2
      rw [one, none, count_session]
      exact (Nat.zero_add _).symm
    · exact owns.note native ⟨owns.live, .inl rfl⟩ (memory _ _) (fun _ => rfl) (fun _ _ => nofun)
        (fun _ _ _ => nofun)

end Sessions

end Owns

end OffloadCodec

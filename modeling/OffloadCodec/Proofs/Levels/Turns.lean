import Mathlib
import OffloadCodec.Proofs.Calls.Streams
import OffloadCodec.Proofs.Levels.Latches
import OffloadCodec.Proofs.Likeness.Reading

/-!
# One user among others

A history is the order in which a library is called, by whomever. The calls of one user are a part
of it, and each of them finds the library in the state that all calls before it have led to, the
user's own and those of others (`EntryPoints.visits`).

`Library.shared` is the library as such a user sees it. Its state is `Turns`, the states that the
user's calls are going to find, codec calls and others apart, and the calls that the user has made
so far. So anything that works with a library can be run as one user of it, and everybody else goes
on with their calls between any two of the user's.

`Turns.Serves` is what then holds of the user's one session at any time: it has no level before its
first codec call and one level from then on, its totals are the sums over the calls made for it, and
each of these came to what the level makes of it. With that, the shared library and the plain one
look alike to the session (`Library.sharedLikeness`).
-/

namespace OffloadCodec

variable {σ ι κ : Type}

/-! ## Histories -/

/-- A call and the state that it finds. -/
abbrev Visit (σ ι : Type) := LibraryCall ι × σ

/-- The calls of one user in a history that begins in a state of the library. -/
def EntryPoints.visits [DecidableEq κ] (entries : EntryPoints σ ι) (user : κ) (native : σ) :
    List (κ × LibraryCall ι) → List (Visit σ ι)
  | [] => []
  | (caller, call) :: later =>
    let rest := entries.visits user (call.leaves entries native) later
    if caller = user then (call, native) :: rest else rest

/-- The state that a history leads to. -/
def EntryPoints.after (entries : EntryPoints σ ι) (native : σ)
    (history : List (κ × LibraryCall ι)) : σ :=
  history.foldl (fun native turn => turn.2.leaves entries native) native

/-- A codec call in a state of the library came to what the level makes of it. -/
def Visit.CodedAt (entries : EntryPoints σ ι) (codec : LevelCodec) (level : UInt32) :
    Visit σ ι → Prop
  | (.compress record input capacity last, native) =>
    last = true ∧ (codec.compress level input capacity).Matches
      (entries.compress record input capacity last native).1
  | (.decompress record input capacity, native) =>
    (codec.decompress level input capacity).Matches
      (entries.decompress record input capacity native).1
  | _ => True

namespace LibraryCall

/-- What a codec call comes to at a level. -/
def outcome? (codec : LevelCodec) (level : UInt32) : LibraryCall ι → Option CodecOutcome
  | compress _ input capacity _ => some (codec.compress level input capacity)
  | decompress _ input capacity => some (codec.decompress level input capacity)
  | _ => none

theorem outcome?_eq_none {call : LibraryCall ι} (isCodec : call.isCodec = false)
    (codec : LevelCodec) (level : UInt32) : call.outcome? codec level = none := by
  cases call with
  | compress => nomatch isCodec
  | decompress => nomatch isCodec
  | _ => rfl

/-- Bytes that a session takes in with the call. -/
def takenIn (codec : LevelCodec) (level : UInt32) (call : LibraryCall ι) : UInt64 :=
  ((call.outcome? codec level).map CodecOutcome.takenIn).getD 0

/-- Bytes that a session gives out with the call. -/
def givenOut (codec : LevelCodec) (level : UInt32) (call : LibraryCall ι) : UInt64 :=
  ((call.outcome? codec level).map CodecOutcome.givenOut).getD 0

end LibraryCall

namespace EntryPoints

variable [DecidableEq κ] {entries : EntryPoints σ ι} {user : κ} {native found : σ}
  {history : List (κ × LibraryCall ι)} {call : LibraryCall ι}

theorem mem_visits (made : (user, call) ∈ history) :
    ∃ found, (call, found) ∈ entries.visits user native history := by
  induction history generalizing native with
  | nil => nomatch made
  | cons first later ih =>
    obtain ⟨caller, other⟩ := first
    unfold visits
    rcases List.mem_cons.1 made with same | made
    · obtain ⟨rfl, rfl⟩ := Prod.mk.inj same
      rw [if_pos rfl]
      exact ⟨native, List.mem_cons_self ..⟩
    · obtain ⟨found, member⟩ := ih made
      dsimp only
      split
      · exact ⟨found, List.mem_cons_of_mem _ member⟩
      · exact ⟨found, member⟩

/-- Where one of the user's calls stands in the history. -/
theorem visits_split {before after : List (Visit σ ι)}
    (made : entries.visits user native history = before ++ (call, found) :: after) :
    ∃ earlier later, history = earlier ++ (user, call) :: later ∧
      found = entries.after native earlier ∧
      after = entries.visits user (call.leaves entries found) later := by
  induction history generalizing native before with
  | nil => simp [visits] at made
  | cons first rest ih =>
    obtain ⟨caller, other⟩ := first
    unfold visits at made
    dsimp only at made
    -- The call is the first one of the history, or it stands behind that.
    have behind : ∀ before, entries.visits user (other.leaves entries native) rest =
        before ++ (call, found) :: after →
        ∃ earlier later, (caller, other) :: rest = earlier ++ (user, call) :: later ∧
          found = entries.after native earlier ∧
          after = entries.visits user (call.leaves entries found) later := by
      intro before made
      obtain ⟨earlier, later, rfl, reached, visited⟩ := ih made
      exact ⟨(caller, other) :: earlier, later, rfl, reached, visited⟩
    split at made
    · next own =>
      cases before with
      | nil =>
        obtain ⟨same, visited⟩ := List.cons.inj made
        obtain ⟨rfl, rfl⟩ := Prod.mk.inj same
        exact ⟨[], rest, by rw [own]; rfl, rfl, visited.symm⟩
      | cons _ before => exact behind before (List.cons.inj made).2
    · exact behind before made

end EntryPoints

namespace EntryPoints.LatchesLevel

variable {entries : EntryPoints σ ι} {normal : σ → Prop} {params : σ → RawParams}
  {latched : SessionRecord ι → Option UInt32} {codec : LevelCodec}
  (latches : entries.LatchesLevel normal params latched codec)
include latches

theorem normal_after {native : σ} (before : normal native) (history : List (κ × LibraryCall ι)) :
    normal (entries.after native history) := by
  induction history generalizing native with
  | nil => exact before
  | cons first later ih => exact ih (latches.keeps first.2 native before)

theorem normal_visits [DecidableEq κ] (user : κ) {native : σ} (before : normal native)
    (history : List (κ × LibraryCall ι)) :
    ∀ visit ∈ entries.visits user native history, normal visit.2 := by
  intro visit member
  obtain ⟨call, found⟩ := visit
  obtain ⟨front, back, split⟩ := List.append_of_mem member
  obtain ⟨earlier, later, -, rfl, -⟩ := visits_split split
  exact latches.normal_after before earlier

/-- As long as nobody replaces the defaults their level stays. -/
theorem level_after {native : σ} (before : normal native) {history : List (κ × LibraryCall ι)}
    (spares : ∀ turn ∈ history, turn.2.setsDefaults = false) :
    (params (entries.after native history)).level = (params native).level := by
  induction history generalizing native with
  | nil => rfl
  | cons first later ih =>
    have same := latches.keepsLevel first.2 native before (spares _ (List.mem_cons_self ..))
    exact (ih (latches.keeps first.2 native before)
      fun turn member => spares turn (List.mem_cons_of_mem _ member)).trans same

theorem level_visits [DecidableEq κ] (user : κ) {native : σ} (before : normal native)
    {history : List (κ × LibraryCall ι)} (spares : ∀ turn ∈ history, turn.2.setsDefaults = false) :
    ∀ visit ∈ entries.visits user native history,
      (params visit.2).level = (params native).level := by
  intro visit member
  obtain ⟨call, found⟩ := visit
  obtain ⟨front, back, split⟩ := List.append_of_mem member
  obtain ⟨earlier, later, rfl, rfl, -⟩ := visits_split split
  exact latches.level_after before
    fun turn member => spares turn (List.mem_append_left _ member)

end EntryPoints.LatchesLevel

/-! ## The library as one user sees it -/

/-- The states that a user's calls find, and the calls made so far. -/
structure Turns (σ ι : Type) where
  /-- What the codec calls find, by number. -/
  codec : Nat → σ
  /-- What the other calls find. -/
  other : Nat → σ
  made : List (Visit σ ι) := []

namespace Turns

/-- The state that a call finds now. -/
def finds (turns : Turns σ ι) (call : LibraryCall ι) : σ :=
  let before := turns.made.countP (·.1.isCodec = call.isCodec)
  if call.isCodec then turns.codec before else turns.other before

/-- The call is made. -/
def note (turns : Turns σ ι) (call : LibraryCall ι) : Turns σ ι :=
  { turns with made := turns.made ++ [(call, turns.finds call)] }

/-- What a user finds who makes these calls, and has the library in the state `rest` then. -/
def of (visits : List (Visit σ ι)) (rest : σ) : Turns σ ι where
  codec n := ((visits.filter (·.1.isCodec))[n]?.map Prod.snd).getD rest
  other n := ((visits.filter (!·.1.isCodec))[n]?.map Prod.snd).getD rest

/-- A codec call has been made. -/
def hasCoded (turns : Turns σ ι) : Bool := turns.made.any (·.1.isCodec)

/-- Behind these calls the user has made others, all of a kind. -/
def Adds (kind : LibraryCall ι → Prop) (before : List (Visit σ ι)) (turns : Turns σ ι) : Prop :=
  ∃ more, turns.made = before ++ more ∧ ∀ visit ∈ more, kind visit.1

end Turns

/-- What a user finds in a history. -/
def EntryPoints.turns [DecidableEq κ] (entries : EntryPoints σ ι) (user : κ) (native : σ)
    (history : List (κ × LibraryCall ι)) : Turns σ ι :=
  .of (entries.visits user native history) (entries.after native history)

/-- What a user does between two worlds is its part of a history that begins in a normal state. -/
structure EntryPoints.Part [DecidableEq κ] (entries : EntryPoints σ ι) (normal : σ → Prop)
    (user : κ) (native : σ) (history : List (κ × LibraryCall ι))
    (world after : World (Turns σ ι)) : Prop where
  start : normal native
  finds : world.native = entries.turns user native history
  made : after.native.made = entries.visits user native history

/-- The level that is in force at a user's first codec call, or if there is none at the end. -/
def EntryPoints.levelFound [DecidableEq κ] (entries : EntryPoints σ ι) (params : σ → RawParams)
    (user : κ) (native : σ) (history : List (κ × LibraryCall ι)) : UInt32 :=
  (params ((entries.turns user native history).codec 0)).level

theorem EntryPoints.levelFound_eq [DecidableEq κ] {entries : EntryPoints σ ι} {user : κ}
    {native : σ} {history : List (κ × LibraryCall ι)} {visit : Visit σ ι} (params : σ → RawParams)
    (first : (entries.visits user native history).find? (·.1.isCodec) = some visit) :
    entries.levelFound params user native history = (params visit.2).level := by
  have here : ((entries.visits user native history).filter (·.1.isCodec))[0]? = some visit := by
    rw [← List.head?_eq_getElem?, List.head?_filter, first]
  unfold levelFound turns Turns.of
  dsimp only
  rw [here]
  rfl

/-- The entry points as one user sees them. -/
def EntryPoints.shared (entries : EntryPoints σ ι) : EntryPoints (Turns σ ι) ι where
  compress record input capacity last turns :=
    let call := .compress record input capacity last
    ((entries.compress record input capacity last (turns.finds call)).1, turns.note call)
  decompress record input capacity turns :=
    let call := .decompress record input capacity
    ((entries.decompress record input capacity (turns.finds call)).1, turns.note call)
  getDefaults raw turns :=
    ((entries.getDefaults raw (turns.finds (.getDefaults raw))).1, turns.note (.getDefaults raw))
  setDefaults raw turns :=
    ((entries.setDefaults raw (turns.finds (.setDefaults raw))).1, turns.note (.setDefaults raw))
  maxCompressedLength length turns :=
    let call := .maxCompressedLength length
    ((entries.maxCompressedLength length (turns.finds call)).1, turns.note call)
  malloc size numa pinned turns :=
    let call := .malloc size numa pinned
    ((entries.malloc size numa pinned (turns.finds call)).1, turns.note call)
  free := entries.free.map fun _ address turns => turns.note (.free address)
  teardown := entries.teardown.map fun ending record turns =>
    ((ending record (turns.finds (.teardown record))).1, turns.note (.teardown record))

/-- The library as one user sees it. -/
def Library.shared (library : Library σ ι) : Library (Turns σ ι) ι :=
  ⟨library.name, library.path?, library.entries.shared⟩

/-! ## The user's session -/

section Serving

variable (entries : EntryPoints σ ι) (normal : σ → Prop) (params : σ → RawParams)
  (latched : SessionRecord ι → Option UInt32) (codec : LevelCodec) (level : UInt32)

/-- How the user's session stands: `level` is the one in force when its first codec call is made. -/
structure Turns.Serves (record : SessionRecord ι) (turns : Turns σ ι) : Prop where
  atCodec : ∀ n, normal (turns.codec n)
  atOther : ∀ n, normal (turns.other n)
  inForce : (params (turns.codec 0)).level = level
  latched : latched record = if turns.hasCoded then some level else none
  totalIn : record.totalIn = (turns.made.map (·.1.takenIn codec level)).sum
  totalOut : record.totalOut = (turns.made.map (·.1.givenOut codec level)).sum
  coded : ∀ visit ∈ turns.made, Visit.CodedAt entries codec level visit

/-- A session among others, and one that is alone. -/
structure Turns.Alike (record : SessionRecord ι) (turns : Turns σ ι) (alone : SessionRecord ι)
    (native : σ) : Prop where
  serves : turns.Serves entries normal params latched codec level record
  normal : normal native
  latched : latched alone = latched record
  totals : record.totals = alone.totals
  inForce : turns.hasCoded = false → (params native).level = level

end Serving

section Steps

variable {entries : EntryPoints σ ι} {normal : σ → Prop} {params : σ → RawParams}
  {latched : SessionRecord ι → Option UInt32} {codec : LevelCodec} {level : UInt32}
  {record alone : SessionRecord ι} {turns : Turns σ ι} {native : σ} {call : LibraryCall ι}

namespace Turns

theorem hasCoded_note (turns : Turns σ ι) (call : LibraryCall ι) :
    (turns.note call).hasCoded = (turns.hasCoded || call.isCodec) := by
  simp [hasCoded, note]

theorem Adds.refl (kind : LibraryCall ι → Prop) (turns : Turns σ ι) :
    turns.Adds kind turns.made :=
  ⟨[], (List.append_nil _).symm, nofun⟩

theorem Adds.note {kind : LibraryCall ι → Prop} {before : List (Visit σ ι)}
    (adds : turns.Adds kind before) (of_kind : kind call) : (turns.note call).Adds kind before := by
  obtain ⟨more, made, others⟩ := adds
  refine ⟨more ++ [(call, turns.finds call)], ?_, fun visit member => ?_⟩
  · rw [Turns.note, made, List.append_assoc]
  · rcases List.mem_append.1 member with member | member
    · exact others visit member
    · rw [List.mem_singleton.1 member]
      exact of_kind

theorem Adds.trans {kind : LibraryCall ι → Prop} {before : List (Visit σ ι)}
    {later : Turns σ ι} (adds : turns.Adds kind before) (more : later.Adds kind turns.made) :
    later.Adds kind before := by
  obtain ⟨first, made, of_kind⟩ := adds
  obtain ⟨rest, all, of_kind'⟩ := more
  refine ⟨first ++ rest, by rw [all, made, List.append_assoc], fun visit member => ?_⟩
  exact (List.mem_append.1 member).elim (of_kind visit) (of_kind' visit)

theorem Adds.mono {kind kind' : LibraryCall ι → Prop} {before : List (Visit σ ι)}
    (adds : turns.Adds kind before) (weaker : ∀ call, kind call → kind' call) :
    turns.Adds kind' before := by
  obtain ⟨more, made, of_kind⟩ := adds
  exact ⟨more, made, fun visit member => weaker _ (of_kind visit member)⟩

/-- The first codec call finds the first of the states. -/
theorem finds_first (isCodec : call.isCodec = true) (first : turns.hasCoded = false) :
    turns.finds call = turns.codec 0 := by
  have none : turns.made.countP (·.1.isCodec = call.isCodec) = 0 := by
    rw [List.countP_eq_zero]
    intro visit found
    have other := List.any_eq_false.1 first visit found
    simpa [isCodec] using other
  rw [finds, if_pos isCodec, none]

namespace Serves

variable (serves : turns.Serves entries normal params latched codec level record)
include serves

theorem normal_finds (call : LibraryCall ι) : normal (turns.finds call) := by
  unfold finds
  split
  · exact serves.atCodec _
  · exact serves.atOther _

/-- The level that a codec call has the session coded at. -/
theorem level_finds (isCodec : call.isCodec = true) :
    (latched record).getD (params (turns.finds call)).level = level := by
  rw [serves.latched]
  by_cases before : turns.hasCoded = true
  · rw [if_pos before]
    rfl
  · rw [if_neg before, finds_first isCodec (Bool.eq_false_iff.2 before)]
    exact serves.inForce

/-- A compression by the user's session. -/
theorem compresses (latches : entries.LatchesLevel normal params latched codec) (input : Bytes)
    (capacity : UInt32) :
    (codec.compress level input capacity).Answers latched level record
      (entries.compress record input capacity true
        (turns.finds (.compress record input capacity true))).1 := by
  have answers := latches.compress record input capacity _
    (serves.normal_finds (.compress record input capacity true))
  rwa [serves.level_finds rfl] at answers

theorem decompresses (latches : entries.LatchesLevel normal params latched codec) (input : Bytes)
    (capacity : UInt32) :
    (codec.decompress level input capacity).Answers latched level record
      (entries.decompress record input capacity
        (turns.finds (.decompress record input capacity))).1 := by
  have answers := latches.decompress record input capacity _
    (serves.normal_finds (.decompress record input capacity))
  rwa [serves.level_finds rfl] at answers

/-- A codec call is made. -/
theorem code {outcome : CodecOutcome} (comes : call.outcome? codec level = some outcome)
    (isCodec : call.isCodec = true) {reply : CodecReply ι}
    (answers : outcome.Answers latched level record reply)
    (coded : Visit.CodedAt entries codec level (call, turns.finds call)) :
    (turns.note call).Serves entries normal params latched codec level reply.record where
  atCodec := serves.atCodec
  atOther := serves.atOther
  inForce := serves.inForce
  latched := by rw [hasCoded_note, isCodec, Bool.or_true, if_pos rfl, answers.latched]
  totalIn := by
    have counted : call.takenIn codec level = outcome.takenIn := by
      rw [LibraryCall.takenIn, comes]
      rfl
    rw [answers.totalIn, serves.totalIn, ← counted, note]
    simp
  totalOut := by
    have counted : call.givenOut codec level = outcome.givenOut := by
      rw [LibraryCall.givenOut, comes]
      rfl
    rw [answers.totalOut, serves.totalOut, ← counted, note]
    simp
  coded := by
    intro visit found
    rcases List.mem_append.1 found with found | found
    · exact serves.coded visit found
    · rw [List.mem_singleton.1 found]
      exact coded

/-- A call is made that codes nothing. -/
theorem pass (isCodec : call.isCodec = false) :
    (turns.note call).Serves entries normal params latched codec level record where
  atCodec := serves.atCodec
  atOther := serves.atOther
  inForce := serves.inForce
  latched := by rw [hasCoded_note, isCodec, Bool.or_false, serves.latched]
  totalIn := by
    have nothing : call.takenIn codec level = 0 := by
      rw [LibraryCall.takenIn, LibraryCall.outcome?_eq_none isCodec]
      rfl
    rw [serves.totalIn, note]
    simp [nothing]
  totalOut := by
    have nothing : call.givenOut codec level = 0 := by
      rw [LibraryCall.givenOut, LibraryCall.outcome?_eq_none isCodec]
      rfl
    rw [serves.totalOut, note]
    simp [nothing]
  coded := by
    intro visit found
    rcases List.mem_append.1 found with found | found
    · exact serves.coded visit found
    · rw [List.mem_singleton.1 found]
      cases call with
      | compress => nomatch isCodec
      | decompress => nomatch isCodec
      | _ => trivial

end Serves

end Turns

namespace Turns.Alike

variable (alike : turns.Alike entries normal params latched codec level record alone native)
include alike

/-- The session that is alone has its calls coded at the same level. -/
theorem level_alone : (latched alone).getD (params native).level = level := by
  rw [alike.latched, alike.serves.latched]
  by_cases before : turns.hasCoded = true
  · rw [if_pos before]
    rfl
  · rw [if_neg before]
    exact alike.inForce (Bool.eq_false_iff.2 before)

/-- Both sessions have the same codec call made. -/
theorem code (latches : entries.LatchesLevel normal params latched codec) {outcome : CodecOutcome}
    (call call' : LibraryCall ι) (comes : call.outcome? codec level = some outcome)
    (isCodec : call.isCodec = true)
    {reply other : CodecReply ι} (answers : outcome.Answers latched level record reply)
    (answers' : outcome.Answers latched level alone other)
    (coded : Visit.CodedAt entries codec level (call, turns.finds call)) :
    (turns.note call).Alike entries normal params latched codec level reply.record other.record
      (call'.leaves entries native) where
  serves := alike.serves.code comes isCodec answers coded
  normal := latches.keeps call' native alike.normal
  latched := by rw [answers.latched, answers'.latched]
  totals := by
    obtain ⟨sameIn, sameOut⟩ := Prod.mk.inj alike.totals
    rw [SessionRecord.totals, SessionRecord.totals, answers.totalIn, answers'.totalIn,
      answers.totalOut, answers'.totalOut, sameIn, sameOut]
  inForce first := by
    rw [hasCoded_note, isCodec, Bool.or_true] at first
    nomatch first

/-- Both make the same call that codes nothing. -/
theorem pass (latches : entries.LatchesLevel normal params latched codec)
    (isCodec : call.isCodec = false) (spares : call.setsDefaults = false) :
    (turns.note call).Alike entries normal params latched codec level record alone
      (call.leaves entries native) where
  serves := alike.serves.pass isCodec
  normal := latches.keeps call native alike.normal
  latched := alike.latched
  totals := alike.totals
  inForce first := by
    rw [hasCoded_note, isCodec, Bool.or_false] at first
    rw [latches.keepsLevel call native alike.normal spares]
    exact alike.inForce first

end Turns.Alike

end Steps

/-- To one session the library that it shares with others looks like one of its own, on which the
level is in force that the shared one has when the session's first codec call is made. -/
def Library.sharedLikeness {library : Library σ ι} {normal : σ → Prop} {params : σ → RawParams}
    {latched : SessionRecord ι → Option UInt32} {codec : LevelCodec}
    (latches : library.entries.LatchesLevel normal params latched codec) (level : UInt32) :
    library.shared.Likeness library where
  like record world alone world' :=
    world.native.Alike library.entries normal params latched codec level record alone world'.native
  placed _ _ := True
  differ _ := False
  heap := trivial
  totals alike := alike.totals
  say alike _ _ _ := alike
  compress {record world alone world'} alike input capacity := by
    have answers := alike.serves.compresses latches input capacity
    have answers' := latches.compress alone input capacity world'.native alike.normal
    rw [alike.level_alone] at answers'
    exact
      { status := answers.status.trans answers'.status.symm
        reported := answers.reported.trans answers'.reported.symm
        written := answers.written.trans answers'.written.symm
        reaches := False.elim
        like := alike.code latches (.compress record input capacity true)
          (.compress alone input capacity true) rfl rfl answers answers' ⟨rfl, answers.toMatches⟩ }
  decompress {record world alone world'} alike input capacity := by
    have answers := alike.serves.decompresses latches input capacity
    have answers' := latches.decompress alone input capacity world'.native alike.normal
    rw [alike.level_alone] at answers'
    exact
      { status := answers.status.trans answers'.status.symm
        reported := answers.reported.trans answers'.reported.symm
        written := answers.written.trans answers'.written.symm
        reaches := False.elim
        like := alike.code latches (.decompress record input capacity)
          (.decompress alone input capacity) rfl rfl answers answers' answers.toMatches }
  bound {record world alone world'} alike length :=
    ⟨latches.bound length _ _ (alike.serves.normal_finds (.maxCompressedLength length))
      alike.normal, alike.pass latches rfl rfl⟩

/-- Whether memory is granted is the same on both. -/
theorem Library.sharedLikeness_allocates {library : Library σ ι} {normal : σ → Prop}
    {params : σ → RawParams} {latched : SessionRecord ι → Option UInt32} {codec : LevelCodec}
    (latches : library.entries.LatchesLevel normal params latched codec) (level : UInt32) :
    (Library.sharedLikeness latches level).Allocates where
  granted fresh size numa pinned := latches.malloc size numa pinned _ _
    (fresh.serves.normal_finds (.malloc size numa pinned)) fresh.normal
  placed _ _ _ _ := trivial
  still fresh _ _ _ := fresh.pass latches rfl rfl

/-! ## What the user's calls keep -/

namespace Turns

/-- Whatever the user finds is one of the states of the history. -/
theorem of_all {good : σ → Prop} {visits : List (Visit σ ι)} {rest : σ}
    (found : ∀ visit ∈ visits, good visit.2) (last : good rest) (n : Nat) :
    good ((Turns.of visits rest).codec n) ∧ good ((Turns.of visits rest).other n) := by
  have entry : ∀ part : List (Visit σ ι), (∀ visit ∈ part, visit ∈ visits) →
      good ((part[n]?.map Prod.snd).getD rest) := by
    intro part within
    cases here : part[n]? with
    | none => exact last
    | some visit => exact found visit (within visit (List.mem_of_getElem? here))
  exact ⟨entry _ fun _ member => List.mem_of_mem_filter member,
    entry _ fun _ member => List.mem_of_mem_filter member⟩

end Turns

/-- A user who has made no call yet. -/
theorem EntryPoints.LatchesLevel.serves_turns [DecidableEq κ] {entries : EntryPoints σ ι}
    {normal : σ → Prop} {params : σ → RawParams} {latched : SessionRecord ι → Option UInt32}
    {codec : LevelCodec} (latches : entries.LatchesLevel normal params latched codec) (user : κ)
    {native : σ} (before : normal native) (history : List (κ × LibraryCall ι)) :
    (entries.turns user native history).Serves entries normal params latched codec
      (entries.levelFound params user native history) {} := by
  have found := Turns.of_all (latches.normal_visits user before history)
    (latches.normal_after before history)
  exact
    { atCodec := fun n => (found n).1
      atOther := fun n => (found n).2
      inForce := rfl
      latched := latches.fresh
      totalIn := rfl
      totalOut := rfl
      coded := nofun }

section Kept

variable {library : Library σ ι} {kept : Turns σ ι → Prop}

/-- Making an object keeps what calls keep that code nothing and leave the defaults alone. -/
theorem Library.shared_obtains
    (passes : ∀ turns call, call.isCodec = false → call.setsDefaults = false → kept turns →
      kept (turns.note call)) :
    library.shared.Obtains (fun world => kept world.native) where
  maxCompressedLength length world := passes world.native (.maxCompressedLength length) rfl rfl
  malloc size numa pinned world := passes world.native (.malloc size numa pinned) rfl rfl
  free release found address world before := by
    obtain ⟨_, -, rfl⟩ := Option.map_eq_some_iff.1 found
    exact passes world.native (.free address) rfl rfl before

/-- Making an object codes nothing and replaces no defaults. -/
theorem Library.shared_adds (library : Library σ ι) (before : List (Visit σ ι)) :
    library.shared.Obtains fun world => world.native.Adds LibraryCall.Idle before :=
  shared_obtains fun _ _ isCodec spares adds => adds.note ⟨isCodec, spares⟩

/-- So does ending one. -/
theorem Library.shared_closes
    (passes : ∀ turns call, call.isCodec = false → call.setsDefaults = false → kept turns →
      kept (turns.note call)) :
    library.shared.Closes (fun world => kept world.native) where
  free := (shared_obtains passes).free
  teardown ending found record world before := by
    obtain ⟨_, -, rfl⟩ := Option.map_eq_some_iff.1 found
    exact passes world.native (.teardown record) rfl rfl before
  say _ _ _ before := before

variable {entries : EntryPoints σ ι} {record last : SessionRecord ι} {turns after : Turns σ ι}
  {refused : Option CodecError}

/-- No call of a session replaces the defaults. -/
theorem Trail.kept_shared
    (passes : ∀ turns call, call.setsDefaults = false → kept turns → kept (turns.note call))
    (trail : Trail entries.shared record turns refused last after) (before : kept turns) :
    kept after := by
  induction trail with
  | idle => exact before
  | bound _ length ih => exact passes _ (.maxCompressedLength length) rfl ih
  | compress _ input capacity ih => exact passes _ (.compress _ input capacity true) rfl ih
  | decompress _ input capacity ih => exact passes _ (.decompress _ input capacity) rfl ih

/-- The calls of the user's session have it stand as before. -/
theorem Trail.serves_shared {normal : σ → Prop} {params : σ → RawParams}
    {latched : SessionRecord ι → Option UInt32} {codec : LevelCodec} {level : UInt32}
    (latches : entries.LatchesLevel normal params latched codec)
    (trail : Trail entries.shared record turns refused last after)
    (serves : turns.Serves entries normal params latched codec level record) :
    after.Serves entries normal params latched codec level last := by
  induction trail with
  | idle => exact serves
  | bound _ length ih => exact ih.pass rfl
  | compress _ input capacity ih =>
    have answers := ih.compresses latches input capacity
    exact ih.code rfl rfl answers ⟨rfl, answers.toMatches⟩
  | decompress _ input capacity ih =>
    have answers := ih.decompresses latches input capacity
    exact ih.code rfl rfl answers answers.toMatches

end Kept

end OffloadCodec

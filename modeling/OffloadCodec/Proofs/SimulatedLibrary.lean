import Mathlib.Control.Monad.Basic
import OffloadCodec.Library
import OffloadCodec.Proofs.LibraryContract
import OffloadCodec.Simulated.Library

/-!
# The simulated library keeps the contracts

As long as nothing is set to go wrong with it (`Simulated.Regular`) the simulated library loses
nothing (`Simulated.lossless`), and its results depend on levels, inputs and capacities only
(`Simulated.levelDetermined`, `Simulated.payloadDetermined`). `compress_eq` and `decompress_eq` are
what the two calls do then. Some of it holds whatever is set to go wrong
(`Simulated.reportsWithin`, `Simulated.holdsDefaults`), or whatever statuses are chosen
(`Simulated.allocatesApart`, `Simulated.writesReported`).
-/

namespace OffloadCodec.Simulated

/-- No status is chosen, data comes back as it was, and bounds are eight bytes above the length. -/
structure Regular (state : State) : Prop where
  next : state.faults.next = []
  always : state.faults.always = []
  bound : state.faults.bound = (· + 8)
  corrupt : state.faults.corrupt = false
  report : state.faults.report = none

/-- The simulated library with all its entry points. -/
def library : Library State UInt32 := .ofEntryPoints "simulated" (entryPoints true true)

variable {state : State} {record : SessionRecord UInt32} {input : Bytes} {capacity : UInt32}

theorem regular_default : Regular {} := ⟨rfl, rfl, rfl, rfl, rfl⟩

/-- Of the state it is only what is set to go wrong that matters. -/
theorem Regular.of_faults {state' : State} (regular : Regular state)
    (same : state'.faults = state.faults) : Regular state' :=
  ⟨same ▸ regular.next, same ▸ regular.always, same ▸ regular.bound, same ▸ regular.corrupt,
    same ▸ regular.report⟩

/-- What the library notes has no part in its being regular. -/
theorem Regular.noted (regular : Regular state) (journal : List Call) :
    Regular { state with journal } :=
  regular.of_faults rfl

/-- The level of a session, which takes the one of the defaults if it has none. -/
def levelOf (record : SessionRecord UInt32) (state : State) : UInt32 :=
  record.internal.getD state.defaults.level

/-- The record of a session that is set up. -/
def setUpRecord (record : SessionRecord UInt32) (state : State) : SessionRecord UInt32 :=
  { record with internal := some (levelOf record state) }

/-- What the library makes of an input. -/
def coded (level : UInt32) (input : Bytes) (capacity : UInt32) : Int32 × Bytes :=
  if capacity.toNat < input.length + 8 then (Status.bufferError, [])
  else (Status.ok, stored level input)

/-- What the library makes of a payload. -/
def restored (payload : Bytes) (capacity : UInt32) : Int32 × Bytes :=
  match restore? payload with
  | none => (Status.dataError, [])
  | some data =>
    if capacity.toNat < data.length then (Status.bufferError, []) else (Status.ok, data)

/-! ## Calls in a regular state -/

theorem run_chosen (regular : Regular state) (f : Function) :
    (chosen f).run state = pure (0, state) := by
  simp [chosen, regular.next, regular.always]

theorem run_setUp (record : SessionRecord UInt32) (state : State) :
    ∃ journal, (setUp record).run state =
      pure ((levelOf record state, setUpRecord record state), { state with journal }) := by
  rcases record with ⟨_ | level, _, _⟩
  · exact ⟨_, rfl⟩
  · exact ⟨_, rfl⟩

/-- A compression with the status that is chosen for it. -/
theorem compress_chosen {code : Int32} {state' : State}
    (answered : (chosen .compress).run state = pure (code, state')) (record : SessionRecord UInt32)
    (input : Bytes) (capacity : UInt32) :
    ∃ journal, library.entries.compress record input capacity true state =
      (if code = 0 then
          if capacity.toNat < input.length + 8 then
            ⟨Status.bufferError, 0, [], setUpRecord record state'⟩
          else success (setUpRecord record state') input.length (input.length + 8)
            (stored (levelOf record state') input)
        else ⟨code, capacity, [], record⟩, { state' with journal }) := by
  obtain ⟨journal, prepared⟩ := run_setUp record state'
  change ∃ journal, (compress record input capacity true).run state = _
  simp only [compress, StateT.run_bind, answered, pure_bind, ne_eq, Bool.not_true,
    Bool.false_eq_true, if_false]
  by_cases worked : code = 0
  · simp only [worked, not_true, if_true, if_false, StateT.run_bind, prepared, pure_bind]
    split
    · exact ⟨_, rfl⟩
    · exact ⟨_, rfl⟩
  · simp only [worked, not_false_eq_true, if_true, if_false]
    exact ⟨_, rfl⟩

/-- A decompression with the status that is chosen for it. -/
theorem decompress_chosen {code : Int32} {state' : State}
    (answered : (chosen .decompress).run state = pure (code, state'))
    (record : SessionRecord UInt32) (payload : Bytes) (capacity : UInt32) :
    ∃ journal, library.entries.decompress record payload capacity state =
      (if code = 0 then
          match restore? payload with
          | none => ⟨Status.dataError, capacity, [], setUpRecord record state'⟩
          | some data =>
            if capacity.toNat < data.length then
              ⟨Status.bufferError, capacity, [], setUpRecord record state'⟩
            else success (setUpRecord record state') (data.length + 8)
              (state'.faults.report.getD data.length)
              (if state'.faults.corrupt then data.modify (data.length - 1) (~~~ ·) else data)
        else ⟨code, capacity, [], record⟩, { state' with journal }) := by
  obtain ⟨journal, prepared⟩ := run_setUp record state'
  change ∃ journal, (decompress record payload capacity).run state = _
  simp only [decompress, StateT.run_bind, answered, pure_bind, ne_eq]
  by_cases worked : code = 0
  · simp only [worked, not_true, if_true, if_false, StateT.run_bind, prepared, pure_bind]
    cases restore? payload with
    | none => exact ⟨_, rfl⟩
    | some data =>
      simp only [StateT.run_get, pure_bind]
      split
      · exact ⟨_, rfl⟩
      · exact ⟨_, rfl⟩
  · simp only [worked, not_false_eq_true, if_true, if_false]
    exact ⟨_, rfl⟩

variable (regular : Regular state)
include regular

theorem compress_eq (record : SessionRecord UInt32) (input : Bytes) (capacity : UInt32) :
    ∃ journal, library.entries.compress record input capacity true state =
      (if capacity.toNat < input.length + 8 then
          ⟨Status.bufferError, 0, [], setUpRecord record state⟩
        else success (setUpRecord record state) input.length (input.length + 8)
          (stored (levelOf record state) input), { state with journal }) := by
  obtain ⟨journal, done⟩ := compress_chosen (run_chosen regular .compress) record input capacity
  rw [if_pos rfl] at done
  exact ⟨journal, done⟩

theorem decompress_eq (record : SessionRecord UInt32) (input : Bytes) (capacity : UInt32) :
    ∃ journal, library.entries.decompress record input capacity state =
      (match restore? input with
        | none => ⟨Status.dataError, capacity, [], setUpRecord record state⟩
        | some data =>
          if capacity.toNat < data.length then
            ⟨Status.bufferError, capacity, [], setUpRecord record state⟩
          else success (setUpRecord record state) (data.length + 8) data.length data,
        { state with journal }) := by
  obtain ⟨journal, done⟩ :=
    decompress_chosen (run_chosen regular .decompress) record input capacity
  rw [if_pos rfl, regular.report, regular.corrupt] at done
  exact ⟨journal, done⟩

theorem maxCompressedLength_eq (length : UInt32) :
    ∃ journal, library.entries.maxCompressedLength length state =
      (UInt32.ofNat (min (length.toNat + 8) (UInt32.size - 1)), { state with journal }) := by
  change ∃ journal, (maxCompressedLength length).run state = _
  simp only [maxCompressedLength, StateT.run_bind, StateT.run_get, pure_bind, regular.bound]
  exact ⟨_, rfl⟩

omit regular

/-! ## The contracts -/

theorem keep_regular : library.entries.Keep Regular := by
  refine ⟨?_, ?_, ?_, ?_, ?_⟩
  · intro record input capacity native regular
    obtain ⟨journal, done⟩ := compress_eq regular record input capacity
    rw [done]
    exact regular.noted journal
  · intro record input capacity native regular
    obtain ⟨journal, done⟩ := decompress_eq regular record input capacity
    rw [done]
    exact regular.noted journal
  · intro length native regular
    obtain ⟨journal, done⟩ := maxCompressedLength_eq regular length
    rw [done]
    exact regular.noted journal
  · intro size numa pinned native regular
    change Regular ((malloc size numa pinned).run native).2
    simp only [malloc, StateT.run_bind, run_chosen regular, pure_bind, StateT.run_get]
    split
    · exact regular.noted _
    · exact regular.of_faults rfl
  · intro free found address native regular
    obtain rfl := Option.some.inj found
    exact regular.noted _

theorem bufferError_ne_ok : Status.bufferError ≠ Status.ok := by decide

theorem dataError_ne_ok : Status.dataError ≠ Status.ok := by decide

/-- Whatever goes wrong with it, the library reports no more than there is room for. -/
theorem reportsWithin : library.entries.ReportsWithin := by
  intro record input capacity state
  obtain ⟨code, state', answered⟩ :
      ∃ code state', (chosen .compress).run state = pure (code, state') := ⟨_, _, rfl⟩
  obtain ⟨journal, done⟩ := compress_chosen answered record input capacity
  rw [done]
  dsimp only
  by_cases worked : code = 0
  · rw [if_pos worked]
    by_cases small : capacity.toNat < input.length + 8
    · rw [if_pos small]
      exact fun _ => Nat.zero_le _
    · rw [if_neg small]
      have fits : input.length + 8 < UInt32.size :=
        Nat.lt_of_le_of_lt (Nat.le_of_not_lt small) capacity.toNat_lt_size
      simp only [success]
      rw [UInt32.toNat_ofNat_of_lt' fits]
      exact fun _ => Nat.le_of_not_lt small
  · rw [if_neg worked]
    exact fun _ => Nat.le_refl _

/-- A call that succeeds has stored the input within the capacity. -/
theorem compress_ok (regular : Regular state) (record : SessionRecord UInt32) (input : Bytes)
    (capacity : UInt32)
    (succeeded : (library.entries.compress record input capacity true state).1.status =
      Status.ok) :
    let reply := (library.entries.compress record input capacity true state).1
    input.length + 8 ≤ capacity.toNat ∧ reply.reported.toNat = input.length + 8 ∧
      reply.written = stored (levelOf record state) input := by
  intro reply
  obtain ⟨journal, done⟩ := compress_eq regular record input capacity
  have replied : reply = _ := congrArg Prod.fst done
  rw [done] at succeeded
  dsimp only at succeeded replied
  by_cases small : capacity.toNat < input.length + 8
  · rw [if_pos small] at succeeded
    exact absurd succeeded bufferError_ne_ok
  · rw [if_neg small] at replied
    have fits : input.length + 8 < UInt32.size :=
      Nat.lt_of_le_of_lt (Nat.le_of_not_lt small) capacity.toNat_lt_size
    rw [replied]
    exact ⟨Nat.le_of_not_lt small, UInt32.toNat_ofNat_of_lt' fits, rfl⟩

theorem lossless : library.entries.Lossless Regular := by
  refine ⟨keep_regular, ?_, ?_, ?_⟩
  · intro record input capacity native regular reply succeeded
    obtain ⟨within, reported, written⟩ := compress_ok regular record input capacity succeeded
    rw [reported, written, length_stored]
    exact ⟨Nat.succ_pos _, within, Nat.le_refl _⟩
  · intro record input capacity native regular reply succeeded
    obtain ⟨within, reported, written⟩ := compress_ok regular record input capacity succeeded
    have fits : input.length < UInt32.size := by
      have bounded := capacity.toNat_lt_size
      omega
    rw [reported, written, List.take_of_length_le (Nat.le_of_eq (length_stored _ _))]
    intro record' capacity' native' regular'
    obtain ⟨journal, done⟩ := decompress_eq regular' record' (stored (levelOf record native) input)
      capacity'
    rw [done, restore?_stored _ fits]
    dsimp only
    constructor
    · intro room
      rw [if_neg (Nat.not_lt.2 room)]
      exact ⟨rfl, UInt32.toNat_ofNat_of_lt' fits, List.take_length⟩
    · intro small
      rw [if_pos small]
      exact bufferError_ne_ok
  · intro shorter longer native native' ordered regular regular'
    obtain ⟨journal, done⟩ := maxCompressedLength_eq regular shorter
    obtain ⟨journal', done'⟩ := maxCompressedLength_eq regular' longer
    have lengths := UInt32.le_iff_toNat_le.1 ordered
    have below : ∀ n, min n (UInt32.size - 1) < UInt32.size := fun n =>
      Nat.lt_of_le_of_lt (Nat.min_le_right _ _) (by decide)
    rw [done, done', UInt32.le_iff_toNat_le, UInt32.toNat_ofNat_of_lt' (below _),
      UInt32.toNat_ofNat_of_lt' (below _)]
    omega

theorem levelDetermined :
    library.entries.LevelDetermined Regular (·.defaults.level) SessionRecord.internal coded := by
  refine ⟨rfl, ?_, ?_, ?_⟩
  · intro record input capacity native regular level reply
    obtain ⟨journal, done⟩ := compress_eq regular record input capacity
    have replied : reply = _ := done
    have same : level = levelOf record native := rfl
    rw [replied, coded, same]
    by_cases small : capacity.toNat < input.length + 8
    · rw [if_pos small, if_pos small]
      exact ⟨rfl, fun succeeded => absurd succeeded bufferError_ne_ok, .inr rfl,
        regular.noted journal, rfl⟩
    · have fits : input.length + 8 < UInt32.size :=
        Nat.lt_of_le_of_lt (Nat.le_of_not_lt small) capacity.toNat_lt_size
      rw [if_neg small, if_neg small]
      refine ⟨rfl, fun _ => ?_, .inr rfl, regular.noted journal, rfl⟩
      simp only [success]
      rw [UInt32.toNat_ofNat_of_lt' fits, length_stored]
      exact ⟨Nat.le_of_not_lt small, Nat.le_refl _,
        List.take_of_length_le (Nat.le_of_eq (length_stored _ _))⟩
  · intro length native regular
    obtain ⟨journal, done⟩ := maxCompressedLength_eq regular length
    rw [done]
    exact ⟨regular.noted journal, rfl⟩
  · intro length native native' regular regular'
    obtain ⟨journal, done⟩ := maxCompressedLength_eq regular length
    obtain ⟨journal', done'⟩ := maxCompressedLength_eq regular' length
    rw [done, done']

theorem payloadDetermined : library.entries.PayloadDetermined Regular restored := by
  refine ⟨?_, ?_⟩
  · intro record payload capacity native regular reply
    obtain ⟨journal, done⟩ := decompress_eq regular record payload capacity
    have replied : reply = _ := done
    rw [replied, restored]
    cases restore? payload with
    | none =>
      have failed : Status.dataError ≠ Status.ok := by decide
      exact ⟨rfl, fun succeeded => absurd succeeded failed, regular.noted journal⟩
    | some data =>
      dsimp only
      by_cases small : capacity.toNat < data.length
      · rw [if_pos small, if_pos small]
        exact ⟨rfl, fun succeeded => absurd succeeded bufferError_ne_ok, regular.noted journal⟩
      · have fits : data.length < UInt32.size :=
          Nat.lt_of_le_of_lt (Nat.le_of_not_lt small) capacity.toNat_lt_size
        rw [if_neg small, if_neg small]
        refine ⟨rfl, fun _ => ?_, regular.noted journal⟩
        simp only [success]
        rw [UInt32.toNat_ofNat_of_lt' fits]
        exact ⟨Nat.le_of_not_lt small, Nat.le_refl _, List.take_length⟩
  · intro length native regular
    obtain ⟨journal, done⟩ := maxCompressedLength_eq regular length
    rw [done]
    exact regular.noted journal

/-- Statuses are chosen without a look at the parameters. -/
theorem defaults_chosen (f : Function) (state : State) :
    ((chosen f).run state).2.defaults = state.defaults := by
  simp only [chosen, StateT.run_bind, StateT.run_get, pure_bind]
  cases state.faults.next.lookup f with
  | none => rfl
  | some codes =>
    cases codes with
    | nil => rfl
    | cons code rest => rfl

theorem getDefaults_chosen {code : Int32} {state' : State}
    (answered : (chosen .getDefaults).run state = pure (code, state')) (raw : RawParams) :
    ∃ journal, library.entries.getDefaults raw state =
      ((code, if code = 0 then state'.defaults else raw), { state' with journal }) := by
  change ∃ journal, (getDefaults raw).run state = _
  simp only [getDefaults, StateT.run_bind, answered, pure_bind]
  exact ⟨_, rfl⟩

theorem setDefaults_chosen {code : Int32} {state' : State}
    (answered : (chosen .setDefaults).run state = pure (code, state')) (raw : RawParams) :
    ∃ status journal, library.entries.setDefaults raw state =
      (status, { state' with
        defaults := if status = Status.ok then raw else state'.defaults, journal }) := by
  change ∃ status journal, (setDefaults raw).run state = _
  simp only [setDefaults, StateT.run_bind, answered, pure_bind, StateT.run_get]
  generalize (if (decide (code = 0) && (!state'.faults.anyLevel &&
    (decide (raw.level < 1) || decide (9 < raw.level)))) = true then Status.invalidParameters
    else code) = status
  by_cases succeeded : status = Status.ok
  · have zero : status = 0 := succeeded
    rw [if_pos zero]
    refine ⟨status, .setDefaults raw status :: state'.journal, ?_⟩
    rw [if_pos succeeded]
    rfl
  · have nonzero : ¬status = 0 := succeeded
    rw [if_neg nonzero]
    refine ⟨status, .setDefaults raw status :: state'.journal, ?_⟩
    rw [if_neg succeeded]
    rfl

theorem keepsDefaults_regular : library.entries.KeepsDefaults Regular := by
  refine ⟨fun raw state regular => ?_, fun raw state regular => ?_⟩
  · obtain ⟨journal, done⟩ := getDefaults_chosen (run_chosen regular .getDefaults) raw
    rw [done]
    exact regular.noted journal
  · obtain ⟨status, journal, done⟩ := setDefaults_chosen (run_chosen regular .setDefaults) raw
    rw [done]
    exact regular.of_faults rfl

/-- Whatever goes wrong with it, the library holds its parameters. -/
theorem holdsDefaults : library.entries.HoldsDefaults (·.defaults) := by
  refine ⟨fun raw state => ?_, fun raw state => ?_⟩
  · obtain ⟨code, state', answered⟩ :
        ∃ code state', (chosen .getDefaults).run state = pure (code, state') := ⟨_, _, rfl⟩
    have same := defaults_chosen .getDefaults state
    obtain ⟨journal, done⟩ := getDefaults_chosen answered raw
    rw [answered] at same
    rw [done]
    refine ⟨fun succeeded => ?_, same⟩
    have zero : code = 0 := succeeded
    dsimp only
    rw [if_pos zero]
    exact same
  · obtain ⟨code, state', answered⟩ :
        ∃ code state', (chosen .setDefaults).run state = pure (code, state') := ⟨_, _, rfl⟩
    have same := defaults_chosen .setDefaults state
    obtain ⟨status, journal, done⟩ := setDefaults_chosen answered raw
    rw [answered] at same
    rw [done]
    refine ⟨fun succeeded => if_pos succeeded, fun failed => ?_⟩
    exact (if_neg failed).trans same

/-! ## Memory -/

/-- States that differ in no more than the journal, the memory that was handed out and the statuses
chosen for that. The lengths that are reported are right. -/
structure SameButMemory (state state' : State) : Prop where
  defaults : state.defaults = state'.defaults
  next : ∀ f, f ≠ .malloc → state.faults.next.lookup f = state'.faults.next.lookup f
  always : state.faults.always = state'.faults.always
  bound : state.faults.bound = state'.faults.bound
  corrupt : state.faults.corrupt = state'.faults.corrupt
  anyLevel : state.faults.anyLevel = state'.faults.anyLevel
  report : state.faults.report = none
  report' : state'.faults.report = none

namespace SameButMemory

variable {state' state'' : State} {f : Function}

theorem symm (same : SameButMemory state state') : SameButMemory state' state :=
  ⟨same.defaults.symm, fun f other => (same.next f other).symm, same.always.symm, same.bound.symm,
    same.corrupt.symm, same.anyLevel.symm, same.report', same.report⟩

theorem trans (same : SameButMemory state state') (other : SameButMemory state' state'') :
    SameButMemory state state'' :=
  ⟨same.defaults.trans other.defaults, fun f apart => (same.next f apart).trans (other.next f apart),
    same.always.trans other.always, same.bound.trans other.bound, same.corrupt.trans other.corrupt,
    same.anyLevel.trans other.anyLevel, same.report, other.report'⟩

theorem noted (same : SameButMemory state state') (journal journal' : List Call) :
    SameButMemory { state with journal } { state' with journal := journal' } :=
  ⟨same.defaults, same.next, same.always, same.bound, same.corrupt, same.anyLevel, same.report,
    same.report'⟩

/-- What one side notes and hands out makes no difference. -/
theorem noted_left (same : SameButMemory state state') (allocated : Nat) (journal : List Call) :
    SameButMemory { state with allocated, journal } state' :=
  ⟨same.defaults, same.next, same.always, same.bound, same.corrupt, same.anyLevel, same.report,
    same.report'⟩

theorem lookup_filter_ne {f g : Function} (other : g ≠ f) (next : List (Function × List Int32)) :
    (next.filter (·.1 ≠ f)).lookup g = next.lookup g := by
  induction next with
  | nil => rfl
  | cons entry next ih =>
    obtain ⟨h, codes⟩ := entry
    by_cases here : h = f
    · have elsewhere : (g == h) = false := by simpa [here] using other
      simp only [List.filter_cons, here, ne_eq, not_true, decide_false, Bool.false_eq_true, if_false,
        ih, List.lookup_cons]
      rw [← here, elsewhere]
    · simp only [List.filter_cons, ne_eq, here, not_false_eq_true, decide_true, if_true,
        List.lookup_cons, ih]

/-- A status that is used up. -/
theorem used (same : SameButMemory state state') (f : Function) (rest : List Int32) :
    SameButMemory
      { state with faults := { state.faults with
          next := (f, rest) :: state.faults.next.filter (·.1 ≠ f) } }
      { state' with faults := { state'.faults with
          next := (f, rest) :: state'.faults.next.filter (·.1 ≠ f) } } := by
  refine ⟨same.defaults, fun g other => ?_, same.always, same.bound, same.corrupt, same.anyLevel,
    same.report, same.report'⟩
  by_cases here : g = f
  · rw [here, List.lookup_cons_self, List.lookup_cons_self]
  · have elsewhere : (g == f) = false := beq_eq_false_iff_ne.2 here
    simp only [List.lookup_cons, elsewhere]
    rw [lookup_filter_ne here, lookup_filter_ne here]
    exact same.next g other

/-- One side has used up a status for memory. -/
theorem used_left (same : SameButMemory state state') (memory : f = .malloc) (rest : List Int32) :
    SameButMemory
      { state with faults := { state.faults with
          next := (f, rest) :: state.faults.next.filter (·.1 ≠ f) } } state' := by
  subst memory
  refine ⟨same.defaults, fun g other => ?_, same.always, same.bound, same.corrupt, same.anyLevel,
    same.report, same.report'⟩
  have elsewhere : (g == Function.malloc) = false := beq_eq_false_iff_ne.2 other
  simp only [List.lookup_cons, elsewhere]
  rw [lookup_filter_ne other]
  exact same.next g other

theorem chosen (same : SameButMemory state state') (other : f ≠ .malloc) :
    ∃ code last last', (Simulated.chosen f).run state = pure (code, last) ∧
      (Simulated.chosen f).run state' = pure (code, last') ∧ SameButMemory last last' := by
  have idle : ∃ code last last',
      (pure ((state.faults.always.lookup f).getD 0) : Run Int32).run state = pure (code, last) ∧
        (pure ((state'.faults.always.lookup f).getD 0) : Run Int32).run state' =
          pure (code, last') ∧ SameButMemory last last' := by
    rw [same.always]
    exact ⟨_, _, _, rfl, rfl, same⟩
  simp only [Simulated.chosen, StateT.run_bind, StateT.run_get, pure_bind, ← same.next f other]
  rcases state.faults.next.lookup f with _ | _ | ⟨code, rest⟩
  · exact idle
  · exact idle
  · exact ⟨code, _, _, rfl, rfl, same.used f rest⟩

/-- A status for memory that is chosen on one side. -/
theorem chosen_left (same : SameButMemory state state') (memory : f = .malloc) :
    ∃ code last, (Simulated.chosen f).run state = pure (code, last) ∧
      SameButMemory last state' := by
  simp only [Simulated.chosen, StateT.run_bind, StateT.run_get, pure_bind]
  rcases state.faults.next.lookup f with _ | _ | ⟨code, rest⟩
  · exact ⟨_, state, rfl, same⟩
  · exact ⟨_, state, rfl, same⟩
  · exact ⟨code, _, rfl, same.used_left memory rest⟩

theorem levelOf (same : SameButMemory state state') (record : SessionRecord UInt32) :
    Simulated.levelOf record state = Simulated.levelOf record state' := by
  rw [Simulated.levelOf, Simulated.levelOf, same.defaults]

theorem compress (same : SameButMemory state state') (record : SessionRecord UInt32) (input : Bytes)
    (capacity : UInt32) :
    (library.entries.compress record input capacity true state).1 =
        (library.entries.compress record input capacity true state').1 ∧
      SameButMemory (library.entries.compress record input capacity true state).2
        (library.entries.compress record input capacity true state').2 := by
  obtain ⟨code, last, last', answered, answered', still⟩ := same.chosen (f := .compress) nofun
  obtain ⟨journal, done⟩ := compress_chosen answered record input capacity
  obtain ⟨journal', done'⟩ := compress_chosen answered' record input capacity
  rw [done, done', setUpRecord, setUpRecord, still.levelOf]
  exact ⟨rfl, still.noted journal journal'⟩

theorem decompress (same : SameButMemory state state') (record : SessionRecord UInt32)
    (payload : Bytes) (capacity : UInt32) :
    (library.entries.decompress record payload capacity state).1 =
        (library.entries.decompress record payload capacity state').1 ∧
      SameButMemory (library.entries.decompress record payload capacity state).2
        (library.entries.decompress record payload capacity state').2 := by
  obtain ⟨code, last, last', answered, answered', still⟩ := same.chosen (f := .decompress) nofun
  obtain ⟨journal, done⟩ := decompress_chosen answered record payload capacity
  obtain ⟨journal', done'⟩ := decompress_chosen answered' record payload capacity
  rw [done, done', setUpRecord, setUpRecord, still.levelOf, still.corrupt, still.report,
    still.report']
  exact ⟨rfl, still.noted journal journal'⟩

end SameButMemory

/-- Memory has no part in what the simulated library does, whatever statuses are chosen. -/
theorem allocatesApart : library.entries.AllocatesApart SameButMemory where
  symm := .symm
  trans := .trans
  malloc size numa pinned {state state'} same := by
    obtain ⟨code, last, answered, still⟩ := same.chosen_left rfl
    change SameButMemory ((malloc size numa pinned).run state).2 state'
    simp only [malloc, StateT.run_bind, answered, pure_bind, StateT.run_get]
    split
    · exact still.noted_left last.allocated _
    · exact still.noted_left (last.allocated + 1) _
  free release found address state state' same := by
    obtain rfl := Option.some.inj found
    exact same.noted_left state.allocated _
  compress record input capacity _ _ same := same.compress record input capacity
  decompress record input capacity _ _ same := same.decompress record input capacity
  maxCompressedLength length {state state'} same := by
    refine ⟨?_, same.noted _ _⟩
    change UInt32.ofNat (min (state.faults.bound length.toNat) (UInt32.size - 1)) =
      UInt32.ofNat (min (state'.faults.bound length.toNat) (UInt32.size - 1))
    rw [same.bound]
  teardown ending found record {state state'} same := by
    obtain rfl := Option.some.inj found
    obtain ⟨code, last, last', answered, answered', still⟩ := same.chosen (f := .teardown) nofun
    change ((teardown record).run state).1 = ((teardown record).run state').1 ∧
      SameButMemory ((teardown record).run state).2 ((teardown record).run state').2
    simp only [teardown, StateT.run_bind, answered, answered', pure_bind]
    exact ⟨rfl, still.noted _ _⟩

/-- What is restored is reported as it is. -/
theorem writesReported (operation : Operation) :
    library.entries.WritesReported (fun state => SameButMemory state state) operation := by
  cases operation with
  | compress =>
    intro record input capacity state same
    obtain ⟨code, last, last', answered, -, still⟩ := same.chosen (f := .compress) nofun
    obtain ⟨journal, done⟩ := compress_chosen answered record input capacity
    rw [done]
    split
    · split
      · exact fun failed => absurd failed bufferError_ne_ok
      · intro _
        change (UInt32.ofNat (input.length + 8)).toNat ≤ (stored _ input).length
        rw [length_stored, UInt32.toNat_ofNat']
        exact Nat.mod_le _ _
    · next failed => exact fun succeeded => absurd succeeded failed
  | decompress =>
    intro record payload capacity state same
    obtain ⟨code, last, last', answered, -, still⟩ := same.chosen (f := .decompress) nofun
    obtain ⟨journal, done⟩ := decompress_chosen answered record payload capacity
    rw [done]
    split
    · split
      · exact fun failed => absurd failed dataError_ne_ok
      · next data _ =>
        split
        · exact fun failed => absurd failed bufferError_ne_ok
        · intro _
          change (UInt32.ofNat (last.faults.report.getD data.length)).toNat ≤
            (if last.faults.corrupt then data.modify (data.length - 1) (~~~ ·) else data).length
          rw [still.report, Option.getD_none, UInt32.toNat_ofNat']
          refine Nat.le_trans (Nat.mod_le _ _) (Nat.le_of_eq ?_)
          split
          · rw [List.length_modify]
          · rfl
    · next failed => exact fun succeeded => absurd succeeded failed
  | _ => trivial

end OffloadCodec.Simulated

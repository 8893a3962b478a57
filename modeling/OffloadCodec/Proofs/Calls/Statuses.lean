import OffloadCodec.Proofs.Calls.Acts
import OffloadCodec.Proofs.Calls.Observed
import OffloadCodec.Proofs.Calls.Streams

/-!
# The statuses of calls

`Observed.statuses` lists what the calls of a library returned, teardowns left aside. An operation
`Reports` them if all are zero, or if all but the last are and the last has become the result: the
error that a status has to become is `CodecError.refusal`. Then nothing came after the failing call,
and the operation has succeeded only if no call failed.

Operations that report can be put one behind the other (`Reports.trans`, `Act.Reports.bind`). A trail
of calls reports the one that was refused (`Trail.reports`).
-/

namespace OffloadCodec

variable {σ ι : Type}

/-! ## The error of a status -/

/-- The error that a status other than zero has to become: one code is about parameters, and the other
published negative codes say that the operation failed. -/
def CodecError.refusal (operation : Operation) (code : Int32) : CodecError :=
  if code = -1 then .invalidParameters operation code
  else if code < 0 ∧ code ∈ Status.published.map (·.1) then .operationFailed operation code
  else .unrecognizedCode operation code

/-- The error says which call failed, and how. -/
theorem CodecError.refusal_carries (operation : Operation) (code : Int32) :
    (refusal operation code).operation? = some operation ∧
      (refusal operation code).status? = some code := by
  rw [refusal]
  split
  · exact ⟨rfl, rfl⟩
  split
  · exact ⟨rfl, rfl⟩
  · exact ⟨rfl, rfl⟩

theorem Status.mem_failures_iff {code : Int32} :
    code ∈ failures ↔ (code < 0 ∧ code ∈ published.map (·.1)) ∧ code ≠ -1 := by
  have same : failures.Perm
      ((published.map (·.1)).filter fun code => decide (code < 0) && decide (code ≠ -1)) := by
    decide
  rw [same.mem_iff, List.mem_filter, Bool.and_eq_true, decide_eq_true_eq, decide_eq_true_eq]
  constructor
  · rintro ⟨member, negative, other⟩
    exact ⟨⟨negative, member⟩, other⟩
  · rintro ⟨⟨negative, member⟩, other⟩
    exact ⟨member, negative, other⟩

theorem CodecError.ofStatus?_eq_refusal {operation : Operation} {code : Int32} (failed : code ≠ 0) :
    ofStatus? operation code = some (refusal operation code) := by
  have nonzero : code ≠ Status.ok := failed
  rw [ofStatus?, Status.verdict, if_neg nonzero, refusal]
  by_cases params : code = -1
  · have params' : code = Status.invalidParameters := params
    rw [if_pos params', if_pos params]
  · have params' : code ≠ Status.invalidParameters := params
    rw [if_neg params', if_neg params]
    by_cases failing : code < 0 ∧ code ∈ Status.published.map (·.1)
    · rw [if_pos (Status.mem_failures_iff.2 ⟨failing, params⟩), if_pos failing]
    · have other : code ∉ Status.failures := fun member =>
        failing (Status.mem_failures_iff.1 member).1
      rw [if_neg other, if_neg failing]

/-! ## The statuses so far -/

/-- The status of a call that must not be lost, with what the call was for. -/
def NativeCall.status? : NativeCall → Option (Operation × Int32)
  | .codec operation _ _ status => some (operation, status)
  | .defaults operation status => some (operation, status)
  | .bound _ => none
  | .malloc _ => none
  | .free _ => none
  | .teardown _ _ => none

/-- The statuses of all calls so far, in their order. -/
def Observed.statuses (state : Observed σ) : List (Operation × Int32) :=
  state.journal.filterMap NativeCall.status?

theorem Observed.statuses_note (state : Observed σ) (native : σ) (call : NativeCall) :
    (state.note native call).statuses = state.statuses ++ call.status?.toList := by
  rw [statuses, journal_note, List.filterMap_append]
  cases found : call.status? with
  | none => rw [List.filterMap_cons_none found]; rfl
  | some status => rw [List.filterMap_cons_some found]; rfl

/-- The operation has told all statuses of its calls: they are zero, or the last is not and it is the
result. -/
def Reports {ε α : Type} (carry : CodecError → ε) (before : Observed σ) (result : Except ε α)
    (after : Observed σ) : Prop :=
  ∃ made, after.statuses = before.statuses ++ made ∧
    ((∀ status ∈ made, status.2 = 0) ∨
      ∃ earlier operation code, made = earlier ++ [(operation, code)] ∧
        (∀ status ∈ earlier, status.2 = 0) ∧ code ≠ 0 ∧
        result = .error (carry (.refusal operation code)))

section Reports

variable {ε ε' α β : Type} {carry : CodecError → ε} {carry' : CodecError → ε'}
  {before between after : Observed σ} {result : Except ε α} {result' : Except ε' β}

/-- No statuses have come. -/
theorem Reports.silent (same : after.statuses = before.statuses) :
    Reports carry before result after :=
  ⟨[], by rw [same, List.append_nil], .inl nofun⟩

/-- An operation that succeeds has made no call that failed. -/
theorem Reports.clean {a : α} (reports : Reports carry before (.ok a : Except ε α) after) :
    ∃ made, after.statuses = before.statuses ++ made ∧ ∀ status ∈ made, status.2 = 0 := by
  obtain ⟨made, statuses, zero | ⟨earlier, operation, code, -, -, -, failed⟩⟩ := reports
  · exact ⟨made, statuses, zero⟩
  · cases failed

theorem Reports.trans {a : β} (first : Reports carry' before (.ok a : Except ε' β) between)
    (second : Reports carry between result after) : Reports carry before result after := by
  obtain ⟨made, statuses, zero⟩ := first.clean
  obtain ⟨more, statuses', told⟩ := second
  refine ⟨made ++ more, by rw [statuses', statuses, List.append_assoc], ?_⟩
  have both : ∀ rest : List (Operation × Int32), (∀ status ∈ rest, status.2 = 0) →
      ∀ status ∈ made ++ rest, status.2 = 0 := by
    intro rest zero' status member
    rcases List.mem_append.1 member with member | member
    · exact zero status member
    · exact zero' status member
  rcases told with zero' | ⟨earlier, operation, code, rfl, zero', nonzero, failed⟩
  · exact .inl (both more zero')
  · refine .inr ⟨made ++ earlier, operation, code, ?_, both earlier zero', nonzero, failed⟩
    rw [List.append_assoc]

/-- The result passes on what was reported. -/
theorem Reports.map (reports : Reports carry before result after)
    (passes : ∀ e, result = .error (carry e) → result' = .error (carry' e)) :
    Reports carry' before result' after := by
  obtain ⟨made, statuses, zero | ⟨earlier, operation, code, rfl, zero, nonzero, failed⟩⟩ := reports
  · exact ⟨made, statuses, .inl zero⟩
  · exact ⟨_, statuses, .inr ⟨earlier, operation, code, rfl, zero, nonzero, passes _ failed⟩⟩

/-- A failure is passed on as one of another kind. -/
theorem Reports.fail {e : ε} (reports : Reports carry before (.error e : Except ε α) after)
    (wrap : ε → ε') : Reports (wrap ∘ carry) before (.error (wrap e) : Except ε' β) after :=
  reports.map fun _ failed => congrArg (Except.error ∘ wrap) (Except.error.inj failed)

/-- Behind a success there is nothing to pass on. -/
theorem Reports.ok {a : α} (reports : Reports carry before (.ok a : Except ε α) after)
    (result' : Except ε' β) : Reports carry' before result' after := by
  obtain ⟨made, statuses, zero⟩ := reports.clean
  exact ⟨made, statuses, .inl zero⟩

/-- What comes behind makes no more statuses. -/
theorem Reports.later (reports : Reports carry before result between)
    (same : after.statuses = between.statuses) : Reports carry before result after := by
  obtain ⟨made, statuses, told⟩ := reports
  exact ⟨made, same.trans statuses, told⟩

/-- One call, whose error is the result if it has one. -/
theorem Reports.one {operation : Operation} {code : Int32}
    (statuses : after.statuses = before.statuses ++ [(operation, code)])
    (refuses : Refuses carry (CodecError.ofStatus? operation code) result) :
    Reports carry before result after := by
  refine ⟨[(operation, code)], statuses, ?_⟩
  by_cases zero : code = 0
  · left
    intro status member
    rw [List.mem_singleton.1 member]
    exact zero
  · exact .inr ⟨[], operation, code, rfl, nofun, zero,
      refuses _ (CodecError.ofStatus?_eq_refusal zero)⟩

end Reports

/-! ## Operations -/

namespace Act

variable {ε ε' α β : Type} {carry : CodecError → ε}

/-- In every world the operation reports the statuses of its calls. -/
def Reports (carry : CodecError → ε) (act : Act (Observed σ) ε α) : Prop :=
  ∀ world, OffloadCodec.Reports carry world.native (act.runOn world).1 (act.runOn world).2.native

/-- The operation brings no statuses. -/
def Silent (act : Act (Observed σ) ε α) : Prop :=
  ∀ statuses, act.Maintains fun world => world.native.statuses = statuses

theorem Silent.reports {act : Act (Observed σ) ε α} (silent : act.Silent) : act.Reports carry :=
  fun world => .silent (silent _ world rfl)

theorem reports_pure (a : α) : (pure a : Act (Observed σ) ε α).Reports carry :=
  fun _ => .silent rfl

/-- The second part has to report only behind a success of the first. -/
theorem Reports.bind {act : Act (Observed σ) ε α} {next : α → Act (Observed σ) ε β}
    (first : act.Reports carry)
    (later : ∀ a, (∃ world after, act.runOn world = (.ok a, after)) → (next a).Reports carry) :
    (act >>= next).Reports carry := by
  intro world
  have told := first world
  rw [runOn_bind]
  rcases ran : act.runOn world with ⟨e | a, middle⟩
  · rw [ran] at told
    exact told.fail id
  · rw [ran] at told
    exact told.trans (later a ⟨world, middle, ran⟩ middle)

theorem Reports.mapError {act : Act (Observed σ) ε α} (reports : act.Reports carry)
    (wrap : ε → ε') : (act.mapError wrap).Reports (wrap ∘ carry) := by
  intro world
  have told := reports world
  rw [Act.mapError, runOn_of]
  generalize act.runOn world = outcome at told ⊢
  obtain ⟨e | a, after⟩ := outcome
  · exact told.fail wrap
  · exact told.ok _

end Act

/-! ## Trails -/

section Trails

variable {entries : EntryPoints σ ι} {record last : SessionRecord (Nat × ι)}
  {state after : Observed σ} {refused : Option CodecError}

/-- A codec call adds its status. -/
theorem Observed.statuses_codec (state : Observed σ) (operation : Operation)
    (record : SessionRecord (Nat × ι)) (reply : CodecReply ι × σ) :
    (state.codec operation record reply).2.statuses =
      state.statuses ++ [(operation, reply.1.status)] :=
  state.statuses_note reply.2 _

/-- A trail reports the call that was refused, whatever carries its error. -/
theorem Trail.reports (trail : Trail entries.observed record state refused last after) :
    ∀ {ε α : Type} {carry : CodecError → ε} {result : Except ε α},
      Refuses carry refused result → Reports carry state result after := by
  induction trail with
  | idle => exact fun _ => .silent rfl
  | @bound middle between before length ih =>
    intro ε α carry result refuses
    have same : (entries.observed.maxCompressedLength length between).2.statuses =
        between.statuses ++ [] := between.statuses_note _ (.bound length)
    exact (ih refuses).later (same.trans (List.append_nil _))
  | @compress middle between before input capacity ih =>
    intro ε α carry result refuses
    have clean : Reports id state (.ok () : Except CodecError Unit) between := ih (.none _ _)
    exact clean.trans (.one (between.statuses_codec .compress middle _) refuses)
  | @decompress middle between before input capacity ih =>
    intro ε α carry result refuses
    have clean : Reports id state (.ok () : Except CodecError Unit) between := ih (.none _ _)
    exact clean.trans (.one (between.statuses_codec .decompress middle _) refuses)

end Trails

/-! ## Calls without a status of their own -/

theorem Library.obtains_statuses (library : Library σ ι) (statuses : List (Operation × Int32)) :
    library.observed.Obtains fun world => world.native.statuses = statuses where
  maxCompressedLength length world kept := by
    have noted := world.native.statuses_note
      (library.entries.maxCompressedLength length world.native.native).2 (.bound length)
    exact noted.trans ((List.append_nil _).trans kept)
  malloc size numa pinned world kept := by
    have noted := world.native.statuses_note
      (library.entries.malloc size numa pinned world.native.native).2
      (.malloc (library.entries.malloc size numa pinned world.native.native).1)
    exact noted.trans ((List.append_nil _).trans kept)
  free free found address world kept := by
    obtain ⟨plain, -, rfl⟩ := Option.map_eq_some_iff.1 found
    have noted := world.native.statuses_note (plain address world.native.native) (.free address)
    exact noted.trans ((List.append_nil _).trans kept)

theorem Library.closes_statuses (library : Library σ ι) (statuses : List (Operation × Int32)) :
    library.observed.Closes fun world => world.native.statuses = statuses where
  free := (library.obtains_statuses statuses).free
  teardown teardown found record world kept := by
    obtain ⟨plain, -, rfl⟩ := Option.map_eq_some_iff.1 found
    have noted := world.native.statuses_note (plain record.plain world.native.native).2
      (.teardown record.number? (plain record.plain world.native.native).1)
    exact noted.trans ((List.append_nil _).trans kept)
  say _ _ _ kept := kept

theorem Session.statuses_close {library : Library σ ι}
    (session : Session (Observed σ) (Nat × ι)) (world : World (Observed σ))
    (on : session.library = library.observed) :
    (session.close world).native.statuses = world.native.statuses := by
  have closes := library.closes_statuses world.native.statuses
  rw [← on] at closes
  exact session.kept_close closes rfl

/-! ## Calls for the defaults -/

theorem Library.statuses_getDefaults (library : Library σ ι) (raw : RawParams) (state : Observed σ) :
    (library.observed.entries.getDefaults raw state).2.statuses = state.statuses ++
      [(.getDefaults, (library.observed.entries.getDefaults raw state).1.1)] :=
  state.statuses_note _ (.defaults .getDefaults _)

theorem Library.statuses_setDefaults (library : Library σ ι) (raw : RawParams) (state : Observed σ) :
    (library.observed.entries.setDefaults raw state).2.statuses = state.statuses ++
      [(.setDefaults, (library.observed.entries.setDefaults raw state).1)] :=
  state.statuses_note _ (.defaults .setDefaults _)

end OffloadCodec

import OffloadCodec.Parallel

/-!
# Work that is shared out

A schedule covers a number of blocks if it does each of them once, by any worker and in any order
(`Schedule.Covers`). Work is uniform if it makes no difference which of the sessions codes a block and
after which other ones (`Pool.Uniform`).

Uniform work on a schedule that covers the blocks has one outcome: the outputs of all blocks in the
order of the blocks, if none of them fails, and the error of a failing block otherwise
(`Library.codeBlocks_uniform`, `Library.codeBlocks_eq_ok_iff`). Step by step a pool keeps good
sessions and adds the output of the block to what is done (`Pool.run_uniform`); putting the outputs
in order undoes the schedule (`Pool.output_of_perm`).
-/

namespace OffloadCodec

variable {σ ι : Type}

/-- Each of the blocks is done exactly once. -/
def Schedule.Covers (schedule : Schedule) (blocks : Nat) : Prop :=
  (schedule.map (·.2)).Perm (List.range blocks)

/-- Workers that take the blocks in turn do each of them once. -/
theorem Schedule.covers_inTurn (workers blocks : Nat) : (inTurn workers blocks).Covers blocks := by
  rw [Covers, inTurn, List.map_map]
  exact .of_eq (List.map_id' (List.range blocks))

namespace Pool

variable {code : Session σ ι → Bytes → World σ → Produced σ ι}
  {f : Bytes → Except CodecError Bytes} {good : Session σ ι → Prop} {sound : World σ → Prop}
  {pool : Pool σ ι} {world : World σ}

/-- Every good session codes a block as `f` says in every sound world, and stays good. -/
structure Uniform (code : Session σ ι → Bytes → World σ → Produced σ ι)
    (f : Bytes → Except CodecError Bytes) (good : Session σ ι → Prop) (sound : World σ → Prop) :
    Prop where
  result : ∀ session block world, good session → sound world →
    (code session block world).result = f block
  session : ∀ session block world, good session → sound world →
    good (code session block world).session
  world : ∀ session block world, good session → sound world →
    sound (code session block world).world

/-- New sessions of the pool are good, and so are the ones that its workers have. -/
def Good (good : Session σ ι → Prop) (pool : Pool σ ι) : Prop :=
  good (.new pool.library) ∧ ∀ entry ∈ pool.sessions, good entry.2

theorem Good.session (held : pool.Good good) (worker : Nat) : good (pool.session worker) := by
  rw [Pool.session]
  cases found : pool.sessions.lookup worker with
  | none => exact held.1
  | some session =>
    obtain ⟨before, after, sessions, -⟩ := List.lookup_eq_some_iff.1 found
    have member : (worker, session) ∈ pool.sessions := by
      rw [sessions]
      exact List.mem_append_right _ List.mem_cons_self
    exact held.2 _ member

theorem Good.keep (held : pool.Good good) {session : Session σ ι} (fine : good session)
    (worker : Nat) : (pool.keep worker session).Good good := by
  refine ⟨held.1, fun entry member => ?_⟩
  rcases List.mem_cons.1 member with rfl | member
  · exact fine
  · exact held.2 entry (List.mem_filter.1 member).1

/-- The output of a block, if there is one. -/
def outputAt (f : Bytes → Except CodecError Bytes) (blocks : Array Bytes) (index : Nat) : Bytes :=
  match blocks[index]? with
  | none => []
  | some block =>
    match f block with
    | .ok output => output
    | .error _ => []

/-- A run does all its blocks, or it fails at one of them. -/
theorem run_uniform (uniform : Uniform code f good sound) (blocks : Array Bytes)
    (schedule : Schedule) (held : pool.Good good) (settled : sound world)
    (within : ∀ step ∈ schedule, step.2 < blocks.size) :
    ((∀ step ∈ schedule, ∃ block output, blocks[step.2]? = some block ∧ f block = .ok output) ∧
      (run code blocks schedule pool world).1 = .ok () ∧
      (run code blocks schedule pool world).2.1.done =
        (schedule.map fun step => (step.2, outputAt f blocks step.2)).reverse ++ pool.done) ∨
    (∃ step ∈ schedule, ∃ block e, blocks[step.2]? = some block ∧ f block = .error e ∧
      (run code blocks schedule pool world).1 = .error e) := by
  induction schedule generalizing pool world with
  | nil => exact .inl ⟨fun _ member => absurd member List.not_mem_nil, rfl, rfl⟩
  | cons step schedule ih =>
    obtain ⟨worker, index⟩ := step
    have inside : index < blocks.size := within _ List.mem_cons_self
    have there : blocks[index]? = some blocks[index] := Array.getElem?_eq_getElem inside
    have fine := held.session worker
    have result := uniform.result _ blocks[index] world fine settled
    have kept := held.keep (uniform.session _ blocks[index] world fine settled) worker
    have after := uniform.world _ blocks[index] world fine settled
    simp only [run, there]
    cases coded : f blocks[index] with
    | error e =>
      right
      refine ⟨(worker, index), List.mem_cons_self, _, e, there, coded, ?_⟩
      rw [result, coded]
    | ok output =>
      have same : (pool.keep worker (code (pool.session worker) blocks[index] world).session).done =
          pool.done := rfl
      rw [result, coded]
      generalize pool.keep worker (code (pool.session worker) blocks[index] world).session = next
        at kept same ⊢
      dsimp only
      have more : Good good { next with done := (index, output) :: next.done } := kept
      rcases ih more after (fun step member => within step (List.mem_cons_of_mem _ member)) with
        ⟨all, succeeded, done⟩ | ⟨step, member, block, e, found, failing, failed⟩
      · left
        refine ⟨fun step member => ?_, succeeded, ?_⟩
        · rcases List.mem_cons.1 member with rfl | member
          · exact ⟨_, output, there, coded⟩
          · exact all step member
        · have here : outputAt f blocks index = output := by
            simp only [outputAt, there, coded]
          rw [done, List.map_cons, List.reverse_cons, List.append_assoc, here, same]
          rfl
      · right
        exact ⟨step, List.mem_cons_of_mem _ member, block, e, found, failing, failed⟩

/-- The order in which blocks were done is not seen in the output. -/
theorem output_of_perm {n : Nat} {out : Nat → Bytes}
    (done : pool.done.Perm ((List.range n).map fun index => (index, out index))) :
    pool.output = ((List.range n).map out).flatten := by
  have ascending : (pool.done.mergeSort fun a b => a.1 ≤ b.1).Pairwise
      fun a b => decide (a.1 ≤ b.1) = true :=
    List.pairwise_mergeSort
      (fun a b c first second => by
        rw [decide_eq_true_eq] at first second ⊢
        exact Nat.le_trans first second)
      (fun a b => by
        rw [Bool.or_eq_true, decide_eq_true_eq, decide_eq_true_eq]
        exact Nat.le_total a.1 b.1)
      pool.done
  have ascending' : ((List.range n).map fun index => (index, out index)).Pairwise
      fun a b => decide (a.1 ≤ b.1) = true := by
    rw [List.pairwise_map]
    exact List.pairwise_lt_range.imp fun less => decide_eq_true (Nat.le_of_lt less)
  have perm := (List.mergeSort_perm pool.done fun a b => a.1 ≤ b.1).trans done
  -- Outputs with one number are one and the same, so the sorted lists are too.
  have sorted := List.Perm.eq_of_pairwise (fun a b left right below above => by
    obtain ⟨i, -, rfl⟩ := List.mem_map.1 (perm.subset left)
    obtain ⟨j, -, rfl⟩ := List.mem_map.1 right
    have equal : i = j := Nat.le_antisymm (of_decide_eq_true below) (of_decide_eq_true above)
    rw [equal]) ascending ascending' perm
  rw [output, sorted, List.flatMap_map, List.flatMap_def]

end Pool

namespace Schedule

variable {schedule : Schedule} {blocks : Nat}

theorem Covers.lt (covers : schedule.Covers blocks) : ∀ step ∈ schedule, step.2 < blocks := by
  intro step member
  have index : step.2 ∈ schedule.map (·.2) := List.mem_map_of_mem member
  exact List.mem_range.1 (covers.mem_iff.1 index)

theorem Covers.exists_step (covers : schedule.Covers blocks) {index : Nat} (less : index < blocks) :
    ∃ step ∈ schedule, step.2 = index :=
  List.mem_map.1 (covers.mem_iff.2 (List.mem_range.2 less))

end Schedule

/-- Coding a list of blocks gives all their outputs, or the error of one of them. -/
theorem mapM_ok_or_error (f : Bytes → Except CodecError Bytes) (blocks : List Bytes) :
    (∃ outputs : List Bytes, blocks.mapM f = .ok outputs ∧ blocks.map f = outputs.map .ok) ∨
      (∃ e, blocks.mapM f = .error e ∧ ∃ block ∈ blocks, f block = .error e) := by
  induction blocks with
  | nil => exact .inl ⟨[], rfl, rfl⟩
  | cons block blocks ih =>
    rw [List.mapM_cons, List.map_cons]
    cases coded : f block with
    | error e => exact .inr ⟨e, rfl, block, List.mem_cons_self, coded⟩
    | ok output =>
      rcases ih with ⟨outputs, all, each⟩ | ⟨e, failed, other, member, failing⟩
      · refine .inl ⟨output :: outputs, ?_, ?_⟩
        · rw [all]
          rfl
        · rw [each, List.map_cons]
      · refine .inr ⟨e, ?_, other, List.mem_cons_of_mem _ member, failing⟩
        rw [failed]
        rfl

namespace Library

variable {library : Library σ ι} {code : Session σ ι → Bytes → World σ → Produced σ ι}
  {f : Bytes → Except CodecError Bytes} {good : Session σ ι → Prop} {sound : World σ → Prop}
  {world : World σ} {blocks : List Bytes} {schedule : Schedule}

/-- The outputs of blocks that are all coded, by number. -/
theorem map_outputAt {outputs : List Bytes} (coded : blocks.map f = outputs.map .ok) :
    (List.range blocks.length).map (Pool.outputAt f blocks.toArray) = outputs := by
  have lengths := congrArg List.length coded
  rw [List.length_map, List.length_map] at lengths
  apply List.ext_getElem
  · rw [List.length_map, List.length_range, lengths]
  · intro index less less'
    have inside : index < blocks.length := lengths ▸ less'
    have here := congrArg (·[index]?) coded
    simp only [List.getElem?_map, List.getElem?_eq_getElem inside,
      List.getElem?_eq_getElem less', Option.map_some, Option.some.injEq] at here
    simp only [List.getElem_map, List.getElem_range, Pool.outputAt, List.getElem?_toArray,
      List.getElem?_eq_getElem inside, here]

/-- Either all blocks are coded, and their outputs come out in the order of the blocks, or the error
of a failing block does. -/
theorem codeBlocks_uniform (uniform : Pool.Uniform code f good sound)
    (fresh : good (.new library)) (settled : sound world)
    (covers : schedule.Covers blocks.length) :
    (∀ outputs : List Bytes, blocks.map f = outputs.map .ok →
      ((library.codeBlocks code blocks schedule).runOn world).1 = .ok outputs.flatten) ∧
    ((∃ block ∈ blocks, ∃ e, f block = .error e) →
      ∃ block ∈ blocks, ∃ e, f block = .error e ∧
        ((library.codeBlocks code blocks schedule).runOn world).1 =
          .error (.error (.codec e))) := by
  have held : Pool.Good good { library } :=
    ⟨fresh, fun entry member => absurd member List.not_mem_nil⟩
  have ran := Pool.run_uniform uniform blocks.toArray schedule held settled covers.lt
  simp only [codeBlocks, Act.runOn_of]
  generalize Pool.run code blocks.toArray schedule { library } world = outcome at ran ⊢
  obtain ⟨result, pool, after⟩ := outcome
  rcases ran with ⟨all, succeeded, done⟩ | ⟨step, scheduled, block, e, found, failing, failed⟩
  · obtain rfl : result = _ := succeeded
    constructor
    · intro outputs coded
      have mapped : schedule.map (fun step => (step.2, Pool.outputAt f blocks.toArray step.2)) =
          (schedule.map (·.2)).map fun index =>
            (index, Pool.outputAt f blocks.toArray index) := by
        rw [List.map_map]
        rfl
      rw [List.append_nil, mapped] at done
      have perm := (List.Perm.of_eq done).trans
        ((List.reverse_perm _).trans (List.Perm.map _ covers))
      dsimp only
      rw [Pool.output_of_perm perm, map_outputAt coded]
    · rintro ⟨block, member, e, failing⟩
      obtain ⟨index, less, rfl⟩ := List.getElem_of_mem member
      obtain ⟨step, scheduled, rfl⟩ := covers.exists_step less
      obtain ⟨block, output, found, coded⟩ := all step scheduled
      rw [List.getElem?_toArray, List.getElem?_eq_getElem less] at found
      obtain rfl := Option.some.inj found
      cases failing.symm.trans coded
  · obtain rfl : result = _ := failed
    rw [List.getElem?_toArray] at found
    have member : block ∈ blocks := List.mem_of_getElem? found
    constructor
    · intro outputs coded
      have coded : f block ∈ outputs.map .ok := coded ▸ List.mem_map_of_mem member
      obtain ⟨output, -, same⟩ := List.mem_map.1 coded
      cases failing.symm.trans same.symm
    · intro _
      exact ⟨block, member, e, failing, rfl⟩

/-- Under every schedule that covers the blocks, coding them succeeds exactly if each of them can be
coded. -/
theorem codeBlocks_eq_ok_iff (uniform : Pool.Uniform code f good sound)
    (fresh : good (.new library)) (settled : sound world)
    (covers : schedule.Covers blocks.length) {data : Bytes} :
    ((library.codeBlocks code blocks schedule).runOn world).1 = .ok data ↔
      ∃ outputs : List Bytes, blocks.map f = outputs.map .ok ∧ data = outputs.flatten := by
  obtain ⟨all, some⟩ := codeBlocks_uniform uniform fresh settled covers
  constructor
  · intro succeeded
    rcases mapM_ok_or_error f blocks with ⟨outputs, -, each⟩ | ⟨e, -, block, member, failing⟩
    · rw [all outputs each] at succeeded
      exact ⟨outputs, each, (Except.ok.inj succeeded).symm⟩
    · obtain ⟨block', member', e', failing', answered⟩ := some ⟨block, member, e, failing⟩
      cases answered.symm.trans succeeded
  · rintro ⟨outputs, each, rfl⟩
    exact all outputs each

end Library

end OffloadCodec

import OffloadCodec.World

/-!
# What an operation ensures

`Act.Ensures` says where an operation leads from a world with some property, whether it succeeds or
not, and `Act.Maintains` that the property is still there then. Both go through the parts of an
operation one by one (`Act.Ensures.bind`, `Act.Maintains.bind`). An operation that succeeds went
through all of them (`Act.bind_ok`).
-/

namespace OffloadCodec.Act

variable {σ ε ε' α β : Type} {before between : World σ → Prop}

/-- From every world with one property the operation leads to a result and a world with another. -/
def Ensures (act : Act σ ε α) (before : World σ → Prop) (after : Except ε α → World σ → Prop) :
    Prop :=
  ∀ world, before world → after (act.runOn world).1 (act.runOn world).2

/-- The operation keeps a property of the world. -/
def Maintains (act : Act σ ε α) (kept : World σ → Prop) : Prop := act.Ensures kept fun _ => kept

theorem Ensures.bind {act : Act σ ε α} {next : α → Act σ ε β} {middle : Except ε α → World σ → Prop}
    {after : Except ε β → World σ → Prop} (first : act.Ensures before middle)
    (later : ∀ a, (next a).Ensures (middle (.ok a)) after)
    (failed : ∀ e world, middle (.error e) world → after (.error e) world) :
    (act >>= next).Ensures before after := by
  intro world holds
  have reached := first world holds
  rw [runOn_bind]
  generalize act.runOn world = outcome at reached ⊢
  obtain ⟨e | a, after⟩ := outcome
  · exact failed e after reached
  · exact later a after reached

theorem Ensures.mapError {act : Act σ ε α} {wrap : ε → ε'} {after : Except ε' α → World σ → Prop}
    (ensures : act.Ensures before fun result => after (result.mapError wrap)) :
    (act.mapError wrap).Ensures before after := by
  intro world holds
  have reached := ensures world holds
  rw [Act.mapError, runOn_of]
  generalize act.runOn world = outcome at reached ⊢
  obtain ⟨e | a, after⟩ := outcome
  · exact reached
  · exact reached

theorem maintains_pure (a : α) (kept : World σ → Prop) :
    (pure a : Act σ ε α).Maintains kept := fun _ holds => holds

theorem Maintains.bind {act : Act σ ε α} {next : α → Act σ ε β} {kept : World σ → Prop}
    (first : act.Maintains kept) (later : ∀ a, (next a).Maintains kept) :
    (act >>= next).Maintains kept :=
  Ensures.bind first later fun _ _ holds => holds

theorem Maintains.mapError {act : Act σ ε α} {kept : World σ → Prop} (maintains : act.Maintains kept)
    (wrap : ε → ε') : (act.mapError wrap).Maintains kept :=
  Ensures.mapError maintains

/-- An operation that succeeds went through its first part. -/
theorem bind_ok {act : Act σ ε α} {next : α → Act σ ε β} {world after : World σ} {b : β}
    (done : (act >>= next).runOn world = (.ok b, after)) :
    ∃ a middle, act.runOn world = (.ok a, middle) ∧ (next a).runOn middle = (.ok b, after) := by
  rw [runOn_bind] at done
  rcases first : act.runOn world with ⟨e | a, middle⟩
  · rw [first] at done
    cases done
  · rw [first] at done
    exact ⟨a, middle, rfl, done⟩

/-- An operation that succeeds does so before its errors are renamed. -/
theorem mapError_ok {act : Act σ ε α} {wrap : ε → ε'} {world after : World σ} {a : α}
    (done : (act.mapError wrap).runOn world = (.ok a, after)) :
    act.runOn world = (.ok a, after) := by
  rw [Act.mapError, runOn_of] at done
  rcases ran : act.runOn world with ⟨e | b, middle⟩
  · rw [ran] at done
    cases done
  · rw [ran] at done
    obtain ⟨rfl, rfl⟩ := by simpa only [Prod.mk.injEq, Except.ok.injEq] using done
    rfl

end OffloadCodec.Act

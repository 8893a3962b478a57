import OffloadCodec.Error

/-!
# Checked arithmetic on machine words

Lengths and offsets are 64-bit words. A sum or a product of two words is formed only if it fits one,
and then it is exact (`Word.toNat_of_add?`, `Word.toNat_of_mul?`); nothing wraps around.
-/

namespace OffloadCodec.Word

/-- A number as a word, if it fits one. -/
def ofNat? (n : Nat) : Option UInt64 := if n < UInt64.size then some (UInt64.ofNat n) else none

/-- The sum of two words, unless it overflows. -/
def add? (a b : UInt64) : Option UInt64 := ofNat? (a.toNat + b.toNat)

/-- The product of two words, unless it overflows. -/
def mul? (a b : UInt64) : Option UInt64 := ofNat? (a.toNat * b.toNat)

theorem ofNat?_eq_some_iff {n : Nat} {word : UInt64} : ofNat? n = some word ↔ word.toNat = n := by
  unfold ofNat?
  split
  · next fits =>
    rw [Option.some.injEq, ← UInt64.toNat_inj, UInt64.toNat_ofNat_of_lt' fits, eq_comm]
  · next overflows =>
    refine iff_of_false (fun found => by cases found) ?_
    rintro rfl
    exact overflows word.toNat_lt_size

theorem ofNat?_eq_none_iff {n : Nat} : ofNat? n = none ↔ UInt64.size ≤ n := by
  unfold ofNat?
  split
  · next fits => exact iff_of_false (fun missing => by cases missing) (Nat.not_le.2 fits)
  · next overflows => exact iff_of_true rfl (Nat.le_of_not_lt overflows)

theorem ofNat?_toNat (word : UInt64) : ofNat? word.toNat = some word :=
  ofNat?_eq_some_iff.2 rfl

theorem toNat_of_add? {a b sum : UInt64} (added : add? a b = some sum) :
    sum.toNat = a.toNat + b.toNat :=
  ofNat?_eq_some_iff.1 added

theorem toNat_of_mul? {a b product : UInt64} (multiplied : mul? a b = some product) :
    product.toNat = a.toNat * b.toNat :=
  ofNat?_eq_some_iff.1 multiplied

end OffloadCodec.Word

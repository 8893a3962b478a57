import Mathlib.Data.List.Induction
import Mathlib.Data.List.TakeWhile
import Mathlib.Data.Nat.Digits.Defs
import OffloadCodec.Size

/-!
# The grammar of sizes

A text denotes a size (`Size.Denotes`) if it is a decimal number with one of seven units, possibly
with blanks around it, and the number times the unit fits a word. Reading a text gives a size exactly
if the text denotes it (`Size.parse?_eq_some_iff`), so every text that is not of this form is
refused, and so is every text whose number or whose size does not fit.
-/

namespace OffloadCodec

namespace Text

/-- The number that decimal digits stand for, the most significant one first. -/
def decimal (digits : List Char) : Nat :=
  Nat.ofDigits 10 (digits.map fun c => c.toNat - '0'.toNat).reverse

theorem decimal_concat (digits : List Char) (c : Char) :
    decimal (digits ++ [c]) = 10 * decimal digits + (c.toNat - '0'.toNat) := by
  rw [decimal, List.map_append, List.map_singleton, List.reverse_append, List.reverse_singleton,
    List.singleton_append, Nat.ofDigits_cons, decimal, Nat.add_comm]

theorem digitsValue_eq_decimal (digits : List Char) : digitsValue digits = decimal digits := by
  induction digits using List.reverseRecOn with
  | nil => rfl
  | append_singleton digits c ih =>
    rw [decimal_concat, ← ih, digitsValue, List.foldl_append]
    rfl

/-! ## Blanks -/

theorem dropWhile_blank {before : List Char} (blank : ∀ c ∈ before, isBlank c) {core : List Char}
    (solid : ∃ c ∈ core.head?, ¬isBlank c) : (before ++ core).dropWhile isBlank = core := by
  rw [List.dropWhile_append_of_pos blank]
  obtain ⟨c, first, solid⟩ := solid
  cases core with
  | nil => cases first
  | cons d core =>
    obtain rfl : d = c := Option.some.inj first
    exact List.dropWhile_cons_of_neg solid

/-- Trimming takes away the blanks around a text that neither begins nor ends with one. -/
theorem trim_eq {before core after : List Char} (blank : ∀ c ∈ before ++ after, isBlank c)
    (first : ∃ c ∈ core.head?, ¬isBlank c) (last : ∃ c ∈ core.getLast?, ¬isBlank c) :
    trim (before ++ core ++ after) = core := by
  obtain ⟨blank_before, blank_after⟩ := List.forall_mem_append.1 blank
  have begins : ∃ c ∈ (core ++ after).head?, ¬isBlank c := by
    obtain ⟨c, found, solid⟩ := first
    exact ⟨c, by rw [List.head?_append, found, Option.some_or]; rfl, solid⟩
  have ends : ∃ c ∈ core.reverse.head?, ¬isBlank c := by
    rwa [List.head?_reverse]
  have blank_reverse : ∀ c ∈ after.reverse, isBlank c :=
    fun c member => blank_after c (List.mem_reverse.1 member)
  rw [trim, List.append_assoc, dropWhile_blank blank_before begins, List.reverse_append,
    dropWhile_blank blank_reverse ends, List.reverse_reverse]

theorem exists_trim (text : List Char) :
    ∃ before after, text = before ++ trim text ++ after ∧ ∀ c ∈ before ++ after, isBlank c := by
  let rest := text.dropWhile isBlank
  refine ⟨text.takeWhile isBlank, (rest.reverse.takeWhile isBlank).reverse, ?_, ?_⟩
  · have back : trim text ++ (rest.reverse.takeWhile isBlank).reverse = rest := by
      rw [trim, ← List.reverse_append, List.takeWhile_append_dropWhile, List.reverse_reverse]
    rw [List.append_assoc, back, List.takeWhile_append_dropWhile]
  · refine List.forall_mem_append.2 ⟨fun c member => ?_, fun c member => ?_⟩
    · exact List.mem_takeWhile_imp member
    · exact List.mem_takeWhile_imp (List.mem_reverse.1 member)

theorem not_isBlank_of_isDigit {c : Char} (digit : isDigit c) : ¬isBlank c := by
  simp only [isDigit, Bool.and_eq_true, decide_eq_true_eq] at digit
  obtain ⟨low, high⟩ := digit
  have low : 48 ≤ c.toNat := low
  have high : c.toNat ≤ 57 := high
  simp only [isBlank, Bool.or_eq_true, Bool.and_eq_true, decide_eq_true_eq]
  omega

end Text

namespace Size

/-! ## Units -/

/-- The units, each with the power of two that it stands for. -/
def units : List (String × Nat) :=
  [("", 0), ("K", 10), ("KB", 10), ("KiB", 10), ("M", 20), ("MB", 20), ("MiB", 20)]

theorem unitFactor?_eq (unit : List Char) :
    unitFactor? unit = (units.find? (·.1.toList = unit)).map (2 ^ ·.2) := by
  unfold unitFactor?
  split
  case h_8 none k kb kib m mb mib =>
    have unknown : units.find? (·.1.toList = unit) = .none := by
      rw [List.find?_eq_none]
      simp only [units, List.forall_mem_cons, decide_eq_true_eq]
      exact ⟨Ne.symm none, Ne.symm k, Ne.symm kb, Ne.symm kib, Ne.symm m, Ne.symm mb, Ne.symm mib,
        nofun⟩
    rw [unknown]
    rfl
  all_goals rfl

/-- A unit multiplies by its power of two, and nothing else is a unit. -/
theorem unitFactor?_eq_some_iff {unit : List Char} {factor : Nat} :
    unitFactor? unit = some factor ↔
      ∃ exponent, (String.ofList unit, exponent) ∈ units ∧ factor = 2 ^ exponent := by
  rw [unitFactor?_eq]
  constructor
  · intro found
    obtain ⟨⟨name, exponent⟩, known, rfl⟩ := Option.map_eq_some_iff.1 found
    have same : name.toList = unit := by simpa using List.find?_some known
    refine ⟨exponent, ?_, rfl⟩
    rw [← same, String.ofList_toList]
    exact List.mem_of_find?_eq_some known
  · rintro ⟨exponent, known, rfl⟩
    have all : ∀ entry ∈ units,
        (units.find? (·.1.toList = entry.1.toList)).map (2 ^ ·.2) = some (2 ^ entry.2) := by
      decide
    have found := all _ known
    rwa [String.toList_ofList] at found

theorem units_solid : ∀ unit ∈ units, ∀ c ∈ unit.1.toList, ¬Text.isBlank c ∧ ¬Text.isDigit c := by
  have all : (units.all fun unit => unit.1.toList.all fun c =>
      !Text.isBlank c && !Text.isDigit c) = true := by decide
  intro unit known c member
  have solid := List.all_eq_true.1 (List.all_eq_true.1 all unit known) c member
  simpa using solid

/-! ## Texts that denote a size -/

/-- The text is a decimal number with a unit, with blanks around it or none, and the number times
the unit is the size, which fits a word. -/
inductive Denotes (text : String) (size : Nat) : Prop
  | intro (before digits after : List Char) (unit : String) (exponent : Nat)
    (spelled : text.toList = before ++ (digits ++ unit.toList) ++ after)
    (blank : ∀ c ∈ before ++ after, Text.isBlank c) (nonempty : digits ≠ [])
    (digital : ∀ c ∈ digits, Text.isDigit c) (known : (unit, exponent) ∈ units)
    (product : size = Text.decimal digits * 2 ^ exponent) (fits : size < UInt64.size)

/-- A number with a unit neither begins nor ends with a blank. -/
theorem trim_of_digits {before digits after unit : List Char}
    (blank : ∀ c ∈ before ++ after, Text.isBlank c) (nonempty : digits ≠ [])
    (digital : ∀ c ∈ digits, Text.isDigit c) (solid : ∀ c ∈ unit, ¬Text.isBlank c) :
    Text.trim (before ++ (digits ++ unit) ++ after) = digits ++ unit := by
  have solid : ∀ c ∈ digits ++ unit, ¬Text.isBlank c :=
    List.forall_mem_append.2 ⟨fun c member => Text.not_isBlank_of_isDigit (digital c member), solid⟩
  have nonempty : digits ++ unit ≠ [] := fun empty => nonempty (List.append_eq_nil_iff.1 empty).1
  refine Text.trim_eq blank ⟨_, List.head?_eq_some_head nonempty, solid _ (List.head_mem nonempty)⟩
    ⟨_, List.getLast?_eq_some_getLast nonempty, solid _ (List.getLast_mem nonempty)⟩

theorem word?_eq_some_iff {n size : Nat} : word? n = some size ↔ size = n ∧ n < UInt64.size := by
  have whole : maxLength + 1 = UInt64.size := rfl
  unfold word?
  split
  · rw [Option.some.injEq]
    exact ⟨fun same => ⟨same.symm, by omega⟩, fun both => both.1.symm⟩
  · exact iff_of_false (fun found => by cases found) fun both => by omega

/-- What reading a text comes to, of its digits and what stands behind them. -/
theorem parse?_eq_bind (text : String) :
    parse? text =
      (Text.natural? ((Text.trim text.toList).takeWhile Text.isDigit)).bind fun value =>
        (word? value).bind fun value =>
          (unitFactor? ((Text.trim text.toList).dropWhile Text.isDigit)).bind fun factor =>
            word? (value * factor) :=
  rfl

theorem denotes_of_parse? {text : String} {size : Nat} (read : parse? text = some size) :
    Denotes text size := by
  rw [parse?_eq_bind] at read
  obtain ⟨value, number, rest⟩ := Option.bind_eq_some_iff.1 read
  obtain ⟨kept, word, product⟩ := Option.bind_eq_some_iff.1 rest
  obtain ⟨factor, unit, whole⟩ := Option.bind_eq_some_iff.1 product
  obtain ⟨rfl, -⟩ := word?_eq_some_iff.1 word
  obtain ⟨rfl, fits⟩ := word?_eq_some_iff.1 whole
  obtain ⟨exponent, known, rfl⟩ := unitFactor?_eq_some_iff.1 unit
  obtain ⟨before, after, spelled, blank⟩ := Text.exists_trim text.toList
  unfold Text.natural? at number
  split at number
  · next digital =>
    obtain rfl := Option.some.inj number
    refine .intro before _ after _ exponent ?_ blank digital.1 (List.all_eq_true.1 digital.2) known
      (by rw [Text.digitsValue_eq_decimal]) fits
    rw [String.toList_ofList, List.takeWhile_append_dropWhile]
    exact spelled
  · cases number

theorem parse?_of_denotes {text : String} {size : Nat} (denotes : Denotes text size) :
    parse? text = some size := by
  obtain ⟨before, digits, after, unit, exponent, spelled, blank, nonempty, digital, known, product,
    fits⟩ := denotes
  have solid : ∀ c ∈ unit.toList, ¬Text.isBlank c ∧ ¬Text.isDigit c := units_solid _ known
  have trimmed : Text.trim text.toList = digits ++ unit.toList := by
    rw [spelled]
    exact trim_of_digits blank nonempty digital fun c member => (solid c member).1
  have front : (digits ++ unit.toList).takeWhile Text.isDigit = digits := by
    rw [List.takeWhile_append_of_pos digital, List.takeWhile_eq_nil_iff.2, List.append_nil]
    exact fun _ => (solid _ (List.getElem_mem _)).2
  have rest : (digits ++ unit.toList).dropWhile Text.isDigit = unit.toList := by
    rw [List.dropWhile_append_of_pos digital, List.dropWhile_eq_self_iff]
    exact fun _ => (solid _ (List.getElem_mem _)).2
  have number : Text.natural? digits = some (Text.decimal digits) := by
    rw [Text.natural?, if_pos ⟨nonempty, List.all_eq_true.2 digital⟩, Text.digitsValue_eq_decimal]
  have factor : unitFactor? unit.toList = some (2 ^ exponent) :=
    unitFactor?_eq_some_iff.2 ⟨exponent, by rwa [String.ofList_toList], rfl⟩
  -- The number is no larger than the size, so it fits a word if the size does.
  have small : Text.decimal digits < UInt64.size :=
    Nat.lt_of_le_of_lt (Nat.le_mul_of_pos_right _ (Nat.two_pow_pos exponent)) (product ▸ fits)
  rw [parse?_eq_bind, trimmed, front, rest, number, Option.bind_some,
    word?_eq_some_iff.2 ⟨rfl, small⟩, Option.bind_some, factor, Option.bind_some]
  exact word?_eq_some_iff.2 ⟨product, product ▸ fits⟩

/-- Reading is sound and complete for the grammar. -/
theorem parse?_eq_some_iff {text : String} {size : Nat} :
    parse? text = some size ↔ Denotes text size :=
  ⟨denotes_of_parse?, parse?_of_denotes⟩

/-- The largest number of kilobytes that fits, and the one behind it. -/
example : parse? " 18014398509481983KiB" = some 18446744073709550592 ∧
    parse? "18014398509481984KiB" = none := by
  decide

end Size

end OffloadCodec

import Mathlib.Data.List.Basic
import OffloadCodec.Bytes
import OffloadCodec.Proofs.Sizes.Grammar
import OffloadCodec.Proofs.Words

/-!
# Reading sizes byte by byte

`Size.scan` reads a size as it is read where texts are UTF-8 and numbers are machine words. It looks
for the first byte that is no digit, cuts the text there, which inside a character would stop the
program, and forms the number and the product in words that may overflow.

A character that is no digit begins with a byte that is no digit, whatever follows, so the cut is
always between two characters (`Text.cut_digits`). A number that overflows in the middle of its
digits does so as a whole (`Size.number?_digits`). With that, scanning never stops the program and
reads what the grammar says (`Size.parses_grammar`).
-/

namespace OffloadCodec

namespace Text

/-- The bytes of a text in UTF-8. -/
def utf8 (text : String) : Bytes := text.toUTF8.data.toList

theorem utf8_ofList (text : List Char) :
    utf8 (String.ofList text) = text.flatMap String.utf8EncodeChar := by
  rw [utf8, String.toUTF8, String.toByteArray_ofList, List.utf8Encode, List.toList_data_toByteArray]

theorem utf8_inj {s t : String} : utf8 s = utf8 t ↔ s = t := by
  rw [utf8, utf8, Array.toList_inj, ← String.toByteArray_inj]
  exact ⟨ByteArray.ext, congrArg ByteArray.data⟩

def isDigitByte (b : UInt8) : Bool := 0x30 ≤ b && b ≤ 0x39

/-- The byte is the first one of a character. -/
def leads (b : UInt8) : Bool := b < 0x80 || 0xc0 ≤ b

/-- The index is between two characters, or at one of the ends. -/
def isBoundary (bytes : Bytes) (index : Nat) : Bool :=
  index = 0 || index = bytes.length || bytes[index]?.any leads

/-- A text was to be cut at an index inside a character. The program stops. -/
structure InsideCharacter where
  index : Nat
deriving DecidableEq

/-- Cuts a text in two. -/
def cut (bytes : Bytes) (index : Nat) : Except InsideCharacter (Bytes × Bytes) :=
  if isBoundary bytes index then .ok (bytes.take index, bytes.drop index) else .error ⟨index⟩

/-! ## Digits and other characters -/

theorem toNat_val_lt (c : Char) : c.val.toNat < 0x110000 := by
  rcases c.valid with low | ⟨-, high⟩
  · exact Nat.lt_trans low (by decide)
  · exact high

theorem isDigit_iff {c : Char} : isDigit c ↔ 48 ≤ c.val.toNat ∧ c.val.toNat ≤ 57 := by
  simp only [isDigit, Bool.and_eq_true, decide_eq_true_eq]
  exact Iff.rfl

theorem isDigitByte_iff {b : UInt8} : isDigitByte b ↔ 48 ≤ b.toNat ∧ b.toNat ≤ 57 := by
  simp only [isDigitByte, Bool.and_eq_true, decide_eq_true_eq]
  exact Iff.rfl

theorem leads_iff {b : UInt8} : leads b ↔ b.toNat < 128 ∨ 192 ≤ b.toNat := by
  simp only [leads, Bool.or_eq_true, decide_eq_true_eq]
  exact Iff.rfl

/-- A character begins with a byte that leads, and this byte is a digit if the character is. -/
theorem exists_utf8EncodeChar (c : Char) :
    ∃ b bs, String.utf8EncodeChar c = b :: bs ∧ leads b ∧ (isDigitByte b ↔ isDigit c) := by
  have bounded := toNat_val_lt c
  simp only [String.utf8EncodeChar, leads_iff, isDigitByte_iff, isDigit_iff]
  generalize c.val.toNat = v at bounded ⊢
  split
  · refine ⟨_, _, rfl, ?_⟩
    rw [UInt8.toNat_ofNat_of_lt' (by simp [UInt8.size]; omega)]
    omega
  split
  · refine ⟨_, _, rfl, ?_⟩
    rw [UInt8.toNat_ofNat_of_lt' (by simp [UInt8.size]; omega)]
    omega
  split
  · refine ⟨_, _, rfl, ?_⟩
    rw [UInt8.toNat_ofNat_of_lt' (by simp [UInt8.size]; omega)]
    omega
  · refine ⟨_, _, rfl, ?_⟩
    rw [UInt8.toNat_ofNat_of_lt' (by simp [UInt8.size]; omega)]
    omega

theorem utf8EncodeChar_of_isDigit {c : Char} (digit : isDigit c) :
    String.utf8EncodeChar c = [UInt8.ofNat c.toNat] := by
  have small : c.val.toNat ≤ 127 := by
    have := isDigit_iff.1 digit
    omega
  simp only [String.utf8EncodeChar, if_pos small]
  rfl

theorem isDigitByte_of_isDigit {c : Char} (digit : isDigit c) :
    isDigitByte (UInt8.ofNat c.toNat) := by
  obtain ⟨b, bs, encoded, -, same⟩ := exists_utf8EncodeChar c
  rw [utf8EncodeChar_of_isDigit digit, List.cons.injEq] at encoded
  rw [encoded.1]
  exact same.2 digit

theorem utf8_of_digits {digits : List Char} (digital : ∀ c ∈ digits, isDigit c) :
    utf8 (String.ofList digits) = digits.map fun c => UInt8.ofNat c.toNat := by
  rw [utf8_ofList, List.map_eq_flatMap]
  exact List.flatMap_congr fun c member => utf8EncodeChar_of_isDigit (digital c member)

/-- What stands behind the digits is nothing, or begins with a byte that leads and is no digit. -/
theorem utf8_behind_digits (text : List Char) :
    utf8 (String.ofList (text.dropWhile isDigit)) = [] ∨
      ∃ b bs, utf8 (String.ofList (text.dropWhile isDigit)) = b :: bs ∧ leads b ∧
        ¬isDigitByte b := by
  rw [utf8_ofList]
  cases rest : text.dropWhile isDigit with
  | nil => exact .inl rfl
  | cons c others =>
    have other : ¬isDigit c := by
      have first := List.head?_dropWhile_not isDigit text
      rw [rest] at first
      simpa using first
    obtain ⟨b, bs, encoded, leading, digit⟩ := exists_utf8EncodeChar c
    rw [List.flatMap_cons, encoded]
    exact .inr ⟨b, _, rfl, leading, digit.not.2 other⟩

/-- The first byte that is no digit is where the digits end, and there the text can be cut. -/
theorem cut_digits (text : List Char) :
    let bytes := utf8 (String.ofList text)
    let stop := bytes.findIdx (!isDigitByte ·)
    stop = (text.takeWhile isDigit).length ∧
      cut bytes stop = .ok (utf8 (String.ofList (text.takeWhile isDigit)),
        utf8 (String.ofList (text.dropWhile isDigit))) := by
  intro bytes stop
  have digital : ∀ c ∈ text.takeWhile isDigit, isDigit c := fun _ => List.mem_takeWhile_imp
  have whole : bytes = utf8 (String.ofList (text.takeWhile isDigit)) ++
      utf8 (String.ofList (text.dropWhile isDigit)) := by
    simp only [bytes, utf8_ofList]
    rw [← List.flatMap_append, List.takeWhile_append_dropWhile]
  have behind := utf8_behind_digits text
  have front := utf8_of_digits digital
  generalize utf8 (String.ofList (text.takeWhile isDigit)) = digits at whole front ⊢
  generalize utf8 (String.ofList (text.dropWhile isDigit)) = rest at whole behind ⊢
  have length : digits.length = (text.takeWhile isDigit).length := by rw [front, List.length_map]
  have within : digits.findIdx (!isDigitByte ·) = digits.length := by
    refine List.findIdx_eq_length_of_false fun b member => ?_
    rw [front] at member
    obtain ⟨c, inside, rfl⟩ := List.mem_map.1 member
    rw [isDigitByte_of_isDigit (digital c inside)]
    rfl
  have stops : stop = digits.length := by
    have first : rest.findIdx (!isDigitByte ·) = 0 := by
      rcases behind with rfl | ⟨b, bs, rfl, -, other⟩
      · rfl
      · rw [List.findIdx_cons, eq_false_of_ne_true other]
        rfl
    simp only [stop, whole]
    rw [List.findIdx_append, within, if_neg (Nat.lt_irrefl _), first, Nat.zero_add]
  have boundary : isBoundary (digits ++ rest) digits.length := by
    rcases behind with rfl | ⟨b, bs, rfl, leading, -⟩
    · simp [isBoundary]
    · simp [isBoundary, leading]
  refine ⟨stops.trans length, ?_⟩
  rw [stops, whole, cut, if_pos boundary, List.take_left, List.drop_left]

end Text

namespace Size

/-- The value of a digit. -/
def digitOf (b : UInt8) : UInt64 := (b - 0x30).toUInt64

/-- The number that digits stand for, unless it overflows on the way. -/
def number? (digits : Bytes) : Option UInt64 :=
  digits.foldlM (fun value b => do Word.add? (← Word.mul? value 10) (digitOf b)) 0

/-- How far a unit shifts a number. -/
def shift? (unit : Bytes) : Option UInt64 :=
  (units.find? (Text.utf8 ·.1 = unit)).map (UInt64.ofNat ·.2)

/-- A number in its unit. -/
def product? (digits unit : Bytes) : Option UInt64 := do
  let value ← number? digits
  let shift ← shift? unit
  Word.mul? value (1 <<< shift)

/-- Reads a size from the bytes of a text. -/
def scan (text : String) : Except Text.InsideCharacter (Option UInt64) :=
  let bytes := Text.utf8 (String.ofList (Text.trim text.toList))
  let stop := bytes.findIdx (!Text.isDigitByte ·)
  if stop = 0 then .ok none
  else
    match Text.cut bytes stop with
    | .error e => .error e
    | .ok (digits, unit) => .ok (product? digits unit)

/-! ## Numbers -/

theorem le_foldl_digits (digits : List Char) (value : Nat) :
    value ≤ digits.foldl (fun value c => 10 * value + (c.toNat - '0'.toNat)) value := by
  induction digits generalizing value with
  | nil => exact Nat.le_refl _
  | cons c digits ih =>
    have step : value ≤ 10 * value + (c.toNat - '0'.toNat) := by omega
    exact Nat.le_trans step (ih _)

theorem toNat_digitOf {c : Char} (digit : Text.isDigit c) :
    (digitOf (UInt8.ofNat c.toNat)).toNat = c.toNat - '0'.toNat := by
  have range : 48 ≤ c.toNat ∧ c.toNat ≤ 57 := Text.isDigit_iff.1 digit
  have byte : (UInt8.ofNat c.toNat).toNat = c.toNat :=
    UInt8.toNat_ofNat_of_lt' (Nat.lt_of_le_of_lt range.2 (by decide))
  have above : (0x30 : UInt8) ≤ UInt8.ofNat c.toNat := by
    rw [UInt8.le_iff_toNat_le, byte]
    exact range.1
  rw [digitOf, UInt8.toNat_toUInt64, UInt8.toNat_sub_of_le _ _ above, byte]
  rfl

/-- One more digit. -/
theorem number?_step (value : UInt64) {c : Char} (digit : Text.isDigit c) :
    (do Word.add? (← Word.mul? value 10) (digitOf (UInt8.ofNat c.toNat))) =
      Word.ofNat? (10 * value.toNat + (c.toNat - '0'.toNat)) := by
  have small := toNat_digitOf digit
  cases times : Word.mul? value 10 with
  | none =>
    have overflow : UInt64.size ≤ value.toNat * 10 := Word.ofNat?_eq_none_iff.1 times
    exact (Word.ofNat?_eq_none_iff.2 (by omega)).symm
  | some shifted =>
    have exact_ : shifted.toNat = value.toNat * 10 := Word.toNat_of_mul? times
    rw [Option.bind_eq_bind, Option.bind_some, Word.add?, small, exact_, Nat.mul_comm]

/-- An overflow on the way is an overflow in the end, since more digits make no smaller number. -/
theorem foldlM_digits (value : UInt64) {digits : List Char}
    (digital : ∀ c ∈ digits, Text.isDigit c) :
    (digits.map fun c => UInt8.ofNat c.toNat).foldlM
        (fun value b => do Word.add? (← Word.mul? value 10) (digitOf b)) value =
      Word.ofNat?
        (digits.foldl (fun value c => 10 * value + (c.toNat - '0'.toNat)) value.toNat) := by
  induction digits generalizing value with
  | nil => exact (Word.ofNat?_toNat value).symm
  | cons c digits ih =>
    obtain ⟨digit, digital⟩ := List.forall_mem_cons.1 digital
    rw [List.map_cons, List.foldlM_cons, number?_step value digit, List.foldl_cons]
    cases next : Word.ofNat? (10 * value.toNat + (c.toNat - '0'.toNat)) with
    | none =>
      have overflow := Word.ofNat?_eq_none_iff.1 next
      exact (Word.ofNat?_eq_none_iff.2
        (Nat.le_trans overflow (le_foldl_digits digits _))).symm
    | some word =>
      rw [← Word.ofNat?_eq_some_iff.1 next]
      exact ih word digital

theorem number?_digits {digits : List Char} (digital : ∀ c ∈ digits, Text.isDigit c) :
    number? (Text.utf8 (String.ofList digits)) = Word.ofNat? (Text.digitsValue digits) := by
  rw [Text.utf8_of_digits digital]
  exact foldlM_digits 0 digital

/-! ## Units and products -/

theorem shift?_utf8 (unit : List Char) :
    shift? (Text.utf8 (String.ofList unit)) =
      (units.find? (·.1.toList = unit)).map (UInt64.ofNat ·.2) := by
  have same : ∀ name : String,
      (Text.utf8 name = Text.utf8 (String.ofList unit)) ↔ name.toList = unit := by
    intro name
    rw [Text.utf8_inj, ← String.toList_inj, String.toList_ofList]
  simp only [shift?, same]

theorem toNat_one_shiftLeft {unit : String × Nat} (known : unit ∈ units) :
    ((1 : UInt64) <<< UInt64.ofNat unit.2).toNat = 2 ^ unit.2 := by
  have all : ∀ unit ∈ units, ((1 : UInt64) <<< UInt64.ofNat unit.2).toNat = 2 ^ unit.2 := by
    decide
  exact all unit known

theorem map_word? (n : Nat) : (word? n).map UInt64.ofNat = Word.ofNat? n := by
  have whole : maxLength + 1 = UInt64.size := rfl
  unfold word? Word.ofNat?
  by_cases fits : n ≤ maxLength
  · rw [if_pos fits, if_pos (by omega)]
    rfl
  · rw [if_neg fits, if_neg (by omega)]
    rfl

/-- The product of a number and a unit, in words and exactly. -/
theorem product?_utf8 {digits unit : List Char} (digital : ∀ c ∈ digits, Text.isDigit c) :
    product? (Text.utf8 (String.ofList digits)) (Text.utf8 (String.ofList unit)) =
      ((word? (Text.digitsValue digits)).bind fun value =>
        (unitFactor? unit).bind fun factor => word? (value * factor)).map UInt64.ofNat := by
  have number := number?_digits digital
  rw [← map_word?] at number
  rw [product?, number, shift?_utf8, unitFactor?_eq]
  cases word : word? (Text.digitsValue digits) with
  | none => rfl
  | some value =>
    obtain ⟨rfl, fits⟩ := word?_eq_some_iff.1 word
    cases found : units.find? (·.1.toList = unit) with
    | none => rfl
    | some known =>
      have factor := toNat_one_shiftLeft (List.mem_of_find?_eq_some found)
      simp only [Option.map_some, Option.bind_eq_bind, Option.bind_some, Word.mul?,
        UInt64.toNat_ofNat_of_lt' fits, factor, map_word?]

/-- Scanning goes through to the end, and reads what parsing does. -/
theorem scan_eq (text : String) : scan text = .ok ((parse? text).map UInt64.ofNat) := by
  obtain ⟨stops, divides⟩ := Text.cut_digits (Text.trim text.toList)
  have digital : ∀ c ∈ (Text.trim text.toList).takeWhile Text.isDigit, Text.isDigit c :=
    fun _ => List.mem_takeWhile_imp
  rw [parse?_eq_bind, Text.natural?]
  simp only [scan, divides]
  by_cases empty : (Text.trim text.toList).takeWhile Text.isDigit = []
  · rw [if_pos (stops.trans (List.length_eq_zero_iff.2 empty)),
      if_neg fun digits => digits.1 empty]
    rfl
  · rw [if_neg fun none => empty (List.length_eq_zero_iff.1 (stops.symm.trans none)),
      if_pos ⟨empty, List.all_eq_true.2 digital⟩, product?_utf8 digital, Option.bind_some]

/-- A text is read as a size exactly if the grammar says that it denotes one, and as that size.
Reading it byte by byte, in words that overflow, never cuts a character and comes to the same. -/
theorem parses_grammar (text : String) :
    (∀ size, parse? text = some size ↔ Denotes text size) ∧
      scan text = .ok ((parse? text).map UInt64.ofNat) :=
  ⟨fun _ => parse?_eq_some_iff, scan_eq text⟩

end Size

end OffloadCodec

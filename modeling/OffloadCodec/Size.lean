import OffloadCodec.Error
import OffloadCodec.Text.Blank
import OffloadCodec.Text.Numeral

/-!
# Sizes

A size is a decimal number with an optional unit, `K`, `KB` or `KiB` for 2^10 and `M`, `MB` or
`MiB` for 2^20, between optional blanks, and fits a 64-bit word. `parse?` reads one.

Block sizes lie within `blockSizeMin` and `blockSizeMax`; `parseBlockSize` also says what is wrong
with one that does not.
-/

namespace OffloadCodec.Size

/-- What a unit multiplies by. -/
def unitFactor? : List Char → Option Nat
  | [] => some 1
  | ['K'] => some 1024
  | ['K', 'B'] => some 1024
  | ['K', 'i', 'B'] => some 1024
  | ['M'] => some 1048576
  | ['M', 'B'] => some 1048576
  | ['M', 'i', 'B'] => some 1048576
  | _ => none

/-- A value that fits a word. -/
def word? (n : Nat) : Option Nat := if n ≤ maxLength then some n else none

/-- Reads a size; `none` when there is no digit, when anything else stands in it, or when the number
or the size does not fit a word. -/
def parse? (text : String) : Option Nat := do
  let text := Text.trim text.toList
  let value ← Text.natural? (text.takeWhile Text.isDigit)
  let value ← word? value
  let factor ← unitFactor? (text.dropWhile Text.isDigit)
  word? (value * factor)

/-- Uncompressed bytes per block, unless set otherwise. -/
def blockSizeDefault : Nat := 256 * 1024
def blockSizeMin : Nat := 32 * 1024
def blockSizeMax : Nat := 512 * 1048576

/-- The size may be used for the blocks of a stream. -/
def isBlockSize (size : Nat) : Bool := blockSizeMin ≤ size && size ≤ blockSizeMax

/-- Why a text is no block size. -/
inductive BlockSizeError
  | invalid (text : String)
  | outside (size : Nat)
deriving DecidableEq, Repr

def BlockSizeError.message : BlockSizeError → String
  | .invalid text => "invalid block size '" ++ text ++ "'"
  | .outside size =>
    "block size " ++ toString size ++ " outside " ++ toString blockSizeMin ++ "..=" ++
      toString blockSizeMax

def parseBlockSize (text : String) : Except BlockSizeError Nat :=
  match parse? text with
  | none => .error (.invalid text)
  | some size => if isBlockSize size then .ok size else .error (.outside size)

end OffloadCodec.Size

/-!
# Percentages with two decimals

A float is written with two decimals, from its exact binary value: rounded to the nearest hundredth,
a tie going to the even neighbour. The sign and the infinities are not needed, since a percentage is
a quotient of two counts.
-/

namespace OffloadCodec.Text

/-- The natural number nearest to `num / den`, a tie going to the even one. -/
def roundDiv (num den : Nat) : Nat :=
  let quotient := num / den
  let twice := 2 * (num % den)
  if twice < den then quotient
  else if den < twice then quotient + 1
  else quotient + quotient % 2

/-- The exact value of a non-negative float as a fraction. -/
def fraction (x : Float) : Nat × Nat :=
  let bits := x.toBits.toNat
  let exponent := (bits >>> 52) % (1 <<< 11)
  let mantissa := bits % (1 <<< 52)
  let (digits, scale) := if exponent = 0 then (mantissa, 1) else (mantissa + (1 <<< 52), exponent)
  if 1075 ≤ scale then (digits <<< (scale - 1075), 1) else (digits, 1 <<< (1075 - scale))

/-- Hundredths as a number with two decimals. -/
def hundredths (n : Nat) : String :=
  toString (n / 100) ++ "." ++ toString (n / 10 % 10) ++ toString (n % 10)

/-- A non-negative float with two decimals. -/
def twoDecimals (x : Float) : String :=
  let (num, den) := fraction x
  hundredths (roundDiv (100 * num) den)

end OffloadCodec.Text

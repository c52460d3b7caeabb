/-! Floating-point numbers with two decimal places. -/

namespace GuestSim.Text

/-- The quotient rounded to the nearest integer, a half to the even one. -/
def roundDiv (num den : Nat) : Nat :=
  let quotient := num / den
  let twice := 2 * (num % den)
  if twice < den then quotient
  else if den < twice then quotient + 1
  else quotient + quotient % 2

/-- The magnitude of a finite number in binary64 format, in hundredths and rounded. -/
def hundredths (bits : UInt64) : Nat :=
  let fraction := bits.toNat % 0x10000000000000
  let exponent := bits.toNat / 0x10000000000000 % 2048
  let significand := if exponent = 0 then fraction else fraction + 0x10000000000000
  let scale := max 1 exponent
  if 1075 ≤ scale then (significand * 100) <<< (scale - 1075)
  else roundDiv (significand * 100) (1 <<< (1075 - scale))

/-- A finite number that is not negative, rounded to two places from its exact value. -/
def fixed2 (x : Float) : String :=
  let h := hundredths x.toBits
  let cents := h % 100
  toString (h / 100) ++ (if cents < 10 then ".0" else ".") ++ toString cents

end GuestSim.Text

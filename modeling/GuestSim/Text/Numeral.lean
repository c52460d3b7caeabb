/-! Numerals. A numeral to read is an optional `0x` or `0b`, an optional plus sign and at least one
digit, and denotes a 64-bit word; written numerals have no leading zeros unless padded. -/

namespace GuestSim.Numeral

/-- The value of a digit below `base`, letters of either case counting from ten. -/
def digit? (base : Nat) (c : Char) : Option Nat :=
  let value? :=
    if '0' ≤ c ∧ c ≤ '9' then some (c.toNat - '0'.toNat)
    else if 'a' ≤ c ∧ c ≤ 'z' then some (c.toNat - 'a'.toNat + 10)
    else if 'A' ≤ c ∧ c ≤ 'Z' then some (c.toNat - 'A'.toNat + 10)
    else none
  value?.filter (· < base)

/-- The number denoted by the digits read so far, `acc`, followed by `cs`. -/
def digits? (base : Nat) : Nat → List Char → Option Nat
  | acc, [] => some acc
  | acc, c :: cs => (digit? base c).bind fun d => digits? base (acc * base + d) cs

/-- One or more digits, after an optional plus sign. -/
def unsigned? (base : Nat) : List Char → Option Nat
  | [] => none
  | ['+'] => none
  | '+' :: cs => digits? base 0 cs
  | cs => digits? base 0 cs

/-- The base that the start of a numeral announces, and what follows it. -/
def splitBase : List Char → Nat × List Char
  | '0' :: 'x' :: cs => (16, cs)
  | '0' :: 'b' :: cs => (2, cs)
  | cs => (10, cs)

/-- Reads a numeral whose value fits in 64 bits. -/
def word? (text : String) : Option UInt64 :=
  let (base, cs) := splitBase text.toList
  (unsigned? base cs).bind fun n => if n < UInt64.size then some n.toUInt64 else none

/-- Lower-case hexadecimal digits after `0x`. -/
def hex (n : Nat) : String :=
  "0x" ++ String.ofList (Nat.toDigits 16 n)

/-- Hexadecimal digits filled up with zeros on the left. -/
def paddedHex (width n : Nat) : String :=
  String.ofList ((Nat.toDigits 16 n).leftpad width '0')

end GuestSim.Numeral

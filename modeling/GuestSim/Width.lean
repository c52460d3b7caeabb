/-! Machine words of the four widths that generated code computes with. -/

namespace GuestSim

inductive Width where
  | w8
  | w16
  | w32
  | w64
deriving DecidableEq, Repr

namespace Width

def bytes : Width → Nat
  | .w8 => 1
  | .w16 => 2
  | .w32 => 4
  | .w64 => 8

@[reducible] def bits : Width → Nat
  | .w8 => 8
  | .w16 => 16
  | .w32 => 32
  | .w64 => 64

def ofBits? : Nat → Option Width
  | 8 => some .w8
  | 16 => some .w16
  | 32 => some .w32
  | 64 => some .w64
  | _ => none

end Width

abbrev Word (w : Width) := BitVec w.bits

namespace Word

/-- The low bits of `value`. -/
def const (w : Width) (value : UInt64) : Word w := BitVec.ofNat w.bits value.toNat

/-- Cuts off high bits, or extends with zeros or with the sign. -/
def resize {v : Width} (signed : Bool) (w : Width) (x : Word v) : Word w :=
  if signed then x.signExtend w.bits else x.setWidth w.bits

def toUInt64 {w : Width} (x : Word w) : UInt64 := x.toNat.toUInt64

/-- A truth value as a byte. -/
def ofBool (b : Bool) : Word .w8 := if b then 1 else 0

def isZero {w : Width} (x : Word w) : Bool := x == 0

/-- The first word unless the condition is zero. -/
def select {v w : Width} (condition : Word v) (x y : Word w) : Word w :=
  if condition.isZero then y else x

end Word

end GuestSim

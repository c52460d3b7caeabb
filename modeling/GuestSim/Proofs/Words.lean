import Mathlib.Algebra.Group.Nat.Defs
import GuestSim.Width

/-! # Words of several widths

Words of every width cross the border between generated code and the core as 64 bits. Extended they
keep their value, and cut back they are what they were. -/

namespace GuestSim

theorem Width.bits_le (w : Width) : w.bits ≤ 64 := by
  cases w <;> decide

/-- The numbers that fit in the bytes of a word are those that fit in its bits. -/
theorem Width.pow_bytes (w : Width) : 256 ^ w.bytes = 2 ^ w.bits := by
  cases w <;> rfl

/-- To extend with the sign and cut off again is to extend less. -/
theorem setWidth_signExtend {n k l : Nat} (h : k ≤ l) (x : BitVec n) :
    (x.signExtend l).setWidth k = x.signExtend k := by
  apply BitVec.eq_of_getLsbD_eq
  intro i hi
  have hi' : i < l := Nat.lt_of_lt_of_le hi h
  simp only [BitVec.getLsbD_setWidth, BitVec.getLsbD_signExtend]
  simp [hi, hi']

namespace Word

variable {v w : Width}

theorem toNat_const (w : Width) (value : UInt64) :
    (const w value).toNat = value.toNat % 2 ^ w.bits :=
  BitVec.toNat_ofNat _ _

/-- A word crosses the border extended with zeros. -/
theorem toNat_toUInt64 (x : Word w) : x.toUInt64.toNat = x.toNat :=
  UInt64.toNat_ofNat_of_lt' (Nat.lt_of_lt_of_le x.isLt (Nat.pow_le_pow_right (by decide) w.bits_le))

/-- And it comes back as it was. -/
theorem const_toUInt64 (x : Word w) : const w x.toUInt64 = x := by
  apply BitVec.eq_of_toNat_eq
  rw [toNat_const, toNat_toUInt64, Nat.mod_eq_of_lt x.isLt]

theorem toUInt64_const_w64 (value : UInt64) : (const .w64 value).toUInt64 = value := by
  apply UInt64.toNat_inj.mp
  rw [toNat_toUInt64, toNat_const]
  exact Nat.mod_eq_of_lt value.toNat_lt

theorem toUInt64_succ (h : w = .w64) (x : Word w) : (x + 1).toUInt64 = x.toUInt64 + 1 := by
  subst h
  apply UInt64.toNat_inj.mp
  rw [UInt64.toNat_add, toNat_toUInt64, toNat_toUInt64]
  exact BitVec.toNat_add x 1

theorem toNat_resize (x : Word v) (w : Width) :
    (resize false w x).toNat = x.toNat % 2 ^ w.bits := by
  rw [resize, if_neg Bool.false_ne_true, BitVec.toNat_setWidth]

theorem toNat_resize_of_le (h : v.bits ≤ w.bits) (x : Word v) :
    (resize false w x).toNat = x.toNat := by
  rw [resize, if_neg Bool.false_ne_true, BitVec.toNat_setWidth_of_le h]

/-- A number is cut at once or in two steps. -/
theorem resize_const_of_le (h : w.bits ≤ v.bits) (value : UInt64) :
    resize false w (const v value) = const w value := by
  apply BitVec.eq_of_toNat_eq
  rw [toNat_resize, toNat_const, toNat_const, Nat.mod_mod_of_dvd _ (Nat.pow_dvd_pow 2 h)]

theorem toUInt64_resize_w64 (x : Word v) : (resize false .w64 x).toUInt64 = x.toUInt64 := by
  apply UInt64.toNat_inj.mp
  rw [toNat_toUInt64, toNat_toUInt64, toNat_resize_of_le v.bits_le]

theorem toInt_resize_of_le (h : v.bits ≤ w.bits) (x : Word v) :
    (resize true w x).toInt = x.toInt := by
  rw [resize, if_pos rfl, BitVec.toInt_signExtend_of_le h]

/-- To a word no wider, the sign makes no difference. -/
theorem resize_of_le (h : w.bits ≤ v.bits) (signed : Bool) (x : Word v) :
    resize signed w x = x.setWidth w.bits := by
  cases signed with
  | false => rfl
  | true => rw [resize, if_pos rfl, BitVec.signExtend_eq_setWidth_of_le x h]

/-- What was extended, with zeros or with the sign, is cut back to what it was. -/
theorem resize_resize (h : v.bits ≤ w.bits) (signed back : Bool) (x : Word v) :
    resize back v (resize signed w x) = x := by
  rw [resize_of_le h]
  cases signed with
  | false => rw [resize, if_neg Bool.false_ne_true, BitVec.setWidth_setWidth_of_le x h,
      BitVec.setWidth_eq]
  | true => rw [resize, if_pos rfl, setWidth_signExtend h, BitVec.signExtend_eq]

end Word

end GuestSim

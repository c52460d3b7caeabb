import Mathlib.Algebra.Group.Nat.Defs
import GuestSim.Mini.Instr

/-! # Instructions and their words

A word stands for at most one instruction, the one that it encodes, and it stands for none if its
opcode or one of its registers does not exist. -/

namespace GuestSim.Mini

namespace Opcode

theorem code_le (op : Opcode) : op.code ≤ 0xd := by
  cases op <;> decide

theorem ofCode?_eq_some_iff (n : Nat) (op : Opcode) : ofCode? n = some op ↔ op.code = n := by
  constructor
  · intro h
    have hcode : ∀ k : Fin all.length, (all.get k).code = k := by decide
    obtain ⟨hn, rfl⟩ := List.getElem?_eq_some_iff.mp h
    exact hcode ⟨n, hn⟩
  · rintro rfl
    cases op <;> rfl

theorem ofCode?_eq_none_iff (n : Nat) : ofCode? n = none ↔ 0xd < n :=
  List.getElem?_eq_none_iff

end Opcode

namespace Instr

/-- The fields do not overlap, so nothing is carried from one to the next. -/
theorem toNat_encode (i : Instr) :
    i.encode.toNat = i.op.code * 0x1000000 + i.rd.toNat % 16 * 0x100000 +
      i.rs.toNat % 16 * 0x10000 + i.imm.toUInt16.toNat := by
  have hop := i.op.code_le
  have himm := i.imm.toUInt16.toNat_lt
  rw [encode, UInt32.toNat_ofNat']
  omega

/-- A word stands for the instruction that it encodes, if that names registers that exist. -/
theorem decode?_eq_some_iff {word : UInt32} {i : Instr} :
    decode? word = some i ↔ i.encode = word ∧ i.rd.toNat < 8 ∧ i.rs.toNat < 8 := by
  have hword := word.toNat_lt
  constructor
  · intro h
    simp only [decode?] at h
    split at h
    · contradiction
    · rename_i op hop
      rw [Opcode.ofCode?_eq_some_iff] at hop
      split at h
      · obtain rfl := Option.some.inj h
        rw [← UInt32.toNat_inj, toNat_encode]
        simp only [UInt8.toNat_ofNat', UInt16.toUInt16_toInt16, UInt16.toNat_ofNat']
        omega
      · contradiction
  · rintro ⟨hencode, hrd, hrs⟩
    have hop := i.op.code_le
    have himm := i.imm.toUInt16.toNat_lt
    have hnat : word.toNat = _ := hencode ▸ i.toNat_encode
    have hcode : Opcode.ofCode? (word.toNat / 0x1000000) = some i.op := by
      rw [Opcode.ofCode?_eq_some_iff]
      omega
    have hrd' : word.toNat / 0x100000 % 16 = i.rd.toNat := by omega
    have hrs' : word.toNat / 0x10000 % 16 = i.rs.toNat := by omega
    have himm' : word.toNat % 0x10000 = i.imm.toUInt16.toNat := by omega
    simp only [decode?, hcode, hrd', hrs', himm', hrd, hrs, and_self, if_true,
      UInt8.ofNat_toNat, UInt16.ofNat_toNat, Int16.toInt16_toUInt16]

theorem registers_of_decode? {word : UInt32} {i : Instr} (h : decode? word = some i) :
    i.rd.toNat < 8 ∧ i.rs.toNat < 8 :=
  (decode?_eq_some_iff.mp h).2

/-- A register field names a register that exists unless its highest bit is set. -/
theorem field_lt_iff (n k : Nat) : n / 2 ^ k % 16 < 8 ↔ n.testBit (k + 3) = false := by
  have hdiv : n / 2 ^ (k + 3) = n / 2 ^ k / 8 := by
    rw [Nat.pow_add, Nat.div_div_eq_div_mul]
  rw [Nat.testBit_eq_decide_div_mod_eq, hdiv, decide_eq_false_iff_not]
  omega

theorem decode?_eq_none_iff (word : UInt32) :
    decode? word = none ↔
      (0xd : UInt32) < word >>> 24 ∨ word.toNat.testBit 23 = true ∨
        word.toNat.testBit 19 = true := by
  have hop : (0xd : UInt32) < word >>> 24 ↔ Opcode.ofCode? (word.toNat / 0x1000000) = none := by
    rw [Opcode.ofCode?_eq_none_iff, UInt32.lt_iff_toNat_lt, UInt32.toNat_shiftRight,
      Nat.shiftRight_eq_div_pow]
    rfl
  have hrd : word.toNat / 0x100000 % 16 < 8 ↔ word.toNat.testBit 23 = false :=
    field_lt_iff word.toNat 20
  have hrs : word.toNat / 0x10000 % 16 < 8 ↔ word.toNat.testBit 19 = false :=
    field_lt_iff word.toNat 16
  rw [hop]
  simp only [decode?, hrd, hrs]
  cases Opcode.ofCode? (word.toNat / 0x1000000) with
  | none => simp
  | some op => cases word.toNat.testBit 23 <;> simp

end Instr

end GuestSim.Mini

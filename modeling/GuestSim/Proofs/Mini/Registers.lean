import GuestSim.Mini.Core
import GuestSim.Proofs.Storage

/-! # The registers of the small architecture in their storage

Generated code reaches the counter, the addresses and the traps at their places in the block of
registers. What it finds and changes there are the registers of the same names. -/

namespace GuestSim.Mini

namespace Registers

theorem load_words (words : List UInt32) (rest : List UInt8) {i : Nat} (h : i < words.length) :
    Bytes.load (words.flatMap (Bytes.digits 4 ·.toNat) ++ rest).toArray (4 * i) 4 =
      words[i].toNat := by
  induction words generalizing i with
  | nil => simp at h
  | cons word words ih =>
      rw [List.flatMap_cons, List.append_assoc]
      cases i with
      | zero => exact (Bytes.load_digits 4 _ _).trans (Nat.mod_eq_of_lt word.toNat_lt)
      | succ i =>
          have hbehind := Bytes.load_append (Bytes.digits 4 word.toNat)
            (words.flatMap (Bytes.digits 4 ·.toNat) ++ rest) (4 * i) 4
          rw [Bytes.length_digits, Nat.add_comm] at hbehind
          rw [Nat.mul_succ, hbehind, List.getElem_cons_succ]
          exact ih (Nat.lt_of_succ_lt_succ h)

def words (regs : Registers) : List UInt32 :=
  regs.gpr.toList ++ [regs.pc, regs.nextPc, regs.pendingTrap, regs.trapState]

theorem bytes_eq (regs : Registers) :
    regs.bytes = regs.words.flatMap (Bytes.digits 4 ·.toNat) ++
      Bytes.digits 8 regs.icount.toNat := by
  rw [bytes, words, List.flatMap_append, List.append_assoc]

theorem length_words (regs : Registers) : regs.words.length = 12 := by
  simp [words]

theorem peek_block (regs : Registers) {i : Nat} (h : i < regs.words.length) :
    Bytes.peek regs.block (4 * i) 4 = regs.words[i].toNat := by
  rw [Bytes.peek_eq_load]
  change Bytes.load regs.bytes.toArray _ _ = _
  rw [bytes_eq]
  exact load_words regs.words _ h

theorem peek_icount (regs : Registers) : Bytes.peek regs.block 48 8 = regs.icount.toNat := by
  have hfront : (regs.words.flatMap (Bytes.digits 4 ·.toNat)).length = 48 := by
    simp [List.length_flatMap, List.map_const', length_words]
  have hload := Bytes.load_append (regs.words.flatMap (Bytes.digits 4 ·.toNat))
    (Bytes.digits 8 regs.icount.toNat ++ []) 0 8
  rw [Bytes.load_digits, hfront, List.append_nil, ← bytes_eq] at hload
  rw [Bytes.peek_eq_load]
  exact hload.trans (Nat.mod_eq_of_lt regs.icount.toNat_lt)

/-- The registers that lie in the block of some registers are these. -/
theorem ofBytes_block (regs : Registers) : ofBytes regs.block = regs := by
  have hword {i : Nat} (h : i < 12) {reg : UInt32} (hreg : regs.words[i]? = some reg) :
      UInt32.ofNat (Bytes.peek regs.block (4 * i) 4) = reg := by
    obtain ⟨hi, rfl⟩ := List.getElem?_eq_some_iff.mp hreg
    rw [regs.peek_block hi, UInt32.ofNat_toNat]
  have hgpr : (ofBytes regs.block).gpr = regs.gpr := by
    ext i hi
    rw [ofBytes, Vector.getElem_ofFn]
    apply congrArg UInt32.toNat
    apply hword (by omega)
    simp [words, List.getElem?_append_left, hi]
  have hicount : UInt64.ofNat (Bytes.peek regs.block 48 8) = regs.icount := by
    rw [regs.peek_icount, UInt64.ofNat_toNat]
  cases regs with
  | mk gpr pc nextPc pendingTrap trapState icount =>
      exact (Registers.mk.injEq ..).mpr ⟨hgpr, hword (i := 8) (by decide) (by simp [words]),
        hword (i := 9) (by decide) (by simp [words]),
        hword (i := 10) (by decide) (by simp [words]),
        hword (i := 11) (by decide) (by simp [words]), hicount⟩

/-- A number stored in the place of a special register is that of the register afterwards. -/
theorem ofBytes_put (regs : Registers) {slot : RegSlot} (h : slot ∈ layout.slots)
    (value : UInt64) :
    ofBytes (slot.put value.toNat regs.block) =
      regs.set slot.index value := by
  have hcut : UInt32.ofNat (value.toNat % 256 ^ 4) = value.toUInt32 := by
    apply UInt32.toNat_inj.mp
    rw [UInt32.toNat_ofNat', UInt64.toNat_toUInt32]
    exact Nat.mod_mod _ (2 ^ 32)
  have hwhole : UInt64.ofNat (value.toNat % 256 ^ 8) = value := by
    apply UInt64.toNat_inj.mp
    rw [UInt64.toNat_ofNat']
    exact (Nat.mod_mod _ (2 ^ 64)).trans (Nat.mod_eq_of_lt value.toNat_lt)
  conv_rhs => rw [← regs.ofBytes_block]
  rcases RegLayout.mem_slots.mp h with rfl | rfl | rfl | rfl | rfl
  · change ofBytes (Bytes.poke _ 32 4 _) =
      { ofBytes regs.block with pc := value.toUInt32 }
    simp (disch := omega) only [ofBytes, Bytes.peek_poke_of_apart, Bytes.peek_poke_self]
    rw [hcut]
  · change ofBytes (Bytes.poke _ 36 4 _) =
      { ofBytes regs.block with nextPc := value.toUInt32 }
    simp (disch := omega) only [ofBytes, Bytes.peek_poke_of_apart, Bytes.peek_poke_self]
    rw [hcut]
  · change ofBytes (Bytes.poke _ 48 8 _) = { ofBytes regs.block with icount := value }
    simp (disch := omega) only [ofBytes, Bytes.peek_poke_of_apart, Bytes.peek_poke_self]
    rw [hwhole]
  · change ofBytes (Bytes.poke _ 40 4 _) =
      { ofBytes regs.block with pendingTrap := value.toUInt32 }
    simp (disch := omega) only [ofBytes, Bytes.peek_poke_of_apart, Bytes.peek_poke_self]
    rw [hcut]
  · change ofBytes (Bytes.poke _ 44 4 _) =
      { ofBytes regs.block with trapState := value.toUInt32 }
    simp (disch := omega) only [ofBytes, Bytes.peek_poke_of_apart, Bytes.peek_poke_self]
    rw [hcut]

end Registers

/-! ## Slots -/

theorem layout_fits : layout.Fits 56 := by
  constructor <;> decide

theorem loadSlot_eq (core : Core) {slot : RegSlot} (h : slot ∈ layout.slots) :
    (Architecture.loadSlot core slot).toUInt64 = core.regs.get slot.index := by
  have hword {start : Nat} :
      Bytes.peek core.regs.block start 4 =
        (UInt32.ofNat (Bytes.peek core.regs.block start 4)).toUInt64.toNat := by
    rw [UInt32.toNat_toUInt64, UInt32.toNat_ofNat_of_lt' (Bytes.peek_lt _ _ _)]
  apply UInt64.toNat_inj.mp
  rw [Word.toNat_toUInt64, RegLayout.Fits.toNat_loadSlot layout_fits h]
  conv_rhs => rw [← core.regs.ofBytes_block]
  rcases RegLayout.mem_slots.mp h with rfl | rfl | rfl | rfl | rfl
  · exact hword
  · exact hword
  · exact (UInt64.toNat_ofNat_of_lt' (Bytes.peek_lt _ 48 8)).symm
  · exact hword
  · exact hword

theorem storeSlot_eq (core : Core) {slot : RegSlot} (h : slot ∈ layout.slots) {w : Width}
    (value : Word w) :
    Architecture.storeSlot core slot value =
      { core with regs := core.regs.set slot.index value.toUInt64 } := by
  rw [RegLayout.Fits.storeSlot_eq layout_fits h, ← Registers.ofBytes_put _ h,
    Word.toNat_toUInt64]
  rfl

end GuestSim.Mini

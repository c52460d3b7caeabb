import GuestSim.Proofs.Access
import GuestSim.Proofs.Mini.Memory

/-! # Words that generated code puts away and takes back

A word that is written to memory, to a register or to a wider word comes back whole, or cut to what
there was room for. -/

namespace GuestSim.Mini

variable {δ : Type} [Debugger δ] {v w : Width}

/-! ## Memory -/

/-- What becomes of a word `x` that code on `m` writes to memory and reads back. If memory does not
have all of its bytes, the unit is left with the core as it was. If it has, they hold the word, the
lowest byte first, and no other byte has changed. -/
structure Retrieved (m : Machine Core δ) (addr : Word v) (x : Word w)
    (out : Except Departure (Word w) × Machine Core δ) : Prop where
  refused : ¬m.core.Covers addr.toUInt64 w.bytes →
    out.1 = .error .trap ∧ out.2.core = m.core ∧
      out.2.context.exception = some (.accessTrap Cause.storeFault addr.toUInt64)
  kept : m.core.Covers addr.toUInt64 w.bytes →
    out.1 = .ok x ∧ ∃ ram, out.2.core = { m.core with ram } ∧
      { m.core with ram }.byteMap = m.core.byteMap.update addr.toNat w.bytes x.toNat

theorem retrieved_of_exec {addr : Word v} (hhalt : addr.toUInt64 ≠ haltAddr) (space : UInt32)
    (x : Word w) (m : Machine Core δ) :
    Retrieved m addr x ((do Body.store space addr x; Body.load space addr w).exec m) where
  refused h := by
    obtain ⟨m', hstore, hcore, hcontext⟩ := Body.exec_store_error (m := m) space
      (Core.writeMem_of_not_covers hhalt h x.toUInt64)
    rw [Body.exec_bind_error hstore]
    exact ⟨rfl, hcore, by rw [hcontext]⟩
  kept h := by
    obtain ⟨m', hstore, hcore, -⟩ := Body.exec_store_ok (m := m) space
      (Core.writeMem_of_covers hhalt h x.toUInt64)
    have hread : Architecture.readMem m'.core ⟨.read, space, addr.toUInt64⟩ w.bytes =
        (.ok x.toUInt64, m'.core) := by
      have hfits : x.toUInt64.toNat < 256 ^ w.bytes := by
        rw [Word.toNat_toUInt64, w.pow_bytes]
        exact x.isLt
      have hback : (m.core.withNumber addr.toUInt64 w.bytes x.toUInt64.toNat).readMem
          ⟨.read, space, addr.toUInt64⟩ w.bytes = _ := Core.readMem_withNumber h x.toUInt64.toNat
      rw [Nat.mod_eq_of_lt hfits, UInt64.ofNat_toNat] at hback
      rw [hcore]
      exact congrArg (·, _) hback
    obtain ⟨m'', hload, hcore', -⟩ := Body.exec_load_ok space hread
    rw [Body.exec_bind_ok hstore, hload, Word.const_toUInt64]
    have hmap := Core.byteMap_withNumber h x.toUInt64.toNat
    exact ⟨rfl, _, hcore'.trans hcore,
      hmap.trans (by rw [Word.toNat_toUInt64, Word.toNat_toUInt64])⟩

/-! ## Registers -/

/-- A register gives back as much of a value as it has bits for. -/
theorem Registers.toNat_get_set (regs : Registers) (core : Core) (idx : UInt32) (value : UInt64) :
    ((regs.set idx value).get idx).toNat =
      value.toNat % 2 ^ (Architecture.regBits core idx).toNat := by
  have hhalf (x : UInt64) : x.toUInt32.toUInt64.toNat = x.toNat % 2 ^ 32 := by
    rw [UInt32.toNat_toUInt64, UInt64.toNat_toUInt32]
  by_cases hspecial : idx = Register.pc ∨ idx = Register.nextPc ∨ idx = Register.pendingTrap ∨
      idx = Register.trapState
  · rcases hspecial with rfl | rfl | rfl | rfl <;> exact hhalf value
  by_cases hicount : idx = Register.icount
  · subst hicount
    exact (Nat.mod_eq_of_lt value.toNat_lt).symm
  simp only [not_or] at hspecial
  obtain ⟨hpc, hnext, hpending, hstate⟩ := hspecial
  have hget : (regs.set idx value).get idx =
      ((regs.gpr.setIfInBounds idx.toNat value.toUInt32)[idx.toNat]?.getD 0).toUInt64 := by
    rw [get, set]
    simp only [hpc, hnext, hpending, hstate, hicount, if_false]
  have hbits : Architecture.regBits core idx = if idx < Register.count then 32 else 0 := by
    change (if idx = Register.icount then (64 : UInt32) else _) = _
    rw [if_neg hicount]
  rw [hget, hbits]
  by_cases hidx : idx.toNat < 8
  · have hlt : idx < Register.count :=
      UInt32.lt_iff_toNat_lt.mpr (Nat.lt_trans hidx (by decide))
    rw [if_pos hlt, Vector.getElem?_setIfInBounds_self_of_lt hidx]
    exact hhalf value
  · -- Between the general registers and the number of registers lie the special ones.
    have hge : ¬idx < Register.count := by
      have hne {r : UInt32} (h : idx ≠ r) : idx.toNat ≠ r.toNat := mt UInt32.toNat_inj.mp h
      have h8 : idx.toNat ≠ 8 := hne hpc
      have h9 : idx.toNat ≠ 9 := hne hnext
      have h10 : idx.toNat ≠ 10 := hne hpending
      have h11 : idx.toNat ≠ 11 := hne hstate
      have h12 : idx.toNat ≠ 12 := hne hicount
      rw [UInt32.lt_iff_toNat_lt]
      change ¬idx.toNat < 13
      omega
    rw [if_neg hge, Vector.getElem?_setIfInBounds_self, if_neg hidx]
    exact (Nat.mod_one _).symm

theorem exec_writeReg_readReg (idx : UInt32) (x : Word w) (b : Width) (m : Machine Core δ) :
    ((do Body.writeReg idx x; Body.readReg idx b).exec m).1 =
      .ok (BitVec.ofNat b.bits (x.toNat % 2 ^ (Architecture.regBits m.core idx).toNat)) := by
  rw [Body.exec_bind_ok (Body.exec_writeReg idx x m), Body.exec_readReg]
  change Except.ok (Word.const b ((m.core.regs.set idx x.toUInt64).get idx)) = _
  rw [Word.const, Registers.toNat_get_set _ m.core, Word.toNat_toUInt64]

/-- What generated code puts away, it finds again. -/
theorem words_come_back (δ : Type) [Debugger δ] :
    (∀ (v w : Width) (space : UInt32) (addr : Word v) (x : Word w) (m : Machine Core δ),
      addr.toUInt64 ≠ haltAddr →
      Retrieved m addr x ((do Body.store space addr x; Body.load space addr w).exec m)) ∧
    (∀ (w b : Width) (idx : UInt32) (x : Word w) (m : Machine Core δ),
      ((do Body.writeReg idx x; Body.readReg idx b).exec m).1 =
        .ok (BitVec.ofNat b.bits (x.toNat % 2 ^ (Architecture.regBits m.core idx).toNat))) ∧
    (∀ (v w : Width) (x : Word v), v.bits ≤ w.bits →
      (∀ signed back, Word.resize back v (Word.resize signed w x) = x) ∧
        (Word.resize true w x).toInt = x.toInt ∧ (Word.resize false w x).toNat = x.toNat) ∧
    ∀ (b : Width) (value : UInt64), (Word.const b value).toNat = value.toNat % 2 ^ b.bits := by
  refine ⟨fun v w space addr x m hhalt => retrieved_of_exec hhalt space x m,
    fun w b idx x m => exec_writeReg_readReg idx x b m, fun v w x h => ⟨?_, ?_, ?_⟩,
    Word.toNat_const⟩
  · exact fun signed back => Word.resize_resize h signed back x
  · exact Word.toInt_resize_of_le h x
  · exact Word.toNat_resize_of_le h x

/-- A word at the end of memory, the same word one byte further on, and the extension of a negative
byte. -/
theorem words_come_back_border :
    let m : Machine Core (List Breakpoint) :=
      { core := Core.new 0x1000 8, journal := ⟨.everything, #[]⟩ }
    let x : Word .w32 := 0xfffffffe#32
    ((do Body.store 0 (w := .w32) (v := .w16) 0x1004#16 x
         Body.load 0 (v := .w16) 0x1004#16 .w32).exec m).1 = .ok x ∧
    ((do Body.store 0 (w := .w32) (v := .w16) 0x1005#16 x
         Body.load 0 (v := .w16) 0x1005#16 .w32).exec m).1 = .error .trap ∧
    (Word.resize (v := .w8) true .w64 0x80#8).toInt = -128 := by
  intro m x
  have hback := words_come_back (List Breakpoint)
  refine ⟨?_, ?_, ?_⟩
  · exact ((hback.1 .w16 .w32 0 0x1004#16 x m (by decide)).kept (by decide)).1
  · exact ((hback.1 .w16 .w32 0 0x1005#16 x m (by decide)).refused (by decide)).1
  · exact (hback.2.2.1 .w8 .w64 0x80#8 (by decide)).2.1.trans (by decide)

end GuestSim.Mini

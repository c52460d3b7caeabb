import GuestSim.Proofs.Access
import GuestSim.Proofs.Mini.Interpreter

/-! # The code of an instruction does what the instruction does

Generated code computes with words that cross the border to the core as 64 bits. What it leaves is
what the interpreter computes with registers. -/

namespace GuestSim

/-! ## Words -/

namespace Word

theorem const_w32 (x : UInt64) : const .w32 x = x.toUInt32.toBitVec := by
  apply BitVec.eq_of_toNat_eq
  rw [const, BitVec.toNat_ofNat]
  exact (UInt64.toNat_toUInt32 x).symm

theorem toUInt64_w32 (x : Word .w32) : toUInt64 x = (UInt32.ofBitVec x).toUInt64 := by
  apply UInt64.toNat_inj.mp
  rw [toNat_toUInt64, UInt32.toNat_toUInt64]
  rfl

theorem toUInt64_resize (x : Word .w32) : toUInt64 (resize false .w64 x) = toUInt64 x := by
  apply UInt64.toNat_inj.mp
  rw [toNat_toUInt64, toNat_toUInt64, toNat_resize_of_le (by decide)]

theorem toUInt64_resize_w32 (x : UInt32) :
    toUInt64 (resize (v := .w32) false .w32 x.toBitVec) = x.toUInt64 := by
  rw [resize, if_neg Bool.false_ne_true, BitVec.setWidth_eq, toUInt64_w32]

theorem toUInt64_resize_w8 (x : UInt32) :
    toUInt64 (resize (v := .w32) false .w8 x.toBitVec) = x.toUInt8.toUInt64 := by
  apply UInt64.toNat_inj.mp
  rw [toNat_toUInt64, toNat_resize, UInt8.toNat_toUInt64, UInt32.toNat_toUInt8]
  rfl

theorem resize_const {w : Width} {x : UInt64} (hx : x.toNat < 2 ^ w.bits) :
    resize false .w32 (const w x) = x.toUInt32.toBitVec := by
  apply BitVec.eq_of_toNat_eq
  rw [resize, if_neg Bool.false_ne_true, BitVec.toNat_setWidth, const, BitVec.toNat_ofNat,
    Nat.mod_eq_of_lt hx]
  exact (UInt64.toNat_toUInt32 x).symm

theorem isZero_w32 (x : Word .w32) : x.isZero = (UInt32.ofBitVec x == 0) := by
  rw [isZero, Bool.eq_iff_iff, beq_iff_eq, beq_iff_eq]
  exact ⟨fun h => by rw [h]; rfl, fun h => congrArg UInt32.toBitVec h⟩

end Word

namespace Mini

/-- Branch targets are computed modulo 2^64, and cut to the width of an address. -/
theorem Instr.const_branchTarget (i : Instr) (pc : UInt32) :
    Word.const .w32 (i.branchTarget pc.toUInt64) = (pc + 4 * i.imm32).toBitVec := by
  have himm : (UInt64.ofBitVec (i.immediate .w64)).toUInt32 = i.imm32 :=
    UInt32.toBitVec_inj.mp (setWidth_signExtend (k := 32) (l := 64) (by decide) i.imm.toBitVec)
  rw [Word.const_w32, branchTarget, UInt64.toUInt32_add, UInt32.toUInt32_toUInt64,
    UInt64.toUInt32_mul, himm]
  rfl

theorem const_add_four (pc : UInt32) : Word.const .w32 (pc.toUInt64 + 4) = (pc + 4).toBitVec := by
  rw [Word.const_w32, UInt64.toUInt32_add, UInt32.toUInt32_toUInt64]
  rfl

/-! ## Registers -/

theorem general_ne {r : UInt8} (h : r.toNat < 8) {idx : UInt32} (hidx : 8 ≤ idx.toNat) :
    r.toUInt32 ≠ idx := by
  rintro rfl
  rw [UInt8.toNat_toUInt32] at hidx
  omega

theorem Registers.get_general (regs : Registers) {r : UInt8} (h : r.toNat < 8) :
    regs.get r.toUInt32 = (regs.gpr[r.toNat]?.getD 0).toUInt64 := by
  rw [get, if_neg (general_ne h (by decide)), if_neg (general_ne h (by decide)),
    if_neg (general_ne h (by decide)), if_neg (general_ne h (by decide)),
    if_neg (general_ne h (by decide)), UInt8.toNat_toUInt32]

theorem Core.set_general (core : Core) {r : UInt8} (h : r.toNat < 8) (value : UInt64) :
    { core with regs := core.regs.set r.toUInt32 value } = core.setReg r value.toUInt32 := by
  rw [Registers.set, if_neg (general_ne h (by decide)), if_neg (general_ne h (by decide)),
    if_neg (general_ne h (by decide)), if_neg (general_ne h (by decide)),
    if_neg (general_ne h (by decide)), UInt8.toNat_toUInt32]
  rfl

/-! ## Code -/

variable {δ : Type} [Debugger δ]

/-- Code has come out as an instruction does: it leaves for the exception that was raised, if any,
and has parked it. -/
structure Agrees (out : Except Departure Unit × Machine Core δ)
    (result : Option Exception × Core) : Prop where
  departs : out.1 = if result.1.isSome then .error .trap else .ok ()
  core : out.2.core = result.2
  exception : out.2.context.exception = result.1

/-- What follows code that raises nothing runs on the core that the code leaves. -/
theorem Agrees.bind {body : Body Unit} {f : Unit → Body Unit} {m : Machine Core δ} {core : Core}
    {result : Option Exception × Core} (h : Agrees (body.exec m) (none, core))
    (hf : ∀ m' : Machine Core δ, m'.core = core → m'.context.exception = none →
      Agrees ((f ()).exec m') result) :
    Agrees ((body >>= f).exec m) result := by
  cases hexec : body.exec m with
  | mk ending m' =>
      rw [hexec] at h
      obtain ⟨rfl, hcore, hexception⟩ := h
      rw [Body.exec_bind_ok hexec]
      exact hf m' hcore hexception

theorem exec_readReg {r : UInt8} (h : r.toNat < 8) (m : Machine Core δ) :
    (Body.readReg r.toUInt32 .w32).exec m =
      (.ok (m.core.reg r).toBitVec, (m.readReg r.toUInt32).2) := by
  change (Except.ok (Word.const .w32 (m.core.regs.get r.toUInt32)), (m.readReg r.toUInt32).2) = _
  rw [Word.const_w32, Registers.get_general _ h, UInt32.toUInt32_toUInt64]
  rfl

theorem agrees_writeReg {r : UInt8} (h : r.toNat < 8) (value : Word .w32) {m : Machine Core δ}
    (hm : m.context.exception = none) :
    Agrees ((Body.writeReg r.toUInt32 value).exec m)
      (none, m.core.setReg r (UInt32.ofBitVec value)) where
  departs := rfl
  core := by
    change { m.core with regs := m.core.regs.set r.toUInt32 value.toUInt64 } = _
    rw [Core.set_general _ h, Word.toUInt64_w32, UInt32.toUInt32_toUInt64]
  exception := hm

theorem agrees_goto {value : Word .w32} {target : UInt32} (h : value = target.toBitVec)
    {m : Machine Core δ} (hm : m.context.exception = none) :
    Agrees ((Body.writeReg Register.nextPc value).exec m) (none, m.core.goto target) where
  departs := rfl
  core := by
    change m.core.goto value.toUInt64.toUInt32 = _
    rw [h, Word.toUInt64_w32, UInt32.toUInt32_toUInt64]
  exception := hm

theorem exec_address {i : Instr} (h : i.rs.toNat < 8) (m : Machine Core δ) :
    ∃ addr, i.address.exec m = (.ok addr, (m.readReg i.rs.toUInt32).2) ∧
      addr.toUInt64 = (m.core.reg i.rs + i.imm32).toUInt64 := by
  refine ⟨_, Body.exec_bind_ok (exec_readReg h m), ?_⟩
  rw [Word.toUInt64_resize, Word.toUInt64_w32]
  rfl

theorem agrees_sum {i : Instr} (h : i.rd.toNat < 8) (a b : UInt32) {m : Machine Core δ}
    (hm : m.context.exception = none) :
    Agrees ((i.sum a.toBitVec b.toBitVec).exec m) (none, m.core.addTo i.rd a b) := by
  have hflags : m.core.updateFlags addFlags (Word.toUInt64 (w := .w32) a.toBitVec)
      (Word.toUInt64 (w := .w32) b.toBitVec) = { m.core with zero := a + b == 0 } := by
    rw [Core.updateFlags, if_pos rfl, Word.toUInt64_w32, Word.toUInt64_w32,
      UInt32.toUInt32_toUInt64, UInt32.toUInt32_toUInt64]
  have hupdate : Agrees ((Body.updateFlags (v := .w32) (w := .w32) addFlags a.toBitVec
      b.toBitVec).exec m) (none, { m.core with zero := a + b == 0 }) := ⟨rfl, hflags, hm⟩
  refine hupdate.bind fun m' hcore hexception => ?_
  have hwrite := agrees_writeReg h (a + b).toBitVec hexception
  rw [hcore] at hwrite
  exact hwrite

/-! ### Memory -/

theorem readMem_eq {core : Core} {addr : VirtAddr} {len : Nat} {result : Except Exception UInt64}
    (h : core.readMem addr len = result) :
    Architecture.readMem core addr len = (result, core) :=
  congrArg (·, core) h

theorem readMem_lt {core : Core} {addr : VirtAddr} {w : Width} {value : UInt64}
    (h : core.readMem addr w.bytes = .ok value) : value.toNat < 2 ^ w.bits := by
  unfold Core.readMem at h
  split at h
  · simp at h
  · rename_i start _
    rw [← Except.ok.inj h, UInt64.toNat_ofNat', ← w.pow_bytes]
    exact Nat.lt_of_le_of_lt (Nat.mod_le _ _) (Bytes.load_lt core.ram start w.bytes)

theorem agrees_writeFlag (value : Bool) {m : Machine Core δ} (hm : m.context.exception = none) :
    Agrees ((Body.writeFlag zeroFlag (Word.ofBool value)).exec m)
      (none, { m.core with zero := value }) where
  departs := rfl
  core := by cases value <;> rfl
  exception := hm

theorem agrees_loadFrom {i : Instr} (hrd : i.rd.toNat < 8) (hrs : i.rs.toNat < 8) (w : Width)
    {m : Machine Core δ} (hm : m.context.exception = none) :
    Agrees ((i.loadFrom w).exec m) (m.core.loadTo i.rd (m.core.reg i.rs + i.imm32) w.bytes) := by
  obtain ⟨addr, haddress, haddr⟩ := exec_address hrs m
  rw [Instr.loadFrom, Body.exec_bind_ok haddress, Core.loadTo]
  cases hread : m.core.readMem ⟨.read, 0, (m.core.reg i.rs + i.imm32).toUInt64⟩ w.bytes with
  | error e =>
      obtain ⟨m', hload, hcore, hcontext⟩ := Body.exec_load_error (m := (m.readReg i.rs.toUInt32).2)
        0 (readMem_eq (haddr ▸ hread))
      rw [Body.exec_bind_error hload]
      exact ⟨rfl, hcore, by rw [hcontext]⟩
  | ok value =>
      obtain ⟨m', hload, hcore, hcontext⟩ := Body.exec_load_ok (m := (m.readReg i.rs.toUInt32).2)
        0 (readMem_eq (haddr ▸ hread))
      have hexception : m'.context.exception = none := by
        rw [hcontext]
        exact hm
      rw [Body.exec_bind_ok hload, Word.resize_const (readMem_lt hread)]
      refine (agrees_writeReg hrd value.toUInt32.toBitVec hexception).bind ?_
      intro m₁ hcore₁ hexception₁
      have hflag := agrees_writeFlag (value.toUInt32 == 0) hexception₁
      rw [hcore₁, hcore] at hflag
      rw [Word.isZero_w32]
      exact hflag

theorem agrees_store {v w : Width} {addr : Word v} {dest : UInt32}
    (haddr : addr.toUInt64 = dest.toUInt64) (value : Word w) {m : Machine Core δ}
    (hm : m.context.exception = none) :
    Agrees ((Body.store 0 addr value).exec m) (m.core.storeAt dest w.bytes value.toUInt64) := by
  rw [Core.storeAt, ← haddr]
  cases hwrite : m.core.writeMem ⟨.write, 0, addr.toUInt64⟩ w.bytes value.toUInt64 with
  | mk result core =>
      cases result with
      | error e =>
          obtain ⟨m', hstore, hcore, hcontext⟩ := Body.exec_store_error (m := m) 0 hwrite
          rw [hstore]
          exact ⟨rfl, hcore, by rw [hcontext]⟩
      | ok _ =>
          obtain ⟨m', hstore, hcore, hcontext⟩ := Body.exec_store_ok (m := m) 0 hwrite
          rw [hstore]
          exact ⟨rfl, hcore, by rw [hcontext, hm]⟩

theorem agrees_storeTo {i : Instr} (hrd : i.rd.toNat < 8) (hrs : i.rs.toNat < 8) (w : Width)
    {m : Machine Core δ} (hm : m.context.exception = none) :
    Agrees ((i.storeTo w).exec m) (m.core.storeAt (m.core.reg i.rs + i.imm32) w.bytes
      (Word.toUInt64 (Word.resize (v := .w32) false w (m.core.reg i.rd).toBitVec))) := by
  obtain ⟨addr, haddress, haddr⟩ := exec_address hrs m
  rw [Instr.storeTo, Body.exec_bind_ok haddress, Body.exec_bind_ok (exec_readReg hrd _)]
  exact agrees_store haddr _ hm

/-! ### Instructions -/

theorem agrees_effect {i : Instr} (hrd : i.rd.toNat < 8) (hrs : i.rs.toNat < 8) (pc : UInt32)
    {m : Machine Core δ} (hm : m.context.exception = none)
    (hnext : m.core.regs.nextPc = pc + 4) :
    Agrees ((i.effect pc.toUInt64).exec m) (i.execute pc m.core) := by
  unfold Instr.effect Instr.execute
  cases hop : i.op with
  | nop => exact ⟨rfl, rfl, hm⟩
  | flush => exact ⟨rfl, rfl, hm⟩
  | evict => exact ⟨rfl, rfl, hm⟩
  | li => exact agrees_writeReg hrd _ hm
  | addi =>
      simp only
      rw [Body.exec_bind_ok (exec_readReg hrs m)]
      exact agrees_sum hrd _ _ hm
  | add =>
      simp only
      rw [Body.exec_bind_ok (exec_readReg hrd m), Body.exec_bind_ok (exec_readReg hrs _)]
      exact agrees_sum hrd _ _ hm
  | ld => exact agrees_loadFrom hrd hrs .w32 hm
  | ldb => exact agrees_loadFrom hrd hrs .w8 hm
  | st =>
      have hstore := agrees_storeTo hrd hrs .w32 hm
      rwa [Word.toUInt64_resize_w32] at hstore
  | stb =>
      have hstore := agrees_storeTo hrd hrs .w8 hm
      rwa [Word.toUInt64_resize_w8] at hstore
  | beqz =>
      simp only
      rw [Body.exec_bind_ok (exec_readReg hrd m), Word.isZero_w32]
      have hm' : (m.readReg i.rd.toUInt32).2.context.exception = none := hm
      by_cases hzero : m.core.reg i.rd = 0
      · rw [if_pos hzero, hzero]
        exact agrees_goto (i.const_branchTarget pc) hm'
      · rw [if_neg hzero, beq_eq_false_iff_ne.mpr hzero]
        have hgoto := agrees_goto (const_add_four pc) hm'
        rw [← hnext] at hgoto
        exact hgoto
  | bz =>
      have hflag : (Body.readFlag zeroFlag).exec m =
          (.ok (Word.ofBool m.core.zero), (m.readFlag zeroFlag).2) := by
        change (Except.ok (Word.ofBool ((if m.core.zero then (1 : UInt64) else 0) ≠ 0)), _) = _
        cases m.core.zero <;> rfl
      simp only
      rw [Body.exec_bind_ok hflag]
      cases hzero : m.core.zero with
      | true => exact agrees_goto (i.const_branchTarget pc) hm
      | false => exact ⟨rfl, rfl, hm⟩
  | jmp => exact agrees_goto (i.const_branchTarget pc) hm
  | halt =>
      simp only
      rw [Body.exec_bind_ok (exec_readReg hrd m)]
      have haddr : (Word.const .w64 haltAddr).toUInt64 = (0xffff0000 : UInt32).toUInt64 := by
        decide
      have hm' : (m.readReg i.rd.toUInt32).2.context.exception = none := hm
      have hstore := agrees_store (w := .w32) haddr (m.core.reg i.rd).toBitVec hm'
      rw [Word.toUInt64_w32] at hstore
      have hhalt (core : Core) (status : UInt32) :
          core.storeAt 0xffff0000 4 status.toUInt64 = (some (.stopped status.toInt32), core) := by
        rw [Core.storeAt, Core.writeMem, if_pos (by decide), UInt32.toUInt32_toUInt64]
      rw [show Width.w32.bytes = 4 from rfl, hhalt] at hstore
      exact hstore

/-- The code of an instruction does what the instruction does. -/
theorem agrees_body {i : Instr} (hrd : i.rd.toNat < 8) (hrs : i.rs.toNat < 8) (pc : UInt32)
    {m : Machine Core δ} (hm : m.context.exception = none) :
    Agrees ((i.body pc.toUInt64).exec m) (i.execute pc (m.core.goto (pc + 4))) := by
  refine (agrees_goto (const_add_four pc) hm).bind fun m' hcore hexception => ?_
  have heffect := agrees_effect hrd hrs pc hexception (by rw [hcore]; rfl)
  rwa [hcore] at heffect

/-! ## Boundaries -/

def Core.withPhases (core : Core) (counts : Nat × Nat) : Core :=
  { core with phaseCounts := counts }

theorem Core.loadTo_withPhases (core : Core) (counts : Nat × Nat) (r : UInt8) (addr : UInt32)
    (len : Nat) :
    (core.withPhases counts).loadTo r addr len =
      ((core.loadTo r addr len).1, (core.loadTo r addr len).2.withPhases counts) := by
  have hread : (core.withPhases counts).readMem ⟨.read, 0, addr.toUInt64⟩ len =
    core.readMem ⟨.read, 0, addr.toUInt64⟩ len := rfl
  rw [loadTo, loadTo, hread]
  cases core.readMem ⟨.read, 0, addr.toUInt64⟩ len <;> rfl

theorem Core.storeAt_withPhases (core : Core) (counts : Nat × Nat) (addr : UInt32) (len : Nat)
    (value : UInt64) :
    (core.withPhases counts).storeAt addr len value =
      ((core.storeAt addr len value).1, (core.storeAt addr len value).2.withPhases counts) := by
  have hoffset : (core.withPhases counts).ramOffset? addr.toUInt64 len =
    core.ramOffset? addr.toUInt64 len := rfl
  simp only [storeAt, writeMem, hoffset]
  by_cases hhalt : addr.toUInt64 = haltAddr
  · simp only [if_pos hhalt]
  · simp only [if_neg hhalt]
    cases core.ramOffset? addr.toUInt64 len <;> rfl

theorem Instr.execute_withPhases (i : Instr) (pc : UInt32) (core : Core) (counts : Nat × Nat) :
    i.execute pc (core.withPhases counts) =
      ((i.execute pc core).1, (i.execute pc core).2.withPhases counts) := by
  unfold execute
  cases i.op with
  | ld => exact core.loadTo_withPhases _ _ _ _
  | ldb => exact core.loadTo_withPhases _ _ _ _
  | st => exact core.storeAt_withPhases _ _ _ _
  | stb => exact core.storeAt_withPhases _ _ _ _
  | beqz =>
      change (none, if core.reg i.rd = 0 then _ else _) = (none, _)
      by_cases hzero : core.reg i.rd = 0
      · simp only [if_pos hzero]
        rfl
      · simp only [if_neg hzero]
  | bz =>
      change (none, if core.zero then _ else _) = (none, _)
      cases hzero : core.zero <;> rfl
  | _ => rfl

/-- The core once an instruction is counted and has become the current one. -/
def Core.counted (core : Core) : Core :=
  { core with
    regs.icount := core.regs.icount + 1
    regs.pc := core.regs.nextPc
    regs.trapState := core.regs.pendingTrap }

def Core.told (settings : Settings) (phase : SyncMask) (core : Core) : Core :=
  if settings.syncExec.intersects phase then core.notify (.ofMask phase) else core

/-- The instruction at `pc` between the reports of its start and of its end. -/
def Instr.reported (i : Instr) (settings : Settings) (pc : UInt32) (core : Core) :
    Option Exception × Core :=
  match i.execute pc ((core.told settings .pre).goto (pc + 4)) with
  | (some e, core) => (some e, core)
  | (none, core) => (none, core.told settings .post)

/-- The next instruction, past the check of the budget: the exception that stops it, if any, and
what becomes of the core and of the debugger. -/
def Instr.perform (i : Instr) (settings : Settings) (core : Core) (debugger : Option δ) :
    Option Exception × Core × Option δ :=
  match settings.consult core.regs.nextPc.toUInt64 debugger with
  | (some e, debugger) => (some e, core.counted, debugger)
  | (none, debugger) =>
    let (raised, core) := i.reported settings core.regs.nextPc core.counted
    (raised, core, debugger)

theorem storeSlot_succ (core : Core) :
    Architecture.storeSlot core layout.icount (Architecture.loadSlot core layout.icount + 1) =
      { core with regs := { core.regs with icount := core.regs.icount + 1 } } := by
  rw [storeSlot_eq core layout.icount_mem, Word.toUInt64_succ (w := layout.icount.width) rfl,
    loadSlot_eq core layout.icount_mem]
  rfl

theorem started_eq {settings : Settings} (hlayout : settings.layout = layout) (core : Core) :
    settings.started core = core.counted := by
  rw [Settings.started, hlayout, storeSlot_succ]
  rw [storeSlot_eq _ layout.pc_mem, loadSlot_eq _ layout.nextPc_mem,
    storeSlot_eq _ layout.trapState_mem, loadSlot_eq _ layout.pendingTrap_mem]
  change { core with
    regs := { core.regs with
      icount := core.regs.icount + 1
      pc := core.regs.nextPc.toUInt64.toUInt32
      trapState := core.regs.pendingTrap.toUInt64.toUInt32 } } = _
  rw [UInt32.toUInt32_toUInt64, UInt32.toUInt32_toUInt64]
  rfl

theorem startAddress_eq {settings : Settings} (hlayout : settings.layout = layout) (core : Core) :
    settings.startAddress core = core.regs.nextPc.toUInt64 := by
  rw [Settings.startAddress, hlayout, storeSlot_succ]
  exact (Word.toUInt64_resize_w64 _).trans (loadSlot_eq _ layout.nextPc_mem)

/-- The code of an instruction depends on its address modulo 2^32. -/
theorem Instr.body_toUInt32 (i : Instr) (addr : UInt64) :
    i.body addr = i.body addr.toUInt32.toUInt64 := by
  have hnext : Word.const .w32 (addr + 4) = Word.const .w32 (addr.toUInt32.toUInt64 + 4) := by
    rw [Word.const_w32, Word.const_w32, UInt64.toUInt32_add, UInt64.toUInt32_add,
      UInt32.toUInt32_toUInt64]
  have htarget : Word.const .w32 (i.branchTarget addr) =
      Word.const .w32 (i.branchTarget addr.toUInt32.toUInt64) := by
    rw [Word.const_w32, Word.const_w32, branchTarget, branchTarget, UInt64.toUInt32_add,
      UInt64.toUInt32_add, UInt32.toUInt32_toUInt64]
  rw [body, body, effect, effect, hnext, htarget]

theorem reported_debugger (settings : Settings) (ordinal : UInt32) {i : Instr}
    (hrd : i.rd.toNat < 8) (pc : UInt64) (m : Machine Core δ) :
    ((do
        settings.report .pre ordinal
        i.body pc
        settings.after ordinal : Body Unit).exec m).2.context.debugger = m.context.debugger := by
  have hbody : (i.body pc).Uses fun op => ∀ addr, op ≠ .checkpoint addr :=
    Code.Uses.mono (by rintro op hop addr rfl; exact hop) (i.body_ordinary hrd pc).uses
  have huses : (do
      settings.report .pre ordinal
      i.body pc
      settings.after ordinal : Body Unit).Uses fun op => ∀ addr, op ≠ .checkpoint addr :=
    (settings.report_uses (by simp) (by simp)).bind fun _ => hbody.bind fun _ =>
      settings.report_uses (by simp) (by simp)
  exact huses.keeps (I := fun p => p.context.debugger = m.context.debugger)
    (fun op p hop hp => ((p.perform_context op).2.2 hop).trans hp) rfl _ (Body.end_mem_points _ m)

/-- Between its reports, the code of an instruction does what the instruction does. -/
theorem agrees_reported (settings : Settings) (ordinal : UInt32) {i : Instr}
    (hrd : i.rd.toNat < 8) (hrs : i.rs.toNat < 8) (pc : UInt32) {m : Machine Core δ}
    (hm : m.context.exception = none) :
    Agrees ((do
        settings.report .pre ordinal
        i.body pc.toUInt64
        settings.after ordinal : Body Unit).exec m) (i.reported settings pc m.core) := by
  obtain ⟨m₁, hreport, hcore₁, hcontext₁⟩ := settings.report_exec .pre ordinal m
  change m₁.core = m.core.told settings .pre at hcore₁
  have hbody := agrees_body hrd hrs pc (m := m₁) (by rw [hcontext₁, hm])
  rw [hcore₁] at hbody
  rw [Body.exec_bind_ok hreport, Instr.reported]
  cases hexecute : i.execute pc ((m.core.told settings .pre).goto (pc + 4)) with
  | mk raised core =>
      rw [hexecute] at hbody
      cases hexec : (i.body pc.toUInt64).exec m₁ with
      | mk ending m₂ =>
          rw [hexec] at hbody
          obtain ⟨rfl, hcore₂, hexception₂⟩ := hbody
          cases raised with
          | some e =>
              rw [Body.exec_bind_error hexec]
              exact ⟨rfl, hcore₂, hexception₂⟩
          | none =>
              obtain ⟨m₃, hafter, hcore₃, hcontext₃⟩ := settings.report_exec .post ordinal m₂
              rw [Body.exec_bind_ok hexec, Settings.after, hafter]
              refine ⟨rfl, ?_, ?_⟩
              · rw [hcore₃, hcore₂]
                rfl
              · rw [hcontext₃, hexception₂]

/-- Code has come out as an instruction does, with the debugger as it is after the instruction. -/
structure Yields (out : Except Departure Unit × Machine Core δ)
    (result : Option Exception × Core × Option δ) : Prop
    extends Agrees out (result.1, result.2.1) where
  debugger : out.2.context.debugger = result.2.2

/-- The code of the next instruction, with its boundaries, does what the instruction does. -/
theorem yields_instruction {settings : Settings} (hlayout : settings.layout = layout)
    (ordinal : Nat) {i : Instr} (hrd : i.rd.toNat < 8) (hrs : i.rs.toNat < 8) {addr : UInt64}
    {m : Machine Core δ} (hpc : m.core.regs.nextPc = addr.toUInt32)
    (hm : m.context.exception = none) :
    Yields ((settings.instruction ordinal ⟨addr, i.outcome, true, i.body addr⟩).exec m)
      (i.perform settings m.core m.context.debugger) := by
  obtain ⟨m₁, hcheck, hcore₁, hexception₁, hdebugger₁⟩ := settings.debugCheck_consult
    m.core.regs.nextPc.toUInt64 { m with core := m.core.counted }
  rw [Settings.instruction, Body.exec_bind_ok (settings.advance_exec m), startAddress_eq hlayout,
    started_eq hlayout, i.body_toUInt32, ← hpc, Instr.perform]
  cases hconsult : settings.consult m.core.regs.nextPc.toUInt64 m.context.debugger with
  | mk answer debugger =>
      rw [hconsult] at hcheck hexception₁ hdebugger₁
      cases answer with
      | some e =>
          rw [Body.exec_bind_error hcheck]
          exact ⟨⟨rfl, hcore₁, hexception₁⟩, hdebugger₁⟩
      | none =>
          have hreported := agrees_reported settings (UInt32.ofNat ordinal) hrd hrs
            m.core.regs.nextPc (hexception₁.trans hm)
          rw [hcore₁] at hreported
          rw [Body.exec_bind_ok hcheck]
          exact ⟨hreported, (reported_debugger settings _ hrd _ m₁).trans hdebugger₁⟩

/-! ### Phases -/

theorem Core.exists_told_eq (settings : Settings) (phase : SyncMask) (core : Core) :
    ∃ counts, core.told settings phase = core.withPhases counts := by
  rw [told]
  split
  · cases Phase.ofMask phase <;> exact ⟨_, rfl⟩
  · exact ⟨core.phaseCounts, rfl⟩

/-- An instruction between its boundaries does what the interpreter does, unless the debugger
refuses it. -/
theorem agrees_instruction {settings : Settings} (hlayout : settings.layout = layout)
    (ordinal : Nat) {i : Instr} (hrd : i.rd.toNat < 8) (hrs : i.rs.toNat < 8) {core : Core}
    {pc : UInt32} {counts : Nat × Nat} {m : Machine Core δ}
    (hcore : m.core = (core.goto pc).withPhases counts) (hm : m.context.exception = none)
    (hrefusal : (Start.mk settings ordinal m).refusal = none) :
    ∃ counts', Agrees
      ((settings.instruction ordinal ⟨pc.toUInt64, i.outcome, true, i.body pc.toUInt64⟩).exec m)
      ((i.execute pc (core.begun pc)).1,
        (i.execute pc (core.begun pc)).2.withPhases counts') := by
  have hpc : m.core.regs.nextPc = pc := by rw [hcore]; rfl
  have hyields := (yields_instruction hlayout ordinal hrd hrs
    (hpc.trans (UInt32.toUInt32_toUInt64 pc).symm) hm).toAgrees
  rw [Start.refusal_eq] at hrefusal
  change (settings.consult (settings.startAddress m.core) m.context.debugger).1 = none at hrefusal
  rw [startAddress_eq hlayout, hpc] at hrefusal
  obtain ⟨counts₁, hcounts₁⟩ := Core.exists_told_eq settings .pre m.core.counted
  have hbegun : (m.core.counted.told settings .pre).goto (pc + 4) =
      (core.begun pc).withPhases counts₁ := by
    rw [hcounts₁, hcore]
    rfl
  have hexecute := i.execute_withPhases pc (core.begun pc) counts₁
  rw [Instr.perform, hpc] at hyields
  cases hconsult : settings.consult pc.toUInt64 m.context.debugger with
  | mk answer debugger =>
      rw [hconsult] at hyields hrefusal
      cases hrefusal
      simp only [Instr.reported, hbegun, hexecute] at hyields
      cases hraised : (i.execute pc (core.begun pc)).1 with
      | some e =>
          simp only [hraised] at hyields
          exact ⟨counts₁, hyields⟩
      | none =>
          simp only [hraised] at hyields
          obtain ⟨counts₂, hcounts₂⟩ := Core.exists_told_eq settings .post
            ((i.execute pc (core.begun pc)).2.withPhases counts₁)
          rw [hcounts₂] at hyields
          exact ⟨counts₂, hyields⟩

end Mini

end GuestSim

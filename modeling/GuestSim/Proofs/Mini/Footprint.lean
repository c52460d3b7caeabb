import GuestSim.Mini.Codegen
import GuestSim.Proofs.Bytes
import GuestSim.Proofs.Counting
import GuestSim.Proofs.Mini.Encoding
import GuestSim.Proofs.Mini.Registers

/-! # What the instructions of the small architecture touch

The code of an instruction writes general registers, the address of the next instruction, the zero
flag and memory. It neither counts nor moves the memory. -/

namespace GuestSim.Mini

/-! ## Fetching -/

theorem Core.fetch_eq_ok {core : Core} {addr : VirtAddr} {i : Instr}
    (h : core.fetch addr = .ok i) :
    ∃ word, core.readMem ⟨.fetch, addr.space, addr.val⟩ 4 = .ok word ∧
      Instr.decode? word.toUInt32 = some i := by
  unfold fetch at h
  cases hread : core.readMem ⟨.fetch, addr.space, addr.val⟩ 4 with
  | error e => simp [hread, bind, Except.bind] at h
  | ok word =>
      simp only [hread, bind, Except.bind] at h
      split at h
      · rename_i j hdecode
        cases h
        exact ⟨word, rfl, hdecode⟩
      · simp at h

/-! ## Operations -/

def Writable (idx : UInt32) : Prop := idx.toNat < 8 ∨ idx = Register.nextPc

namespace Instr

variable {i : Instr}

theorem address_ordinary : i.address.Ordinary Writable :=
  (Body.ordinary_readReg _ _).bind fun _ => Body.ordinary_pure _

/-- The code of an instruction asks for nothing but ordinary operations. -/
theorem body_ordinary (hrd : i.rd.toNat < 8) (pc : UInt64) : (i.body pc).Ordinary Writable := by
  have hnext {w : Width} (value : Word w) :
      (Body.writeReg Register.nextPc value).Ordinary Writable :=
    Body.ordinary_writeReg (.inr rfl) value
  have hwrite {w : Width} (value : Word w) :
      (Body.writeReg i.rd.toUInt32 value).Ordinary Writable := by
    refine Body.ordinary_writeReg (.inl ?_) value
    rwa [UInt8.toNat_toUInt32]
  have hsum (a b : Word .w32) : (i.sum a b).Ordinary Writable :=
    Body.Ordinary.bind (Body.ordinary_tell trivial id) fun _ => hwrite _
  have hload (w : Width) : (i.loadFrom w).Ordinary Writable :=
    address_ordinary.bind fun addr => (Body.ordinary_load _ addr w).bind fun value =>
      (hwrite _).bind fun _ => Body.ordinary_tell trivial id
  have hwriteMem {v w : Width} (space : UInt32) (addr : Word v) (value : Word w) :
      (Body.store space addr value).Ordinary Writable := Body.ordinary_attempt trivial
  have hstore (w : Width) : (i.storeTo w).Ordinary Writable :=
    address_ordinary.bind fun addr => (Body.ordinary_readReg _ _).bind fun value =>
      hwriteMem _ _ _
  refine (hnext _).bind fun _ => ?_
  unfold effect
  simp only
  split
  · exact Body.ordinary_pure _
  · exact Body.ordinary_pure _
  · exact Body.ordinary_pure _
  · exact hwrite _
  · exact (Body.ordinary_readReg _ _).bind fun a => hsum _ _
  · exact (Body.ordinary_readReg _ _).bind fun a =>
      (Body.ordinary_readReg _ _).bind fun b => hsum _ _
  · exact hload _
  · exact hload _
  · exact hstore _
  · exact hstore _
  · exact (Body.ordinary_readReg _ _).bind fun value => hnext _
  · refine (Body.ordinary_readFlag _).bind fun taken => ?_
    split
    · exact Body.ordinary_pure _
    · exact hnext _
  · exact hnext _
  · exact (Body.ordinary_readReg _ _).bind fun status => hwriteMem _ _ _

end Instr

/-! ## Registers -/

theorem Core.writeMem_regs (core : Core) (addr : VirtAddr) (len : Nat) (value : UInt64) :
    (core.writeMem addr len value).2.regs = core.regs := by
  unfold writeMem
  split
  · rfl
  · split <;> rfl

/-- Ordinary operations write no other registers than the general ones and the address of the next
instruction. -/
theorem regs_onCore {op : Op} (h : op.Ordinary Writable) (core : Core) :
    ∃ gpr nextPc, (op.onCore core).regs = { core.regs with gpr, nextPc } := by
  cases op with
  | writeReg idx value =>
      rcases h with h | rfl
      · have hne {special : UInt32} (hspecial : 8 ≤ special.toNat) : idx ≠ special := by
          rintro rfl
          omega
        refine ⟨core.regs.gpr.setIfInBounds idx.toNat value.toUInt32, core.regs.nextPc, ?_⟩
        change core.regs.set idx value = _
        rw [Registers.set, if_neg (hne (by decide)), if_neg (hne (by decide)),
          if_neg (hne (by decide)), if_neg (hne (by decide)), if_neg (hne (by decide))]
      · exact ⟨_, _, rfl⟩
  | writeFlag flag value =>
      refine ⟨core.regs.gpr, core.regs.nextPc, ?_⟩
      change (if flag = zeroFlag then _ else core).regs = _
      split <;> rfl
  | updateFlags op a b =>
      refine ⟨core.regs.gpr, core.regs.nextPc, ?_⟩
      change (core.updateFlags op a b).regs = _
      unfold Core.updateFlags
      split <;> rfl
  | writeMem space addr len value =>
      exact ⟨_, _, core.writeMem_regs ⟨.write, space, addr⟩ len value⟩
  | _ => first | exact ⟨core.regs.gpr, core.regs.nextPc, rfl⟩ | exact h.elim

theorem Core.notify_regs (core : Core) (phase : Phase) : (core.notify phase).regs = core.regs := by
  cases phase <;> rfl

theorem generate_state (pc : VirtAddr) (ordinal : UInt32) (s : Codegen × Core) :
    (Emitter.generate pc ordinal s).2 = s := by
  simp only [Emitter.generate]
  split <;> rfl

/-- What is generated at an address is the code of the instruction there. -/
theorem generate_eq_ok {pc : VirtAddr} {ordinal : UInt32} {s s' : Codegen × Core} {step : Step}
    (h : Emitter.generate pc ordinal s = (.ok step, s')) :
    ∃ i, s.2.fetch pc = .ok i ∧ step = ⟨i.outcome, true, i.body pc.val, pc.offset 4⟩ := by
  simp only [Emitter.generate] at h
  split at h
  · simp at h
  · rename_i i hfetch
    simp only [Prod.mk.injEq, Except.ok.injEq] at h
    exact ⟨i, hfetch, h.1.symm⟩

theorem ordinary_of_generated {fragment : Fragment} (h : fragment.Generated Codegen) :
    fragment.body.Ordinary Writable := by
  obtain ⟨pc, ordinal, s, s', step, hgenerate, rfl⟩ := h
  obtain ⟨i, hfetch, rfl⟩ := generate_eq_ok hgenerate
  obtain ⟨word, -, hdecode⟩ := Core.fetch_eq_ok hfetch
  exact i.body_ordinary (Instr.registers_of_decode? hdecode).1 pc.val

/-- A unit is left for the address of the next instruction, or by an exception for that of the
current one. -/
theorem exits_of_made {draft : Draft} {settings : Settings} (h : draft.Made Codegen settings) :
    draft.leave = .register settings.layout.nextPc.index ∧
      draft.trap = .register Register.pc := by
  obtain ⟨_, hleave⟩ := h.leave_eq
  obtain ⟨_, htrap⟩ := h.trap_eq
  exact ⟨hleave, htrap⟩

theorem body_keeps {δ γ : Type} [Debugger δ] (view : Registers → γ)
    (hview : ∀ (regs : Registers) gpr nextPc, view { regs with gpr, nextPc } = view regs)
    {fragment : Fragment} (h : fragment.Generated Codegen) :
    fragment.body.Keeps δ fun core : Core => view core.regs := by
  refine Body.Uses.keepsView (Code.Uses.mono (fun op hop core => ?_) (ordinary_of_generated h).uses)
  obtain ⟨gpr, nextPc, hregs⟩ := regs_onCore hop core
  change view (op.onCore core).regs = view core.regs
  rw [hregs, hview]

/-- Nothing but the code before an instruction counts. -/
theorem counting (δ : Type) [Debugger δ] : Counting Core Codegen δ layout where
  wide := rfl
  reads core := (loadSlot_eq core layout.icount_mem).symm
  counter core n := by
    rw [storeSlot_eq core layout.icount_mem]
    rfl
  pc core _ v := by
    rw [storeSlot_eq core layout.pc_mem]
    rfl
  trapState core _ v := by
    rw [storeSlot_eq core layout.trapState_mem]
    rfl
  writePc _ _ := rfl
  writeNextPc _ _ := rfl
  notify core phase := congrArg Registers.icount (core.notify_regs phase)
  resolve _ _ := rfl
  enterTrap _ _ _ := rfl
  generate pc ordinal emitter core := by rw [generate_state]
  body h := body_keeps Registers.icount (fun _ _ _ => rfl) h
  leave _ m := fun p hp => congrArg (·.regs.icount) (ExitCode.core_of_mem_register_points hp)
  trap _ m := fun p hp => congrArg (·.regs.icount) (ExitCode.core_of_mem_register_points hp)

/-! ## Where memory lies -/

def Core.frame (core : Core) : UInt64 × Nat × UInt64 :=
  (core.ramBase, core.ram.size, core.trapVector)

theorem Core.writeMem_frame (core : Core) (addr : VirtAddr) (len : Nat) (value : UInt64) :
    (core.writeMem addr len value).2.frame = core.frame := by
  unfold writeMem
  split
  · rfl
  · split
    · rfl
    · simp [frame, Bytes.size_store]

theorem onCore_frame (core : Core) (op : Op) : (op.onCore core).frame = core.frame := by
  cases op with
  | writeFlag flag value =>
      change (if flag = zeroFlag then _ else core).frame = _
      split <;> rfl
  | updateFlags op a b =>
      change (core.updateFlags op a b).frame = _
      unfold Core.updateFlags
      split <;> rfl
  | writeMem space addr len value => exact core.writeMem_frame _ _ _
  | notify phase => cases phase <;> rfl
  | _ => rfl

theorem turn_frame {δ : Type} [Debugger δ] (limit pc : UInt64) (sim : Simulator Core Codegen δ) :
    (sim.turn limit pc).2.machine.core.frame = sim.machine.core.frame :=
  Simulator.turn_keeps (I := fun m => Core.frame m.core = sim.machine.core.frame)
    (fun _ _ hm => hm)
    (fun pc ordinal s hs => by
      change Core.frame (Emitter.generate pc (UInt32.ofNat ordinal) (s.1, s.2.core)).2.2 = _
      rw [generate_state]
      exact hs)
    (fun _ _ _ hm => hm) (fun m op hm => by rw [m.perform_core, onCore_frame, hm])
    (fun _ hm => hm) (fun _ _ _ hm => hm) limit pc rfl

/-! ## Setting up -/

/-- A core about to execute a program, which lies at the start of its memory. -/
def Core.loaded (base : UInt64) (program : List Instr) : Core where
  regs := { pc := base.toUInt32, nextPc := base.toUInt32 }
  ram := (assemble (program.map Instr.encode)).toArray
  ramBase := base
  trapVector := base

def simulate (config : Config) (core : Core) :
    Except SimError (Simulator Core Codegen (List Breakpoint)) :=
  Simulator.new { core, journal := ⟨.nothing, #[]⟩ } {} config

end GuestSim.Mini

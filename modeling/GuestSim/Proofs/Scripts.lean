import GuestSim.Proofs.Placing
import GuestSim.Scripted.Script

/-! # What scripts touch

A script can make every call that there is for the code of an instruction. None of them reaches an
observer, and the only registers that change are those that the script names. -/

namespace GuestSim.Scripted

/-! ## Generating code -/

section Gives

variable {α β : Type}

/-- What is generated, if anything is, satisfies `P`. -/
def Gives (P : α → Prop) (step : Except EmitError α) : Prop := ∀ a, step = .ok a → P a

theorem gives_pure {P : α → Prop} {a : α} (h : P a) : Gives P (pure a) := by
  rintro b ⟨⟩
  exact h

theorem gives_error {P : α → Prop} (e : EmitError) : Gives P (.error e) := nofun

theorem Gives.bind {P : α → Prop} {Q : β → Prop} {step : Except EmitError α}
    {f : α → Except EmitError β} (h : Gives P step) (hf : ∀ a, P a → Gives Q (f a)) :
    Gives Q (step >>= f) := by
  intro b hb
  cases hstep : step with
  | error e =>
      rw [hstep] at hb
      cases hb
  | ok a =>
      rw [hstep] at hb
      exact hf a (h a hstep) b hb

theorem gives_then {Q : β → Prop} {step : Except EmitError α} {f : α → Except EmitError β}
    (hf : ∀ a, Gives Q (f a)) : Gives Q (step >>= f) :=
  Gives.bind (P := fun _ => True) (fun _ _ => trivial) fun a _ => hf a

end Gives

/-! ## Scripts -/

def Call.written : Call → List UInt32
  | .writeReg reg _ => [reg]
  | _ => []

def Script.written : Script → List UInt32
  | .done | .ends _ => []
  | .call c rest => c.written ++ rest.written
  | .branch _ thens elses rest => thens.written ++ elses.written ++ rest.written

/-- The registers that the code of a program writes, among them the address of the next
instruction. -/
def Program.written (program : Program) (design : Design) : List UInt32 :=
  design.layout.nextPc.index :: program.instrs.flatMap (·.script.written)

section Lower

variable {writes : UInt32 → Prop}

/-- Every call asks for ordinary operations only. -/
theorem Call.lower_ordinary (ordinal : UInt32) (widths : List Width) (call : Call)
    (h : ∀ reg ∈ call.written, writes reg) :
    Gives (fun lowered => ∀ values, (lowered.2 values).Ordinary writes)
      (call.lower ordinal widths) := by
  cases call with
  | const bits value => exact gives_then fun w => gives_pure fun _ => Body.ordinary_pure _
  | readReg reg bits =>
      exact gives_then fun w => gives_pure fun _ =>
        (Body.ordinary_readReg reg w).bind fun _ => Body.ordinary_pure _
  | writeReg reg v =>
      exact gives_then fun w => gives_pure fun _ =>
        (Body.ordinary_writeReg (h reg (List.mem_singleton_self reg)) _).bind fun _ =>
          Body.ordinary_pure _
  | resize v bits signed =>
      exact gives_then fun source => gives_then fun w => gives_pure fun _ => Body.ordinary_pure _
  | readFlag flag =>
      exact gives_pure fun _ => (Body.ordinary_readFlag flag).bind fun _ => Body.ordinary_pure _
  | writeFlag flag v =>
      refine gives_then fun w => gives_pure fun _ => ?_
      exact Body.Ordinary.bind (Body.ordinary_tell trivial id) fun _ => Body.ordinary_pure _
  | updateFlags op a b =>
      refine gives_then fun v => gives_then fun w => gives_pure fun _ => ?_
      exact Body.Ordinary.bind (Body.ordinary_tell trivial id) fun _ => Body.ordinary_pure _
  | select condition a b =>
      exact gives_then fun v => gives_then fun w => gives_then fun _ => gives_pure fun _ =>
        Body.ordinary_pure _
  | load space addr bytes =>
      exact gives_then fun v => gives_then fun w => gives_pure fun _ =>
        (Body.ordinary_load space _ w).bind fun _ => Body.ordinary_pure _
  | store space addr v =>
      refine gives_then fun wAddr => gives_then fun w => gives_pure fun _ => ?_
      exact Body.Ordinary.bind (Body.ordinary_attempt trivial) fun _ => Body.ordinary_pure _
  | add a b =>
      exact gives_then fun w => gives_then fun _ => gives_pure fun _ => Body.ordinary_pure _
  | equal a b =>
      exact gives_then fun w => gives_then fun _ => gives_pure fun _ => Body.ordinary_pure _
  | raise e => exact gives_error _
  | raiseAt n e =>
      rw [lower]
      split
      · exact gives_error _
      · exact gives_pure fun _ => Body.ordinary_pure _

/-- So does the code of a script, however far it got. -/
theorem Script.lower_ordinary (ordinal : UInt32) (script : Script) (widths : List Width)
    (values : List Value) (h : ∀ reg ∈ script.written, writes reg) :
    ((script.lower ordinal widths).code values).Ordinary writes := by
  induction script generalizing widths values with
  | done => exact Body.ordinary_pure _
  | ends how =>
      cases how with
      | leave => exact Body.ordinary_throw _
      | trap => exact Body.ordinary_throw _
      | abandon => exact Body.ordinary_throw _
      | ret v =>
          rw [lower]
          split
          · exact Body.ordinary_pure _
          · exact Body.ordinary_throw _
  | call c rest ih =>
      obtain ⟨hfirst, hrest⟩ := List.forall_mem_append.mp h
      have hcall := c.lower_ordinary ordinal widths hfirst
      rw [lower]
      split
      · exact Body.ordinary_pure _
      · rename_i width code hlower
        exact (hcall _ hlower values).bind fun value => ih _ _ hrest
  | branch v thens elses rest ihThens ihElses ihRest =>
      obtain ⟨hbranches, hrest⟩ := List.forall_mem_append.mp h
      obtain ⟨hthens, helses⟩ := List.forall_mem_append.mp hbranches
      rw [lower]
      split
      · exact Body.ordinary_pure _
      rename_i w _
      -- One side runs, and the rest follows only if it can be reached.
      have hsides (other : List Value → Body Unit) (hother : (other values).Ordinary writes) :
          (if (Value.get values v w).isZero then other values
            else (thens.lower ordinal widths).code values).Ordinary writes := by
        split
        · exact hother
        · exact ihThens widths values hthens
      dsimp only
      split
      · exact hsides (fun _ => pure ()) (Body.ordinary_pure _)
      · exact hsides _ (ihElses widths values helses)
      · exact hsides _ (ihElses widths values helses)
      · exact (hsides _ (ihElses widths values helses)).bind fun _ => ihRest widths values hrest

end Lower

theorem Program.generate_ordinary (program : Program) (design : Design) (pc : VirtAddr)
    (ordinal : UInt32) {step : Step} (h : program.generate design pc ordinal = .ok step) :
    step.body.Ordinary (· ∈ program.written design) := by
  unfold generate at h
  split at h
  · simp at h
  · split at h
    · simp at h
    · rename_i instr hinstr
      dsimp only at h
      split at h
      · simp at h
      · obtain rfl := Except.ok.inj h
        have hmem : instr ∈ program.instrs :=
          List.mem_reverse.mp (List.mem_of_find?_eq_some hinstr)
        have hcode : ((instr.script.lower ordinal []).code []).Ordinary
            (· ∈ program.written design) :=
          instr.script.lower_ordinary ordinal [] [] fun reg hreg =>
            List.mem_cons_of_mem _ (List.mem_flatMap.mpr ⟨instr, hmem, hreg⟩)
        dsimp only
        split
        · exact (Body.ordinary_writeReg List.mem_cons_self _).bind fun _ => hcode
        · exact hcode

section Generated

variable {design : Design} {program : Program}

theorem ordinary_of_generated {fragment : Fragment}
    (h : fragment.Generated (Codegen design program)) :
    fragment.body.Ordinary (· ∈ program.written design) := by
  obtain ⟨pc, ordinal, s, s', step, hgenerate, rfl⟩ := h
  exact program.generate_ordinary design pc ordinal (congrArg Prod.fst hgenerate)

theorem ExitRule.code_uses {ε : Type} {P : Op → Prop} (h : ∀ idx, P (.readReg idx))
    (rule : ExitRule) : (rule.code (ε := ε)).code.run.Uses P := by
  cases rule with
  | const w value => exact trivial
  | register idx => exact ⟨h idx, fun _ => trivial⟩

/-- Whatever a program does, its code leaves the calls to the code before an instruction. -/
theorem discreet (design : Design) (program : Program) :
    Emitter.Discreet (Codegen design program) where
  body _ h := Code.Uses.mono (fun op hop => by cases op <;> trivial) (ordinary_of_generated h).uses
  leave _ _ := ExitRule.code_uses (fun _ => trivial) _
  trap _ _ := ExitRule.code_uses (fun _ => trivial) _

end Generated

/-! ## Registers in their places -/

namespace Design

/-- The special registers of the design lie side by side and have indices of their own. -/
structure Regular (design : Design) : Prop where
  fits : design.layout.Fits design.storageSize
  distinct : design.layout.slots.Pairwise (·.index ≠ ·.index)

variable {design : Design}

theorem Regular.slot?_index (h : design.Regular) {slot : RegSlot}
    (hslot : slot ∈ design.layout.slots) : design.slot? slot.index = some slot := by
  obtain ⟨before, behind, hslots⟩ := List.append_of_mem hslot
  have hdistinct := h.distinct
  rw [hslots, List.pairwise_append] at hdistinct
  have hfind : design.layout.slots.find? (·.index = slot.index) = some slot := by
    rw [List.find?_eq_some_iff_append]
    refine ⟨by simp, before, behind, hslots, fun other hother => ?_⟩
    simpa using hdistinct.2.2 other hother slot List.mem_cons_self
  rw [slot?, hfind]

end Design

namespace Core

variable {design : Design} {slot : RegSlot}

/-- A special register is read as generated code finds it in its slot. -/
theorem readReg_eq (h : design.Regular) (hslot : slot ∈ design.layout.slots) (core : Core design) :
    core.readReg slot.index = (Architecture.loadSlot core slot).toUInt64 := by
  rw [readReg, h.slot?_index hslot, Word.toUInt64, h.fits.toNat_loadSlot hslot]
  rfl

theorem writeReg_eq (h : design.Regular) (hslot : slot ∈ design.layout.slots) (core : Core design)
    (value : UInt64) :
    core.writeReg slot.index value = Architecture.storeSlot core slot (Word.const .w64 value) := by
  rw [writeReg, h.slot?_index hslot, h.fits.storeSlot_eq hslot, Word.toNat_const,
    Nat.mod_eq_of_lt value.toNat_lt]
  rfl

theorem readReg_storeSlot_of_apart (h : design.Regular) {other : RegSlot}
    (hother : other ∈ design.layout.slots) (hslot : slot ∈ design.layout.slots)
    (happart : other.Apart slot) (core : Core design) {w : Width} (value : Word w) :
    readReg (Architecture.storeSlot core other value) slot.index = core.readReg slot.index := by
  rw [readReg_eq h hslot, readReg_eq h hslot,
    h.fits.loadSlot_storeSlot_of_apart hother hslot happart]

theorem readReg_writeReg_of_apart (h : design.Regular) {other : RegSlot}
    (hother : other ∈ design.layout.slots) (hslot : slot ∈ design.layout.slots)
    (happart : other.Apart slot) (core : Core design) (value : UInt64) :
    (core.writeReg other.index value).readReg slot.index = core.readReg slot.index := by
  rw [core.writeReg_eq h hother, readReg_storeSlot_of_apart h hother hslot happart]

/-- A special register is what it was if the bytes of its slot are. -/
theorem readReg_of_value (h : design.Regular) (hslot : slot ∈ design.layout.slots)
    {core core' : Core design} (hvalue : slot.value core'.storage = slot.value core.storage) :
    core'.readReg slot.index = core.readReg slot.index := by
  rw [readReg, readReg, h.slot?_index hslot]
  exact congrArg UInt64.ofNat hvalue

end Core

/-! ## What a program leaves alone -/

/-- No register that the code of the program writes shares a byte with the slot. -/
def Program.Avoids (program : Program) (design : Design) (slot : RegSlot) : Prop :=
  ∀ reg ∈ program.written design, ∀ other ∈ design.slot? reg, other.Apart slot

instance (program : Program) (design : Design) (slot : RegSlot) :
    Decidable (program.Avoids design slot) :=
  List.decidableBAll (fun reg => ∀ other ∈ design.slot? reg, other.Apart slot)
    (program.written design)

section Avoids

variable {design : Design} {program : Program} {slot : RegSlot}

theorem Program.Avoids.spares (h : program.Avoids design slot) (hdesign : design.Regular)
    (hslot : slot ∈ design.layout.slots) {op : Op}
    (hop : op.Ordinary (· ∈ program.written design)) :
    op.Spares fun core : Core design => core.readReg slot.index := by
  intro core
  apply Core.readReg_of_value hdesign hslot
  cases op with
  | writeReg idx value =>
      change slot.value (core.writeReg idx value).storage = _
      rw [Core.writeReg]
      cases hother : design.slot? idx with
      | none => rfl
      | some other => exact RegSlot.value_put_of_apart (h idx hop other hother) _ core.storage
  | writeMem space addr len value =>
      change slot.value (core.writeMem ⟨.write, space, addr⟩ len value).2.storage = _
      unfold Core.writeMem
      split
      · rfl
      · split
        · rfl
        · split
          · split <;> rfl
          · rfl
  | _ => first | rfl | exact hop.elim

theorem Program.Avoids.body_keeps {δ : Type} [Debugger δ] (h : program.Avoids design slot)
    (hdesign : design.Regular) (hslot : slot ∈ design.layout.slots) {fragment : Fragment}
    (hfragment : fragment.Generated (Codegen design program)) :
    fragment.body.Keeps δ fun core : Core design => core.readReg slot.index :=
  Body.Uses.keepsView (Code.Uses.mono (fun _ => h.spares hdesign hslot)
    (ordinary_of_generated hfragment).uses)

theorem ExitRule.core_of_mem_points {δ ε : Type} [Debugger δ] {rule : ExitRule}
    {m p : Machine (Core design) δ} (hp : p ∈ (rule.code (ε := ε)).code.run.points m) :
    p.core = m.core := by
  cases rule with
  | const w value => rw [List.mem_singleton.mp hp]
  | register idx => exact ExitCode.core_of_mem_register_points hp

end Avoids

section Laws

variable {design : Design} {program : Program} (δ : Type) [Debugger δ]

/-- A program that keeps off the slot of the counter leaves it to the code before an instruction. -/
theorem counting (h : design.Regular) (hprogram : program.Avoids design design.layout.icount) :
    Counting (Core design) (Codegen design program) δ design.layout where
  wide := by
    rw [RegSlot.width, RegLayout.size_icount_of_isValid h.fits.valid]
    rfl
  reads := Core.readReg_eq h design.layout.icount_mem
  counter core n := by
    refine (Core.readReg_eq h design.layout.icount_mem _).trans ?_
    rw [h.fits.loadSlot_storeSlot_self design.layout.icount_mem, Word.resize_of_le (Nat.le_refl _),
      BitVec.setWidth_eq]
  pc := Core.readReg_storeSlot_of_apart h design.layout.pc_mem design.layout.icount_mem
    h.fits.separate.pc_icount
  trapState := Core.readReg_storeSlot_of_apart h design.layout.trapState_mem
    design.layout.icount_mem h.fits.separate.icount_trapState.symm
  writePc := Core.readReg_writeReg_of_apart h design.layout.pc_mem
    design.layout.icount_mem h.fits.separate.pc_icount
  writeNextPc := Core.readReg_writeReg_of_apart h design.layout.nextPc_mem
    design.layout.icount_mem h.fits.separate.icount_nextPc.symm
  notify _ _ := rfl
  resolve _ _ := rfl
  enterTrap _ _ _ := rfl
  generate _ _ _ _ := rfl
  body := hprogram.body_keeps h design.layout.icount_mem
  leave _ _ := fun _ hp => congrArg _ (ExitRule.core_of_mem_points hp)
  trap _ _ := fun _ hp => congrArg _ (ExitRule.core_of_mem_points hp)

/-- A program that keeps off the slot of the current address leaves it to the code before an
instruction. -/
theorem placing (h : design.Regular) (hprogram : program.Avoids design design.layout.pc) :
    Placing (Core design) (Codegen design program) δ design.layout where
  fits := h.fits
  reads := Core.readReg_eq h design.layout.pc_mem
  writeNextPc := Core.readReg_writeReg_of_apart h design.layout.nextPc_mem
    design.layout.pc_mem h.fits.separate.pc_nextPc.symm
  nextPc core v := by
    change Architecture.loadSlot (core.writeReg _ v) _ = _
    rw [core.writeReg_eq h design.layout.nextPc_mem,
      h.fits.loadSlot_storeSlot_self design.layout.nextPc_mem,
      Word.resize_const_of_le (Width.bits_le _)]
  notify _ _ := rfl
  resolve _ _ := rfl
  generate _ _ _ _ := rfl
  body := hprogram.body_keeps h design.layout.pc_mem
  careful hfragment := (ordinary_of_generated hfragment).careful _ _
  leave _ _ := fun _ hp => congrArg _ (ExitRule.core_of_mem_points hp)
  trap _ _ := fun _ hp => congrArg _ (ExitRule.core_of_mem_points hp)

end Laws

end GuestSim.Scripted

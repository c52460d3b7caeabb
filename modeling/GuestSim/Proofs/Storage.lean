import GuestSim.Proofs.Bytes
import GuestSim.Proofs.Running
import GuestSim.Scripted.Core

/-! # The registers of a layout as bytes of a storage

The code before an instruction reaches the counter, the addresses and the traps as slots of one,
two, four or eight bytes, wherever the layout puts them. As long as no two slots overlap it moves
whole registers, cut or extended to the slot that receives them, and touches no other byte. -/

namespace GuestSim

/-! ## Slots -/

namespace RegSlot

variable {size : Nat}

def value (slot : RegSlot) (bytes : Vector UInt8 size) : Nat :=
  Bytes.peek bytes slot.offset.toNat slot.size.toNat

/-- The storage with as much of a number in the slot as fits. -/
def put (slot : RegSlot) (n : Nat) (bytes : Vector UInt8 size) : Vector UInt8 size :=
  Bytes.poke bytes slot.offset.toNat slot.size.toNat n

/-- The slot has byte `i` of the storage. -/
def Owns (slot : RegSlot) (i : Nat) : Prop :=
  slot.offset.toNat ≤ i ∧ i < slot.offset.toNat + slot.size.toNat

/-- No byte belongs to both slots. -/
def Apart (a b : RegSlot) : Prop :=
  a.offset.toNat + a.size.toNat ≤ b.offset.toNat ∨ b.offset.toNat + b.size.toNat ≤ a.offset.toNat

instance (a b : RegSlot) : Decidable (a.Apart b) := inferInstanceAs (Decidable (_ ∨ _))

theorem Apart.symm {a b : RegSlot} (h : a.Apart b) : b.Apart a := Or.symm h

theorem put_mod (slot : RegSlot) (n : Nat) (bytes : Vector UInt8 size) :
    slot.put (n % 256 ^ slot.size.toNat) bytes = slot.put n bytes :=
  Bytes.poke_mod bytes _ _ n

theorem value_put_self {slot : RegSlot} (h : slot.offset.toNat + slot.size.toNat ≤ size) (n : Nat)
    (bytes : Vector UInt8 size) : slot.value (slot.put n bytes) = n % 256 ^ slot.size.toNat :=
  Bytes.peek_poke_self h n

theorem value_put_of_apart {a b : RegSlot} (h : a.Apart b) (n : Nat) (bytes : Vector UInt8 size) :
    b.value (a.put n bytes) = b.value bytes :=
  Bytes.peek_poke_of_apart bytes h n

theorem getElem_put_of_not_owns {slot : RegSlot} {i : Nat} (h : ¬slot.Owns i) (hi : i < size)
    (n : Nat) (bytes : Vector UInt8 size) : (slot.put n bytes)[i] = bytes[i] := by
  apply Option.some.inj
  rw [← Vector.getElem?_eq_getElem hi, ← Vector.getElem?_eq_getElem hi, ← Vector.getElem?_toArray,
    ← Vector.getElem?_toArray, put, Bytes.toArray_poke, Bytes.getElem?_store]
  exact if_neg h

end RegSlot

/-! ## Layouts -/

namespace RegLayout

/-- The slots of the layout lie side by side in a storage of `size` bytes, which a signed 32-bit
distance can reach. -/
structure Fits (layout : RegLayout) (size : Nat) : Prop where
  valid : layout.isValid = true
  within : ∀ slot ∈ layout.slots, slot.offset.toNat + slot.size.toNat ≤ size
  apart : layout.slots.Pairwise RegSlot.Apart
  reached : size < 2 ^ 31

/-- The storage when an instruction has been counted and has become the current one. -/
structure Advanced (layout : RegLayout) {size : Nat} (old new : Vector UInt8 size) : Prop where
  icount : layout.icount.value new = (layout.icount.value old + 1) % 2 ^ 64
  pc : layout.pc.value new = layout.nextPc.value old % 256 ^ layout.pc.size.toNat
  trapState :
    layout.trapState.value new = layout.pendingTrap.value old % 256 ^ layout.trapState.size.toNat
  others : ∀ i (_ : i < size), ¬layout.icount.Owns i → ¬layout.pc.Owns i →
    ¬layout.trapState.Owns i → new[i] = old[i]

variable {layout : RegLayout} {size : Nat}

theorem mem_slots {slot : RegSlot} :
    slot ∈ layout.slots ↔ slot = layout.pc ∨ slot = layout.nextPc ∨ slot = layout.icount ∨
      slot = layout.pendingTrap ∨ slot = layout.trapState := by
  simp [slots]

theorem pc_mem (layout : RegLayout) : layout.pc ∈ layout.slots := by simp [slots]

theorem nextPc_mem (layout : RegLayout) : layout.nextPc ∈ layout.slots := by simp [slots]

theorem icount_mem (layout : RegLayout) : layout.icount ∈ layout.slots := by simp [slots]

theorem pendingTrap_mem (layout : RegLayout) : layout.pendingTrap ∈ layout.slots := by simp [slots]

theorem trapState_mem (layout : RegLayout) : layout.trapState ∈ layout.slots := by simp [slots]

theorem size_icount_of_isValid (h : layout.isValid = true) : layout.icount.size = 8 := by
  simp only [isValid, Bool.and_eq_true, beq_iff_eq] at h
  exact h.1

/-- The slots of a valid layout hold words. -/
theorem bytes_width_of_isValid (h : layout.isValid = true) :
    ∀ slot ∈ layout.slots, slot.width.bytes = slot.size.toNat := by
  intro slot hslot
  simp only [isValid, Bool.and_eq_true, List.all_eq_true, List.contains_iff_mem] at h
  have hsize := (h.2 slot hslot).1
  simp only [List.mem_cons, List.not_mem_nil, or_false] at hsize
  rw [RegSlot.width]
  rcases hsize with hsize | hsize | hsize | hsize <;> rw [hsize] <;> rfl

/-- A slot of the storage is reached where it lies: its distance from the start keeps its value as
a signed number. -/
theorem Fits.place_eq (h : layout.Fits size) :
    ∀ slot ∈ layout.slots, Architecture.place slot.offset.toInt32 = slot.offset.toNat := by
  intro slot hslot
  have hwithin := h.within slot hslot
  have hreached := h.reached
  have hmsb : slot.offset.toBitVec.msb = false := by
    rw [BitVec.msb_eq_false_iff_two_mul_lt]
    change 2 * slot.offset.toNat < 2 ^ 32
    omega
  have hextend : slot.offset.toInt32.toInt64.toUInt64 = slot.offset.toUInt64 := by
    apply UInt64.toBitVec_inj.mp
    change slot.offset.toInt32.toInt64.toBitVec = _
    rw [Int32.toBitVec_toInt64, UInt32.toBitVec_toUInt64]
    exact BitVec.signExtend_eq_setWidth_of_msb_false hmsb
  rw [Architecture.place, hextend, UInt32.toNat_toUInt64]

/-- The slots that are written lie apart from each other and from those that are read. -/
structure Separate (layout : RegLayout) : Prop where
  pc_nextPc : layout.pc.Apart layout.nextPc
  pc_icount : layout.pc.Apart layout.icount
  pc_pendingTrap : layout.pc.Apart layout.pendingTrap
  pc_trapState : layout.pc.Apart layout.trapState
  icount_nextPc : layout.icount.Apart layout.nextPc
  icount_pendingTrap : layout.icount.Apart layout.pendingTrap
  icount_trapState : layout.icount.Apart layout.trapState

theorem Fits.separate (h : layout.Fits size) : layout.Separate := by
  have happart := h.apart
  simp only [slots, List.pairwise_cons, List.mem_cons, List.not_mem_nil, or_false, forall_eq_or_imp,
    forall_eq] at happart
  obtain ⟨⟨hpn, hpi, hpp, hpt⟩, ⟨hni, -, -⟩, ⟨hip, hit⟩, -⟩ := happart
  exact ⟨hpn, hpi, hpp, hpt, hni.symm, hip, hit⟩

def advance (layout : RegLayout) (old : Vector UInt8 size) : Vector UInt8 size :=
  layout.trapState.put (layout.pendingTrap.value old)
    (layout.pc.put (layout.nextPc.value old)
      (layout.icount.put (layout.icount.value old + 1) old))

theorem Fits.advanced (h : layout.Fits size) (old : Vector UInt8 size) :
    layout.Advanced old (layout.advance old) := by
  have hsep := h.separate
  have hicount := h.within layout.icount layout.icount_mem
  have hpc := h.within layout.pc layout.pc_mem
  have htrapState := h.within layout.trapState layout.trapState_mem
  refine ⟨?_, ?_, ?_, ?_⟩
  · rw [advance, RegSlot.value_put_of_apart hsep.icount_trapState.symm,
      RegSlot.value_put_of_apart hsep.pc_icount, RegSlot.value_put_self hicount,
      size_icount_of_isValid h.valid]
    rfl
  · rw [advance, RegSlot.value_put_of_apart hsep.pc_trapState.symm, RegSlot.value_put_self hpc]
  · rw [advance, RegSlot.value_put_self htrapState]
  · intro i hi hicount hpc htrapState
    rw [advance, RegSlot.getElem_put_of_not_owns htrapState hi,
      RegSlot.getElem_put_of_not_owns hpc hi, RegSlot.getElem_put_of_not_owns hicount hi]

end RegLayout

/-! ## Access to slots -/

section Access

open Architecture

variable {C : Type} [Architecture C] {layout : RegLayout}

theorem RegLayout.Fits.toNat_loadSlot (h : layout.Fits (storageSize C)) {slot : RegSlot}
    (hslot : slot ∈ layout.slots) (core : C) :
    (loadSlot core slot).toNat = slot.value (storage core) := by
  have hwidth := bytes_width_of_isValid h.valid slot hslot
  have hlt : slot.value (storage core) < 2 ^ slot.width.bits := by
    rw [← Width.pow_bytes, hwidth]
    exact Bytes.peek_lt _ _ _
  rw [loadSlot, loadStorage, h.place_eq slot hslot, hwidth]
  exact (BitVec.toNat_ofNat _ _).trans (Nat.mod_eq_of_lt hlt)

/-- A number written to a slot is cut to the bytes of the slot. -/
theorem RegLayout.Fits.storeSlot_eq (h : layout.Fits (storageSize C)) {slot : RegSlot}
    (hslot : slot ∈ layout.slots) (core : C) {w : Width} (value : Word w) :
    storeSlot core slot value = withStorage core (slot.put value.toNat (storage core)) := by
  have hwidth := bytes_width_of_isValid h.valid slot hslot
  rw [storeSlot, storeStorage, h.place_eq slot hslot, Word.toNat_resize, ← Width.pow_bytes,
    Bytes.poke_mod, hwidth]
  rfl

theorem RegLayout.Fits.storeSlot_loadSlot (h : layout.Fits (storageSize C)) {source target : RegSlot}
    (hsource : source ∈ layout.slots) (htarget : target ∈ layout.slots) (core : C) :
    storeSlot core target (loadSlot core source) =
      withStorage core (target.put (source.value (storage core)) (storage core)) := by
  rw [h.storeSlot_eq htarget, h.toNat_loadSlot hsource]

theorem RegLayout.Fits.storeSlot_succ (h : layout.Fits (storageSize C)) {slot : RegSlot}
    (hslot : slot ∈ layout.slots) (core : C) :
    storeSlot core slot (loadSlot core slot + 1) =
      withStorage core (slot.put (slot.value (storage core) + 1) (storage core)) := by
  have hsum : (loadSlot core slot + 1).toNat =
      (slot.value (storage core) + 1) % 256 ^ slot.size.toNat := by
    rw [← bytes_width_of_isValid h.valid slot hslot, Width.pow_bytes, BitVec.toNat_add,
      h.toNat_loadSlot hslot]
    exact Nat.add_mod_mod _ _ _
  rw [h.storeSlot_eq hslot, hsum, RegSlot.put_mod]

theorem RegLayout.Fits.storage_storeSlot (h : layout.Fits (storageSize C)) {slot : RegSlot}
    (hslot : slot ∈ layout.slots) (core : C) {w : Width} (value : Word w) :
    storage (storeSlot core slot value) = slot.put value.toNat (storage core) := by
  rw [h.storeSlot_eq hslot, storage_withStorage]

/-- What a slot holds is what was last stored in it. -/
theorem RegLayout.Fits.loadSlot_storeSlot_self (h : layout.Fits (storageSize C)) {slot : RegSlot}
    (hslot : slot ∈ layout.slots) (core : C) {w : Width} (value : Word w) :
    loadSlot (storeSlot core slot value) slot = Word.resize false slot.width value := by
  apply BitVec.eq_of_toNat_eq
  rw [h.toNat_loadSlot hslot, h.storage_storeSlot hslot,
    RegSlot.value_put_self (h.within slot hslot), ← bytes_width_of_isValid h.valid slot hslot,
    Width.pow_bytes, Word.toNat_resize]

theorem RegLayout.Fits.loadSlot_storeSlot_of_apart (h : layout.Fits (storageSize C))
    {a b : RegSlot} (ha : a ∈ layout.slots) (hb : b ∈ layout.slots) (hapart : a.Apart b) (core : C)
    {w : Width} (value : Word w) : loadSlot (storeSlot core a value) b = loadSlot core b := by
  apply BitVec.eq_of_toNat_eq
  rw [h.toNat_loadSlot hb, h.toNat_loadSlot hb, h.storage_storeSlot ha,
    RegSlot.value_put_of_apart hapart]

end Access

/-! ## The code before an instruction -/

namespace Settings

open Architecture

variable {C δ : Type} [Architecture C] {settings : Settings}

/-- The budget is used up if the number in the slot of the counter has reached the limit. -/
theorem exhausted_iff_value (h : settings.layout.Fits (storageSize C)) (m : Machine C δ) :
    settings.Exhausted m ↔ settings.preciseLimit = true ∧
      m.context.icountLimit.toNat ≤ settings.layout.icount.value (storage m.core) := by
  rw [Exhausted, UInt64.le_iff_toNat_le, Word.toNat_toUInt64,
    h.toNat_loadSlot (RegLayout.icount_mem _)]

theorem toNat_startAddress (h : settings.layout.Fits (storageSize C)) (core : C) :
    (settings.startAddress core).toNat = settings.layout.nextPc.value (storage core) := by
  simp only [startAddress]
  rw [Word.toNat_toUInt64, Word.toNat_resize_of_le (Width.bits_le _),
    h.toNat_loadSlot (RegLayout.nextPc_mem _), h.storage_storeSlot (RegLayout.icount_mem _),
    RegSlot.value_put_of_apart h.separate.icount_nextPc]

theorem started_eq_withStorage (h : settings.layout.Fits (storageSize C)) (core : C) :
    settings.started core = withStorage core (settings.layout.advance (storage core)) := by
  have hsep := h.separate
  simp only [started]
  rw [h.storeSlot_succ (RegLayout.icount_mem _),
    h.storeSlot_loadSlot (RegLayout.nextPc_mem _) (RegLayout.pc_mem _),
    h.storeSlot_loadSlot (RegLayout.pendingTrap_mem _) (RegLayout.trapState_mem _)]
  -- What is read is as it was before anything was written.
  simp only [storage_withStorage, withStorage_withStorage]
  rw [RegSlot.value_put_of_apart hsep.pc_pendingTrap,
    RegSlot.value_put_of_apart hsep.icount_pendingTrap,
    RegSlot.value_put_of_apart hsep.icount_nextPc]
  rfl

variable [Debugger δ]

/-- The code before an instruction, past the check of the budget. -/
theorem before_exec (settings : Settings) (ordinal : UInt32) {m : Machine C δ}
    (h : ¬settings.Exhausted m) :
    let (refusal, debugger) := settings.consult (settings.startAddress m.core) m.context.debugger
    ∃ m', (settings.before ordinal).exec m =
        (if refusal.isSome then .error .trap else .ok (), m') ∧
      m'.core = (if refusal.isNone ∧ settings.syncExec.intersects .pre then
        notify (settings.started m.core) .start else settings.started m.core) ∧
      m'.context.exception = refusal.or m.context.exception ∧
      m'.context.debugger = debugger := by
  obtain ⟨m₁, hcheck, hcore₁, hexception₁, hdebugger₁⟩ := settings.debugCheck_consult
    (settings.startAddress m.core) { m with core := settings.started m.core }
  rw [before, Body.exec_bind_ok (budgetCheck_exec_of_not_exhausted h),
    Body.exec_bind_ok (settings.advance_exec m)]
  cases hanswer : settings.consult (settings.startAddress m.core) m.context.debugger with
  | mk refusal debugger =>
      rw [hanswer] at hcheck hexception₁ hdebugger₁
      cases refusal with
      | some e =>
          rw [Body.exec_bind_error hcheck]
          exact ⟨m₁, rfl, hcore₁, hexception₁, hdebugger₁⟩
      | none =>
          obtain ⟨m₂, hreport, hcore₂, hcontext₂⟩ := settings.report_exec .pre ordinal m₁
          rw [Body.exec_bind_ok hcheck]
          refine ⟨m₂, hreport, ?_, ?_, ?_⟩
          · rw [hcore₂, hcore₁]
            simp only [Option.isNone_none, true_and]
            rfl
          · rw [hcontext₂, hexception₁]
          · rw [hcontext₂, hdebugger₁]

/-- What the code before an instruction does to the register storage, on any layout. -/
theorem before_on_storage (settings : Settings) (ordinal : UInt32) (m : Machine C δ)
    (h : settings.layout.Fits (storageSize C)) :
    let old := storage m.core
    let spent := settings.preciseLimit = true ∧
      m.context.icountLimit.toNat ≤ settings.layout.icount.value old
    (spent → (settings.before ordinal).exec m = (.error .leave, m)) ∧
    (¬spent → ∃ (pc : UInt64) (new : Vector UInt8 (storageSize C)) (m' : Machine C δ),
      pc.toNat = settings.layout.nextPc.value old ∧ settings.layout.Advanced old new ∧
      let (refusal, debugger) := settings.consult pc m.context.debugger
      (settings.before ordinal).exec m = (if refusal.isSome then .error .trap else .ok (), m') ∧
      m'.core = (if refusal.isNone ∧ settings.syncExec.intersects .pre then
        notify (withStorage m.core new) .start else withStorage m.core new) ∧
      m'.context.exception = refusal.or m.context.exception ∧
      m'.context.debugger = debugger) := by
  intro old spent
  have hspent : settings.Exhausted m ↔ spent := exhausted_iff_value h m
  refine ⟨fun hleave => ?_, fun hstay => ?_⟩
  · exact Body.exec_bind_error (budgetCheck_exec_of_exhausted (hspent.mpr hleave))
  · obtain ⟨m', hexec, hcore, hexception, hdebugger⟩ :=
      before_exec settings ordinal (mt hspent.mp hstay)
    rw [started_eq_withStorage h] at hcore
    exact ⟨_, _, m', toNat_startAddress h m.core, h.advanced old, hexec, hcore, hexception,
      hdebugger⟩

/-- Slots of four sizes, in no order and with no room between them: the counter starts over, the
address of the next instruction is cut to two bytes and the trap to one, and the debugger refuses
the whole address. -/
theorem before_on_storage_tight :
    let layout : RegLayout := ⟨⟨0, 9, 2⟩, ⟨1, 11, 4⟩, ⟨2, 1, 8⟩, ⟨3, 15, 2⟩, ⟨4, 0, 1⟩, 5⟩
    let settings : Settings := ⟨1, 0, 0, .empty, true, false, [], layout⟩
    let refusal : Exception := .accessTrap 3 0x12345678
    let m : Machine (Scripted.Core { layout, storageSize := 18 }) (List Breakpoint) :=
      { core := {
          storage := #v[0x07, 0xff, 0xff, 0xff, 0xff, 0xff, 0xff, 0xff, 0xff, 0x11, 0x22,
            0x78, 0x56, 0x34, 0x12, 0xcd, 0xab, 0x99] }
        context := { debugger := some [⟨0x12345678, refusal, 1⟩] }
        journal := ⟨.everything, #[]⟩ }
    layout.Fits 18 ∧ ∃ m', (settings.before 0).exec m = (.error .trap, m') ∧
      m'.context.exception = some refusal ∧ layout.Advanced m.core.storage m'.core.storage := by
  intro layout settings refusal m
  have hfits : layout.Fits 18 := by
    constructor <;> decide
  obtain ⟨pc, new, m', hpc, hadvanced, hexec, hcore, hexception, -⟩ :=
    (before_on_storage settings 0 m hfits).2 (by decide)
  obtain rfl : pc = 0x12345678 := UInt64.toNat_inj.mp (hpc.trans (by decide))
  have hstorage : m'.core.storage = new := by
    rw [hcore]
    rfl
  exact ⟨hfits, m', hexec, hexception, hstorage ▸ hadvanced⟩

end Settings

end GuestSim

import GuestSim.Proofs.Storage
import GuestSim.Proofs.Trace

/-! # The current instruction

The code before an instruction stores its address in the slot of the current one. Until the next
instruction starts, nothing else in a unit does, so that the core stands at the instruction that was
started last. -/

namespace GuestSim

/-- What a slot keeps of a number. -/
def RegSlot.cut (slot : RegSlot) (n : UInt64) : UInt64 := (Word.const slot.width n).toUInt64

theorem RegSlot.cut_toUInt64 {slot : RegSlot} (word : Word slot.width) :
    slot.cut word.toUInt64 = word.toUInt64 := by
  rw [cut, Word.const_toUInt64]

/-- The address of the current instruction is what its slot holds, and only the code before an
instruction writes there. A write to the register of the next address reaches its slot. Code that
raises an exception leaves its unit for it. -/
structure Placing (C G δ : Type) [Architecture C] [Emitter G C] [Debugger δ]
    (layout : RegLayout) : Prop where
  fits : layout.Fits (Architecture.storageSize C)
  reads (core : C) :
    Architecture.currentPc core = (Architecture.loadSlot core layout.pc).toUInt64
  writeNextPc (core : C) (v : UInt64) :
    Architecture.currentPc (Architecture.writeReg core layout.nextPc.index v) =
      Architecture.currentPc core
  nextPc (core : C) (v : UInt64) :
    Architecture.loadSlot (Architecture.writeReg core layout.nextPc.index v) layout.nextPc =
      Word.const layout.nextPc.width v
  notify (core : C) (phase : Phase) :
    Architecture.currentPc (Architecture.notify core phase) = Architecture.currentPc core
  resolve (core : C) (addr : VirtAddr) :
    Architecture.currentPc (Architecture.resolve core addr).2 = Architecture.currentPc core
  generate (pc : VirtAddr) (ordinal : UInt32) (emitter : G) (core : C) :
    Architecture.currentPc (Emitter.generate pc ordinal (emitter, core)).2.2 =
      Architecture.currentPc core
  body {fragment : Fragment} (h : fragment.Generated G) :
    fragment.body.Keeps δ (Architecture.currentPc (C := C))
  careful {fragment : Fragment} (h : fragment.Generated G) : fragment.body.Careful C δ
  leave (emitter : G) (m : Machine C δ) :
    ∀ p ∈ (Emitter.leave layout emitter).1.code.run.points m,
      Architecture.currentPc p.core = Architecture.currentPc m.core
  trap (emitter : G) (m : Machine C δ) :
    ∀ p ∈ (Emitter.trap layout emitter).1.code.run.points m,
      Architecture.currentPc p.core = Architecture.currentPc m.core

/-! ## One instruction -/

section Instruction

variable {C δ : Type} [Architecture C] [Debugger δ]

def Start.address (start : Start C δ) : UInt64 := start.settings.startAddress start.machine.core

/-- The exception because of which the instruction does not complete, if there is one: the debugger
refuses it, or its code raises an exception. -/
def Counted.stop (counted : Counted C δ) : Option Exception := counted.refusal.or counted.raised

theorem Fragment.closing_exception (fragment : Fragment) (settings : Settings) (ordinal : UInt32)
    (m : Machine C δ) :
    ((do
        fragment.body
        if fragment.isOpen then settings.after ordinal else throw .leave : Body Unit).exec
          m).2.context.exception = (fragment.body.exec m).2.context.exception := by
  cases hbody : fragment.body.exec m with
  | mk result m' =>
      cases result with
      | error d => rw [Body.exec_bind_error hbody]
      | ok _ =>
          rw [Body.exec_bind_ok hbody]
          split
          · obtain ⟨m₁, hafter, -, hcontext⟩ := settings.report_exec .post ordinal m'
            rw [Settings.after, hafter, hcontext]
          · rfl

theorem Counted.instruction_exception (counted : Counted C δ) :
    ((counted.settings.instruction counted.ordinal counted.fragment).exec
      counted.machine).2.context.exception = counted.stop := by
  have hrefusal := counted.toStart.refusal_eq
  obtain ⟨m₁, hcheck, -, hexception, -⟩ := counted.settings.debugCheck_consult
    (counted.settings.startAddress counted.machine.core)
    { counted.machine with core := counted.settings.started counted.machine.core }
  have hadvance := counted.settings.advance_exec counted.machine
  rw [Settings.instruction, Body.exec_bind_ok hadvance, stop]
  simp only [← hrefusal] at hcheck hexception
  cases hcase : counted.refusal with
  | some e =>
      rw [hcase] at hcheck hexception
      rw [Body.exec_bind_error hcheck]
      exact hexception
  | none =>
      rw [hcase] at hcheck
      obtain ⟨m₂, hreport, -⟩ :=
        counted.settings.report_exec .pre (UInt32.ofNat counted.ordinal) m₁
      have hopened : counted.opened = m₂ := by
        rw [opened, Body.exec_bind_ok hadvance, Body.exec_bind_ok hcheck, hreport]
      rw [Body.exec_bind_ok hcheck, Body.exec_bind_ok hreport, ← hopened,
        counted.fragment.closing_exception, Option.none_or, raised]

end Instruction

namespace Placing

variable {C G δ : Type} [Architecture C] [Emitter G C] [Debugger δ] {layout : RegLayout}
  {settings : Settings}

theorem started (h : Placing C G δ layout) (hlayout : settings.layout = layout) (core : C) :
    Architecture.currentPc (settings.started core) =
      layout.pc.cut (settings.startAddress core) := by
  subst hlayout
  have hwidth := RegLayout.bytes_width_of_isValid h.fits.valid _ settings.layout.pc_mem
  apply UInt64.toNat_inj.mp
  rw [h.reads, Word.toNat_toUInt64, h.fits.toNat_loadSlot settings.layout.pc_mem,
    Settings.started_eq_withStorage h.fits, Architecture.storage_withStorage,
    (h.fits.advanced _).pc, RegSlot.cut, Word.toNat_toUInt64, Word.toNat_const,
    Settings.toNat_startAddress h.fits, ← hwidth, Width.pow_bytes]

/-- The first instruction of a unit is the one that the unit is entered for. -/
theorem startAddress_enter (h : Placing C G δ layout) (hlayout : settings.layout = layout)
    (m : Machine C δ) (pc : UInt64) :
    settings.startAddress (m.enter layout.nextPc.index pc).core = layout.nextPc.cut pc := by
  subst hlayout
  have hload := h.nextPc m.core pc
  apply UInt64.toNat_inj.mp
  rw [Settings.toNat_startAddress h.fits, ← h.fits.toNat_loadSlot settings.layout.nextPc_mem,
    RegSlot.cut, Word.toNat_toUInt64, ← hload]
  rfl

/-- An instruction becomes the current one, and leaves its unit if it does not complete. -/
theorem instruction (h : Placing C G δ layout) (counted : Counted C δ)
    (hlayout : counted.settings.layout = layout) (hfragment : counted.fragment.Generated G)
    (hm : counted.machine.context.exception = none) :
    ∃ result m', (counted.settings.instruction counted.ordinal counted.fragment).exec
        counted.machine = (result, m') ∧
      Architecture.currentPc m'.core = layout.pc.cut counted.address ∧
      m'.context.exception = counted.stop ∧ (counted.stop = none ∨ result = .error .trap) := by
  have hexception := counted.instruction_exception
  have hexec := counted.settings.instruction_exec counted.ordinal counted.fragment counted.machine
  have hpc := (counted.settings.rest_keeps h.notify counted.ordinal (h.body hfragment)
    counted.address).exec
      { counted.machine with core := counted.settings.started counted.machine.core }
  have hcareful := counted.settings.rest_careful counted.ordinal (h.careful hfragment)
    counted.address
      { counted.machine with core := counted.settings.started counted.machine.core } hm
  rw [Start.address, ← hexec] at hpc hcareful
  rw [hexception] at hcareful
  exact ⟨_, _, rfl, hpc.trans (h.started hlayout _), hexception, hcareful⟩

end Placing

/-! ## Units -/

section Unit

variable {C G δ : Type} [Architecture C] [Emitter G C] [Debugger δ]

/-- How instructions lead from one machine to another: all but the last have completed, and the core
stands at the last one. -/
structure Executed (layout : RegLayout) (counted : List (Counted C δ)) (m m' : Machine C δ) :
    Prop where
  completed : ∀ c ∈ counted.dropLast, c.stop = none
  place : Architecture.currentPc m'.core =
    counted.getLast?.elim (Architecture.currentPc m.core) fun c => layout.pc.cut c.address

omit [Emitter G C] in
/-- An instruction that completes and becomes the current one comes before others. -/
theorem Executed.cons {layout : RegLayout} {c : Counted C δ} {rest : List (Counted C δ)}
    {m m₁ m' : Machine C δ} (h : Executed layout rest m₁ m') (hstop : c.stop = none)
    (hpc : Architecture.currentPc m₁.core = layout.pc.cut c.address) :
    Executed layout (c :: rest) m m' := by
  constructor
  · cases rest with
    | nil => simp
    | cons first others =>
        rw [List.dropLast_cons_cons]
        exact List.forall_mem_cons.mpr ⟨hstop, h.completed⟩
  · rw [h.place, List.getLast?_cons]
    cases rest.getLast? with
    | none => exact hpc
    | some last => rfl

omit [Emitter G C] in
theorem Executed.all {layout : RegLayout} {counted : List (Counted C δ)} {m m' : Machine C δ}
    (h : Executed layout counted m m') (hlast : counted.getLast?.bind Counted.stop = none) :
    ∀ c ∈ counted, c.stop = none := by
  intro c hc
  cases hcase : counted.getLast? with
  | none => simp [List.getLast?_eq_none_iff.mp hcase] at hc
  | some last =>
      rw [← List.dropLast_append_getLast? last hcase] at hc
      rcases List.mem_append.mp hc with hc | hc
      · exact h.completed c hc
      · rw [List.mem_singleton.mp hc]
        rwa [hcase] at hlast

namespace Placing

variable {layout : RegLayout} {settings : Settings}

/-- Instructions in sequence stop with the first one that does not complete. -/
theorem sequence (h : Placing C G δ layout) (hlayout : settings.layout = layout)
    (ordinal : Nat) {fragments : List Fragment}
    (hfragments : ∀ fragment ∈ fragments, fragment.Generated G) {m : Machine C δ}
    (hm : m.context.exception = none) :
    Executed layout (Draft.countedFrom settings ordinal fragments m) m
        ((Draft.sequence settings ordinal fragments).exec m).2 ∧
      ((Draft.sequence settings ordinal fragments).exec m).2.context.exception =
        (Draft.countedFrom settings ordinal fragments m).getLast?.bind Counted.stop := by
  induction fragments generalizing ordinal m with
  | nil => exact ⟨⟨by simp [Draft.countedFrom], rfl⟩, hm⟩
  | cons fragment rest ih =>
      obtain ⟨hfragment, hrest⟩ := List.forall_mem_cons.mp hfragments
      rw [Draft.sequence_cons]
      by_cases hexhausted : settings.Exhausted m
      · rw [Draft.countedFrom_of_exhausted hexhausted,
          Body.exec_bind_error (Settings.budgetCheck_exec_of_exhausted hexhausted)]
        exact ⟨⟨by simp, rfl⟩, hm⟩
      · rw [Draft.countedFrom_of_not_exhausted hexhausted,
          Body.exec_bind_ok (Settings.budgetCheck_exec_of_not_exhausted hexhausted)]
        obtain ⟨result, m₁, hinstr, hpc, hexception, hstop⟩ :=
          h.instruction ⟨⟨settings, ordinal, m⟩, fragment⟩ hlayout hfragment hm
        simp only at hinstr
        cases result with
        | error d =>
            rw [Body.exec_bind_error hinstr, hinstr]
            exact ⟨⟨by simp, hpc⟩, hexception⟩
        | ok _ =>
            have hnone := hstop.resolve_right (by simp)
            obtain ⟨hexecuted, hparked⟩ := ih (ordinal + 1) hrest (hexception.trans hnone)
            rw [Body.exec_bind_ok hinstr, hinstr]
            refine ⟨hexecuted.cons hnone hpc, ?_⟩
            rw [hparked, List.getLast?_cons]
            cases (Draft.countedFrom settings (ordinal + 1) rest m₁).getLast? with
            | none => exact hnone.symm
            | some c => rfl

theorem exit (h : Placing C G δ layout) (hlayout : settings.layout = layout) {draft : Draft}
    (hmade : draft.Made G settings) (d : Departure) (m : Machine C δ) :
    Architecture.currentPc ((draft.exit d).run m).2.core = Architecture.currentPc m.core := by
  obtain ⟨emitter, hleave⟩ := hmade.leave_eq
  obtain ⟨emitter', htrap⟩ := hmade.trap_eq
  rw [hlayout] at hleave htrap
  refine Draft.forall_points_exit
    (I := fun p => Architecture.currentPc p.core = Architecture.currentPc m.core)
    ?_ ?_ d rfl _ (Code.end_mem_points _ m)
  · intro m' hm' p hp
    rw [hleave] at hp
    exact (h.leave emitter m' p hp).trans hm'
  · intro m' hm' p hp
    rw [htrap] at hp
    exact (h.trap emitter' m' p hp).trans hm'

/-- A unit executes the instructions that it counts. The code of its exits may raise an exception,
but it drops none. -/
theorem code (h : Placing C G δ layout) (hlayout : settings.layout = layout) {draft : Draft}
    (hmade : draft.Made G settings) {m : Machine C δ} (hm : m.context.exception = none) :
    Executed layout (draft.counted m) m (draft.code.run m).2 ∧
      ((draft.code.run m).2.context.exception = none → ∀ c ∈ draft.counted m, c.stop = none) := by
  obtain ⟨d, m', hexec⟩ := Draft.sequence_departs draft.settings 0 draft.fragments m
  obtain ⟨hexecuted, hparked⟩ := h.sequence (hmade.settings_eq ▸ hlayout) 0 hmade.generated hm
  rw [hexec] at hexecuted hparked
  rw [Draft.code_run hmade.linked hexec]
  refine ⟨⟨hexecuted.completed, (h.exit hlayout hmade d m').trans hexecuted.place⟩, fun hnone => ?_⟩
  apply hexecuted.all
  rw [← hparked, ← Option.not_isSome_iff_eq_none]
  intro hsome
  have hkept := Code.run_exception_isSome (draft.exit d) hsome
  simp [hnone] at hkept

end Placing

end Unit

end GuestSim

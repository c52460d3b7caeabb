import GuestSim.Proofs.Mini.Refinement

/-! # What a unit does when it is called

A unit executes the instructions that it was built from, one after the other, whatever memory holds
by then. It can be left before each of them because the budget is used up, and at each of them
because the debugger or an access to memory raises an exception. -/

namespace GuestSim.Mini

variable {δ : Type} [Debugger δ]

/-! ## Blocks of instructions -/

/-- What becomes of a block of instructions. -/
structure Aftermath (δ : Type) where
  /-- The number of instructions that have their full effect. -/
  completed : Nat
  /-- The exception that stopped the next one, if one did. -/
  raised : Option Exception
  core : Core
  debugger : Option δ

/-- Executes instructions in order, each as far as the budget and the debugger let it. -/
def execution (settings : Settings) (limit : UInt64) :
    List Instr → Core → Option δ → Aftermath δ
  | [], core, debugger => ⟨0, none, core, debugger⟩
  | i :: is, core, debugger =>
    if settings.preciseLimit = true ∧ limit ≤ core.regs.icount then ⟨0, none, core, debugger⟩
    else
      match i.perform settings core debugger with
      | (some e, core, debugger) => ⟨0, some e, core, debugger⟩
      | (none, core, debugger) =>
        let rest := execution settings limit is core debugger
        { rest with completed := rest.completed + 1 }

/-- What instructions compute with: the general registers, the zero flag and memory. -/
def Core.data (core : Core) : Vector UInt32 8 × Bool × Array UInt8 :=
  (core.regs.gpr, core.zero, core.ram)

/-! ## One instruction -/

theorem Instr.execute_of_raised {i : Instr} {pc : UInt32} {core : Core} {e : Exception}
    (h : (i.execute pc core).1 = some e) : (i.execute pc core).2 = core := by
  have hload {r : UInt8} {addr : UInt32} {len : Nat} (h : (core.loadTo r addr len).1 = some e) :
      (core.loadTo r addr len).2 = core := by
    rw [Core.loadTo] at h ⊢
    split at h
    · rfl
    · simp at h
  have hstore {addr : UInt32} {len : Nat} {value : UInt64}
      (h : (core.storeAt addr len value).1 = some e) : (core.storeAt addr len value).2 = core := by
    rw [Core.storeAt, Core.writeMem] at h ⊢
    by_cases hhalt : addr.toUInt64 = haltAddr
    · simp only [hhalt, if_true]
    · simp only [hhalt, if_false] at h ⊢
      cases hoffset : core.ramOffset? addr.toUInt64 len with
      | none => rfl
      | some start => simp [hoffset] at h
  unfold execute at h ⊢
  cases hop : i.op with
  | ld => simp only [hop] at h ⊢; exact hload h
  | ldb => simp only [hop] at h ⊢; exact hload h
  | st => simp only [hop] at h ⊢; exact hstore h
  | stb => simp only [hop] at h ⊢; exact hstore h
  | halt => rfl
  | _ => simp [hop] at h

theorem Core.told_frame (settings : Settings) (phase : SyncMask) (core : Core) :
    (core.told settings phase).regs = core.regs ∧
      (core.told settings phase).data = core.data := by
  obtain ⟨counts, hcounts⟩ := Core.exists_told_eq settings phase core
  rw [hcounts]
  exact ⟨rfl, rfl⟩

theorem Instr.reported_of_raised {i : Instr} {settings : Settings} {pc : UInt32} {core : Core}
    {e : Exception} (h : (i.reported settings pc core).1 = some e) :
    (i.reported settings pc core).2 = (core.told settings .pre).goto (pc + 4) := by
  rw [reported] at h ⊢
  cases hexecute : i.execute pc ((core.told settings .pre).goto (pc + 4)) with
  | mk raised core' =>
      cases raised with
      | none => simp [hexecute] at h
      | some e' =>
          have heffect := execute_of_raised (congrArg Prod.fst hexecute)
          rwa [hexecute] at heffect

theorem Instr.nextPc_reported {i : Instr} (hnext : i.outcome = .next) {settings : Settings}
    {pc : UInt32} {core : Core} (h : (i.reported settings pc core).1 = none) :
    (i.reported settings pc core).2.regs.nextPc = pc + 4 := by
  have hkept := nextPc_execute hnext pc ((core.told settings .pre).goto (pc + 4))
  rw [reported] at h ⊢
  cases hexecute : i.execute pc ((core.told settings .pre).goto (pc + 4)) with
  | mk raised core' =>
      cases raised with
      | some e => simp [hexecute] at h
      | none =>
          rw [hexecute] at hkept
          simp only [(core'.told_frame settings .post).1]
          exact hkept

/-- An instruction that is stopped has become the current one, and has no effect on data. -/
theorem Instr.perform_of_raised {i : Instr} {settings : Settings} {core core' : Core}
    {debugger debugger' : Option δ} {e : Exception}
    (h : i.perform settings core debugger = (some e, core', debugger')) :
    core'.regs.pc = core.regs.nextPc ∧ core'.data = core.data := by
  rw [perform] at h
  split at h
  · simp only [Prod.mk.injEq] at h
    obtain ⟨-, rfl, -⟩ := h
    exact ⟨rfl, rfl⟩
  · simp only [Prod.mk.injEq] at h
    obtain ⟨hraised, rfl, -⟩ := h
    obtain ⟨hregs, hdata⟩ := core.counted.told_frame settings .pre
    rw [reported_of_raised hraised]
    constructor
    · change (core.counted.told settings .pre).regs.pc = _
      rw [hregs]
      rfl
    · exact hdata

theorem Instr.nextPc_perform {i : Instr} (hnext : i.outcome = .next) {settings : Settings}
    {addr : UInt64} {core core' : Core} {debugger debugger' : Option δ}
    (hpc : core.regs.nextPc = addr.toUInt32)
    (h : i.perform settings core debugger = (none, core', debugger')) :
    core'.regs.nextPc = (addr + 4).toUInt32 := by
  rw [perform] at h
  split at h
  · simp at h
  · simp only [Prod.mk.injEq] at h
    obtain ⟨hnone, rfl, -⟩ := h
    rw [nextPc_reported hnext hnone, hpc, UInt64.toUInt32_add]
    rfl

/-! ## All instructions -/

section Execution

variable {settings : Settings} {limit : UInt64} {i : Instr} {is : List Instr} {core core' : Core}
  {debugger debugger' : Option δ} {e : Exception}

theorem execution_of_exhausted (h : settings.preciseLimit = true ∧ limit ≤ core.regs.icount) :
    execution settings limit is core debugger = ⟨0, none, core, debugger⟩ := by
  cases is with
  | nil => rfl
  | cons i is => rw [execution, if_pos h]

theorem execution_of_raised (hleft : ¬ (settings.preciseLimit = true ∧ limit ≤ core.regs.icount))
    (h : i.perform settings core debugger = (some e, core', debugger')) :
    execution settings limit (i :: is) core debugger = ⟨0, some e, core', debugger'⟩ := by
  rw [execution, if_neg hleft, h]

theorem execution_of_completed
    (hleft : ¬ (settings.preciseLimit = true ∧ limit ≤ core.regs.icount))
    (h : i.perform settings core debugger = (none, core', debugger')) :
    execution settings limit (i :: is) core debugger =
      { execution settings limit is core' debugger' with
        completed := (execution settings limit is core' debugger').completed + 1 } := by
  rw [execution, if_neg hleft, h]

end Execution

/-- How a block of instructions comes out that is stopped: it stands at the instruction that was,
those before it have run and have their full effect, and it has no effect on data itself. What
follows it makes no difference. -/
structure Stopped (settings : Settings) (limit addr : UInt64) (is : List Instr) (core : Core)
    (debugger : Option δ) (after : Aftermath δ) : Prop where
  completed_lt : after.completed < is.length
  pc_eq : after.core.regs.pc = (behind addr after.completed).toUInt32
  before : ∃ core' debugger',
    execution settings limit (is.take after.completed) core debugger =
      ⟨after.completed, none, core', debugger'⟩ ∧ after.core.data = core'.data
  take_eq : execution settings limit (is.take (after.completed + 1)) core debugger = after

theorem execution_stopped {settings : Settings} {limit addr : UInt64} {is : List Instr}
    {core : Core} {debugger : Option δ} {e : Exception}
    (hnext : ∀ i ∈ is.dropLast, i.outcome = .next) (hpc : core.regs.nextPc = addr.toUInt32)
    (h : (execution settings limit is core debugger).raised = some e) :
    Stopped settings limit addr is core debugger (execution settings limit is core debugger) := by
  induction is generalizing addr core debugger with
  | nil => simp [execution] at h
  | cons i is ih =>
      by_cases hleft : settings.preciseLimit = true ∧ limit ≤ core.regs.icount
      · simp [execution_of_exhausted hleft] at h
      · rcases hperform : i.perform settings core debugger with ⟨_ | e', core', debugger'⟩
        · rw [execution_of_completed hleft hperform] at h ⊢
          obtain ⟨hi, hrest⟩ := outcome_cons hnext
          have hne : is ≠ [] := by
            rintro rfl
            simp [execution] at h
          have hpc' := Instr.nextPc_perform (hi hne) hpc hperform
          obtain ⟨hlt, hstands, ⟨core₁, debugger₁, hbefore, hdata⟩, htake⟩ := ih hrest hpc' h
          refine ⟨Nat.succ_lt_succ hlt, ?_, ⟨core₁, debugger₁, ?_, hdata⟩, ?_⟩
          · rw [behind_succ]
            exact hstands
          · rw [List.take_succ_cons, execution_of_completed hleft hperform, hbefore]
          · rw [List.take_succ_cons, execution_of_completed hleft hperform, htake]
        · obtain ⟨hpc', hdata⟩ := Instr.perform_of_raised hperform
          rw [execution_of_raised hleft hperform]
          refine ⟨Nat.succ_pos _, ?_, ⟨core, debugger, ?_, hdata⟩, ?_⟩
          · rw [hpc', hpc, behind_zero]
          · rfl
          · exact execution_of_raised hleft hperform

/-! ## The code of a unit -/

omit [Debugger δ] in
theorem exhausted_iff {settings : Settings} (hlayout : settings.layout = layout)
    (m : Machine Core δ) :
    settings.Exhausted m ↔
      (settings.preciseLimit = true ∧ m.context.icountLimit ≤ m.core.regs.icount) := by
  rw [Settings.Exhausted, hlayout, loadSlot_eq _ layout.icount_mem]
  rfl

/-- The code of a block of instructions does what the instructions do. -/
theorem sequence_execution {settings : Settings} (hlayout : settings.layout = layout)
    (ordinal : Nat) {addr : UInt64} {is : List Instr}
    (hregs : ∀ i ∈ is, i.rd.toNat < 8 ∧ i.rs.toNat < 8)
    (hnext : ∀ i ∈ is.dropLast, i.outcome = .next) {m : Machine Core δ}
    (hpc : is ≠ [] → m.core.regs.nextPc = addr.toUInt32) (hm : m.context.exception = none) :
    ∃ after m', execution settings m.context.icountLimit is m.core m.context.debugger = after ∧
      (Draft.sequence settings ordinal (fragments addr is)).exec m =
        (.error (if after.raised.isSome then .trap else .leave), m') ∧
      m'.core = after.core ∧ m'.context.exception = after.raised ∧
      m'.context.debugger = after.debugger := by
  induction is generalizing addr ordinal m with
  | nil => exact ⟨_, m, rfl, rfl, rfl, hm, rfl⟩
  | cons i is ih =>
      obtain ⟨⟨hrd, hrs⟩, hregs⟩ := List.forall_mem_cons.mp hregs
      rw [fragments, Draft.sequence_cons]
      by_cases hexhausted : settings.Exhausted m
      · rw [Body.exec_bind_error (Settings.budgetCheck_exec_of_exhausted hexhausted),
          execution_of_exhausted ((exhausted_iff hlayout m).mp hexhausted)]
        exact ⟨_, m, rfl, rfl, rfl, hm, rfl⟩
      · rw [Body.exec_bind_ok (Settings.budgetCheck_exec_of_not_exhausted hexhausted)]
        have hleft := mt (exhausted_iff hlayout m).mpr hexhausted
        have hyields := yields_instruction hlayout ordinal hrd hrs (hpc (by simp)) hm
        have hlimit := Body.exec_icountLimit
          (settings.instruction ordinal ⟨addr, i.outcome, true, i.body addr⟩) m
        rcases hperform : i.perform settings m.core m.context.debugger with ⟨raised, core, debugger⟩
        rw [hperform] at hyields
        cases hinstr : (settings.instruction ordinal
            ⟨addr, i.outcome, true, i.body addr⟩).exec m with
        | mk ending m₁ =>
            rw [hinstr] at hyields hlimit
            obtain ⟨⟨rfl, hcore, hexception⟩, hdebugger⟩ := hyields
            simp only at hcore hexception hdebugger
            subst hcore hdebugger
            cases raised with
            | some e =>
                rw [Body.exec_bind_error hinstr, execution_of_raised hleft hperform]
                exact ⟨_, m₁, rfl, rfl, rfl, hexception, rfl⟩
            | none =>
                rw [Body.exec_bind_ok hinstr, execution_of_completed hleft hperform]
                obtain ⟨hi, hrest⟩ := outcome_cons hnext
                have hpc' : is ≠ [] → m₁.core.regs.nextPc = (addr + 4).toUInt32 :=
                  fun hne => Instr.nextPc_perform (hi hne) (hpc (by simp)) hperform
                obtain ⟨after, m', hafter, hsequence, hcore, hraised, hdebugger⟩ :=
                  ih (ordinal + 1) hregs hrest hpc' hexception
                rw [hlimit] at hafter
                rw [hafter]
                exact ⟨_, m', rfl, hsequence, hcore, hraised, hdebugger⟩

theorem address_fragments (addr : UInt64) (is : List Instr) :
    (fragments addr is).map (·.address) = (List.range is.length).map (behind addr) := by
  induction is generalizing addr with
  | nil => rfl
  | cons i is ih =>
      rw [fragments, List.map_cons, ih, List.length_cons, List.range_succ_eq_map, List.map_cons,
        behind_zero, List.map_map]
      congr 1
      exact List.map_congr_left fun n _ => (behind_succ addr n).symm

theorem Core.Holds.fetch {core : Core} {addr : UInt64} {is : List Instr}
    (h : core.Holds addr is) :
    (fragments addr is).map (fun fragment => core.fetch (.fetch fragment.address)) =
      is.map .ok := by
  induction is generalizing addr with
  | nil => rfl
  | cons i is ih =>
      rw [fragments, List.map_cons, List.map_cons, ih h.2]
      exact congrArg (· :: _) h.1

theorem Core.Holds.registers {core : Core} {addr : UInt64} {is : List Instr}
    (h : core.Holds addr is) : ∀ i ∈ is, i.rd.toNat < 8 ∧ i.rs.toNat < 8 := by
  induction is generalizing addr with
  | nil => simp
  | cons i is ih =>
      obtain ⟨word, -, hdecode⟩ := Core.fetch_eq_ok h.1
      exact List.forall_mem_cons.mpr ⟨Instr.registers_of_decode? hdecode, ih h.2⟩

/-- A unit does what the instructions do that memory held when it was built, on whatever core it is
called. If it is left as planned, it gives the address of the next instruction, else that of the
instruction that was stopped. -/
theorem code_run_eq_execution {settings : Settings} (hlayout : settings.layout = layout)
    {start : VirtAddr} {s : Codegen × Machine Core δ} {draft : Draft}
    (h : (Draft.build settings start s).1 = .ok draft) :
    ∃ is, draft.boundaries = (List.range is.length).map (behind start.val) ∧
      draft.boundaries.map (fun addr => s.2.core.fetch (.fetch addr)) = is.map .ok ∧
      ∀ m : Machine Core δ, m.core.regs.nextPc = start.val.toUInt32 →
        m.context.exception = none →
        ∃ after value m',
          execution settings m.context.icountLimit is m.core m.context.debugger = after ∧
          draft.code.run m = (value, m') ∧ m'.core = after.core ∧
          m'.context.exception = after.raised ∧ m'.context.debugger = after.debugger ∧
          (after.raised = none → value = after.core.regs.nextPc.toUInt64) ∧
          (after.raised.isSome = true →
            value = (behind start.val after.completed).toUInt32.toUInt64 ∧
            Stopped settings m.context.icountLimit start.val is m.core m.context.debugger
              after) := by
  obtain ⟨is, hfragments, hholds, hnext⟩ := build_eq_block h
  have hmade := Draft.build_made (Prod.ext h rfl)
  refine ⟨is, ?_, ?_, fun m hpc hm => ?_⟩
  · rw [Draft.boundaries, hfragments, address_fragments]
  · rw [Draft.boundaries, hfragments, List.map_map]
    exact hholds.fetch
  · obtain ⟨after, m', hafter, hsequence, hcore, hexception, hdebugger⟩ :=
      sequence_execution hlayout 0 hholds.registers hnext (fun _ => hpc) hm
    rw [← hfragments, ← hmade.settings_eq] at hsequence
    have hrun := Draft.code_run hmade.linked hsequence
    cases hraised : after.raised with
    | none =>
        rw [hraised, Option.isSome_none, if_neg Bool.false_ne_true,
          exit_leave_run hlayout hmade] at hrun
        refine ⟨after, _, _, hafter, hrun, hcore, hexception, hdebugger, ?_, by simp [hraised]⟩
        intro _
        rw [hcore]
    | some e =>
        rw [hraised, Option.isSome_some, if_pos rfl, exit_trap_run hmade] at hrun
        have hstopped := execution_stopped hnext hpc ((congrArg _ hafter).trans hraised)
        rw [hafter] at hstopped
        refine ⟨after, _, _, hafter, hrun, hcore, hexception, hdebugger, by simp [hraised], ?_⟩
        intro _
        rw [hcore, hstopped.pc_eq]
        exact ⟨rfl, hstopped⟩

def faulting : List Instr := [⟨.li, 1, 0, 5⟩, ⟨.ld, 2, 0, 0⟩, ⟨.li, 3, 0, 1⟩]

def Core.machine (core : Core) : Machine Core (List Breakpoint) :=
  { core, journal := ⟨.nothing, #[]⟩ }

/-- A unit that is called when the memory is gone that it was built from. -/
theorem code_run_eq_execution_fault :
    ∃ draft value m', (Draft.build (.plain layout 8) (.fetch 0x1000)
        ((⟨⟩ : Codegen), (Core.loaded 0x1000 faulting).machine)).1 = .ok draft ∧
      draft.code.run (Core.loaded 0x1000 []).machine = (value, m') ∧ value = 0x1004 ∧
      m'.context.exception = some (.accessTrap Cause.loadFault 0) ∧
      m'.core.regs.gpr = #v[0, 5, 0, 0, 0, 0, 0, 0] ∧ m'.core.regs.icount = 2 := by
  obtain ⟨draft, hdraft, hat⟩ : ∃ draft, (Draft.build (.plain layout 8) (.fetch 0x1000)
      ((⟨⟩ : Codegen), (Core.loaded 0x1000 faulting).machine)).1 = .ok draft ∧
        draft.boundaries = [0x1000, 0x1004, 0x1008] := ⟨_, rfl, rfl⟩
  obtain ⟨is, -, his, hrun⟩ := code_run_eq_execution rfl hdraft
  have hfetched : [0x1000, 0x1004, 0x1008].map (fun addr =>
      (Core.loaded 0x1000 faulting).fetch (.fetch addr)) = faulting.map .ok := rfl
  obtain rfl : faulting = is := by
    rw [hat] at his
    exact (List.map_inj_right fun _ _ => Except.ok.inj).mp (hfetched.symm.trans his)
  obtain ⟨after, value, m', rfl, hcode, hcore, hexception, -, -, hstopped⟩ :=
    hrun (Core.loaded 0x1000 []).machine rfl rfl
  refine ⟨draft, value, m', hdraft, hcode, (hstopped rfl).1, hexception, ?_, ?_⟩
  · rw [hcore]
    rfl
  · rw [hcore]
    rfl

end GuestSim.Mini

import GuestSim.Proofs.Mini.Footprint

/-! # Units as blocks of instructions

A unit holds the instructions that memory held, one after the other, when it was built. All but
the last of them go on with the next one in sequence. -/

namespace GuestSim.Mini

/-! ## Addresses -/

namespace Core

/-- Memory has the four bytes of an instruction at the address. -/
def Mapped (core : Core) (addr : UInt64) : Prop := (core.ramOffset? addr 4).isSome = true

instance (core : Core) (addr : UInt64) : Decidable (core.Mapped addr) :=
  inferInstanceAs (Decidable (_ = true))

theorem mapped_iff_of_frame {core core' : Core} (h : core.frame = core'.frame) (addr : UInt64) :
    core.Mapped addr ↔ core'.Mapped addr := by
  simp only [frame, Prod.mk.injEq] at h
  simp only [Mapped, ramOffset?, h.1, h.2.1]

theorem resolve_of_mapped {core : Core} {addr : UInt64} (h : core.Mapped addr) :
    core.resolve (.fetch addr) = .ok (.identity (.fetch addr)) := by
  rw [resolve, if_neg]
  rintro ⟨-, hnone⟩
  rw [Mapped, Option.isSome_iff_ne_none] at h
  exact h (Option.isNone_iff_eq_none.mp hnone)

theorem val_of_resolve {core : Core} {addr : UInt64} {phys : PhysAddr}
    (h : core.resolve (.fetch addr) = .ok phys) : phys.val = addr := by
  unfold resolve at h
  split at h
  · simp at h
  · rw [← Except.ok.inj h]
    rfl

theorem resolve_of_not_mapped {core : Core} {addr : UInt64} (h : ¬ core.Mapped addr) :
    core.resolve (.fetch addr) = .error (.accessTrap Cause.fetchFault addr) := by
  rw [Mapped, Bool.not_eq_true, Option.isSome_eq_false_iff] at h
  rw [resolve, if_pos ⟨rfl, h⟩]
  rfl

theorem fetch_of_not_mapped {core : Core} {addr : UInt64} (h : ¬ core.Mapped addr) :
    core.fetch (.fetch addr) = .error (.accessTrap Cause.fetchFault addr) := by
  rw [Mapped, Bool.not_eq_true, Option.isSome_eq_false_iff, Option.isNone_iff_eq_none] at h
  simp only [fetch, readMem, VirtAddr.fetch, h]
  rfl

theorem fetch_of_mapped {core : Core} {addr : UInt64} (h : core.Mapped addr) {e : Exception}
    (hfetch : core.fetch (.fetch addr) = .error e) : e = .undecodable addr := by
  rw [Mapped, Option.isSome_iff_exists] at h
  obtain ⟨start, hstart⟩ := h
  simp only [fetch, readMem, VirtAddr.fetch, hstart, bind, Except.bind] at hfetch
  split at hfetch
  · simp at hfetch
  · simpa using hfetch.symm

theorem mapped_of_fetch {core : Core} {addr : UInt64} {i : Instr}
    (h : core.fetch (.fetch addr) = .ok i) : core.Mapped addr := by
  by_cases hmapped : core.Mapped addr
  · exact hmapped
  · rw [fetch_of_not_mapped hmapped] at h
    simp at h

end Core

/-! ## Growth -/

def fragments : UInt64 → List Instr → List Fragment
  | _, [] => []
  | addr, i :: is => ⟨addr, i.outcome, true, i.body addr⟩ :: fragments (addr + 4) is

/-- Memory holds the instructions one after the other. -/
def Core.Holds (core : Core) : UInt64 → List Instr → Prop
  | _, [] => True
  | addr, i :: is => core.fetch (.fetch addr) = .ok i ∧ core.Holds (addr + 4) is

def behind (addr : UInt64) (n : Nat) : UInt64 := addr + 4 * UInt64.ofNat n

@[simp] theorem behind_zero (addr : UInt64) : behind addr 0 = addr := by
  simp [behind]

theorem behind_succ (addr : UInt64) (n : Nat) : behind addr (n + 1) = behind (addr + 4) n := by
  rw [behind, behind, UInt64.ofNat_add, UInt64.mul_add, UInt64.add_comm (4 * UInt64.ofNat n),
    UInt64.add_assoc]
  rfl

/-- If all instructions but the last go on with the next one, so do all but the last that follow the
first. -/
theorem outcome_cons {i : Instr} {is : List Instr}
    (h : ∀ j ∈ (i :: is).dropLast, j.outcome = .next) :
    (is ≠ [] → i.outcome = .next) ∧ ∀ j ∈ is.dropLast, j.outcome = .next := by
  cases is with
  | nil => exact ⟨fun hne => absurd rfl hne, by simp⟩
  | cons j js =>
      rw [List.dropLast_cons_cons] at h
      obtain ⟨hi, hrest⟩ := List.forall_mem_cons.mp h
      exact ⟨fun _ => hi, hrest⟩

variable {δ : Type}

/-- A call looks at the word at the address, and leaves the core alone. -/
theorem generate_cases {pc : VirtAddr} {ordinal : Nat} {s s' : Codegen × Machine Core δ}
    {result : Except Failure Step} (h : Draft.generate pc ordinal s = (result, s')) :
    s'.2.core = s.2.core ∧
      ((∃ x, s.2.core.fetch (.fetch pc.val) = .error x ∧
          result = .error { cause := .raised x }) ∨
        ∃ i, s.2.core.fetch (.fetch pc.val) = .ok i ∧
          result = .ok ⟨i.outcome, true, i.body pc.val, pc.offset 4⟩) := by
  obtain ⟨emitter, m⟩ := s
  simp only [Draft.generate, Prod.mk.injEq] at h
  obtain ⟨hresult, rfl⟩ := h
  refine ⟨congrArg Prod.snd (generate_state pc (UInt32.ofNat ordinal) (emitter, m.core)), ?_⟩
  change (Emitter.generate pc (UInt32.ofNat ordinal) (emitter, m.core)).1 = result at hresult
  have hval : m.core.fetch pc = m.core.fetch (.fetch pc.val) := rfl
  simp only [Emitter.generate, hval] at hresult
  cases hfetch : m.core.fetch (.fetch pc.val) with
  | error x => exact .inl ⟨x, rfl, by simpa [hfetch] using hresult.symm⟩
  | ok i => exact .inr ⟨i, rfl, by simpa [hfetch] using hresult.symm⟩

/-- Calls that succeed find a block of instructions that memory holds. -/
theorem block_of_generates {ordinal : Nat} {pc pc' : VirtAddr} {s s' : Codegen × Machine Core δ}
    {emissions : List Emission} (h : Draft.Generates ordinal pc s emissions pc' s') :
    ∃ is, emissions.map (·.fragment) = fragments pc.val is ∧ s.2.core.Holds pc.val is ∧
      emissions.map (·.step.outcome) = is.map Instr.outcome ∧
      pc'.val = behind pc.val is.length ∧ s'.2.core = s.2.core := by
  induction h with
  | nil => exact ⟨[], rfl, trivial, rfl, (behind_zero _).symm, rfl⟩
  | cons hstep _ ih =>
      obtain ⟨hcore, ⟨x, -, hfailed⟩ | ⟨i, hfetch, hok⟩⟩ := generate_cases hstep
      · simp at hfailed
      · cases hok
        obtain ⟨is, hfragments, hholds, houtcomes, hbehind, hcore'⟩ := ih
        rw [hcore] at hholds hcore'
        refine ⟨i :: is, ?_, ⟨hfetch, hholds⟩, congrArg (_ :: ·) houtcomes, ?_, hcore'⟩
        · exact congrArg (_ :: ·) hfragments
        · rw [hbehind, List.length_cons, behind_succ]
          rfl

/-- A unit is a block of instructions that memory held when it was built. -/
theorem build_eq_block {settings : Settings} {start : VirtAddr} {s : Codegen × Machine Core δ}
    {draft : Draft} (h : (Draft.build settings start s).1 = .ok draft) :
    ∃ is, draft.fragments = fragments start.val is ∧ s.2.core.Holds start.val is ∧
      ∀ i ∈ is.dropLast, i.outcome = .next := by
  obtain ⟨s', hbuild⟩ : ∃ s', Draft.build settings start s = (.ok draft, s') :=
    ⟨_, Prod.ext h rfl⟩
  obtain ⟨emissions, pc, s₁, hgenerates, hbuilt⟩ := Draft.build_cases hbuild
  obtain ⟨is, hfragments, hholds, houtcomes, -, -⟩ := block_of_generates hgenerates
  cases hbuilt with
  | made _ hsketch _ _ hcontinues _ =>
      refine ⟨is, hsketch.trans hfragments, hholds, fun i hi => ?_⟩
      have hmem : i.outcome ∈ emissions.dropLast.map (·.step.outcome) := by
        rw [List.map_dropLast, houtcomes, ← List.map_dropLast]
        exact List.mem_map_of_mem hi
      obtain ⟨x, hx, houtcome⟩ := List.mem_map.mp hmem
      exact houtcome.symm.trans (hcontinues x hx).2

/-- A unit cannot be built where a block of instructions that all go on meets one that cannot be
fetched. -/
theorem build_eq_error {settings : Settings} {start : VirtAddr} {s : Codegen × Machine Core δ}
    {e : EmitError} (h : (Draft.build settings start s).1 = .error e) :
    ∃ is x, e = .raised x ∧ s.2.core.Holds start.val is ∧ is.length < settings.capacity ∧
      (∀ i ∈ is, i.outcome = .next) ∧
      s.2.core.fetch (.fetch (behind start.val is.length)) = .error x ∧
      (behind start.val is.length = start.val ∨ x.isAccessTrap = false) := by
  obtain ⟨emissions, pc, s₁, hgenerates, hbuilt⟩ := Draft.build_cases (Prod.ext h rfl)
  obtain ⟨is, -, hholds, houtcomes, hpc, hcore⟩ := block_of_generates hgenerates
  have hlength : emissions.length = is.length := by simpa using congrArg List.length houtcomes
  cases hbuilt with
  | failed hroom hcontinues hfailed hcause =>
      obtain ⟨-, ⟨x, hfetch, hx⟩ | ⟨i, -, hok⟩⟩ := generate_cases hfailed
      · cases hx
        rw [hpc] at hfetch hcause
        rw [hcore] at hfetch
        refine ⟨is, x, rfl, hholds, hlength ▸ hroom, fun i hi => ?_, hfetch, hcause⟩
        have hmem : i.outcome ∈ emissions.map (·.step.outcome) :=
          houtcomes ▸ List.mem_map_of_mem hi
        obtain ⟨x, hx, houtcome⟩ := List.mem_map.mp hmem
        exact houtcome.symm.trans (hcontinues x hx).2
      · simp at hok

/-! ## The search for a unit -/

variable {sim sim' : Simulator Core Codegen δ} {pc : UInt64}

theorem resolve_machine (m : Machine Core δ) (addr : VirtAddr) :
    m.resolve addr = (m.core.resolve addr, m) := rfl

theorem unitFor_frame (sim : Simulator Core Codegen δ) (pc : UInt64) :
    (sim.unitFor pc).2.machine.core = sim.machine.core ∧
      (sim.unitFor pc).2.machine.context = sim.machine.context :=
  (Simulator.unitFor_keeps
    (I := fun m => m.core = sim.machine.core ∧ m.context = sim.machine.context)
    (fun _ _ hm => hm)
    (fun pc ordinal s hs => by
      refine ⟨?_, hs.2⟩
      change (Emitter.generate pc (UInt32.ofNat ordinal) (s.1, s.2.core)).2.2 = sim.machine.core
      rw [generate_state]
      exact hs.1)
    pc ⟨rfl, rfl⟩).2

theorem find_frame {result : Except UnitFailure CodeUnit} (h : sim.find pc = (result, sim')) :
    sim'.machine.core = sim.machine.core ∧ sim'.machine.context = sim.machine.context := by
  have hframe : (sim.find pc).2.machine.core = sim.machine.core ∧
      (sim.find pc).2.machine.context = sim.machine.context :=
    Simulator.find_snd (P := fun sim' => sim'.machine.core = sim.machine.core ∧
      sim'.machine.context = sim.machine.context) pc ⟨rfl, rfl⟩ fun purged hpurge => by
        rw [← Simulator.purge_machine hpurge]
        exact unitFor_frame purged pc
  rwa [h] at hframe

theorem unitFor_of_not_mapped (h : ¬ sim.machine.core.Mapped pc) :
    sim.unitFor pc = (.error (.emit (.raised (.accessTrap Cause.fetchFault pc))), sim) :=
  Simulator.unitFor_of_unmapped (by rw [resolve_machine, Core.resolve_of_not_mapped h])

omit sim sim' pc in
/-- The exits of a unit have the type that the compiler expects. -/
theorem isWellTyped_of_made {settings : Settings} {draft : Draft}
    (h : draft.Made Codegen settings) : draft.isWellTyped = true := by
  obtain ⟨hleave, htrap⟩ := exits_of_made h
  rw [Draft.isWellTyped, hleave, htrap]
  rfl

/-- With memory at `pc`, all that can go wrong is that the compiler rejects the unit, which it has no
reason to do, and that a word further on is no instruction. -/
theorem unitFor_eq_error {e : BuildError} (hmapped : sim.machine.core.Mapped pc)
    (h : sim.unitFor pc = (.error e, sim')) :
    (e = .rejected pc ∧ ¬ sim.cache.compiler.Reliable) ∨
      ∃ is, e = .emit (.raised (.undecodable (behind pc is.length))) ∧
        sim.machine.core.Holds pc is ∧ is.length < sim.settings.capacity ∧
        (∀ i ∈ is, i.outcome = .next) ∧
        sim.machine.core.fetch (.fetch (behind pc is.length)) =
          .error (.undecodable (behind pc is.length)) := by
  have hresolve : sim.machine.resolve (.fetch pc) = (.ok (.identity (.fetch pc)), sim.machine) := by
    rw [resolve_machine, Core.resolve_of_mapped hmapped]
  cases hbuild : sim.cache.getOrBuild ⟨sim.cluster, pc⟩ (Draft.build sim.settings (.fetch pc))
      (sim.emitter, sim.machine) with
  | mk result rest =>
      rw [Simulator.unitFor_of_mapped hresolve hbuild, Prod.mk.injEq] at h
      obtain ⟨rfl, -⟩ := h
      rcases (Cache.getOrBuild_eq_error hbuild).2 with
        ⟨e', rfl, hfailed⟩ | ⟨rfl, draft, hmade, hrejected⟩
      · right
        obtain ⟨is, x, rfl, hholds, hlength, houtcome, hfetch, hstart⟩ := build_eq_error hfailed
        change sim.machine.core.fetch (.fetch (behind pc is.length)) = _ at hfetch
        change behind pc is.length = pc ∨ _ at hstart
        have hx : x = .undecodable (behind pc is.length) := by
          apply Core.fetch_of_mapped _ hfetch
          rcases hstart with hstart | hstart
          · rwa [hstart]
          · by_cases hthere : sim.machine.core.Mapped (behind pc is.length)
            · exact hthere
            · rw [Core.fetch_of_not_mapped hthere, Except.error.injEq] at hfetch
              rw [← hfetch] at hstart
              simp [Exception.isAccessTrap] at hstart
        rw [hx] at hfetch
        exact ⟨is, by rw [hx], hholds, hlength, houtcome, hfetch⟩
      · refine .inl ⟨rfl, fun hreliable => hrejected (hreliable.accepts _ _ ?_)⟩
        exact isWellTyped_of_made (Draft.build_made (Prod.ext hmade rfl))

/-! ## Turns -/

variable [Debugger δ]

/-- A fetch fault enters its handler and does nothing else. -/
theorem turn_of_not_mapped {purged : Simulator Core Codegen δ} {limit : UInt64}
    (hleft : ¬ limit ≤ sim.instructionCount) (hpurge : sim.purge = .ok purged)
    (h : ¬ sim.machine.core.Mapped pc) :
    sim.turn limit pc = (.next sim.machine.core.trapVector,
      { purged with machine := (sim.machine.enterTrap Cause.fetchFault pc).2 }) := by
  rw [← Simulator.purge_machine hpurge] at h ⊢
  rw [Simulator.turn_of_left hleft,
    Simulator.attempt_of_error (Simulator.find_of_error hpurge (unitFor_of_not_mapped h))]
  rfl

theorem starts_pos {settings : Settings} {unit : CodeUnit} {limit : UInt64} {m : Machine Core δ}
    (hmade : unit.Made Codegen settings) (hlayout : settings.layout = layout)
    (harmed : settings.preciseLimit = true → m.context.icountLimit = limit)
    (hleft : ¬ limit ≤ m.core.regs.icount) (pc : UInt64) :
    0 < (unit.starts (m.enter settings.layout.nextPc.index pc)).length := by
  rw [Draft.starts, hmade.settings_eq]
  cases hfragments : unit.fragments with
  | nil => exact absurd hfragments hmade.nonempty
  | cons fragment rest =>
      rw [Draft.startsFrom_of_not_exhausted]
      · simp
      · rintro ⟨hprecise, hspent⟩
        rw [hlayout, loadSlot_eq _ layout.icount_mem] at hspent
        change m.context.icountLimit ≤ m.core.regs.icount at hspent
        rw [harmed hprecise] at hspent
        exact hleft hspent

end GuestSim.Mini

import GuestSim.Proofs.Ordinary

/-! # Counting instructions

A unit adds to the instruction counter the number of instructions that it starts. The architecture
and the emitter are arbitrary, as long as nothing but the code before an instruction counts. -/

namespace GuestSim

/-- The instruction counter is what its slot holds, and only the code before an instruction
changes it: it adds one, and what else it stores lies elsewhere. -/
structure Counting (C G δ : Type) [Architecture C] [Emitter G C] [Debugger δ]
    (layout : RegLayout) : Prop where
  wide : layout.icount.width = .w64
  reads (core : C) :
    Architecture.instructionCount core = (Architecture.loadSlot core layout.icount).toUInt64
  counter (core : C) (n : Word layout.icount.width) :
    Architecture.instructionCount (Architecture.storeSlot core layout.icount n) = n.toUInt64
  pc (core : C) {w : Width} (v : Word w) :
    Architecture.instructionCount (Architecture.storeSlot core layout.pc v) =
      Architecture.instructionCount core
  trapState (core : C) {w : Width} (v : Word w) :
    Architecture.instructionCount (Architecture.storeSlot core layout.trapState v) =
      Architecture.instructionCount core
  writePc (core : C) (v : UInt64) :
    Architecture.instructionCount (Architecture.writeReg core layout.pc.index v) =
      Architecture.instructionCount core
  writeNextPc (core : C) (v : UInt64) :
    Architecture.instructionCount (Architecture.writeReg core layout.nextPc.index v) =
      Architecture.instructionCount core
  notify (core : C) (phase : Phase) :
    Architecture.instructionCount (Architecture.notify core phase) =
      Architecture.instructionCount core
  resolve (core : C) (addr : VirtAddr) :
    Architecture.instructionCount (Architecture.resolve core addr).2 =
      Architecture.instructionCount core
  enterTrap (core : C) (id : UInt32) (addr : UInt64) :
    Architecture.instructionCount (Architecture.enterTrap core id addr).2 =
      Architecture.instructionCount core
  generate (pc : VirtAddr) (ordinal : UInt32) (emitter : G) (core : C) :
    Architecture.instructionCount (Emitter.generate pc ordinal (emitter, core)).2.2 =
      Architecture.instructionCount core
  body {fragment : Fragment} (h : fragment.Generated G) (m : Machine C δ) :
    ∀ p ∈ fragment.body.points m,
      Architecture.instructionCount p.core = Architecture.instructionCount m.core
  leave (emitter : G) (m : Machine C δ) :
    ∀ p ∈ (Emitter.leave layout emitter).1.code.run.points m,
      Architecture.instructionCount p.core = Architecture.instructionCount m.core
  trap (emitter : G) (m : Machine C δ) :
    ∀ p ∈ (Emitter.trap layout emitter).1.code.run.points m,
      Architecture.instructionCount p.core = Architecture.instructionCount m.core

def Machine.count {C δ : Type} [Architecture C] (m : Machine C δ) : UInt64 :=
  Architecture.instructionCount m.core

/-! ## The instructions of a unit -/

section Unit

variable {C G δ : Type} [Architecture C] [Emitter G C] [Debugger δ] {layout : RegLayout}

theorem Counting.count_succ (h : Counting C G δ layout) (core : C) :
    Architecture.instructionCount (Architecture.storeSlot core layout.icount
      (Architecture.loadSlot core layout.icount + 1)) = Architecture.instructionCount core + 1 := by
  rw [h.counter, h.reads, Word.toUInt64_succ h.wide]

theorem Counting.count_started (h : Counting C G δ layout) {settings : Settings}
    (hlayout : settings.layout = layout) (core : C) :
    Architecture.instructionCount (settings.started core) =
      Architecture.instructionCount core + 1 := by
  rw [Settings.started, hlayout, h.trapState, h.pc, h.count_succ]

/-- Before the instruction is counted the counter is as it was, and afterwards one higher. -/
theorem Counting.advance_points (h : Counting C G δ layout) {settings : Settings}
    (hlayout : settings.layout = layout) (m : Machine C δ) :
    ∀ p ∈ settings.advance.points m, p.count = m.count ∨ p.count = m.count + 1 := by
  have hcounted := h.count_succ m.core
  rw [← hlayout] at hcounted
  refine Body.forall_points_loadSlot (.inl rfl) (Body.forall_points_storeSlot (.inl rfl) ?_)
  refine Body.forall_points_loadSlot (.inr hcounted)
    (Body.forall_points_storeSlot (.inr hcounted) ?_)
  have hmoved (v : Word settings.layout.nextPc.width) := h.pc (Architecture.storeSlot m.core
    settings.layout.icount (Architecture.loadSlot m.core settings.layout.icount + 1)) v
  rw [← hlayout] at hmoved
  refine Body.forall_points_loadSlot (.inr ((hmoved _).trans hcounted))
    (Body.forall_points_storeSlot (.inr ((hmoved _).trans hcounted)) ?_)
  intro p hp
  rw [List.mem_singleton.mp hp]
  exact .inr (h.count_started hlayout m.core)

theorem Counting.count_rest (h : Counting C G δ layout) (settings : Settings) (ordinal : Nat)
    {fragment : Fragment} (hfragment : fragment.Generated G) (pc : UInt64) (m : Machine C δ) :
    ∀ p ∈ (settings.rest ordinal fragment pc).points m, p.count = m.count :=
  settings.rest_keeps h.notify ordinal (h.body hfragment) pc m

/-- An instruction counts exactly once. -/
theorem Counting.count_instruction (h : Counting C G δ layout) {settings : Settings}
    (hlayout : settings.layout = layout) (ordinal : Nat) {fragment : Fragment}
    (hfragment : fragment.Generated G) (m : Machine C δ) :
    ((settings.instruction ordinal fragment).exec m).2.count = m.count + 1 := by
  rw [settings.instruction_exec,
    h.count_rest settings ordinal hfragment _ _ _ (Body.end_mem_points _ _)]
  exact h.count_started hlayout m.core

theorem Counting.instruction_points (h : Counting C G δ layout) {settings : Settings}
    (hlayout : settings.layout = layout) (ordinal : Nat) {fragment : Fragment}
    (hfragment : fragment.Generated G) (m : Machine C δ) :
    ∀ p ∈ (settings.instruction ordinal fragment).points m,
      p.count = m.count ∨ p.count = m.count + 1 := by
  refine Body.forall_points_bind (h.advance_points hlayout m) fun pc m' hexec p hp => ?_
  rw [settings.advance_exec, Prod.mk.injEq] at hexec
  obtain ⟨-, rfl⟩ := hexec
  right
  rw [h.count_rest settings ordinal hfragment pc _ p hp]
  exact h.count_started hlayout m.core

theorem toNat_succ_of_lt {n limit : UInt64} (h : n.toNat < limit.toNat) :
    (n + 1).toNat = n.toNat + 1 := by
  have hlimit := limit.toNat_lt
  rw [UInt64.toNat_add, UInt64.toNat_one, Nat.mod_eq_of_lt (by omega)]

theorem Counting.count_lt (h : Counting C G δ layout) {settings : Settings}
    (hlayout : settings.layout = layout) (hprecise : settings.preciseLimit = true)
    {m : Machine C δ} (hleft : ¬ settings.Exhausted m) :
    m.count.toNat < m.context.icountLimit.toNat := by
  rw [Machine.count, h.reads, ← hlayout, ← UInt64.lt_iff_toNat_lt]
  exact UInt64.not_le.mp fun hle => hleft ⟨hprecise, hle⟩

theorem Counting.count_sequence (h : Counting C G δ layout) {settings : Settings}
    (hlayout : settings.layout = layout) (ordinal : Nat) {fragments : List Fragment}
    (hfragments : ∀ fragment ∈ fragments, fragment.Generated G) (m : Machine C δ) :
    ((Draft.sequence settings ordinal fragments).exec m).2.count =
      m.count + UInt64.ofNat (Draft.startsFrom settings ordinal fragments m).length := by
  induction fragments generalizing ordinal m with
  | nil => simp [Draft.sequence, Draft.startsFrom]
  | cons fragment rest ih =>
      obtain ⟨hfragment, hrest⟩ := List.forall_mem_cons.mp hfragments
      rw [Draft.sequence_cons]
      by_cases hspent : settings.Exhausted m
      · rw [Body.exec_bind_error (Settings.budgetCheck_exec_of_exhausted hspent),
          Draft.startsFrom_of_exhausted hspent]
        simp
      · rw [Body.exec_bind_ok (Settings.budgetCheck_exec_of_not_exhausted hspent),
          Draft.startsFrom_of_not_exhausted hspent]
        have hcount := h.count_instruction hlayout ordinal hfragment m
        cases hinstr : (settings.instruction ordinal fragment).exec m with
        | mk result m' =>
            rw [hinstr] at hcount
            cases result with
            | error d =>
                rw [Body.exec_bind_error hinstr]
                simpa using hcount
            | ok _ =>
                rw [Body.exec_bind_ok hinstr, ih (ordinal + 1) hrest m', hcount,
                  List.length_cons, UInt64.ofNat_add, UInt64.add_assoc]
                rw [UInt64.add_comm 1]
                rfl

/-- Under a precise limit a unit starts no more instructions than the budget has left. -/
theorem Counting.starts_le (h : Counting C G δ layout) {settings : Settings}
    (hlayout : settings.layout = layout) (hprecise : settings.preciseLimit = true)
    (ordinal : Nat) {fragments : List Fragment}
    (hfragments : ∀ fragment ∈ fragments, fragment.Generated G) {m : Machine C δ}
    (hm : m.count ≤ m.context.icountLimit) :
    m.count.toNat + (Draft.startsFrom settings ordinal fragments m).length ≤
      m.context.icountLimit.toNat := by
  induction fragments generalizing ordinal m with
  | nil => simpa [Draft.startsFrom] using UInt64.le_iff_toNat_le.mp hm
  | cons fragment rest ih =>
      obtain ⟨hfragment, hrest⟩ := List.forall_mem_cons.mp hfragments
      by_cases hspent : settings.Exhausted m
      · simpa [Draft.startsFrom_of_exhausted hspent] using UInt64.le_iff_toNat_le.mp hm
      · have hleft := h.count_lt hlayout hprecise hspent
        have hcount := h.count_instruction hlayout ordinal hfragment m
        have hlimit := (settings.instruction ordinal fragment).exec_icountLimit m
        rw [Draft.startsFrom_of_not_exhausted hspent, List.length_cons]
        cases hinstr : (settings.instruction ordinal fragment).exec m with
        | mk result m' =>
            rw [hinstr] at hcount hlimit
            cases result with
            | error d =>
                simp only [List.length_nil]
                omega
            | ok _ =>
                have hsucc : m'.count.toNat = m.count.toNat + 1 := by
                  rw [hcount]
                  exact toNat_succ_of_lt hleft
                have hm' : m'.count ≤ m'.context.icountLimit := by
                  rw [UInt64.le_iff_toNat_le, hlimit, hsucc]
                  exact hleft
                have hrec := ih (ordinal + 1) hrest hm'
                rw [hsucc, hlimit] at hrec
                simp only
                omega

/-- Under a precise limit the counter does not pass the limit inside of a unit. -/
theorem Counting.sequence_points_le (h : Counting C G δ layout) {settings : Settings}
    (hlayout : settings.layout = layout) (hprecise : settings.preciseLimit = true)
    (ordinal : Nat) {fragments : List Fragment}
    (hfragments : ∀ fragment ∈ fragments, fragment.Generated G) {m : Machine C δ}
    (hm : m.count ≤ m.context.icountLimit) :
    ∀ p ∈ (Draft.sequence settings ordinal fragments).points m,
      p.count ≤ m.context.icountLimit := by
  induction fragments generalizing ordinal m with
  | nil =>
      intro p hp
      rw [List.mem_singleton.mp hp]
      exact hm
  | cons fragment rest ih =>
      obtain ⟨hfragment, hrest⟩ := List.forall_mem_cons.mp hfragments
      rw [Draft.sequence_cons]
      apply Body.forall_points_bind
      · intro p hp
        have hcheck : p.count = m.count := settings.budgetCheck_keeps m p hp
        rwa [hcheck]
      · intro _ m₁ hcheck
        by_cases hspent : settings.Exhausted m
        · simp [Settings.budgetCheck_exec_of_exhausted hspent] at hcheck
        rw [Settings.budgetCheck_exec_of_not_exhausted hspent, Prod.mk.injEq] at hcheck
        obtain ⟨-, rfl⟩ := hcheck
        have hleft := h.count_lt hlayout hprecise hspent
        have hsucc : m.count + 1 ≤ m.context.icountLimit := by
          rw [UInt64.le_iff_toNat_le, toNat_succ_of_lt hleft]
          exact hleft
        apply Body.forall_points_bind
        · intro p hp
          rcases h.instruction_points hlayout ordinal hfragment m p hp with hp | hp
          · rw [hp]; exact hm
          · rw [hp]; exact hsucc
        · intro _ m' hinstr p hp
          have hcount := h.count_instruction hlayout ordinal hfragment m
          have hlimit := (settings.instruction ordinal fragment).exec_icountLimit m
          rw [hinstr] at hcount hlimit
          have hm' : m'.count ≤ m'.context.icountLimit := by
            rw [hcount, hlimit]
            exact hsucc
          have hrec := ih (ordinal + 1) hrest hm' p hp
          rwa [hlimit] at hrec

theorem Draft.mem_points_code {draft : Draft} (hlinked : draft.Linked) {m m' p : Machine C δ}
    {d : Departure}
    (h : (sequence draft.settings 0 draft.fragments).exec m = (.error d, m')) :
    p ∈ draft.code.points m ↔
      p ∈ (sequence draft.settings 0 draft.fragments).points m ∨ p ∈ (draft.exit d).points m' := by
  have h' : (ExceptT.run (sequence draft.settings 0 draft.fragments)).run m = (.error d, m') := h
  rw [code, hlinked, Code.mem_points_bind, h']
  rfl

theorem Counting.exit_points (h : Counting C G δ layout) {settings : Settings} {draft : Draft}
    (hlayout : settings.layout = layout) (hmade : draft.Made G settings) (d : Departure)
    (m : Machine C δ) : ∀ p ∈ (draft.exit d).points m, p.count = m.count := by
  obtain ⟨emitter, hleave⟩ := hmade.leave_eq
  obtain ⟨emitter', htrap⟩ := hmade.trap_eq
  rw [hlayout] at hleave htrap
  refine Draft.forall_points_exit (I := fun p => p.count = m.count) ?_ ?_ d rfl
  · intro m' hm' p hp
    rw [hleave] at hp
    exact (h.leave emitter m' p hp).trans hm'
  · intro m' hm' p hp
    rw [htrap] at hp
    exact (h.trap emitter' m' p hp).trans hm'

/-- A unit counts the instructions that it starts. -/
theorem Counting.count_code (h : Counting C G δ layout) {settings : Settings} {draft : Draft}
    (hlayout : settings.layout = layout) (hmade : draft.Made G settings) (m : Machine C δ) :
    (draft.code.run m).2.count = m.count + UInt64.ofNat (draft.starts m).length := by
  obtain ⟨d, m', hexec⟩ := Draft.sequence_departs draft.settings 0 draft.fragments m
  have hcount := h.count_sequence (hmade.settings_eq ▸ hlayout) 0 hmade.generated m
  rw [hexec] at hcount
  rw [Draft.code_run hmade.linked hexec, Draft.starts, ← hcount]
  exact h.exit_points hlayout hmade d m' _ (Code.end_mem_points _ m')

/-- Under a precise limit the counter does not pass the limit at any point of a unit. -/
theorem Counting.code_points_le (h : Counting C G δ layout) {settings : Settings} {draft : Draft}
    (hlayout : settings.layout = layout) (hprecise : settings.preciseLimit = true)
    (hmade : draft.Made G settings) {m : Machine C δ} (hm : m.count ≤ m.context.icountLimit) :
    ∀ p ∈ draft.code.points m, p.count ≤ m.context.icountLimit := by
  obtain ⟨d, m', hexec⟩ := Draft.sequence_departs draft.settings 0 draft.fragments m
  have hsequence := h.sequence_points_le (hmade.settings_eq ▸ hlayout)
    (hmade.settings_eq ▸ hprecise) 0 hmade.generated hm
  intro p hp
  rcases (Draft.mem_points_code hmade.linked hexec).mp hp with hp | hp
  · exact hsequence p hp
  · rw [h.exit_points hlayout hmade d m' p hp]
    have hend := Body.end_mem_points (Draft.sequence draft.settings 0 draft.fragments) m
    rw [hexec] at hend
    exact hsequence m' hend

end Unit

end GuestSim

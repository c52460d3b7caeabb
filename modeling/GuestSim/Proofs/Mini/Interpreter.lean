import GuestSim.Proofs.Mini.Blocks

/-! # Instructions one at a time

An interpreter of the small architecture that fetches, decodes and executes one instruction after
the other from the memory as it is, and knows nothing of units. -/

namespace GuestSim.Mini

/-! ## The effect of an instruction -/

namespace Core

def word? (core : Core) (addr : UInt64) : Option UInt32 :=
  (core.ramOffset? addr 4).map fun start => UInt32.ofNat (Bytes.load core.ram start 4)

def reg (core : Core) (r : UInt8) : UInt32 := core.regs.gpr[r.toNat]?.getD 0

def setReg (core : Core) (r : UInt8) (value : UInt32) : Core :=
  { core with regs.gpr := core.regs.gpr.setIfInBounds r.toNat value }

/-- Goes on at an address other than that of the next instruction in sequence. -/
def goto (core : Core) (pc : UInt32) : Core := { core with regs.nextPc := pc }

def addTo (core : Core) (r : UInt8) (a b : UInt32) : Core :=
  { core with zero := a + b == 0 }.setReg r (a + b)

/-- Counts the instruction at `pc` and makes it the current one. -/
def begun (core : Core) (pc : UInt32) : Core :=
  { core with
    regs.icount := core.regs.icount + 1
    regs.pc := pc
    regs.trapState := core.regs.pendingTrap
    regs.nextPc := pc + 4 }

def loadTo (core : Core) (r : UInt8) (addr : UInt32) (len : Nat) : Option Exception × Core :=
  match core.readMem ⟨.read, 0, addr.toUInt64⟩ len with
  | .error e => (some e, core)
  | .ok value => (none, { core.setReg r value.toUInt32 with zero := value.toUInt32 == 0 })

def storeAt (core : Core) (addr : UInt32) (len : Nat) (value : UInt64) :
    Option Exception × Core :=
  match core.writeMem ⟨.write, 0, addr.toUInt64⟩ len value with
  | (.error e, core) => (some e, core)
  | (.ok _, core) => (none, core)

end Core

namespace Instr

def imm32 (i : Instr) : UInt32 := i.imm.toInt32.toUInt32

/-- What the instruction at `pc` does once it has become the current one: the exception that it
raises, if any, and the core that it leaves. -/
def execute (i : Instr) (pc : UInt32) (core : Core) : Option Exception × Core :=
  match i.op with
  | .nop | .flush | .evict => (none, core)
  | .li => (none, core.setReg i.rd i.imm32)
  | .addi => (none, core.addTo i.rd (core.reg i.rs) i.imm32)
  | .add => (none, core.addTo i.rd (core.reg i.rd) (core.reg i.rs))
  | .ld => core.loadTo i.rd (core.reg i.rs + i.imm32) 4
  | .ldb => core.loadTo i.rd (core.reg i.rs + i.imm32) 1
  | .st => core.storeAt (core.reg i.rs + i.imm32) 4 (core.reg i.rd).toUInt64
  | .stb => core.storeAt (core.reg i.rs + i.imm32) 1 (core.reg i.rd).toUInt8.toUInt64
  | .beqz => (none, if core.reg i.rd = 0 then core.goto (pc + 4 * i.imm32) else core)
  | .bz => (none, if core.zero then core.goto (pc + 4 * i.imm32) else core)
  | .jmp => (none, core.goto (pc + 4 * i.imm32))
  | .halt => (some (.stopped (core.reg i.rd).toInt32), core)

end Instr

theorem Instr.execute_frame (i : Instr) (pc : UInt32) (core : Core) :
    (i.execute pc core).2.frame = core.frame := by
  have hload (r : UInt8) (addr : UInt32) (len : Nat) :
      (core.loadTo r addr len).2.frame = core.frame := by
    unfold Core.loadTo
    split <;> rfl
  have hstore (addr : UInt32) (len : Nat) (value : UInt64) :
      (core.storeAt addr len value).2.frame = core.frame := by
    have hwrite := core.writeMem_frame ⟨.write, 0, addr.toUInt64⟩ len value
    unfold Core.storeAt
    split
    · rename_i h
      rwa [h] at hwrite
    · rename_i h
      rwa [h] at hwrite
  unfold execute
  cases i.op with
  | ld => exact hload _ _ _
  | ldb => exact hload _ _ _
  | st => exact hstore _ _ _
  | stb => exact hstore _ _ _
  | beqz =>
      simp only
      split <;> rfl
  | bz =>
      simp only
      split <;> rfl
  | _ => rfl

/-! ## The interpreter -/

/-- A core, the address of the next instruction, and why there is none if there is none. -/
structure Interpreter where
  core : Core
  pc : UInt32
  ended : Option RunExit := none

namespace Interpreter

def ofCore (core : Core) : Interpreter := ⟨core, core.regs.pc, none⟩

def raise (core : Core) (pc : UInt32) : Exception → Interpreter
  | .accessTrap id addr => ⟨core.enterTrap id addr, core.trapVector.toUInt32, none⟩
  | .stopped code => ⟨core, pc, some (.stopped code)⟩
  | .undecodable addr => ⟨core, pc, some (.decodeError addr)⟩

def perform (s : Interpreter) (i : Instr) : Interpreter :=
  match i.execute s.pc (s.core.begun s.pc) with
  | (none, core) => ⟨core, core.regs.nextPc, none⟩
  | (some e, core) => raise core s.pc e

def instr? (s : Interpreter) : Option Instr :=
  if s.ended.isSome then none else (s.core.word? s.pc.toUInt64).bind Instr.decode?

/-- Fetches, decodes and executes one instruction. -/
def step (s : Interpreter) : Interpreter :=
  if s.ended.isSome then s
  else
    match s.core.word? s.pc.toUInt64 with
    | none => raise s.core s.pc (.accessTrap Cause.fetchFault s.pc.toUInt64)
    | some word =>
      match Instr.decode? word with
      | none => raise s.core s.pc (.undecodable s.pc.toUInt64)
      | some i => s.perform i

/-- The interpreter after a number of steps. -/
def after (s : Interpreter) : Nat → Interpreter
  | 0 => s
  | t + 1 => (s.after t).step

/-- The number of instructions among the first steps. A step that only enters the handler of a fetch
fault is none. -/
def counted (s : Interpreter) : Nat → Nat
  | 0 => 0
  | t + 1 => s.counted t + if (s.after t).instr?.isSome then 1 else 0

/-- After `t` steps, and not before, `n` instructions were executed. -/
def StopsAt (s : Interpreter) (n t : Nat) : Prop :=
  s.counted t = n ∧ ∀ u < t, s.counted u < n

def exit (s : Interpreter) : RunExit := s.ended.getD .instructionLimit

/-- What a run that goes this far leaves: if there is a next instruction, its address is the current
one. -/
def rest (s : Interpreter) : Core :=
  if s.ended.isSome then s.core else { s.core with regs.pc := s.pc, regs.nextPc := s.pc }

/-- Step `r` changes the word at an address. -/
def Changes (s : Interpreter) (addr : UInt64) (r : Nat) : Prop :=
  (s.after r).core.word? addr ≠ (s.after (r + 1)).core.word? addr

/-- Step `u` executes an instruction that discards every unit. -/
def Flushes (s : Interpreter) (u : Nat) : Prop :=
  ∃ i, (s.after u).instr? = some i ∧ i.op = .flush

/-- Since the word at an address was changed last, units were discarded. -/
def Clean (s : Interpreter) (t : Nat) (addr : UInt64) : Prop :=
  ∀ r < t, s.Changes addr r → ∃ u < t, r < u ∧ s.Flushes u

/-- In the course of the first `n` instructions, every word that comes to execution after a change
of it was preceded by a flush in between. -/
def Coherent (s : Interpreter) (n : Nat) : Prop :=
  ∀ t, s.counted t < n → (s.after t).ended = none → s.Clean t (s.after t).pc.toUInt64

instance (s : Interpreter) (addr : UInt64) (r : Nat) : Decidable (s.Changes addr r) :=
  inferInstanceAs (Decidable (_ ≠ _))

instance (s : Interpreter) (u : Nat) : Decidable (s.Flushes u) :=
  decidable_of_iff ((s.after u).instr?.any (·.op == .flush)) (by simp [Flushes, Option.any_eq_true])

instance (s : Interpreter) (t : Nat) (addr : UInt64) : Decidable (s.Clean t addr) :=
  inferInstanceAs (Decidable (∀ r < t, s.Changes addr r → ∃ u < t, r < u ∧ s.Flushes u))

end Interpreter

/-! ## Fetching -/

namespace Core

theorem word?_eq_none {core : Core} {addr : UInt64} :
    core.word? addr = none ↔ ¬ core.Mapped addr := by
  rw [word?, Option.map_eq_none_iff, Mapped, Option.isSome_iff_ne_none, Classical.not_not]

theorem fetch_of_word {core : Core} {addr : UInt64} {word : UInt32}
    (h : core.word? addr = some word) :
    core.fetch (.fetch addr) =
      match Instr.decode? word with
      | some i => .ok i
      | none => .error (.undecodable addr) := by
  obtain ⟨start, hstart, rfl⟩ := Option.map_eq_some_iff.mp h
  have hword : (UInt64.ofNat (Bytes.load core.ram start 4)).toUInt32 =
      UInt32.ofNat (Bytes.load core.ram start 4) := UInt64.toUInt32_ofNat' _
  cases hdecode : Instr.decode? (UInt32.ofNat (Bytes.load core.ram start 4)) with
  | none => simp [fetch, readMem, VirtAddr.fetch, hstart, bind, Except.bind, hword, hdecode]
  | some i => simp [fetch, readMem, VirtAddr.fetch, hstart, bind, Except.bind, hword, hdecode]

theorem fetch_congr {core core' : Core} {addr : UInt64}
    (h : core.word? addr = core'.word? addr) :
    core.fetch (.fetch addr) = core'.fetch (.fetch addr) := by
  cases hword : core.word? addr with
  | none =>
      rw [fetch_of_not_mapped (word?_eq_none.mp hword),
        fetch_of_not_mapped (word?_eq_none.mp (h.symm.trans hword))]
  | some word => rw [fetch_of_word hword, fetch_of_word (h.symm.trans hword)]

theorem Holds.congr {core core' : Core} {addr : UInt64} {is : List Instr}
    (h : core.Holds addr is)
    (hwords : ∀ a ∈ (fragments addr is).map (·.address), core.word? a = core'.word? a) :
    core'.Holds addr is := by
  induction is generalizing addr with
  | nil => trivial
  | cons i is ih =>
      rw [fragments, List.map_cons] at hwords
      obtain ⟨hword, hrest⟩ := List.forall_mem_cons.mp hwords
      exact ⟨(fetch_congr hword).symm.trans h.1, ih h.2 hrest⟩

end Core

namespace Interpreter

variable {s : Interpreter}

theorem instr?_of_fetch {i : Instr} (hended : s.ended = none)
    (h : s.core.fetch (.fetch s.pc.toUInt64) = .ok i) : s.instr? = some i := by
  cases hword : s.core.word? s.pc.toUInt64 with
  | none =>
      rw [Core.fetch_of_not_mapped (Core.word?_eq_none.mp hword)] at h
      simp at h
  | some word =>
      rw [Core.fetch_of_word hword] at h
      cases hdecode : Instr.decode? word with
      | none => simp [hdecode] at h
      | some j =>
          simp only [hdecode, Except.ok.injEq] at h
          simp [instr?, hended, hword, hdecode, h]

theorem ended_of_instr {i : Instr} (h : s.instr? = some i) : s.ended = none := by
  rw [instr?] at h
  split at h
  · simp at h
  · rename_i hended
    simpa using hended

theorem step_of_instr {i : Instr} (h : s.instr? = some i) : s.step = s.perform i := by
  have hended := ended_of_instr h
  simp only [instr?, hended, Option.isSome_none, Bool.false_eq_true, if_false] at h
  obtain ⟨word, hword, hdecode⟩ := Option.bind_eq_some_iff.mp h
  simp [step, hended, hword, hdecode]

theorem step_of_not_mapped (hended : s.ended = none) (h : ¬ s.core.Mapped s.pc.toUInt64) :
    s.instr? = none ∧
      s.step = raise s.core s.pc (.accessTrap Cause.fetchFault s.pc.toUInt64) := by
  have hword := Core.word?_eq_none.mpr h
  simp [instr?, step, hended, hword]

theorem step_of_undecodable (hended : s.ended = none)
    (h : s.core.fetch (.fetch s.pc.toUInt64) = .error (.undecodable s.pc.toUInt64)) :
    s.step = raise s.core s.pc (.undecodable s.pc.toUInt64) := by
  cases hword : s.core.word? s.pc.toUInt64 with
  | none =>
      rw [Core.fetch_of_not_mapped (Core.word?_eq_none.mp hword)] at h
      simp at h
  | some word =>
      rw [Core.fetch_of_word hword] at h
      cases hdecode : Instr.decode? word with
      | none => simp [step, hended, hword, hdecode]
      | some i => simp [hdecode] at h

theorem step_of_ended {e : RunExit} (h : s.ended = some e) : s.step = s := by
  simp [step, h]

/-! ## Steps -/

theorem nextPc_raise {core : Core} {pc : UInt32} {e : Exception}
    (h : (raise core pc e).ended = none) :
    (raise core pc e).core.regs.nextPc = (raise core pc e).pc := by
  cases e with
  | accessTrap id addr => rfl
  | stopped code => simp [raise] at h
  | undecodable addr => simp [raise] at h

theorem frame_raise (core : Core) (pc : UInt32) (e : Exception) :
    (raise core pc e).core.frame = core.frame := by
  cases e <;> rfl

/-- A step executes an instruction, or finds none and raises an exception. -/
theorem step_cases (hended : s.ended = none) :
    (∃ i, s.instr? = some i ∧ s.step = s.perform i) ∨
      s.instr? = none ∧ ∃ e, s.step = raise s.core s.pc e := by
  cases hinstr : s.instr? with
  | some i => exact .inl ⟨i, rfl, step_of_instr hinstr⟩
  | none =>
      refine .inr ⟨rfl, ?_⟩
      simp only [instr?, hended, Option.isSome_none, Bool.false_eq_true, if_false] at hinstr
      simp only [step, hended, Option.isSome_none, Bool.false_eq_true, if_false]
      cases hword : s.core.word? s.pc.toUInt64 with
      | none => exact ⟨_, rfl⟩
      | some word =>
          rw [hword, Option.bind_some] at hinstr
          simp only [hinstr]
          exact ⟨_, rfl⟩

/-- As long as there is a next instruction, the core knows its address. -/
theorem nextPc_step (hended : s.ended = none) (h : s.step.ended = none) :
    s.step.core.regs.nextPc = s.step.pc := by
  rcases step_cases hended with ⟨i, -, hstep⟩ | ⟨-, e, hstep⟩
  · rw [hstep, perform] at h ⊢
    split at h
    · rfl
    · exact nextPc_raise h
  · rw [hstep] at h ⊢
    exact nextPc_raise h

theorem frame_step : s.step.core.frame = s.core.frame := by
  cases hended : s.ended with
  | some e => rw [step_of_ended hended]
  | none =>
      rcases step_cases hended with ⟨i, -, hstep⟩ | ⟨-, e, hstep⟩
      · have hframe := i.execute_frame s.pc (s.core.begun s.pc)
        rw [hstep, perform]
        split
        · rename_i hexecute
          rw [hexecute] at hframe
          exact hframe
        · rename_i hexecute
          rw [hexecute] at hframe
          exact (frame_raise _ _ _).trans hframe
      · rw [hstep, frame_raise]

theorem frame_after (t : Nat) : (s.after t).core.frame = s.core.frame := by
  induction t with
  | zero => rfl
  | succ t ih => exact frame_step.trans ih

/-- From the first step on, as long as there is a next instruction, the core knows its address. -/
theorem goto_after {t : Nat} (ht : 0 < t) (h : (s.after t).ended = none) :
    (s.after t).core.goto (s.after t).pc = (s.after t).core := by
  obtain ⟨u, rfl⟩ : ∃ u, t = u + 1 := ⟨t - 1, by omega⟩
  have hended : (s.after u).ended = none := by
    cases hcase : (s.after u).ended with
    | none => rfl
    | some e =>
        rw [after, step_of_ended hcase, hcase] at h
        exact absurd h (by simp)
  rw [after, ← nextPc_step hended h]
  rfl

/-! ## Counting -/

theorem counted_succ_of_instr {t : Nat} {i : Instr} (h : (s.after t).instr? = some i) :
    s.counted (t + 1) = s.counted t + 1 := by
  simp [counted, h]

theorem counted_succ_of_none {t : Nat} (h : (s.after t).instr? = none) :
    s.counted (t + 1) = s.counted t := by
  simp [counted, h]

theorem counted_mono {t u : Nat} (h : t ≤ u) : s.counted t ≤ s.counted u := by
  induction h with
  | refl => exact Nat.le_refl _
  | step _ ih => exact Nat.le_trans ih (Nat.le_add_right _ _)

/-! ## Changed words -/

theorem Clean.of_succ {t : Nat} {addr : UInt64} (hflush : ¬ s.Flushes t)
    (h : s.Clean (t + 1) addr) : s.Clean t addr ∧ ¬ s.Changes addr t := by
  constructor
  · intro r hr hchange
    obtain ⟨u, hut, hru, hu⟩ := h r (Nat.lt_succ_of_lt hr) hchange
    refine ⟨u, ?_, hru, hu⟩
    rcases Nat.lt_succ_iff_lt_or_eq.mp hut with hut | rfl
    · exact hut
    · exact absurd hu hflush
  · intro hchange
    obtain ⟨u, hut, htu, -⟩ := h t (Nat.lt_succ_self t) hchange
    omega

/-- Coherence is a matter of finitely many steps. -/
theorem coherent_of_forall_lt {n bound : Nat} (hbound : n ≤ s.counted bound)
    (h : ∀ t < bound, (s.after t).ended = none → s.Clean t (s.after t).pc.toUInt64) :
    s.Coherent n := by
  intro t ht hended
  refine h t ?_ hended
  by_cases hlt : t < bound
  · exact hlt
  · have hmono : s.counted bound ≤ s.counted t := counted_mono (Nat.le_of_not_lt hlt)
    omega

end Interpreter

end GuestSim.Mini

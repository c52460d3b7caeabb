import GuestSim.Proofs.Mini.Refinement

/-! # Words that are no instructions

A unit is built before it runs. A word further on that is no instruction ends the run before the
instructions that lead up to it. -/

namespace GuestSim.Mini

namespace Interpreter

variable {s : Interpreter} {t : Nat}

/-- No step changes a word that ever comes to execution. -/
def KeepsCode (s : Interpreter) : Prop :=
  ∀ t r, (s.after t).ended = none → ¬ s.Changes (s.after t).pc.toUInt64 r

/-- Step `t` executes an instruction that raises an exception. -/
def Raises (s : Interpreter) (t : Nat) : Prop :=
  ∃ i, (s.after t).instr? = some i ∧
    (i.execute (s.after t).pc ((s.after t).core.begun (s.after t).pc)).1.isSome = true

theorem KeepsCode.coherent (h : s.KeepsCode) (n : Nat) : s.Coherent n :=
  fun t _ hended r _ hchanges => absurd hchanges (h t r hended)

theorem KeepsCode.word?_after (h : s.KeepsCode) (hended : (s.after t).ended = none) (u : Nat) :
    (s.after u).core.word? (s.after t).pc.toUInt64 = s.core.word? (s.after t).pc.toUInt64 := by
  induction u with
  | zero => rfl
  | succ u ih => rw [← Classical.not_not.mp (h t u hended), ih]

/-- What a fetch gives that comes to execution, it gives at all times. -/
theorem KeepsCode.fetch_after (h : s.KeepsCode) (hended : (s.after t).ended = none) (u : Nat) :
    (s.after t).core.fetch (.fetch (s.after t).pc.toUInt64) =
      (s.after u).core.fetch (.fetch (s.after t).pc.toUInt64) :=
  Core.fetch_congr ((h.word?_after hended t).trans (h.word?_after hended u).symm)

theorem after_of_ended {bound u : Nat} (hended : (s.after bound).ended.isSome = true)
    (hu : bound ≤ u) : s.after u = s.after bound := by
  obtain ⟨e, he⟩ := Option.isSome_iff_exists.mp hended
  induction hu with
  | refl => rfl
  | step _ ih => rw [after, ih, step_of_ended he]

/-- If the interpreter ends, finitely many steps decide whether it changes its code. -/
theorem keepsCode_of_ended {bound : Nat} (hended : (s.after bound).ended.isSome = true)
    (h : ∀ t < bound, ∀ r < bound, ¬ s.Changes (s.after t).pc.toUInt64 r) : s.KeepsCode := by
  intro t r hnone
  by_cases ht : t < bound
  · by_cases hr : r < bound
    · exact h t ht r hr
    · rw [Changes, after_of_ended hended (Nat.le_of_not_lt hr),
        after_of_ended hended (Nat.le_succ_of_le (Nat.le_of_not_lt hr))]
      exact fun hne => hne rfl
  · rw [after_of_ended hended (Nat.le_of_not_lt ht)] at hnone
    simp [hnone] at hended

theorem after_succ_of_next {i : Instr} (hinstr : (s.after t).instr? = some i)
    (hnext : i.outcome = .next) (hquiet : ¬ s.Raises t) :
    (s.after (t + 1)).ended = none ∧ (s.after (t + 1)).pc = (s.after t).pc + 4 := by
  have hpc := Instr.nextPc_execute hnext (s.after t).pc ((s.after t).core.begun (s.after t).pc)
  rw [after, step_of_instr hinstr, perform]
  cases hexecute : i.execute (s.after t).pc ((s.after t).core.begun (s.after t).pc) with
  | mk raised core =>
      rw [hexecute] at hpc
      cases raised with
      | none => exact ⟨rfl, hpc⟩
      | some e => exact absurd ⟨i, hinstr, by rw [hexecute]; rfl⟩ hquiet

end Interpreter

open Interpreter Simulator

variable {s : Interpreter} {t : Nat}

theorem Core.Holds.mapped {core : Core} {addr : UInt64} {is : List Instr}
    (h : core.Holds addr is) (hbehind : core.Mapped (behind addr is.length)) :
    core.Mapped addr := by
  cases is with
  | nil => simpa using hbehind
  | cons i is => exact mapped_of_fetch h.1

/-- The interpreter executes instructions that memory holds one after the other, unless one of them
raises an exception. -/
theorem Interpreter.KeepsCode.after_holds (h : s.KeepsCode) (hnarrow : s.core.Narrow) {u : Nat}
    {addr : UInt64} {is : List Instr} (hholds : (s.after u).core.Holds addr is)
    (hnext : ∀ i ∈ is, i.outcome = .next)
    (hbehind : (s.after u).core.Mapped (behind addr is.length))
    (hended : (s.after t).ended = none) (haddr : addr = (s.after t).pc.toUInt64)
    (hquiet : ∀ j < is.length, ¬ s.Raises (t + j)) :
    s.counted (t + is.length) = s.counted t + is.length ∧
      (s.after (t + is.length)).ended = none ∧
      (s.after (t + is.length)).pc.toUInt64 = behind addr is.length := by
  -- Memory is that after `u` steps all along: a word is known to stay only once it is reached.
  induction is generalizing t addr with
  | nil => exact ⟨rfl, hended, by rw [List.length_nil, behind_zero, haddr]; rfl⟩
  | cons i is ih =>
      subst haddr
      obtain ⟨hhead, hnext⟩ := List.forall_mem_cons.mp hnext
      rw [List.length_cons, behind_succ] at hbehind
      have hfetch : (s.after t).core.fetch (.fetch (s.after t).pc.toUInt64) = .ok i :=
        (h.fetch_after hended u).trans hholds.1
      have hinstr := instr?_of_fetch hended hfetch
      obtain ⟨hended', hpc⟩ := after_succ_of_next hinstr hhead (hquiet 0 (Nat.succ_pos _))
      have haddr' : (s.after t).pc.toUInt64 + 4 = (s.after (t + 1)).pc.toUInt64 := by
        rw [hpc, Core.next_of_mapped (Core.narrow_of_frame (frame_after u) hnarrow)
          (hholds.2.mapped hbehind)]
      have hquiet' : ∀ j < is.length, ¬ s.Raises (t + 1 + j) := by
        intro j hj
        rw [Nat.add_assoc, Nat.add_comm 1 j]
        exact hquiet (j + 1) (Nat.succ_lt_succ hj)
      obtain ⟨hcounted, hrest⟩ := ih hholds.2 hnext hbehind hended' haddr' hquiet'
      rw [Nat.add_assoc, Nat.add_comm 1] at hcounted hrest
      rw [List.length_cons, behind_succ]
      refine ⟨?_, hrest⟩
      rw [hcounted, counted_succ_of_instr hinstr]
      omega

/-- If no instruction in front of the word raises an exception, the interpreter gets there and
cannot decode it either. -/
theorem Blocked.after {capacity : Nat} {addr : UInt64} {is : List Instr}
    (h : Blocked s t capacity addr is) (hkeeps : s.KeepsCode) (hnarrow : s.core.Narrow)
    (hended : (s.after t).ended = none) (hquiet : ∀ j < is.length, ¬ s.Raises (t + j)) :
    s.counted (t + is.length) = s.counted t + is.length ∧
      (s.after (t + is.length)).pc.toUInt64 = addr ∧
      (s.after (t + is.length + 1)).ended = some (.decodeError addr) := by
  obtain ⟨-, hnext, hholds, rfl, hfetch⟩ := h
  have hbehind : (s.after t).core.Mapped (behind (s.after t).pc.toUInt64 is.length) := by
    by_cases hmapped : (s.after t).core.Mapped (behind (s.after t).pc.toUInt64 is.length)
    · exact hmapped
    · rw [Core.fetch_of_not_mapped hmapped] at hfetch
      simp at hfetch
  obtain ⟨hcounted, hended', hpc⟩ :=
    hkeeps.after_holds hnarrow hholds hnext hbehind hended rfl hquiet
  refine ⟨hcounted, hpc, ?_⟩
  rw [← hpc, ← hkeeps.fetch_after hended' t] at hfetch
  rw [Interpreter.after, step_of_undecodable hended' hfetch, hpc]
  rfl

variable {δ : Type} [Debugger δ] {sim sim' : Simulator Core Codegen δ}

/-- A run that ends at a word that is no instruction leaves the core as the interpreter has it where
the unit starts that meets the word. From there the interpreter gets to the word as well, unless an
instruction in between raises an exception, but nothing says that the budget lasts so long. -/
theorem run_eq_decodeError {fuel : Nat} {limit : Option UInt64} {addr : UInt64}
    (hfresh : Fresh sim) (hlayout : sim.settings.layout = layout)
    (hnarrow : sim.machine.core.Narrow)
    (hrun : sim.run fuel limit = some (.ok (.decodeError addr), sim'))
    (hrefusal : ∀ start ∈ sim.runStarts fuel limit, start.refusal = none)
    (hkeeps : (reference sim).KeepsCode) :
    ∃ t is counts, ((reference sim).after t).ended = none ∧
      (reference sim).counted t = (sim.runStarts fuel limit).length ∧
      ((reference sim).after t).core.regs.icount < limit.getD (-1) ∧
      Blocked (reference sim) t sim.settings.capacity addr is ∧
      sim'.machine.core = Core.withPhases { ((reference sim).after t).core with
        regs.pc := addr.toUInt32, regs.nextPc := addr.toUInt32 } counts ∧
      ((∀ j < is.length, ¬ (reference sim).Raises (t + j)) →
        (reference sim).counted (t + is.length) = (reference sim).counted t + is.length ∧
        ((reference sim).after (t + is.length)).pc.toUInt64 = addr ∧
        ((reference sim).after (t + is.length + 1)).ended = some (.decodeError addr)) := by
  obtain ⟨t, pc, sim₁, hcounted, hturned, hsettings, hmachine⟩ :=
    hfresh.run hlayout hnarrow hrun hrefusal (hkeeps.coherent _)
  obtain ⟨rfl, hleft, hfollows, is, hblocked⟩ := hturned
  obtain ⟨counts, hcore⟩ := hfollows.core
  refine ⟨t, is, counts, hfollows.ended, hcounted, ?_, hsettings ▸ hblocked, ?_,
    hblocked.after hkeeps hnarrow hfollows.ended⟩
  · rw [instructionCount, hcore] at hleft
    exact UInt64.not_le.mp hleft
  · rw [hmachine]
    exact closed_core rfl hfollows.layout_eq hcore pc

/-- An instruction, and a word that is none because there is no such register. -/
def unreadable : Core := .loaded 0x1000 [⟨.li, 1, 0, 5⟩, ⟨.li, 8, 0, 0⟩]

theorem unreadable_keepsCode : (ofCore unreadable).KeepsCode :=
  keepsCode_of_ended (show ((ofCore unreadable).after 2).ended.isSome = true by decide)
    (by decide)

/-- The instruction in front of the word is not executed, though there is budget for it. -/
theorem run_eq_decodeError_unreadable :
    ∃ sim sim', simulate {} unreadable = .ok sim ∧
      sim.run 1 (some 9) = some (.ok (.decodeError 0x1004), sim') ∧
      ∃ t is counts, ((ofCore unreadable).after t).ended = none ∧
        (ofCore unreadable).counted t = 0 ∧
        ((ofCore unreadable).after t).core.regs.icount < 9 ∧
        Blocked (ofCore unreadable) t 128 0x1004 is ∧
        sim'.machine.core = Core.withPhases { ((ofCore unreadable).after t).core with
          regs.pc := 0x1004, regs.nextPc := 0x1004 } counts := by
  obtain ⟨sim, sim', hsim, hrun, hcore, hlive, hlayout, hcapacity, hstarts⟩ : ∃ sim sim',
      simulate {} unreadable = .ok sim ∧
        sim.run 1 (some 9) = some (.ok (.decodeError 0x1004), sim') ∧
        sim.machine.core = unreadable ∧ sim.cache.live = [] ∧ sim.settings.layout = layout ∧
        sim.settings.capacity = 128 ∧ sim.runStarts 1 (some 9) = [] :=
    ⟨_, _, rfl, rfl, rfl, rfl, rfl, rfl, rfl⟩
  obtain ⟨t, is, counts, hended, hcounted, hleft, hblocked, hleaves, -⟩ := run_eq_decodeError
    (fresh_of_live_eq_nil hlive) hlayout (by rw [hcore]; decide) hrun (by simp [hstarts])
    (by rw [reference, hcore]; exact unreadable_keepsCode)
  rw [reference, hcore] at hended hcounted hleft hblocked hleaves
  rw [hstarts] at hcounted
  rw [hcapacity] at hblocked
  exact ⟨sim, sim', hsim, hrun, t, is, counts, hended, hcounted, hleft, hblocked, hleaves⟩

/-- With a budget of one instruction the run ends at the word all the same, and the interpreter does
not get there. -/
theorem decodeError_beyond_budget :
    ∃ sim sim', simulate {} unreadable = .ok sim ∧ sim.machine.core.Narrow ∧
      sim.cache.live = [] ∧ sim.machine.context.debugger = none ∧
      sim.settings.preciseLimit = true ∧ (reference sim).KeepsCode ∧
      sim.run 1 (some 1) = some (.ok (.decodeError 0x1004), sim') ∧
      sim'.instructionCount = 0 ∧
      ∀ t, (reference sim).counted t < 1 → ((reference sim).after t).pc.toUInt64 ≠ 0x1004 := by
  refine ⟨_, _, rfl, by decide, rfl, rfl, rfl, unreadable_keepsCode, rfl, rfl, ?_⟩
  intro t ht
  cases t with
  | zero => decide
  | succ t =>
      have hfirst : (ofCore unreadable).counted 1 ≤ (ofCore unreadable).counted (t + 1) :=
        counted_mono (by omega)
      exact absurd ht (Nat.not_lt.mpr hfirst)

end GuestSim.Mini

import GuestSim.Proofs.Budget
import GuestSim.Proofs.Mini.Blocks
import GuestSim.Proofs.Upkeep

/-! # When a run with a budget ends

A turn of the loop either starts an instruction, or ends the run, or enters the handler of a fetch
fault without counting. The run goes on for ever only if the handler cannot be fetched either. -/

namespace GuestSim

namespace Simulator

variable {C G δ : Type} [Architecture C] [Emitter G C] [Debugger δ]

/-- Where the loop stands after a number of turns, if it goes on for so long. -/
def arrival (limit : UInt64) : Nat → UInt64 → Simulator C G δ → Option (UInt64 × Simulator C G δ)
  | 0, pc, sim => some (pc, sim)
  | turns + 1, pc, sim =>
    match sim.turn limit pc with
    | (.next pc, sim) => arrival limit turns pc sim
    | _ => none

theorem arrival_succ {limit pc pc' : UInt64} {sim sim' : Simulator C G δ}
    (h : sim.turn limit pc = (.next pc', sim')) (turns : Nat) :
    arrival limit (turns + 1) pc sim = arrival limit turns pc' sim' := by
  rw [arrival, h]

theorem loop_succ {limit pc pc' : UInt64} {sim sim' : Simulator C G δ}
    (h : sim.turn limit pc = (.next pc', sim')) (fuel : Nat) :
    loop limit (fuel + 1) pc sim = loop limit fuel pc' sim' := by
  rw [loop, h]

/-- A loop that never ends once it has arrived somewhere never ends. -/
theorem loop_eq_none_of_arrival {limit pc pc' : UInt64} {turns : Nat} {sim sim' : Simulator C G δ}
    (h : arrival limit turns pc sim = some (pc', sim'))
    (hnone : ∀ fuel, loop limit fuel pc' sim' = none) (fuel : Nat) :
    loop limit fuel pc sim = none := by
  induction turns generalizing pc sim fuel with
  | zero =>
      simp only [arrival, Option.some.injEq, Prod.mk.injEq] at h
      obtain ⟨rfl, rfl⟩ := h
      exact hnone fuel
  | succ turns ih =>
      cases fuel with
      | zero => rfl
      | succ fuel =>
          rw [arrival] at h
          split at h
          · rename_i hturn
            rw [loop_succ hturn]
            exact ih h fuel
          · simp at h

theorem loop_isSome_mono {limit pc : UInt64} {fuel fuel' : Nat} {sim : Simulator C G δ}
    (hle : fuel ≤ fuel') (h : (loop limit fuel pc sim).isSome = true) :
    (loop limit fuel' pc sim).isSome = true := by
  induction fuel generalizing fuel' pc sim with
  | zero => simp [loop] at h
  | succ fuel ih =>
      obtain ⟨fuel', rfl⟩ : ∃ n, fuel' = n + 1 := ⟨fuel' - 1, by omega⟩
      rw [loop] at h ⊢
      cases hturn : sim.turn limit pc with
      | mk ending sim₁ =>
          rw [hturn] at h
          cases ending with
          | next pc₁ => exact ih (Nat.le_of_succ_le_succ hle) h
          | exit e pc₁ => rfl
          | failed e pc₁ => rfl

end Simulator

namespace Mini

open Simulator

variable {δ : Type} [Debugger δ] {limit pc : UInt64} {sim : Simulator Core Codegen δ}

/-- With budget left, neither the next instruction nor the handler of the fault that it raises can
be fetched. -/
structure Stuck (limit pc : UInt64) (sim : Simulator Core Codegen δ) : Prop where
  left : ¬ limit ≤ sim.instructionCount
  pc_not_mapped : ¬ sim.machine.core.Mapped pc
  vector_not_mapped : ¬ sim.machine.core.Mapped sim.machine.core.trapVector

/-! ## Fetch faults -/

/-- There is no way out of a fault whose handler cannot be fetched. -/
theorem Stuck.turn (h : Stuck limit pc sim) (hrenews : sim.cache.compiler.Renews) :
    ∃ pc' sim', sim.turn limit pc = (.next pc', sim') ∧ Stuck limit pc' sim' :=
  ⟨_, _, turn_of_not_mapped h.left (purge_of_renews hrenews) h.pc_not_mapped, h.left,
    h.vector_not_mapped, h.vector_not_mapped⟩

theorem Stuck.loop_eq_none (h : Stuck limit pc sim) (hrenews : sim.cache.compiler.Renews)
    (fuel : Nat) : loop limit fuel pc sim = none := by
  induction fuel generalizing pc sim with
  | zero => rfl
  | succ fuel ih =>
      obtain ⟨pc', sim', hturn, hstuck⟩ := h.turn hrenews
      have hcompiler := turn_compiler limit pc sim
      rw [hturn] at hcompiler
      rw [loop_succ hturn]
      exact ih hstuck (hcompiler ▸ hrenews)

theorem arrival_compiler {turns : Nat} {pc' : UInt64} {sim' : Simulator Core Codegen δ}
    (h : arrival limit turns pc sim = some (pc', sim')) :
    sim'.cache.compiler = sim.cache.compiler := by
  induction turns generalizing pc sim with
  | zero =>
      simp only [arrival, Option.some.injEq, Prod.mk.injEq] at h
      rw [h.2]
  | succ turns ih =>
      have hcompiler := turn_compiler limit pc sim
      rw [arrival] at h
      split at h
      · rename_i pc₁ sim₁ hturn
        rw [hturn] at hcompiler
        exact (ih h).trans hcompiler
      · simp at h

/-- A handler that can be fetched can be fetched for ever. -/
theorem not_stuck_of_vector_mapped (h : sim.machine.core.Mapped sim.machine.core.trapVector)
    {turns : Nat} {pc' : UInt64} {sim' : Simulator Core Codegen δ}
    (harrival : arrival limit turns pc sim = some (pc', sim')) : ¬ Stuck limit pc' sim' := by
  induction turns generalizing pc sim with
  | zero =>
      simp only [arrival, Option.some.injEq, Prod.mk.injEq] at harrival
      obtain ⟨rfl, rfl⟩ := harrival
      exact fun hstuck => hstuck.vector_not_mapped h
  | succ turns ih =>
      have hframe := turn_frame limit pc sim
      rw [arrival] at harrival
      split at harrival
      · rename_i pc₁ sim₁ hturn
        rw [hturn] at hframe
        refine ih ?_ harrival
        have hvector : sim₁.machine.core.trapVector = sim.machine.core.trapVector :=
          congrArg (fun frame => frame.2.2) hframe
        rw [hvector]
        exact (Core.mapped_iff_of_frame hframe _).mpr h
      · simp at harrival

/-! ## Progress -/

/-- A turn that goes on from memory starts an instruction. -/
theorem starts_pos_of_mapped {pc' : UInt64} {sim' : Simulator Core Codegen δ}
    (hfilled : sim.Filled) (harmed : sim.machine.context.icountLimit = limit)
    (hlayout : sim.settings.layout = layout)
    (hleft : ¬ limit ≤ sim.instructionCount) (hmapped : sim.machine.core.Mapped pc)
    (hturn : sim.turn limit pc = (.next pc', sim')) :
    0 < (sim.turnStarts limit pc).length := by
  cases hfind : sim.find pc with
  | mk result sim₁ =>
      cases result with
      | error failure =>
          rw [turn_of_left hleft, attempt_of_error hfind] at hturn
          rcases find_eq_error hfind with ⟨e, -, rfl, -⟩ | ⟨purged, e, hpurge, hunit, rfl⟩
          · simp [react] at hturn
          · rw [← purge_machine hpurge] at hmapped
            rcases unitFor_eq_error hmapped hunit with ⟨rfl, -⟩ | ⟨is, rfl, -⟩
            all_goals simp [searchFailure, react] at hturn
      | ok unit =>
          obtain ⟨hcore, hcontext⟩ := find_frame hfind
          rw [turnStarts_of_ok hleft hfind]
          refine starts_pos (hfilled.found_made hfind) hlayout
            (fun _ => by rw [hcontext, harmed]) ?_ pc
          rw [hcore]
          exact hleft

/-- With `n` instructions left after the next one, a turn from memory leaves so few that the rest
of the run is as long as it may be. -/
theorem loop_isSome_of_mapped {settings : Settings} (hlayout : settings.layout = layout)
    (hprecise : settings.preciseLimit = true) {n : Nat}
    (hsim : Counting.Confined settings limit sim)
    (hn : limit.toNat - sim.instructionCount.toNat = n + 1)
    (hmapped : sim.machine.core.Mapped pc)
    (hrest : ∀ pc' sim', sim.turn limit pc = (.next pc', sim') →
      limit.toNat - sim'.instructionCount.toNat ≤ n →
      (loop limit (2 * (limit.toNat - sim'.instructionCount.toNat) + 1) pc' sim').isSome = true) :
    (loop limit (2 * n + 2) pc sim).isSome = true := by
  obtain rfl := hsim.settings_eq
  have hleft : ¬ limit ≤ sim.instructionCount := by
    rw [UInt64.le_iff_toNat_le]
    omega
  rw [loop]
  cases hturn : sim.turn limit pc with
  | mk ending sim' =>
      cases ending with
      | next pc' =>
          have hpos := starts_pos_of_mapped hsim.filled hsim.icountLimit_eq hlayout hleft hmapped
            hturn
          have hle := Counting.Confined.turnStarts_le (hlayout ▸ counting δ) hprecise pc hsim
          have hcount := Counting.count_turn (hlayout ▸ counting δ) hsim.filled limit pc
          have hlt := limit.toNat_lt
          rw [hturn] at hcount
          have hadded : sim'.instructionCount.toNat =
              sim.instructionCount.toNat + (sim.turnStarts limit pc).length := by
            change sim'.machine.count.toNat = sim.machine.count.toNat + _
            rw [hcount, UInt64.toNat_add, UInt64.toNat_ofNat']
            omega
          have hfew : limit.toNat - sim'.instructionCount.toNat ≤ n := by omega
          exact loop_isSome_mono (by omega) (hrest pc' sim' hturn hfew)
      | exit e pc' => rfl
      | failed e pc' => rfl

/-- The number of turns that the rest of a run takes. -/
theorem loop_isSome {settings : Settings} (hlayout : settings.layout = layout)
    (hprecise : settings.preciseLimit = true) {n : Nat}
    (hsim : Counting.Confined settings limit sim)
    (hn : limit.toNat - sim.instructionCount.toNat = n)
    (hfree : ∀ turns pc' sim', arrival limit turns pc sim = some (pc', sim') →
      ¬ Stuck limit pc' sim') :
    (loop limit (2 * n + 1) pc sim).isSome = true := by
  have hcounting : Counting Core Codegen δ settings.layout := hlayout ▸ counting δ
  induction n using Nat.strongRecOn generalizing pc sim with
  | ind n ih =>
      cases n with
      | zero =>
          have hspent : limit ≤ sim.instructionCount := by
            rw [UInt64.le_iff_toNat_le]
            omega
          rw [loop, turn_of_spent hspent]
          rfl
      | succ n =>
          have hleft : ¬ limit ≤ sim.instructionCount := by
            rw [UInt64.le_iff_toNat_le]
            omega
          by_cases hmapped : sim.machine.core.Mapped pc
          · refine loop_isSome_mono (Nat.le_succ (2 * n + 2)) ?_
            refine loop_isSome_of_mapped hlayout hprecise hsim hn hmapped ?_
            intro pc' sim' hturn hfew
            have hsim' := hsim.turn hcounting hprecise pc
            rw [hturn] at hsim'
            refine ih _ (by omega) hsim' rfl fun turns => ?_
            have hlater := hfree (turns + 1)
            rwa [arrival_succ hturn] at hlater
          · have hvector : sim.machine.core.Mapped sim.machine.core.trapVector :=
              Classical.byContradiction fun hvector =>
                hfree 0 pc sim rfl ⟨hleft, hmapped, hvector⟩
            cases hpurge : sim.purge with
            | error e =>
                rw [loop, turn_of_unpurged hleft hpurge]
                rfl
            | ok purged =>
                have hturn := turn_of_not_mapped hleft hpurge hmapped
                have hsim₁ := hsim.turn hcounting hprecise pc
                rw [hturn] at hsim₁
                rw [loop_succ hturn]
                refine loop_isSome_of_mapped hlayout hprecise hsim₁ hn hvector ?_
                intro pc' sim' hturn' hfew
                have hsim' := hsim₁.turn hcounting hprecise sim.machine.core.trapVector
                rw [hturn'] at hsim'
                refine ih _ (by omega) hsim' rfl fun turns => ?_
                have hlater := hfree (turns + 2)
                rwa [arrival_succ hturn, arrival_succ hturn'] at hlater

/-- A run with a budget ends within two turns for each instruction left and one more, unless it
gets stuck with budget left; then it never ends, as long as the compiler does not fail. -/
theorem loop_ends_unless_stuck (hlayout : sim.settings.layout = layout) (hfilled : sim.Filled)
    (hprecise : sim.settings.preciseLimit = true) (hstart : sim.instructionCount ≤ limit)
    (pc : UInt64) :
    ((∀ turns pc' sim', arrival limit turns pc (sim.armed limit) = some (pc', sim') →
        ¬ Stuck limit pc' sim') →
      (loop limit (2 * (limit.toNat - sim.instructionCount.toNat) + 1) pc
        (sim.armed limit)).isSome = true) ∧
    (sim.cache.compiler.Renews →
      ∀ turns pc' sim', arrival limit turns pc (sim.armed limit) = some (pc', sim') →
        Stuck limit pc' sim' → ∀ fuel, loop limit fuel pc (sim.armed limit) = none) := by
  constructor
  · have hsim := Counting.confined_armed hfilled hprecise hstart
    exact loop_isSome hlayout hprecise hsim rfl
  · intro hrenews turns pc' sim' harrival hstuck
    have hcompiler : sim'.cache.compiler.Renews := by rwa [arrival_compiler harrival]
    exact loop_eq_none_of_arrival harrival (hstuck.loop_eq_none hcompiler)

/-- A jump out of memory, with a handler that can be fetched and with one that cannot. -/
theorem loop_ends_unless_stuck_jump :
    (∃ sim, simulate {} (.loaded 0x1000 [⟨.jmp, 0, 0, 64⟩]) = .ok sim ∧
      (loop 3 7 0x1000 (sim.armed 3)).isSome = true) ∧
    ∃ sim, simulate {} { Core.loaded 0x1000 [⟨.jmp, 0, 0, 64⟩] with trapVector := 0 } = .ok sim ∧
      ∀ fuel, loop 3 fuel 0x1000 (sim.armed 3) = none := by
  constructor
  · obtain ⟨sim, hsim, hlayout, hprecise, hzero, hvector⟩ : ∃ sim,
        simulate {} (.loaded 0x1000 [⟨.jmp, 0, 0, 64⟩]) = .ok sim ∧
          sim.settings.layout = layout ∧ sim.settings.preciseLimit = true ∧
          sim.instructionCount = 0 ∧
          (sim.armed 3).machine.core.Mapped (sim.armed 3).machine.core.trapVector :=
      ⟨_, rfl, rfl, rfl, rfl, by decide⟩
    have hstart : sim.instructionCount ≤ 3 := by
      rw [hzero]
      decide
    have hends := (loop_ends_unless_stuck hlayout (Reachable.new hsim).filled hprecise hstart
      0x1000).1 fun _ _ _ => not_stuck_of_vector_mapped hvector
    rw [hzero] at hends
    exact ⟨sim, hsim, hends⟩
  · obtain ⟨sim, hsim, hlayout, hprecise, hzero, hcompiler, hstuck⟩ : ∃ sim,
        simulate {} { Core.loaded 0x1000 [⟨.jmp, 0, 0, 64⟩] with trapVector := 0 } = .ok sim ∧
          sim.settings.layout = layout ∧ sim.settings.preciseLimit = true ∧
          sim.instructionCount = 0 ∧ sim.cache.compiler = .standard {} ∧
          ∃ sim', arrival 3 1 0x1000 (sim.armed 3) = some (0x1100, sim') ∧ Stuck 3 0x1100 sim' :=
      ⟨_, rfl, rfl, rfl, rfl, rfl, _, rfl, by decide, by decide, by decide⟩
    obtain ⟨sim', harrival, hstuck⟩ := hstuck
    exact ⟨sim, hsim, (loop_ends_unless_stuck hlayout (Reachable.new hsim).filled hprecise
      (by rw [hzero]; decide) 0x1000).2 (hcompiler ▸ (Compiler.standard_reliable {}).renews)
      1 _ sim' harrival hstuck⟩

end Mini

end GuestSim

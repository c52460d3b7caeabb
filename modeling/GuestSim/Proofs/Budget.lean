import Mathlib.Algebra.Group.Nat.Defs
import GuestSim.Proofs.Mini.Footprint

/-! # The instruction budget

How far the instruction counter can get in the course of a run: exactly to a precise limit, and to
the end of the unit that reaches it otherwise. -/

namespace GuestSim

namespace Simulator

variable {C G δ : Type} [Architecture C] [Emitter G C]

/-! ## One turn -/

theorem found_icountLimit {sim sim' : Simulator C G δ} {pc : UInt64}
    {result : Except UnitFailure CodeUnit} (h : sim.find pc = (result, sim')) :
    sim'.machine.context.icountLimit = sim.machine.context.icountLimit := by
  have hkeep : (sim.find pc).2.machine.context.icountLimit = sim.machine.context.icountLimit :=
    (find_keeps (I := fun m => m.context.icountLimit = sim.machine.context.icountLimit)
    (fun _ _ h => h) (fun _ _ _ h => h) pc rfl).2
  rwa [h] at hkeep

theorem Filled.found {sim sim' : Simulator C G δ} (hfilled : sim.Filled) {pc : UInt64}
    {unit : CodeUnit} (h : sim.find pc = (.ok unit, sim')) :
    sim'.settings = sim.settings ∧ unit.Made G sim.settings := by
  have hsettings := sim.find_settings pc
  rw [h] at hsettings
  exact ⟨hsettings, hfilled.found_made h⟩

variable [Debugger δ]

theorem turn_icountLimit (limit pc : UInt64) (sim : Simulator C G δ) :
    (sim.turn limit pc).2.machine.context.icountLimit = sim.machine.context.icountLimit :=
  turn_keeps (I := fun m => m.context.icountLimit = sim.machine.context.icountLimit)
    (fun _ _ h => h) (fun _ _ _ h => h) (fun _ _ _ h => h)
    (fun m op h => (m.perform_icountLimit op).trans h) (fun _ h => h) (fun _ _ _ h => h)
    limit pc rfl

theorem turnStarts_of_spent {limit pc : UInt64} {sim : Simulator C G δ}
    (h : limit ≤ sim.instructionCount) : sim.turnStarts limit pc = [] := by
  rw [turnStarts, if_pos h]

theorem turnStarts_of_error {limit pc : UInt64} {sim sim' : Simulator C G δ} {e : UnitFailure}
    (hleft : ¬ limit ≤ sim.instructionCount) (h : sim.find pc = (.error e, sim')) :
    sim.turnStarts limit pc = [] := by
  rw [turnStarts, if_neg hleft, h]

theorem turnStarts_of_ok {limit pc : UInt64} {sim sim' : Simulator C G δ} {unit : CodeUnit}
    (hleft : ¬ limit ≤ sim.instructionCount) (h : sim.find pc = (.ok unit, sim')) :
    sim.turnStarts limit pc =
      unit.starts (sim'.machine.enter sim.settings.layout.nextPc.index pc) := by
  have hsettings := sim.find_settings pc
  rw [h] at hsettings
  rw [turnStarts, if_neg hleft, h, ← hsettings]

theorem Filled.turnStarts_length_le {sim : Simulator C G δ} (h : sim.Filled) (limit pc : UInt64) :
    (sim.turnStarts limit pc).length ≤ sim.settings.capacity := by
  by_cases hspent : limit ≤ sim.instructionCount
  · simp [turnStarts_of_spent hspent]
  · cases hfind : sim.find pc with
    | mk result sim₁ =>
        cases result with
        | error e => simp [turnStarts_of_error hspent hfind]
        | ok unit =>
            rw [turnStarts_of_ok hspent hfind]
            exact Nat.le_trans (Draft.startsFrom_length_le _ _ _ _) (h.found hfind).2.size_le

/-- Only a turn that finds the budget used up ends the run for that reason. -/
theorem turn_eq_instructionLimit {limit pc pc' : UInt64} {sim sim' : Simulator C G δ}
    (h : sim.turn limit pc = (.exit .instructionLimit pc', sim')) :
    limit ≤ sim'.instructionCount := by
  by_cases hspent : limit ≤ sim.instructionCount
  · rw [turn_of_spent hspent, Prod.mk.injEq] at h
    rwa [← h.2]
  · rw [turn_of_left hspent] at h
    cases hcase : sim.attempt pc with
    | mk result sim₁ =>
        rw [hcase] at h
        match result with
        | .ok _ => simp [react] at h
        | .error (.exception (.accessTrap _ _)) => simp [react] at h
        | .error (.exception (.stopped _)) => simp [react] at h
        | .error (.exception (.undecodable _)) => simp [react] at h
        | .error (.fatal _) => simp [react] at h

/-- What a view shows of every turn, it shows of the loop. -/
theorem forall_overTurns {β : Type} {P : β → Prop} {I : Simulator C G δ → Prop} {limit : UInt64}
    {view : UInt64 → Simulator C G δ → List β}
    (hview : ∀ pc sim, I sim → ∀ x ∈ view pc sim, P x)
    (hturn : ∀ pc sim, I sim → I (sim.turn limit pc).2) {fuel : Nat} {pc : UInt64}
    {sim : Simulator C G δ} (h : I sim) : ∀ x ∈ overTurns view limit fuel pc sim, P x := by
  induction fuel generalizing pc sim with
  | zero => simp [overTurns]
  | succ fuel ih =>
      have hnext := hturn pc sim h
      intro x hx
      rw [overTurns] at hx
      rcases List.mem_append.mp hx with hx | hx
      · exact hview pc sim h x hx
      · cases hcase : sim.turn limit pc with
        | mk ending sim₁ =>
            rw [hcase] at hx hnext
            cases ending with
            | next pc₁ => exact ih hnext x hx
            | exit e pc₁ => simp at hx
            | failed e pc₁ => simp at hx

theorem loop_eq_instructionLimit {limit pc pc' : UInt64} {fuel : Nat} {sim sim' : Simulator C G δ}
    (h : loop limit fuel pc sim = some (.ok .instructionLimit, pc', sim')) :
    limit ≤ sim'.instructionCount := by
  induction fuel generalizing pc sim with
  | zero => simp [loop] at h
  | succ fuel ih =>
      rw [loop] at h
      cases hcase : sim.turn limit pc with
      | mk ending sim₁ =>
          rw [hcase] at h
          cases ending with
          | next pc₁ => exact ih h
          | exit e pc₁ =>
              simp only [Option.some.injEq, Prod.mk.injEq, Except.ok.injEq] at h
              obtain ⟨rfl, rfl, rfl⟩ := h
              exact turn_eq_instructionLimit hcase
          | failed e pc₁ => simp at h

end Simulator

namespace Counting

variable {C G δ : Type} [Architecture C] [Emitter G C] [Debugger δ]

open Simulator

section Turn

variable {sim : Simulator C G δ} (h : Counting C G δ sim.settings.layout)

include h

theorem count_find (pc : UInt64) :
    (∀ p ∈ sim.findPoints pc, p.count = sim.machine.count) ∧
      (sim.find pc).2.machine.count = sim.machine.count :=
  find_keeps (I := fun m => m.count = sim.machine.count)
    (fun m addr hm => (h.resolve m.core addr).trans hm)
    (fun pc ordinal s hs => (h.generate pc (UInt32.ofNat ordinal) s.1 s.2.core).trans hs) pc rfl

theorem count_found {sim' : Simulator C G δ} {pc : UInt64}
    {result : Except UnitFailure CodeUnit} (hfind : sim.find pc = (result, sim')) :
    sim'.machine.count = sim.machine.count := by
  have hcount := (h.count_find pc).2
  rwa [hfind] at hcount

theorem count_enter (m : Machine C δ) (pc : UInt64) :
    (m.enter sim.settings.layout.nextPc.index pc).count = m.count :=
  h.writeNextPc m.core pc

theorem count_react (pc : UInt64)
    (outcome : Except UnitFailure UInt64 × Simulator C G δ) :
    (react pc outcome).2.machine.count = outcome.2.machine.count :=
  react_keeps (I := fun m => m.count = outcome.2.machine.count)
    (fun m id addr hm => (h.enterTrap m.core id addr).trans hm) pc rfl

/-- A turn counts the instructions that it starts. -/
theorem count_turn (hfilled : sim.Filled) (limit pc : UInt64) :
    (sim.turn limit pc).2.machine.count =
      sim.machine.count + UInt64.ofNat (sim.turnStarts limit pc).length := by
  by_cases hspent : limit ≤ sim.instructionCount
  · simp [turn_of_spent hspent, turnStarts_of_spent hspent]
  · rw [turn_of_left hspent, h.count_react]
    cases hfind : sim.find pc with
    | mk result sim₁ =>
        have hsearch := h.count_found hfind
        cases result with
        | error e => simp [attempt_of_error hfind, turnStarts_of_error hspent hfind, hsearch]
        | ok unit =>
            obtain ⟨hsettings, hmade⟩ := hfilled.found hfind
            rw [turnStarts_of_ok hspent hfind, attempt_of_ok hfind, runUnit_machine]
            simp only [hsettings]
            rw [← hsearch, ← h.count_enter sim₁.machine pc]
            exact h.count_code rfl hmade _

theorem turnStarts_le (hfilled : sim.Filled) (hprecise : sim.settings.preciseLimit = true)
    (hm : sim.machine.count ≤ sim.machine.context.icountLimit) (limit pc : UInt64) :
    sim.machine.count.toNat + (sim.turnStarts limit pc).length ≤
      sim.machine.context.icountLimit.toNat := by
  by_cases hspent : limit ≤ sim.instructionCount
  · simpa [turnStarts_of_spent hspent] using UInt64.le_iff_toNat_le.mp hm
  · cases hfind : sim.find pc with
    | mk result sim₁ =>
        have hsearch := h.count_found hfind
        have hlimit := found_icountLimit hfind
        cases result with
        | error e =>
            simpa [turnStarts_of_error hspent hfind] using UInt64.le_iff_toNat_le.mp hm
        | ok unit =>
            obtain ⟨-, hmade⟩ := hfilled.found hfind
            rw [turnStarts_of_ok hspent hfind, ← hsearch, ← hlimit,
              ← h.count_enter sim₁.machine pc]
            rw [← hsearch, ← hlimit, ← h.count_enter sim₁.machine pc] at hm
            exact h.starts_le (hmade.settings_eq ▸ rfl) (hmade.settings_eq ▸ hprecise) 0
              hmade.generated hm

theorem count_turn_le (hfilled : sim.Filled) (hprecise : sim.settings.preciseLimit = true)
    (hm : sim.machine.count ≤ sim.machine.context.icountLimit) (limit pc : UInt64) :
    (sim.turn limit pc).2.machine.count ≤ sim.machine.context.icountLimit := by
  have hle := h.turnStarts_le hfilled hprecise hm limit pc
  have hlt := sim.machine.context.icountLimit.toNat_lt
  rw [h.count_turn hfilled, UInt64.le_iff_toNat_le, UInt64.toNat_add, UInt64.toNat_ofNat']
  omega

/-- Under a precise limit the counter does not pass the limit at any point of a turn. -/
theorem turnPoints_le (hfilled : sim.Filled) (hprecise : sim.settings.preciseLimit = true)
    (hm : sim.machine.count ≤ sim.machine.context.icountLimit) (limit pc : UInt64) :
    ∀ p ∈ sim.turnPoints limit pc, p.count ≤ sim.machine.context.icountLimit := by
  by_cases hspent : limit ≤ sim.instructionCount
  · simpa [turnPoints, hspent] using hm
  · have hpoints := (h.count_find pc).1
    rw [turnPoints, if_neg hspent]
    intro p hp
    simp only [List.cons_append, List.mem_cons, List.mem_append, List.not_mem_nil,
      or_false] at hp
    rcases hp with rfl | (hp | hp) | rfl
    · exact hm
    · rw [hpoints p hp]
      exact hm
    · cases hfind : sim.find pc with
      | mk result sim₁ =>
          have hsearch := h.count_found hfind
          have hlimit := found_icountLimit hfind
          rw [hfind] at hp
          cases result with
          | error e =>
              rw [List.mem_singleton.mp hp, hsearch]
              exact hm
          | ok unit =>
              obtain ⟨hsettings, hmade⟩ := hfilled.found hfind
              simp only [hsettings] at hp
              rw [← hsearch, ← hlimit, ← h.count_enter sim₁.machine pc] at hm
              rw [← hlimit]
              exact h.code_points_le rfl hprecise hmade hm p hp
    · exact h.count_turn_le hfilled hprecise hm limit pc

end Turn

/-! ## The loop -/

/-- What holds before every turn of a run under a precise limit. -/
structure Confined (settings : Settings) (limit : UInt64) (sim : Simulator C G δ) : Prop where
  settings_eq : sim.settings = settings
  filled : sim.Filled
  icountLimit_eq : sim.machine.context.icountLimit = limit
  count_le : sim.machine.count ≤ limit

theorem Confined.turn {settings : Settings} (h : Counting C G δ settings.layout)
    (hprecise : settings.preciseLimit = true) {limit : UInt64} (pc : UInt64)
    {sim : Simulator C G δ} (hsim : Confined settings limit sim) :
    Confined settings limit (sim.turn limit pc).2 where
  settings_eq := (turn_settings limit pc sim).trans hsim.settings_eq
  filled := hsim.filled.turn limit pc
  icountLimit_eq := (turn_icountLimit limit pc sim).trans hsim.icountLimit_eq
  count_le := by
    obtain ⟨rfl, hfilled, rfl, hm⟩ := hsim
    exact h.count_turn_le hfilled hprecise hm _ pc

theorem Confined.turnStarts_le {settings : Settings} (h : Counting C G δ settings.layout)
    (hprecise : settings.preciseLimit = true) {limit : UInt64} (pc : UInt64)
    {sim : Simulator C G δ} (hsim : Confined settings limit sim) :
    sim.machine.count.toNat + (sim.turnStarts limit pc).length ≤ limit.toNat := by
  obtain ⟨rfl, hfilled, rfl, hm⟩ := hsim
  exact Counting.turnStarts_le h hfilled hprecise hm _ pc

theorem Confined.turnPoints_le {settings : Settings} (h : Counting C G δ settings.layout)
    (hprecise : settings.preciseLimit = true) {limit : UInt64} (pc : UInt64)
    {sim : Simulator C G δ} (hsim : Confined settings limit sim) :
    ∀ p ∈ sim.turnPoints limit pc, p.count ≤ limit := by
  obtain ⟨rfl, hfilled, rfl, hm⟩ := hsim
  exact Counting.turnPoints_le h hfilled hprecise hm _ pc

omit [Debugger δ] in
theorem confined_armed {sim : Simulator C G δ} (hfilled : sim.Filled)
    (hprecise : sim.settings.preciseLimit = true) {limit : UInt64}
    (hm : sim.machine.count ≤ limit) : Confined sim.settings limit (sim.armed limit) where
  settings_eq := rfl
  filled := hfilled.of_subset rfl fun _ hentry => hentry
  icountLimit_eq := by simp [armed, hprecise]
  count_le := hm

/-- Whatever the limit is, a turn that finds budget left passes it by less than a unit. -/
theorem turnStarts_overrun_le {sim : Simulator C G δ} (hfilled : sim.Filled) {limit : UInt64}
    (pc : UInt64) {bound : Nat} (hbound : limit.toNat - 1 + sim.settings.capacity ≤ bound)
    (hm : sim.machine.count.toNat ≤ bound) :
    sim.machine.count.toNat + (sim.turnStarts limit pc).length ≤ bound := by
  by_cases hspent : limit ≤ sim.instructionCount
  · simpa [turnStarts_of_spent hspent] using hm
  · have hsize := hfilled.turnStarts_length_le limit pc
    have hleft : sim.machine.count.toNat < limit.toNat :=
      UInt64.lt_iff_toNat_lt.mp (UInt64.not_le.mp hspent)
    omega

/-- Where the counter can get in the loop: with at most `bound` after every turn that finds budget
left, it does not pass `bound`, and counts what the loop starts. -/
theorem count_loop {layout : RegLayout} (h : Counting C G δ layout) {limit : UInt64}
    {bound : Nat} (hbound : bound < 2 ^ 64) {I : Simulator C G δ → Prop}
    (hsettings : ∀ sim, I sim → sim.settings.layout = layout ∧ sim.Filled)
    (hturn : ∀ pc sim, I sim → I (sim.turn limit pc).2)
    (hstarts : ∀ pc sim, I sim → sim.machine.count.toNat ≤ bound →
      sim.machine.count.toNat + (sim.turnStarts limit pc).length ≤ bound)
    {fuel : Nat} {pc pc' : UInt64} {sim sim' : Simulator C G δ}
    {result : Except SimError RunExit} (hsim : I sim) (hm : sim.machine.count.toNat ≤ bound)
    (hloop : loop limit fuel pc sim = some (result, pc', sim')) :
    sim'.machine.count.toNat =
        sim.machine.count.toNat + (overTurns (turnStarts limit) limit fuel pc sim).length ∧
      sim'.machine.count.toNat ≤ bound := by
  induction fuel generalizing pc sim with
  | zero => simp [loop] at hloop
  | succ fuel ih =>
      obtain ⟨hlayout, hfilled⟩ := hsettings sim hsim
      have hcount := (hlayout.symm ▸ h).count_turn hfilled limit pc
      have hle := hstarts pc sim hsim hm
      have hnext := hturn pc sim hsim
      have hadded : (sim.turn limit pc).2.machine.count.toNat =
          sim.machine.count.toNat + (sim.turnStarts limit pc).length := by
        rw [hcount, UInt64.toNat_add, UInt64.toNat_ofNat']
        omega
      rw [loop] at hloop
      rw [overTurns, List.length_append]
      cases hcase : sim.turn limit pc with
      | mk ending sim₁ =>
          rw [hcase] at hloop hnext hadded
          simp only at hadded hnext
          cases ending with
          | next pc₁ =>
              obtain ⟨hrest, hlast⟩ := ih hnext (by omega) hloop
              exact ⟨by simp only; omega, hlast⟩
          | exit e pc₁ =>
              simp only [Option.some.injEq, Prod.mk.injEq] at hloop
              obtain ⟨-, -, rfl⟩ := hloop
              exact ⟨by simpa using hadded, by omega⟩
          | failed e pc₁ =>
              simp only [Option.some.injEq, Prod.mk.injEq] at hloop
              obtain ⟨-, -, rfl⟩ := hloop
              exact ⟨by simpa using hadded, by omega⟩

/-! ## Runs -/

theorem count_closed {sim : Simulator C G δ} (h : Counting C G δ sim.settings.layout)
    (result : Except SimError RunExit) (pc : UInt64) :
    (sim.disarmed.machine.writeReg sim.settings.layout.pc.index pc).count = sim.machine.count ∧
      (sim.closed result pc).machine.count = sim.machine.count := by
  have hpc : (sim.disarmed.machine.writeReg sim.settings.layout.pc.index pc).count =
      sim.machine.count := h.writePc sim.machine.core pc
  have hboth : (sim.disarmed.writePc pc).machine.count = sim.machine.count :=
    (h.writeNextPc _ pc).trans hpc
  refine ⟨hpc, ?_⟩
  unfold closed
  split
  · split
    · exact hboth
    · rfl
  · rfl

theorem toNat_subSaturating {a b : UInt64} {n : Nat} (h : a.toNat = b.toNat + n) :
    (subSaturating a b).toNat = n := by
  have hle : b ≤ a := by
    rw [UInt64.le_iff_toNat_le]
    omega
  rw [subSaturating, if_neg (UInt64.not_lt.mpr hle), UInt64.toNat_sub_of_le _ _ hle]
  omega

/-- A run counts what it starts, and not past a bound that its turns respect. It ends for the limit
only once the limit is reached. -/
theorem count_run {sim sim' : Simulator C G δ} (h : Counting C G δ sim.settings.layout)
    {fuel bound : Nat} (hbound : bound < 2 ^ 64) {I : Simulator C G δ → Prop}
    {limit : Option UInt64} (hkeep : ∀ s, I s → s.settings = sim.settings ∧ s.Filled)
    (hturn : ∀ pc s, I s → I (s.turn (limit.getD (-1)) pc).2)
    (hstarts : ∀ pc s, I s → s.machine.count.toNat ≤ bound →
      s.machine.count.toNat + (s.turnStarts (limit.getD (-1)) pc).length ≤ bound)
    (harmed : I (sim.armed (limit.getD (-1)))) (hm : sim.machine.count.toNat ≤ bound)
    {result : Except SimError RunExit} (hrun : sim.run fuel limit = some (result, sim')) :
    sim'.machine.count.toNat ≤ bound ∧
      (result = .ok .instructionLimit → limit.getD (-1) ≤ sim'.machine.count) ∧
      sim'.lastRun.map (·.instructions.toNat) = some (sim.runStarts fuel limit).length := by
  obtain ⟨pc', sim₁, hloop, rfl⟩ := run_eq_some hrun
  have hsettings := (hkeep sim₁ (loop_keeps hturn harmed hloop)).1
  have hclosed : (sim₁.closed result pc').instructionCount = sim₁.machine.count :=
    (count_closed (hsettings ▸ h) result pc').2
  obtain ⟨hcount, hle⟩ := h.count_loop hbound
    (fun s hs => ⟨congrArg Settings.layout (hkeep s hs).1, (hkeep s hs).2⟩) hturn hstarts harmed
    hm hloop
  refine ⟨?_, ?_, ?_⟩
  · rw [← hclosed] at hle
    exact hle
  · rintro rfl
    change limit.getD (-1) ≤ (sim₁.closed (.ok .instructionLimit) pc').instructionCount
    rw [hclosed]
    exact loop_eq_instructionLimit hloop
  · have hstats := toNat_subSaturating (b := sim.instructionCount) hcount
    simpa [noteStats, hclosed, runStarts] using hstats

/-- Under a precise limit the counter passes through a run without passing the limit. -/
theorem runPoints_le {sim : Simulator C G δ} (h : Counting C G δ sim.settings.layout)
    (hfilled : sim.Filled) (hprecise : sim.settings.preciseLimit = true) {limit : Option UInt64}
    (hm : sim.machine.count ≤ limit.getD (-1)) (fuel : Nat) :
    ∀ p ∈ sim.runPoints fuel limit, p.count ≤ limit.getD (-1) := by
  have harmed := confined_armed hfilled hprecise hm
  have hturn (pc : UInt64) (s : Simulator C G δ) :
      Confined sim.settings (limit.getD (-1)) s →
        Confined sim.settings (limit.getD (-1)) (s.turn (limit.getD (-1)) pc).2 :=
    Confined.turn h hprecise pc
  intro p hp
  rw [runPoints, List.cons_append, List.mem_cons, List.mem_append] at hp
  rcases hp with rfl | hp | hp
  · exact hm
  · refine forall_overTurns (P := fun q => q.count ≤ limit.getD (-1)) ?_ hturn harmed p hp
    exact fun pc s hs => Confined.turnPoints_le h hprecise pc hs
  · cases hloop : loop (limit.getD (-1)) fuel (Architecture.currentPc sim.machine.core)
        (sim.armed (limit.getD (-1))) with
    | none => simp [hloop] at hp
    | some ending =>
        obtain ⟨result, pc', sim₁⟩ := ending
        have hend := loop_keeps hturn harmed hloop
        obtain ⟨hpc, hclosed⟩ := count_closed (hend.settings_eq ▸ h) result pc'
        simp only [hloop, List.mem_cons, List.not_mem_nil, or_false] at hp
        rcases hp with rfl | rfl | rfl
        · exact hend.count_le
        · exact hpc ▸ hend.count_le
        · exact hclosed ▸ hend.count_le

end Counting

namespace Simulator

variable {C G δ : Type} [Architecture C] [Emitter G C] [Debugger δ]

/-- A run under a precise limit never counts past it, and ends on it when the limit is what ends
the run. An imprecise limit can be passed by what fits in a unit. Either way the statistics of the
run give the number of instructions that it started. -/
theorem run_within_budget {sim : Simulator C G δ} (h : Counting C G δ sim.settings.layout)
    (hfilled : sim.Filled) (fuel : Nat) (limit : Option UInt64) :
    (sim.settings.preciseLimit = true → sim.instructionCount ≤ limit.getD (-1) →
      (∀ p ∈ sim.runPoints fuel limit,
        Architecture.instructionCount p.core ≤ limit.getD (-1)) ∧
      ∀ result sim', sim.run fuel limit = some (result, sim') →
        sim'.instructionCount ≤ limit.getD (-1) ∧
        (result = .ok .instructionLimit → sim'.instructionCount = limit.getD (-1)) ∧
        sim'.lastRun.map (·.instructions.toNat) = some (sim.runStarts fuel limit).length) ∧
    (sim.settings.preciseLimit = false → sim.instructionCount < limit.getD (-1) →
      (limit.getD (-1)).toNat + sim.settings.capacity ≤ 2 ^ 64 →
      ∀ result sim', sim.run fuel limit = some (result, sim') →
        (result = .ok .instructionLimit → limit.getD (-1) ≤ sim'.instructionCount ∧
          sim'.instructionCount.toNat ≤ (limit.getD (-1)).toNat - 1 + sim.settings.capacity) ∧
        sim'.lastRun.map (·.instructions.toNat) = some (sim.runStarts fuel limit).length) := by
  refine ⟨fun hprecise hm => ⟨h.runPoints_le hfilled hprecise hm fuel, ?_⟩, ?_⟩
  · intro result sim' hrun
    obtain ⟨hle, hreached, hstats⟩ := h.count_run (limit.getD (-1)).toNat_lt
      (fun s hs => ⟨hs.settings_eq, hs.filled⟩)
      (fun pc s hs => Counting.Confined.turn h hprecise pc hs)
      (fun pc s hs _ => Counting.Confined.turnStarts_le h hprecise pc hs)
      (Counting.confined_armed hfilled hprecise hm) (UInt64.le_iff_toNat_le.mp hm) hrun
    have hle' := UInt64.le_iff_toNat_le.mpr hle
    exact ⟨hle', fun hresult => UInt64.le_antisymm hle' (hreached hresult), hstats⟩
  · intro _ hm hroom result sim' hrun
    have hlt := UInt64.lt_iff_toNat_lt.mp hm
    have hpos : 1 ≤ sim.settings.capacity := Nat.le_max_left _ _
    have hbound : (limit.getD (-1)).toNat - 1 + sim.settings.capacity < 2 ^ 64 := by omega
    have hstart : sim.machine.count.toNat ≤
        (limit.getD (-1)).toNat - 1 + sim.settings.capacity := by
      change sim.instructionCount.toNat ≤ _
      omega
    obtain ⟨hle, hreached, hstats⟩ := h.count_run
      (I := fun s => s.settings = sim.settings ∧ s.Filled) hbound (fun _ hs => hs)
      (fun pc s hs => ⟨(turn_settings _ pc s).trans hs.1, hs.2.turn _ pc⟩)
      (fun pc s hs hcount =>
        Counting.turnStarts_overrun_le hs.2 pc (Nat.le_of_eq (by rw [hs.1])) hcount)
      ⟨rfl, hfilled.of_subset rfl fun _ hentry => hentry⟩ hstart hrun
    exact ⟨fun hresult => ⟨hreached hresult, hle⟩, hstats⟩

open Mini in
set_option maxRecDepth 2000 in
/-- Three instructions of a loop of two, exactly and with the rest of the unit. -/
theorem run_within_budget_loop :
    ∃ program, program = [⟨.addi, 1, 1, 1⟩, ⟨.jmp, 0, 0, -1⟩] ∧
      (∃ sim sim', simulate {} (.loaded 0x1000 program) = .ok sim ∧
        sim.run 5 (some 3) = some (.ok .instructionLimit, sim') ∧
        (∀ p ∈ sim.runPoints 5 (some 3), Architecture.instructionCount p.core ≤ 3) ∧
        sim'.instructionCount = 3 ∧
        sim'.lastRun.map (·.instructions.toNat) = some (sim.runStarts 5 (some 3)).length) ∧
      ∃ sim sim', simulate { preciseLimit := false } (.loaded 0x1000 program) = .ok sim ∧
        sim.run 5 (some 3) = some (.ok .instructionLimit, sim') ∧
        3 ≤ sim'.instructionCount ∧ sim'.instructionCount.toNat ≤ 3 - 1 + 128 ∧
        sim'.lastRun.map (·.instructions.toNat) = some (sim.runStarts 5 (some 3)).length := by
  refine ⟨_, rfl, ?_, ?_⟩
  · obtain ⟨sim, sim', hsim, hrun, hprecise, hlayout, hzero⟩ : ∃ sim sim',
        simulate {} (.loaded 0x1000 [⟨.addi, 1, 1, 1⟩, ⟨.jmp, 0, 0, -1⟩]) = .ok sim ∧
          sim.run 5 (some 3) = some (.ok .instructionLimit, sim') ∧
          sim.settings.preciseLimit = true ∧ sim.settings.layout = Mini.layout ∧
          sim.instructionCount = 0 := ⟨_, _, rfl, rfl, rfl, rfl, rfl⟩
    have hbudget := (run_within_budget (hlayout ▸ Mini.counting _) (Reachable.new hsim).filled 5
      (some 3)).1 hprecise (by rw [hzero]; decide)
    obtain ⟨-, hreached, hstats⟩ := hbudget.2 _ _ hrun
    exact ⟨sim, sim', hsim, hrun, hbudget.1, hreached rfl, hstats⟩
  · obtain ⟨sim, sim', hsim, hrun, himprecise, hlayout, hcapacity, hzero⟩ : ∃ sim sim',
        simulate { preciseLimit := false }
            (.loaded 0x1000 [⟨.addi, 1, 1, 1⟩, ⟨.jmp, 0, 0, -1⟩]) = .ok sim ∧
          sim.run 5 (some 3) = some (.ok .instructionLimit, sim') ∧
          sim.settings.preciseLimit = false ∧ sim.settings.layout = Mini.layout ∧
          sim.settings.capacity = 128 ∧ sim.instructionCount = 0 :=
      ⟨_, _, rfl, rfl, rfl, rfl, rfl, rfl⟩
    obtain ⟨hreached, hstats⟩ := (run_within_budget (hlayout ▸ Mini.counting _)
      (Reachable.new hsim).filled 5 (some 3)).2 himprecise (by rw [hzero]; decide)
      (by rw [hcapacity]; decide) _ _ hrun
    rw [hcapacity] at hreached
    exact ⟨sim, sim', hsim, hrun, (hreached rfl).1, (hreached rfl).2, hstats⟩

end Simulator

end GuestSim

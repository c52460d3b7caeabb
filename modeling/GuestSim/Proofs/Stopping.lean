import GuestSim.Proofs.Scripts

/-! # Where a run stops

A run that is stopped, or that fails, does not tell the core where it is to go on. Within a unit the
core knows it from the code before the instruction; between units it does not. -/

namespace GuestSim

/-! ## Turns -/

/-- The turn ends the run without telling the core where. -/
def Turn.Stops : Turn → Prop
  | .exit e _ => e.movesPc = false
  | .failed _ _ => True
  | .next _ => False

def Turn.ofResult (pc : UInt64) : Except SimError RunExit → Turn
  | .ok e => .exit e pc
  | .error e => .failed e pc

/-- What is left to do when a unit entered at `pc` has counted these instructions and the run stops:
the last of them if it did not complete, the unit if there are none, and else nothing. -/
def Counted.unfinished {C δ : Type} [Architecture C] [Debugger δ] (pc : UInt64)
    (counted : List (Counted C δ)) : Option UInt64 :=
  match counted.getLast? with
  | none => some pc
  | some c => if c.stop.isSome then some c.address else none

/-- The core stands at what is left to do if an instruction did not complete, or if there was none
and the core was there before. -/
theorem Executed.unfinished_iff {C δ : Type} [Architecture C] [Debugger δ] {layout : RegLayout}
    {counted : List (Counted C δ)} {m m' : Machine C δ} (h : Executed layout counted m m')
    (pc : UInt64) :
    (∃ addr, Counted.unfinished pc counted = some addr ∧
        Architecture.currentPc m'.core = layout.pc.cut addr) ↔
      (∃ c ∈ counted.getLast?, c.stop.isSome = true) ∨
        counted = [] ∧ Architecture.currentPc m.core = layout.pc.cut pc := by
  rw [h.place, Counted.unfinished]
  cases hlast : counted.getLast? with
  | none => simp [List.getLast?_eq_none_iff.mp hlast]
  | some c =>
      have hne : counted ≠ [] := by
        rintro rfl
        simp at hlast
      by_cases hstop : c.stop.isSome = true
      · simp [hstop]
      · simp [hstop, hne]

namespace Simulator

variable {C G δ : Type} [Architecture C]

theorem react_stops {pc : UInt64} {outcome : Except UnitFailure UInt64 × Simulator C G δ}
    (h : (react pc outcome).1.Stops) : (react pc outcome).2 = outcome.2 := by
  obtain ⟨result, sim⟩ := outcome
  match result with
  | .ok _ => exact h.elim
  | .error (.exception (.accessTrap _ _)) => exact h.elim
  | .error (.exception (.stopped _)) => rfl
  | .error (.exception (.undecodable _)) => exact Bool.noConfusion h
  | .error (.fatal _) => rfl

variable [Emitter G C] [Debugger δ] {sim : Simulator C G δ}

theorem currentPc_find (h : Placing C G δ sim.settings.layout) (pc : UInt64) :
    Architecture.currentPc (sim.find pc).2.machine.core =
      Architecture.currentPc sim.machine.core :=
  (find_keeps
    (I := fun m => Architecture.currentPc m.core = Architecture.currentPc sim.machine.core)
    (fun m addr hm => (h.resolve m.core addr).trans hm)
    (fun pc ordinal s hs => (h.generate pc (UInt32.ofNat ordinal) s.1 s.2.core).trans hs)
    pc rfl).2

/-- A turn executes the instructions that it counts, and they have all completed if the unit ends by
itself. -/
theorem attempt_executed (h : Placing C G δ sim.settings.layout) (hfilled : sim.Filled)
    {limit : UInt64} (hleft : ¬ limit ≤ sim.instructionCount) (pc : UInt64) :
    Executed sim.settings.layout (sim.turnCounted limit pc) sim.machine
        (sim.attempt pc).2.machine ∧
      ∀ next, (sim.attempt pc).1 = .ok next → ∀ c ∈ sim.turnCounted limit pc, c.stop = none := by
  have hsearch := currentPc_find h pc
  have hsettings := sim.find_settings pc
  cases hfind : sim.find pc with
  | mk result sim₁ =>
      rw [hfind] at hsearch hsettings
      cases result with
      | error failure =>
          rw [turnCounted_of_error hleft hfind, attempt_of_error hfind]
          exact ⟨⟨by simp, hsearch⟩, by simp⟩
      | ok unit =>
          rw [turnCounted_of_ok hleft hfind, attempt_of_ok hfind, runUnit_machine, hsettings]
          let m := sim₁.machine.enter sim.settings.layout.nextPc.index pc
          obtain ⟨hexecuted, hcompleted⟩ :=
            h.code rfl (hfilled.found_made hfind) (m := m) rfl
          have hentered : Architecture.currentPc m.core = Architecture.currentPc sim.machine.core :=
            (h.writeNextPc sim₁.machine.core pc).trans hsearch
          refine ⟨⟨hexecuted.completed, ?_⟩, fun next hok => hcompleted ?_⟩
          · rw [← hentered]
            exact hexecuted.place
          · cases hcase : (unit.code.run m).2.context.exception with
            | none => rfl
            | some e =>
                rw [runUnit_of_raised (by rw [hsettings]) hcase] at hok
                cases hok

theorem turn_executed_of_stops (h : Placing C G δ sim.settings.layout) (hfilled : sim.Filled)
    {limit pc : UInt64} (hstops : (sim.turn limit pc).1.Stops) :
    Executed sim.settings.layout (sim.turnCounted limit pc) sim.machine
      (sim.turn limit pc).2.machine := by
  by_cases hspent : limit ≤ sim.instructionCount
  · rw [turn_of_spent hspent] at hstops
    exact Bool.noConfusion hstops
  · rw [turn_of_left hspent] at hstops ⊢
    rw [react_stops hstops]
    exact (attempt_executed h hfilled hspent pc).1

theorem turn_executed_of_ok (h : Placing C G δ sim.settings.layout) (hfilled : sim.Filled)
    {limit pc pc' : UInt64} {sim' : Simulator C G δ} (hturn : sim.turn limit pc = (.next pc', sim'))
    (hok : (sim.attempt pc).1 = .ok pc') :
    Executed sim.settings.layout (sim.turnCounted limit pc) sim.machine sim'.machine ∧
      ∀ c ∈ sim.turnCounted limit pc, c.stop = none := by
  by_cases hspent : limit ≤ sim.instructionCount
  · simp [turn_of_spent hspent] at hturn
  · obtain ⟨hexecuted, hcompleted⟩ := attempt_executed h hfilled hspent pc
    rw [turn_of_left hspent] at hturn
    cases hattempt : sim.attempt pc with
    | mk result sim₁ =>
        rw [hattempt] at hturn hok hexecuted hcompleted
        cases hok
        cases hturn
        exact ⟨hexecuted, hcompleted pc' rfl⟩

theorem head_turnCounted (h : Placing C G δ sim.settings.layout) (hfilled : sim.Filled)
    {limit pc : UInt64} {first : Counted C δ}
    (hfirst : (sim.turnCounted limit pc).head? = some first) :
    first.address = sim.settings.layout.nextPc.cut pc := by
  by_cases hspent : limit ≤ sim.instructionCount
  · simp [turnCounted_of_spent hspent] at hfirst
  cases hfind : sim.find pc with
  | mk result sim₁ =>
      cases result with
      | error failure => simp [turnCounted_of_error hspent hfind] at hfirst
      | ok unit =>
          have hmade := hfilled.found_made hfind
          rw [turnCounted_of_ok hspent hfind, Draft.counted] at hfirst
          cases hfragments : unit.fragments with
          | nil => exact absurd hfragments hmade.nonempty
          | cons fragment rest =>
              rw [hfragments] at hfirst
              by_cases hexhausted : unit.settings.Exhausted
                  (sim₁.machine.enter sim.settings.layout.nextPc.index pc)
              · simp [Draft.countedFrom_of_exhausted hexhausted] at hfirst
              · rw [Draft.countedFrom_of_not_exhausted hexhausted] at hfirst
                obtain rfl := Option.some.inj hfirst
                exact h.startAddress_enter (by rw [hmade.settings_eq]) sim₁.machine pc

/-! ## Runs -/

/-- Where the turns of a run begin. -/
def turns (fuel : Nat) (sim : Simulator C G δ) (limit : Option UInt64) :
    List (UInt64 × Simulator C G δ) :=
  overTurns (fun pc sim => [(pc, sim)]) (limit.getD (-1)) fuel
    (Architecture.currentPc sim.machine.core) (sim.armed (limit.getD (-1)))

theorem runCounted_eq_map (fuel : Nat) (sim : Simulator C G δ) (limit : Option UInt64) :
    sim.runCounted fuel limit =
      (sim.turns fuel limit).map fun t => t.2.turnCounted (limit.getD (-1)) t.1 := by
  rw [turns, List.map_eq_flatMap, flatMap_overTurns]
  rfl

/-- One turn leads to the next, and the last one ends the loop. -/
theorem loop_turns {limit : UInt64} {fuel : Nat} {pc pc' : UInt64} {sim' : Simulator C G δ}
    {result : Except SimError RunExit} (hloop : loop limit fuel pc sim = some (result, pc', sim')) :
    ∃ before pc₁ last, overTurns (fun pc sim => [(pc, sim)]) limit fuel pc sim =
        before ++ [(pc₁, last)] ∧
      last.turn limit pc₁ = (.ofResult pc' result, sim') ∧
      (before = [] → pc₁ = pc ∧ last = sim) ∧
      ∀ pc₀ prev, before.getLast? = some (pc₀, prev) →
        prev.turn limit pc₀ = (.next pc₁, last) := by
  induction fuel generalizing pc sim with
  | zero => simp [loop] at hloop
  | succ fuel ih =>
      rw [loop] at hloop
      rw [overTurns]
      cases hturn : sim.turn limit pc with
      | mk ending sim₁ =>
          rw [hturn] at hloop
          cases ending with
          | next pc₂ =>
              obtain ⟨before, pc₁, last, hturns, hlast, hfirst, hprev⟩ := ih hloop
              refine ⟨(pc, sim) :: before, pc₁, last, by simp [hturns], hlast, by simp, ?_⟩
              intro pc₀ prev hgetLast
              rw [List.getLast?_cons] at hgetLast
              cases hbefore : before.getLast? with
              | none =>
                  rw [hbefore] at hgetLast
                  cases hgetLast
                  obtain ⟨rfl, rfl⟩ := hfirst (List.getLast?_eq_none_iff.mp hbefore)
                  exact hturn
              | some t =>
                  rw [hbefore] at hgetLast
                  cases hgetLast
                  exact hprev pc₀ prev hbefore
          | exit e pc₂ =>
              simp only [Option.some.injEq, Prod.mk.injEq] at hloop
              obtain ⟨rfl, rfl, rfl⟩ := hloop
              exact ⟨[], pc, sim, by simp, hturn, fun _ => ⟨rfl, rfl⟩, by simp⟩
          | failed e pc₂ =>
              simp only [Option.some.injEq, Prod.mk.injEq] at hloop
              obtain ⟨rfl, rfl, rfl⟩ := hloop
              exact ⟨[], pc, sim, by simp, hturn, fun _ => ⟨rfl, rfl⟩, by simp⟩

theorem Filled.turns (hfilled : sim.Filled) (fuel : Nat) (limit : Option UInt64) :
    ∀ t ∈ sim.turns fuel limit, t.2.settings = sim.settings ∧ t.2.Filled := by
  refine forall_overTurns (I := fun s => s.settings = sim.settings ∧ s.Filled) ?_ ?_
    ⟨rfl, hfilled.of_subset rfl fun _ hentry => hentry⟩
  · intro pc s hs t ht
    rw [List.mem_singleton.mp ht]
    exact hs
  · exact fun pc s hs => ⟨(turn_settings _ pc s).trans hs.1, hs.2.turn _ pc⟩

/-- In no turn is an instruction executed behind one that did not complete. -/
theorem completed_of_mem_runCounted (h : Placing C G δ sim.settings.layout) (hfilled : sim.Filled)
    (fuel : Nat) (limit : Option UInt64) :
    ∀ unit ∈ sim.runCounted fuel limit, ∀ c ∈ unit.dropLast, c.stop = none := by
  intro unit hunit
  rw [runCounted_eq_map] at hunit
  obtain ⟨⟨pc, s⟩, hturn, rfl⟩ := List.mem_map.mp hunit
  obtain ⟨hsettings, hfilled'⟩ := hfilled.turns fuel limit _ hturn
  by_cases hspent : limit.getD (-1) ≤ s.instructionCount
  · simp [turnCounted_of_spent hspent]
  · exact (attempt_executed (hsettings ▸ h) hfilled' hspent pc).1.completed

/-- A run starts with the instruction that the core stands at. -/
theorem head_runCounted (h : Placing C G δ sim.settings.layout) (hfilled : sim.Filled)
    {fuel : Nat} {limit : Option UInt64} {first : Counted C δ}
    (hfirst : (sim.runCounted fuel limit).head?.bind List.head? = some first) :
    first.address =
      sim.settings.layout.nextPc.cut (Architecture.currentPc sim.machine.core) := by
  have harmed : (sim.armed (limit.getD (-1))).Filled := hfilled.of_subset rfl fun _ hentry => hentry
  have hplacing : Placing C G δ (sim.armed (limit.getD (-1))).settings.layout := h
  cases fuel with
  | zero => simp [runCounted, overTurns] at hfirst
  | succ fuel => exact head_turnCounted hplacing harmed hfirst

/-- A run that is stopped, or fails, leaves the core as the last turn does. -/
theorem machine_stopped {sim' : Simulator C G δ} {fuel : Nat} {limit : Option UInt64}
    {result : Except SimError RunExit} (hrun : sim.run fuel limit = some (result, sim'))
    (hstop : (∃ code, result = .ok (.stopped code)) ∨ ∃ e, result = .error e) :
    ∃ before pc last, sim.turns fuel limit = before ++ [(pc, last)] ∧
      (last.turn (limit.getD (-1)) pc).1.Stops ∧
      sim'.machine.core = (last.turn (limit.getD (-1)) pc).2.machine.core ∧
      (before = [] → pc = Architecture.currentPc sim.machine.core ∧
        last.machine.core = sim.machine.core) ∧
      ∀ pc₀ prev, before.getLast? = some (pc₀, prev) →
        prev.turn (limit.getD (-1)) pc₀ = (.next pc, last) := by
  obtain ⟨pc', sim₁, hloop, rfl⟩ := run_eq_some hrun
  obtain ⟨before, pc, last, hturns, hlast, hfirst, hprev⟩ := loop_turns hloop
  refine ⟨before, pc, last, hturns, ?_, ?_, fun hnil => ?_, hprev⟩
  · rw [hlast]
    rcases hstop with ⟨code, rfl⟩ | ⟨e, rfl⟩
    · exact rfl
    · trivial
  · rw [hlast]
    rcases hstop with ⟨code, rfl⟩ | ⟨e, rfl⟩ <;> rfl
  · obtain ⟨rfl, rfl⟩ := hfirst hnil
    exact ⟨rfl, rfl⟩

/-- A run that is stopped, or fails, leaves the core at what the last turn left to do exactly if an
instruction of the turn did not complete, or if the turn executed none and the core was there when
it began. It was, if the turn is the first one; if a unit ended by itself before the turn, the core
stands at the last instruction of that unit, which has completed. The next run starts where the core
stands. -/
theorem stop_keeps_place_iff {sim' : Simulator C G δ} (h : Placing C G δ sim.settings.layout)
    (hfilled : sim.Filled) {fuel : Nat} {limit : Option UInt64} {result : Except SimError RunExit}
    (hrun : sim.run fuel limit = some (result, sim'))
    (hstop : (∃ code, result = .ok (.stopped code)) ∨ ∃ e, result = .error e) :
    ∃ before pc last, sim.turns fuel limit = before ++ [(pc, last)] ∧
      let layout := sim.settings.layout
      let counted := last.turnCounted (limit.getD (-1)) pc
      (sim.runCounted fuel limit).getLast? = some counted ∧
      ((∃ addr, Counted.unfinished pc counted = some addr ∧
          Architecture.currentPc sim'.machine.core = layout.pc.cut addr) ↔
        (∃ c ∈ counted.getLast?, c.stop.isSome = true) ∨
          counted = [] ∧ Architecture.currentPc last.machine.core = layout.pc.cut pc) ∧
      Executed layout counted last.machine sim'.machine ∧
      (∀ unit ∈ sim.runCounted fuel limit, ∀ c ∈ unit.dropLast, c.stop = none) ∧
      (before = [] → Architecture.currentPc last.machine.core = layout.pc.cut pc) ∧
      (∀ pc₀ prev, before.getLast? = some (pc₀, prev) → (prev.attempt pc₀).1 = .ok pc →
        Executed layout (prev.turnCounted (limit.getD (-1)) pc₀) prev.machine last.machine ∧
          ∀ c ∈ prev.turnCounted (limit.getD (-1)) pc₀, c.stop = none) ∧
      ∀ fuel' limit' first, (sim'.runCounted fuel' limit').head?.bind List.head? = some first →
        first.address = layout.nextPc.cut (Architecture.currentPc sim'.machine.core) := by
  obtain ⟨before, pc, last, hturns, hstops, hcore, hfirst, hprev⟩ := machine_stopped hrun hstop
  have hmem := hfilled.turns fuel limit
  rw [hturns, List.forall_mem_append, List.forall_mem_singleton] at hmem
  obtain ⟨hbefore, hsettings, hfilled'⟩ := hmem
  have hlayout := (continues_run hrun).layout
  have hexecuted : Executed sim.settings.layout (last.turnCounted (limit.getD (-1)) pc)
      last.machine sim'.machine := by
    have hlast := turn_executed_of_stops (hsettings ▸ h) hfilled' hstops
    rw [hsettings] at hlast
    exact ⟨hlast.completed, hcore ▸ hlast.place⟩
  refine ⟨before, pc, last, hturns, ?_, hexecuted.unfinished_iff pc, hexecuted,
    completed_of_mem_runCounted h hfilled fuel limit, fun hnil => ?_, fun pc₀ prev hlast hok => ?_,
    fun fuel' limit' first hnext => ?_⟩
  · rw [runCounted_eq_map, hturns, List.map_append]
    exact List.getLast?_concat
  · obtain ⟨rfl, hsame⟩ := hfirst hnil
    rw [hsame, h.reads, RegSlot.cut_toUInt64]
  · obtain ⟨hsettings₀, hfilled₀⟩ := hbefore _ (List.mem_of_getLast? hlast)
    rw [← hsettings₀]
    exact turn_executed_of_ok (hsettings₀ ▸ h) hfilled₀ (hprev pc₀ prev hlast) hok
  · rw [← hlayout]
    exact head_runCounted (hlayout ▸ h) (hfilled.run hrun) hnext

end Simulator

/-! ## Two architectures -/

/-- Only the code before an instruction sets the address of the current one. -/
theorem Mini.placing (δ : Type) [Debugger δ] : Placing Core Codegen δ layout where
  fits := layout_fits
  reads core := (loadSlot_eq core layout.pc_mem).symm
  writeNextPc _ _ := rfl
  nextPc core v := by
    have hwrite : Architecture.writeReg core layout.nextPc.index v =
        Architecture.storeSlot core layout.nextPc (Word.const .w64 v) := by
      rw [storeSlot_eq core layout.nextPc_mem, Word.toUInt64_const_w64]
      rfl
    rw [hwrite, RegLayout.Fits.loadSlot_storeSlot_self layout_fits layout.nextPc_mem,
      Word.resize_const_of_le (Width.bits_le _)]
  notify core phase := congrArg (·.pc.toUInt64) (core.notify_regs phase)
  resolve _ _ := rfl
  generate pc ordinal emitter core := by rw [generate_state]
  body h := body_keeps (·.pc.toUInt64) (fun _ _ _ => rfl) h
  careful h := (ordinary_of_generated h).careful _ _
  leave _ _ := fun _ hp => congrArg (·.regs.pc.toUInt64) (ExitCode.core_of_mem_register_points hp)
  trap _ _ := fun _ hp => congrArg (·.regs.pc.toUInt64) (ExitCode.core_of_mem_register_points hp)

open Mini in
/-- The only instruction of the second unit stops the run. -/
theorem Simulator.stop_keeps_place_iff_halt :
    ∃ sim sim', simulate {} (.loaded 0x1000 [⟨.li, 1, 0, 7⟩, ⟨.jmp, 0, 0, 1⟩, ⟨.halt, 1, 0, 0⟩]) =
        .ok sim ∧
      sim.run 5 none = some (.ok (.stopped 7), sim') ∧
      (sim.runCounted 5 none).map (·.map fun c => (c.address, c.stop)) =
        [[(0x1000, none), (0x1004, none)], [(0x1008, some (.stopped 7))]] ∧
      Architecture.currentPc sim'.machine.core = 0x1008 := by
  obtain ⟨sim, sim', hsim, hlayout, hrun, hcounted⟩ : ∃ sim sim',
      simulate {} (.loaded 0x1000 [⟨.li, 1, 0, 7⟩, ⟨.jmp, 0, 0, 1⟩, ⟨.halt, 1, 0, 0⟩]) = .ok sim ∧
        sim.settings.layout = layout ∧ sim.run 5 none = some (.ok (.stopped 7), sim') ∧
        (sim.runCounted 5 none).map (·.map fun c => (c.address, c.stop)) =
          [[(0x1000, none), (0x1004, none)], [(0x1008, some (.stopped 7))]] :=
    ⟨_, _, rfl, rfl, rfl, rfl⟩
  obtain ⟨before, pc, last, -, hlast, hplace, -⟩ :=
    stop_keeps_place_iff (hlayout ▸ Mini.placing _) (Reachable.new hsim).filled hrun (.inl ⟨7, rfl⟩)
  have hviews := congrArg List.getLast? hcounted
  rw [List.getLast?_map, hlast] at hviews
  obtain ⟨c, hc, hview⟩ := List.map_eq_singleton_iff.mp (Option.some.inj hviews)
  obtain ⟨haddress, hstop⟩ := Prod.mk.inj hview
  rw [hc] at hplace
  obtain ⟨addr, hunfinished, hpc⟩ := hplace.mpr (.inl ⟨c, rfl, by rw [hstop]; rfl⟩)
  have hwhere : Counted.unfinished pc [c] = some c.address := by
    simp [Counted.unfinished, hstop]
  obtain rfl := Option.some.inj (hunfinished.symm.trans hwhere)
  refine ⟨sim, sim', hsim, hrun, hcounted, ?_⟩
  rw [hpc, haddress, hlayout]
  rfl

/-- The first instruction is a unit of its own. No code can be generated for the second, which stops
the run. -/
def Scripted.Program.stopping : Scripted.Program where
  instrs := [{ address := 0, script := .done, outcome := .branch },
    { address := 4, script := .call (.raise (.stopped 7)) .done }]

theorem Scripted.compact_regular : compact.Regular := by
  refine ⟨?_, by decide⟩
  constructor <;> decide

namespace Simulator

set_option maxRecDepth 2000 in
open Scripted in
/-- The second unit cannot be built, since the emitter stops the run. The core is left at the
instruction of the first unit, which has completed, and the next run executes it again. -/
theorem stop_between_units_loses_place :
    ∃ sim sim₁ sim₂ : Simulator (Core compact) (Codegen compact .stopping) (List Breakpoint),
      Simulator.new { core := {}, journal := ⟨.nothing, #[]⟩ } ⟨⟩ {} = .ok sim ∧
      Placing (Core compact) (Codegen compact .stopping) (List Breakpoint) sim.settings.layout ∧
      sim.run 5 (some 5) = some (.ok (.stopped 7), sim₁) ∧
      (sim.turns 5 (some 5)).map (·.1) = [0, 4] ∧
      (sim.runCounted 5 (some 5)).map (·.map fun c => (c.address, c.stop)) = [[(0, none)], []] ∧
      sim₁.instructionCount = 1 ∧ Architecture.currentPc sim₁.machine.core = 0 ∧
      sim₁.run 5 (some 5) = some (.ok (.stopped 7), sim₂) ∧
      (sim₁.runCounted 5 (some 5)).map (·.map fun c => (c.address, c.stop)) = [[(0, none)], []] ∧
      sim₂.instructionCount = 2 :=
  ⟨_, _, _, rfl, Scripted.placing _ compact_regular (by decide), rfl, rfl, rfl, rfl, rfl, rfl, rfl,
    rfl⟩

end Simulator

end GuestSim

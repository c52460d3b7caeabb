import GuestSim.Proofs.Budget
import GuestSim.Proofs.Mini.Blocks
import GuestSim.Proofs.Upkeep

/-! # The reaction to the outcome of a unit

What a unit asks to be discarded is discarded once the unit has run as a whole. A unit that raises
an exception, or is left before its last instruction, leaves the cache alone, and so does the search
for a unit that cannot be had. -/

namespace GuestSim

theorem Cache.lookup_conclude (cache : Cache) (cluster : UInt32) (unit : CodeUnit) (key : UnitKey) :
    (cache.conclude cluster unit).lookup key =
      match unit.outcome with
      | .flush => if key.cluster = cluster then none else cache.lookup key
      | .evict => if key = ⟨cluster, unit.phys⟩ then none else cache.lookup key
      | .next | .branch => cache.lookup key := by
  unfold conclude
  cases unit.outcome with
  | next => rfl
  | branch => rfl
  | flush => exact cache.lookup_flush cluster key
  | evict => exact cache.lookup_remove _ key

namespace Simulator

variable {C G δ : Type} [Architecture C]

def unitStarts [Debugger δ] (sim : Simulator C G δ) (unit : CodeUnit) (pc : UInt64) :
    List (Start C δ) :=
  unit.starts (sim.machine.enter sim.settings.layout.nextPc.index pc)

variable [Emitter G C]

theorem unitFor_lookup {sim sim' : Simulator C G δ} {pc : UInt64} {unit : CodeUnit}
    (h : sim.cache.Accounted) (hunit : sim.unitFor pc = (.ok unit, sim')) :
    sim'.cache.lookup ⟨sim.cluster, unit.phys⟩ = some unit := by
  rcases unitFor_request hunit with ⟨e, he, -⟩ | ⟨phys, s, s', hrequest⟩
  · simp at he
  · have hlookup := sim.cache.lookup_getOrBuild ⟨sim.cluster, phys⟩ ⟨sim.cluster, phys⟩
      (Draft.build sim.settings (.fetch pc)) s
    rw [hrequest, if_pos rfl] at hlookup
    have hphys : unit.phys = phys :=
      (unitFor_accounted h hunit).phys_eq _ (Cache.mem_of_lookup hlookup)
    rwa [hphys]

/-- A search that fails leaves nothing behind but a miss and a listing. -/
theorem unitFor_error_cache {sim sim' : Simulator C G δ} {pc : UInt64} {e : BuildError}
    (h : sim.unitFor pc = (.error e, sim')) :
    ∃ misses listing, sim'.cache = { sim.cache with misses, listing } := by
  rcases unitFor_request h with ⟨e, -, hcache⟩ | ⟨phys, s, s', hrequest⟩
  · exact ⟨_, _, hcache⟩
  · rcases sim.cache.getOrBuild_cases ⟨sim.cluster, phys⟩
        (Draft.build sim.settings (.fetch pc)) s with
      ⟨unit, -, heq⟩ | ⟨-, ⟨e', -, heq⟩ | ⟨draft, -, ⟨-, heq⟩ | ⟨-, heq⟩⟩⟩
    · simp [heq] at hrequest
    · rw [heq, Prod.mk.injEq, Prod.mk.injEq] at hrequest
      exact ⟨_, _, hrequest.2.1.symm⟩
    · rw [heq, Prod.mk.injEq, Prod.mk.injEq] at hrequest
      exact ⟨_, _, hrequest.2.1.symm⟩
    · simp [heq] at hrequest

variable [Debugger δ]

omit [Emitter G C] in
theorem unitStarts_length_le (sim : Simulator C G δ) (unit : CodeUnit) (pc : UInt64) :
    (sim.unitStarts unit pc).length ≤ unit.size :=
  Draft.startsFrom_length_le _ _ _ _

/-- The counter tells whether all instructions of a unit were started: there are never so many that
it could come round. -/
theorem count_eq_size_iff {sim : Simulator C G δ} (h : Counting C G δ sim.settings.layout)
    {unit : CodeUnit} (hmade : unit.Made G sim.settings) (pc : UInt64) :
    (unit.code.run (sim.machine.enter sim.settings.layout.nextPc.index pc)).2.count -
        (sim.machine.enter sim.settings.layout.nextPc.index pc).count = UInt64.ofNat unit.size ↔
      (sim.unitStarts unit pc).length = unit.size := by
  have hstarts := sim.unitStarts_length_le unit pc
  have hsize : unit.size < 2 ^ 64 := by
    have hcapacity := sim.settings.maxInstructions.toNat_lt
    have hle := hmade.size_le
    unfold Settings.capacity at hle
    omega
  have hcount : (unit.code.run (sim.machine.enter sim.settings.layout.nextPc.index pc)).2.count =
      (sim.machine.enter sim.settings.layout.nextPc.index pc).count +
        UInt64.ofNat (sim.unitStarts unit pc).length := h.count_code rfl hmade _
  rw [hcount, UInt64.add_comm, UInt64.add_sub_cancel, ← UInt64.toNat_inj,
    UInt64.toNat_ofNat_of_lt' hsize, UInt64.toNat_ofNat_of_lt' (Nat.lt_of_le_of_lt hstarts hsize)]

/-- The outcome of a unit takes effect if the unit has ended by itself and as a whole. -/
theorem runUnit_cache {sim : Simulator C G δ} (h : Counting C G δ sim.settings.layout)
    {unit : CodeUnit} (hmade : unit.Made G sim.settings) (pc : UInt64) :
    (∃ e, (sim.runUnit unit pc).1 = .error e ∧ (sim.runUnit unit pc).2.cache = sim.cache) ∨
      ∃ next, (sim.runUnit unit pc).1 = .ok next ∧ (sim.runUnit unit pc).2.cache =
        if (sim.unitStarts unit pc).length = unit.size then sim.cache.conclude sim.cluster unit
        else sim.cache := by
  have hwhole := count_eq_size_iff h hmade pc
  cases hcode : unit.code.run (sim.machine.enter sim.settings.layout.nextPc.index pc) with
  | mk next m =>
      rw [hcode] at hwhole
      cases hexception : m.context.exception with
      | some e =>
          rw [runUnit_of_raised hcode hexception]
          exact .inl ⟨e, rfl, rfl⟩
      | none =>
          rw [runUnit_of_ended hcode hexception]
          exact .inr ⟨next, rfl, if_congr hwhole rfl rfl⟩

/-- How the search for the unit at `pc` leaves the cache, in `sim₁`, and what running the unit makes
of it. -/
structure Reaction (sim sim₁ : Simulator C G δ) (unit : CodeUnit) (pc : UInt64) : Prop where
  found : sim₁.cache.lookup ⟨sim.cluster, unit.phys⟩ = some unit
  starts_le : (sim₁.unitStarts unit pc).length ≤ unit.size
  kept : (∃ e, (sim.executeUnit pc).1 = .error e) ∨ (sim₁.unitStarts unit pc).length < unit.size ∨
      unit.outcome = .next ∨ unit.outcome = .branch →
    (sim.executeUnit pc).2.cache = sim₁.cache
  flushed : ∀ next, (sim.executeUnit pc).1 = .ok next →
    (sim₁.unitStarts unit pc).length = unit.size → unit.outcome = .flush →
    ∀ key, (sim.executeUnit pc).2.cache.lookup key =
      if key.cluster = sim.cluster then none else sim₁.cache.lookup key
  evicted : ∀ next, (sim.executeUnit pc).1 = .ok next →
    (sim₁.unitStarts unit pc).length = unit.size → unit.outcome = .evict →
    ∀ key, (sim.executeUnit pc).2.cache.lookup key =
      if key = ⟨sim.cluster, unit.phys⟩ then none else sim₁.cache.lookup key

theorem reaction_of_unitFor {sim sim₁ : Simulator C G δ} (hfilled : sim.Filled)
    (haccounted : sim.cache.Accounted) (h : Counting C G δ sim.settings.layout) {pc : UInt64}
    {unit : CodeUnit} (hunit : sim.unitFor pc = (.ok unit, sim₁)) :
    Reaction sim sim₁ unit pc := by
  have hsettings := (unitFor_spec hunit).1
  have hmade : unit.Made G sim₁.settings := by
    rw [hsettings]
    exact hfilled.unit_made hunit
  have hcluster : sim₁.cluster = sim.cluster := by rw [cluster, cluster, hsettings]
  have hcases := runUnit_cache (by rwa [hsettings]) hmade pc
  rw [hcluster] at hcases
  refine ⟨unitFor_lookup haccounted hunit, sim₁.unitStarts_length_le unit pc, ?_, ?_, ?_⟩
  all_goals
    rw [executeUnit_of_ok hunit]
    generalize sim₁.runUnit unit pc = out at hcases
    obtain ⟨result, sim₂⟩ := out
    obtain ⟨e, rfl, hcache⟩ | ⟨next, rfl, hcache⟩ := hcases
  · exact fun _ => hcache
  · rintro (⟨e, he⟩ | hshort | houtcome)
    · simp [Except.mapError] at he
    · rw [hcache, if_neg (Nat.ne_of_lt hshort)]
    · rw [hcache]
      split
      · rcases houtcome with houtcome | houtcome <;> simp [Cache.conclude, houtcome]
      · rfl
  · simp [Except.mapError]
  · intro next' _ hwhole houtcome key
    rw [hcache, if_pos hwhole, Cache.lookup_conclude, houtcome]
  · simp [Except.mapError]
  · intro next' _ hwhole houtcome key
    rw [hcache, if_pos hwhole, Cache.lookup_conclude, houtcome]

/-- In whatever state the simulator is, and wherever it goes on: the cache changes only if the unit
that is found there runs as a whole, and then as the outcome of the unit asks. If no unit is found,
neither the cache nor the core of the small architecture changes. -/
theorem cache_follows_outcome {sim : Simulator C G δ} (hsim : Visited sim)
    (h : Counting C G δ sim.settings.layout) (pc : UInt64) :
    (∀ unit sim₁, sim.unitFor pc = (.ok unit, sim₁) → Reaction sim sim₁ unit pc) ∧
    (∀ e sim₁, sim.unitFor pc = (.error e, sim₁) →
      ∃ misses listing, (sim.executeUnit pc).2.cache = { sim.cache with misses, listing }) ∧
    ∀ (mini : Simulator Mini.Core Mini.Codegen δ) e mini₁, mini.unitFor pc = (.error e, mini₁) →
      (mini.executeUnit pc).2.machine.core = mini.machine.core := by
  refine ⟨fun unit sim₁ hunit => ?_, fun e sim₁ hunit => ?_, fun mini e mini₁ hunit => ?_⟩
  · exact reaction_of_unitFor hsim.filled hsim.accounted h hunit
  · rw [executeUnit_of_error hunit]
    exact unitFor_error_cache hunit
  · have hframe := (Mini.unitFor_frame mini pc).1
    rw [hunit] at hframe
    rw [executeUnit_of_error hunit]
    exact hframe

open Mini in
/-- A unit that discards itself, run to its end and under a limit that its first instruction
reaches. -/
theorem cache_follows_outcome_evicted :
    ∃ (sim : Simulator Core Codegen (List Breakpoint)) (key : UnitKey),
      simulate {} (.loaded 0x1000 [⟨.addi, 1, 1, 1⟩, ⟨.evict, 0, 0, 0⟩]) = .ok sim ∧
      key = ⟨0, 0x1000⟩ ∧
      (∃ unit sim₁, (sim.armed 9).unitFor 0x1000 = (.ok unit, sim₁) ∧
        sim₁.cache.lookup key = some unit ∧
        ((sim.armed 9).executeUnit 0x1000).2.cache.lookup key = none) ∧
      ∃ unit sim₁, (sim.armed 1).unitFor 0x1000 = (.ok unit, sim₁) ∧
        unit.outcome = .evict ∧ ((sim.armed 1).executeUnit 0x1000).2.cache = sim₁.cache := by
  obtain ⟨sim, unit, sim₁, unit', sim₂, hsim, hlayout, hunit, hnext, hwhole, houtcome, hphys,
      hunit', houtcome', hshort⟩ :
      ∃ (sim : Simulator Core Codegen (List Breakpoint)) (unit : CodeUnit)
        (sim₁ : Simulator Core Codegen (List Breakpoint)) (unit' : CodeUnit)
        (sim₂ : Simulator Core Codegen (List Breakpoint)),
        simulate {} (.loaded 0x1000 [⟨.addi, 1, 1, 1⟩, ⟨.evict, 0, 0, 0⟩]) = .ok sim ∧
        sim.settings.layout = layout ∧ (sim.armed 9).unitFor 0x1000 = (.ok unit, sim₁) ∧
        ((sim.armed 9).executeUnit 0x1000).1 = .ok 0x1008 ∧
        (sim₁.unitStarts unit 0x1000).length = unit.size ∧ unit.outcome = .evict ∧
        (⟨(sim.armed 9).cluster, unit.phys⟩ : UnitKey) = ⟨0, 0x1000⟩ ∧
        (sim.armed 1).unitFor 0x1000 = (.ok unit', sim₂) ∧ unit'.outcome = .evict ∧
        (sim₂.unitStarts unit' 0x1000).length < unit'.size :=
    ⟨_, _, _, _, _, rfl, rfl, rfl, rfl, rfl, rfl, rfl, rfl, rfl, by decide⟩
  have hfresh := Visited.rest (Reachable.new hsim)
  have hran := (cache_follows_outcome (hfresh.armed 9) (hlayout ▸ Mini.counting _) 0x1000).1
    unit sim₁ hunit
  have hleft := (cache_follows_outcome (hfresh.armed 1) (hlayout ▸ Mini.counting _) 0x1000).1
    unit' sim₂ hunit'
  refine ⟨sim, ⟨0, 0x1000⟩, hsim, rfl, ⟨unit, sim₁, hunit, hphys ▸ hran.found, ?_⟩,
    unit', sim₂, hunit', houtcome', hleft.kept (.inr (.inl hshort))⟩
  rw [hran.evicted _ hnext hwhole houtcome, if_pos hphys.symm]

end Simulator

end GuestSim

import GuestSim.Proofs.Cache.Accounting
import GuestSim.Proofs.Provenance

/-! # What a simulator does to its cache

A turn frees dead code, requests a unit and discards what the unit asks to be discarded; between
runs, units are only discarded. Whatever state a simulator is in, its books are in order. -/

namespace GuestSim

theorem Cache.Accounted.conclude {cache : Cache} (h : cache.Accounted) (cluster : UInt32)
    (unit : CodeUnit) : (cache.conclude cluster unit).Accounted := by
  unfold Cache.conclude
  split
  · exact h.flush cluster
  · exact h.remove _
  · exact h
  · exact h

namespace Simulator

variable {C G δ : Type} [Architecture C]

theorem runUnit_cache_cases [Debugger δ] (sim : Simulator C G δ) (unit : CodeUnit) (pc : UInt64) :
    (sim.runUnit unit pc).2.cache = sim.cache ∨
      (sim.runUnit unit pc).2.cache = sim.cache.conclude sim.cluster unit := by
  simp only [runUnit, settle]
  split
  · exact .inl rfl
  · split
    · exact .inr rfl
    · exact .inl rfl

variable [Emitter G C]

/-- The search for a unit makes one request, unless the address cannot be resolved. -/
theorem unitFor_request {sim sim' : Simulator C G δ} {pc : UInt64}
    {result : Except BuildError CodeUnit} (h : sim.unitFor pc = (result, sim')) :
    (∃ e, result = .error e ∧ sim'.cache = sim.cache) ∨
      ∃ (phys : UInt64) (s s' : G × Machine C δ), sim.cache.getOrBuild ⟨sim.cluster, phys⟩
        (Draft.build sim.settings (.fetch pc)) s = (result, sim'.cache, s') := by
  cases hresolve : sim.machine.resolve (.fetch pc) with
  | mk resolved m =>
      cases resolved with
      | error e =>
          rw [unitFor_of_unmapped hresolve, Prod.mk.injEq] at h
          obtain ⟨rfl, rfl⟩ := h
          exact .inl ⟨_, rfl, rfl⟩
      | ok phys =>
          cases hbuild : sim.cache.getOrBuild ⟨sim.cluster, phys.val⟩
              (Draft.build sim.settings (.fetch pc)) (sim.emitter, m) with
          | mk built rest =>
              rw [unitFor_of_mapped hresolve hbuild, Prod.mk.injEq] at h
              obtain ⟨rfl, rfl⟩ := h
              exact .inr ⟨phys.val, _, _, hbuild⟩

theorem unitFor_accounted {sim sim' : Simulator C G δ} {pc : UInt64}
    {result : Except BuildError CodeUnit} (h : sim.cache.Accounted)
    (hunit : sim.unitFor pc = (result, sim')) : sim'.cache.Accounted := by
  rcases unitFor_request hunit with ⟨e, -, hcache⟩ | ⟨phys, s, s', hrequest⟩
  · rwa [hcache]
  · have hrequested := h.getOrBuild ⟨sim.cluster, phys⟩ (Draft.build sim.settings (.fetch pc)) s
    rwa [hrequest] at hrequested

/-! ## The states of a simulator -/

variable [Debugger δ]

/-- The states of a simulator in use: those between its operations, and those in which a run puts
its budget in place, has freed code or has taken a turn. -/
inductive Visited : Simulator C G δ → Prop where
  | rest {sim} (h : Reachable sim) : Visited sim
  | armed {sim} (limit : UInt64) (h : Visited sim) : Visited (sim.armed limit)
  | purge {sim purged} (h : Visited sim) (hpurge : sim.purge = .ok purged) : Visited purged
  | turn {sim} (limit pc : UInt64) (h : Visited sim) : Visited (sim.turn limit pc).2

theorem Visited.filled {sim : Simulator C G δ} (h : Visited sim) : sim.Filled := by
  induction h with
  | rest h => exact h.filled
  | armed limit _ ih => exact ih.of_subset rfl fun _ h => h
  | purge _ hpurge ih => exact ih.purge hpurge
  | turn limit pc _ ih => exact ih.turn limit pc

/-- A property of caches that nothing a simulator does can take away. -/
structure Lasting (C G δ : Type) [Architecture C] [Emitter G C] (J : Cache → Prop) : Prop where
  flush (cache : Cache) (cluster : UInt32) : J cache → J (cache.flush cluster)
  clear (cache : Cache) : J cache → J cache.cleared
  conclude (cache : Cache) (cluster : UInt32) (unit : CodeUnit) :
    J cache → J (cache.conclude cluster unit)
  search {sim sim' : Simulator C G δ} {pc : UInt64} {result : Except BuildError CodeUnit} :
    sim.unitFor pc = (result, sim') → J sim.cache → J sim'.cache

namespace Lasting

variable {J : Cache → Prop} (hJ : Lasting C G δ J)

include hJ

omit [Debugger δ] in
theorem purge {sim purged : Simulator C G δ} (h : J sim.cache) (hpurge : sim.purge = .ok purged) :
    J purged.cache := by
  rcases purge_eq_ok hpurge with ⟨-, rfl⟩ | ⟨-, rfl⟩
  · exact h
  · exact hJ.clear _ h

omit [Debugger δ] in
theorem find {sim : Simulator C G δ} (pc : UInt64) (h : J sim.cache) : J (sim.find pc).2.cache :=
  find_snd (P := fun sim => J sim.cache) pc h fun _ hpurge => hJ.search rfl (hJ.purge h hpurge)

theorem turn (limit pc : UInt64) {sim : Simulator C G δ} (h : J sim.cache) :
    J (sim.turn limit pc).2.cache := by
  by_cases hleft : limit ≤ sim.instructionCount
  · rwa [turn_of_spent hleft]
  · rw [turn_of_left hleft, (react_frame _ _).1]
    have hfound := hJ.find pc h
    cases hfind : sim.find pc with
    | mk result sim₁ =>
        rw [hfind] at hfound
        cases result with
        | error e => rwa [attempt_of_error hfind]
        | ok unit =>
            rw [attempt_of_ok hfind]
            rcases runUnit_cache_cases sim₁ unit pc with hcache | hcache
            · rwa [hcache]
            · rw [hcache]
              exact hJ.conclude _ _ _ hfound

theorem run {sim sim' : Simulator C G δ} {fuel : Nat} {limit : Option UInt64}
    {result : Except SimError RunExit} (h : J sim.cache)
    (hrun : sim.run fuel limit = some (result, sim')) : J sim'.cache := by
  obtain ⟨pc', sim₁, hloop, rfl⟩ := run_eq_some hrun
  have hended : J sim₁.cache :=
    loop_keeps (I := fun sim => J sim.cache) (fun pc _ h => hJ.turn _ pc h)
      (show J (sim.armed (limit.getD (-1))).cache from h) hloop
  rw [noteStats, (closed_frame sim₁ result pc').2]
  exact hended

theorem reachable (hfresh : ∀ {config compiler cache},
      Cache.ofConfig config compiler = .ok cache → J cache)
    {sim : Simulator C G δ} (h : Reachable sim) : J sim.cache := by
  induction h with
  | new h =>
      obtain ⟨cache, hcache, rfl⟩ := new_eq_ok h
      exact hfresh hcache
  | @registerPlugin sim plugin _ ih =>
      simp only [Simulator.registerPlugin]
      split
      · exact ih
      · exact hJ.flush _ _ ih
  | setDebugger debugger _ ih => exact hJ.flush _ _ ih
  | reset addr _ ih => exact hJ.flush _ _ ih
  | writePc pc _ ih => exact ih
  | run _ hrun ih => exact hJ.run ih hrun

theorem visited (hfresh : ∀ {config compiler cache},
      Cache.ofConfig config compiler = .ok cache → J cache)
    {sim : Simulator C G δ} (h : Visited sim) : J sim.cache := by
  induction h with
  | rest h => exact hJ.reachable hfresh h
  | armed limit _ ih => exact ih
  | purge _ hpurge ih => exact hJ.purge ih hpurge
  | turn limit pc _ ih => exact hJ.turn limit pc ih

end Lasting

omit [Debugger δ] in
theorem lasting_accounted : Lasting C G δ Cache.Accounted where
  flush _ cluster h := h.flush cluster
  clear _ h := h.cleared
  conclude _ cluster unit h := h.conclude cluster unit
  search hunit h := unitFor_accounted h hunit

theorem Visited.accounted {sim : Simulator C G δ} (h : Visited sim) : sim.cache.Accounted :=
  lasting_accounted.visited Cache.accounted_ofConfig h

omit [Debugger δ] in
/-- A simulator keeps its compiler. -/
theorem lasting_compiler (compiler : Compiler) :
    Lasting C G δ fun cache => cache.compiler = compiler where
  flush _ _ h := h
  clear _ h := h
  conclude cache cluster unit h := by
    rw [Cache.conclude]
    split
    · exact h
    · exact (Cache.Call.compiler_perform (.remove _) (cache, ())).trans h
    · exact h
    · exact h
  search {sim sim' pc result} hunit h := by
    rcases unitFor_request hunit with ⟨e, -, hcache⟩ | ⟨phys, s, s', hrequest⟩
    · rwa [hcache]
    · have hkeep := Cache.Call.compiler_perform (.getOrBuild ⟨sim.cluster, phys⟩
        (Draft.build sim.settings (.fetch pc))) (sim.cache, s)
      rw [Cache.Call.perform, hrequest] at hkeep
      exact hkeep.trans h

theorem turn_compiler (limit pc : UInt64) (sim : Simulator C G δ) :
    (sim.turn limit pc).2.cache.compiler = sim.cache.compiler :=
  (lasting_compiler sim.cache.compiler).turn limit pc rfl

omit [Debugger δ] in
/-- What is true of every unit when it is built stays true of the units in the cache. -/
theorem lasting_live {P : UnitKey × CodeUnit → Prop}
    (hbuilt : ∀ (sim : Simulator C G δ) pc phys m entry,
      sim.machine.resolve (.fetch pc) = (.ok phys, m) → entry.1.phys = phys.val →
        (Draft.build sim.settings (.fetch pc) (sim.emitter, m)).1 = .ok entry.2.toDraft → P entry) :
    Lasting C G δ fun cache => ∀ entry ∈ cache.live, P entry where
  flush cache cluster h entry hentry := h entry (cache.live_flush cluster hentry)
  clear cache _ := by simp [Cache.cleared]
  conclude cache cluster unit h entry hentry := h entry (cache.live_conclude cluster unit hentry)
  search hunit h entry hentry := by
    rcases (unitFor_spec hunit).2.2 entry hentry with hold | ⟨-, phys, m, hresolve, hphys, hdraft⟩
    · exact h entry hold
    · exact hbuilt _ _ phys m entry hresolve hphys hdraft

end Simulator

end GuestSim

import GuestSim.Proofs.Growth
import GuestSim.Proofs.Turn

/-! # Where the units of a simulator come from

A simulator that is used through its operations holds, for its own cluster, only units that were
built with its present settings. -/

namespace GuestSim

/-! ## Units as they are built -/

/-- A fragment as an emitter of type `G` generates it. -/
def Fragment.Generated {C : Type} (G : Type) [Emitter G C] (fragment : Fragment) : Prop :=
  ∃ (pc : VirtAddr) (ordinal : UInt32) (s s' : G × C) (step : Step),
    Emitter.generate pc ordinal s = (.ok step, s') ∧
      fragment = ⟨pc.val, step.outcome, step.isOpen, step.body⟩

namespace Draft

variable {C G δ : Type} [Emitter G C]

theorem generate_generated {pc : VirtAddr} {ordinal : Nat} {s s' : G × Machine C δ} {step : Step}
    (h : generate pc ordinal s = (.ok step, s')) :
    (Emission.mk pc step).fragment.Generated G := by
  obtain ⟨emitter, m⟩ := s
  have hstep := congrArg Prod.fst h
  exact ⟨pc, UInt32.ofNat ordinal, (emitter, m.core),
    (Emitter.generate pc (UInt32.ofNat ordinal) (emitter, m.core)).2, step,
    Prod.ext hstep rfl, rfl⟩

theorem Generates.generated {ordinal : Nat} {pc pc' : VirtAddr} {s s' : G × Machine C δ}
    {emissions : List Emission} (h : Generates ordinal pc s emissions pc' s') :
    ∀ fragment ∈ emissions.map (·.fragment), fragment.Generated G := by
  induction h with
  | nil => simp
  | cons hstep _ ih => exact List.forall_mem_cons.mpr ⟨generate_generated hstep, ih⟩

/-- What a unit built with given settings is like, whatever it was built from. -/
structure Made (G : Type) [Emitter G C] (settings : Settings) (draft : Draft) : Prop where
  settings_eq : draft.settings = settings
  nonempty : draft.fragments ≠ []
  size_le : draft.size ≤ settings.capacity
  generated : ∀ fragment ∈ draft.fragments, fragment.Generated G
  linked : draft.Linked
  leave_eq : ∃ emitter : G, draft.leave = (Emitter.leave settings.layout emitter).1
  trap_eq : ∃ emitter : G, draft.trap = (Emitter.trap settings.layout emitter).1

theorem build_made {settings : Settings} {start : VirtAddr} {s s' : G × Machine C δ}
    {draft : Draft} (h : build settings start s = (.ok draft, s')) : draft.Made G settings := by
  obtain ⟨emissions, pc, s₁, hgenerates, hbuilt⟩ := build_cases h
  cases hbuilt with
  | made hsound hfragments hne hlength hcontinues hends =>
      have hgenerated := hgenerates.generated
      rw [← hfragments] at hgenerated
      exact ⟨rfl, by simpa [assemble, hfragments] using hne,
        by simpa [size, assemble, hfragments] using hlength, hgenerated,
        linked_assemble hsound settings _, ⟨_, rfl⟩, ⟨_, rfl⟩⟩

end Draft

/-! ## The contents of the cache -/

namespace Cache

theorem live_remove (cache : Cache) (key : UnitKey) : (cache.remove key).live ⊆ cache.live := by
  unfold remove
  split
  · exact fun _ h => (List.mem_filter.mp h).1
  · exact fun _ h => h

theorem live_flush (cache : Cache) (cluster : UInt32) :
    (cache.flush cluster).live ⊆ cache.live :=
  fun _ h => (List.mem_filter.mp h).1

theorem cluster_ne_of_mem_flush {cache : Cache} {cluster : UInt32} {entry : UnitKey × CodeUnit}
    (h : entry ∈ (cache.flush cluster).live) : entry.1.cluster ≠ cluster := by
  simpa using (List.mem_filter.mp h).2

theorem live_conclude (cache : Cache) (cluster : UInt32) (unit : CodeUnit) :
    (cache.conclude cluster unit).live ⊆ cache.live := by
  unfold conclude
  split
  · exact live_flush cache cluster
  · exact live_remove cache _
  · exact fun _ h => h
  · exact fun _ h => h

/-- Whether found or built, the unit for a key is kept under it. The only unit that is added is
one that was built. -/
theorem getOrBuild_spec {σ : Type} {cache cache' : Cache} {key : UnitKey}
    {build : σ → Except EmitError Draft × σ} {s s' : σ} {result : Except BuildError CodeUnit}
    (h : cache.getOrBuild key build s = (result, cache', s')) :
    (∀ unit, result = .ok unit → (key, unit) ∈ cache'.live) ∧
      ∀ entry ∈ cache'.live, entry ∈ cache.live ∨
        entry.1 = key ∧ cache.lookup key = none ∧ (build s).1 = .ok entry.2.toDraft := by
  rcases cache.getOrBuild_cases key build s with
    ⟨unit, hlookup, heq⟩ | ⟨hlookup, ⟨e, -, heq⟩ | ⟨draft, hdraft, ⟨-, heq⟩ | ⟨-, heq⟩⟩⟩
  all_goals
    rw [heq, Prod.mk.injEq, Prod.mk.injEq] at h
    obtain ⟨rfl, rfl, rfl⟩ := h
  · refine ⟨?_, fun entry hentry => .inl hentry⟩
    rintro unit' ⟨⟩
    exact mem_of_lookup hlookup
  · exact ⟨by simp, fun entry hentry => .inl hentry⟩
  · exact ⟨by simp, fun entry hentry => .inl hentry⟩
  · refine ⟨?_, fun entry hentry => ?_⟩
    · rintro unit' ⟨⟩
      exact List.mem_cons_self
    · rcases List.mem_cons.mp hentry with rfl | hentry
      · exact .inr ⟨rfl, hlookup, hdraft⟩
      · exact .inl hentry

/-- A unit that is not there is missing because it could not be built, or was rejected. -/
theorem getOrBuild_eq_error {σ : Type} {cache cache' : Cache} {key : UnitKey}
    {build : σ → Except EmitError Draft × σ} {s s' : σ} {e : BuildError}
    (h : cache.getOrBuild key build s = (.error e, cache', s')) :
    cache.lookup key = none ∧
      ((∃ e', e = .emit e' ∧ (build s).1 = .error e') ∨
        e = .rejected key.phys ∧ ∃ draft, (build s).1 = .ok draft ∧ ¬ cache.Accepts key draft) := by
  rcases cache.getOrBuild_cases key build s with
    ⟨unit, -, heq⟩ | ⟨hlookup, ⟨e', hfailed, heq⟩ | ⟨draft, hdraft, ⟨hrejected, heq⟩ | ⟨-, heq⟩⟩⟩
  · simp [heq] at h
  · rw [heq, Prod.mk.injEq, Except.error.injEq] at h
    exact ⟨hlookup, .inl ⟨e', h.1.symm, hfailed⟩⟩
  · rw [heq, Prod.mk.injEq, Except.error.injEq] at h
    exact ⟨hlookup, .inr ⟨h.1.symm, draft, hdraft, hrejected⟩⟩
  · simp [heq] at h

end Cache

namespace Simulator

variable {C G δ : Type}

theorem purge_live {sim purged : Simulator C G δ} (h : sim.purge = .ok purged) :
    purged.cache.live ⊆ sim.cache.live := by
  rcases purge_eq_ok h with ⟨-, rfl⟩ | ⟨-, rfl⟩
  · exact fun _ h => h
  · simp [Cache.cleared]

variable [Architecture C]

theorem runUnit_frame [Debugger δ] (sim : Simulator C G δ) (unit : CodeUnit) (pc : UInt64) :
    (sim.runUnit unit pc).2.cache.live ⊆ sim.cache.live ∧
      (sim.runUnit unit pc).2.settings = sim.settings := by
  refine ⟨?_, rfl⟩
  simp only [runUnit, settle]
  split
  · exact fun _ h => h
  · split
    · exact Cache.live_conclude _ _ _
    · exact fun _ h => h

variable [Emitter G C]

/-- Where the units that the search for a unit leaves in the cache come from. -/
theorem unitFor_spec {sim sim' : Simulator C G δ} {pc : UInt64}
    {result : Except BuildError CodeUnit} (h : sim.unitFor pc = (result, sim')) :
    sim'.settings = sim.settings ∧
      (∀ unit, result = .ok unit → ∃ phys m, sim.machine.resolve (.fetch pc) = (.ok phys, m) ∧
        (⟨sim.cluster, phys.val⟩, unit) ∈ sim'.cache.live) ∧
      ∀ entry ∈ sim'.cache.live, entry ∈ sim.cache.live ∨
        entry.1.cluster = sim.cluster ∧ ∃ phys m,
          sim.machine.resolve (.fetch pc) = (.ok phys, m) ∧ entry.1.phys = phys.val ∧
            (Draft.build sim.settings (.fetch pc) (sim.emitter, m)).1 = .ok entry.2.toDraft := by
  cases hresolve : sim.machine.resolve (.fetch pc) with
  | mk resolved m =>
      cases resolved with
      | error e =>
          rw [unitFor_of_unmapped hresolve, Prod.mk.injEq] at h
          obtain ⟨rfl, rfl⟩ := h
          exact ⟨rfl, by simp, fun entry hentry => .inl hentry⟩
      | ok phys =>
          cases hbuild : sim.cache.getOrBuild ⟨sim.cluster, phys.val⟩
              (Draft.build sim.settings (.fetch pc)) (sim.emitter, m) with
          | mk built rest =>
              rw [unitFor_of_mapped hresolve hbuild, Prod.mk.injEq] at h
              obtain ⟨rfl, rfl⟩ := h
              have hspec := Cache.getOrBuild_spec hbuild
              refine ⟨rfl, fun unit hunit => ⟨phys, m, rfl, hspec.1 unit hunit⟩, ?_⟩
              intro entry hentry
              rcases hspec.2 entry hentry with hold | ⟨hkey, -, hdraft⟩
              · exact .inl hold
              · exact .inr ⟨by rw [hkey], phys, m, rfl, by rw [hkey], hdraft⟩

/-! ## Filled caches -/

/-- Every unit that the simulator may run was built with its present settings. -/
def Filled (sim : Simulator C G δ) : Prop :=
  ∀ entry ∈ sim.cache.live, entry.1.cluster = sim.cluster →
    ∃ (start : VirtAddr) (s : G × Machine C δ),
      (Draft.build sim.settings start s).1 = .ok entry.2.toDraft

omit [Architecture C] in
theorem Filled.made {sim : Simulator C G δ} (h : sim.Filled) {key : UnitKey} {unit : CodeUnit}
    (hmem : (key, unit) ∈ sim.cache.live) (hcluster : key.cluster = sim.cluster) :
    unit.Made G sim.settings := by
  obtain ⟨start, s, hbuild⟩ := h _ hmem hcluster
  exact Draft.build_made (Prod.ext hbuild rfl)

omit [Architecture C] in
theorem Filled.of_subset {sim sim' : Simulator C G δ} (h : sim.Filled)
    (hsettings : sim'.settings = sim.settings) (hlive : sim'.cache.live ⊆ sim.cache.live) :
    sim'.Filled := by
  intro entry hentry hcluster
  rw [cluster, hsettings] at hcluster
  rw [hsettings]
  exact h entry (hlive hentry) hcluster

omit [Architecture C] in
theorem filled_of_flush {sim : Simulator C G δ} {cache : Cache}
    (h : sim.cache = cache.flush sim.cluster) : sim.Filled := by
  intro entry hentry hcluster
  rw [h] at hentry
  exact absurd hcluster (Cache.cluster_ne_of_mem_flush hentry)

omit [Architecture C] in
theorem Filled.purge {sim purged : Simulator C G δ} (h : sim.Filled)
    (hpurge : sim.purge = .ok purged) : purged.Filled :=
  h.of_subset (purge_settings hpurge) (purge_live hpurge)

theorem Filled.unitFor {sim sim' : Simulator C G δ} {pc : UInt64}
    {result : Except BuildError CodeUnit} (h : sim.Filled)
    (hunit : sim.unitFor pc = (result, sim')) : sim'.Filled := by
  obtain ⟨hsettings, -, hlive⟩ := unitFor_spec hunit
  intro entry hentry hcluster
  rw [cluster, hsettings] at hcluster
  rw [hsettings]
  rcases hlive entry hentry with hold | ⟨-, phys, m, -, -, hdraft⟩
  · exact h entry hold hcluster
  · exact ⟨_, _, hdraft⟩

/-- The unit that is run was built with the settings of the simulator. -/
theorem Filled.unit_made {sim sim' : Simulator C G δ} {pc : UInt64} {unit : CodeUnit}
    (h : sim.Filled) (hunit : sim.unitFor pc = (.ok unit, sim')) :
    unit.Made G sim.settings := by
  obtain ⟨hsettings, hmem, -⟩ := unitFor_spec hunit
  obtain ⟨phys, m, -, hentry⟩ := hmem unit rfl
  have hmade := (h.unitFor hunit).made hentry (by rw [cluster, cluster, hsettings])
  rwa [hsettings] at hmade

theorem find_settings (sim : Simulator C G δ) (pc : UInt64) :
    (sim.find pc).2.settings = sim.settings :=
  find_snd (P := fun sim' => sim'.settings = sim.settings) pc rfl fun _ hpurge =>
    (unitFor_spec rfl).1.trans (purge_settings hpurge)

theorem Filled.find {sim : Simulator C G δ} (h : sim.Filled) (pc : UInt64) :
    (sim.find pc).2.Filled :=
  find_snd (P := Filled) pc h fun _ hpurge => (h.purge hpurge).unitFor rfl

theorem Filled.found_made {sim sim' : Simulator C G δ} {pc : UInt64} {unit : CodeUnit}
    (h : sim.Filled) (hfind : sim.find pc = (.ok unit, sim')) : unit.Made G sim.settings := by
  obtain ⟨purged, hpurge, hunit⟩ := find_eq_ok hfind
  rw [← purge_settings hpurge]
  exact (h.purge hpurge).unit_made hunit

variable [Debugger δ]

theorem turn_settings (limit pc : UInt64) (sim : Simulator C G δ) :
    (sim.turn limit pc).2.settings = sim.settings := by
  by_cases hleft : limit ≤ sim.instructionCount
  · rw [turn_of_spent hleft]
  · rw [turn_of_left hleft, (react_frame _ _).2]
    have hsettings := sim.find_settings pc
    cases hfind : sim.find pc with
    | mk result sim₁ =>
        rw [hfind] at hsettings
        cases result with
        | error e => rw [attempt_of_error hfind, hsettings]
        | ok unit => rw [attempt_of_ok hfind, (runUnit_frame _ _ _).2, hsettings]

theorem Filled.turn {sim : Simulator C G δ} (h : sim.Filled) (limit pc : UInt64) :
    (sim.turn limit pc).2.Filled := by
  by_cases hleft : limit ≤ sim.instructionCount
  · rwa [turn_of_spent hleft]
  · rw [turn_of_left hleft]
    have hattempt : (sim.attempt pc).2.Filled := by
      have hfilled := h.find pc
      cases hfind : sim.find pc with
      | mk result sim₁ =>
          rw [hfind] at hfilled
          cases result with
          | error e => rwa [attempt_of_error hfind]
          | ok unit =>
              rw [attempt_of_ok hfind]
              exact hfilled.of_subset (runUnit_frame _ _ _).2 (runUnit_frame _ _ _).1
    obtain ⟨hcache, hsettings⟩ := react_frame pc (sim.attempt pc)
    exact hattempt.of_subset hsettings (by rw [hcache]; exact fun _ h => h)

/-- What every turn keeps, the loop keeps. -/
theorem loop_keeps {I : Simulator C G δ → Prop} {limit : UInt64}
    (hturn : ∀ pc sim, I sim → I (sim.turn limit pc).2) {fuel : Nat} {pc pc' : UInt64}
    {sim sim' : Simulator C G δ} {result : Except SimError RunExit} (h : I sim)
    (hloop : loop limit fuel pc sim = some (result, pc', sim')) : I sim' := by
  induction fuel generalizing pc sim with
  | zero => simp [loop] at hloop
  | succ fuel ih =>
      have hnext := hturn pc sim h
      rw [loop] at hloop
      cases hcase : sim.turn limit pc with
      | mk ending sim₁ =>
          rw [hcase] at hloop hnext
          cases ending with
          | next pc₁ => exact ih hnext hloop
          | exit e pc₁ =>
              simp only [Option.some.injEq, Prod.mk.injEq] at hloop
              exact hloop.2.2 ▸ hnext
          | failed e pc₁ =>
              simp only [Option.some.injEq, Prod.mk.injEq] at hloop
              exact hloop.2.2 ▸ hnext

omit [Emitter G C] [Debugger δ] in
theorem closed_frame (sim : Simulator C G δ) (result : Except SimError RunExit) (pc : UInt64) :
    (sim.closed result pc).settings = sim.settings ∧
      (sim.closed result pc).cache = sim.cache := by
  unfold closed
  split
  · split <;> exact ⟨rfl, rfl⟩
  · exact ⟨rfl, rfl⟩

theorem Filled.run {sim sim' : Simulator C G δ} {fuel : Nat} {limit : Option UInt64}
    {result : Except SimError RunExit} (h : sim.Filled)
    (hrun : sim.run fuel limit = some (result, sim')) : sim'.Filled := by
  obtain ⟨pc', sim₁, hloop, rfl⟩ := run_eq_some hrun
  have harmed : (sim.armed (limit.getD (-1))).Filled := h.of_subset rfl fun _ h => h
  have hfilled : sim₁.Filled := loop_keeps (fun pc sim h => h.turn _ pc) harmed hloop
  obtain ⟨hsettings, hcache⟩ := closed_frame sim₁ result pc'
  exact hfilled.of_subset hsettings (by rw [noteStats, hcache]; exact fun _ h => h)

omit [Emitter G C] [Debugger δ] in
/-- A simulator is set up with a cache of its own, and settings that its configuration gives. -/
theorem new_eq_ok {machine : Machine C δ} {emitter : G} {config : Config} {compiler : Compiler}
    {sim : Simulator C G δ} (h : new machine emitter config compiler = .ok sim) :
    ∃ cache, Cache.ofConfig config compiler = .ok cache ∧
      sim = updateSync {
        machine, emitter, cache, config
        settings := {
          maxInstructions := config.maxUnitInstructions
          coreId := config.coreId
          clusterId := config.clusterId
          syncExec := .empty
          debugging := config.debugging
          preciseLimit := config.preciseLimit
          plugins := []
          layout := Architecture.layout machine.core } } := by
  unfold new at h
  simp only at h
  split at h
  · simp at h
  · split at h
    · simp at h
    · rename_i cache hcache
      cases h
      exact ⟨cache, hcache, rfl⟩

/-- Simulators that were set up and from then on used through their operations only. -/
inductive Reachable : Simulator C G δ → Prop where
  | new {machine emitter config compiler sim}
      (h : new machine emitter config compiler = .ok sim) : Reachable sim
  | registerPlugin {sim} (plugin : Plugin) (h : Reachable sim) :
      Reachable (sim.registerPlugin plugin).2
  | setDebugger {sim} (debugger : δ) (h : Reachable sim) : Reachable (sim.setDebugger debugger)
  | reset {sim} (addr : Option UInt64) (h : Reachable sim) : Reachable (sim.reset addr)
  | writePc {sim} (pc : UInt64) (h : Reachable sim) : Reachable (sim.writePc pc)
  | run {sim sim' fuel limit result} (h : Reachable sim)
      (hrun : sim.run fuel limit = some (result, sim')) : Reachable sim'

/-- The cache of a simulator in use is filled, whatever was done with it. -/
theorem Reachable.filled {sim : Simulator C G δ} (h : Reachable sim) : sim.Filled := by
  induction h with
  | new h =>
      obtain ⟨cache, hcache, rfl⟩ := new_eq_ok h
      intro entry hentry
      replace hentry : entry ∈ cache.live := hentry
      simp [Cache.live_ofConfig hcache] at hentry
  | @registerPlugin sim plugin _ ih =>
      simp only [Simulator.registerPlugin]
      split
      · exact ih.of_subset rfl fun _ h => h
      · exact filled_of_flush rfl
  | setDebugger debugger _ ih => exact filled_of_flush rfl
  | reset addr _ ih => exact filled_of_flush rfl
  | writePc pc _ ih => exact ih.of_subset rfl fun _ h => h
  | run _ hrun ih => exact ih.run hrun

end Simulator

end GuestSim

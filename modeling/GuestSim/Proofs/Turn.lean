import GuestSim.Proofs.Cache.Requests
import GuestSim.Proofs.Observation

/-! # One turn of the loop

A turn checks the budget, purges, finds or builds a unit, runs it and reacts to how it ended. -/

namespace GuestSim

theorem Cache.getOrBuild_state {σ : Type} (cache : Cache) (key : UnitKey)
    (build : σ → Except EmitError Draft × σ) (s : σ) :
    (cache.getOrBuild key build s).2.2 =
      if (cache.lookup key).isSome then s else (build s).2 := by
  rcases cache.getOrBuild_cases key build s with
    ⟨unit, h, heq⟩ | ⟨h, ⟨e, -, heq⟩ | ⟨draft, -, ⟨-, heq⟩ | ⟨-, heq⟩⟩⟩
  all_goals simp [heq, h]

namespace Simulator

variable {C G δ : Type}

/-- Freeing dead code changes nothing but the cache. -/
theorem purge_eq_ok {sim purged : Simulator C G δ} (h : sim.purge = .ok purged) :
    (sim.cache.shouldPurge = false ∧ purged = sim) ∨
      (sim.cache.shouldPurge = true ∧ purged = { sim with cache := sim.cache.cleared }) := by
  rw [purge] at h
  split at h
  · rename_i hneeded
    cases hreset : sim.cache.reset with
    | error e => simp [hreset, Except.map] at h
    | ok cache =>
        rw [hreset] at h
        rw [Cache.reset_eq_ok hreset] at h
        exact .inr ⟨hneeded, (Except.ok.inj h).symm⟩
  · rename_i hneeded
    exact .inl ⟨Bool.eq_false_iff.mpr hneeded, (Except.ok.inj h).symm⟩

theorem purge_frame {sim purged : Simulator C G δ} (h : sim.purge = .ok purged) :
    purged = { sim with cache := purged.cache } := by
  rcases purge_eq_ok h with ⟨-, rfl⟩ | ⟨-, rfl⟩ <;> rfl

theorem purge_machine {sim purged : Simulator C G δ} (h : sim.purge = .ok purged) :
    purged.machine = sim.machine := by
  rw [purge_frame h]

theorem purge_settings {sim purged : Simulator C G δ} (h : sim.purge = .ok purged) :
    purged.settings = sim.settings := by
  rw [purge_frame h]

theorem purge_of_renews {sim : Simulator C G δ} (h : sim.cache.compiler.Renews) :
    sim.purge =
      .ok { sim with cache := if sim.cache.shouldPurge then sim.cache.cleared else sim.cache } := by
  rw [purge, Cache.reset_of_renews h]
  split <;> rfl

variable [Architecture C]

/-- How the loop goes on after a unit, or after the search for one. -/
def react (pc : UInt64) : Except UnitFailure UInt64 × Simulator C G δ → Turn × Simulator C G δ
  | (.ok next, sim) => (.next next, sim)
  | (.error (.exception (.accessTrap id addr)), sim) =>
    (.next (sim.machine.enterTrap id addr).1,
      { sim with machine := (sim.machine.enterTrap id addr).2 })
  | (.error (.exception (.stopped code)), sim) => (.exit (.stopped code) pc, sim)
  | (.error (.exception (.undecodable addr)), sim) => (.exit (.decodeError addr) addr, sim)
  | (.error (.fatal e), sim) => (.failed e pc, sim)

theorem react_frame (pc : UInt64) (outcome : Except UnitFailure UInt64 × Simulator C G δ) :
    (react pc outcome).2.cache = outcome.2.cache ∧
      (react pc outcome).2.settings = outcome.2.settings := by
  obtain ⟨result, sim⟩ := outcome
  match result with
  | .ok _ => exact ⟨rfl, rfl⟩
  | .error (.exception (.accessTrap _ _)) => exact ⟨rfl, rfl⟩
  | .error (.exception (.stopped _)) => exact ⟨rfl, rfl⟩
  | .error (.exception (.undecodable _)) => exact ⟨rfl, rfl⟩
  | .error (.fatal _) => exact ⟨rfl, rfl⟩

/-- A reaction changes the machine only by entering a trap. -/
theorem react_keeps {I : Machine C δ → Prop}
    (htrap : ∀ m id addr, I m → I (m.enterTrap id addr).2) (pc : UInt64)
    {outcome : Except UnitFailure UInt64 × Simulator C G δ} (h : I outcome.2.machine) :
    I (react pc outcome).2.machine := by
  obtain ⟨result, sim⟩ := outcome
  match result with
  | .ok _ => exact h
  | .error (.exception (.accessTrap id addr)) => exact htrap sim.machine id addr h
  | .error (.exception (.stopped _)) => exact h
  | .error (.exception (.undecodable _)) => exact h
  | .error (.fatal _) => exact h

theorem runUnit_machine [Debugger δ] (sim : Simulator C G δ) (unit : CodeUnit) (pc : UInt64) :
    (sim.runUnit unit pc).2.machine =
      { (unit.code.run (sim.machine.enter sim.settings.layout.nextPc.index pc)).2 with
        context.exception := none } := by
  simp only [runUnit, settle]
  split
  · rfl
  · rename_i hnone
    rw [← hnone]

theorem runUnit_of_ended [Debugger δ] {sim : Simulator C G δ} {unit : CodeUnit} {pc next : UInt64}
    {m : Machine C δ}
    (h : unit.code.run (sim.machine.enter sim.settings.layout.nextPc.index pc) = (next, m))
    (hended : m.context.exception = none) :
    sim.runUnit unit pc = (.ok next, { sim with
      cache :=
        if Architecture.instructionCount m.core - Architecture.instructionCount
            (sim.machine.enter sim.settings.layout.nextPc.index pc).core = UInt64.ofNat unit.size
        then sim.cache.conclude sim.settings.clusterId unit else sim.cache
      machine := m }) := by
  simp only [runUnit, settle, h, hended]

theorem runUnit_of_raised [Debugger δ] {sim : Simulator C G δ} {unit : CodeUnit}
    {pc next : UInt64} {m : Machine C δ} {e : Exception}
    (h : unit.code.run (sim.machine.enter sim.settings.layout.nextPc.index pc) = (next, m))
    (hraised : m.context.exception = some e) :
    sim.runUnit unit pc =
      (.error e, { sim with machine := { m with context.exception := none } }) := by
  simp only [runUnit, settle, h, hraised]

variable [Emitter G C]

omit [Architecture C] in
/-- What the generation of an instruction keeps, the growth of a unit keeps. -/
theorem grow_keeps {I : Machine C δ → Prop}
    (hgenerate : ∀ pc ordinal (s : G × Machine C δ), I s.2 → I (Draft.generate pc ordinal s).2.2)
    (start : UInt64) (room ordinal : Nat) (pc : VirtAddr) (sketch : Sketch)
    {s : G × Machine C δ} (h : I s.2) :
    (∀ p ∈ Draft.growPoints room ordinal pc s, I p) ∧
      I (Draft.grow start room ordinal pc sketch s).2.2 := by
  induction room generalizing ordinal pc sketch s with
  | zero => exact ⟨by simp [Draft.growPoints], h⟩
  | succ room ih =>
      have hnext := hgenerate pc ordinal s h
      rw [Draft.growPoints, Draft.grow]
      cases hgen : Draft.generate pc ordinal s with
      | mk result s₁ =>
          rw [hgen] at hnext
          cases result with
          | error e =>
              refine ⟨by simpa using hnext, ?_⟩
              simp only
              split <;> exact hnext
          | ok step =>
              simp only
              split
              · obtain ⟨hpoints, hend⟩ := ih (ordinal + 1) step.next
                  (sketch.extend ordinal pc step) hnext
                exact ⟨List.forall_mem_cons.mpr ⟨hnext, hpoints⟩, hend⟩
              · exact ⟨by simpa using hnext, hnext⟩

omit [Architecture C] in
theorem unitAt_eq {sim : Simulator C G δ} {settings : Settings} {key : UnitKey}
    {start : VirtAddr} {result : Except BuildError CodeUnit} {cache : Cache} {emitter : G}
    {m : Machine C δ}
    (h : sim.cache.getOrBuild key (Draft.build settings start) (sim.emitter, sim.machine) =
      (result, cache, emitter, m)) :
    sim.unitAt settings key start = (result, { sim with cache, emitter, machine := m }) := by
  simp only [unitAt, h]

theorem unitFor_of_unmapped {sim : Simulator C G δ} {pc : UInt64} {e : Exception}
    {m : Machine C δ} (h : sim.machine.resolve (.fetch pc) = (.error e, m)) :
    sim.unitFor pc = (.error (.emit (.raised e)), { sim with machine := m }) := by
  simp only [unitFor, h]

theorem unitFor_of_mapped {sim : Simulator C G δ} {pc : UInt64} {phys : PhysAddr}
    {m m' : Machine C δ} {result : Except BuildError CodeUnit} {cache : Cache} {emitter : G}
    (h : sim.machine.resolve (.fetch pc) = (.ok phys, m))
    (hbuild : sim.cache.getOrBuild ⟨sim.cluster, phys.val⟩
      (Draft.build sim.settings (.fetch pc)) (sim.emitter, m) = (result, cache, emitter, m')) :
    sim.unitFor pc = (result, { sim with cache, emitter, machine := m' }) := by
  simp only [unitFor, h]
  exact unitAt_eq hbuild

omit [Architecture C] in
theorem build_machine (settings : Settings) (start : VirtAddr) (s : G × Machine C δ) :
    (Draft.build settings start s).2.2 =
      (Draft.grow start.val settings.capacity 0 start {} s).2.2 := by
  rw [Draft.build]
  cases Draft.grow start.val settings.capacity 0 start {} s with
  | mk result s₁ => cases result <;> rfl

theorem unitFor_keeps {I : Machine C δ → Prop}
    (hresolve : ∀ m addr, I m → I (m.resolve addr).2)
    (hgenerate : ∀ pc ordinal (s : G × Machine C δ), I s.2 → I (Draft.generate pc ordinal s).2.2)
    {sim : Simulator C G δ} (pc : UInt64) (h : I sim.machine) :
    (∀ p ∈ sim.unitPoints pc, I p) ∧ I (sim.unitFor pc).2.machine := by
  have hresolved := hresolve sim.machine (.fetch pc) h
  rw [unitPoints]
  cases hcase : sim.machine.resolve (.fetch pc) with
  | mk resolved m =>
      rw [hcase] at hresolved
      cases resolved with
      | error e =>
          rw [unitFor_of_unmapped hcase]
          exact ⟨by simpa using hresolved, hresolved⟩
      | ok phys =>
          have hstate := sim.cache.getOrBuild_state ⟨sim.cluster, phys.val⟩
            (Draft.build sim.settings (.fetch pc)) (sim.emitter, m)
          cases hbuild : sim.cache.getOrBuild ⟨sim.cluster, phys.val⟩
              (Draft.build sim.settings (.fetch pc)) (sim.emitter, m) with
          | mk result rest =>
              obtain ⟨cache, s₁⟩ := rest
              rw [unitFor_of_mapped hcase hbuild]
              rw [hbuild] at hstate
              simp only at hstate
              obtain ⟨hpoints, hgrown⟩ := grow_keeps hgenerate pc sim.settings.capacity 0
                (.fetch pc) {} (show I (sim.emitter, m).2 from hresolved)
              simp only
              cases hlookup : (sim.cache.lookup ⟨sim.cluster, phys.val⟩).isSome with
              | true =>
                  rw [hlookup, if_pos rfl] at hstate
                  rw [if_pos rfl, hstate]
                  exact ⟨by simpa using hresolved, hresolved⟩
              | false =>
                  rw [hlookup, if_neg Bool.false_ne_true] at hstate
                  rw [if_neg Bool.false_ne_true, hstate, build_machine]
                  exact ⟨List.forall_mem_cons.mpr ⟨hresolved, hpoints⟩, hgrown⟩

theorem find_of_unpurged {sim : Simulator C G δ} {pc : UInt64} {e : InitError}
    (h : sim.purge = .error e) : sim.find pc = (.error (.fatal (.init e)), sim) := by
  rw [find, h]

theorem find_of_error {sim purged sim₁ : Simulator C G δ} {pc : UInt64} {e : BuildError}
    (hpurge : sim.purge = .ok purged) (h : purged.unitFor pc = (.error e, sim₁)) :
    sim.find pc = (.error (searchFailure sim₁.cluster e), sim₁) := by
  simp only [find, hpurge, h]

theorem find_of_ok {sim purged sim₁ : Simulator C G δ} {pc : UInt64} {unit : CodeUnit}
    (hpurge : sim.purge = .ok purged) (h : purged.unitFor pc = (.ok unit, sim₁)) :
    sim.find pc = (.ok unit, sim₁) := by
  simp only [find, hpurge, h]

theorem find_eq_ok {sim sim₁ : Simulator C G δ} {pc : UInt64} {unit : CodeUnit}
    (h : sim.find pc = (.ok unit, sim₁)) :
    ∃ purged, sim.purge = .ok purged ∧ purged.unitFor pc = (.ok unit, sim₁) := by
  cases hpurge : sim.purge with
  | error e => simp [find_of_unpurged hpurge] at h
  | ok purged =>
      cases hunit : purged.unitFor pc with
      | mk result sim₂ =>
          cases result with
          | error e => simp [find_of_error hpurge hunit] at h
          | ok unit' =>
              rw [find_of_ok hpurge hunit] at h
              cases h
              exact ⟨purged, rfl, hunit⟩

theorem find_eq_error {sim sim₁ : Simulator C G δ} {pc : UInt64} {failure : UnitFailure}
    (h : sim.find pc = (.error failure, sim₁)) :
    (∃ e, sim.purge = .error e ∧ failure = .fatal (.init e) ∧ sim₁ = sim) ∨
      ∃ purged e, sim.purge = .ok purged ∧ purged.unitFor pc = (.error e, sim₁) ∧
        failure = searchFailure sim₁.cluster e := by
  cases hpurge : sim.purge with
  | error e =>
      rw [find_of_unpurged hpurge] at h
      cases h
      exact .inl ⟨e, rfl, rfl, rfl⟩
  | ok purged =>
      cases hunit : purged.unitFor pc with
      | mk result sim₂ =>
          cases result with
          | error e =>
              rw [find_of_error hpurge hunit] at h
              cases h
              exact .inr ⟨purged, e, rfl, hunit, rfl⟩
          | ok unit => simp [find_of_ok hpurge hunit] at h

theorem find_snd {P : Simulator C G δ → Prop} {sim : Simulator C G δ} (pc : UInt64) (h : P sim)
    (hsearch : ∀ purged, sim.purge = .ok purged → P (purged.unitFor pc).2) :
    P (sim.find pc).2 := by
  cases hpurge : sim.purge with
  | error e => rwa [find_of_unpurged hpurge]
  | ok purged =>
      have hend := hsearch purged hpurge
      cases hunit : purged.unitFor pc with
      | mk result sim₁ =>
          rw [hunit] at hend
          cases result with
          | error e => rwa [find_of_error hpurge hunit]
          | ok unit => rwa [find_of_ok hpurge hunit]

theorem find_keeps {I : Machine C δ → Prop}
    (hresolve : ∀ m addr, I m → I (m.resolve addr).2)
    (hgenerate : ∀ pc ordinal (s : G × Machine C δ), I s.2 → I (Draft.generate pc ordinal s).2.2)
    {sim : Simulator C G δ} (pc : UInt64) (h : I sim.machine) :
    (∀ p ∈ sim.findPoints pc, I p) ∧ I (sim.find pc).2.machine := by
  have hsearch : ∀ purged, sim.purge = .ok purged →
      (∀ p ∈ purged.unitPoints pc, I p) ∧ I (purged.unitFor pc).2.machine :=
    fun purged hpurge => unitFor_keeps hresolve hgenerate pc (purge_machine hpurge ▸ h)
  constructor
  · rw [findPoints]
    cases hpurge : sim.purge with
    | error e => simp
    | ok purged => exact (hsearch purged hpurge).1
  · exact find_snd (P := fun sim => I sim.machine) pc h fun purged hpurge =>
      (hsearch purged hpurge).2

variable [Debugger δ]

theorem turn_of_spent {limit pc : UInt64} {sim : Simulator C G δ}
    (h : limit ≤ sim.instructionCount) :
    sim.turn limit pc = (.exit .instructionLimit pc, sim) := by
  rw [turn, if_pos h]

theorem turn_of_left {limit pc : UInt64} {sim : Simulator C G δ}
    (h : ¬ limit ≤ sim.instructionCount) :
    sim.turn limit pc = react pc (sim.attempt pc) := by
  rw [turn, if_neg h]
  cases sim.attempt pc with
  | mk result sim₁ =>
      match result with
      | .ok _ => rfl
      | .error (.exception (.accessTrap _ _)) => rfl
      | .error (.exception (.stopped _)) => rfl
      | .error (.exception (.undecodable _)) => rfl
      | .error (.fatal _) => rfl

theorem executeUnit_of_error {sim sim₁ : Simulator C G δ} {pc : UInt64} {e : BuildError}
    (h : sim.unitFor pc = (.error e, sim₁)) :
    sim.executeUnit pc = (.error (searchFailure sim₁.cluster e), sim₁) := by
  rw [executeUnit, h]
  match e with
  | .emit (.raised _) => rfl
  | .emit (.badWidth _) => rfl
  | .emit (.badOperand _) => rfl
  | .rejected _ => rfl

theorem executeUnit_of_ok {sim sim₁ : Simulator C G δ} {pc : UInt64} {unit : CodeUnit}
    (h : sim.unitFor pc = (.ok unit, sim₁)) :
    sim.executeUnit pc =
      ((sim₁.runUnit unit pc).1.mapError .exception, (sim₁.runUnit unit pc).2) := by
  rw [executeUnit, h]
  simp only
  cases sim₁.runUnit unit pc with
  | mk result sim₂ => cases result <;> rfl

theorem attempt_of_error {sim sim₁ : Simulator C G δ} {pc : UInt64} {failure : UnitFailure}
    (h : sim.find pc = (.error failure, sim₁)) : sim.attempt pc = (.error failure, sim₁) := by
  rcases find_eq_error h with ⟨e, hpurge, rfl, rfl⟩ | ⟨purged, e, hpurge, hunit, rfl⟩
  · rw [attempt, hpurge]
  · rw [attempt, hpurge]
    exact executeUnit_of_error hunit

theorem attempt_of_ok {sim sim₁ : Simulator C G δ} {pc : UInt64} {unit : CodeUnit}
    (h : sim.find pc = (.ok unit, sim₁)) :
    sim.attempt pc =
      ((sim₁.runUnit unit pc).1.mapError .exception, (sim₁.runUnit unit pc).2) := by
  obtain ⟨purged, hpurge, hunit⟩ := find_eq_ok h
  rw [attempt, hpurge]
  exact executeUnit_of_ok hunit

theorem turn_of_unpurged {limit pc : UInt64} {sim : Simulator C G δ} {e : InitError}
    (hleft : ¬ limit ≤ sim.instructionCount) (h : sim.purge = .error e) :
    sim.turn limit pc = (.failed (.init e) pc, sim) := by
  rw [turn_of_left hleft, attempt_of_error (find_of_unpurged h)]
  rfl

/-- What every call that a turn makes keeps, the turn keeps. -/
theorem turn_keeps {I : Machine C δ → Prop}
    (hresolve : ∀ m addr, I m → I (m.resolve addr).2)
    (hgenerate : ∀ pc ordinal (s : G × Machine C δ), I s.2 → I (Draft.generate pc ordinal s).2.2)
    (henter : ∀ m nextPc pc, I m → I (m.enter nextPc pc))
    (hperform : ∀ (m : Machine C δ) op, I m → I (m.perform op).2)
    (hclear : ∀ m : Machine C δ, I m → I { m with context.exception := none })
    (htrap : ∀ m id addr, I m → I (m.enterTrap id addr).2)
    {sim : Simulator C G δ} (limit pc : UInt64) (h : I sim.machine) :
    I (sim.turn limit pc).2.machine := by
  by_cases hleft : limit ≤ sim.instructionCount
  · rwa [turn_of_spent hleft]
  · rw [turn_of_left hleft]
    apply react_keeps htrap
    have hunit := (find_keeps hresolve hgenerate pc h).2
    cases hcase : sim.find pc with
    | mk result sim₁ =>
        rw [hcase] at hunit
        cases result with
        | error e => rwa [attempt_of_error hcase]
        | ok unit =>
            rw [attempt_of_ok hcase, runUnit_machine]
            apply hclear
            exact unit.code.uses_trivial.keeps (fun op m _ hm => hperform m op hm)
              (henter _ _ _ hunit) _ (unit.code.end_mem_points _)

end Simulator

end GuestSim

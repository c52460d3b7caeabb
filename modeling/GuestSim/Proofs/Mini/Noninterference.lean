import GuestSim.Proofs.Budget
import GuestSim.Proofs.Mini.Bare
import GuestSim.Proofs.Mini.Blocks
import GuestSim.Proofs.Sessions
import GuestSim.Proofs.Upkeep

/-! # Observers do not interfere

A simulator of the small architecture runs as it would without its observers, turn by turn: it finds
and builds the same units, and they do the same. -/

namespace GuestSim

open Mini

/-! ## The cache -/

namespace Cache

/-- The cache with all units made without calls of observers. -/
def bare (cache : Cache) : Cache :=
  { cache with live := cache.live.map fun entry => (entry.1, entry.2.bare) }

theorem bare_lookup (cache : Cache) (key : UnitKey) :
    cache.bare.lookup key = (cache.lookup key).map CodeUnit.bare := by
  simp only [lookup, bare]
  induction cache.live with
  | nil => rfl
  | cons entry entries ih =>
      obtain ⟨key', unit⟩ := entry
      simp only [List.map_cons, List.lookup_cons, ih]
      split <;> rfl

theorem bare_size (cache : Cache) (cluster : UInt32) :
    cache.bare.size cluster = cache.size cluster := by
  simp only [size, bare, List.countP_map]
  rfl

theorem bare_flush (cache : Cache) (cluster : UInt32) :
    cache.bare.flush cluster = (cache.flush cluster).bare := by
  rw [flush, flush, bare_size]
  simp only [bare, List.filter_map]
  rfl

theorem bare_remove (cache : Cache) (key : UnitKey) :
    cache.bare.remove key = (cache.remove key).bare := by
  rw [remove, remove, bare_lookup, Option.isSome_map]
  split
  · simp only [bare, List.filter_map]
    rfl
  · rfl

theorem bare_conclude (cache : Cache) (cluster : UInt32) (unit : CodeUnit) :
    cache.bare.conclude cluster unit.bare = (cache.conclude cluster unit).bare := by
  have houtcome : unit.bare.outcome = unit.outcome := rfl
  rw [conclude, conclude, houtcome]
  cases unit.outcome with
  | next => rfl
  | branch => rfl
  | flush => exact cache.bare_flush cluster
  | evict => exact cache.bare_remove ⟨cluster, unit.phys⟩

theorem flush_of_live_eq_nil {cache : Cache} (h : cache.live = []) (cluster : UInt32) :
    cache.flush cluster = cache := by
  obtain ⟨compiler, live, hits, misses, compiled, dead, declared, listing⟩ := cache
  obtain rfl : live = [] := h
  simp [flush, size]

/-- A request finds or builds the unit made without observers, if the compiler does not mind them. -/
theorem bare_getOrBuild {σ : Type} (cache : Cache) (key : UnitKey) {f : σ → σ}
    {build build' : σ → Except EmitError Draft × σ} {s : σ}
    (h : build' (f s) = ((build s).1.map Draft.bare, f (build s).2))
    (hverdict : ∀ draft, (build s).1 = .ok draft →
      (cache.bare.Accepts key draft.bare ↔ cache.Accepts key draft)) :
    cache.bare.getOrBuild key build' (f s) =
      ((cache.getOrBuild key build s).1.map CodeUnit.bare, (cache.getOrBuild key build s).2.1.bare,
        f (cache.getOrBuild key build s).2.2) := by
  have hlookup := cache.bare_lookup key
  rcases cache.getOrBuild_cases key build s with
    ⟨unit, hunit, heq⟩ |
      ⟨hnone, ⟨e, he, heq⟩ | ⟨draft, hdraft, ⟨hrejected, heq⟩ | ⟨haccepted, heq⟩⟩⟩
  · rw [hunit] at hlookup
    rw [heq]
    exact getOrBuild_of_some hlookup
  · rw [hnone] at hlookup
    rw [heq]
    rw [he] at h
    exact getOrBuild_of_failed hlookup h
  · rw [hnone] at hlookup
    have hbare : build' (f s) = (.ok draft.bare, f (build s).2) := by
      rw [h, hdraft]
      rfl
    rw [heq]
    exact (getOrBuild_of_rejected hlookup hbare
      (mt (hverdict draft hdraft).mp hrejected)).trans rfl
  · rw [hnone] at hlookup
    have hbare : build' (f s) = (.ok draft.bare, f (build s).2) := by
      rw [h, hdraft]
      rfl
    rw [heq]
    exact getOrBuild_of_built hlookup hbare ((hverdict draft hdraft).mpr haccepted)

end Cache

/-! ## Building -/

namespace Draft

variable {δ : Type}

def bareState (s : Codegen × Machine Core δ) : Codegen × Machine Core δ := (s.1, s.2.bare)

theorem bare_generate (pc : VirtAddr) (ordinal : Nat) (s : Codegen × Machine Core δ) :
    generate pc ordinal (bareState s) =
      ((generate pc ordinal s).1, bareState (generate pc ordinal s).2) := by
  have hfetch : s.2.core.bare.fetch pc = s.2.core.fetch pc := rfl
  simp only [generate, Emitter.generate, bareState, Machine.bare, Machine.record, hfetch]
  cases s.2.core.fetch pc <;> rfl

theorem bare_grow (start : UInt64) (room ordinal : Nat) (pc : VirtAddr) (sketch : Sketch)
    (s : Codegen × Machine Core δ) :
    grow start room ordinal pc sketch (bareState s) =
      ((grow start room ordinal pc sketch s).1,
        bareState (grow start room ordinal pc sketch s).2) := by
  induction room generalizing ordinal pc sketch s with
  | zero => rfl
  | succ room ih =>
      rw [grow, grow, bare_generate]
      cases generate pc ordinal s with
      | mk result s₁ =>
          cases result with
          | error e =>
              simp only
              split <;> rfl
          | ok step =>
              simp only
              split
              · exact ih _ _ _ _
              · rfl

/-- Observers leave the choice of instructions for a unit alone. -/
theorem bare_build (settings : Settings) (start : VirtAddr) (s : Codegen × Machine Core δ) :
    build settings.bare start (bareState s) =
      ((build settings start s).1.map bare, bareState (build settings start s).2) := by
  have hcapacity : settings.bare.capacity = settings.capacity := rfl
  rw [build, build, hcapacity, bare_grow]
  cases grow start.val settings.capacity 0 start {} s with
  | mk result s₁ => cases result <;> rfl

end Draft

/-! ## Turns -/

namespace Simulator

variable {δ : Type}

def bare (sim : Simulator Core Codegen δ) : Simulator Core Codegen δ where
  machine := sim.machine.bare
  emitter := sim.emitter
  cache := sim.cache.bare
  config := { sim.config with debugging := false }
  settings := sim.settings.bare
  lastRun := sim.lastRun

theorem bare_purge (sim : Simulator Core Codegen δ) :
    sim.bare.purge = sim.purge.map bare := by
  have hlength : sim.bare.cache.live.length = sim.cache.live.length := List.length_map _
  have hpurge : sim.bare.cache.shouldPurge = sim.cache.shouldPurge := by
    rw [Cache.shouldPurge, Cache.shouldPurge, hlength]
    rfl
  have hrenew : sim.bare.cache.compiler.renew sim.bare.cache.compiled =
    sim.cache.compiler.renew sim.cache.compiled := rfl
  rw [purge, purge, hpurge, Cache.reset, Cache.reset, hrenew]
  split
  · cases sim.cache.compiler.renew sim.cache.compiled <;> rfl
  · rfl

/-- A reliable compiler takes the units of the small architecture with observers or without. -/
theorem accepts_of_build {sim : Simulator Core Codegen δ} (h : sim.cache.compiler.Reliable)
    (key : UnitKey) {start : VirtAddr} {state : Codegen × Machine Core δ} {draft : Draft}
    (hbuild : (Draft.build sim.settings start state).1 = .ok draft) :
    sim.bare.cache.Accepts key draft.bare ∧ sim.cache.Accepts key draft := by
  have htyped := isWellTyped_of_made (Draft.build_made (Prod.ext hbuild rfl))
  exact ⟨h.accepts _ _ htyped, h.accepts _ _ htyped⟩

theorem bare_unitFor {sim : Simulator Core Codegen δ} (h : sim.cache.compiler.Reliable)
    (pc : UInt64) :
    sim.bare.unitFor pc = ((sim.unitFor pc).1.map CodeUnit.bare, (sim.unitFor pc).2.bare) := by
  cases hresolve : sim.machine.resolve (.fetch pc) with
  | mk resolved m =>
      have hbare : sim.bare.machine.resolve (.fetch pc) = (resolved, m.bare) := by
        rw [show sim.bare.machine.resolve (.fetch pc) = ((sim.machine.resolve (.fetch pc)).1,
          (sim.machine.resolve (.fetch pc)).2.bare) from rfl, hresolve]
      cases resolved with
      | error e =>
          rw [unitFor_of_unmapped hresolve, unitFor_of_unmapped hbare]
          rfl
      | ok phys =>
          have hbuild := sim.cache.bare_getOrBuild ⟨sim.cluster, phys.val⟩
            (Draft.bare_build sim.settings (.fetch pc) (sim.emitter, m))
            (fun draft hdraft => iff_of_true (accepts_of_build h _ hdraft).1
              (accepts_of_build h _ hdraft).2)
          cases hcase : sim.cache.getOrBuild ⟨sim.cluster, phys.val⟩
              (Draft.build sim.settings (.fetch pc)) (sim.emitter, m) with
          | mk result rest =>
              rw [hcase] at hbuild
              rw [unitFor_of_mapped hresolve hcase, unitFor_of_mapped hbare hbuild]
              rfl

variable [Debugger δ]

/-- A simulator whose units are its own, whose debugger, if it has one, never refuses, and whose
compiler never fails. -/
structure Calm (sim : Simulator Core Codegen δ) : Prop where
  filled : sim.Filled
  harmless : sim.machine.Harmless
  compiler : sim.cache.compiler.Reliable

omit [Debugger δ] in
theorem bare_settle (cache : Cache) (cluster : UInt32) (unit : CodeUnit) (icount next : UInt64)
    (m : Machine Core δ) :
    settle cache.bare cluster unit.bare icount (next, m.bare) =
      ((settle cache cluster unit icount (next, m)).1,
        (settle cache cluster unit icount (next, m)).2.1.bare,
        (settle cache cluster unit icount (next, m)).2.2.bare) := by
  have hexception : m.bare.context.exception = m.context.exception := rfl
  have hcount : Architecture.instructionCount m.bare.core =
    Architecture.instructionCount m.core := rfl
  have hsize : unit.bare.size = unit.size := rfl
  simp only [settle, hexception, hcount, hsize, Cache.bare_conclude]
  cases m.context.exception with
  | some e => rfl
  | none =>
      simp only
      split <;> rfl

theorem bare_runUnit {sim : Simulator Core Codegen δ} (hm : sim.machine.Harmless)
    {unit : CodeUnit} (hmade : unit.Made Codegen sim.settings) (pc : UInt64) :
    sim.bare.runUnit unit.bare pc = ((sim.runUnit unit pc).1, (sim.runUnit unit pc).2.bare) := by
  let m := sim.machine.enter sim.settings.layout.nextPc.index pc
  have hcode : unit.bare.code.run m.bare = ((unit.code.run m).1, (unit.code.run m).2.bare) :=
    hmade.shadows m hm
  have hsettled := bare_settle sim.cache sim.settings.clusterId unit
    (Architecture.instructionCount m.core) (unit.code.run m).1 (unit.code.run m).2
  rw [← hcode] at hsettled
  have hrun : sim.bare.runUnit unit.bare pc =
      let settled := settle sim.cache.bare sim.settings.clusterId unit.bare
        (Architecture.instructionCount m.core) (unit.bare.code.run m.bare)
      (settled.1, { sim.bare with cache := settled.2.1, machine := settled.2.2 }) := rfl
  rw [hrun, hsettled]
  rfl

theorem bare_executeUnit {sim : Simulator Core Codegen δ} (h : sim.Calm) (pc : UInt64) :
    sim.bare.executeUnit pc = ((sim.executeUnit pc).1, (sim.executeUnit pc).2.bare) := by
  have hsearch := bare_unitFor h.compiler pc
  have hharmless := (unitFor_keeps (I := fun m : Machine Core δ => m.Harmless) (fun _ _ hm => hm)
    (fun _ _ _ hm => hm) pc h.harmless).2
  cases hunit : sim.unitFor pc with
  | mk result sim₁ =>
      rw [hunit] at hsearch hharmless
      cases result with
      | error e =>
          rw [executeUnit_of_error hunit, executeUnit_of_error hsearch]
          rfl
      | ok unit =>
          have hmade := h.filled.unit_made hunit
          rw [← (unitFor_spec hunit).1] at hmade
          rw [executeUnit_of_ok hunit, executeUnit_of_ok hsearch, bare_runUnit hharmless hmade]

omit [Debugger δ] in
theorem bare_react (pc : UInt64) (result : Except UnitFailure UInt64)
    (sim : Simulator Core Codegen δ) :
    react pc (result, sim.bare) =
      ((react pc (result, sim)).1, (react pc (result, sim)).2.bare) := by
  match result with
  | .ok _ => rfl
  | .error (.exception (.accessTrap _ _)) => rfl
  | .error (.exception (.stopped _)) => rfl
  | .error (.exception (.undecodable _)) => rfl
  | .error (.fatal _) => rfl

theorem Calm.purge {sim purged : Simulator Core Codegen δ} (h : sim.Calm)
    (hpurge : sim.purge = .ok purged) : purged.Calm where
  filled := h.filled.purge hpurge
  harmless := purge_machine hpurge ▸ h.harmless
  compiler := (lasting_compiler _).purge rfl hpurge ▸ h.compiler

theorem bare_attempt {sim : Simulator Core Codegen δ} (h : sim.Calm) (pc : UInt64) :
    sim.bare.attempt pc = ((sim.attempt pc).1, (sim.attempt pc).2.bare) := by
  have hbare := sim.bare_purge
  cases hpurge : sim.purge with
  | error e =>
      rw [hpurge] at hbare
      rw [attempt_of_error (find_of_unpurged hpurge), attempt_of_error (find_of_unpurged hbare)]
  | ok purged =>
      rw [hpurge] at hbare
      rw [attempt, attempt, hpurge, hbare]
      exact bare_executeUnit (h.purge hpurge) pc

/-- A turn goes as it would without observers. -/
theorem bare_turn {sim : Simulator Core Codegen δ} (h : sim.Calm) (limit pc : UInt64) :
    sim.bare.turn limit pc = ((sim.turn limit pc).1, (sim.turn limit pc).2.bare) := by
  have hcount : sim.bare.instructionCount = sim.instructionCount := rfl
  by_cases hspent : limit ≤ sim.instructionCount
  · rw [turn_of_spent hspent, turn_of_spent (hcount ▸ hspent)]
  · rw [turn_of_left hspent, turn_of_left (hcount ▸ hspent), bare_attempt h, bare_react]

theorem Calm.turn {sim : Simulator Core Codegen δ} (h : sim.Calm) (limit pc : UInt64) :
    (sim.turn limit pc).2.Calm where
  filled := h.filled.turn limit pc
  harmless :=
    turn_keeps (fun _ _ hm => hm) (fun _ _ _ hm => hm) (fun _ _ _ hm => hm)
      (fun _ op hm => hm.perform op) (fun _ hm => hm) (fun _ _ _ hm => hm) limit pc h.harmless
  compiler := turn_compiler limit pc sim ▸ h.compiler

theorem bare_loop (limit : UInt64) (fuel : Nat) (pc : UInt64) {sim : Simulator Core Codegen δ}
    (h : sim.Calm) :
    loop limit fuel pc sim.bare =
      (loop limit fuel pc sim).map fun (result, pc, sim) => (result, pc, sim.bare) := by
  induction fuel generalizing pc sim with
  | zero => rfl
  | succ fuel ih =>
      have hnext := h.turn limit pc
      rw [loop, loop, bare_turn h]
      cases hturn : sim.turn limit pc with
      | mk ending sim₁ =>
          rw [hturn] at hnext
          cases ending with
          | next pc₁ => exact ih pc₁ hnext
          | exit e pc₁ => rfl
          | failed e pc₁ => rfl

/-! ## Sessions -/

omit [Debugger δ] in
theorem bare_closed (sim : Simulator Core Codegen δ) (result : Except SimError RunExit)
    (pc : UInt64) : sim.bare.closed result pc = (sim.closed result pc).bare := by
  unfold closed
  split
  · split <;> rfl
  · rfl

omit [Debugger δ] in
theorem bare_noteStats (sim : Simulator Core Codegen δ) (startAddr startIcount : UInt64) :
    sim.bare.noteStats startAddr startIcount = (sim.noteStats startAddr startIcount).bare := by
  have hsize : sim.bare.cache.size sim.bare.cluster = sim.cache.size sim.cluster :=
    sim.cache.bare_size sim.cluster
  rw [noteStats, hsize]
  rfl

theorem Calm.armed {sim : Simulator Core Codegen δ} (h : sim.Calm) (limit : UInt64) :
    (sim.armed limit).Calm :=
  ⟨h.filled.of_subset rfl fun _ hentry => hentry, h.harmless, h.compiler⟩

theorem Calm.writePc {sim : Simulator Core Codegen δ} (h : sim.Calm) (pc : UInt64) :
    (sim.writePc pc).Calm :=
  ⟨h.filled.of_subset rfl fun _ hentry => hentry, h.harmless, h.compiler⟩

/-- A run goes as it would without observers, and ends if and when it would. -/
theorem bare_run {sim : Simulator Core Codegen δ} (h : sim.Calm) (fuel : Nat)
    (limit : Option UInt64) :
    sim.bare.run fuel limit =
      (sim.run fuel limit).map fun (result, sim) => (result, sim.bare) := by
  have hloop := bare_loop (limit.getD (-1)) fuel (Architecture.currentPc sim.machine.core)
    (h.armed (limit.getD (-1)))
  rw [run_eq, run_eq]
  rw [show sim.bare.armed (limit.getD (-1)) = (sim.armed (limit.getD (-1))).bare from rfl,
    show Architecture.currentPc sim.bare.machine.core =
      Architecture.currentPc sim.machine.core from rfl, hloop, Option.map_map, Option.map_map]
  congr 1
  funext ⟨result, pc, sim'⟩
  simp only [Function.comp_apply, bare_closed, bare_noteStats]
  rfl

theorem Calm.run {sim sim' : Simulator Core Codegen δ} (h : sim.Calm) {fuel : Nat}
    {limit : Option UInt64} {result : Except SimError RunExit}
    (hrun : sim.run fuel limit = some (result, sim')) : sim'.Calm := by
  refine ⟨h.filled.run hrun, ?_, (lasting_compiler _).run rfl hrun ▸ h.compiler⟩
  obtain ⟨pc', sim₁, hloop, rfl⟩ := run_eq_some hrun
  have hend : sim₁.Calm := loop_keeps (fun pc s hs => hs.turn _ pc) (h.armed _) hloop
  change (sim₁.closed result pc').machine.Harmless
  unfold closed
  split
  · split <;> exact hend.harmless
  · exact hend.harmless

theorem Calm.perform {sim sim' : Simulator Core Codegen δ} (h : sim.Calm) {request : Request}
    {exit : Option (Except SimError RunExit)}
    (hperform : request.perform sim = some (exit, sim')) : sim'.Calm :=
  Request.perform_keeps (fun _ _ _ _ _ hs hrun => hs.run hrun)
    (fun _ _ hs => ⟨filled_of_flush rfl, hs.harmless, hs.compiler⟩)
    (fun pc _ hs => hs.writePc pc) h hperform

theorem bare_perform {sim : Simulator Core Codegen δ} (h : sim.Calm) (request : Request) :
    request.perform sim.bare =
      (request.perform sim).map fun (exit, sim) => (exit, sim.bare) := by
  cases request with
  | run fuel limit =>
      rw [Request.perform, bare_run h, Request.perform, Option.map_map, Option.map_map]
      rfl
  | runFrom fuel addr limit =>
      rw [Request.perform, runFrom, show sim.bare.writePc addr = (sim.writePc addr).bare from rfl,
        bare_run (h.writePc addr), Request.perform, runFrom, Option.map_map, Option.map_map]
      rfl
  | step fuel count =>
      rw [Request.perform, step,
        show sim.bare.instructionCount = sim.instructionCount from rfl, bare_run h,
        Request.perform, step, Option.map_map, Option.map_map]
      rfl
  | reset addr =>
      have hflush := sim.cache.bare_flush sim.cluster
      change some (none, { sim.bare.reset addr with cache := sim.cache.bare.flush sim.cluster }) = _
      rw [hflush]
      rfl
  | writePc pc => rfl

/-- The replies to requests are those that would be given without observers. -/
theorem bare_session {sim : Simulator Core Codegen δ} (h : sim.Calm) (requests : List Request) :
    session requests sim.bare =
      (session requests sim).map fun (replies, sim) => (replies, sim.bare) := by
  induction requests generalizing sim with
  | nil => rfl
  | cons request requests ih =>
      rw [session, session, bare_perform h]
      cases hperform : request.perform sim with
      | none => rfl
      | some answer =>
          obtain ⟨exit, sim₁⟩ := answer
          have hrest := ih (h.perform hperform)
          simp only [Option.map_some, Option.bind_some, hrest, Option.map_map]
          rfl

/-! ## Installation -/

omit [Debugger δ] in
/-- Installing an observer in a simulator that has not run yet changes nothing else. -/
theorem bare_install (observer : Observer δ) {sim : Simulator Core Codegen δ}
    (hempty : sim.cache.live = []) :
    (observer.install sim).bare = sim.bare ∧ (observer.install sim).cache.live = [] := by
  have hflush := Cache.flush_of_live_eq_nil hempty sim.cluster
  cases observer with
  | plugin p =>
      rw [Observer.install]
      rcases sim.registerPlugin_cases p with ⟨-, heq⟩ | ⟨mask, -, -, heq⟩
      · rw [heq]
        exact ⟨rfl, hempty⟩
      · rw [heq, hflush]
        exact ⟨rfl, hempty⟩
  | debugger d =>
      have heq : Observer.install (.debugger d) sim = { sim.setDebugger d with
        cache := sim.cache.flush sim.cluster } := rfl
      rw [heq, hflush]
      exact ⟨rfl, hempty⟩

theorem Calm.install {sim : Simulator Core Codegen δ} (h : sim.Calm) (observer : Observer δ)
    (hobserver : ∀ d, observer = .debugger d → Debugger.NeverRefuses d) :
    (observer.install sim).Calm := by
  cases observer with
  | plugin p =>
      rw [Observer.install]
      rcases sim.registerPlugin_cases p with ⟨-, heq⟩ | ⟨mask, -, -, heq⟩
      · rw [heq]
        exact ⟨h.filled.of_subset rfl fun _ hentry => hentry, h.harmless, h.compiler⟩
      · rw [heq]
        exact ⟨filled_of_flush rfl, h.harmless, h.compiler⟩
  | debugger d =>
      refine ⟨filled_of_flush rfl, ?_, h.compiler⟩
      rintro d' ⟨⟩
      exact hobserver d rfl

theorem bare_installed (observers : List (Observer δ)) {sim : Simulator Core Codegen δ}
    (hempty : sim.cache.live = []) (h : sim.Calm)
    (hobservers : ∀ d, .debugger d ∈ observers → Debugger.NeverRefuses d) :
    (installed observers sim).bare = sim.bare ∧ (installed observers sim).Calm := by
  induction observers generalizing sim with
  | nil => exact ⟨rfl, h⟩
  | cons observer observers ih =>
      obtain ⟨hbare, hlive⟩ := bare_install observer hempty
      have hcalm := h.install observer fun d hd => hobservers d (hd ▸ List.mem_cons_self)
      obtain ⟨hrest, hlast⟩ := ih hlive hcalm fun d hd => hobservers d (List.mem_cons_of_mem _ hd)
      exact ⟨hrest.trans hbare, hlast⟩

omit [Debugger δ] in
/-- What the core wants to know of phases, and what is recorded, is all by which fresh simulators of
the same program can differ. -/
theorem bare_new {core : Core} {mask mask' : SyncMask} {journal journal' : Journal}
    {config : Config} {compiler : Compiler} {sim sim' : Simulator Core Codegen δ}
    (h : Simulator.new { core := { core with syncPhases := mask }, journal } {} config compiler =
      .ok sim)
    (h' : Simulator.new { core := { core with syncPhases := mask' }, journal := journal' } {}
      config compiler = .ok sim') : sim.bare = sim'.bare := by
  obtain ⟨cache, hcache, rfl⟩ := new_eq_ok h
  obtain ⟨cache', hcache', rfl⟩ := new_eq_ok h'
  obtain rfl : cache = cache' := Except.ok.inj (hcache.symm.trans hcache')
  rfl

omit [Debugger δ] in
theorem live_new {machine : Machine Core δ} {emitter : Codegen} {config : Config}
    {compiler : Compiler} {sim : Simulator Core Codegen δ}
    (h : Simulator.new machine emitter config compiler = .ok sim) : sim.cache.live = [] := by
  obtain ⟨cache, hcache, rfl⟩ := new_eq_ok h
  exact Cache.live_ofConfig hcache

theorem calm_new {core : Core} {journal : Journal} {config : Config} {compiler : Compiler}
    {sim : Simulator Core Codegen δ} (hcompiler : compiler.Reliable)
    (h : Simulator.new { core, journal } {} config compiler = .ok sim) : sim.Calm := by
  have hfilled := (Reachable.new h).filled
  obtain ⟨cache, hcache, rfl⟩ := new_eq_ok h
  refine ⟨hfilled, ?_, ?_⟩
  · intro d hd
    cases hd
  · rw [Cache.ofConfig_eq_ok hcache]
    exact hcompiler

/-- Two fresh simulators of the same program and configuration, of which each has whatever observers
installed and reports whatever boundaries to its core, give the same replies to the same requests,
or none within the same number of turns, as long as no debugger ever refuses and the compiler does
not fail. They end with the same registers, flag, trap and memory, and with the same units and
accounts of them. -/
theorem observers_do_not_interfere {core : Core} {mask mask' : SyncMask}
    {journal journal' : Journal} {config : Config} {compiler : Compiler}
    {fresh fresh' : Simulator Core Codegen δ}
    (observers observers' : List (Observer δ)) (requests : List Request)
    (hcompiler : compiler.Reliable)
    (hfresh : Simulator.new { core := { core with syncPhases := mask }, journal } {} config
      compiler = .ok fresh)
    (hfresh' : Simulator.new { core := { core with syncPhases := mask' }, journal := journal' } {}
      config compiler = .ok fresh')
    (hobservers : ∀ d, .debugger d ∈ observers → Debugger.NeverRefuses d)
    (hobservers' : ∀ d, .debugger d ∈ observers' → Debugger.NeverRefuses d) :
    (session requests (installed observers fresh)).map (·.1) =
      (session requests (installed observers' fresh')).map (·.1) ∧
    ∀ replies replies' sim sim',
      session requests (installed observers fresh) = some (replies, sim) →
      session requests (installed observers' fresh') = some (replies', sim') →
      sim.machine.core.regs = sim'.machine.core.regs ∧
      sim.machine.core.zero = sim'.machine.core.zero ∧
      sim.machine.core.lastTrap = sim'.machine.core.lastTrap ∧
      sim.machine.core.ram = sim'.machine.core.ram ∧
      (sim.cache.live.map fun (key, unit) => (key, unit.phys, unit.outcome, unit.size)) =
        (sim'.cache.live.map fun (key, unit) => (key, unit.phys, unit.outcome, unit.size)) ∧
      sim.cache.hits = sim'.cache.hits ∧ sim.cache.misses = sim'.cache.misses ∧
      sim.cache.compiled = sim'.cache.compiled ∧ sim.cache.dead = sim'.cache.dead := by
  obtain ⟨hbare, hcalm⟩ := bare_installed observers (live_new hfresh)
    (calm_new hcompiler hfresh) hobservers
  obtain ⟨hbare', hcalm'⟩ := bare_installed observers' (live_new hfresh')
    (calm_new hcompiler hfresh') hobservers'
  have hsession := bare_session hcalm requests
  rw [hbare, bare_new hfresh hfresh', ← hbare', bare_session hcalm' requests] at hsession
  refine ⟨?_, fun replies replies' sim sim' hsim hsim' => ?_⟩
  · have hreplies := congrArg (Option.map Prod.fst) hsession
    rw [Option.map_map, Option.map_map] at hreplies
    exact hreplies.symm
  · rw [hsim, hsim', Option.map_some, Option.map_some, Option.some.injEq, Prod.mk.injEq] at hsession
    have hsame : sim.bare = sim'.bare := hsession.2.symm
    have hlive : (sim.bare.cache.live.map fun (key, unit) =>
          (key, unit.phys, unit.outcome, unit.size)) =
        (sim'.bare.cache.live.map fun (key, unit) =>
          (key, unit.phys, unit.outcome, unit.size)) := by rw [hsame]
    simp only [bare, Cache.bare, List.map_map] at hlive
    exact ⟨congrArg (·.machine.core.regs) hsame, congrArg (·.machine.core.zero) hsame,
      congrArg (·.machine.core.lastTrap) hsame, congrArg (·.machine.core.ram) hsame, hlive,
      congrArg (·.cache.hits) hsame, congrArg (·.cache.misses) hsame,
      congrArg (·.cache.compiled) hsame, congrArg (·.cache.dead) hsame⟩

/-- Two plugins, a debugger and a core that is told of all phases, over a program that loads from
nowhere and so is led back to its start. -/
theorem observers_do_not_interfere_fault :
    ∃ (observers : List (Observer (List Breakpoint))) (requests : List Request)
      (fresh fresh' : Simulator Core Codegen (List Breakpoint)),
      observers = [.plugin ⟨1, fun _ => some .all⟩, .debugger [], .plugin ⟨2, fun _ => some .pre⟩] ∧
      requests = [.run 4 (some 3), .reset (some 0x1004), .step 4 2] ∧
      Simulator.new { core := { Core.loaded 0x1000 [⟨.addi, 1, 1, 1⟩, ⟨.ld, 2, 0, 0⟩] with
                        syncPhases := .all }
                      journal := ⟨.everything, #[]⟩ } {} {} = .ok fresh ∧
      Simulator.new { core := { Core.loaded 0x1000 [⟨.addi, 1, 1, 1⟩, ⟨.ld, 2, 0, 0⟩] with
                        syncPhases := .empty }
                      journal := ⟨.nothing, #[]⟩ } {} {} = .ok fresh' ∧
      ((session requests (installed observers fresh)).map
        fun (_, sim) => (sim.machine.core.phaseCounts, sim.machine.core.lastTrap)) =
          some ((5, 3), some (5, 0)) ∧
      (session requests (installed observers fresh)).map (·.1) =
        (session requests (installed [] fresh')).map (·.1) ∧
      ∀ replies replies' sim sim',
        session requests (installed observers fresh) = some (replies, sim) →
        session requests (installed [] fresh') = some (replies', sim') →
        sim.machine.core.regs = sim'.machine.core.regs := by
  obtain ⟨fresh, fresh', hfresh, hfresh', hcounts⟩ :
      ∃ fresh fresh' : Simulator Core Codegen (List Breakpoint),
        Simulator.new { core := { Core.loaded 0x1000 [⟨.addi, 1, 1, 1⟩, ⟨.ld, 2, 0, 0⟩] with
                          syncPhases := .all }
                        journal := ⟨.everything, #[]⟩ } {} {} = .ok fresh ∧
        Simulator.new { core := { Core.loaded 0x1000 [⟨.addi, 1, 1, 1⟩, ⟨.ld, 2, 0, 0⟩] with
                          syncPhases := .empty }
                        journal := ⟨.nothing, #[]⟩ } {} {} = .ok fresh' ∧
        ((session [.run 4 (some 3), .reset (some 0x1004), .step 4 2] (installed
            [.plugin ⟨1, fun _ => some .all⟩, .debugger [], .plugin ⟨2, fun _ => some .pre⟩]
            fresh)).map fun (_, sim) => (sim.machine.core.phaseCounts, sim.machine.core.lastTrap)) =
          some ((5, 3), some (5, 0)) := ⟨_, _, rfl, rfl, by decide +kernel⟩
  obtain ⟨hreplies, hend⟩ := observers_do_not_interfere
    [.plugin ⟨1, fun _ => some .all⟩, .debugger [], .plugin ⟨2, fun _ => some .pre⟩] []
    [.run 4 (some 3), .reset (some 0x1004), .step 4 2] (Compiler.standard_reliable {})
    hfresh hfresh'
    (by simpa using Breakpoint.neverRefuses_nil) (by simp)
  exact ⟨_, _, fresh, fresh', rfl, rfl, hfresh, hfresh', hcounts, hreplies,
    fun _ _ _ _ hsim hsim' => (hend _ _ _ _ hsim hsim').1⟩

end Simulator

end GuestSim

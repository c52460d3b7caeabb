import GuestSim.Proofs.Provenance

/-! # Sessions

What is installed in a simulator and asked of it in the course of time. -/

namespace GuestSim.Simulator

variable {C G δ : Type} [Architecture C]

inductive Observer (δ : Type) where
  | plugin (plugin : Plugin)
  | debugger (debugger : δ)

/-- A plugin that declines is offered the place, but is not installed. -/
def Observer.install : Observer δ → Simulator C G δ → Simulator C G δ
  | .plugin p, sim => (sim.registerPlugin p).2
  | .debugger d, sim => sim.setDebugger d

omit [Architecture C] in
/-- A plugin that declines or comes too late changes nothing but the record. One that accepts is
entered last, and units made without it are discarded. -/
theorem registerPlugin_cases (sim : Simulator C G δ) (plugin : Plugin) :
    ((plugin.handshake PluginTable.version = none ∨
        ¬ sim.machine.context.plugins.size < UInt32.size) ∧
      (sim.registerPlugin plugin).2 = { sim with
        machine := sim.machine.record (.offered plugin.label PluginTable.version) }) ∨
    ∃ mask, plugin.handshake PluginTable.version = some mask ∧
      sim.machine.context.plugins.size < UInt32.size ∧
      (sim.registerPlugin plugin).2 = { sim with
        machine := { sim.machine.record (.offered plugin.label PluginTable.version) with
          context.plugins := ⟨sim.machine.context.plugins.entries.push (mask, plugin)⟩ }
        settings.plugins :=
          PluginTable.masks ⟨sim.machine.context.plugins.entries.push (mask, plugin)⟩
        cache := sim.cache.flush sim.cluster } := by
  cases hanswer : plugin.handshake PluginTable.version with
  | none =>
      have hregister : sim.machine.context.plugins.register plugin =
          (none, sim.machine.context.plugins) := by simp [PluginTable.register, hanswer]
      simp only [registerPlugin, Machine.register, Machine.record, hregister]
      exact .inl ⟨.inl trivial, trivial⟩
  | some mask =>
      by_cases hroom : sim.machine.context.plugins.size < UInt32.size
      · have hregister : sim.machine.context.plugins.register plugin =
            (some (UInt32.ofNat sim.machine.context.plugins.size),
              ⟨sim.machine.context.plugins.entries.push (mask, plugin)⟩) := by
          simp [PluginTable.register, hanswer, hroom]
        simp only [registerPlugin, Machine.register, Machine.record, hregister]
        exact .inr ⟨mask, rfl, hroom, rfl⟩
      · have hregister : sim.machine.context.plugins.register plugin =
            (none, sim.machine.context.plugins) := by simp [PluginTable.register, hanswer, hroom]
        simp only [registerPlugin, Machine.register, Machine.record, hregister]
        exact .inl ⟨.inr hroom, trivial⟩

def installed (observers : List (Observer δ)) (sim : Simulator C G δ) : Simulator C G δ :=
  observers.foldl (fun sim observer => observer.install sim) sim

/-- What can be asked of a simulator. A run is given a number of turns in which to end. -/
inductive Request where
  | run (fuel : Nat) (limit : Option UInt64)
  | runFrom (fuel : Nat) (addr : UInt64) (limit : Option UInt64)
  | step (fuel : Nat) (count : UInt64)
  | reset (addr : Option UInt64)
  | writePc (pc : UInt64)

inductive Action (δ : Type) where
  | install (observer : Observer δ)
  | request (request : Request)

variable [Emitter G C] [Debugger δ]

/-- How the run that was asked for ended, if it was one, and what the request leaves. There is no
answer if the run does not end in time. -/
def Request.perform : Request → Simulator C G δ →
    Option (Option (Except SimError RunExit) × Simulator C G δ)
  | .run fuel limit, sim => (sim.run fuel limit).map fun (result, sim) => (some result, sim)
  | .runFrom fuel addr limit, sim =>
    (sim.runFrom fuel addr limit).map fun (result, sim) => (some result, sim)
  | .step fuel count, sim => (sim.step fuel count).map fun (result, sim) => (some result, sim)
  | .reset addr, sim => some (none, sim.reset addr)
  | .writePc pc, sim => some (none, sim.writePc pc)

theorem Request.perform_keeps {I : Simulator C G δ → Prop}
    (hrun : ∀ fuel limit (sim : Simulator C G δ) result sim', I sim →
      sim.run fuel limit = some (result, sim') → I sim')
    (hreset : ∀ addr sim, I sim → I (sim.reset addr))
    (hwritePc : ∀ pc sim, I sim → I (sim.writePc pc)) {request : Request}
    {sim sim' : Simulator C G δ} {answer : Option (Except SimError RunExit)} (h : I sim)
    (hperform : request.perform sim = some (answer, sim')) : I sim' := by
  cases request with
  | run fuel limit =>
      obtain ⟨⟨result, sim₁⟩, hsome, heq⟩ := Option.map_eq_some_iff.mp hperform
      cases heq
      exact hrun _ _ _ _ _ h hsome
  | runFrom fuel addr limit =>
      obtain ⟨⟨result, sim₁⟩, hsome, heq⟩ := Option.map_eq_some_iff.mp hperform
      cases heq
      exact hrun _ _ _ _ _ (hwritePc addr _ h) hsome
  | step fuel count =>
      obtain ⟨⟨result, sim₁⟩, hsome, heq⟩ := Option.map_eq_some_iff.mp hperform
      cases heq
      exact hrun _ _ _ _ _ h hsome
  | reset addr =>
      cases hperform
      exact hreset addr _ h
  | writePc pc =>
      cases hperform
      exact hwritePc pc _ h

/-- What whoever makes a request is given: how the run ended, if it was one, and the statistics of
the latest run. -/
structure Reply where
  exit : Option (Except SimError RunExit)
  stats : Option RunStats

/-- The replies to a list of requests, the first of them made first, and what they leave. -/
def session : List Request → Simulator C G δ → Option (List Reply × Simulator C G δ)
  | [], sim => some ([], sim)
  | request :: requests, sim =>
    (request.perform sim).bind fun (exit, sim) =>
      (session requests sim).map fun (replies, sim') => (⟨exit, sim.lastRun⟩ :: replies, sim')

namespace Action

def perform : Action δ → Simulator C G δ → Option (Simulator C G δ)
  | .install observer, sim => some (observer.install sim)
  | .request r, sim => (r.perform sim).map (·.2)

def after (actions : List (Action δ)) (sim : Simulator C G δ) : Option (Simulator C G δ) :=
  actions.foldlM (fun sim action => action.perform sim) sim

/-- A property of simulators that depends on what was done to them, and that every further action
keeps, holds after any actions. -/
theorem after_keeps {I : List (Action δ) → Simulator C G δ → Prop}
    (hstep : ∀ history action sim sim', I history sim → action.perform sim = some sim' →
      I (history ++ [action]) sim')
    {history actions : List (Action δ)} {sim sim' : Simulator C G δ} (h : I history sim)
    (hafter : after actions sim = some sim') : I (history ++ actions) sim' := by
  induction actions generalizing history sim with
  | nil =>
      cases hafter
      simpa using h
  | cons action actions ih =>
      rw [after, List.foldlM_cons] at hafter
      obtain ⟨sim₁, hperform, hrest⟩ := Option.bind_eq_some_iff.mp hafter
      have hnext := ih (hstep history action sim sim₁ h hperform) hrest
      rwa [List.append_assoc] at hnext

end Action

end GuestSim.Simulator

import GuestSim.Simulator.Basic

/-! Runs of the simulator. Every run is bounded by a number of turns of the driver loop; it has no
result if it takes more. -/

namespace GuestSim.Simulator

variable {C G δ : Type} [Architecture C] [Emitter G C] [Debugger δ]

/-- A sum that stops at the largest word. -/
def addSaturating (a b : UInt64) : UInt64 := if a + b < a then -1 else a + b

/-- A difference that stops at zero. -/
def subSaturating (a b : UInt64) : UInt64 := if a < b then 0 else a - b

/-- Notes the statistics of a run. -/
def noteStats (sim : Simulator C G δ) (startAddr startIcount : UInt64) : Simulator C G δ :=
  { sim with lastRun := some {
      startAddr
      instructions := subSaturating sim.instructionCount startIcount
      codeBlocks := sim.cache.size sim.cluster } }

/-- Runs from the current address until the simulation stops or the instruction counter reaches
the limit. -/
def run (fuel : Nat) (sim : Simulator C G δ) (limit : Option UInt64) :
    Option (Except SimError RunExit × Simulator C G δ) := do
  let limit := limit.getD (-1)
  let startAddr := Architecture.currentPc sim.machine.core
  let startIcount := sim.instructionCount
  let sim := { sim with
    machine.context.icountLimit := if sim.settings.preciseLimit then limit else -1 }
  let (result, pc, sim) ← loop limit fuel startAddr sim
  let sim := { sim with machine.context.icountLimit := -1 }
  let sim := match result with
    | .ok e => if e.movesPc then sim.writePc pc else sim
    | .error _ => sim
  return (result, sim.noteStats startAddr startIcount)

/-- Runs from `addr`. -/
def runFrom (fuel : Nat) (sim : Simulator C G δ) (addr : UInt64) (limit : Option UInt64) :
    Option (Except SimError RunExit × Simulator C G δ) :=
  run fuel (sim.writePc addr) limit

/-- Runs for `count` more instructions. -/
def step (fuel : Nat) (sim : Simulator C G δ) (count : UInt64) :
    Option (Except SimError RunExit × Simulator C G δ) :=
  run fuel sim (some (addSaturating sim.instructionCount count))

/-- What a unit called on its own gives. -/
structure Probe where
  next : UInt64
  exception : Option Exception
  memValue : UInt64
deriving DecidableEq, Repr

/-- Calls a cached unit in a context of its own, with `nextPc` as the address of its first
instruction. -/
def probe (sim : Simulator C G δ) (unit : CodeUnit) (nextPc limit : UInt64)
    (plugins : List Plugin) (debugger : Option δ) : Probe × Simulator C G δ :=
  let context := sim.machine.context
  let machine := { sim.machine with context := { icountLimit := limit, debugger } }
  let machine := plugins.foldl (fun m plugin => (m.register plugin).2) machine
  let machine := machine.writeReg sim.settings.layout.nextPc.index nextPc
  let (next, machine) := unit.code.run machine
  (⟨next, machine.context.exception, machine.context.memValue⟩,
    { sim with machine := { machine with context } })

end GuestSim.Simulator

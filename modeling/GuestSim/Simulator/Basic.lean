import GuestSim.Cache
import GuestSim.RunExit
import GuestSim.Simulator.Stats

/-! The simulator: it runs the code of an architecture unit by unit, building the units that it
does not have yet. -/

namespace GuestSim

inductive SimError where
  /-- Generated code cannot access the registers of the architecture. -/
  | invalidLayout (layout : RegLayout)
  | init (e : InitError)
  | build (cluster : UInt32) (e : BuildError)
deriving DecidableEq, Repr

def BuildError.message? : BuildError → Option String
  | .emit (.raised e) => some e.message
  | .emit _ => none
  | .rejected addr => some ("failed to compile unit at " ++ Numeral.hex addr.toNat)

namespace SimError

def message : SimError → String
  | .invalidLayout layout => "unsupported register layout: " ++ layout.describe
  | .init _ => "failed to initialize the JIT"
  | .build cluster _ => "failed to translate code for cluster " ++ toString cluster.toNat

/-- What lies behind the error. -/
def cause? : SimError → Option String
  | .invalidLayout _ => none
  | .init e => some e.option
  | .build _ e => e.message?

end SimError

structure Simulator (C G δ : Type) where
  machine : Machine C δ
  emitter : G
  cache : Cache
  config : Config
  settings : Settings
  lastRun : Option RunStats := none

/-- Why a unit did not run to an end of its own. -/
inductive UnitFailure where
  | exception (e : Exception)
  | fatal (e : SimError)
deriving DecidableEq, Repr

/-- How one turn of the driver loop ends. -/
inductive Turn where
  /-- Go on at this address. -/
  | next (pc : UInt64)
  /-- The run is over; execution would go on at `pc`. -/
  | exit (e : RunExit) (pc : UInt64)
  | failed (e : SimError) (pc : UInt64)
deriving DecidableEq, Repr

namespace Simulator

variable {C G δ : Type}

def cluster (sim : Simulator C G δ) : UInt32 := sim.settings.clusterId

section Setup

variable [Architecture C]

/-- The boundaries to report: those that the architecture requires, and the one before an
instruction while debugging. -/
def updateSync (sim : Simulator C G δ) : Simulator C G δ :=
  let required := Architecture.requiredSync sim.machine.core
  { sim with settings.syncExec :=
      if sim.settings.debugging then required.union .pre else required }

def new (machine : Machine C δ) (emitter : G) (config : Config)
    (compiler : Compiler := .standard config) : Except SimError (Simulator C G δ) :=
  let layout := Architecture.layout machine.core
  if !layout.isValid then .error (.invalidLayout layout)
  else
    match Cache.ofConfig config compiler with
    | .error e => .error (.init e)
    | .ok cache =>
      let settings : Settings := {
        maxInstructions := config.maxUnitInstructions
        coreId := config.coreId
        clusterId := config.clusterId
        syncExec := .empty
        debugging := config.debugging
        preciseLimit := config.preciseLimit
        plugins := []
        layout }
      .ok (updateSync { machine, emitter, cache, config, settings })

/-- Registers a plugin if it accepts. Units made without it are discarded. -/
def registerPlugin (sim : Simulator C G δ) (plugin : Plugin) :
    Option UInt32 × Simulator C G δ :=
  let (id, machine) := sim.machine.register plugin
  let sim := { sim with machine }
  match id with
  | none => (none, sim)
  | some id =>
    (some id,
      { sim with
        settings.plugins := machine.context.plugins.masks
        cache := sim.cache.flush sim.cluster })

/-- Installs a debugger and turns debugging on. Units made before are discarded. -/
def setDebugger (sim : Simulator C G δ) (debugger : δ) : Simulator C G δ :=
  let sim := updateSync
    { sim with
      machine.context.debugger := some debugger
      config.debugging := true
      settings.debugging := true }
  { sim with cache := sim.cache.flush sim.cluster }

/-- Resets the core, to start at `addr` if given. -/
def reset (sim : Simulator C G δ) (addr : Option UInt64) : Simulator C G δ :=
  { sim with
    machine.core := Architecture.reset sim.machine.core addr
    cache := sim.cache.flush sim.cluster }

/-- Sets the address of the next instruction to execute. -/
def writePc (sim : Simulator C G δ) (pc : UInt64) : Simulator C G δ :=
  let layout := sim.settings.layout
  { sim with
    machine := (sim.machine.writeReg layout.pc.index pc).writeReg layout.nextPc.index pc }

def instructionCount (sim : Simulator C G δ) : UInt64 :=
  Architecture.instructionCount sim.machine.core

end Setup

section Run

variable [Architecture C] [Emitter G C]

/-- The unit at a physical address of a cluster, built from `start` if there is none. -/
def unitAt (sim : Simulator C G δ) (settings : Settings) (key : UnitKey) (start : VirtAddr) :
    Except BuildError CodeUnit × Simulator C G δ :=
  let (result, cache, emitter, machine) :=
    sim.cache.getOrBuild key (Draft.build settings start) (sim.emitter, sim.machine)
  (result, { sim with cache, emitter, machine })

/-- The unit that starts at `pc`. -/
def unitFor (sim : Simulator C G δ) (pc : UInt64) :
    Except BuildError CodeUnit × Simulator C G δ :=
  let start := VirtAddr.fetch pc
  let (result, machine) := sim.machine.resolve start
  let sim := { sim with machine }
  match result with
  | .error e => (.error (.emit (.raised e)), sim)
  | .ok phys => sim.unitAt sim.settings ⟨sim.cluster, phys.val⟩ start

variable [Debugger δ]

/-- Takes over the machine that a unit has left, which was entered when `icount` instructions had
been started. The outcome of the unit counts only if all its instructions were started. -/
def settle (cache : Cache) (cluster : UInt32) (unit : CodeUnit) (icount : UInt64) :
    UInt64 × Machine C δ → Except Exception UInt64 × Cache × Machine C δ
  | (next, machine) =>
    match machine.context.exception with
    | some e => (.error e, cache, { machine with context.exception := none })
    | none =>
      let started := Architecture.instructionCount machine.core - icount
      let cache :=
        if started = UInt64.ofNat unit.size then cache.conclude cluster unit else cache
      (.ok next, cache, machine)

/-- Runs a unit from `pc`. -/
def runUnit (sim : Simulator C G δ) (unit : CodeUnit) (pc : UInt64) :
    Except Exception UInt64 × Simulator C G δ :=
  let machine := sim.machine.enter sim.settings.layout.nextPc.index pc
  let (result, cache, machine) := settle sim.cache sim.settings.clusterId unit
    (Architecture.instructionCount machine.core) (unit.code.run machine)
  (result, { sim with cache, machine })

/-- Runs the unit that starts at `pc`, and gives the address to go on at. -/
def executeUnit (sim : Simulator C G δ) (pc : UInt64) :
    Except UnitFailure UInt64 × Simulator C G δ :=
  match sim.unitFor pc with
  | (.error (.emit (.raised e)), sim) => (.error (.exception e), sim)
  | (.error e, sim) => (.error (.fatal (.build sim.cluster e)), sim)
  | (.ok unit, sim) =>
    match sim.runUnit unit pc with
    | (.ok next, sim) => (.ok next, sim)
    | (.error e, sim) => (.error (.exception e), sim)

/-- Frees dead code if there is enough of it. -/
def purge (sim : Simulator C G δ) : Except InitError (Simulator C G δ) :=
  if sim.cache.shouldPurge then sim.cache.reset.map fun cache => { sim with cache }
  else .ok sim

/-- Frees dead code if need be, then runs the unit that starts at `pc`. -/
def attempt (sim : Simulator C G δ) (pc : UInt64) :
    Except UnitFailure UInt64 × Simulator C G δ :=
  match sim.purge with
  | .error e => (.error (.fatal (.init e)), sim)
  | .ok sim => sim.executeUnit pc

/-- One turn of the driver loop. -/
def turn (limit pc : UInt64) (sim : Simulator C G δ) : Turn × Simulator C G δ :=
  if limit ≤ sim.instructionCount then (.exit .instructionLimit pc, sim)
  else
    match sim.attempt pc with
    | (.ok next, sim) => (.next next, sim)
    | (.error (.exception (.accessTrap id addr)), sim) =>
      let (next, machine) := sim.machine.enterTrap id addr
      (.next next, { sim with machine })
    | (.error (.exception (.stopped code)), sim) => (.exit (.stopped code) pc, sim)
    | (.error (.exception (.undecodable addr)), sim) => (.exit (.decodeError addr) addr, sim)
    | (.error (.fatal e), sim) => (.failed e pc, sim)

/-- At most `fuel` turns. No result means that the loop is not over by then. -/
def loop (limit : UInt64) : (fuel : Nat) → UInt64 → Simulator C G δ →
    Option (Except SimError RunExit × UInt64 × Simulator C G δ)
  | 0, _, _ => none
  | fuel + 1, pc, sim =>
    match sim.turn limit pc with
    | (.next pc, sim) => loop limit fuel pc sim
    | (.exit e pc, sim) => some (.ok e, pc, sim)
    | (.failed e pc, sim) => some (.error e, pc, sim)

end Run

end Simulator

end GuestSim

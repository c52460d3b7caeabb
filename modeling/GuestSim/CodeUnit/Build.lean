import GuestSim.CodeUnit.Basic
import GuestSim.Machine

/-! Building a unit, one instruction after the other. Each instruction has a block of its own, which
becomes part of the unit once it is complete. An access trap while generating an instruction away
from the start address ends the unit before that instruction. -/

namespace GuestSim

/-- Why no code could be generated for an instruction. -/
inductive EmitError where
  | raised (e : Exception)
  /-- There are no words of this number of bits. -/
  | badWidth (bits : Nat)
  /-- The value that an operand names was never computed. -/
  | badOperand (index : Nat)
deriving DecidableEq, Repr

def EmitError.isAccessTrap : EmitError → Bool
  | .raised e => e.isAccessTrap
  | _ => false

/-- The code of an instruction, and the address of the next one to generate. -/
structure Step where
  outcome : Outcome
  isOpen : Bool
  body : Body Unit
  next : VirtAddr

/-- Why there is no complete code for an instruction, and what had been emitted of it by then. -/
structure Failure where
  cause : EmitError
  emitted : Body Unit := pure ()

/-- Generates code for an architecture with cores of type `C`. -/
class Emitter (G : Type) (C : outParam Type) where
  generate : VirtAddr → UInt32 → G × C → Except Failure Step × (G × C)
  leave : RegLayout → G → ExitCode Unit × G
  trap : RegLayout → G → ExitCode Empty × G

/-- A unit in the making. -/
structure Sketch where
  graph : Graph := {}
  /-- The block behind the last instruction, unless control never gets there. -/
  boundary : Option Nat := some 0
  /-- The instructions, last first. -/
  fragments : List Fragment := []
  discarded : Option Nat := none

namespace Sketch

/-- Includes an instruction: only now does the boundary before it lead to its block. -/
def extend (sketch : Sketch) (ordinal : Nat) (pc : VirtAddr) (step : Step) : Sketch :=
  let id := sketch.graph.size
  let block : Block :=
    if step.isOpen then
      ⟨[.before ordinal, .body step.body, .after ordinal], some (.block (id + 1))⟩
    else ⟨[.before ordinal, .body step.body], some .leave⟩
  let graph := sketch.graph.add block
  let graph := sketch.boundary.elim graph (graph.close · (.block id))
  { sketch with
    graph := if step.isOpen then graph.add {} else graph
    boundary := if step.isOpen then some (id + 1) else none
    fragments := ⟨pc.val, step.outcome, step.isOpen, step.body⟩ :: sketch.fragments }

/-- Completes what was emitted of an instruction that failed. Nothing leads there. -/
def discard (sketch : Sketch) (ordinal : Nat) (emitted : Body Unit) : Sketch :=
  let graph := sketch.graph.add { pieces := [.before ordinal, .body emitted] }
  { sketch with
    graph := graph.closeSince sketch.graph.size
    discarded := some ordinal }

/-- Leaves the unit behind the last instruction. -/
def finish (sketch : Sketch) : Graph :=
  sketch.boundary.elim sketch.graph (sketch.graph.close · .leave)

end Sketch

namespace Draft

variable {C G δ : Type} [Emitter G C]

/-- Has the emitter generate one instruction, and notes the call. -/
def generate (pc : VirtAddr) (ordinal : Nat) :
    G × Machine C δ → Except Failure Step × (G × Machine C δ)
  | (emitter, m) =>
    let m := m.record (.generate pc.val (UInt32.ofNat ordinal))
    let (result, emitter, core) := Emitter.generate pc (UInt32.ofNat ordinal) (emitter, m.core)
    (result, emitter, { m with core })

/-- Extends a unit by at most `room` instructions. The next one is at `pc` and has position
`ordinal`. -/
def grow (start : UInt64) : (room ordinal : Nat) → VirtAddr → Sketch → G × Machine C δ →
    Except EmitError Sketch × (G × Machine C δ)
  | 0, _, _, sketch, s => (.ok sketch, s)
  | room + 1, ordinal, pc, sketch, s =>
    match generate pc ordinal s with
    | (.error failure, s) =>
      if pc.val = start ∨ !failure.cause.isAccessTrap then (.error failure.cause, s)
      else (.ok (sketch.discard ordinal failure.emitted), s)
    | (.ok step, s) =>
      let sketch := sketch.extend ordinal pc step
      if step.isOpen ∧ step.outcome = .next then grow start room (ordinal + 1) step.next sketch s
      else (.ok sketch, s)

/-- The unit that starts at `start`. The emitter makes its exits last. -/
def build (settings : Settings) (start : VirtAddr) (s : G × Machine C δ) :
    Except EmitError Draft × (G × Machine C δ) :=
  match grow start.val settings.capacity 0 start {} s with
  | (.error e, s) => (.error e, s)
  | (.ok sketch, emitter, m) =>
    let (leave, emitter) := Emitter.leave settings.layout emitter
    let (trap, emitter) := Emitter.trap settings.layout emitter
    (.ok {
      settings
      fragments := sketch.fragments.reverse
      discarded := sketch.discarded
      graph := sketch.finish
      leave
      trap }, emitter, m)

end Draft

end GuestSim

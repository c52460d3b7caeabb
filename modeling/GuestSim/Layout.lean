import GuestSim.Text.Record
import GuestSim.Width

/-! Where an architecture keeps the registers that generated code accesses directly. -/

namespace GuestSim

/-- A register: its index for calls, and its place in the register storage in bytes. -/
structure RegSlot where
  index : UInt32
  offset : UInt32
  size : UInt32
deriving DecidableEq, Repr

/-- The width of the words in a slot. Those of a valid layout have one of the four sizes. -/
def RegSlot.width (slot : RegSlot) : Width := (Width.ofBits? (8 * slot.size.toNat)).getD .w64

def RegSlot.describe (slot : RegSlot) : String :=
  Text.record "RegSlot" [("index", toString slot.index.toNat),
    ("offset", toString slot.offset.toNat), ("size", toString slot.size.toNat)]

structure RegLayout where
  /-- Address of the instruction being executed. -/
  pc : RegSlot
  /-- Address of the instruction to execute next. -/
  nextPc : RegSlot
  /-- Number of instructions started so far. -/
  icount : RegSlot
  /-- Trap requested by the previous instruction. -/
  pendingTrap : RegSlot
  /-- Trap in force for the current instruction. -/
  trapState : RegSlot
  /-- Number of registers known to calls. -/
  numRegs : UInt32
deriving DecidableEq, Repr

namespace RegLayout

def slots (layout : RegLayout) : List RegSlot :=
  [layout.pc, layout.nextPc, layout.icount, layout.pendingTrap, layout.trapState]

/-- Every slot is a register of 1, 2, 4 or 8 bytes, and the counter has 8. -/
def isValid (layout : RegLayout) : Bool :=
  layout.icount.size == 8 &&
    layout.slots.all fun slot =>
      [1, 2, 4, 8].contains slot.size && decide (slot.index < layout.numRegs)

def describe (layout : RegLayout) : String :=
  Text.record "RegLayout" [("pc", layout.pc.describe), ("next_pc", layout.nextPc.describe),
    ("icount", layout.icount.describe), ("pending_trap", layout.pendingTrap.describe),
    ("trap_state", layout.trapState.describe), ("num_regs", toString layout.numRegs.toNat)]

end RegLayout

end GuestSim

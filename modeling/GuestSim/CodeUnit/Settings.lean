import GuestSim.Code.Access

/-! What generated code does at the boundaries of every instruction. -/

namespace GuestSim

/-- Parameters of the code at instruction boundaries. -/
structure Settings where
  maxInstructions : UInt32
  coreId : UInt32
  clusterId : UInt32
  /-- The boundaries reported to the architecture. -/
  syncExec : SyncMask
  /-- Ask the debugger before every instruction. -/
  debugging : Bool
  /-- Leave the unit as soon as the instruction budget is used up. -/
  preciseLimit : Bool
  plugins : List (UInt32 × SyncMask)
  layout : RegLayout
deriving DecidableEq, Repr

namespace Settings

/-- The number of instructions that fit into a unit. -/
def capacity (settings : Settings) : Nat := max 1 settings.maxInstructions.toNat

/-- Leaves the unit if the budget is used up and the limit is precise. -/
def budgetCheck (settings : Settings) : Body Unit := do
  if settings.preciseLimit then
    let icount ← Body.loadSlot settings.layout.icount
    let limit ← Body.ask .limit
    if limit ≤ icount.toUInt64 then throw .leave

/-- Counts the instruction and makes it the current one. Gives its address. -/
def advance (settings : Settings) : Body UInt64 := do
  let icount ← Body.loadSlot settings.layout.icount
  Body.storeSlot settings.layout.icount (icount + 1)
  let nextPc ← Body.loadSlot settings.layout.nextPc
  Body.storeSlot settings.layout.pc nextPc
  let pendingTrap ← Body.loadSlot settings.layout.pendingTrap
  Body.storeSlot settings.layout.trapState pendingTrap
  return (Word.resize false .w64 nextPc).toUInt64

/-- Lets the debugger refuse the instruction. -/
def debugCheck (settings : Settings) (pc : UInt64) : Body Unit := do
  if settings.debugging then Body.attempt (.checkpoint pc)

/-- Tells the architecture and then the plugins, in ascending order, about a boundary. -/
def report (settings : Settings) (phase : SyncMask) (ordinal : UInt32) : Body Unit := do
  if settings.syncExec.intersects phase then
    Body.tell (.notify (.ofMask phase))
  (settings.plugins.filter (·.2.intersects phase)).forM fun (id, _) =>
    Body.tell (.callPlugin id ⟨settings.coreId, settings.clusterId, phase, ordinal⟩)

/-- The code before an instruction. -/
def before (settings : Settings) (ordinal : UInt32) : Body Unit := do
  settings.budgetCheck
  let pc ← settings.advance
  settings.debugCheck pc
  settings.report .pre ordinal

/-- The code after an instruction. -/
def after (settings : Settings) (ordinal : UInt32) : Body Unit :=
  settings.report .post ordinal

end Settings

end GuestSim

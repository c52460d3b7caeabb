import GuestSim.Architecture
import GuestSim.Bytes

/-! An architecture without instructions of its own: registers at chosen places of a byte storage,
eight flags and two blocks of memory. -/

namespace GuestSim.Scripted

/-- A range of addresses, without its end, that is moved by a distance. -/
structure Mapping where
  start : UInt64
  stop : UInt64
  delta : UInt64
deriving DecidableEq, Repr

/-- What stays fixed in the life of a core. -/
structure Design where
  layout : RegLayout
  /-- The number of bytes of the register storage. -/
  storageSize : Nat := 1024
  /-- Addresses from the first up to the second are not mapped. -/
  unmapped : List (UInt64 × UInt64) := []
  mappings : List Mapping := []
  vector : UInt64 := 0
  vectorStep : UInt64 := 0
  sync : SyncMask := .empty
deriving DecidableEq, Repr

/-- A core of a design. -/
structure Core (design : Design) where
  storage : Vector UInt8 design.storageSize := Vector.replicate _ 0
  flags : Vector Bool 8 := Vector.replicate 8 false
  /-- The blocks of memory, as address spaces 0 and 1. -/
  memory : Array UInt8 × Array UInt8 := (#[], #[])
deriving DecidableEq, Repr

namespace Design

/-- The place of a register: that of the first special register with the index, else one of the
eight-byte cells that the storage consists of. -/
def slot? (design : Design) (idx : UInt32) : Option RegSlot :=
  match design.layout.slots.find? (·.index = idx) with
  | some slot => some slot
  | none => if idx < design.layout.numRegs then some ⟨idx, 8 * idx, 8⟩ else none

/-- Unmapped addresses come first, then the first mapping that fits, then identity. -/
def resolve (design : Design) (addr : VirtAddr) : Except Exception PhysAddr :=
  if design.unmapped.any fun (start, stop) => start ≤ addr.val && addr.val < stop then
    .error (.accessTrap 1 addr.val)
  else
    match design.mappings.find? fun m => m.start ≤ addr.val && addr.val < m.stop with
    | some m => .ok ⟨addr.access, addr.space, addr.val + m.delta⟩
    | none => .ok (.identity addr)

end Design

/-- Whether a register lies in the storage, or does not exist at all. -/
def Design.holdsReg (design : Design) (idx : UInt32) : Bool :=
  (design.slot? idx).all fun slot => slot.offset.toNat + slot.size.toNat ≤ design.storageSize

namespace Core

variable {design : Design}

/-- The number in a slot. -/
def get (core : Core design) (slot : RegSlot) : UInt64 :=
  UInt64.ofNat (Bytes.peek core.storage slot.offset.toNat slot.size.toNat)

/-- Puts as much of a number into a slot as fits. -/
def set (core : Core design) (slot : RegSlot) (value : UInt64) : Core design :=
  { core with
    storage := Bytes.poke core.storage slot.offset.toNat slot.size.toNat value.toNat }

/-- A register that does not exist reads as zero. -/
def readReg (core : Core design) (idx : UInt32) : UInt64 :=
  (design.slot? idx).elim 0 core.get

/-- A write to a register that does not exist is ignored. -/
def writeReg (core : Core design) (idx : UInt32) (value : UInt64) : Core design :=
  (design.slot? idx).elim core (core.set · value)

/-- Clears the registers, then sets the place to start at, if given. -/
def reset (core : Core design) (addr : Option UInt64) : Core design :=
  let core := { core with storage := Vector.replicate _ 0 }
  match addr with
  | none => core
  | some pc => (core.writeReg design.layout.pc.index pc).writeReg design.layout.nextPc.index pc

def block? (core : Core design) (space : UInt32) : Option (Array UInt8) :=
  if space = 0 then some core.memory.1 else if space = 1 then some core.memory.2 else none

/-- Whether the `len` bytes at `addr` all lie in a block of memory. -/
def holds (core : Core design) (addr : VirtAddr) (len : Nat) : Bool :=
  (core.block? addr.space).any fun block => addr.val.toNat + len ≤ block.size

/-- Reading from space 2 stops the simulation with the address. Of more than eight bytes the first
eight count. -/
def readMem (core : Core design) (addr : VirtAddr) (len : Nat) : Except Exception UInt64 :=
  if addr.space = 2 then .error (.stopped addr.val.toUInt32.toInt32)
  else if core.holds addr len then
    .ok (UInt64.ofNat (Bytes.load ((core.block? addr.space).getD #[]) addr.val.toNat len))
  else .error (.accessTrap 5 addr.val)

/-- Writing to space 2 stops the simulation with the value, writing to space 3 ends it with the
value as an address that cannot be decoded. -/
def writeMem (core : Core design) (addr : VirtAddr) (len : Nat) (value : UInt64) :
    Except Exception Unit × Core design :=
  let write (block : Array UInt8) := Bytes.store block addr.val.toNat len value.toNat
  if addr.space = 2 then (.error (.stopped value.toUInt32.toInt32), core)
  else if addr.space = 3 then (.error (.undecodable value), core)
  else if core.holds addr len then
    (.ok (), if addr.space = 0 then { core with memory.1 := write core.memory.1 }
      else { core with memory.2 := write core.memory.2 })
  else (.error (.accessTrap 7 addr.val), core)

/-- Whether a write has an answer: a word holds no more than eight bytes. -/
def canWrite (core : Core design) (addr : VirtAddr) (len : Nat) : Bool :=
  decide (len ≤ 8) || !core.holds addr len

def writeFlag (core : Core design) (flag : UInt32) (value : Bool) : Core design :=
  { core with flags := core.flags.setIfInBounds flag.toNat value }

/-- Whatever the operation, flag 0 tells whether the sum is zero and flag 1 whether the first
value is less. -/
def updateFlags (core : Core design) (_ : UInt32) (a b : UInt64) : Core design :=
  (core.writeFlag 0 (a + b == 0)).writeFlag 1 (a < b)

end Core

instance (design : Design) : Architecture (Core design) where
  layout _ := design.layout
  regBits _ idx := (design.slot? idx).elim 0 (8 * ·.size)
  storageSize := design.storageSize
  storage := Core.storage
  withStorage core bytes := { core with storage := bytes }
  storage_withStorage _ _ := rfl
  withStorage_withStorage _ _ _ := rfl
  currentPc core := core.readReg design.layout.pc.index
  instructionCount core := core.readReg design.layout.icount.index
  resolve core addr := (design.resolve addr, core)
  enterTrap core id _ := (design.vector + design.vectorStep * id.toUInt64, core)
  requiredSync _ := design.sync
  reset := Core.reset
  readReg := Core.readReg
  writeReg := Core.writeReg
  readFlag core flag := core.flags[flag.toNat]?.getD false
  writeFlag := Core.writeFlag
  updateFlags := Core.updateFlags
  readMem core addr len := (core.readMem addr len, core)
  writeMem := Core.writeMem
  notify core _ := core

end GuestSim.Scripted

import GuestSim.Address
import GuestSim.Bytes
import GuestSim.Exception
import GuestSim.Layout
import GuestSim.SyncMask

/-! What the simulator needs to know of an architecture. -/

namespace GuestSim

/-- An architecture with cores of type `C`. Calls that can fail may change the core all the same. -/
class Architecture (C : Type) where
  layout : C → RegLayout
  /-- Width of a register in bits. -/
  regBits : C → UInt32 → UInt32
  /-- The number of bytes of the register storage. -/
  storageSize : Nat
  /-- The register storage, in which generated code reaches the slots of the layout directly. -/
  storage : C → Vector UInt8 storageSize
  withStorage : C → Vector UInt8 storageSize → C
  storage_withStorage (core : C) (bytes : Vector UInt8 storageSize) :
    storage (withStorage core bytes) = bytes
  withStorage_withStorage (core : C) (bytes bytes' : Vector UInt8 storageSize) :
    withStorage (withStorage core bytes) bytes' = withStorage core bytes'
  currentPc : C → UInt64
  instructionCount : C → UInt64
  /-- The physical address, or the trap raised for an address that is not mapped. -/
  resolve : C → VirtAddr → Except Exception PhysAddr × C
  /-- Enters the handler of a trap; gives the address at which execution resumes. -/
  enterTrap : C → UInt32 → UInt64 → UInt64 × C
  /-- The boundaries that the architecture itself wants to be told about. -/
  requiredSync : C → SyncMask
  reset : C → Option UInt64 → C
  readReg : C → UInt32 → UInt64
  writeReg : C → UInt32 → UInt64 → C
  readFlag : C → UInt32 → Bool
  writeFlag : C → UInt32 → Bool → C
  /-- Recomputes the flags that an operation on two values affects. -/
  updateFlags : C → UInt32 → UInt64 → UInt64 → C
  /-- Reads at most 8 bytes, extended with zeros. -/
  readMem : C → VirtAddr → Nat → Except Exception UInt64 × C
  /-- Writes the low bytes of a value, at most 8. -/
  writeMem : C → VirtAddr → Nat → UInt64 → Except Exception Unit × C
  notify : C → Phase → C

namespace Architecture

variable {C : Type} [Architecture C] {w : Width}

/-- The place of what lies at a distance from the start of the register storage. The distance is
extended with its sign, so that a negative one leads out of the storage. -/
def place (offset : Int32) : Nat := offset.toInt64.toUInt64.toNat

/-- The word at a distance from the start of the register storage. -/
def loadStorage (core : C) (offset : Int32) (w : Width) : Word w :=
  BitVec.ofNat w.bits (Bytes.peek (storage core) (place offset) w.bytes)

/-- Puts a word at a distance from the start of the register storage. -/
def storeStorage (core : C) (offset : Int32) (value : Word w) : C :=
  withStorage core (Bytes.poke (storage core) (place offset) w.bytes value.toNat)

end Architecture

end GuestSim

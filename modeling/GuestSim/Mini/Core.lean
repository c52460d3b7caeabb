import GuestSim.Architecture
import GuestSim.Bytes

/-! The core of the small 32-bit architecture: eight general registers, a zero flag and one block
of memory. -/

namespace GuestSim.Mini

structure Registers where
  gpr : Vector UInt32 8 := Vector.replicate 8 0
  pc : UInt32 := 0
  nextPc : UInt32 := 0
  pendingTrap : UInt32 := 0
  trapState : UInt32 := 0
  icount : UInt64 := 0
deriving DecidableEq, Repr

structure Core where
  regs : Registers := {}
  zero : Bool := false
  ram : Array UInt8
  ramBase : UInt64
  /-- Where execution goes on after a trap. -/
  trapVector : UInt64
  /-- Cause and address of the latest trap. -/
  lastTrap : Option (UInt32 × UInt64) := none
  /-- The boundaries that the core wants to be told about. -/
  syncPhases : SyncMask := .empty
  /-- How often the core was told about the start and the end of an instruction. -/
  phaseCounts : Nat × Nat := (0, 0)
deriving DecidableEq, Repr

namespace Register

def pc : UInt32 := 8

def nextPc : UInt32 := 9

def pendingTrap : UInt32 := 10

def trapState : UInt32 := 11

def icount : UInt32 := 12

/-- The number of registers. -/
def count : UInt32 := 13

end Register

/-- A store to this address stops the simulation, with the value as the status. -/
def haltAddr : UInt64 := 0xffff0000

/-- The flag set by a result of zero. -/
def zeroFlag : UInt32 := 0

/-- The flag update of an addition. -/
def addFlags : UInt32 := 0

namespace Cause

def fetchFault : UInt32 := 1

def loadFault : UInt32 := 5

def storeFault : UInt32 := 7

end Cause

/-- The registers lie in one block, the general ones first. -/
def layout : RegLayout where
  pc := ⟨Register.pc, 32, 4⟩
  nextPc := ⟨Register.nextPc, 36, 4⟩
  pendingTrap := ⟨Register.pendingTrap, 40, 4⟩
  trapState := ⟨Register.trapState, 44, 4⟩
  icount := ⟨Register.icount, 48, 8⟩
  numRegs := Register.count

namespace Registers

/-- A register that does not exist reads as zero. -/
def get (regs : Registers) (idx : UInt32) : UInt64 :=
  if idx = Register.pc then regs.pc.toUInt64
  else if idx = Register.nextPc then regs.nextPc.toUInt64
  else if idx = Register.pendingTrap then regs.pendingTrap.toUInt64
  else if idx = Register.trapState then regs.trapState.toUInt64
  else if idx = Register.icount then regs.icount
  else (regs.gpr[idx.toNat]?.getD 0).toUInt64

/-- A write to a register that does not exist is ignored. -/
def set (regs : Registers) (idx : UInt32) (value : UInt64) : Registers :=
  if idx = Register.pc then { regs with pc := value.toUInt32 }
  else if idx = Register.nextPc then { regs with nextPc := value.toUInt32 }
  else if idx = Register.pendingTrap then { regs with pendingTrap := value.toUInt32 }
  else if idx = Register.trapState then { regs with trapState := value.toUInt32 }
  else if idx = Register.icount then { regs with icount := value }
  else { regs with gpr := regs.gpr.setIfInBounds idx.toNat value.toUInt32 }

/-- The registers as they lie in memory: the general ones, those with addresses and traps, and the
counter. -/
def bytes (regs : Registers) : List UInt8 :=
  regs.gpr.toList.flatMap (Bytes.digits 4 ·.toNat) ++
    ([regs.pc, regs.nextPc, regs.pendingTrap, regs.trapState].flatMap (Bytes.digits 4 ·.toNat) ++
      Bytes.digits 8 regs.icount.toNat)

theorem length_bytes (regs : Registers) : regs.bytes.length = 56 := by
  simp [bytes, List.length_flatMap, List.map_const']

/-- The block of memory that the registers lie in. -/
def block (regs : Registers) : Vector UInt8 56 := ⟨regs.bytes.toArray, regs.length_bytes⟩

/-- The registers that lie in a block of memory. -/
def ofBytes (block : Vector UInt8 56) : Registers where
  gpr := Vector.ofFn fun i => UInt32.ofNat (Bytes.peek block (4 * i) 4)
  pc := UInt32.ofNat (Bytes.peek block 32 4)
  nextPc := UInt32.ofNat (Bytes.peek block 36 4)
  pendingTrap := UInt32.ofNat (Bytes.peek block 40 4)
  trapState := UInt32.ofNat (Bytes.peek block 44 4)
  icount := UInt64.ofNat (Bytes.peek block 48 8)

/-- Writing the registers out again gives the block that they were read from. -/
theorem bytes_ofBytes (block : Vector UInt8 56) : (ofBytes block).bytes = block.toList := by
  have hwords (start : Nat) {n : Nat} (hn : start + 4 * n ≤ 56) :
      ((List.range n).map fun i => UInt32.ofNat (Bytes.peek block (start + 4 * i) 4)).flatMap
          (Bytes.digits 4 ·.toNat) =
        (block.toList.drop start).take (4 * n) := by
    have hsize : start + 4 * n ≤ block.toArray.size := by rwa [block.size_toArray]
    rw [List.flatMap_map, ← Vector.toList_toArray, ← Bytes.flatMap_digits_load _ start hsize]
    congr
    funext i
    rw [Bytes.peek_eq_load, UInt32.toNat_ofNat_of_lt' (Bytes.load_lt_shiftLeft _ _ 4)]
  have hgpr : (ofBytes block).gpr.toList =
      (List.range 8).map fun i => UInt32.ofNat (Bytes.peek block (0 + 4 * i) 4) := by
    rw [ofBytes, Vector.toList_ofFn]
    rfl
  have hicount : Bytes.digits 8 (ofBytes block).icount.toNat =
      (block.toList.drop 32).drop 16 := by
    change Bytes.digits 8 (UInt64.ofNat (Bytes.peek block 48 8)).toNat = _
    rw [Bytes.peek_eq_load, UInt64.toNat_ofNat_of_lt' (Bytes.load_lt_shiftLeft _ 48 8),
      Bytes.digits_load _ (by simp), List.take_of_length_le (by simp), List.drop_drop,
      Vector.toList_toArray]
  have hspecial : [(ofBytes block).pc, (ofBytes block).nextPc, (ofBytes block).pendingTrap,
      (ofBytes block).trapState] =
        (List.range 4).map fun i => UInt32.ofNat (Bytes.peek block (32 + 4 * i) 4) := rfl
  rw [bytes, hgpr, hwords 0 (by omega), hspecial, hwords 32 (by omega), hicount,
    List.take_append_drop, List.drop_zero, List.take_append_drop]

end Registers

namespace Core

/-- A core with empty memory, whose traps lead to the start of it. -/
def new (ramBase : UInt64) (ramSize : Nat) : Core :=
  { ram := Bytes.zeros ramSize, ramBase, trapVector := ramBase }

/-- The place in memory of the `len` bytes at `addr`, if all of them are there. -/
def ramOffset? (core : Core) (addr : UInt64) (len : Nat) : Option Nat :=
  if core.ramBase ≤ addr ∧ addr.toNat - core.ramBase.toNat + len ≤ core.ram.size then
    some (addr.toNat - core.ramBase.toNat)
  else none

/-- Copies an image into memory. -/
def load (core : Core) (addr : UInt64) (data : List UInt8) : Except Exception Core :=
  match core.ramOffset? addr data.length with
  | none => .error (.accessTrap Cause.storeFault addr)
  | some start => .ok { core with ram := Bytes.copy core.ram start data }

def readMem (core : Core) (addr : VirtAddr) (len : Nat) : Except Exception UInt64 :=
  match core.ramOffset? addr.val len with
  | none =>
    .error (.accessTrap (if addr.access.isFetch then Cause.fetchFault else Cause.loadFault)
      addr.val)
  | some start => .ok (UInt64.ofNat (Bytes.load core.ram start len))

def writeMem (core : Core) (addr : VirtAddr) (len : Nat) (value : UInt64) :
    Except Exception Unit × Core :=
  if addr.val = haltAddr then (.error (.stopped value.toUInt32.toInt32), core)
  else
    match core.ramOffset? addr.val len with
    | none => (.error (.accessTrap Cause.storeFault addr.val), core)
    | some start => (.ok (), { core with ram := Bytes.store core.ram start len value.toNat })

/-- Whether a read has an answer: a word holds no more than eight bytes. -/
def canRead (core : Core) (addr : VirtAddr) (len : Nat) : Bool :=
  decide (len ≤ 8) || (core.ramOffset? addr.val len).isNone

/-- Whether a write has an answer. -/
def canWrite (core : Core) (addr : VirtAddr) (len : Nat) : Bool :=
  addr.val == haltAddr || core.canRead addr len

/-- The `len` bytes of memory from place `start` on, if there are so many. -/
def ramSlice? (core : Core) (start len : Nat) : Option (List UInt8) :=
  if start + len ≤ core.ram.size then some (core.ram.extract start (start + len)).toList else none

/-- Only instruction fetches are checked. -/
def resolve (core : Core) (addr : VirtAddr) : Except Exception PhysAddr :=
  if addr.access = .fetch ∧ (core.ramOffset? addr.val 4).isNone then
    .error (.accessTrap Cause.fetchFault addr.val)
  else .ok (.identity addr)

def enterTrap (core : Core) (id : UInt32) (addr : UInt64) : Core :=
  { core with
    lastTrap := some (id, addr)
    regs.pendingTrap := 0
    regs.pc := core.trapVector.toUInt32
    regs.nextPc := core.trapVector.toUInt32 }

/-- Memory, the trap vector and what is known of phases stay. -/
def reset (core : Core) (addr : Option UInt64) : Core :=
  let start := addr.elim 0 (·.toUInt32)
  { core with regs := { pc := start, nextPc := start }, zero := false, lastTrap := none }

def updateFlags (core : Core) (op : UInt32) (a b : UInt64) : Core :=
  if op = addFlags then { core with zero := a.toUInt32 + b.toUInt32 == 0 } else core

def notify (core : Core) : Phase → Core
  | .start => { core with phaseCounts.1 := core.phaseCounts.1 + 1 }
  | .finish => { core with phaseCounts.2 := core.phaseCounts.2 + 1 }

end Core

instance : Architecture Core where
  layout _ := layout
  regBits _ idx := if idx = Register.icount then 64 else if idx < Register.count then 32 else 0
  storageSize := 56
  storage core := core.regs.block
  withStorage core block := { core with regs := .ofBytes block }
  storage_withStorage _ block :=
    Vector.toArray_inj.mp (congrArg List.toArray (Registers.bytes_ofBytes block))
  withStorage_withStorage _ _ _ := rfl
  currentPc core := core.regs.pc.toUInt64
  instructionCount core := core.regs.icount
  resolve core addr := (core.resolve addr, core)
  enterTrap core id addr := (core.trapVector, core.enterTrap id addr)
  requiredSync core := core.syncPhases
  reset := Core.reset
  readReg core idx := core.regs.get idx
  writeReg core idx value := { core with regs := core.regs.set idx value }
  readFlag core flag := flag == zeroFlag && core.zero
  writeFlag core flag value := if flag = zeroFlag then { core with zero := value } else core
  updateFlags := Core.updateFlags
  readMem core addr len := (core.readMem addr len, core)
  writeMem := Core.writeMem
  notify := Core.notify

end GuestSim.Mini

import GuestSim.Code.Basic

/-! How generated code reaches registers, flags and memory, and the slots of the register storage
without a call. Words cross the border as 64 bits,
extended with zeros; a failed memory access leaves through the trap exit. -/

namespace GuestSim.Body

/-- Reads a register and brings it to width `w`. -/
def readReg (idx : UInt32) (w : Width) : Body (Word w) := do
  return Word.const w (← ask (.readReg idx))

def writeReg {w : Width} (idx : UInt32) (value : Word w) : Body Unit :=
  tell (.writeReg idx value.toUInt64)

/-- Reads a flag as a byte that is 0 or 1. -/
def readFlag (flag : UInt32) : Body (Word .w8) := do
  return Word.ofBool ((← ask (.readFlag flag)) ≠ 0)

/-- Sets the flag unless the value is zero, and clears it then. -/
def writeFlag {w : Width} (flag : UInt32) (value : Word w) : Body Unit :=
  tell (.writeFlag flag (Word.ofBool !value.isZero).toUInt64)

def updateFlags {v w : Width} (op : UInt32) (a : Word v) (b : Word w) : Body Unit :=
  tell (.updateFlags op a.toUInt64 b.toUInt64)

/-- Reads a word of width `w` from memory. -/
def load {v : Width} (space : UInt32) (addr : Word v) (w : Width) : Body (Word w) := do
  attempt (.readMem space addr.toUInt64 w.bytes)
  return Word.const w (← ask .memValue)

/-- Writes as many bytes to memory as the value has. -/
def store {v w : Width} (space : UInt32) (addr : Word v) (value : Word w) : Body Unit :=
  attempt (.writeMem space addr.toUInt64 w.bytes value.toUInt64)

/-- Reads the word in a slot. -/
def loadSlot (slot : RegSlot) : Body (Word slot.width) := do
  return Word.const slot.width (← ask (.loadStorage slot.offset.toInt32 slot.width))

/-- Brings a value to the width of a slot and puts it there. -/
def storeSlot {w : Width} (slot : RegSlot) (value : Word w) : Body Unit :=
  tell (.storeStorage slot.offset.toInt32 slot.width
    (Word.resize false slot.width value).toUInt64)

end GuestSim.Body

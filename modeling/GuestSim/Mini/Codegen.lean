import GuestSim.CodeUnit.Build
import GuestSim.Mini.Core
import GuestSim.Mini.Instr

/-! Code for the instructions of the small 32-bit architecture. -/

namespace GuestSim.Mini

namespace Instr

def outcome (i : Instr) : Outcome :=
  match i.op with
  | .nop | .li | .addi | .add | .ld | .ldb | .st | .stb => .next
  | .beqz | .bz | .jmp | .halt => .branch
  | .flush => .flush
  | .evict => .evict

/-- The address of a memory access: the base register plus the immediate, modulo 2^32. -/
def address (i : Instr) : Body (Word .w64) := do
  let base ← Body.readReg i.rs.toUInt32 .w32
  return Word.resize false .w64 (base + i.immediate .w32)

/-- Adds two words into the destination register. -/
def sum (i : Instr) (a b : Word .w32) : Body Unit := do
  Body.updateFlags addFlags a b
  Body.writeReg i.rd.toUInt32 (a + b)

/-- Reads a word of width `w` into the destination register. -/
def loadFrom (i : Instr) (w : Width) : Body Unit := do
  let addr ← i.address
  let value := Word.resize false .w32 (← Body.load 0 addr w)
  Body.writeReg i.rd.toUInt32 value
  Body.writeFlag zeroFlag (Word.ofBool value.isZero)

/-- Writes the source register, cut to width `w`. -/
def storeTo (i : Instr) (w : Width) : Body Unit := do
  let addr ← i.address
  let value ← Body.readReg i.rd.toUInt32 .w32
  Body.store 0 addr (Word.resize false w value)

/-- What the instruction at `pc` does besides moving on to the next one. -/
def effect (i : Instr) (pc : UInt64) : Body Unit := do
  let target := Word.const .w32 (i.branchTarget pc)
  match i.op with
  | .nop | .flush | .evict => pure ()
  | .li => Body.writeReg i.rd.toUInt32 (i.immediate .w32)
  | .addi => i.sum (← Body.readReg i.rs.toUInt32 .w32) (i.immediate .w32)
  | .add =>
    let a ← Body.readReg i.rd.toUInt32 .w32
    let b ← Body.readReg i.rs.toUInt32 .w32
    i.sum a b
  | .ld => i.loadFrom .w32
  | .ldb => i.loadFrom .w8
  | .st => i.storeTo .w32
  | .stb => i.storeTo .w8
  | .beqz =>
    let value ← Body.readReg i.rd.toUInt32 .w32
    Body.writeReg Register.nextPc
      (Word.select (Word.ofBool value.isZero) target (Word.const .w32 (pc + 4)))
  | .bz =>
    let taken ← Body.readFlag zeroFlag
    unless taken.isZero do Body.writeReg Register.nextPc target
  | .jmp => Body.writeReg Register.nextPc target
  | .halt =>
    let status ← Body.readReg i.rd.toUInt32 .w32
    Body.store 0 (Word.const .w64 haltAddr) status

/-- The code of the instruction at `pc`. -/
def body (i : Instr) (pc : UInt64) : Body Unit := do
  Body.writeReg Register.nextPc (Word.const .w32 (pc + 4))
  i.effect pc

end Instr

/-- The instruction that memory holds at an address. -/
def Core.fetch (core : Core) (addr : VirtAddr) : Except Exception Instr := do
  let word ← core.readMem ⟨.fetch, addr.space, addr.val⟩ 4
  match Instr.decode? word.toUInt32 with
  | some i => .ok i
  | none => .error (.undecodable addr.val)

/-- The emitter of the architecture, which has no state. -/
structure Codegen where
deriving DecidableEq, Repr

instance : Emitter Codegen Core where
  generate pc _ s :=
    match s.2.fetch pc with
    | .error e => (.error { cause := .raised e }, s)
    | .ok i => (.ok ⟨i.outcome, true, i.body pc.val, pc.offset 4⟩, s)
  leave layout emitter := (.register layout.nextPc.index, emitter)
  trap _ emitter := (.register Register.pc, emitter)

end GuestSim.Mini

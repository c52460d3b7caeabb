import GuestSim.Width

/-! Instructions of a small 32-bit architecture. Each is one little-endian word:

    31      24 23  20 19  16 15              0
    |  opcode  |  rd  |  rs  |   immediate   |

The immediate is signed. Branch offsets count instructions from the branch. -/

namespace GuestSim.Mini

inductive Opcode where
  | nop
  /-- `rd := imm` -/
  | li
  /-- `rd := rs + imm`, sets the zero flag -/
  | addi
  /-- `rd := rd + rs`, sets the zero flag -/
  | add
  /-- `rd := mem32[rs + imm]`, sets the zero flag -/
  | ld
  /-- `mem32[rs + imm] := rd` -/
  | st
  /-- `if rd = 0 then pc := pc + 4 * imm` -/
  | beqz
  /-- `pc := pc + 4 * imm` -/
  | jmp
  /-- Stops the simulation with status `rd`. -/
  | halt
  /-- Discards every unit. -/
  | flush
  /-- Discards the unit that holds the instruction. -/
  | evict
  /-- `rd := mem8[rs + imm]`, sets the zero flag -/
  | ldb
  /-- `mem8[rs + imm] := rd` -/
  | stb
  /-- `if zero then pc := pc + 4 * imm` -/
  | bz
deriving DecidableEq, Repr

namespace Opcode

/-- All opcodes in the order of their numbers. -/
def all : List Opcode :=
  [nop, li, addi, add, ld, st, beqz, jmp, halt, flush, evict, ldb, stb, bz]

def code : Opcode → Nat
  | nop => 0x0
  | li => 0x1
  | addi => 0x2
  | add => 0x3
  | ld => 0x4
  | st => 0x5
  | beqz => 0x6
  | jmp => 0x7
  | halt => 0x8
  | flush => 0x9
  | evict => 0xa
  | ldb => 0xb
  | stb => 0xc
  | bz => 0xd

def ofCode? (n : Nat) : Option Opcode := all[n]?

def name : Opcode → String
  | nop => "Nop"
  | li => "Li"
  | addi => "Addi"
  | add => "Add"
  | ld => "Ld"
  | st => "St"
  | beqz => "Beqz"
  | jmp => "Jmp"
  | halt => "Halt"
  | flush => "Flush"
  | evict => "Evict"
  | ldb => "Ldb"
  | stb => "Stb"
  | bz => "Bz"

end Opcode

structure Instr where
  op : Opcode
  rd : UInt8 := 0
  rs : UInt8 := 0
  imm : Int16 := 0
deriving DecidableEq, Repr

namespace Instr

/-- Keeps the low four bits of a register number. -/
def encode (i : Instr) : UInt32 :=
  UInt32.ofNat (i.op.code * 0x1000000 + i.rd.toNat % 16 * 0x100000
    + i.rs.toNat % 16 * 0x10000 + i.imm.toUInt16.toNat)

/-- Refuses unknown opcodes and registers. -/
def decode? (word : UInt32) : Option Instr :=
  let n := word.toNat
  let rd := n / 0x100000 % 16
  let rs := n / 0x10000 % 16
  match Opcode.ofCode? (n / 0x1000000) with
  | none => none
  | some op =>
    if rd < 8 ∧ rs < 8 then
      some ⟨op, UInt8.ofNat rd, UInt8.ofNat rs, (UInt16.ofNat (n % 0x10000)).toInt16⟩
    else none

/-- The immediate, extended with its sign. -/
def immediate (i : Instr) (w : Width) : Word w := i.imm.toBitVec.signExtend w.bits

/-- Where the branch at `pc` goes, modulo 2^64. -/
def branchTarget (i : Instr) (pc : UInt64) : UInt64 :=
  pc + 4 * UInt64.ofBitVec (i.immediate .w64)

/-- The instruction that a line of assembly stands for: destination or source register first, then
the base register, then the immediate. -/
def ofMnemonic? (mnemonic : String) (args : List Int) : Option Instr :=
  let reg (x : Int) : UInt8 := UInt8.ofBitVec (BitVec.ofInt 8 x)
  let imm (x : Int) : Int16 := Int16.ofInt x
  match mnemonic, args with
  | "nop", [] => some { op := .nop }
  | "li", [rd, x] => some { op := .li, rd := reg rd, imm := imm x }
  | "addi", [rd, rs, x] => some ⟨.addi, reg rd, reg rs, imm x⟩
  | "add", [rd, rs] => some { op := .add, rd := reg rd, rs := reg rs }
  | "ld", [rd, base, x] => some ⟨.ld, reg rd, reg base, imm x⟩
  | "st", [src, base, x] => some ⟨.st, reg src, reg base, imm x⟩
  | "ldb", [rd, base, x] => some ⟨.ldb, reg rd, reg base, imm x⟩
  | "stb", [src, base, x] => some ⟨.stb, reg src, reg base, imm x⟩
  | "beqz", [rd, x] => some { op := .beqz, rd := reg rd, imm := imm x }
  | "bz", [x] => some { op := .bz, imm := imm x }
  | "jmp", [x] => some { op := .jmp, imm := imm x }
  | "halt", [rd] => some { op := .halt, rd := reg rd }
  | "flush", [] => some { op := .flush }
  | "evict", [] => some { op := .evict }
  | _, _ => none

end Instr

/-- The four bytes of a word, lowest first. -/
def wordBytes (word : UInt32) : List UInt8 :=
  let n := word.toNat
  [UInt8.ofNat n, UInt8.ofNat (n / 0x100), UInt8.ofNat (n / 0x10000), UInt8.ofNat (n / 0x1000000)]

/-- The image of a program. -/
def assemble (words : List UInt32) : List UInt8 := words.flatMap wordBytes

end GuestSim.Mini

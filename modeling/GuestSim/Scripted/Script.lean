import GuestSim.CodeUnit.Build
import GuestSim.Scripted.Core

/-! Scripts: the code of an instruction, written down call by call. Values are named by the order
in which they are computed; those made on one side of a branch are forgotten behind it. -/

namespace GuestSim.Scripted

/-- A word of any width. -/
structure Value where
  width : Width
  bits : Word width

/-- One call. Widths are in bits, operands are positions among the values computed so far. -/
inductive Call where
  | const (width : Nat) (value : UInt64)
  | readReg (reg : UInt32) (width : Nat)
  | writeReg (reg : UInt32) (v : Nat)
  | resize (v width : Nat) (signed : Bool)
  | readFlag (flag : UInt32)
  | writeFlag (flag : UInt32) (v : Nat)
  | updateFlags (op : UInt32) (a b : Nat)
  | select (condition a b : Nat)
  | load (space : UInt32) (addr bytes : Nat)
  | store (space : UInt32) (addr v : Nat)
  | add (a b : Nat)
  | equal (a b : Nat)
  /-- Generation fails. -/
  | raise (e : Exception)
  /-- Generation fails if the instruction has this position in its unit. -/
  | raiseAt (ordinal : UInt32) (e : Exception)
deriving DecidableEq, Repr

/-- How a script ends the flow of control. -/
inductive Ending where
  | leave
  | trap
  | ret (v : Nat)
  /-- Control leaves the unit because nothing follows. -/
  | abandon
deriving DecidableEq, Repr

inductive Script where
  | done
  | ends (how : Ending)
  | call (c : Call) (rest : Script)
  /-- Runs the first script unless the value is zero, else the second; then the rest. -/
  | branch (v : Nat) (thens elses rest : Script)
deriving DecidableEq, Repr

/-- What a script was made into: the code in terms of the values computed before it, and whether
control gets past it. If the script failed, its code goes as far as it got. -/
structure Lowered where
  code : List Value → Body Unit
  isOpen : Except EmitError Bool

/-- Nothing was emitted before the failure. -/
def Lowered.failed (e : EmitError) : Lowered := ⟨fun _ => pure (), .error e⟩

def width? (bits : Nat) : Except EmitError Width :=
  (Width.ofBits? bits).elim (.error (.badWidth bits)) .ok

/-- The width of an operand. -/
def operand? (widths : List Width) (v : Nat) : Except EmitError Width :=
  widths[v]?.elim (.error (.badOperand v)) .ok

/-- The value of an operand, brought to width `w`. -/
def Value.get (values : List Value) (v : Nat) (w : Width) : Word w :=
  values[v]?.elim 0 fun x => Word.resize false w x.bits

namespace Call

/-- The code of a call, and the width of the value it computes if it does. -/
def lower (ordinal : UInt32) (widths : List Width) :
    Call → Except EmitError (Option Width × (List Value → Body (Option Value)))
  | const bits value => do
    let w ← width? bits
    return (some w, fun _ => return some ⟨w, Word.const w value⟩)
  | readReg reg bits => do
    let w ← width? bits
    return (some w, fun _ => return some ⟨w, ← Body.readReg reg w⟩)
  | writeReg reg v => do
    let w ← operand? widths v
    return (none, fun vs => do
      Body.writeReg reg (Value.get vs v w)
      return none)
  | resize v bits signed => do
    let source ← operand? widths v
    let w ← width? bits
    return (some w, fun vs => return some ⟨w, Word.resize signed w (Value.get vs v source)⟩)
  | readFlag flag => return (some .w8, fun _ => return some ⟨.w8, ← Body.readFlag flag⟩)
  | writeFlag flag v => do
    let w ← operand? widths v
    return (none, fun vs => do
      Body.writeFlag flag (Value.get vs v w)
      return none)
  | updateFlags op a b => do
    let v ← operand? widths a
    let w ← operand? widths b
    return (none, fun vs => do
      Body.updateFlags op (Value.get vs a v) (Value.get vs b w)
      return none)
  | select condition a b => do
    let v ← operand? widths condition
    let w ← operand? widths a
    let _ ← operand? widths b
    return (some w, fun vs => return some ⟨w, Word.select (Value.get vs condition v)
      (Value.get vs a w) (Value.get vs b w)⟩)
  | load space addr bytes => do
    let v ← operand? widths addr
    let w ← width? (bytes * 8)
    return (some w, fun vs => return some ⟨w, ← Body.load space (Value.get vs addr v) w⟩)
  | store space addr v => do
    let wAddr ← operand? widths addr
    let w ← operand? widths v
    return (none, fun vs => do
      Body.store space (Value.get vs addr wAddr) (Value.get vs v w)
      return none)
  | add a b => do
    let w ← operand? widths a
    let _ ← operand? widths b
    return (some w, fun vs => return some ⟨w, Value.get vs a w + Value.get vs b w⟩)
  | equal a b => do
    let w ← operand? widths a
    let _ ← operand? widths b
    return (some .w8, fun vs =>
      return some ⟨.w8, Word.ofBool (Value.get vs a w == Value.get vs b w)⟩)
  | raise e => .error (.raised e)
  | raiseAt n e => if n = ordinal then .error (.raised e) else return (none, fun _ => return none)

end Call

namespace Script

/-- Generates the code of a script. Both sides of a branch are generated, the first one first; what
stands behind an end of the flow is not. -/
def lower (ordinal : UInt32) : Script → List Width → Lowered
  | done, _ => ⟨fun _ => pure (), .ok true⟩
  | ends .leave, _ => ⟨fun _ => throw .leave, .ok false⟩
  | ends .trap, _ => ⟨fun _ => throw .trap, .ok false⟩
  | ends .abandon, _ => ⟨fun _ => throw .leave, .ok false⟩
  | ends (.ret v), widths =>
    match operand? widths v with
    | .error e => .failed e
    | .ok _ => ⟨fun vs => throw (.value (Value.get vs v .w64).toUInt64), .ok false⟩
  | call c rest, widths =>
    match c.lower ordinal widths with
    | .error e => .failed e
    | .ok (width, code) =>
      let rest := lower ordinal rest (widths ++ width.toList)
      ⟨fun vs => do
        let value ← code vs
        rest.code (vs ++ value.toList), rest.isOpen⟩
  | branch v thens elses rest, widths =>
    match operand? widths v with
    | .error e => .failed e
    | .ok w =>
      let sides (thens elses : List Value → Body Unit) (vs : List Value) : Body Unit :=
        if (Value.get vs v w).isZero then elses vs else thens vs
      let thens := lower ordinal thens widths
      let elses := lower ordinal elses widths
      match thens.isOpen, elses.isOpen with
      -- The other side is still empty then.
      | .error e, _ => ⟨sides thens.code fun _ => pure (), .error e⟩
      | .ok _, .error e => ⟨sides thens.code elses.code, .error e⟩
      | .ok false, .ok false => ⟨sides thens.code elses.code, .ok false⟩
      | .ok _, .ok _ =>
        let rest := lower ordinal rest widths
        ⟨fun vs => do
          sides thens.code elses.code vs
          rest.code vs, rest.isOpen⟩

end Script

/-- An instruction at an address. -/
structure Instr where
  address : UInt64
  len : UInt64 := 4
  /-- Set the address of the next instruction first. -/
  sequential : Bool := true
  script : Script
  outcome : Outcome := .next

/-- The address to go on at when a unit is left. -/
inductive ExitRule where
  | const (w : Width) (value : UInt64)
  | register (idx : UInt32)
deriving DecidableEq, Repr

def ExitRule.code {ε : Type} : ExitRule → ExitCode ε
  | .const w value => .const w value
  | .register idx => .register idx

/-- A program: its instructions, and the exits of units if they are not the usual ones. -/
structure Program where
  instrs : List Instr
  leave : Option ExitRule := none
  trap : Option ExitRule := none

namespace Program

/-- The instruction at an address: the last one that was given for it. -/
def instr? (program : Program) (address : UInt64) : Option Instr :=
  program.instrs.reverse.find? (·.address = address)

/-- Generates the instruction at an address. -/
def generate (program : Program) (design : Design) (pc : VirtAddr) (ordinal : UInt32) :
    Except Failure Step :=
  match design.resolve pc with
  | .error e => .error { cause := .raised e }
  | .ok _ =>
    match program.instr? pc.val with
    | none => .error { cause := .raised (.undecodable pc.val) }
    | some instr =>
      let next := pc.offset instr.len
      let lowered := instr.script.lower ordinal []
      let body : Body Unit := do
        if instr.sequential then
          Body.writeReg design.layout.nextPc.index (Word.const .w64 next.val)
        lowered.code []
      match lowered.isOpen with
      | .error cause => .error { cause, emitted := body }
      | .ok isOpen => .ok { outcome := instr.outcome, isOpen, body, next }

end Program

/-- The emitter of a program for the cores of a design, which has no state. -/
structure Codegen (design : Design) (program : Program) where
deriving DecidableEq, Repr

instance (design : Design) (program : Program) : Emitter (Codegen design program) (Core design) where
  generate pc ordinal s := (program.generate design pc ordinal, s)
  leave layout emitter := ((program.leave.getD (.register layout.nextPc.index)).code, emitter)
  trap layout emitter := ((program.trap.getD (.register layout.pc.index)).code, emitter)

end GuestSim.Scripted

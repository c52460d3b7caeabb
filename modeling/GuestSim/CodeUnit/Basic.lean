import GuestSim.CodeUnit.Graph
import GuestSim.Text.Numeral

/-! Units of generated code: the code of consecutive instructions, run as one. -/

namespace GuestSim

/-- What the driver has to do once a unit has run to its end. -/
inductive Outcome where
  /-- Go on with the next instruction in sequence. -/
  | next
  /-- Go on wherever control was transferred to. -/
  | branch
  /-- Discard every unit of the cluster. -/
  | flush
  /-- Discard the unit itself. -/
  | evict
deriving DecidableEq, Repr

def Outcome.name : Outcome → String
  | .next => "Continue"
  | .branch => "Branch"
  | .flush => "Flush"
  | .evict => "Trap"

/-- The code of one instruction. If it is not open, control never reaches what follows it: where
the body falls through, the unit is left. -/
structure Fragment where
  address : UInt64
  outcome : Outcome
  isOpen : Bool
  body : Body Unit

/-- The code at an exit of a unit, which computes the address to go on at or fails. -/
structure ExitCode (ε : Type) where
  width : Width
  code : ExceptT ε Code (Word width)

namespace ExitCode

variable {ε : Type}

def const (w : Width) (value : UInt64) : ExitCode ε := ⟨w, pure (Word.const w value)⟩

/-- The value of a register, as 64 bits. -/
def register (idx : UInt32) : ExitCode ε :=
  ⟨.w64, do return Word.const .w64 (← ExceptT.lift (Code.ask (.readReg idx)))⟩

/-- The code of the exit and, should it fail, what follows then. -/
def followed (exit : ExitCode ε) (otherwise : ε → Code UInt64) : Code UInt64 := do
  match ← exit.code.run with
  | .ok pc => return pc.toUInt64
  | .error e => otherwise e

/-- The caller expects 64 bits. -/
def isWellTyped (exit : ExitCode ε) : Bool := exit.width == .w64

end ExitCode

/-- A unit that is complete but not yet compiled. -/
structure Draft where
  settings : Settings
  fragments : List Fragment
  /-- The instruction that could not be generated and ended the unit, if one did. -/
  discarded : Option Nat
  graph : Graph
  /-- The normal exit. If it fails, control goes on at the exit for exceptions. -/
  leave : ExitCode Unit
  /-- The exit for exceptions. It cannot fail, as it would lead back to itself. -/
  trap : ExitCode Empty

namespace Draft

def size (draft : Draft) : Nat := draft.fragments.length

/-- The addresses of the instructions. -/
def boundaries (draft : Draft) : List UInt64 := draft.fragments.map (·.address)

/-- The outcome of the last instruction. -/
def outcome (draft : Draft) : Outcome :=
  draft.fragments.getLast?.elim .next (·.outcome)

def isWellTyped (draft : Draft) : Bool := draft.leave.isWellTyped && draft.trap.isWellTyped

def trapCode (draft : Draft) : Code UInt64 := draft.trap.followed fun e => e.elim

def leaveCode (draft : Draft) : Code UInt64 := draft.leave.followed fun _ => draft.trapCode

/-- The code at the exit that a departure takes. -/
def exit (draft : Draft) : Departure → Code UInt64
  | .value v => return v
  | .trap => draft.trapCode
  | .leave => draft.leaveCode

/-- The code of the whole unit, which gives the address to go on at. -/
def code (draft : Draft) : Code UInt64 := do
  match ← (draft.graph.code draft.settings).run with
  | .error departure => draft.exit departure
  | .ok () => draft.exit .leave

/-- One line for the unit and one for each instruction handed to the compiler. -/
def listing (draft : Draft) (symbol : String) : List String :=
  let line (ordinal : Nat) (place : String) := "; inst #" ++ toString ordinal ++ " " ++ place
  ("; " ++ symbol) ::
    (draft.boundaries.zipIdx.map fun (addr, i) => line i ("@ " ++ Numeral.hex addr.toNat)) ++
    (draft.discarded.toList.map fun i => line i "(discarded)")

end Draft

end GuestSim

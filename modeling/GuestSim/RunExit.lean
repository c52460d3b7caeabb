import GuestSim.Text.Record

/-! How a run ends, and the status that a process reports for it. -/

namespace GuestSim

inductive RunExit where
  /-- The instruction budget is used up. -/
  | instructionLimit
  /-- The architecture stopped the simulation. -/
  | stopped (code : Int32)
  /-- The instruction at the address could not be decoded. -/
  | decodeError (addr : UInt64)
deriving DecidableEq, Repr

namespace RunExit

/-- The stop code of a simulation that ended well. -/
def stopClean : Int32 := 1

def exitCode : RunExit → Int32
  | .instructionLimit => 0
  | .stopped code => if code = stopClean then 0 else code
  | .decodeError _ => -1

/-- Whether the run ended at a place that the core does not know yet. -/
def movesPc : RunExit → Bool
  | .instructionLimit | .decodeError _ => true
  | .stopped _ => false

def describe : RunExit → String
  | .instructionLimit => "InstructionLimit"
  | .stopped code => Text.tagged "Stopped" (toString code.toInt)
  | .decodeError addr => Text.tagged "DecodeError" (toString addr.toNat)

end RunExit

end GuestSim

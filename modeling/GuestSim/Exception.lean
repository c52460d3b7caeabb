import GuestSim.Text.Numeral
import GuestSim.Text.Record

/-! Conditions that end the execution of generated code, or the generation of it. -/

namespace GuestSim

inductive Exception where
  /-- A recoverable fault; execution resumes where the architecture says. -/
  | accessTrap (id : UInt32) (addr : UInt64)
  /-- The architecture asked for the end of the simulation. -/
  | stopped (code : Int32)
  /-- There is no instruction at the address. -/
  | undecodable (addr : UInt64)
deriving DecidableEq, Repr

namespace Exception

def isAccessTrap : Exception → Bool
  | .accessTrap _ _ => true
  | _ => false

/-- A status is shown as the 32-bit word that holds it. -/
def message : Exception → String
  | .accessTrap id addr =>
    "access trap " ++ Numeral.hex id.toNat ++ " at " ++ Numeral.hex addr.toNat
  | .stopped code => "simulation stopped with status " ++ Numeral.hex code.toUInt32.toNat
  | .undecodable addr => "failed to decode instruction at " ++ Numeral.hex addr.toNat

def describe : Exception → String
  | .accessTrap id addr =>
    Text.record "AccessTrap" [("id", toString id.toNat), ("addr", toString addr.toNat)]
  | .stopped code => Text.tagged "SimulationStopped" (toString code.toInt)
  | .undecodable addr => Text.tagged "Decode" (toString addr.toNat)

end Exception

end GuestSim

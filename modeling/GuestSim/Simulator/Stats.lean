import GuestSim.Text.Fixed

/-! Statistics of a run. -/

namespace GuestSim

/-- A length of time, with less than 10^9 nanoseconds besides the seconds. -/
structure Duration where
  secs : Nat
  nanos : Nat

namespace Duration

def ofNanos (nanos : Nat) : Duration := ⟨nanos / 1000000000, nanos % 1000000000⟩

/-- Nanoseconds that make up whole seconds are carried over. The seconds have to fit in 64 bits. -/
def new? (secs nanos : Nat) : Option Duration :=
  let d := ofNanos (secs * 1000000000 + nanos)
  if d.secs < UInt64.size then some d else none

def millis (d : Duration) : Nat := d.secs * 1000 + d.nanos / 1000000

def toSeconds (d : Duration) : Float :=
  d.secs.toUInt64.toFloat + d.nanos.toUInt64.toFloat / 1e9

end Duration

structure RunStats where
  startAddr : UInt64
  /-- Instructions executed. -/
  instructions : UInt64
  /-- Units of the cluster when the run ended. -/
  codeBlocks : Nat
deriving DecidableEq, Repr

namespace RunStats

/-- Millions of instructions in a second, or zero if no time has passed. -/
def mips (stats : RunStats) (elapsed : Duration) : Float :=
  let micros := elapsed.toSeconds * 1000000.0
  if micros > 0.0 then stats.instructions.toFloat / micros else 0.0

def text (stats : RunStats) (elapsed : Duration) : String :=
  "Executed " ++ toString stats.instructions.toNat ++ " instructions in "
    ++ toString stats.codeBlocks ++ " code blocks during " ++ toString elapsed.millis
    ++ "ms resulting in " ++ Text.fixed2 (stats.mips elapsed) ++ " MIPS"

end RunStats

end GuestSim

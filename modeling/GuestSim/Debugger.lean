import GuestSim.Exception

/-! Debuggers, which are asked before every instruction whether to go on. -/

namespace GuestSim

/-- A debugger refuses an instruction by raising an exception. Its state may change either way. -/
class Debugger (δ : Type) where
  check : UInt64 → δ → Option Exception × δ

/-- Refuses the instruction at `pc` a number of times. -/
structure Breakpoint where
  pc : UInt64
  exception : Exception
  times : Nat
deriving DecidableEq, Repr

namespace Breakpoint

/-- The first breakpoint for `pc` that is not used up answers, and is used once. -/
def check (pc : UInt64) : List Breakpoint → Option Exception × List Breakpoint
  | [] => (none, [])
  | b :: rest =>
    if b.pc = pc ∧ 0 < b.times then (some b.exception, { b with times := b.times - 1 } :: rest)
    else
      let (answer, rest) := check pc rest
      (answer, b :: rest)

end Breakpoint

instance : Debugger (List Breakpoint) := ⟨Breakpoint.check⟩

end GuestSim

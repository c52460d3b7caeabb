import GuestSim.Plugin

/-! A record of the calls made on the core and on observers, in order. -/

namespace GuestSim

inductive Event where
  | offered (plugin : Nat) (version : String)
  | plugin (plugin : Nat) (notice : Notice)
  | checkpoint (pc : UInt64)
  | generate (pc : UInt64) (ordinal : UInt32)
  | readReg (idx : UInt32) (value : UInt64)
  | writeReg (idx : UInt32) (value : UInt64)
  | readFlag (flag : UInt32)
  | writeFlag (flag : UInt32) (value : Bool)
  | updateFlags (op : UInt32) (a b : UInt64)
  | readMem (space : UInt32) (addr : UInt64) (len : Nat)
  | writeMem (space : UInt32) (addr : UInt64) (len : Nat) (value : UInt64)
  | notify (phase : Phase)
  | enterTrap (id : UInt32) (addr : UInt64)
deriving DecidableEq, Repr

/-- Whether an observer other than the architecture receives the call. -/
def Event.isObserver : Event → Bool
  | .offered .. | .plugin .. | .checkpoint .. => true
  | _ => false

/-- How much a journal keeps. -/
inductive Detail where
  | nothing
  | observers
  | everything
deriving DecidableEq, Repr

def Detail.keeps : Detail → Event → Bool
  | .nothing, _ => false
  | .observers, event => event.isObserver
  | .everything, _ => true

structure Journal where
  detail : Detail
  events : Array Event := #[]

def Journal.record (journal : Journal) (event : Event) : Journal :=
  if journal.detail.keeps event then { journal with events := journal.events.push event }
  else journal

def Journal.clear (journal : Journal) : Journal := { journal with events := #[] }

end GuestSim

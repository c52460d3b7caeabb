import GuestSim.Text.Numeral
import GuestSim.Text.Record

/-! Guest addresses, virtual and physical, each with the access it is used for. -/

namespace GuestSim

/-- The purpose of a memory access. A debug fetch is made on behalf of an observer. -/
inductive Access where
  | debugFetch
  | fetch
  | read
  | write
deriving DecidableEq, Repr

def Access.isFetch : Access → Bool
  | .debugFetch | .fetch => true
  | .read | .write => false

def Access.name : Access → String
  | .debugFetch => "DebugFetch"
  | .fetch => "Fetch"
  | .read => "Read"
  | .write => "Write"

/-- A virtual address in one of the address spaces of an architecture. -/
structure VirtAddr where
  access : Access
  space : UInt32
  val : UInt64
deriving DecidableEq, Repr

namespace VirtAddr

/-- The address `val` of the main space, for an instruction fetch. -/
def fetch (val : UInt64) : VirtAddr := ⟨.fetch, 0, val⟩

/-- The address `bytes` further on, modulo 2^64. -/
def offset (addr : VirtAddr) (bytes : UInt64) : VirtAddr :=
  { addr with val := addr.val + bytes }

def text (addr : VirtAddr) : String := Numeral.hex addr.val.toNat

def describe (addr : VirtAddr) : String :=
  Text.record "VirtAddr" [("access", addr.access.name), ("space", toString addr.space.toNat),
    ("val", toString addr.val.toNat)]

end VirtAddr

/-- A physical address, the key under which code is kept. -/
structure PhysAddr where
  access : Access
  space : UInt32
  val : UInt64
deriving DecidableEq, Repr

namespace PhysAddr

/-- The physical address of an architecture that maps every address to itself. -/
def identity (addr : VirtAddr) : PhysAddr := ⟨addr.access, addr.space, addr.val⟩

def text (addr : PhysAddr) : String := Numeral.hex addr.val.toNat

def describe (addr : PhysAddr) : String :=
  Text.record "PhysAddr" [("access", addr.access.name), ("space", toString addr.space.toNat),
    ("val", toString addr.val.toNat)]

end PhysAddr

end GuestSim

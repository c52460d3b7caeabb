import GuestSim.Text.Record

/-! The boundaries of an instruction at which generated code reports to observers. -/

namespace GuestSim

/-- A set of boundaries. Bits without a meaning are kept as they are. -/
structure SyncMask where
  bits : UInt32
deriving DecidableEq, Repr

namespace SyncMask

def empty : SyncMask := ⟨0⟩

/-- Before the instruction. -/
def pre : SyncMask := ⟨1⟩

/-- After the instruction. -/
def post : SyncMask := ⟨2⟩

def all : SyncMask := ⟨3⟩

def union (a b : SyncMask) : SyncMask := ⟨a.bits ||| b.bits⟩

def intersects (a b : SyncMask) : Bool := a.bits &&& b.bits != 0

def contains (a b : SyncMask) : Bool := a.bits &&& b.bits == b.bits

/-- Only the bits that have a meaning. -/
def truncate (bits : UInt32) : SyncMask := ⟨bits &&& all.bits⟩

/-- Refuses bits without a meaning. -/
def ofBits? (bits : UInt32) : Option SyncMask :=
  if bits &&& all.bits = bits then some ⟨bits⟩ else none

def names (mask : SyncMask) : List String :=
  (if mask.intersects pre then ["PRE"] else []) ++ (if mask.intersects post then ["POST"] else [])

def describe (mask : SyncMask) : String :=
  match mask.names with
  | [] => Text.tagged "SyncType" "0x0"
  | names => Text.tagged "SyncType" (" | ".intercalate names)

end SyncMask

/-- The phase of execution that an architecture is told about. -/
inductive Phase where
  | start
  | finish
deriving DecidableEq, Repr

namespace Phase

/-- Only the boundary after an instruction, and no other with it, ends the instruction. -/
def ofMask (mask : SyncMask) : Phase := if mask = .post then .finish else .start

def ofRaw? : UInt32 → Option Phase
  | 0 => some .start
  | 1 => some .finish
  | _ => none

def describe : Phase → String
  | .start => "InstructionStart"
  | .finish => "InstructionEnd"

end Phase

end GuestSim

import GuestSim.CodeUnit.Settings

/-! The code of a unit as blocks that lead to one another. Control enters the unit at the first of
them. -/

namespace GuestSim

/-- A piece of the code of a unit: what stands at a boundary of the instruction at some position, or
the code of an instruction. -/
inductive Piece where
  | before (ordinal : Nat)
  | body (code : Body Unit)
  | after (ordinal : Nat)

def Piece.code (settings : Settings) : Piece → Body Unit
  | .before ordinal => settings.before (UInt32.ofNat ordinal)
  | .body code => code
  | .after ordinal => settings.after (UInt32.ofNat ordinal)

/-- Where control goes at the end of a block. -/
inductive Jump where
  | leave
  | block (id : Nat)
deriving DecidableEq, Repr

/-- Code in sequence. A block without a jump is still open. -/
structure Block where
  pieces : List Piece := []
  jump : Option Jump := none

/-- The blocks of a unit, which are numbered in the order in which they were made. -/
structure Graph where
  blocks : Array Block := #[{}]

namespace Graph

def size (graph : Graph) : Nat := graph.blocks.size

/-- Makes another block. -/
def add (graph : Graph) (block : Block) : Graph := ⟨graph.blocks.push block⟩

/-- Ends a block with a jump. -/
def close (graph : Graph) (id : Nat) (jump : Jump) : Graph :=
  ⟨graph.blocks.modify id fun block => { block with jump := some jump }⟩

/-- Leaves the unit at the end of every block from `first` on that is still open. -/
def closeSince (graph : Graph) (first : Nat) : Graph :=
  ⟨graph.blocks.mapIdx fun id block =>
    if first ≤ id ∧ block.jump.isNone then { block with jump := some .leave } else block⟩

/-- The code that control runs through from a block on. Blocks lead to later ones, so that it does
not take more than all of them. -/
def codeFrom (graph : Graph) (settings : Settings) : (most id : Nat) → Body Unit
  | 0, _ => throw .leave
  | most + 1, id =>
    match graph.blocks[id]? with
    | none => throw .leave
    | some block => do
      block.pieces.forM (Piece.code settings)
      match block.jump with
      | some (.block next) => codeFrom graph settings most next
      | some .leave | none => throw .leave

/-- The code of the whole unit. -/
def code (graph : Graph) (settings : Settings) : Body Unit :=
  graph.codeFrom settings graph.size 0

end Graph

end GuestSim

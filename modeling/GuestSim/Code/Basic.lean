import GuestSim.Layout
import GuestSim.Plugin

/-! Generated code, as a tree: each node asks its surroundings to perform an operation and goes on
according to the reply. -/

namespace GuestSim

/-- What generated code can ask for. The reply is a word: the value asked for, or a status for what
can fail, or zero. -/
inductive Op where
  | readReg (idx : UInt32)
  | writeReg (idx : UInt32) (value : UInt64)
  /-- Replies 0 or 1. -/
  | readFlag (flag : UInt32)
  /-- Sets the flag unless the value is zero. -/
  | writeFlag (flag : UInt32) (value : UInt64)
  | updateFlags (op : UInt32) (a b : UInt64)
  /-- Replies with a status. -/
  | readMem (space : UInt32) (addr : UInt64) (len : Nat)
  /-- The value of the last read from memory that succeeded. -/
  | memValue
  /-- Replies with a status. -/
  | writeMem (space : UInt32) (addr : UInt64) (len : Nat) (value : UInt64)
  /-- Tells the architecture about a phase. -/
  | notify (phase : Phase)
  /-- Asks the debugger about the instruction at `pc`, and replies with a status. -/
  | checkpoint (pc : UInt64)
  | callPlugin (id : UInt32) (notice : Notice)
  /-- Reads a word at a distance from the start of the register storage. -/
  | loadStorage (offset : Int32) (w : Width)
  /-- Puts the low bits of a value at a distance from the start of the register storage. -/
  | storeStorage (offset : Int32) (w : Width) (value : UInt64)
  /-- The number of instructions at which the run has to end. -/
  | limit
deriving DecidableEq, Repr

/-- Replies of operations that can fail. -/
def Status.ok : UInt64 := 0

def Status.trap : UInt64 := 1

inductive Code (α : Type) : Type where
  | done (value : α)
  | perform (op : Op) (next : UInt64 → Code α)

namespace Code

def bind {α β : Type} : Code α → (α → Code β) → Code β
  | .done value, f => f value
  | .perform op next, f => .perform op fun reply => (next reply).bind f

instance : Monad Code where
  pure := .done
  bind := bind

theorem bind_done {α : Type} (code : Code α) : code.bind .done = code := by
  induction code with
  | done => rfl
  | perform op next ih => simp [bind, ih]

theorem bind_assoc {α β γ : Type} (code : Code α) (f : α → Code β) (g : β → Code γ) :
    (code.bind f).bind g = code.bind fun value => (f value).bind g := by
  induction code with
  | done => rfl
  | perform op next ih => simp [bind, ih]

instance : LawfulMonad Code :=
  LawfulMonad.mk' Code bind_done (fun _ _ => rfl) bind_assoc

def ask (op : Op) : Code UInt64 := .perform op .done

end Code

/-- How control leaves a unit: by the normal exit, by the exit for exceptions, or with a value that
the code returns itself. -/
inductive Departure where
  | leave
  | trap
  | value (v : UInt64)
deriving DecidableEq, Repr

/-- Code in the body of a unit, which may leave the unit early. -/
abbrev Body := ExceptT Departure Code

namespace Body

def ask (op : Op) : Body UInt64 := ExceptT.lift (Code.ask op)

/-- Performs an operation that has nothing to reply. -/
def tell (op : Op) : Body Unit := do
  let _ ← ask op

/-- Performs an operation, and leaves through the trap exit if it fails. -/
def attempt (op : Op) : Body Unit := do
  if (← ask op) ≠ Status.ok then throw .trap

end Body

end GuestSim

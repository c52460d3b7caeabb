import GuestSim.Architecture
import GuestSim.Code.Basic
import GuestSim.Debugger
import GuestSim.Journal

/-! A core together with what generated code shares with its driver, and how code runs on it. -/

namespace GuestSim

/-- What generated code and its driver share. -/
structure Context (δ : Type) where
  /-- The value of the last memory read that succeeded. -/
  memValue : UInt64 := 0
  /-- Units leave at the next boundary once this many instructions were started. -/
  icountLimit : UInt64 := -1
  /-- The exception that made the current unit leave. -/
  exception : Option Exception := none
  plugins : PluginTable := {}
  debugger : Option δ := none

structure Machine (C δ : Type) where
  core : C
  context : Context δ := {}
  journal : Journal

namespace Machine

variable {C δ : Type}

def record (m : Machine C δ) (event : Event) : Machine C δ :=
  { m with journal := m.journal.record event }

/-- Parks an exception for the driver, in the place of an earlier one. -/
def raise (m : Machine C δ) (e : Exception) : Machine C δ :=
  { m with context.exception := some e }

/-- Offers the plugin a place in the table. -/
def register (m : Machine C δ) (plugin : Plugin) : Option UInt32 × Machine C δ :=
  let m := m.record (.offered plugin.label PluginTable.version)
  let (id, plugins) := m.context.plugins.register plugin
  (id, { m with context.plugins := plugins })

/-- Tells a plugin; false if there is none of this identifier. -/
def callPlugin (m : Machine C δ) (id : UInt32) (notice : Notice) : Bool × Machine C δ :=
  match m.context.plugins.get? id with
  | some plugin => (true, m.record (.plugin plugin.label notice))
  | none => (false, m)

/-- Asks the debugger, if there is one. A refusal parks the exception. -/
def checkpoint [Debugger δ] (m : Machine C δ) (pc : UInt64) : UInt64 × Machine C δ :=
  match m.context.debugger with
  | none => (Status.ok, m)
  | some debugger =>
    let (answer, debugger) := Debugger.check pc debugger
    let m := { m with
      context.debugger := some debugger
      journal := m.journal.record (.checkpoint pc) }
    match answer with
    | none => (Status.ok, m)
    | some e => (Status.trap, m.raise e)

section Core

variable [Architecture C]

def readReg (m : Machine C δ) (idx : UInt32) : UInt64 × Machine C δ :=
  let value := Architecture.readReg m.core idx
  (value, { m with journal := m.journal.record (.readReg idx value) })

def writeReg (m : Machine C δ) (idx : UInt32) (value : UInt64) : Machine C δ :=
  { m with
    core := Architecture.writeReg m.core idx value
    journal := m.journal.record (.writeReg idx value) }

def readFlag (m : Machine C δ) (flag : UInt32) : Bool × Machine C δ :=
  let value := Architecture.readFlag m.core flag
  (value, { m with journal := m.journal.record (.readFlag flag) })

def writeFlag (m : Machine C δ) (flag : UInt32) (value : Bool) : Machine C δ :=
  { m with
    core := Architecture.writeFlag m.core flag value
    journal := m.journal.record (.writeFlag flag value) }

def updateFlags (m : Machine C δ) (op : UInt32) (a b : UInt64) : Machine C δ :=
  { m with
    core := Architecture.updateFlags m.core op a b
    journal := m.journal.record (.updateFlags op a b) }

def readMem (m : Machine C δ) (addr : VirtAddr) (len : Nat) :
    Except Exception UInt64 × Machine C δ :=
  let (result, core) := Architecture.readMem m.core addr len
  (result, { m with core, journal := m.journal.record (.readMem addr.space addr.val len) })

def writeMem (m : Machine C δ) (addr : VirtAddr) (len : Nat) (value : UInt64) :
    Except Exception Unit × Machine C δ :=
  let (result, core) := Architecture.writeMem m.core addr len value
  (result, { m with core, journal := m.journal.record (.writeMem addr.space addr.val len value) })

def notify (m : Machine C δ) (phase : Phase) : Machine C δ :=
  { m with
    core := Architecture.notify m.core phase
    journal := m.journal.record (.notify phase) }

def resolve (m : Machine C δ) (addr : VirtAddr) : Except Exception PhysAddr × Machine C δ :=
  let (result, core) := Architecture.resolve m.core addr
  (result, { m with core })

def enterTrap (m : Machine C δ) (id : UInt32) (addr : UInt64) : UInt64 × Machine C δ :=
  let (pc, core) := Architecture.enterTrap m.core id addr
  (pc, { m with core, journal := m.journal.record (.enterTrap id addr) })

/-- The machine as a unit finds it: the first instruction is at `pc`, and no exception is parked. -/
def enter (m : Machine C δ) (nextPc : UInt32) (pc : UInt64) : Machine C δ :=
  { m.writeReg nextPc pc with context.exception := none }

end Core

variable [Architecture C] [Debugger δ]

/-- Performs an operation for generated code. A failed one parks its exception. -/
def perform (m : Machine C δ) : Op → UInt64 × Machine C δ
  | .readReg idx => m.readReg idx
  | .writeReg idx value => (0, m.writeReg idx value)
  | .readFlag flag =>
    let (value, m) := m.readFlag flag
    (if value then 1 else 0, m)
  | .writeFlag flag value => (0, m.writeFlag flag (value ≠ 0))
  | .updateFlags op a b => (0, m.updateFlags op a b)
  | .readMem space addr len =>
    match m.readMem ⟨.read, space, addr⟩ len with
    | (.ok value, m) => (Status.ok, { m with context.memValue := value })
    | (.error e, m) => (Status.trap, m.raise e)
  | .memValue => (m.context.memValue, m)
  | .writeMem space addr len value =>
    match m.writeMem ⟨.write, space, addr⟩ len value with
    | (.ok _, m) => (Status.ok, m)
    | (.error e, m) => (Status.trap, m.raise e)
  | .notify phase => (0, m.notify phase)
  | .checkpoint pc => m.checkpoint pc
  | .callPlugin id notice => (0, (m.callPlugin id notice).2)
  | .loadStorage offset w => ((Architecture.loadStorage m.core offset w).toUInt64, m)
  | .storeStorage offset w value =>
    (0, { m with core := Architecture.storeStorage m.core offset (Word.const w value) })
  | .limit => (m.context.icountLimit, m)

end Machine

namespace Code

variable {C δ α β : Type} [Architecture C] [Debugger δ]

/-- Runs code on a machine. -/
def run : Code α → Machine C δ → α × Machine C δ
  | .done value, m => (value, m)
  | .perform op next, m =>
    let (reply, m) := m.perform op
    (next reply).run m

@[simp] theorem run_pure (value : α) (m : Machine C δ) :
    (pure value : Code α).run m = (value, m) := rfl

@[simp] theorem run_ask (op : Op) (m : Machine C δ) : (ask op).run m = m.perform op := rfl

/-- Code in sequence runs in sequence. -/
@[simp] theorem run_bind (code : Code α) (f : α → Code β) (m : Machine C δ) :
    (code >>= f).run m = (f (code.run m).1).run (code.run m).2 := by
  induction code generalizing m with
  | done => rfl
  | perform op next ih => exact ih _ _

end Code

end GuestSim

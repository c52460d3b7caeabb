import GuestSim.FileError
import GuestSim.Mini.Codegen
import GuestSim.Simulator.Run

/-! The command line: it loads an image into a core of the small architecture, runs it, and reports
how the run ended. It works on any host that offers files and a clock. -/

namespace GuestSim.CommandLine

/-- What the command line asks of its host. -/
structure Host (m : Type → Type) where
  readFile : String → m (Except FileError (List UInt8))
  /-- Writes lines of text. -/
  writeFile : String → List String → m (Except FileError Unit)
  /-- Nanoseconds of a clock that never goes back. -/
  now : m Nat

/-- Lines of text as the bytes of a file, each line ended. -/
def textBytes (lines : List String) : List UInt8 :=
  (String.join (lines.map (· ++ "\n"))).toUTF8.toList

structure Failure where
  message : String
  cause : Option String := none
deriving DecidableEq, Repr

def Failure.text (failure : Failure) : String :=
  match failure.cause with
  | none => failure.message ++ "\n"
  | some cause => failure.message ++ "\n\nCaused by:\n    " ++ cause ++ "\n"

/-- What a process writes, and the status it ends with. -/
structure Report where
  status : Int32
  out : List String := []
  err : String := ""
deriving DecidableEq, Repr

/-- The variables that are looked at. -/
def knownVars : List String :=
  ["TESSEL_MAX_UNIT_INSTRUCTIONS", "TESSEL_CORE_ID", "TESSEL_CLUSTER_ID", "TESSEL_DEBUG",
    "TESSEL_DUMP_IL", "TESSEL_IMPRECISE_LIMIT", "TESSEL_ENABLE_JIT_VERIFIER", "TESSEL_OPT_LEVEL",
    "TESSEL_LOAD_ADDR", "TESSEL_ICOUNT_LIMIT", "TESSEL_RAM_SIZE", "TESSEL_TRAP_VECTOR",
    "TESSEL_JIT_MAPPING"]

/-- A number, if the variable is set. -/
def number? (var : String → Option String) (name : String) : Except Failure (Option UInt64) :=
  match var name with
  | none => .ok none
  | some value =>
    match Numeral.word? value with
    | some n => .ok (some n)
    | none => .error ⟨"invalid value for " ++ name ++ ": " ++ Text.quote value, none⟩

/-- A simulator of the small architecture; the command line installs no debugger. -/
abbrev Sim := Simulator Mini.Core Mini.Codegen (List Breakpoint)

/-- The simulator for an image, and the limit of the run. -/
def setup (var : String → Option String) (path : String) (image : List UInt8) :
    Except Failure (Sim × Option UInt64) := do
  let config ← (Config.ofVars var).mapError fun e => ⟨e.message, none⟩
  let loadAddr := (← number? var "TESSEL_LOAD_ADDR").getD 0x1000
  let limit ← number? var "TESSEL_ICOUNT_LIMIT"
  let ramSize := (← number? var "TESSEL_RAM_SIZE").getD 0x100000
  let core ← ((Mini.Core.new loadAddr ramSize.toNat).load loadAddr image).mapError fun e =>
    ⟨path ++ " does not fit in RAM", some e.message⟩
  let trapVector := (← number? var "TESSEL_TRAP_VECTOR").getD loadAddr
  let core := { core with trapVector }.reset (some loadAddr)
  let machine := { core, journal := { detail := .nothing } }
  let sim ← (Simulator.new machine {} config).mapError fun e => ⟨e.message, e.cause?⟩
  return (sim, limit)

/-- More turns of the driver loop than any run makes. -/
def patience : Nat := 1 <<< 62

/-- Loads and runs an image. Gives the report, with the listing already in it if one is wanted. -/
def execute {m : Type → Type} [Monad m] (host : Host m) (var : String → Option String)
    (args : List String) : ExceptT Failure (StateT Report m) Unit := do
  let some path := args.head? | throw ⟨"Expected image", none⟩
  let image ← (← host.readFile path).mapError fun e =>
    (⟨"failed to read: " ++ path, some e.message⟩ : Failure)
  let (sim, limit) ← setup var path image
  let start ← host.now
  let some (result, sim) := sim.run patience limit | throw ⟨"no end in sight", none⟩
  let elapsed := Duration.ofNanos ((← host.now) - start)
  let exit ← result.mapError fun e => (⟨e.message, e.cause?⟩ : Failure)
  if let some lines := sim.cache.listing then
    modify fun r => { r with err := r.err ++ String.join (lines.map (· ++ "\n")) ++ "\n" }
  if let some path := var "TESSEL_JIT_MAPPING" then
    (← host.writeFile path (sim.cache.declared.toList.map (·.mappingLine))).mapError fun e =>
      (⟨"failed to write JIT mapping", some e.message⟩ : Failure)
  let stats := sim.lastRun.toList.map (·.text elapsed)
  let place := exit.describe ++ " (icount = " ++ toString sim.instructionCount.toNat ++ ")"
  modify fun r => { r with status := exit.exitCode, out := stats ++ [place] }

/-- Runs the command line. A failure is reported with status -1. -/
def report {m : Type → Type} [Monad m] (host : Host m) (var : String → Option String)
    (args : List String) : m Report := do
  match ← (execute host var args).run.run { status := 0 } with
  | (.ok (), r) => return r
  | (.error failure, r) => return { r with status := -1, err := r.err ++ failure.text }

end GuestSim.CommandLine

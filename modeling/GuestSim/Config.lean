import GuestSim.Text.Numeral
import GuestSim.Text.Quoted

/-! Configuration of a simulator from named variables. -/

namespace GuestSim

structure Config where
  /-- The most guest instructions in one unit. -/
  maxUnitInstructions : UInt32 := 128
  coreId : UInt32 := 0
  clusterId : UInt32 := 0
  /-- Ask the debugger before every instruction. -/
  debugging : Bool := false
  /-- Keep a listing of the unit compiled last. -/
  dumpListing : Bool := false
  /-- Check the instruction budget before every instruction, and not only between units. -/
  preciseLimit : Bool := true
  verifier : Bool := false
  optLevel : String := "speed_and_size"
deriving DecidableEq, Repr

inductive ConfigError where
  | invalidValue (name value : String)
  | zero (name : String)
deriving DecidableEq, Repr

def ConfigError.message : ConfigError → String
  | .invalidValue name value =>
    "error parsing `" ++ name ++ "`: invalid value " ++ Text.quote value
  | .zero name => "`" ++ name ++ "` must be at least 1"

namespace Config

/-- The optimisation levels that a code generator knows. -/
def optLevels : List String := ["none", "speed", "speed_and_size"]

/-- A 32-bit number, if the variable is set. -/
def number? (var : String → Option String) (name : String) :
    Except ConfigError (Option UInt32) :=
  match var name with
  | none => .ok none
  | some value =>
    match Numeral.word? value with
    | some n => if n.toNat < UInt32.size then .ok (some n.toUInt32)
      else .error (.invalidValue name value)
    | none => .error (.invalidValue name value)

/-- As `number?`, but zero is refused. -/
def positive? (var : String → Option String) (name : String) :
    Except ConfigError (Option UInt32) := do
  let value ← number? var name
  if value = some 0 then .error (.zero name) else return value

/-- One of the known levels, if the variable is set. -/
def optLevel? (var : String → Option String) (name : String) :
    Except ConfigError (Option String) :=
  match var name with
  | none => .ok none
  | some level => if optLevels.contains level then .ok (some level)
    else .error (.invalidValue name level)

/-- The configuration that variables describe; the first invalid one is the error. -/
def ofVars (var : String → Option String) : Except ConfigError Config := do
  let standard : Config := {}
  let maxUnitInstructions ← positive? var "TESSEL_MAX_UNIT_INSTRUCTIONS"
  let coreId ← number? var "TESSEL_CORE_ID"
  let clusterId ← number? var "TESSEL_CLUSTER_ID"
  let optLevel ← optLevel? var "TESSEL_OPT_LEVEL"
  return {
    maxUnitInstructions := maxUnitInstructions.getD standard.maxUnitInstructions
    coreId := coreId.getD standard.coreId
    clusterId := clusterId.getD standard.clusterId
    debugging := (var "TESSEL_DEBUG").isSome
    dumpListing := (var "TESSEL_DUMP_IL").isSome
    preciseLimit := (var "TESSEL_IMPRECISE_LIMIT").isNone
    verifier := (var "TESSEL_ENABLE_JIT_VERIFIER").isSome
    optLevel := optLevel.getD standard.optLevel }

end Config

end GuestSim

import GuestSim.CodeUnit.Build
import GuestSim.Config

/-! Compiled units by cluster and physical address, with an account of all code that was compiled
and not yet freed. -/

namespace GuestSim

/-- A unit that can be run. -/
structure CodeUnit extends Draft where
  phys : UInt64
  /-- The number of units compiled before it. -/
  serial : Nat

/-- Where a unit is kept. -/
structure UnitKey where
  cluster : UInt32
  phys : UInt64
deriving DecidableEq, Repr

/-- A unit whose code takes up memory. -/
structure Declared where
  key : UnitKey
  serial : Nat
deriving DecidableEq, Repr

namespace Declared

/-- The serial number keeps names apart when an address is compiled again. -/
def symbol (unit : Declared) : String :=
  "unit_c" ++ toString unit.key.cluster.toNat ++ "_" ++ Numeral.paddedHex 16 unit.key.phys.toNat
    ++ "_" ++ toString unit.serial

/-- The symbol, the cluster and the physical address, as a map file has them. -/
def mappingLine (unit : Declared) : String :=
  unit.symbol ++ "," ++ toString unit.key.cluster.toNat ++ ","
    ++ Numeral.hex unit.key.phys.toNat

end Declared

inductive BuildError where
  /-- The instruction at the start of the unit could not be generated. -/
  | emit (e : EmitError)
  /-- The compiler rejected the unit. -/
  | rejected (addr : UInt64)
deriving DecidableEq, Repr

/-- A code generator cannot be set up with an option of this name as it is. -/
structure InitError where
  option : String
deriving DecidableEq, Repr

/-- What a cache leaves to its compiler to decide. -/
structure Compiler where
  /-- Whether the code of a unit can be compiled. -/
  accepts : Declared → Draft → Bool
  /-- Whether the compiler can be set up anew, when so many units have been compiled. -/
  renew : Nat → Except InitError Unit

/-- A compiler that checks the types of units, if it is asked to, and nothing else. -/
def Compiler.standard (config : Config) : Compiler where
  accepts _ draft := !config.verifier || draft.isWellTyped
  renew _ := .ok ()

/-- None of the counters gets higher than the number of calls made on the cache. -/
structure Cache where
  compiler : Compiler
  live : List (UnitKey × CodeUnit) := []
  /-- Lookups that found a unit. -/
  hits : Nat := 0
  /-- Lookups that had to build one. -/
  misses : Nat := 0
  /-- Units compiled since the cache was made. -/
  compiled : Nat := 0
  /-- Units discarded since the last reset, whose code is not freed yet. -/
  dead : Nat := 0
  /-- Units compiled since the last reset, in order. -/
  declared : Array Declared := #[]
  /-- The listing of the last unit handed to the compiler, if listings are wanted. -/
  listing : Option (List String) := none

namespace Cache

def ofConfig (config : Config) (compiler : Compiler := .standard config) :
    Except InitError Cache :=
  if Config.optLevels.contains config.optLevel then
    .ok { compiler, listing := if config.dumpListing then some [] else none }
  else .error ⟨"opt_level"⟩

def lookup (cache : Cache) (key : UnitKey) : Option CodeUnit :=
  cache.live.lookup key

/-- The number of units of a cluster. -/
def size (cache : Cache) (cluster : UInt32) : Nat :=
  cache.live.countP (·.1.cluster = cluster)

/-- Discards the unit at a key, if there is one. -/
def remove (cache : Cache) (key : UnitKey) : Cache :=
  if (cache.lookup key).isSome then
    { cache with live := cache.live.filter (·.1 ≠ key), dead := cache.dead + 1 }
  else cache

/-- Enters a unit, in the place of one with the same key. -/
def insert (cache : Cache) (key : UnitKey) (unit : CodeUnit) : Cache :=
  let cache := cache.remove key
  { cache with live := (key, unit) :: cache.live }

/-- Compiles a unit. A listing is made before the compiler sees it. -/
def define (cache : Cache) (key : UnitKey) (draft : Draft) :
    Except BuildError CodeUnit × Cache :=
  let unit : Declared := ⟨key, cache.compiled⟩
  let cache := { cache with listing := cache.listing.map fun _ => draft.listing unit.symbol }
  if cache.compiler.accepts unit draft then
    (.ok { draft with phys := key.phys, serial := cache.compiled },
      { cache with compiled := cache.compiled + 1, declared := cache.declared.push unit })
  else (.error (.rejected key.phys), cache)

/-- The unit for `key`; if there is none, what `build` makes is compiled and kept. -/
def getOrBuild {σ : Type} (cache : Cache) (key : UnitKey)
    (build : σ → Except EmitError Draft × σ) (s : σ) :
    Except BuildError CodeUnit × Cache × σ :=
  match cache.lookup key with
  | some unit => (.ok unit, { cache with hits := cache.hits + 1 }, s)
  | none =>
    let cache := { cache with misses := cache.misses + 1 }
    match build s with
    | (.error e, s) => (.error (.emit e), cache, s)
    | (.ok draft, s) =>
      match cache.define key draft with
      | (.error e, cache) => (.error e, cache, s)
      | (.ok unit, cache) => (.ok unit, cache.insert key unit, s)

/-- Discards every unit of a cluster. -/
def flush (cache : Cache) (cluster : UInt32) : Cache :=
  { cache with
    live := cache.live.filter (·.1.cluster ≠ cluster)
    dead := cache.dead + cache.size cluster }

/-- Discards what the outcome of a unit asks for. -/
def conclude (cache : Cache) (cluster : UInt32) (unit : CodeUnit) : Cache :=
  match unit.outcome with
  | .flush => cache.flush cluster
  | .evict => cache.remove ⟨cluster, unit.phys⟩
  | .next | .branch => cache

/-- Whether the number of dead units is a word, as a counter needs it to be. -/
def isCountable (cache : Cache) : Bool := cache.dead < UInt64.size

/-- Whether so much code is dead that it should be freed. -/
def shouldPurge (cache : Cache) : Bool :=
  0x1000 < cache.dead || (0x100 < cache.dead && cache.live.length < cache.dead)

/-- The cache without any code. -/
def cleared (cache : Cache) : Cache :=
  { cache with live := [], dead := 0, declared := #[] }

/-- Frees all code. If the compiler cannot be set up anew, everything stays. -/
def reset (cache : Cache) : Except InitError Cache :=
  (cache.compiler.renew cache.compiled).map fun _ => cache.cleared

/-- The units of a cluster that start in a range of addresses, in ascending order. -/
def unitsWithin (cache : Cache) (cluster : UInt32) (start len : Nat) : List CodeUnit :=
  let units := (cache.live.filter fun (key, _) =>
    key.cluster = cluster ∧ start ≤ key.phys.toNat ∧ key.phys.toNat < start + len).map (·.2)
  units.mergeSort fun a b => a.phys ≤ b.phys

end Cache

end GuestSim

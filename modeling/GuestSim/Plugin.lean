import GuestSim.SyncMask

/-! Plugins, which generated code calls at the boundaries they asked for. -/

namespace GuestSim

/-- What a plugin is told. -/
structure Notice where
  coreId : UInt32
  clusterId : UInt32
  phase : SyncMask
  /-- Position of the instruction in its unit. -/
  ordinal : UInt32
deriving DecidableEq, Repr

/-- A plugin is known by a label, and answers the offered version with the boundaries that it
wants to observe, or declines. -/
structure Plugin where
  label : Nat
  handshake : String → Option SyncMask

/-- The plugins that accepted, in the order of acceptance. -/
structure PluginTable where
  entries : Array (SyncMask × Plugin) := #[]

namespace PluginTable

/-- The version offered to plugins. -/
def version : String := "1.0"

def size (table : PluginTable) : Nat := table.entries.size

/-- Keeps the plugin if it accepts and an identifier is left for it. -/
def register (table : PluginTable) (plugin : Plugin) : Option UInt32 × PluginTable :=
  match plugin.handshake version with
  | none => (none, table)
  | some mask =>
    if table.size < UInt32.size then
      (some (UInt32.ofNat table.size), ⟨table.entries.push (mask, plugin)⟩)
    else (none, table)

/-- The identifiers in ascending order, each with the boundaries its plugin observes. -/
def masks (table : PluginTable) : List (UInt32 × SyncMask) :=
  table.entries.toList.zipIdx.map fun ((mask, _), id) => (UInt32.ofNat id, mask)

def observers (table : PluginTable) (phase : SyncMask) : List UInt32 :=
  (table.masks.filter fun (_, mask) => mask.intersects phase).map (·.1)

def get? (table : PluginTable) (id : UInt32) : Option Plugin :=
  table.entries[id.toNat]?.map (·.2)

end PluginTable

end GuestSim

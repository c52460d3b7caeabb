import GuestSim.Mini.Core
import GuestSim.Proofs.Bytes

/-! # Memory of the small architecture as a map of bytes

Memory may reach past the last address that 64 bits can name, so a byte has a natural number as its
address. Reads and writes are checked against that map as a whole: an access that leaves memory at
either end fails, wherever its first byte lies. -/

namespace GuestSim.Mini

/-! ## Maps of bytes -/

/-- What is at each address; nothing, where there is no memory. -/
def ByteMap := Nat → Option UInt8

namespace ByteMap

/-- The number whose bytes stand at `addr` and behind it, the lowest first. -/
def value (map : ByteMap) (addr len : Nat) : Nat :=
  ∑ i ∈ Finset.range len, ((map (addr + i)).getD 0).toNat * 256 ^ i

def update (map : ByteMap) (addr len value : Nat) : ByteMap := fun a =>
  if addr ≤ a ∧ a < addr + len then some (UInt8.ofNat (value / 256 ^ (a - addr))) else map a

end ByteMap

namespace Core

def byteMap (core : Core) : ByteMap := fun a =>
  if core.ramBase.toNat ≤ a then core.ram[a - core.ramBase.toNat]? else none

/-- The memory of a core has all of the `len` bytes at `addr`. -/
def Covers (core : Core) (addr : UInt64) (len : Nat) : Prop :=
  core.ramBase.toNat ≤ addr.toNat ∧ addr.toNat - core.ramBase.toNat + len ≤ core.ram.size

instance (core : Core) (addr : UInt64) (len : Nat) : Decidable (core.Covers addr len) :=
  inferInstanceAs (Decidable (_ ∧ _))

def withNumber (core : Core) (addr : UInt64) (len value : Nat) : Core :=
  { core with ram := Bytes.store core.ram (addr.toNat - core.ramBase.toNat) len value }

variable {core : Core} {addr : UInt64} {len : Nat}

theorem ramOffset?_of_covers (h : core.Covers addr len) :
    core.ramOffset? addr len = some (addr.toNat - core.ramBase.toNat) :=
  if_pos h

theorem ramOffset?_of_not_covers (h : ¬core.Covers addr len) : core.ramOffset? addr len = none :=
  if_neg h

theorem readMem_of_covers {addr : VirtAddr} (h : core.Covers addr.val len) :
    core.readMem addr len = .ok (UInt64.ofNat
      (Bytes.load core.ram (addr.val.toNat - core.ramBase.toNat) len)) := by
  rw [readMem, ramOffset?_of_covers h]

theorem writeMem_of_covers {addr : VirtAddr} (hhalt : addr.val ≠ haltAddr)
    (h : core.Covers addr.val len) (value : UInt64) :
    core.writeMem addr len value = (.ok (), core.withNumber addr.val len value.toNat) := by
  rw [writeMem, if_neg hhalt, ramOffset?_of_covers h]
  rfl

theorem writeMem_of_not_covers {addr : VirtAddr} (hhalt : addr.val ≠ haltAddr)
    (h : ¬core.Covers addr.val len) (value : UInt64) :
    core.writeMem addr len value = (.error (.accessTrap Cause.storeFault addr.val), core) := by
  rw [writeMem, if_neg hhalt, ramOffset?_of_not_covers h]

theorem byteMap_add (h : core.ramBase.toNat ≤ addr.toNat) (i : Nat) :
    core.byteMap (addr.toNat + i) = core.ram[addr.toNat - core.ramBase.toNat + i]? := by
  rw [byteMap, if_pos (Nat.le_add_right_of_le h), Nat.sub_add_comm h]

theorem value_byteMap (h : core.ramBase.toNat ≤ addr.toNat) (len : Nat) :
    core.byteMap.value addr.toNat len =
      Bytes.load core.ram (addr.toNat - core.ramBase.toNat) len := by
  rw [ByteMap.value, Bytes.load_eq_sum]
  refine Finset.sum_congr rfl fun i _ => ?_
  rw [byteMap_add h, Array.getD_eq_getD_getElem?]

theorem covers_withNumber (core : Core) (addr : UInt64) (len value : Nat) :
    (core.withNumber addr len value).Covers = core.Covers := by
  funext addr' len'
  simp only [Covers, withNumber, Bytes.size_store]

/-- A number is read back from where it was put, cut to the bytes there. -/
theorem readMem_withNumber {addr : VirtAddr} (h : core.Covers addr.val len) (value : Nat) :
    (core.withNumber addr.val len value).readMem addr len =
      .ok (UInt64.ofNat (value % 256 ^ len)) := by
  have hcovers : (core.withNumber addr.val len value).Covers addr.val len := by
    rwa [covers_withNumber]
  have hload : Bytes.load (core.withNumber addr.val len value).ram
      (addr.val.toNat - (core.withNumber addr.val len value).ramBase.toNat) len =
        value % 256 ^ len :=
    Bytes.load_store_self h.2 value
  rw [readMem_of_covers hcovers, hload]

/-- A number in memory is an update of the map. -/
theorem byteMap_withNumber (h : core.Covers addr len) (value : Nat) :
    (core.withNumber addr len value).byteMap = core.byteMap.update addr.toNat len value := by
  obtain ⟨hbase, hend⟩ := h
  funext a
  change (if core.ramBase.toNat ≤ a then (Bytes.store _ _ _ _)[a - core.ramBase.toNat]?
    else none) = _
  simp only [byteMap, ByteMap.update, Bytes.getElem?_store]
  by_cases hin : addr.toNat ≤ a ∧ a < addr.toNat + len
  · have hplace : a - core.ramBase.toNat - (addr.toNat - core.ramBase.toNat) = a - addr.toNat := by
      omega
    have hsize : a - core.ramBase.toNat < core.ram.size := by omega
    rw [if_pos (by omega), if_pos (by omega), if_pos hin, hplace,
      Array.getElem?_eq_getElem hsize, Option.map_some]
  · rw [if_neg hin]
    by_cases hlow : core.ramBase.toNat ≤ a
    · rw [if_pos hlow, if_neg (by omega), if_pos hlow]
    · rw [if_neg hlow, if_neg hlow]

end Core

/-! ## Accesses -/

/-- The `len` bytes at `addr` were asked of the memory of `core`. They make up `number` if they are
all there; if not, the failure names the address, and a fetch has a cause of its own. -/
structure Core.Answers (core : Core) (addr : VirtAddr) (len number : Nat)
    (answer : Except Exception UInt64) : Prop where
  ok_iff : ∀ value, answer = .ok value ↔ core.Covers addr.val len ∧ value.toNat = number
  error_iff : ∀ e, answer = .error e ↔ ¬core.Covers addr.val len ∧
    e = .accessTrap (if addr.access = .fetch ∨ addr.access = .debugFetch then Cause.fetchFault
      else Cause.loadFault) addr.val

theorem Core.answers_readMem (core : Core) (addr : VirtAddr) {len number : Nat} (hlen : len ≤ 8)
    (hnumber : core.Covers addr.val len →
      Bytes.load core.ram (addr.val.toNat - core.ramBase.toNat) len = number) :
    core.Answers addr len number (core.readMem addr len) := by
  have hcause : (if addr.access = .fetch ∨ addr.access = .debugFetch then Cause.fetchFault
      else Cause.loadFault) = if addr.access.isFetch then Cause.fetchFault else Cause.loadFault := by
    cases addr.access <;> rfl
  by_cases h : core.Covers addr.val len
  · have hread : core.readMem addr len = .ok (UInt64.ofNat number) := by
      rw [readMem_of_covers h, hnumber h]
    have hlt : number < 2 ^ 64 := by
      calc number
        _ = Bytes.load core.ram (addr.val.toNat - core.ramBase.toNat) len := (hnumber h).symm
        _ < 256 ^ len := Bytes.load_lt _ _ _
        _ ≤ 256 ^ 8 := Nat.pow_le_pow_right (by decide) hlen
        _ = 2 ^ 64 := by decide
    rw [hread]
    refine ⟨fun value => ?_, fun e => ?_⟩
    · rw [Except.ok.injEq, ← UInt64.toNat_inj, UInt64.toNat_ofNat_of_lt' hlt]
      exact ⟨fun hvalue => ⟨h, hvalue.symm⟩, fun hvalue => hvalue.2.symm⟩
    · simp [h]
  · have hread : core.readMem addr len = .error (.accessTrap
        (if addr.access.isFetch then Cause.fetchFault else Cause.loadFault) addr.val) := by
      rw [readMem, ramOffset?_of_not_covers h]
    rw [hread]
    refine ⟨fun value => ?_, fun e => ?_⟩
    · simp [h]
    · rw [Except.error.injEq, hcause]
      exact ⟨fun he => ⟨h, he.symm⟩, fun he => he.2.symm⟩

/-- The answer depends on the core through the extent of its memory. -/
theorem Core.Answers.of_covers {core later : Core} {addr : VirtAddr} {len number : Nat}
    {answer : Except Exception UInt64} (hcovers : later.Covers = core.Covers)
    (h : later.Answers addr len number answer) : core.Answers addr len number answer where
  ok_iff value := hcovers ▸ h.ok_iff value
  error_iff e := hcovers ▸ h.error_iff e

/-- A write to memory, of no more bytes than a word has. -/
structure Store where
  addr : VirtAddr
  len : Nat
  value : UInt64
  len_le : len ≤ 8

namespace Store

def perform (store : Store) (core : Core) : Except Exception Unit × Core :=
  core.writeMem store.addr store.len store.value

/-- What a store makes of the bytes of `core`. The address to halt at takes no bytes, even where it
lies in memory. -/
def effect (core : Core) (map : ByteMap) (store : Store) : ByteMap :=
  if store.addr.val ≠ haltAddr ∧ core.Covers store.addr.val store.len then
    map.update store.addr.val.toNat store.len store.value.toNat
  else map

/-- What a write does to a core, in each of the three cases. -/
structure Spec (store : Store) (core : Core) : Prop where
  halted : store.addr.val = haltAddr →
    store.perform core = (.error (.stopped store.value.toUInt32.toInt32), core)
  refused : store.addr.val ≠ haltAddr → ¬core.Covers store.addr.val store.len →
    store.perform core = (.error (.accessTrap Cause.storeFault store.addr.val), core)
  done : store.addr.val ≠ haltAddr → core.Covers store.addr.val store.len →
    ∃ ram, store.perform core = (.ok (), { core with ram }) ∧ ram.size = core.ram.size ∧
      { core with ram }.byteMap =
        core.byteMap.update store.addr.val.toNat store.len store.value.toNat

theorem spec (store : Store) (core : Core) : store.Spec core where
  halted h := by rw [perform, Core.writeMem, if_pos h]
  refused hhalt hcovers := Core.writeMem_of_not_covers hhalt hcovers _
  done hhalt hcovers :=
    ⟨_, Core.writeMem_of_covers hhalt hcovers _, Bytes.size_store _ _ _ _,
      Core.byteMap_withNumber hcovers _⟩

/-- A write has its effect on the bytes and leaves memory where it is. -/
theorem perform_map (store : Store) (core : Core) :
    (store.perform core).2.byteMap = store.effect core core.byteMap ∧
      (store.perform core).2.Covers = core.Covers := by
  unfold effect
  by_cases hhalt : store.addr.val = haltAddr
  · rw [store.spec core |>.halted hhalt, if_neg fun h => h.1 hhalt]
    exact ⟨rfl, rfl⟩
  · by_cases hcovers : core.Covers store.addr.val store.len
    · obtain ⟨ram, hperform, hsize, hmap⟩ := (store.spec core).done hhalt hcovers
      rw [hperform, if_pos ⟨hhalt, hcovers⟩]
      refine ⟨hmap, ?_⟩
      funext addr len
      simp only [Core.Covers, hsize]
    · rw [store.spec core |>.refused hhalt hcovers, if_neg fun h => hcovers h.2]
      exact ⟨rfl, rfl⟩

end Store

namespace Core

def after (core : Core) (stores : List Store) : Core :=
  stores.foldl (fun core store => (store.perform core).2) core

def mapAfter (core : Core) (stores : List Store) : ByteMap :=
  stores.foldl (Store.effect core) core.byteMap

theorem after_map (core : Core) (stores : List Store) :
    (core.after stores).byteMap = core.mapAfter stores ∧ (core.after stores).Covers = core.Covers := by
  induction stores generalizing core with
  | nil => exact ⟨rfl, rfl⟩
  | cons store stores ih =>
      obtain ⟨hmap, hcovers⟩ := store.perform_map core
      obtain ⟨ihmap, ihcovers⟩ := ih (store.perform core).2
      -- What a later store does depends on the core through the extent of its memory only.
      have heffect : Store.effect (store.perform core).2 = Store.effect core := by
        funext map later
        simp only [Store.effect, hcovers]
      refine ⟨ihmap.trans ?_, ihcovers.trans hcovers⟩
      simp only [mapAfter, List.foldl_cons, heffect, hmap]

end Core

/-- Memory is a map of bytes in little-endian order. -/
theorem memory_is_byte_map (core : Core) :
    (∀ addr len, len ≤ 8 → core.Answers addr len
      (∑ i ∈ Finset.range len,
        (core.ram.getD (addr.val.toNat - core.ramBase.toNat + i) 0).toNat * 256 ^ i)
      (core.readMem addr len)) ∧
    (∀ store : Store, store.Spec core) ∧
    ∀ stores addr len, len ≤ 8 → core.Answers addr len
      ((core.mapAfter stores).value addr.val.toNat len) ((core.after stores).readMem addr len) := by
  refine ⟨fun addr len hlen => ?_, fun store => store.spec core, fun stores addr len hlen => ?_⟩
  · exact core.answers_readMem addr hlen fun _ => Bytes.load_eq_sum _ _ _
  · obtain ⟨hmap, hcovers⟩ := core.after_map stores
    have hanswers := (core.after stores).answers_readMem addr hlen fun h =>
      (Core.value_byteMap h.1 len).symm
    rw [hmap] at hanswers
    exact hanswers.of_covers hcovers

/-- Memory across the last address: what a word is after it was written twice, once halfway. -/
theorem memory_is_byte_map_wrapping :
    let core := Core.new 0xfffffffffffffff8 16
    let stores : List Store :=
      [⟨⟨.write, 0, 0xfffffffffffffffc⟩, 8, 0x8877665544332211, by decide⟩,
       ⟨⟨.write, 0, 0xffffffffffffffff⟩, 2, 0xaabbcc, by decide⟩]
    (core.after stores).readMem ⟨.read, 0, 0xfffffffffffffffe⟩ 4 = .ok 0x66bbcc33 := by
  intro core stores
  exact (((memory_is_byte_map core).2.2 stores _ _ (by decide)).ok_iff _).2
    ⟨by decide, by decide⟩

end GuestSim.Mini

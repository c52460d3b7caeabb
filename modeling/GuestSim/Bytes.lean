/-! Byte arrays as little-endian memory. Bytes outside the array read as zero and are not written. -/

namespace GuestSim.Bytes

def zeros (size : Nat) : Array UInt8 := Array.replicate size 0

/-- The number whose digits in base 256 are the `len` bytes from `start` on, lowest first. -/
def load (bytes : Array UInt8) (start : Nat) : Nat → Nat
  | 0 => 0
  | len + 1 => (bytes.getD start 0).toNat + 256 * load bytes (start + 1) len

theorem load_lt_shiftLeft (bytes : Array UInt8) (start len : Nat) :
    load bytes start len < 1 <<< (8 * len) := by
  induction len generalizing start with
  | zero => exact Nat.zero_lt_one
  | succ len ih =>
    have hbyte := (bytes.getD start 0).toNat_lt
    have hrest := ih (start + 1)
    have hshift : 1 <<< (8 * (len + 1)) = 256 * 1 <<< (8 * len) := by
      rw [Nat.mul_succ, Nat.shiftLeft_add, Nat.shiftLeft_eq _ 8, Nat.mul_comm]
    rw [load, hshift]
    omega

/-- Replaces the `len` bytes from `start` on by the low digits of `value` in base 256. -/
def store (bytes : Array UInt8) (start : Nat) : Nat → Nat → Array UInt8
  | 0, _ => bytes
  | len + 1, value =>
    store (bytes.setIfInBounds start (UInt8.ofNat value)) (start + 1) len (value / 256)

theorem size_store (bytes : Array UInt8) (start len value : Nat) :
    (store bytes start len value).size = bytes.size := by
  induction len generalizing bytes start value with
  | zero => rfl
  | succ len ih => rw [store, ih, Array.size_setIfInBounds]

/-- `load` from a block whose size is known. -/
def peek {size : Nat} (bytes : Vector UInt8 size) (start : Nat) : Nat → Nat
  | 0 => 0
  | len + 1 =>
    (if h : start < size then bytes[start] else 0).toNat + 256 * peek bytes (start + 1) len

theorem peek_eq_load {size : Nat} (bytes : Vector UInt8 size) (start len : Nat) :
    peek bytes start len = load bytes.toArray start len := by
  induction len generalizing start with
  | zero => rfl
  | succ len ih =>
    rw [peek, load, ih]
    by_cases h : start < size <;> simp [Array.getD, h]

/-- `store` to a block whose size is known. -/
def poke {size : Nat} (bytes : Vector UInt8 size) (start : Nat) : Nat → Nat → Vector UInt8 size
  | 0, _ => bytes
  | len + 1, value =>
    poke (if h : start < size then bytes.set start (UInt8.ofNat value) else bytes) (start + 1) len
      (value / 256)

theorem toArray_poke {size : Nat} (bytes : Vector UInt8 size) (start len value : Nat) :
    (poke bytes start len value).toArray = store bytes.toArray start len value := by
  induction len generalizing bytes start value with
  | zero => rfl
  | succ len ih =>
    rw [poke, store, ih]
    by_cases h : start < size <;> simp [Array.setIfInBounds, h]

/-- The `len` low digits of `value` in base 256, lowest first. -/
def digits : (len value : Nat) → List UInt8
  | 0, _ => []
  | len + 1, value => UInt8.ofNat value :: digits len (value / 256)

@[simp] theorem length_digits (len value : Nat) : (digits len value).length = len := by
  induction len generalizing value with
  | zero => rfl
  | succ len ih => rw [digits, List.length_cons, ih]

/-- The digits of a number in memory are the bytes it is read from. -/
theorem digits_load (bytes : Array UInt8) {start len : Nat} (h : start + len ≤ bytes.size) :
    digits len (load bytes start len) = (bytes.toList.drop start).take len := by
  induction len generalizing start with
  | zero => rfl
  | succ len ih =>
    have hsize : start < bytes.size := by omega
    have hstart : start < bytes.toList.length := hsize
    have hbyte : bytes.getD start 0 = bytes.toList[start] := by simp [Array.getD, hsize]
    have hlt := (bytes.toList[start]).toNat_lt
    have hfirst : UInt8.ofNat (bytes.toList[start].toNat + 256 * load bytes (start + 1) len) =
        bytes.toList[start] := by
      apply UInt8.toNat_inj.mp
      rw [UInt8.toNat_ofNat', Nat.add_mul_mod_self_left]
      exact Nat.mod_eq_of_lt hlt
    have hrest : (bytes.toList[start].toNat + 256 * load bytes (start + 1) len) / 256 =
        load bytes (start + 1) len := by omega
    rw [load, hbyte, digits, hfirst, hrest, ih (by omega), List.drop_eq_getElem_cons hstart,
      List.take_succ_cons]

/-- Words of four bytes that lie side by side. -/
theorem flatMap_digits_load (bytes : Array UInt8) (start : Nat) {n : Nat}
    (h : start + 4 * n ≤ bytes.size) :
    (List.range n).flatMap (fun i => digits 4 (load bytes (start + 4 * i) 4)) =
      (bytes.toList.drop start).take (4 * n) := by
  induction n with
  | zero => rfl
  | succ n ih =>
    rw [List.range_succ, List.flatMap_append, ih (by omega), List.flatMap_singleton,
      digits_load bytes (by omega), Nat.mul_succ, List.take_add, List.drop_drop]

/-- Copies `data` over the bytes from `start` on. -/
def copy (bytes : Array UInt8) (start : Nat) : List UInt8 → Array UInt8
  | [] => bytes
  | byte :: data => copy (bytes.setIfInBounds start byte) (start + 1) data

end GuestSim.Bytes

import Mathlib.Algebra.BigOperators.Ring.Finset
import GuestSim.Bytes

/-! # Byte arrays, byte by byte

A number in memory is the sum of its bytes at their places, and a store changes the bytes it covers
to the digits of the value and no other. So a number that was stored is read back, cut to the bytes
it was stored in, and what lies beside it is not touched. -/

namespace GuestSim.Bytes

theorem load_lt (bytes : Array UInt8) (start len : Nat) : load bytes start len < 256 ^ len := by
  induction len generalizing start with
  | zero => simp [load]
  | succ len ih =>
      have hbyte := (bytes.getD start 0).toNat_lt
      have hrest := ih (start + 1)
      rw [load, Nat.pow_succ]
      omega

theorem load_eq_sum (bytes : Array UInt8) (start len : Nat) :
    load bytes start len = ∑ i ∈ Finset.range len, (bytes.getD (start + i) 0).toNat * 256 ^ i := by
  induction len generalizing start with
  | zero => rfl
  | succ len ih =>
      have hshift (i : Nat) : (bytes.getD (start + (i + 1)) 0).toNat * 256 ^ (i + 1) =
          256 * ((bytes.getD (start + 1 + i) 0).toNat * 256 ^ i) := by
        rw [Nat.pow_succ', Nat.mul_left_comm, Nat.add_assoc start 1 i, Nat.add_comm 1 i]
      rw [load, ih, Finset.sum_range_succ', Finset.mul_sum, Nat.add_comm]
      simp only [hshift, Nat.add_zero, Nat.pow_zero, Nat.mul_one]

/-- The digit of a value that a store puts into place `i`. -/
theorem getElem?_store (bytes : Array UInt8) (start len value i : Nat) :
    (store bytes start len value)[i]? =
      if start ≤ i ∧ i < start + len then
        bytes[i]?.map fun _ => UInt8.ofNat (value / 256 ^ (i - start))
      else bytes[i]? := by
  induction len generalizing bytes start value with
  | zero =>
      rw [store, if_neg (by omega)]
  | succ len ih =>
      rw [store, ih]
      by_cases hi : i = start
      · -- The first byte is written before the others, which lie behind it.
        subst hi
        rw [if_neg (by omega), if_pos (by omega), Array.getElem?_setIfInBounds_self]
        by_cases hsize : i < bytes.size <;> simp [hsize]
      · have hother : (bytes.setIfInBounds start (UInt8.ofNat value))[i]? = bytes[i]? :=
          Array.getElem?_setIfInBounds_ne fun h => hi h.symm
        rw [hother]
        by_cases hin : start + 1 ≤ i ∧ i < start + 1 + len
        · have hdigit : value / 256 / 256 ^ (i - (start + 1)) = value / 256 ^ (i - start) := by
            rw [Nat.div_div_eq_div_mul, ← Nat.pow_succ']
            congr 2
            omega
          rw [if_pos hin, if_pos (by omega), hdigit]
        · rw [if_neg hin, if_neg (by omega)]

theorem store_mod (bytes : Array UInt8) (start len value : Nat) :
    store bytes start len (value % 256 ^ len) = store bytes start len value := by
  induction len generalizing bytes start value with
  | zero => rfl
  | succ len ih =>
      have hbyte : UInt8.ofNat (value % 256 ^ (len + 1)) = UInt8.ofNat value := by
        apply UInt8.toNat_inj.mp
        rw [UInt8.toNat_ofNat', UInt8.toNat_ofNat', Nat.pow_succ']
        exact Nat.mod_mul_right_mod value 256 (256 ^ len)
      have hrest : value % 256 ^ (len + 1) / 256 = value / 256 % 256 ^ len := by
        rw [Nat.pow_succ', Nat.mod_mul_right_div_self]
      rw [store, store, hbyte, hrest, ih]

/-! ## Reading back -/

theorem load_congr {a b : Array UInt8} {start len : Nat}
    (h : ∀ i, start ≤ i → i < start + len → a[i]? = b[i]?) :
    load a start len = load b start len := by
  induction len generalizing start with
  | zero => rfl
  | succ len ih =>
      have hfirst := h start (Nat.le_refl _) (by omega)
      have hrest : load a (start + 1) len = load b (start + 1) len := by
        apply ih
        intro i hi hi'
        exact h i (by omega) (by omega)
      rw [load, load, hrest, Array.getD_eq_getD_getElem?, Array.getD_eq_getD_getElem?, hfirst]

/-- What was stored is read back, cut to the bytes that it was stored in. -/
theorem load_store_self {bytes : Array UInt8} {start len : Nat} (h : start + len ≤ bytes.size)
    (value : Nat) : load (store bytes start len value) start len = value % 256 ^ len := by
  induction len generalizing bytes start value with
  | zero => rw [load, Nat.pow_zero, Nat.mod_one]
  | succ len ih =>
      have hbyte : (store bytes start (len + 1) value).getD start 0 = UInt8.ofNat value := by
        rw [Array.getD_eq_getD_getElem?, getElem?_store, if_pos (by omega),
          Array.getElem?_eq_getElem (by omega), Nat.sub_self, Nat.pow_zero, Nat.div_one]
        rfl
      have hrest : load (store bytes start (len + 1) value) (start + 1) len =
          value / 256 % 256 ^ len := by
        rw [store]
        apply ih
        rw [Array.size_setIfInBounds]
        omega
      calc load (store bytes start (len + 1) value) start (len + 1)
        _ = value % 256 + 256 * (value / 256 % 256 ^ len) := by
            rw [load, hbyte, hrest]
            rfl
        _ = value % 256 ^ (len + 1) := by rw [Nat.pow_succ', Nat.mod_mul]

/-- A store does not reach what lies beside it. -/
theorem load_store_of_apart (bytes : Array UInt8) {start len start' len' : Nat}
    (h : start + len ≤ start' ∨ start' + len' ≤ start) (value : Nat) :
    load (store bytes start len value) start' len' = load bytes start' len' := by
  apply load_congr
  intro i hi hi'
  rw [getElem?_store, if_neg (by omega)]

/-! ## Blocks of known size -/

section Sized

variable {size : Nat} (bytes : Vector UInt8 size)

theorem peek_lt (start len : Nat) : peek bytes start len < 256 ^ len := by
  rw [peek_eq_load]
  exact load_lt _ _ _

theorem poke_mod (start len value : Nat) :
    poke bytes start len (value % 256 ^ len) = poke bytes start len value := by
  apply Vector.toArray_inj.mp
  rw [toArray_poke, toArray_poke, store_mod]

theorem peek_poke_self {bytes : Vector UInt8 size} {start len : Nat} (h : start + len ≤ size)
    (value : Nat) : peek (poke bytes start len value) start len = value % 256 ^ len := by
  rw [peek_eq_load, toArray_poke, load_store_self (by rwa [bytes.size_toArray])]

theorem peek_poke_of_apart {start len start' len' : Nat}
    (h : start + len ≤ start' ∨ start' + len' ≤ start) (value : Nat) :
    peek (poke bytes start len value) start' len' = peek bytes start' len' := by
  rw [peek_eq_load, peek_eq_load, toArray_poke, load_store_of_apart _ h]

end Sized

/-! ## Digits -/

theorem load_append (front rest : List UInt8) (start len : Nat) :
    load (front ++ rest).toArray (front.length + start) len = load rest.toArray start len := by
  induction len generalizing start with
  | zero => rfl
  | succ len ih =>
      have hbyte : (front ++ rest).toArray.getD (front.length + start) 0 =
          rest.toArray.getD start 0 := by
        simp [Array.getD_eq_getD_getElem?, List.getElem?_append_right]
      rw [load, load, hbyte, Nat.add_assoc, ih]

theorem load_digits (len value : Nat) (rest : List UInt8) :
    load (digits len value ++ rest).toArray 0 len = value % 256 ^ len := by
  induction len generalizing value with
  | zero => rw [load, Nat.pow_zero, Nat.mod_one]
  | succ len ih =>
      have hrest := load_append [UInt8.ofNat value] (digits len (value / 256) ++ rest) 0 len
      rw [ih] at hrest
      calc load (digits (len + 1) value ++ rest).toArray 0 (len + 1)
        _ = value % 256 + 256 * (value / 256 % 256 ^ len) := by
            rw [← hrest]
            rfl
        _ = value % 256 ^ (len + 1) := by rw [Nat.pow_succ', Nat.mod_mul]

/-! ## Copies -/

theorem size_copy (bytes : Array UInt8) (start : Nat) (data : List UInt8) :
    (copy bytes start data).size = bytes.size := by
  induction data generalizing bytes start with
  | nil => rfl
  | cons byte data ih => rw [copy, ih, Array.size_setIfInBounds]

theorem copy_append (bytes : Array UInt8) (start : Nat) (front rest : List UInt8) :
    copy bytes start (front ++ rest) =
      copy (copy bytes start front) (start + front.length) rest := by
  induction front generalizing bytes start with
  | nil => rfl
  | cons byte front ih =>
      rw [List.cons_append, copy, copy, ih, List.length_cons, Nat.add_assoc, Nat.add_comm 1]

theorem getElem?_copy_of_outside (bytes : Array UInt8) {start i : Nat} {data : List UInt8}
    (h : i < start ∨ start + data.length ≤ i) : (copy bytes start data)[i]? = bytes[i]? := by
  induction data generalizing bytes start with
  | nil => rfl
  | cons byte data ih =>
      rw [List.length_cons] at h
      rw [copy, ih _ (by omega), Array.getElem?_setIfInBounds_ne (by omega)]

end GuestSim.Bytes

import Mathlib.Data.List.Forall2
import Mathlib.Data.Nat.Digits.Defs
import Mathlib.Tactic.Ring
import GuestSim.Text.Numeral

/-! # The grammar of numerals

A text is read if and only if it is a numeral of a number that fits in a word, and the word is that
number. A word is therefore read back from each way of writing it. -/

namespace GuestSim.Numeral

/-! ## Numerals -/

inductive Base where
  | binary
  | decimal
  | hexadecimal
deriving DecidableEq, Repr

namespace Base

def radix : Base → Nat
  | binary => 2
  | decimal => 10
  | hexadecimal => 16

def mark : Base → String
  | binary => "0b"
  | decimal => ""
  | hexadecimal => "0x"

def write (base : Base) (n : Nat) : String :=
  base.mark ++ String.ofList (Nat.toDigits base.radix n)

theorem radix_le (base : Base) : base.radix ≤ 16 := by
  cases base <;> decide

end Base

/-- The character is the digit `d`; the digits from ten on are letters of either case. -/
def IsDigit (radix : Nat) (c : Char) (d : Nat) : Prop :=
  d < radix ∧ (c = Nat.digitChar d ∨ c = (Nat.digitChar d).toUpper)

/-- One or more digits, the highest first, make up the number `n`. -/
def Digits (radix : Nat) (cs : List Char) (n : Nat) : Prop :=
  ∃ values, values ≠ [] ∧ List.Forall₂ (IsDigit radix) cs values ∧
    Nat.ofDigits radix values.reverse = n

/-- The text is a numeral of `n`: the mark of a base, an optional plus sign, and digits. -/
inductive Spells : String → Nat → Prop where
  | numeral (base : Base) {sign : String} {digits : List Char} {n : Nat}
      (hsign : sign = "" ∨ sign = "+") (hdigits : Digits base.radix digits n) :
      Spells (base.mark ++ sign ++ String.ofList digits) n

/-! ## Digits -/

theorem toNat_digitChar {d : Nat} (h : d < 16) :
    (Nat.digitChar d).toNat = if d < 10 then 48 + d else 87 + d := by
  decide +revert

theorem toNat_toUpper_digitChar {d : Nat} (h : d < 16) :
    (Nat.digitChar d).toUpper.toNat = if d < 10 then 48 + d else 55 + d := by
  decide +revert

theorem digit?_eq_some_iff {radix : Nat} (hradix : radix ≤ 16) (c : Char) (d : Nat) :
    digit? radix c = some d ↔ IsDigit radix c d := by
  have hle (a b : Char) : a ≤ b ↔ a.toNat ≤ b.toNat := Iff.rfl
  have hcodes : '0'.toNat = 48 ∧ '9'.toNat = 57 ∧ 'a'.toNat = 97 ∧ 'z'.toNat = 122 ∧
      'A'.toNat = 65 ∧ 'Z'.toNat = 90 := by decide
  unfold digit? IsDigit
  simp only [Option.filter_eq_some_iff, decide_eq_true_eq]
  by_cases hd : d < radix
  · have hd' : d < 16 := Nat.lt_of_lt_of_le hd hradix
    rw [← Char.toNat_inj, ← Char.toNat_inj, toNat_digitChar hd', toNat_toUpper_digitChar hd']
    simp only [hle, hcodes]
    grind
  · simp [hd]

theorem IsDigit.toNat {radix : Nat} (hradix : radix ≤ 16) {c : Char} {d : Nat}
    (h : IsDigit radix c d) :
    c.toNat = 48 + d ∨ 10 ≤ d ∧ (c.toNat = 87 + d ∨ c.toNat = 55 + d) := by
  obtain ⟨hd, rfl | rfl⟩ := h
  · rw [toNat_digitChar (by omega)]
    split <;> omega
  · rw [toNat_toUpper_digitChar (by omega)]
    split <;> omega

theorem Digits.ne_nil {radix : Nat} {cs : List Char} {n : Nat} (h : Digits radix cs n) :
    cs ≠ [] := by
  obtain ⟨values, hne, hvalues, -⟩ := h
  rintro rfl
  exact hne (List.forall₂_nil_left_iff.mp hvalues)

theorem Digits.isDigit_of_mem {radix : Nat} {cs : List Char} {n : Nat} (h : Digits radix cs n)
    {c : Char} (hc : c ∈ cs) : ∃ d, IsDigit radix c d := by
  obtain ⟨values, -, hvalues, -⟩ := h
  induction hvalues with
  | nil => simp at hc
  | cons hd _ ih =>
      rcases List.mem_cons.mp hc with rfl | hc
      · exact ⟨_, hd⟩
      · exact ih hc

/-- The accumulator stands for the digits in front of those that are left. -/
theorem digits?_eq_some_iff {radix : Nat} (hradix : radix ≤ 16) (acc : Nat) (cs : List Char)
    (n : Nat) :
    digits? radix acc cs = some n ↔
      ∃ values, List.Forall₂ (IsDigit radix) cs values ∧
        Nat.ofDigits radix values.reverse + radix ^ values.length * acc = n := by
  induction cs generalizing acc with
  | nil => simp [digits?]
  | cons c cs ih =>
      have hhorner (d : Nat) (values : List Nat) :
          Nat.ofDigits radix (d :: values).reverse + radix ^ (d :: values).length * acc =
            Nat.ofDigits radix values.reverse + radix ^ values.length * (acc * radix + d) := by
        rw [List.reverse_cons, Nat.ofDigits_append, Nat.ofDigits_singleton, List.length_reverse,
          List.length_cons, Nat.pow_succ]
        ring
      rw [digits?, Option.bind_eq_some_iff]
      simp only [ih, digit?_eq_some_iff hradix, List.forall₂_cons_left_iff]
      constructor
      · rintro ⟨d, hd, values, hvalues, rfl⟩
        exact ⟨d :: values, ⟨d, values, hd, hvalues, rfl⟩, hhorner d values⟩
      · rintro ⟨_, ⟨d, values, hd, hvalues, rfl⟩, rfl⟩
        exact ⟨d, hd, values, hvalues, (hhorner d values).symm⟩

theorem digits?_zero_eq_some_iff {radix : Nat} (hradix : radix ≤ 16) {cs : List Char}
    (hcs : cs ≠ []) (n : Nat) : digits? radix 0 cs = some n ↔ Digits radix cs n := by
  rw [digits?_eq_some_iff hradix]
  simp only [Nat.mul_zero, Nat.add_zero, Digits]
  refine exists_congr fun values => ⟨fun h => ⟨?_, h⟩, fun h => h.2⟩
  rintro rfl
  exact hcs (List.forall₂_nil_right_iff.mp h.1)

/-- No digits make up two numbers. -/
theorem Digits.unique {radix : Nat} (hradix : radix ≤ 16) {cs : List Char} {n m : Nat}
    (hn : Digits radix cs n) (hm : Digits radix cs m) : n = m := by
  have hne := hn.ne_nil
  rw [← digits?_zero_eq_some_iff hradix hne] at hn hm
  exact Option.some.inj (hn.symm.trans hm)

/-- Numbers can be told apart by their digits, however these are written. -/
theorem Digits.injective {radix : Nat} (hradix : radix ≤ 16) {write : Nat → List Char}
    (h : ∀ n, Digits radix (write n) n) : Function.Injective write := by
  intro n m heq
  have hn := h n
  rw [heq] at hn
  exact hn.unique hradix (h m)

/-! ## Signs and marks -/

theorem unsigned?_eq_some_iff {radix : Nat} (hradix : radix ≤ 16) (cs : List Char) (n : Nat) :
    unsigned? radix cs = some n ↔
      ∃ sign digits, (sign = [] ∨ sign = ['+']) ∧ Digits radix digits n ∧ cs = sign ++ digits := by
  constructor
  · intro h
    unfold unsigned? at h
    split at h
    · contradiction
    · contradiction
    · rename_i digits hne
      have hdigits : digits ≠ [] := fun hnil => hne (by rw [hnil])
      exact ⟨['+'], digits, .inr rfl, (digits?_zero_eq_some_iff hradix hdigits n).mp h, rfl⟩
    · rename_i hcs _ _
      exact ⟨[], cs, .inl rfl, (digits?_zero_eq_some_iff hradix hcs n).mp h, rfl⟩
  · rintro ⟨sign, digits, hsign, hdigits, rfl⟩
    have hread := (digits?_zero_eq_some_iff hradix hdigits.ne_nil n).mpr hdigits
    obtain ⟨c, cs, rfl⟩ := List.exists_cons_of_ne_nil hdigits.ne_nil
    rcases hsign with rfl | rfl
    · -- The first digit is not taken for a sign.
      have hplus : c ≠ '+' := by
        rintro rfl
        obtain ⟨d, hd⟩ := hdigits.isDigit_of_mem List.mem_cons_self
        have hcode : '+'.toNat = 43 := by decide
        have := hd.toNat hradix
        omega
      unfold unsigned?
      split <;> simp_all
    · exact hread

theorem splitBase_cases (cs : List Char) :
    ∃ (base : Base) (rest : List Char),
      splitBase cs = (base.radix, rest) ∧ cs = base.mark.toList ++ rest := by
  unfold splitBase
  split
  · exact ⟨.hexadecimal, _, rfl, rfl⟩
  · exact ⟨.binary, _, rfl, rfl⟩
  · exact ⟨.decimal, _, rfl, rfl⟩

/-- What has no mark is not taken for having one, if the letters of the marks are not in it. -/
theorem splitBase_mark (base : Base) {rest : List Char}
    (h : base = .decimal → 'x' ∉ rest ∧ 'b' ∉ rest) :
    splitBase (base.mark.toList ++ rest) = (base.radix, rest) := by
  cases base with
  | binary => rfl
  | hexadecimal => rfl
  | decimal =>
      change splitBase rest = (10, rest)
      obtain ⟨hx, hb⟩ := h rfl
      unfold splitBase
      split
      · simp at hx
      · simp at hb
      · rfl

theorem not_mem_of_decimal {sign : String} {digits : List Char} {n : Nat}
    (hsign : sign = "" ∨ sign = "+") (hdigits : Digits 10 digits n) {c : Char}
    (hc : 57 < c.toNat) : c ∉ sign.toList ++ digits := by
  intro hmem
  rcases List.mem_append.mp hmem with hmem | hmem
  · have hplus : ¬57 < '+'.toNat := by decide
    rcases hsign with rfl | rfl
    · simp at hmem
    · obtain rfl := List.mem_singleton.mp hmem
      exact hplus hc
  · obtain ⟨d, hd⟩ := hdigits.isDigit_of_mem hmem
    have hlt : d < 10 := hd.1
    have := hd.toNat (by decide)
    omega

/-! ## Reading -/

/-- Numerals are taken apart as they are put together. -/
theorem spells_iff (text : String) (n : Nat) :
    Spells text n ↔ unsigned? (splitBase text.toList).1 (splitBase text.toList).2 = some n := by
  constructor
  · rintro ⟨base, hsign, hdigits⟩
    rename_i sign digits
    have hsplit : splitBase (base.mark.toList ++ (sign.toList ++ digits)) =
        (base.radix, sign.toList ++ digits) := by
      apply splitBase_mark
      rintro rfl
      exact ⟨not_mem_of_decimal hsign hdigits (by decide),
        not_mem_of_decimal hsign hdigits (by decide)⟩
    rw [String.toList_append, String.toList_append, String.toList_ofList, List.append_assoc,
      hsplit, unsigned?_eq_some_iff base.radix_le]
    refine ⟨_, _, ?_, hdigits, rfl⟩
    rcases hsign with rfl | rfl
    · exact .inl rfl
    · exact .inr rfl
  · intro h
    obtain ⟨base, rest, hsplit, htext⟩ := splitBase_cases text.toList
    rw [hsplit, unsigned?_eq_some_iff base.radix_le] at h
    obtain ⟨sign, digits, hsign, hdigits, rfl⟩ := h
    have hspell : text = base.mark ++ String.ofList sign ++ String.ofList digits := by
      apply String.ext
      simp [htext]
    rw [hspell]
    refine .numeral base ?_ hdigits
    rcases hsign with rfl | rfl
    · exact .inl rfl
    · exact .inr rfl

/-- No text is a numeral of two numbers. -/
theorem Spells.unique {text : String} {n m : Nat} (hn : Spells text n) (hm : Spells text m) :
    n = m := by
  rw [spells_iff] at hn hm
  exact Option.some.inj (hn.symm.trans hm)

theorem word?_eq_some_iff (text : String) (v : UInt64) :
    word? text = some v ↔ Spells text v.toNat := by
  rw [spells_iff]
  unfold word?
  simp only [Option.bind_eq_some_iff]
  constructor
  · rintro ⟨n, hn, hv⟩
    split at hv
    · rename_i hlt
      rw [hn, ← Option.some.inj hv]
      exact congrArg some (UInt64.toNat_ofNat_of_lt' hlt).symm
    · contradiction
  · intro h
    refine ⟨_, h, ?_⟩
    rw [if_pos v.toNat_lt]
    exact congrArg some UInt64.ofNat_toNat

-- What looks like a mark may be digits, and a mark alone is no numeral.
example : word? "0x0b1" = some 0xb1 ∧ word? "0b1" = some 1 ∧ word? "0b" = none := by decide

theorem word?_eq_none_iff (text : String) :
    word? text = none ↔ ∀ n, Spells text n → 2 ^ 64 ≤ n := by
  rw [Option.eq_none_iff_forall_ne_some]
  constructor
  · intro h n hn
    by_contra hle
    have hlt : n < UInt64.size := Nat.lt_of_not_le hle
    apply h (UInt64.ofNat n)
    rw [word?_eq_some_iff, UInt64.toNat_ofNat_of_lt' hlt]
    exact hn
  · intro h v hv
    have hle := h _ ((word?_eq_some_iff text v).mp hv)
    have hlt := v.toNat_lt
    omega

theorem Spells.ascii {text : String} {n : Nat} (h : Spells text n) :
    ∀ c ∈ text.toList, c.toNat < 128 := by
  obtain ⟨base, hsign, hdigits⟩ := h
  rename_i sign digits
  intro c hc
  rw [String.toList_append, String.toList_append, String.toList_ofList] at hc
  rcases List.mem_append.mp hc with hc | hc
  · have hstart : (base.mark.toList ++ sign.toList).all (·.toNat < 128) = true := by
      rcases hsign with rfl | rfl <;> cases base <;> decide
    exact of_decide_eq_true (List.all_eq_true.mp hstart c hc)
  · obtain ⟨d, hd⟩ := hdigits.isDigit_of_mem hc
    have hlt := hd.1
    have hradix := base.radix_le
    have := hd.toNat hradix
    omega

/-! ## Writing -/

theorem isDigit_digitChar {radix d : Nat} (h : d < radix) : IsDigit radix (Nat.digitChar d) d :=
  ⟨h, .inl rfl⟩

theorem Digits.concat {radix : Nat} {cs : List Char} {n : Nat} (h : Digits radix cs n) {c : Char}
    {d : Nat} (hd : IsDigit radix c d) : Digits radix (cs ++ [c]) (radix * n + d) := by
  obtain ⟨values, -, hvalues, rfl⟩ := h
  refine ⟨values ++ [d], by simp, List.rel_append hvalues (.cons hd .nil), ?_⟩
  rw [List.reverse_append, List.reverse_singleton, List.singleton_append, Nat.ofDigits_cons]
  exact Nat.add_comm _ _

theorem digits_toDigits {radix : Nat} (hradix : 1 < radix) (n : Nat) :
    Digits radix (Nat.toDigits radix n) n := by
  induction n using Nat.strongRecOn with
  | ind n ih =>
      by_cases hn : n < radix
      · rw [Nat.toDigits_of_lt_base hn]
        exact ⟨[n], by simp, .cons (isDigit_digitChar hn) .nil, by simp⟩
      · have hdiv : n / radix < n := Nat.div_lt_self (by omega) hradix
        have hmod : n % radix < radix := Nat.mod_lt _ (by omega)
        have hdigits := (ih _ hdiv).concat (isDigit_digitChar hmod)
        rw [Nat.div_add_mod] at hdigits
        rwa [Nat.toDigits_of_base_le hradix (by omega)]

theorem Digits.replicate_append {radix : Nat} (hradix : 0 < radix) {cs : List Char} {n : Nat}
    (h : Digits radix cs n) (k : Nat) : Digits radix (List.replicate k '0' ++ cs) n := by
  induction k with
  | zero => exact h
  | succ k ih =>
      obtain ⟨values, -, hvalues, rfl⟩ := ih
      refine ⟨0 :: values, by simp, .cons (isDigit_digitChar hradix) hvalues, ?_⟩
      rw [List.reverse_cons, Nat.ofDigits_append, Nat.ofDigits_singleton, Nat.mul_zero,
        Nat.add_zero]

theorem digits_paddedHex (width n : Nat) : Digits 16 (paddedHex width n).toList n := by
  rw [paddedHex, String.toList_ofList]
  exact (digits_toDigits (by decide) n).replicate_append (by decide) _

theorem Base.spells_write (base : Base) (n : Nat) : Spells (base.write n) n := by
  have hradix : 1 < base.radix := by cases base <;> decide
  have h := Spells.numeral base (.inl rfl) (digits_toDigits hradix n)
  rwa [String.append_empty] at h

theorem Base.word?_write (base : Base) (v : UInt64) : word? (base.write v.toNat) = some v :=
  (word?_eq_some_iff _ v).mpr (base.spells_write v.toNat)

/-- Reading accepts the numerals of words and nothing else. -/
theorem reads_exactly_numerals :
    (∀ (text : String) (v : UInt64), word? text = some v ↔ Spells text v.toNat) ∧
    (∀ text : String, word? text = none ↔ ∀ n, Spells text n → 2 ^ 64 ≤ n) ∧
    (∀ text : String, (∃ c ∈ text.toList, 128 ≤ c.toNat) → word? text = none) ∧
    ∀ v : UInt64, word? (hex v.toNat) = some v ∧ word? (Base.binary.write v.toNat) = some v ∧
      word? (toString v.toNat) = some v := by
  refine ⟨word?_eq_some_iff, word?_eq_none_iff, ?_, fun v => ⟨?_, ?_, ?_⟩⟩
  · rintro text ⟨c, hmem, hc⟩
    rw [word?_eq_none_iff]
    intro n hn
    have := hn.ascii c hmem
    omega
  · exact Base.hexadecimal.word?_write v
  · exact Base.binary.word?_write v
  · have hwrite : toString v.toNat = Base.decimal.write v.toNat := (String.empty_append).symm
    rw [hwrite]
    exact Base.decimal.word?_write v

/-- A letter with an accent is no digit. -/
theorem reads_exactly_numerals_accented :
    (∃ c ∈ "0x1é".toList, 128 ≤ c.toNat) ∧ word? "0x1é" = none := by
  have hmem : ∃ c ∈ "0x1é".toList, 128 ≤ c.toNat := ⟨'é', by decide, by decide⟩
  exact ⟨hmem, reads_exactly_numerals.2.2.1 "0x1é" hmem⟩

end GuestSim.Numeral

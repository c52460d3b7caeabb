import GuestSim.Proofs.Mini.Encoding
import GuestSim.Proofs.Mini.Memory

/-! # Programs in memory

The image of a program is copied into memory word by word. What is fetched from the place of a word
is that word again, and so the instruction that was assembled into it. -/

namespace GuestSim.Mini

/-! ## Images -/

theorem assemble_cons (word : UInt32) (words : List UInt32) :
    assemble (word :: words) = wordBytes word ++ assemble words := rfl

@[simp] theorem length_assemble (words : List UInt32) :
    (assemble words).length = 4 * words.length := by
  induction words with
  | nil => rfl
  | cons word words ih =>
      rw [assemble_cons, List.length_append, ih, List.length_cons, Nat.mul_succ, Nat.add_comm]
      rfl

theorem copy_wordBytes (bytes : Array UInt8) (start : Nat) (word : UInt32) :
    Bytes.copy bytes start (wordBytes word) = Bytes.store bytes start 4 word.toNat := by
  simp only [wordBytes, Bytes.copy, Bytes.store, Nat.div_div_eq_div_mul]

theorem load_copy_assemble {words : List UInt32} {bytes : Array UInt8} {start : Nat}
    (h : start + 4 * words.length ≤ bytes.size) (i : Nat) (hi : i < words.length) :
    Bytes.load (Bytes.copy bytes start (assemble words)) (start + 4 * i) 4 = words[i].toNat := by
  induction words generalizing bytes start i with
  | nil => simp at hi
  | cons word words ih =>
      have hcopy : Bytes.copy bytes start (assemble (word :: words)) =
          Bytes.copy (Bytes.store bytes start 4 word.toNat) (start + 4) (assemble words) := by
        rw [assemble_cons, Bytes.copy_append, copy_wordBytes]
        rfl
      rw [List.length_cons] at h
      rw [hcopy]
      cases i with
      | zero =>
          -- The words behind the first are copied over other bytes.
          calc Bytes.load (Bytes.copy (Bytes.store bytes start 4 word.toNat) (start + 4)
                  (assemble words)) (start + 4 * 0) 4
            _ = Bytes.load (Bytes.store bytes start 4 word.toNat) start 4 :=
                Bytes.load_congr fun j _ hj => Bytes.getElem?_copy_of_outside _ (.inl hj)
            _ = word.toNat % 256 ^ 4 := Bytes.load_store_self (by omega) _
            _ = word.toNat := Nat.mod_eq_of_lt word.toNat_lt
      | succ i =>
          have hsize : start + 4 + 4 * words.length ≤
              (Bytes.store bytes start 4 word.toNat).size := by
            rw [Bytes.size_store]
            omega
          have hplace : start + 4 * (i + 1) = start + 4 + 4 * i := by omega
          rw [hplace, ih hsize i (by simpa using hi)]
          rfl

/-! ## Loading -/

namespace Core

def withImage (core : Core) (addr : UInt64) (data : List UInt8) : Core :=
  { core with ram := Bytes.copy core.ram (addr.toNat - core.ramBase.toNat) data }

@[simp] theorem ram_withImage (core : Core) (addr : UInt64) (data : List UInt8) :
    (core.withImage addr data).ram =
      Bytes.copy core.ram (addr.toNat - core.ramBase.toNat) data := rfl

@[simp] theorem ramBase_withImage (core : Core) (addr : UInt64) (data : List UInt8) :
    (core.withImage addr data).ramBase = core.ramBase := rfl

variable {core : Core} {addr : UInt64} {data : List UInt8}

theorem load_of_covers (h : core.Covers addr data.length) :
    core.load addr data = .ok (core.withImage addr data) := by
  rw [load, ramOffset?_of_covers h]
  rfl

/-- An image that does not fit is refused as a whole. -/
theorem load_eq_error_iff {e : Exception} :
    core.load addr data = .error e ↔
      ¬core.Covers addr data.length ∧ e = .accessTrap Cause.storeFault addr := by
  by_cases h : core.Covers addr data.length
  · simp [load_of_covers h, h]
  · rw [load, ramOffset?_of_not_covers h]
    simp [h, eq_comm]

theorem covers_withImage : (core.withImage addr data).Covers = core.Covers := by
  funext addr' len
  simp only [Covers, ram_withImage, ramBase_withImage, Bytes.size_copy]

theorem byteMap_withImage_of_outside (h : core.Covers addr data.length) {a : Nat}
    (ha : a < addr.toNat ∨ addr.toNat + data.length ≤ a) :
    (core.withImage addr data).byteMap a = core.byteMap a := by
  have hbase := h.1
  by_cases hlow : core.ramBase.toNat ≤ a
  · have hlow' : (core.withImage addr data).ramBase.toNat ≤ a := hlow
    rw [byteMap, byteMap, if_pos hlow', if_pos hlow, ram_withImage, ramBase_withImage,
      Bytes.getElem?_copy_of_outside _ (by omega)]
  · have hlow' : ¬(core.withImage addr data).ramBase.toNat ≤ a := hlow
    rw [byteMap, byteMap, if_neg hlow', if_neg hlow]

/-- The words of an image that does not run over the last address can be read one by one. -/
theorem readMem_withImage (words : List UInt32) (h : core.Covers addr (4 * words.length))
    (hend : addr.toNat + 4 * words.length ≤ 2 ^ 64) {i : Nat} (hi : i < words.length)
    (access : Access) (space : UInt32) :
    (core.withImage addr (assemble words)).readMem
        ⟨access, space, addr + 4 * UInt64.ofNat i⟩ 4 = .ok words[i].toUInt64 := by
  obtain ⟨hbase, hroom⟩ := h
  have haddr : (addr + 4 * UInt64.ofNat i).toNat = addr.toNat + 4 * i := by
    rw [UInt64.toNat_add, UInt64.toNat_mul, UInt64.toNat_ofNat']
    change (addr.toNat + 4 * (i % 2 ^ 64) % 2 ^ 64) % 2 ^ 64 = _
    omega
  have hcovers : (core.withImage addr (assemble words)).Covers (addr + 4 * UInt64.ofNat i) 4 := by
    rw [covers_withImage, Covers, haddr]
    omega
  have hplace : (addr + 4 * UInt64.ofNat i).toNat - core.ramBase.toNat =
      addr.toNat - core.ramBase.toNat + 4 * i := by
    omega
  rw [readMem_of_covers hcovers, ram_withImage, ramBase_withImage, hplace,
    load_copy_assemble hroom i hi, UInt64.ofNat_uInt32ToNat]

/-- The program lies in the memory of `loaded` at `addr`, and nothing else tells it from `core`. -/
structure LoadedAt (core : Core) (addr : UInt64) (program : List Instr) (loaded : Core) :
    Prop where
  frame : loaded = { core with ram := loaded.ram }
  outside : ∀ a, a < addr.toNat ∨ addr.toNat + 4 * program.length ≤ a →
    loaded.byteMap a = core.byteMap a
  fetched : ∀ (i : Nat) (h : i < program.length) (space : UInt32), ∃ word,
    loaded.readMem ⟨.fetch, space, addr + 4 * UInt64.ofNat i⟩ 4 = .ok word ∧
      Instr.decode? word.toUInt32 = some program[i]

theorem load_program {program : List Instr}
    (hregs : ∀ i ∈ program, i.rd.toNat < 8 ∧ i.rs.toNat < 8)
    (hend : addr.toNat + 4 * program.length ≤ 2 ^ 64)
    (hfits : core.Covers addr (4 * program.length)) :
    ∃ loaded, core.load addr (assemble (program.map Instr.encode)) = .ok loaded ∧
      core.LoadedAt addr program loaded := by
  let words := program.map Instr.encode
  have hwords : words.length = program.length := List.length_map _
  have hlength : (assemble words).length = 4 * program.length := by
    rw [length_assemble, hwords]
  have hcovers : core.Covers addr (assemble words).length := by rwa [hlength]
  refine ⟨core.withImage addr (assemble words), load_of_covers hcovers, rfl, ?_, ?_⟩
  · intro a ha
    exact byteMap_withImage_of_outside hcovers (by rwa [hlength])
  · intro i hi space
    have hread := readMem_withImage words (i := i) (by rwa [hwords]) (by rwa [hwords])
      (by rwa [hwords]) .fetch space
    refine ⟨_, hread, ?_⟩
    rw [UInt32.toUInt32_toUInt64, Instr.decode?_eq_some_iff]
    exact ⟨(List.getElem_map _).symm, hregs _ (List.getElem_mem hi)⟩

end Core

/-- Programs survive being assembled, loaded, fetched and decoded. -/
theorem programs_survive_loading :
    (∀ (core : Core) (addr : UInt64) (program : List Instr),
      (∀ i ∈ program, i.rd.toNat < 8 ∧ i.rs.toNat < 8) →
      addr.toNat + 4 * program.length ≤ 2 ^ 64 → core.Covers addr (4 * program.length) →
      ∃ loaded, core.load addr (assemble (program.map Instr.encode)) = .ok loaded ∧
        core.LoadedAt addr program loaded) ∧
    (∀ (core : Core) (addr : UInt64) (image : List UInt8) (e : Exception),
      core.load addr image = .error e ↔
        ¬core.Covers addr image.length ∧ e = .accessTrap Cause.storeFault addr) ∧
    (∀ (word : UInt32) (i : Instr), Instr.decode? word = some i → i.encode = word) ∧
    ∀ word : UInt32, Instr.decode? word = none ↔
      (0xd : UInt32) < word >>> 24 ∨ word.toNat.testBit 23 = true ∨
        word.toNat.testBit 19 = true := by
  refine ⟨fun core addr program => Core.load_program, fun core addr image e => ?_,
    fun word i h => ?_, Instr.decode?_eq_none_iff⟩
  · exact Core.load_eq_error_iff
  · exact (Instr.decode?_eq_some_iff.mp h).1

/-- A program that ends with the last address. -/
theorem programs_survive_loading_last :
    let core := Core.new 0xfffffffffffffff0 16
    let program : List Instr := [⟨.addi, 7, 3, -1⟩, ⟨.jmp, 0, 0, -2⟩]
    ∃ loaded, core.load 0xfffffffffffffff8 (assemble (program.map Instr.encode)) = .ok loaded ∧
      core.LoadedAt 0xfffffffffffffff8 program loaded := by
  intro core program
  exact programs_survive_loading.1 core _ program (by decide) (by decide) (by decide)

end GuestSim.Mini

import GuestSim.Proofs.Mini.Execution

/-! # A unit follows the interpreter

Each instruction that a unit starts is a step of the interpreter, as long as no word that comes to
execution has changed since the unit was built. -/

namespace GuestSim.Mini

open Interpreter

/-! ## Instructions of a unit -/

theorem Instr.nextPc_execute {i : Instr} (h : i.outcome = .next) (pc : UInt32) (core : Core) :
    (i.execute pc core).2.regs.nextPc = core.regs.nextPc := by
  have hload (r : UInt8) (addr : UInt32) (len : Nat) :
      (core.loadTo r addr len).2.regs.nextPc = core.regs.nextPc := by
    unfold Core.loadTo
    split <;> rfl
  have hstore (addr : UInt32) (len : Nat) (value : UInt64) :
      (core.storeAt addr len value).2.regs.nextPc = core.regs.nextPc := by
    have hwrite := core.writeMem_regs ⟨.write, 0, addr.toUInt64⟩ len value
    unfold Core.storeAt
    split
    · rename_i hcase
      rw [hcase] at hwrite
      exact congrArg Registers.nextPc hwrite
    · rename_i hcase
      rw [hcase] at hwrite
      exact congrArg Registers.nextPc hwrite
  unfold outcome at h
  unfold execute
  cases hop : i.op with
  | ld => exact hload _ _ _
  | ldb => exact hload _ _ _
  | st => exact hstore _ _ _
  | stb => exact hstore _ _ _
  | nop => rfl
  | li => rfl
  | addi => rfl
  | add => rfl
  | _ => simp [hop] at h

theorem Instr.op_flush_of_outcome {i : Instr} (h : i.op = .flush) : i.outcome = .flush := by
  simp [outcome, h]

theorem Instr.execute_flush {i : Instr} (h : i.op = .flush) (pc : UInt32) (core : Core) :
    i.execute pc core = (none, core) := by
  simp [execute, h]

theorem Instr.execute_ne_undecodable {i : Instr} {pc : UInt32} {core : Core} {e : Exception}
    (h : (i.execute pc core).1 = some e) (addr : UInt64) : e ≠ .undecodable addr := by
  have hload {r : UInt8} {source : UInt32} {len : Nat}
      (h : (core.loadTo r source len).1 = some e) : e ≠ .undecodable addr := by
    rw [Core.loadTo, Core.readMem] at h
    cases hoffset : core.ramOffset? source.toUInt64 len with
    | none =>
        simp only [hoffset, Option.some.injEq] at h
        simp [← h]
    | some start => simp [hoffset] at h
  have hstore {dest : UInt32} {len : Nat} {value : UInt64}
      (h : (core.storeAt dest len value).1 = some e) : e ≠ .undecodable addr := by
    rw [Core.storeAt, Core.writeMem] at h
    by_cases hhalt : dest.toUInt64 = haltAddr
    · simp only [if_pos hhalt, Option.some.injEq] at h
      simp [← h]
    · simp only [if_neg hhalt] at h
      cases hoffset : core.ramOffset? dest.toUInt64 len with
      | none =>
          simp only [hoffset, Option.some.injEq] at h
          simp [← h]
      | some start => simp [hoffset] at h
  unfold execute at h
  cases hop : i.op with
  | ld => exact hload (by simpa [hop] using h)
  | ldb => exact hload (by simpa [hop] using h)
  | st => exact hstore (by simpa [hop] using h)
  | stb => exact hstore (by simpa [hop] using h)
  | halt =>
      simp only [hop, Option.some.injEq] at h
      simp [← h]
  | _ => simp [hop] at h

/-! ## One instruction -/

variable {δ : Type} [Debugger δ] {s : Interpreter} {t : Nat} {m : Machine Core δ}

/-- Between two instructions of a unit: the machine is where the interpreter is after `t` steps. -/
structure Tracks (s : Interpreter) (t : Nat) (m : Machine Core δ) : Prop where
  ended : (s.after t).ended = none
  core : ∃ counts, m.core = ((s.after t).core.goto (s.after t).pc).withPhases counts
  exception : m.context.exception = none

/-- An instruction has raised an exception, which the interpreter has dealt with in step `t`. -/
def Raised (s : Interpreter) (t : Nat) (m : Machine Core δ) (e : Exception) : Prop :=
  m.context.exception = some e ∧ (∀ addr, e ≠ .undecodable addr) ∧
    ∃ core pc counts, m.core = core.withPhases counts ∧ s.after t = raise core pc e

/-- An instruction between its boundaries is a step of the interpreter. -/
theorem Tracks.instruction {settings : Settings} (hlayout : settings.layout = layout)
    {ordinal : Nat} {i : Instr} (htracks : Tracks s t m)
    (hfetch : (s.after t).core.fetch (.fetch (s.after t).pc.toUInt64) = .ok i)
    (hrefusal : (Start.mk settings ordinal m).refusal = none) {addr : UInt64}
    (haddr : addr = (s.after t).pc.toUInt64) :
    ∃ result m', (settings.instruction ordinal ⟨addr, i.outcome, true, i.body addr⟩).exec m =
        (result, m') ∧
      ((result = .ok () ∧ Tracks s (t + 1) m' ∧
          (i.outcome = .next → (s.after (t + 1)).pc = (s.after t).pc + 4)) ∨
        (result = .error .trap ∧ i.op ≠ .flush ∧ ∃ e, Raised s (t + 1) m' e)) := by
  subst haddr
  obtain ⟨hended, ⟨counts, hcore⟩, hexception⟩ := htracks
  obtain ⟨word, -, hdecode⟩ := Core.fetch_eq_ok hfetch
  obtain ⟨hrd, hrs⟩ := Instr.registers_of_decode? hdecode
  obtain ⟨counts', hdeparts, hcore', hexception'⟩ :=
    agrees_instruction hlayout ordinal hrd hrs hcore hexception hrefusal
  have hstep : s.after (t + 1) = (s.after t).perform i :=
    step_of_instr (instr?_of_fetch hended hfetch)
  refine ⟨_, _, rfl, ?_⟩
  cases hexecute : i.execute (s.after t).pc ((s.after t).core.begun (s.after t).pc) with
  | mk raised core =>
      rw [hexecute] at hdeparts hcore' hexception'
      cases raised with
      | none =>
          have hafter : s.after (t + 1) = ⟨core, core.regs.nextPc, none⟩ := by
            rw [hstep, perform, hexecute]
          refine .inl ⟨hdeparts, ⟨by rw [hafter], ⟨counts', ?_⟩, hexception'⟩, ?_⟩
          · rw [hafter]
            exact hcore'
          · intro houtcome
            have hnext := Instr.nextPc_execute houtcome (s.after t).pc
              ((s.after t).core.begun (s.after t).pc)
            rw [hexecute] at hnext
            rw [hafter]
            exact hnext
      | some e =>
          have hraised : (i.execute (s.after t).pc ((s.after t).core.begun (s.after t).pc)).1 =
              some e := by rw [hexecute]
          refine .inr ⟨hdeparts, ?_, e, hexception', Instr.execute_ne_undecodable hraised, core,
            (s.after t).pc, counts', hcore', ?_⟩
          · intro hop
            rw [Instr.execute_flush hop] at hexecute
            simp at hexecute
          · rw [hstep, perform, hexecute]

/-! ## Units and memory -/

/-- The instructions of a unit are those that memory holds after `t` steps, except where a word has
changed and no unit was discarded since. -/
def Sound (s : Interpreter) (t : Nat) : UInt64 → List Instr → Prop
  | _, [] => True
  | addr, i :: is =>
    ((s.after t).core.Mapped addr ∧
      (s.Clean t addr → (s.after t).core.fetch (.fetch addr) = .ok i)) ∧
    Sound s t (addr + 4) is

theorem sound_of_holds {addr : UInt64} {is : List Instr} (h : (s.after t).core.Holds addr is) :
    Sound s t addr is := by
  induction is generalizing addr with
  | nil => trivial
  | cons i is ih => exact ⟨⟨Core.mapped_of_fetch h.1, fun _ => h.1⟩, ih h.2⟩

/-- A step that does not flush keeps units as sound as they are. -/
theorem Sound.succ (hflush : ¬ s.Flushes t) {addr : UInt64} {is : List Instr}
    (h : Sound s t addr is) : Sound s (t + 1) addr is := by
  induction is generalizing addr with
  | nil => trivial
  | cons i is ih =>
      obtain ⟨⟨hmapped, hfetch⟩, hrest⟩ := h
      refine ⟨⟨?_, ?_⟩, ih hrest⟩
      · exact (Core.mapped_iff_of_frame frame_step addr).mpr hmapped
      · intro hclean
        obtain ⟨hclean, hsame⟩ := Clean.of_succ hflush hclean
        exact (Core.fetch_congr (Classical.not_not.mp hsame)).symm.trans (hfetch hclean)

theorem Sound.add {k : Nat} (hflush : ∀ j < k, ¬ s.Flushes (t + j)) {addr : UInt64}
    {is : List Instr} (h : Sound s t addr is) : Sound s (t + k) addr is := by
  induction k with
  | zero => exact h
  | succ k ih =>
      exact (ih fun j hj => hflush j (Nat.lt_succ_of_lt hj)).succ (hflush k (Nat.lt_succ_self k))

/-! ## All instructions of a unit -/

/-- Memory and the trap vector lie in the 32-bit space. -/
def Core.Narrow (core : Core) : Prop :=
  core.ramBase.toNat + core.ram.size ≤ 2 ^ 32 ∧ core.trapVector.toNat < 2 ^ 32

instance (core : Core) : Decidable core.Narrow := inferInstanceAs (Decidable (_ ∧ _))

theorem Core.lt_of_mapped {core : Core} (h : core.Narrow) {addr : UInt64}
    (hmapped : core.Mapped addr) : addr.toNat < 2 ^ 32 := by
  have hspace := h.1
  rw [Mapped, ramOffset?] at hmapped
  split at hmapped
  · rename_i hin
    have hbase := UInt64.le_iff_toNat_le.mp hin.1
    omega
  · simp at hmapped

theorem Core.narrow_of_frame {core core' : Core} (hframe : core.frame = core'.frame)
    (h : core'.Narrow) : core.Narrow := by
  simp only [frame, Prod.mk.injEq] at hframe
  rw [Narrow, hframe.1, hframe.2.1, hframe.2.2]
  exact h

/-- In the 32-bit space the next instruction in sequence is four bytes further on. -/
theorem Core.next_of_mapped {core : Core} (h : core.Narrow) {pc : UInt32}
    (hmapped : core.Mapped (pc.toUInt64 + 4)) : (pc + 4).toUInt64 = pc.toUInt64 + 4 := by
  have hlt := lt_of_mapped h hmapped
  have hpc := pc.toNat_lt
  rw [UInt64.toNat_add, UInt32.toNat_toUInt64] at hlt
  apply UInt64.toNat_inj.mp
  rw [UInt32.toNat_toUInt64, UInt32.toNat_add, UInt64.toNat_add, UInt32.toNat_toUInt64]
  simp only [UInt32.reduceToNat, UInt64.reduceToNat] at hlt ⊢
  omega

/-- What is left when the instructions of a unit have run, the first `k` of which were started. -/
structure Followed (s : Interpreter) (t k : Nat) (is : List Instr) (d : Departure)
    (m : Machine Core δ) : Prop where
  counted : ∀ j ≤ k, s.counted (t + j) = s.counted t + j
  flushes : ∀ j < k, s.Flushes (t + j) →
    d = .leave ∧ k = is.length ∧ is.getLast?.map Instr.outcome = some .flush
  ending : (d = .leave ∧ Tracks s (t + k) m) ∨ (d = .trap ∧ ∃ e, Raised s (t + k) m e)

omit [Debugger δ] in
theorem Followed.zero (htracks : Tracks s t m) (is : List Instr) :
    Followed s t 0 is .leave m where
  counted := by
    intro j hj
    rw [Nat.le_zero.mp hj]
    rfl
  flushes := fun j hj => absurd hj (Nat.not_lt_zero j)
  ending := .inl ⟨rfl, htracks⟩

omit [Debugger δ] in
/-- An instruction before those that were followed. Only the last one may flush. -/
theorem Followed.cons {k : Nat} {i : Instr} {is : List Instr} {d : Departure}
    (hinstr : (s.after t).instr? = some i) (h : Followed s (t + 1) k is d m)
    (hflush : i.op = .flush → is = [] ∧ k = 0 ∧ d = .leave) :
    Followed s t (k + 1) (i :: is) d m where
  counted := by
    intro j hj
    cases j with
    | zero => rfl
    | succ j =>
        have hrest := h.counted j (Nat.le_of_succ_le_succ hj)
        rw [counted_succ_of_instr hinstr] at hrest
        rw [Nat.add_comm j 1, ← Nat.add_assoc, hrest]
        omega
  flushes := by
    intro j hj hflushes
    cases j with
    | zero =>
        obtain ⟨i', hinstr', hop⟩ := hflushes
        obtain rfl : i' = i := Option.some.inj (hinstr'.symm.trans hinstr)
        obtain ⟨rfl, rfl, rfl⟩ := hflush hop
        exact ⟨rfl, rfl, by simp [Instr.op_flush_of_outcome hop]⟩
    | succ j =>
        rw [Nat.add_comm j 1, ← Nat.add_assoc] at hflushes
        obtain ⟨hd, hk, hlast⟩ := h.flushes j (Nat.lt_of_succ_lt_succ hj) hflushes
        refine ⟨hd, by rw [hk, List.length_cons], ?_⟩
        cases is with
        | nil => simp at hlast
        | cons i' is => simpa using hlast
  ending := by
    have hending := h.ending
    rwa [Nat.add_assoc, Nat.add_comm 1 k] at hending

omit [Debugger δ] in
theorem Followed.raised {i : Instr} {e : Exception} (hinstr : (s.after t).instr? = some i)
    (hop : i.op ≠ .flush) (hraised : Raised s (t + 1) m e) (is : List Instr) :
    Followed s t 1 (i :: is) .trap m where
  counted := by
    intro j hj
    rcases Nat.le_one_iff_eq_zero_or_eq_one.mp hj with rfl | rfl
    · rfl
    · exact counted_succ_of_instr hinstr
  flushes := by
    intro j hj hflushes
    obtain rfl : j = 0 := by omega
    obtain ⟨i', hinstr', hop'⟩ := hflushes
    obtain rfl : i' = i := Option.some.inj (hinstr'.symm.trans hinstr)
    exact absurd hop' hop
  ending := .inr ⟨rfl, e, hraised⟩

/-- The instructions that are left of a unit are sound, and the interpreter is at the first. -/
structure Ready (s : Interpreter) (t : Nat) (addr : UInt64) (is : List Instr) : Prop where
  addr_eq : is ≠ [] → addr = (s.after t).pc.toUInt64
  sound : Sound s t addr is
  outcome_eq : ∀ i ∈ is.dropLast, i.outcome = .next

theorem Ready.outcome_head {addr : UInt64} {i : Instr} {is : List Instr}
    (h : Ready s t addr (i :: is)) (hne : is ≠ []) : i.outcome = .next :=
  (outcome_cons h.outcome_eq).1 hne

theorem Ready.eq_nil_of_flush {addr : UInt64} {i : Instr} {is : List Instr}
    (h : Ready s t addr (i :: is)) (hop : i.op = .flush) : is = [] := by
  cases is with
  | nil => rfl
  | cons i' is' =>
      have hnext := h.outcome_head (List.cons_ne_nil i' is')
      rw [Instr.op_flush_of_outcome hop] at hnext
      exact absurd hnext (by decide)

theorem Ready.tail {addr : UInt64} {i : Instr} {is : List Instr} (h : Ready s t addr (i :: is))
    (hnarrow : s.core.Narrow) (hinstr : (s.after t).instr? = some i)
    (hpc : i.outcome = .next → (s.after (t + 1)).pc = (s.after t).pc + 4) :
    Ready s (t + 1) (addr + 4) is := by
  cases is with
  | nil => exact ⟨fun hne => absurd rfl hne, trivial, by simp⟩
  | cons i' is =>
      have hne : i' :: is ≠ [] := List.cons_ne_nil i' is
      obtain rfl := h.addr_eq (List.cons_ne_nil i _)
      refine ⟨?_, ?_, (outcome_cons h.outcome_eq).2⟩
      · intro _
        rw [hpc (h.outcome_head hne)]
        exact (Core.next_of_mapped (Core.narrow_of_frame (frame_after t) hnarrow)
          h.sound.2.1.1).symm
      · apply h.sound.2.succ
        rintro ⟨j, hj, hop⟩
        obtain rfl : j = i := Option.some.inj (hj.symm.trans hinstr)
        exact hne (h.eq_nil_of_flush hop)

/-- A unit whose instructions are sound follows the interpreter from its start to where it is
left. -/
theorem sequence_followed {settings : Settings} (hlayout : settings.layout = layout) {n : Nat}
    (hcoherent : s.Coherent n) (hnarrow : s.core.Narrow) (ordinal : Nat) {addr : UInt64}
    {is : List Instr} (htracks : Tracks s t m) (hready : Ready s t addr is)
    (hrefusal : ∀ start ∈ Draft.startsFrom settings ordinal (fragments addr is) m,
      start.refusal = none)
    (hn : s.counted t + (Draft.startsFrom settings ordinal (fragments addr is) m).length ≤ n) :
    ∃ d m', (Draft.sequence settings ordinal (fragments addr is)).exec m = (.error d, m') ∧
      Followed s t (Draft.startsFrom settings ordinal (fragments addr is) m).length is d m' := by
  induction is generalizing t ordinal m addr with
  | nil => exact ⟨.leave, m, rfl, .zero htracks []⟩
  | cons i is ih =>
      rw [fragments] at hrefusal hn ⊢
      rw [Draft.sequence_cons]
      by_cases hspent : settings.Exhausted m
      · rw [Draft.startsFrom_of_exhausted hspent,
          Body.exec_bind_error (Settings.budgetCheck_exec_of_exhausted hspent)]
        exact ⟨.leave, m, rfl, .zero htracks _⟩
      · rw [Draft.startsFrom_of_not_exhausted hspent] at hrefusal hn ⊢
        rw [Body.exec_bind_ok (Settings.budgetCheck_exec_of_not_exhausted hspent)]
        rw [List.length_cons] at hn ⊢
        obtain ⟨hhead, hrest⟩ := List.forall_mem_cons.mp hrefusal
        have haddr := hready.addr_eq (List.cons_ne_nil i is)
        have hfetch := hready.sound.1.2
        rw [haddr] at hfetch
        -- The word comes to execution now, so it is clean and still what the unit has.
        have hfetched := hfetch (hcoherent t (by omega) htracks.ended)
        have hinstr := instr?_of_fetch htracks.ended hfetched
        obtain ⟨result, m', hexec, hok | htrap⟩ :=
          htracks.instruction hlayout hfetched hhead haddr
        · obtain ⟨rfl, htracks', hpc⟩ := hok
          rw [hexec] at hrest hn ⊢
          simp only at hn
          rw [Body.exec_bind_ok hexec]
          obtain ⟨d, m'', hsequence, hfollowed⟩ := ih (ordinal + 1) htracks'
            (hready.tail hnarrow hinstr hpc) hrest (by rw [counted_succ_of_instr hinstr]; omega)
          refine ⟨d, m'', hsequence, hfollowed.cons hinstr ?_⟩
          intro hop
          obtain rfl := hready.eq_nil_of_flush hop
          have hleave : (Draft.sequence settings (ordinal + 1) []).exec m' = (.error .leave, m') :=
            rfl
          rw [fragments, hleave, Prod.mk.injEq, Except.error.injEq] at hsequence
          exact ⟨rfl, rfl, hsequence.1.symm⟩
        · obtain ⟨rfl, hop, e, hraised⟩ := htrap
          rw [hexec]
          rw [Body.exec_bind_error hexec]
          exact ⟨.trap, m', rfl, .raised hinstr hop hraised is⟩

end GuestSim.Mini

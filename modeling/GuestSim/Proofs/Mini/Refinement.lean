import GuestSim.Proofs.Budget
import GuestSim.Proofs.Mini.Tracking
import GuestSim.Proofs.Upkeep

/-! # Runs follow the interpreter

A run of the simulator, with whatever units there are in its cache, does what the interpreter does
one instruction at a time. -/

namespace GuestSim.Mini

open Interpreter Simulator

variable {δ : Type} {s : Interpreter} {t : Nat}

/-! ## Units in the cache -/

/-- A unit at an address as the simulator builds it, whose instructions are sound. -/
structure Kept (s : Interpreter) (t : Nat) (settings : Settings) (addr : UInt64)
    (unit : CodeUnit) : Prop where
  made : unit.Made Codegen settings
  block : ∃ is, unit.fragments = fragments addr is ∧ (∀ i ∈ is.dropLast, i.outcome = .next) ∧
    Sound s t addr is

/-- All units that the simulator may run are sound. -/
def Carries (s : Interpreter) (t : Nat) (sim : Simulator Core Codegen δ) : Prop :=
  ∀ entry ∈ sim.cache.live, entry.1.cluster = sim.cluster →
    Kept s t sim.settings entry.1.phys entry.2

theorem Kept.add {settings : Settings} {addr : UInt64} {unit : CodeUnit} {k : Nat}
    (hflush : ∀ j < k, ¬ s.Flushes (t + j)) (h : Kept s t settings addr unit) :
    Kept s (t + k) settings addr unit := by
  obtain ⟨hmade, is, hfragments, hnext, hsound⟩ := h
  exact ⟨hmade, is, hfragments, hnext, hsound.add hflush⟩

theorem Carries.add {sim : Simulator Core Codegen δ} {k : Nat}
    (hflush : ∀ j < k, ¬ s.Flushes (t + j)) (h : Carries s t sim) : Carries s (t + k) sim :=
  fun entry hentry hcluster => (h entry hentry hcluster).add hflush

theorem Carries.of_subset {sim sim' : Simulator Core Codegen δ} (h : Carries s t sim)
    (hsettings : sim'.settings = sim.settings) (hlive : sim'.cache.live ⊆ sim.cache.live) :
    Carries s t sim' := by
  intro entry hentry hcluster
  rw [cluster, hsettings] at hcluster
  rw [hsettings]
  exact h entry (hlive hentry) hcluster

/-- A unit built from words that memory still holds is sound. -/
theorem kept_of_build {settings : Settings} {addr : UInt64} {unit : CodeUnit}
    {state : Codegen × Machine Core δ}
    (hbuild : (Draft.build settings (.fetch addr) state).1 = .ok unit.toDraft)
    (hwords : ∀ a ∈ unit.boundaries, state.2.core.word? a = (s.after t).core.word? a) :
    Kept s t settings addr unit := by
  obtain ⟨is, hfragments, hholds, hnext⟩ := build_eq_block hbuild
  rw [Draft.boundaries, hfragments] at hwords
  exact ⟨Draft.build_made (Prod.ext hbuild rfl), is, hfragments, hnext,
    sound_of_holds (hholds.congr hwords)⟩

/-- The search for a unit finds or builds a sound one. -/
theorem Carries.unitFor {sim sim' : Simulator Core Codegen δ} {pc : UInt64}
    {result : Except BuildError CodeUnit} {counts : Nat × Nat} (h : Carries s t sim)
    (hcore : sim.machine.core = (s.after t).core.withPhases counts)
    (hunit : sim.unitFor pc = (result, sim')) :
    Carries s t sim' ∧ ∀ unit, result = .ok unit → Kept s t sim.settings pc unit := by
  obtain ⟨hsettings, hfound, hlive⟩ := unitFor_spec hunit
  have hcarries : Carries s t sim' := by
    intro entry hentry hcluster
    rw [cluster, hsettings] at hcluster
    rw [hsettings]
    rcases hlive entry hentry with hold | ⟨-, phys, m, hresolve, hphys, hbuild⟩
    · exact h entry hold hcluster
    · rw [resolve_machine, Prod.mk.injEq] at hresolve
      obtain ⟨hresolve, rfl⟩ := hresolve
      rw [hphys, Core.val_of_resolve hresolve]
      refine kept_of_build hbuild fun a _ => ?_
      rw [hcore]
      rfl
  refine ⟨hcarries, ?_⟩
  intro unit hresult
  obtain ⟨phys, m, hresolve, hentry⟩ := hfound unit hresult
  rw [resolve_machine, Prod.mk.injEq] at hresolve
  have hkept := hcarries _ hentry (by rw [cluster, cluster, hsettings])
  rwa [hsettings, Core.val_of_resolve hresolve.1] at hkept

/-! ## Running a unit -/

variable [Debugger δ]

theorem exit_leave_run {settings : Settings} {draft : Draft} (hlayout : settings.layout = layout)
    (hmade : draft.Made Codegen settings) (m : Machine Core δ) :
    (draft.exit .leave).run m =
      (m.core.regs.nextPc.toUInt64, (m.readReg Register.nextPc).2) := by
  rw [Draft.exit, Draft.leaveCode, (exits_of_made hmade).1, hlayout]
  change ((Word.const .w64 m.core.regs.nextPc.toUInt64).toUInt64, _) = _
  rw [Word.toUInt64_const_w64]
  rfl

theorem exit_trap_run {settings : Settings} {draft : Draft}
    (hmade : draft.Made Codegen settings) (m : Machine Core δ) :
    (draft.exit .trap).run m = (m.core.regs.pc.toUInt64, (m.readReg Register.pc).2) := by
  rw [Draft.exit, Draft.trapCode, (exits_of_made hmade).2]
  change ((Word.const .w64 m.core.regs.pc.toUInt64).toUInt64, _) = _
  rw [Word.toUInt64_const_w64]
  rfl

theorem outcome_fragments (addr : UInt64) (is : List Instr) :
    (fragments addr is).getLast?.elim .next (·.outcome) =
      (is.getLast?.map Instr.outcome).getD .next := by
  induction is generalizing addr with
  | nil => rfl
  | cons i is ih =>
      cases is with
      | nil => rfl
      | cons i' is =>
          have hrest := ih (addr + 4)
          rw [fragments] at hrest ⊢
          rw [fragments, List.getLast?_cons_cons, List.getLast?_cons_cons]
          exact hrest

theorem length_fragments (addr : UInt64) (is : List Instr) :
    (fragments addr is).length = is.length := by
  induction is generalizing addr with
  | nil => rfl
  | cons i is ih => rw [fragments, List.length_cons, List.length_cons, ih]

/-- A sound unit follows the interpreter to where it is left, or to an exception. If a step has
flushed, all of the unit has run and its outcome says so. -/
theorem Kept.code_run {settings : Settings} {addr : UInt64} {unit : CodeUnit}
    {m : Machine Core δ} {n : Nat} (h : Kept s t settings addr unit)
    (hlayout : settings.layout = layout) (hcoherent : s.Coherent n) (hnarrow : s.core.Narrow)
    (htracks : Tracks s t m) (haddr : addr = (s.after t).pc.toUInt64)
    (hrefusal : ∀ start ∈ unit.starts m, start.refusal = none)
    (hn : s.counted t + (unit.starts m).length ≤ n) :
    ∃ value m', unit.code.run m = (value, m') ∧
      (∀ j ≤ (unit.starts m).length, s.counted (t + j) = s.counted t + j) ∧
      (∀ j < (unit.starts m).length, s.Flushes (t + j) →
        m'.context.exception = none ∧ (unit.starts m).length = unit.size ∧
          unit.outcome = .flush) ∧
      ((value = (s.after (t + (unit.starts m).length)).pc.toUInt64 ∧
          Tracks s (t + (unit.starts m).length) m') ∨
        ∃ e, Raised s (t + (unit.starts m).length) m' e) := by
  obtain ⟨hmade, is, hfragments, hnext, hsound⟩ := h
  have hstarts : unit.starts m = Draft.startsFrom settings 0 (fragments addr is) m := by
    rw [Draft.starts, hmade.settings_eq, hfragments]
  rw [hstarts] at hrefusal hn ⊢
  obtain ⟨d, m', hsequence, hcounted, hflushes, hending⟩ := sequence_followed hlayout hcoherent
    hnarrow 0 htracks ⟨fun _ => haddr, hsound, hnext⟩ hrefusal hn
  have hrun : unit.code.run m = (unit.exit d).run m' := by
    apply Draft.code_run hmade.linked
    rw [hmade.settings_eq, hfragments]
    exact hsequence
  rcases hending with ⟨rfl, htracks'⟩ | ⟨rfl, e, hraised⟩
  · rw [exit_leave_run hlayout hmade] at hrun
    refine ⟨_, _, hrun, hcounted, ?_, .inl ⟨?_, ?_⟩⟩
    · intro j hj hflush
      obtain ⟨-, hall, hlast⟩ := hflushes j hj hflush
      refine ⟨htracks'.exception, ?_, ?_⟩
      · rw [hall, Draft.size, hfragments, length_fragments]
      · rw [Draft.outcome, hfragments, outcome_fragments, hlast, Option.getD_some]
    · obtain ⟨counts, hcore⟩ := htracks'.core
      rw [hcore]
      rfl
    · exact ⟨htracks'.ended, htracks'.core, htracks'.exception⟩
  · rw [exit_trap_run hmade] at hrun
    refine ⟨_, _, hrun, hcounted, ?_, .inr ⟨e, hraised⟩⟩
    intro j hj hflush
    exact absurd (hflushes j hj hflush).1 (by decide)

/-- Where the interpreter is when a unit has run: at the next instruction, or past an exception. -/
def Left (s : Interpreter) (t : Nat) (result : Except Exception UInt64) (core : Core) : Prop :=
  match result with
  | .ok next => (s.after t).ended = none ∧ next = (s.after t).pc.toUInt64 ∧
      ∃ counts, core = ((s.after t).core.goto (s.after t).pc).withPhases counts
  | .error e => (∀ addr, e ≠ .undecodable addr) ∧
      ∃ core' pc counts, core = core'.withPhases counts ∧ s.after t = raise core' pc e

/-- A unit that flushes, and has run to its end, leaves no unit that the simulator may run. -/
theorem carries_of_flush {sim : Simulator Core Codegen δ} {unit : CodeUnit} {pc value : UInt64}
    {m : Machine Core δ} (hmade : unit.Made Codegen sim.settings)
    (hlayout : sim.settings.layout = layout)
    (hrun : unit.code.run (sim.machine.enter sim.settings.layout.nextPc.index pc) = (value, m))
    (hnone : m.context.exception = none)
    (hall : (unit.starts (sim.machine.enter sim.settings.layout.nextPc.index pc)).length =
      unit.size)
    (houtcome : unit.outcome = .flush) : Carries s t (sim.runUnit unit pc).2 := by
  have hcount := (counting δ).count_code hlayout hmade
    (sim.machine.enter sim.settings.layout.nextPc.index pc)
  rw [hrun, hall] at hcount
  have hstarted : Architecture.instructionCount m.core - Architecture.instructionCount
      (sim.machine.enter sim.settings.layout.nextPc.index pc).core = UInt64.ofNat unit.size := by
    change m.count - Machine.count _ = _
    rw [hcount, UInt64.add_comm, UInt64.add_sub_cancel]
  rw [runUnit_of_ended hrun hnone, if_pos hstarted]
  intro entry hentry hcluster
  simp only [Cache.conclude, houtcome] at hentry
  exact absurd hcluster (Cache.cluster_ne_of_mem_flush hentry)

/-- A simulator that runs a sound unit follows the interpreter, and its other units stay sound. -/
theorem Kept.runUnit {sim : Simulator Core Codegen δ} {unit : CodeUnit} {pc : UInt64}
    {counts : Nat × Nat} {n : Nat} (h : Kept s t sim.settings pc unit)
    (hcarries : Carries s t sim) (hlayout : sim.settings.layout = layout)
    (hcoherent : s.Coherent n) (hnarrow : s.core.Narrow) (hended : (s.after t).ended = none)
    (hpc : pc = (s.after t).pc.toUInt64)
    (hcore : sim.machine.core = (s.after t).core.withPhases counts) {k : Nat}
    (hk : k = (unit.starts (sim.machine.enter sim.settings.layout.nextPc.index pc)).length)
    (hrefusal : ∀ start ∈ unit.starts (sim.machine.enter sim.settings.layout.nextPc.index pc),
      start.refusal = none)
    (hn : s.counted t + k ≤ n) :
    (∀ j ≤ k, s.counted (t + j) = s.counted t + j) ∧
      Carries s (t + k) (sim.runUnit unit pc).2 ∧
      Left s (t + k) (sim.runUnit unit pc).1 (sim.runUnit unit pc).2.machine.core := by
  have htracks : Tracks s t (sim.machine.enter sim.settings.layout.nextPc.index pc) := by
    refine ⟨hended, ⟨counts, ?_⟩, rfl⟩
    rw [hlayout]
    change sim.machine.core.goto pc.toUInt32 = _
    rw [hcore, hpc, UInt32.toUInt32_toUInt64]
    rfl
  obtain ⟨value, m, hrun, hfollowed⟩ :=
    h.code_run hlayout hcoherent hnarrow htracks hpc hrefusal (hk ▸ hn)
  rw [← hk] at hfollowed
  obtain ⟨hcounted, hflushes, hending⟩ := hfollowed
  refine ⟨hcounted, ?_, ?_⟩
  -- A step that flushes makes all words clean, so units must be gone by then.
  · by_cases hflush : ∃ j < k, s.Flushes (t + j)
    · obtain ⟨j, hj, hflush⟩ := hflush
      obtain ⟨hnone, hall, houtcome⟩ := hflushes j hj hflush
      exact carries_of_flush h.made hlayout hrun hnone (hk ▸ hall) houtcome
    · have hquiet : ∀ j < k, ¬ s.Flushes (t + j) := fun j hj hj' => hflush ⟨j, hj, hj'⟩
      obtain ⟨hlive, hsettings⟩ := runUnit_frame sim unit pc
      exact (hcarries.add hquiet).of_subset hsettings hlive
  · rcases hending with ⟨rfl, htracks'⟩ | ⟨e, hraised, hdecoded, hleft⟩
    · rw [runUnit_of_ended hrun htracks'.exception]
      exact ⟨htracks'.ended, rfl, htracks'.core⟩
    · rw [runUnit_of_raised hrun hraised]
      exact ⟨hdecoded, hleft⟩

/-! ## Turns -/

variable {limit pc : UInt64} {sim : Simulator Core Codegen δ}

/-- Before a turn: the simulator is where the interpreter is after `t` steps, with sound units. If
the budget is used up, the interpreter has just executed an instruction. -/
structure Follows (s : Interpreter) (limit : UInt64) (t : Nat) (pc : UInt64)
    (sim : Simulator Core Codegen δ) : Prop where
  ended : (s.after t).ended = none
  pc_eq : pc = (s.after t).pc.toUInt64
  core : ∃ counts, sim.machine.core = (s.after t).core.withPhases counts
  carries : Carries s t sim
  layout_eq : sim.settings.layout = layout
  armed : sim.settings.preciseLimit = true → sim.machine.context.icountLimit = limit
  reached : limit ≤ sim.instructionCount → ∀ u < t, s.counted u < s.counted t

theorem toUInt64_trapVector {core : Core} (h : core.Narrow) :
    core.trapVector = core.trapVector.toUInt32.toUInt64 := by
  have hvector := h.2
  apply UInt64.toNat_inj.mp
  rw [UInt32.toNat_toUInt64, UInt64.toNat_toUInt32]
  omega

theorem enterTrap_after (hnarrow : s.core.Narrow) {core : Core} {pc : UInt32} {id : UInt32}
    {addr : UInt64} (h : s.after t = raise core pc (.accessTrap id addr)) (counts : Nat × Nat) :
    (s.after t).ended = none ∧
      (core.withPhases counts).trapVector = (s.after t).pc.toUInt64 ∧
      (core.withPhases counts).enterTrap id addr = (s.after t).core.withPhases counts := by
  have hframe : core.frame = s.core.frame := by
    rw [← frame_after t, h]
    rfl
  refine ⟨by rw [h]; rfl, ?_, by rw [h]; rfl⟩
  rw [h]
  exact toUInt64_trapVector (Core.narrow_of_frame hframe hnarrow)

/-- A fetch fault is a step of the interpreter that counts nothing. -/
theorem Follows.turn_of_not_mapped {purged : Simulator Core Codegen δ}
    (h : Follows s limit t pc sim) (hnarrow : s.core.Narrow)
    (hleft : ¬ limit ≤ sim.instructionCount) (hpurge : sim.purge = .ok purged)
    (hmapped : ¬ sim.machine.core.Mapped pc) :
    ∃ pc' sim', sim.turn limit pc = (.next pc', sim') ∧ sim.turnStarts limit pc = [] ∧
      s.counted (t + 1) = s.counted t ∧ Follows s limit (t + 1) pc' sim' := by
  obtain ⟨counts, hcore⟩ := h.core
  have hfault : ¬ (s.after t).core.Mapped (s.after t).pc.toUInt64 := by
    rw [h.pc_eq, hcore] at hmapped
    exact hmapped
  obtain ⟨hinstr, hstep⟩ := step_of_not_mapped h.ended hfault
  obtain ⟨hended, hvector, hentered⟩ :=
    enterTrap_after (t := t + 1) hnarrow hstep counts
  have hquiet : ∀ j < 1, ¬ s.Flushes (t + j) := by
    rintro j hj ⟨i, hi, -⟩
    obtain rfl : j = 0 := by omega
    rw [Nat.add_zero, hinstr] at hi
    simp at hi
  have hfind := find_of_error hpurge
    (unitFor_of_not_mapped ((purge_machine hpurge).symm ▸ hmapped))
  refine ⟨_, _, Mini.turn_of_not_mapped hleft hpurge hmapped, turnStarts_of_error hleft hfind,
    counted_succ_of_none hinstr, ?_⟩
  refine ⟨hended, ?_, ⟨counts, ?_⟩, ?_, ?_, ?_, ?_⟩
  · rw [hcore]
    exact hvector
  · rw [← hentered, h.pc_eq, ← hcore]
    rfl
  · have hsettings := purge_settings hpurge
    have hlive := purge_live hpurge
    exact (h.carries.add hquiet).of_subset hsettings hlive
  · exact (congrArg Settings.layout (purge_settings hpurge)).trans h.layout_eq
  · intro hprecise
    simp only [purge_settings hpurge] at hprecise
    exact h.armed hprecise
  · intro hspent
    exact absurd hspent hleft

/-- Instructions that fit into a unit lead from where the interpreter is up to `addr`, and the word
there is none. -/
structure Blocked (s : Interpreter) (t capacity : Nat) (addr : UInt64) (is : List Instr) :
    Prop where
  length_lt : is.length < capacity
  outcome_eq : ∀ i ∈ is, i.outcome = .next
  holds : (s.after t).core.Holds (s.after t).pc.toUInt64 is
  addr_eq : addr = behind (s.after t).pc.toUInt64 is.length
  fetch_eq : (s.after t).core.fetch (.fetch addr) = .error (.undecodable addr)

/-- After a turn that has taken the interpreter to step `t`. -/
def Turned (s : Interpreter) (limit : UInt64) (t : Nat) :
    Turn × Simulator Core Codegen δ → Prop
  | (.next pc, sim) => Follows s limit t pc sim
  | (.exit .instructionLimit pc, sim) => limit ≤ sim.instructionCount ∧ Follows s limit t pc sim
  | (.exit (.stopped code) _, sim) => (s.after t).ended = some (.stopped code) ∧
      (∃ counts, sim.machine.core = (s.after t).core.withPhases counts) ∧
      ∀ u < t, s.counted u < s.counted t
  | (.exit (.decodeError addr) pc, sim) => pc = addr ∧ ¬ limit ≤ sim.instructionCount ∧
      Follows s limit t (s.after t).pc.toUInt64 sim ∧
      ∃ is, Blocked s t sim.settings.capacity addr is
  | (.failed _ _, _) => True

omit [Debugger δ] in
/-- The reaction to how a unit was left. -/
theorem Left.react {result : Except Exception UInt64}
    (h : Left s t result sim.machine.core) (hnarrow : s.core.Narrow) (ht : 0 < t)
    (hcarries : Carries s t sim) (hlayout : sim.settings.layout = layout)
    (harmed : sim.settings.preciseLimit = true → sim.machine.context.icountLimit = limit)
    (hlast : ∀ u < t, s.counted u < s.counted t) :
    Turned s limit t (react pc (result.mapError .exception, sim)) := by
  match result with
  | .ok next =>
      obtain ⟨hended, hnext, counts, hcore⟩ := h
      rw [goto_after ht hended] at hcore
      exact ⟨hended, hnext, ⟨counts, hcore⟩, hcarries, hlayout, harmed, fun _ => hlast⟩
  | .error (.accessTrap id addr) =>
      obtain ⟨-, core, pc', counts, hcore, hafter⟩ := h
      obtain ⟨hended, hvector, hentered⟩ := enterTrap_after hnarrow hafter counts
      rw [← hcore] at hvector hentered
      exact ⟨hended, hvector, ⟨counts, hentered⟩, hcarries, hlayout, harmed, fun _ => hlast⟩
  | .error (.stopped code) =>
      obtain ⟨-, core, pc', counts, hcore, hafter⟩ := h
      refine ⟨by rw [hafter]; rfl, ⟨counts, ?_⟩, hlast⟩
      rw [hafter]
      exact hcore
  | .error (.undecodable addr) => exact absurd rfl (h.1 addr)

omit [Debugger δ] in
theorem Follows.purge {purged : Simulator Core Codegen δ} (h : Follows s limit t pc sim)
    (hpurge : sim.purge = .ok purged) : Follows s limit t pc purged where
  ended := h.ended
  pc_eq := h.pc_eq
  core := by
    rw [purge_machine hpurge]
    exact h.core
  carries := h.carries.of_subset (purge_settings hpurge) (purge_live hpurge)
  layout_eq := by
    rw [purge_settings hpurge]
    exact h.layout_eq
  armed := by
    rw [purge_settings hpurge, purge_machine hpurge]
    exact h.armed
  reached := by
    rw [instructionCount, purge_machine hpurge]
    exact h.reached

omit [Debugger δ] in
theorem Follows.searched {sim₁ : Simulator Core Codegen δ} {result : Except BuildError CodeUnit}
    (h : Follows s limit t pc sim) (hunit : sim.unitFor pc = (result, sim₁)) :
    Follows s limit t pc sim₁ ∧ sim₁.settings = sim.settings ∧
      sim₁.machine.core = sim.machine.core := by
  obtain ⟨counts, hcore⟩ := h.core
  have hsettings := (unitFor_spec hunit).1
  have hframe := unitFor_frame sim pc
  rw [hunit] at hframe
  simp only at hframe
  refine ⟨⟨h.ended, h.pc_eq, ⟨counts, hframe.1.trans hcore⟩,
    (h.carries.unitFor hcore hunit).1, ?_, ?_, ?_⟩, hsettings, hframe.1⟩
  · rw [hsettings]
    exact h.layout_eq
  · rw [hsettings, hframe.2]
    exact h.armed
  · rw [instructionCount, hframe.1]
    exact h.reached

omit [Debugger δ] in
/-- The search for a unit leaves the simulator where it is, and a unit that it finds is sound. -/
theorem Follows.found {sim₁ : Simulator Core Codegen δ} {unit : CodeUnit}
    (h : Follows s limit t pc sim) (hfind : sim.find pc = (.ok unit, sim₁)) :
    Follows s limit t pc sim₁ ∧ sim₁.settings = sim.settings ∧
      sim₁.machine.core = sim.machine.core ∧ Kept s t sim₁.settings pc unit := by
  obtain ⟨purged, hpurge, hunit⟩ := find_eq_ok hfind
  have hfollows := h.purge hpurge
  obtain ⟨counts, hcore⟩ := hfollows.core
  obtain ⟨hsearched, hsettings, hframe⟩ := hfollows.searched hunit
  have hkept := (hfollows.carries.unitFor hcore hunit).2 unit rfl
  rw [← hsettings] at hkept
  exact ⟨hsearched, hsettings.trans (purge_settings hpurge),
    hframe.trans (congrArg Machine.core (purge_machine hpurge)), hkept⟩

/-- A turn that runs a unit takes the interpreter as many steps on as it starts instructions. -/
theorem Follows.turn_of_ok {sim₁ : Simulator Core Codegen δ} {unit : CodeUnit} {n k : Nat}
    (h : Follows s limit t pc sim) (hnarrow : s.core.Narrow) (hcoherent : s.Coherent n)
    (hleft : ¬ limit ≤ sim.instructionCount) (hfind : sim.find pc = (.ok unit, sim₁))
    (hrefusal : ∀ start ∈ sim.turnStarts limit pc, start.refusal = none)
    (hk : k = (sim.turnStarts limit pc).length) (hn : s.counted t + k ≤ n) :
    s.counted (t + k) = s.counted t + k ∧ Turned s limit (t + k) (sim.turn limit pc) := by
  obtain ⟨hsearched, hsettings, hcore, hkept⟩ := h.found hfind
  obtain ⟨counts, hcore₁⟩ := hsearched.core
  have hstarts := turnStarts_of_ok hleft hfind
  rw [← hsettings] at hstarts
  rw [hstarts] at hrefusal hk
  obtain ⟨hcounted, hcarries, hending⟩ := hkept.runUnit hsearched.carries hsearched.layout_eq
    hcoherent hnarrow h.ended h.pc_eq hcore₁ hk hrefusal hn
  have hpos : 0 < k := by
    rw [instructionCount, ← hcore] at hleft
    exact hk ▸ starts_pos hkept.made hsearched.layout_eq hsearched.armed hleft pc
  have hlast : ∀ u < t + k, s.counted u < s.counted (t + k) := by
    intro u hu
    have hmono : s.counted u ≤ s.counted (t + (k - 1)) := counted_mono (by omega)
    rw [hcounted (k - 1) (by omega)] at hmono
    rw [hcounted k (Nat.le_refl k)]
    omega
  refine ⟨hcounted k (Nat.le_refl k), ?_⟩
  rw [turn_of_left hleft, attempt_of_ok hfind]
  refine hending.react hnarrow (by omega) hcarries ?_ ?_ hlast
  · rw [(runUnit_frame sim₁ unit pc).2]
    exact hsearched.layout_eq
  · rw [(runUnit_frame sim₁ unit pc).2, runUnit_machine]
    intro hprecise
    exact (Code.run_icountLimit _ _).trans (hsearched.armed hprecise)

/-- A turn that meets a word that is no instruction while it builds a unit leaves all as it was. -/
theorem Follows.turn_of_error {sim₁ : Simulator Core Codegen δ} {failure : UnitFailure}
    (h : Follows s limit t pc sim) (hleft : ¬ limit ≤ sim.instructionCount)
    (hmapped : sim.machine.core.Mapped pc) (hfind : sim.find pc = (.error failure, sim₁)) :
    Turned s limit t (sim.turn limit pc) := by
  rw [turn_of_left hleft, attempt_of_error hfind]
  rcases find_eq_error hfind with ⟨e, -, rfl, -⟩ | ⟨purged, e, hpurge, hunit, rfl⟩
  · trivial
  · obtain ⟨hsearched, hsettings, hcore⟩ := (h.purge hpurge).searched hunit
    obtain ⟨counts, hcore₁⟩ := hsearched.core
    rw [← purge_machine hpurge] at hmapped
    rcases unitFor_eq_error hmapped hunit with
      ⟨rfl, -⟩ | ⟨is, rfl, hholds, hlength, hnext, hfetch⟩
    · trivial
    rw [← hcore, hcore₁] at hholds hfetch
    rw [← hsettings] at hlength
    rw [instructionCount, ← purge_machine hpurge, ← hcore] at hleft
    refine ⟨rfl, hleft, h.pc_eq ▸ hsearched, is, hlength, hnext, ?_, by rw [h.pc_eq], hfetch⟩
    rw [← h.pc_eq]
    exact hholds.congr fun _ _ => rfl

/-- A turn takes the interpreter to where as many instructions more were executed as it starts. -/
theorem Follows.turn {n : Nat} (h : Follows s limit t pc sim) (hnarrow : s.core.Narrow)
    (hcoherent : s.Coherent n)
    (hrefusal : ∀ start ∈ sim.turnStarts limit pc, start.refusal = none)
    (hn : s.counted t + (sim.turnStarts limit pc).length ≤ n) :
    ∃ t', s.counted t' = s.counted t + (sim.turnStarts limit pc).length ∧
      Turned s limit t' (sim.turn limit pc) := by
  by_cases hspent : limit ≤ sim.instructionCount
  · refine ⟨t, by rw [turnStarts_of_spent hspent]; rfl, ?_⟩
    rw [turn_of_spent hspent]
    exact ⟨hspent, h⟩
  · by_cases hmapped : sim.machine.core.Mapped pc
    · cases hfind : sim.find pc with
      | mk result sim₁ =>
          cases result with
          | ok unit => exact ⟨_, h.turn_of_ok hnarrow hcoherent hspent hfind hrefusal rfl hn⟩
          | error failure =>
              refine ⟨t, by rw [turnStarts_of_error hspent hfind]; rfl, ?_⟩
              exact h.turn_of_error hspent hmapped hfind
    · cases hpurge : sim.purge with
      | error e =>
          refine ⟨t, by rw [turnStarts_of_error hspent (find_of_unpurged hpurge)]; rfl, ?_⟩
          rw [turn_of_unpurged hspent hpurge]
          trivial
      | ok purged =>
          obtain ⟨pc', sim', hturn, hstarts, hcounted, hfollows⟩ :=
            h.turn_of_not_mapped hnarrow hspent hpurge hmapped
          refine ⟨t + 1, by rw [hstarts, hcounted]; rfl, ?_⟩
          rw [hturn]
          exact hfollows

/-- The loop takes the interpreter to where as many instructions more were executed as it
starts. -/
theorem Follows.loop {n fuel : Nat} {pc' : UInt64} {sim' : Simulator Core Codegen δ}
    {e : RunExit} (h : Follows s limit t pc sim) (hnarrow : s.core.Narrow)
    (hcoherent : s.Coherent n)
    (hloop : Simulator.loop limit fuel pc sim = some (.ok e, pc', sim'))
    (hrefusal : ∀ start ∈ overTurns (turnStarts limit) limit fuel pc sim, start.refusal = none)
    (hn : s.counted t + (overTurns (turnStarts limit) limit fuel pc sim).length ≤ n) :
    ∃ t', s.counted t' = s.counted t + (overTurns (turnStarts limit) limit fuel pc sim).length ∧
      Turned s limit t' (.exit e pc', sim') := by
  induction fuel generalizing pc sim t with
  | zero => simp [Simulator.loop] at hloop
  | succ fuel ih =>
      rw [Simulator.loop] at hloop
      rw [overTurns, List.length_append] at hn ⊢
      rw [overTurns] at hrefusal
      obtain ⟨t₁, hcounted, hturned⟩ := h.turn hnarrow hcoherent
        (fun start hstart => hrefusal start (List.mem_append_left _ hstart)) (by omega)
      cases hcase : sim.turn limit pc with
      | mk ending sim₁ =>
          rw [hcase] at hloop hturned hn hrefusal
          cases ending with
          | next pc₁ =>
              obtain ⟨t', hcounted', hturned'⟩ := ih hturned hloop
                (fun start hstart => hrefusal start (List.mem_append_right _ hstart))
                (by simp only at hn; omega)
              exact ⟨t', by simp only; omega, hturned'⟩
          | exit e pc₁ =>
              simp only [Option.some.injEq, Prod.mk.injEq, Except.ok.injEq] at hloop
              obtain ⟨rfl, rfl, rfl⟩ := hloop
              exact ⟨t₁, hcounted, hturned⟩
          | failed e pc₁ => simp at hloop

/-! ## Runs -/

theorem turn_ne_failed (h : sim.cache.compiler.Reliable) {e : SimError} {pc' : UInt64}
    {sim' : Simulator Core Codegen δ} : sim.turn limit pc ≠ (.failed e pc', sim') := by
  intro hturn
  by_cases hspent : limit ≤ sim.instructionCount
  · simp [turn_of_spent hspent] at hturn
  rw [turn_of_left hspent] at hturn
  cases hfind : sim.find pc with
  | mk result sim₁ =>
      cases result with
      | ok unit =>
          rw [attempt_of_ok hfind] at hturn
          generalize sim₁.runUnit unit pc = ran at hturn
          match ran with
          | (.ok next, _) => simp [Except.mapError, react] at hturn
          | (.error (.accessTrap _ _), _) => simp [Except.mapError, react] at hturn
          | (.error (.stopped _), _) => simp [Except.mapError, react] at hturn
          | (.error (.undecodable _), _) => simp [Except.mapError, react] at hturn
      | error failure =>
          rw [attempt_of_error hfind] at hturn
          rcases find_eq_error hfind with ⟨e, hpurge, -⟩ | ⟨purged, e, hpurge, hunit, rfl⟩
          · simp [purge_of_renews h.renews] at hpurge
          · by_cases hmapped : purged.machine.core.Mapped pc
            · rcases unitFor_eq_error hmapped hunit with ⟨-, hunreliable⟩ | ⟨is, rfl, -⟩
              · rw [purge_of_renews h.renews] at hpurge
                cases hpurge
                refine hunreliable ?_
                simp only
                split <;> exact h
              · simp [searchFailure, react] at hturn
            · rw [unitFor_of_not_mapped hmapped] at hunit
              cases hunit
              simp [searchFailure, react] at hturn

theorem loop_isOk_of_reliable {fuel : Nat} {pc' : UInt64} {sim' : Simulator Core Codegen δ}
    {result : Except SimError RunExit} (h : sim.cache.compiler.Reliable)
    (hloop : Simulator.loop limit fuel pc sim = some (result, pc', sim')) :
    ∃ e, result = .ok e := by
  induction fuel generalizing pc sim with
  | zero => simp [Simulator.loop] at hloop
  | succ fuel ih =>
      have hcompiler := turn_compiler limit pc sim
      rw [Simulator.loop] at hloop
      cases hturn : sim.turn limit pc with
      | mk ending sim₁ =>
          rw [hturn] at hloop hcompiler
          cases ending with
          | next pc₁ => exact ih (hcompiler ▸ h) hloop
          | exit e pc₁ =>
              simp only [Option.some.injEq, Prod.mk.injEq] at hloop
              exact ⟨e, hloop.1.symm⟩
          | failed e pc₁ => exact absurd hturn (turn_ne_failed h)

abbrev reference (sim : Simulator Core Codegen δ) : Interpreter := .ofCore sim.machine.core

/-- Every unit that the simulator may run was built by it from words that memory still holds. -/
def Fresh (sim : Simulator Core Codegen δ) : Prop :=
  ∀ entry ∈ sim.cache.live, entry.1.cluster = sim.cluster → ∃ state : Codegen × Machine Core δ,
    (Draft.build sim.settings (.fetch entry.1.phys) state).1 = .ok entry.2.toDraft ∧
      ∀ addr ∈ entry.2.boundaries, state.2.core.word? addr = sim.machine.core.word? addr

omit [Debugger δ] in
theorem fresh_of_live_eq_nil (h : sim.cache.live = []) : Fresh sim := by
  intro entry hentry
  simp [h] at hentry

omit [Debugger δ] in
theorem Fresh.follows (h : Fresh sim) (hlayout : sim.settings.layout = layout) :
    Follows (reference sim) limit 0 (Architecture.currentPc sim.machine.core)
      (sim.armed limit) := by
  refine ⟨rfl, rfl, ⟨sim.machine.core.phaseCounts, rfl⟩, ?_, hlayout, ?_, ?_⟩
  · intro entry hentry hcluster
    obtain ⟨state, hbuild, hwords⟩ := h entry hentry hcluster
    exact kept_of_build hbuild hwords
  · intro hprecise
    simp only [armed] at hprecise ⊢
    rw [hprecise, if_pos rfl]
  · intro _ u hu
    exact absurd hu (Nat.not_lt_zero u)

omit [Debugger δ] in
theorem closed_core {e : RunExit} {core : Core} {counts : Nat × Nat} (hmoves : e.movesPc = true)
    (hlayout : sim.settings.layout = layout) (hcore : sim.machine.core = core.withPhases counts)
    (pc : UInt64) :
    (sim.closed (.ok e) pc).machine.core =
      Core.withPhases { core with regs.pc := pc.toUInt32, regs.nextPc := pc.toUInt32 } counts := by
  have hlayout' : sim.disarmed.settings.layout = layout := hlayout
  simp only [closed, hmoves, if_true, writePc, hlayout']
  simp only [disarmed, hcore]
  rfl

/-- With a reliable compiler no run fails. -/
theorem run_isOk_of_reliable {sim' : Simulator Core Codegen δ} {fuel : Nat}
    {limit : Option UInt64} {result : Except SimError RunExit}
    (h : sim.cache.compiler.Reliable) (hrun : sim.run fuel limit = some (result, sim')) :
    ∃ e, result = .ok e := by
  obtain ⟨pc, sim₁, hloop, -⟩ := run_eq_some hrun
  have harmed : (sim.armed (limit.getD (-1))).cache.compiler.Reliable := h
  exact loop_isOk_of_reliable harmed hloop

/-- A run takes the interpreter to where as many instructions were executed as it starts. -/
theorem Fresh.run {sim' : Simulator Core Codegen δ} {fuel : Nat} {limit : Option UInt64}
    {e : RunExit} (hfresh : Fresh sim)
    (hlayout : sim.settings.layout = layout) (hnarrow : sim.machine.core.Narrow)
    (hrun : sim.run fuel limit = some (.ok e, sim'))
    (hrefusal : ∀ start ∈ sim.runStarts fuel limit, start.refusal = none)
    (hcoherent : (reference sim).Coherent (sim.runStarts fuel limit).length) :
    ∃ t pc sim₁, (reference sim).counted t = (sim.runStarts fuel limit).length ∧
      Turned (reference sim) (limit.getD (-1)) t (.exit e pc, sim₁) ∧
      sim₁.settings = sim.settings ∧ sim'.machine = (sim₁.closed (.ok e) pc).machine := by
  obtain ⟨pc, sim₁, hloop, rfl⟩ := run_eq_some hrun
  obtain ⟨t, hcounted, hturned⟩ := (hfresh.follows hlayout).loop hnarrow hcoherent hloop
    hrefusal (Nat.le_of_eq (Nat.zero_add _))
  have harmed : (sim.armed (limit.getD (-1))).settings = sim.settings := rfl
  have hsettings : sim₁.settings = sim.settings :=
    loop_keeps (I := fun sim₂ => sim₂.settings = sim.settings)
      (fun pc sim₂ h => (turn_settings _ pc sim₂).trans h) harmed hloop
  exact ⟨t, pc, sim₁, hcounted.trans (Nat.zero_add _), hturned, hsettings, rfl⟩

/-- A run that is neither refused nor meets a word that is no instruction does what the interpreter
does one instruction at a time, whatever the size of units, the kind of limit, the plugins, the
notices that the core is given, and the units in the cache. -/
theorem run_eq_interpreter {sim' : Simulator Core Codegen δ} {fuel : Nat} {limit : Option UInt64}
    {e : RunExit} (hfresh : Fresh sim) (hlayout : sim.settings.layout = layout)
    (hnarrow : sim.machine.core.Narrow) (hrun : sim.run fuel limit = some (.ok e, sim'))
    (hdecoded : ∀ addr, e ≠ .decodeError addr)
    (hrefusal : ∀ start ∈ sim.runStarts fuel limit, start.refusal = none)
    (hcoherent : (reference sim).Coherent (sim.runStarts fuel limit).length) :
    ∃ t counts, (reference sim).StopsAt (sim.runStarts fuel limit).length t ∧
      e = ((reference sim).after t).exit ∧
      sim'.machine.core = ((reference sim).after t).rest.withPhases counts := by
  obtain ⟨t, pc, sim₁, hcounted, hturned, -, hmachine⟩ :=
    hfresh.run hlayout hnarrow hrun hrefusal hcoherent
  match e with
  | .decodeError addr => exact absurd rfl (hdecoded addr)
  | .stopped code =>
      obtain ⟨hended, ⟨counts, hcore⟩, hlast⟩ := hturned
      refine ⟨t, counts, ⟨hcounted, hcounted ▸ hlast⟩, ?_, ?_⟩
      · rw [exit, hended, Option.getD_some]
      · rw [hmachine, rest, hended]
        exact hcore
  | .instructionLimit =>
      obtain ⟨hspent, hfollows⟩ := hturned
      obtain ⟨counts, hcore⟩ := hfollows.core
      refine ⟨t, counts, ⟨hcounted, hcounted ▸ hfollows.reached hspent⟩, ?_, ?_⟩
      · rw [exit, hfollows.ended, Option.getD_none]
      · rw [hmachine, closed_core rfl hfollows.layout_eq hcore, rest, hfollows.ended,
          hfollows.pc_eq, UInt32.toUInt32_toUInt64]
        rfl

/-- A program that changes its first instruction, discards the units and starts over. -/
def patching : Core :=
  .loaded 0x1000 [⟨.li, 3, 0, 1⟩, ⟨.li, 1, 0, 0x1000⟩, ⟨.li, 2, 0, 7⟩, ⟨.stb, 2, 1, 0⟩,
    ⟨.flush, 0, 0, 0⟩, ⟨.jmp, 0, 0, -5⟩]

set_option maxRecDepth 2000 in
/-- The run of the changed instruction is that of the interpreter. -/
theorem run_eq_interpreter_patching :
    ∃ sim sim', simulate {} patching = .ok sim ∧
      sim.run 5 (some 7) = some (.ok .instructionLimit, sim') ∧
      sim'.machine.core.reg 3 = 7 ∧
      ∃ t counts, (ofCore patching).StopsAt 7 t ∧
        .instructionLimit = ((ofCore patching).after t).exit ∧
        sim'.machine.core = ((ofCore patching).after t).rest.withPhases counts := by
  obtain ⟨sim, sim', hsim, hrun, hreg, hcore, hlive, hlayout, hstarts, hrefusal⟩ : ∃ sim sim',
      simulate {} patching = .ok sim ∧
        sim.run 5 (some 7) = some (.ok .instructionLimit, sim') ∧
        sim'.machine.core.reg 3 = 7 ∧ sim.machine.core = patching ∧ sim.cache.live = [] ∧
        sim.settings.layout = layout ∧ (sim.runStarts 5 (some 7)).length = 7 ∧
        ∀ start ∈ sim.runStarts 5 (some 7), start.refusal = none :=
    ⟨_, _, rfl, rfl, rfl, rfl, rfl, rfl, rfl, by decide⟩
  have hcoherent : (ofCore patching).Coherent 7 :=
    coherent_of_forall_lt (show 7 ≤ (ofCore patching).counted 7 by decide) (by decide)
  have hfollowed := run_eq_interpreter (fresh_of_live_eq_nil hlive) hlayout
    (by rw [hcore]; decide) hrun (by simp) hrefusal (by rwa [reference, hcore, hstarts])
  rw [reference, hcore, hstarts] at hfollowed
  exact ⟨sim, sim', hsim, hrun, hreg, hfollowed⟩

end GuestSim.Mini

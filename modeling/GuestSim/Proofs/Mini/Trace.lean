import GuestSim.Proofs.Mini.UnitSemantics
import GuestSim.Proofs.Trace
import GuestSim.Proofs.Upkeep

/-! # The observers of the small architecture

The trace of a run in terms of the instructions that it counts: where they lie, and which of them
raise an exception. -/

namespace GuestSim

theorem Mini.unseen : Emitter.Unseen Mini.Codegen Event.isCall where
  body _ h := Code.Uses.mono (fun op hop => by cases op <;> trivial) (ordinary_of_generated h).uses
  leave _ _ := ⟨trivial, fun _ => trivial⟩
  trap _ _ := ⟨trivial, fun _ => trivial⟩

namespace Mini

variable {δ : Type} [Debugger δ]

/-! ## One instruction -/

def Instr.accesses (i : Instr) : Bool := i.op ∈ [.ld, .ldb, .st, .stb, .halt]

theorem Instr.accesses_of_raised {i : Instr} {pc : UInt32} {core : Core}
    (h : (i.execute pc core).1.isSome = true) : i.accesses = true := by
  unfold execute at h
  unfold accesses
  cases hop : i.op with
  | ld => rfl
  | ldb => rfl
  | st => rfl
  | stb => rfl
  | halt => rfl
  | _ => simp [hop] at h

/-- The instruction that is counted is `i`: the debugger is asked about the address at which it
lies, and unless it refuses, control reaches the end of `i` if `i` raises nothing. -/
structure Performs (i : Instr) (counted : Counted Core δ) : Prop where
  fragment_eq : counted.fragment =
    ⟨counted.fragment.address, i.outcome, true, i.body counted.fragment.address⟩
  address_eq : counted.settings.startAddress counted.machine.core =
    counted.fragment.address.toUInt32.toUInt64
  raised_eq : counted.refusal = none → counted.raised =
    (i.execute counted.machine.core.regs.nextPc
      (counted.opened.core.goto (counted.machine.core.regs.nextPc + 4))).1
  completes_eq : counted.refusal = none → counted.completes = counted.raised.isNone
  accesses : counted.refusal = none → counted.raised.isSome = true → i.accesses = true

theorem performs_start {settings : Settings} (hlayout : settings.layout = layout) (ordinal : Nat)
    {i : Instr} (hrd : i.rd.toNat < 8) (hrs : i.rs.toNat < 8) {addr : UInt64} {m : Machine Core δ}
    (hpc : m.core.regs.nextPc = addr.toUInt32) (hm : m.context.exception = none) :
    Performs i ⟨⟨settings, ordinal, m⟩, ⟨addr, i.outcome, true, i.body addr⟩⟩ := by
  let counted : Counted Core δ := ⟨⟨settings, ordinal, m⟩, ⟨addr, i.outcome, true, i.body addr⟩⟩
  have hbody (h : counted.refusal = none) : Agrees ((i.body addr).exec counted.opened)
      (i.execute addr.toUInt32 (counted.opened.core.goto (addr.toUInt32 + 4))) := by
    rw [i.body_toUInt32]
    exact agrees_body hrd hrs _ ((Counted.opened_exception h).trans hm)
  refine ⟨rfl, ?_, fun h => ?_, fun h => ?_, fun h hraised => ?_⟩
  · rw [startAddress_eq hlayout, hpc]
  · rw [hpc]
    exact (hbody h).exception
  · have hdeparts := (hbody h).departs
    rw [Counted.completes, Counted.raised, (hbody h).exception, hdeparts]
    cases (i.execute addr.toUInt32 (counted.opened.core.goto (addr.toUInt32 + 4))).1 with
    | none => rfl
    | some e => rfl
  · rw [Counted.raised, (hbody h).exception] at hraised
    exact Instr.accesses_of_raised hraised

/-! ## Units -/

/-- The instructions that a block counts are its own, in order. -/
theorem performs_of_mem_countedFrom {settings : Settings} (hlayout : settings.layout = layout)
    (ordinal : Nat) {addr : UInt64} {is : List Instr}
    (hregs : ∀ i ∈ is, i.rd.toNat < 8 ∧ i.rs.toNat < 8)
    (hnext : ∀ i ∈ is.dropLast, i.outcome = .next) {m : Machine Core δ}
    (hpc : is ≠ [] → m.core.regs.nextPc = addr.toUInt32) (hm : m.context.exception = none) :
    ∀ counted ∈ Draft.countedFrom settings ordinal (fragments addr is) m,
      ∃ i ∈ is, Performs i counted := by
  induction is generalizing addr ordinal m with
  | nil => simp [fragments, Draft.countedFrom, Draft.startsFrom]
  | cons i is ih =>
      obtain ⟨⟨hrd, hrs⟩, hregs⟩ := List.forall_mem_cons.mp hregs
      rw [fragments]
      by_cases hexhausted : settings.Exhausted m
      · simp [Draft.countedFrom_of_exhausted hexhausted]
      · rw [Draft.countedFrom_of_not_exhausted hexhausted]
        have haddr := hpc (by simp)
        have hyields := yields_instruction hlayout ordinal hrd hrs haddr hm
        refine List.forall_mem_cons.mpr
          ⟨⟨i, List.mem_cons_self, performs_start hlayout ordinal hrd hrs haddr hm⟩, ?_⟩
        cases hinstr : (settings.instruction ordinal
            ⟨addr, i.outcome, true, i.body addr⟩).exec m with
        | mk ending m₁ =>
            rw [hinstr] at hyields
            cases ending with
            | error d => simp
            | ok _ =>
                rcases hperform : i.perform settings m.core m.context.debugger with
                  ⟨raised, core, debugger⟩
                rw [hperform] at hyields
                obtain ⟨⟨hdeparts, hcore, hexception⟩, -⟩ := hyields
                simp only at hdeparts hcore hexception
                cases raised with
                | some e => simp at hdeparts
                | none =>
                    -- Only the last instruction may go elsewhere, and then nothing follows it.
                    obtain ⟨hi, hrest⟩ := outcome_cons hnext
                    have hpc' : is ≠ [] → m₁.core.regs.nextPc = (addr + 4).toUInt32 := by
                      intro hne
                      rw [hcore]
                      exact Instr.nextPc_perform (hi hne) haddr hperform
                    intro counted hcounted
                    obtain ⟨j, hj, hperforms⟩ :=
                      ih (ordinal + 1) hregs hrest hpc' hexception counted hcounted
                    exact ⟨j, List.mem_cons_of_mem i hj, hperforms⟩

/-- A unit that is kept under the address of the instructions that it was built from. -/
def Placed (entry : UnitKey × CodeUnit) : Prop :=
  ∃ is, entry.2.fragments = fragments entry.1.phys is ∧
    (∀ i ∈ is, i.rd.toNat < 8 ∧ i.rs.toNat < 8) ∧ ∀ i ∈ is.dropLast, i.outcome = .next

omit [Debugger δ] in
theorem lasting_placed :
    Simulator.Lasting Core Codegen δ fun cache => ∀ entry ∈ cache.live, Placed entry := by
  refine Simulator.lasting_live ?_
  intro sim pc phys m entry hresolve hphys hbuild
  rw [resolve_machine, Prod.mk.injEq] at hresolve
  obtain ⟨is, hfragments, hholds, hnext⟩ := build_eq_block hbuild
  refine ⟨is, ?_, hholds.registers, hnext⟩
  rw [hphys, Core.val_of_resolve hresolve.1]
  exact hfragments

/-! ## Runs -/

open Simulator

theorem performs_of_mem_turnCounted {sim : Simulator Core Codegen δ} (hfilled : sim.Filled)
    (hplaced : ∀ entry ∈ sim.cache.live, Placed entry) (hlayout : sim.settings.layout = layout)
    (limit pc : UInt64) :
    ∀ counted ∈ sim.turnCounted limit pc,
      counted.settings = sim.settings ∧ ∃ i, Performs i counted := by
  by_cases hspent : limit ≤ sim.instructionCount
  · simp [turnCounted_of_spent hspent]
  · cases hfind : sim.find pc with
    | mk result sim₁ =>
        cases result with
        | error e => simp [turnCounted_of_error hspent hfind]
        | ok unit =>
            have hmade := hfilled.found_made hfind
            obtain ⟨purged, hpurge, hunit⟩ := find_eq_ok hfind
            obtain ⟨phys, m, hresolve, hentry⟩ := (unitFor_spec hunit).2.1 unit rfl
            rw [resolve_machine, Prod.mk.injEq] at hresolve
            -- The unit may have been built long ago, but never from another address.
            obtain ⟨is, hfragments, hregs, hnext⟩ :=
              lasting_placed.search hunit (lasting_placed.purge hplaced hpurge) _ hentry
            rw [Core.val_of_resolve hresolve.1] at hfragments
            rw [turnCounted_of_ok hspent hfind, Draft.counted, hmade.settings_eq, hfragments,
              hlayout]
            intro counted hcounted
            have hstart := List.mem_map_of_mem (f := Counted.toStart) hcounted
            rw [Draft.map_toStart_countedFrom] at hstart
            obtain ⟨i, -, hperforms⟩ := performs_of_mem_countedFrom hlayout 0 hregs hnext
              (fun _ => rfl) rfl counted hcounted
            exact ⟨Draft.settings_of_mem_startsFrom _ _ _ _ _ hstart, i, hperforms⟩

theorem performs_of_mem_runCounted {sim : Simulator Core Codegen δ} (hfilled : sim.Filled)
    (hplaced : ∀ entry ∈ sim.cache.live, Placed entry) (hlayout : sim.settings.layout = layout)
    (fuel : Nat) (limit : Option UInt64) :
    ∀ counted ∈ (sim.runCounted fuel limit).flatten,
      counted.settings = sim.settings ∧ ∃ i, Performs i counted := by
  rw [flatten_runCounted]
  refine forall_overTurns (I := fun s => s.Filled ∧ (∀ entry ∈ s.cache.live, Placed entry) ∧
    s.settings = sim.settings) ?_ ?_ ⟨hfilled.of_subset rfl fun _ hentry => hentry, hplaced, rfl⟩
  · rintro pc s ⟨hfilled, hplaced, hsettings⟩
    have hlayout' : s.settings.layout = layout := by rw [hsettings, hlayout]
    have hturn := performs_of_mem_turnCounted hfilled hplaced hlayout' (limit.getD (-1)) pc
    rwa [hsettings] at hturn
  · rintro pc s ⟨hfilled, hplaced, hsettings⟩
    exact ⟨hfilled.turn _ pc, lasting_placed.turn _ pc hplaced,
      (turn_settings _ pc s).trans hsettings⟩

def isFaulted (counted : Counted Core δ) : Bool :=
  counted.refusal.isNone && counted.raised.isSome

theorem Performs.isStopped_eq {i : Instr} {counted : Counted Core δ} (h : Performs i counted) :
    counted.isStopped = isFaulted counted := by
  rw [Counted.isStopped, isFaulted]
  cases hrefusal : counted.refusal with
  | some e => rfl
  | none => simp [h.completes_eq hrefusal]

/-- The calls that are made on the way from one simulator to the other, which counts the
instructions of `units`. -/
structure Traced (accepted : List (SyncMask × Plugin)) (debugged : Bool)
    (sim sim' : Simulator Core Codegen δ) (units : List (List (Counted Core δ))) : Prop where
  /-- Each instruction makes its calls, one instruction after the other. -/
  calls_eq : sim'.machine.journal.shown Event.isCall = sim.machine.journal.shown Event.isCall ++
    units.flatten.flatMap (Counted.calls accepted debugged)
  /-- A unit numbers its instructions from 0. -/
  ordinals : ∀ unit ∈ units, unit.map (·.ordinal) = List.range unit.length
  settings_eq : ∀ counted ∈ units.flatten, counted.settings = sim.settings
  performs : ∀ counted ∈ units.flatten, ∃ i, Performs i counted
  count_eq : sim'.instructionCount - sim.instructionCount = UInt64.ofNat units.flatten.length
  /-- A plugin that observes everything is told of every start but those that are refused, and of
  the end of everything that was started but what was stopped by an exception. -/
  told : ∀ label, ObservesAll accepted label → ∃ starts ends,
    sim'.machine.journal.told label .pre = sim.machine.journal.told label .pre + starts ∧
    sim'.machine.journal.told label .post = sim.machine.journal.told label .post + ends ∧
    starts + units.flatten.countP Counted.isRefused = units.flatten.length ∧
    ends + units.flatten.countP isFaulted = starts

theorem traced_of_calls {accepted : List (SyncMask × Plugin)} {debugged : Bool}
    {sim sim' : Simulator Core Codegen δ} {units : List (List (Counted Core δ))}
    (hcalls : sim'.machine.journal.shown Event.isCall = sim.machine.journal.shown Event.isCall ++
      units.flatten.flatMap (Counted.calls accepted debugged))
    (hordinals : ∀ unit ∈ units, unit.map (·.ordinal) = List.range unit.length)
    (hperforms : ∀ counted ∈ units.flatten,
      counted.settings = sim.settings ∧ ∃ i, Performs i counted)
    (hcount : sim'.instructionCount =
      sim.instructionCount + UInt64.ofNat units.flatten.length) :
    Traced accepted debugged sim sim' units where
  calls_eq := hcalls
  ordinals := hordinals
  settings_eq counted hcounted := (hperforms counted hcounted).1
  performs counted hcounted := (hperforms counted hcounted).2
  count_eq := by
    rw [hcount, UInt64.add_comm]
    exact UInt64.add_sub_cancel _ _
  told label hlabel := by
    have hfaulted : units.flatten.countP Counted.isStopped = units.flatten.countP isFaulted := by
      refine List.countP_congr fun counted hcounted => ?_
      obtain ⟨-, i, hi⟩ := hperforms counted hcounted
      rw [hi.isStopped_eq]
    obtain ⟨hstarts, hends⟩ := Counted.countP_flatMap_calls hlabel debugged units.flatten
    rw [hfaulted] at hends
    refine ⟨_, _, ?_, ?_, hstarts, hends⟩
    · rw [Journal.told_eq_countP_shown, Journal.told_eq_countP_shown, hcalls, List.countP_append]
    · rw [Journal.told_eq_countP_shown, Journal.told_eq_countP_shown, hcalls, List.countP_append]

/-- Whatever was done to a simulator since it was set up with a record of all events, and however
long a run then goes on, the calls that the run makes are those of the instructions that it counts:
the debugger is asked about the address of the instruction if one was installed; unless it refuses,
the start is reported to the core if it wants to know, and to the plugins that observe it; and
unless the instruction raises an exception, so is its end. Plugins are told the configured numbers
of the core and of the cluster. -/
theorem observer_trace_of_run {core : Core} {config : Config} {compiler : Compiler}
    {history : List (Action δ)} {fresh sim : Simulator Core Codegen δ}
    (hfresh : Simulator.new { core, journal := ⟨.everything, #[]⟩ } {} config compiler =
      .ok fresh)
    (hhistory : Action.after history fresh = some sim) (fuel : Nat) (limit : Option UInt64) :
    (sim.settings.coreId = config.coreId ∧ sim.settings.clusterId = config.clusterId) ∧
    Traced (accepted history) (isDebugged history) sim (sim.underway fuel limit)
      (sim.runCounted fuel limit) ∧
    ∀ result sim', sim.run fuel limit = some (result, sim') →
      Traced (accepted history) (isDebugged history) sim sim' (sim.runCounted fuel limit) := by
  have hreflects : sim.Reflects history :=
    Action.after_keeps Reflects.perform (reflects_new (by decide) hfresh) hhistory
  obtain ⟨hreachable, hcontinues⟩ := Action.continues_after (.new hfresh) hhistory
  obtain ⟨hlayout, hids, hdetail⟩ : fresh.settings.layout = layout ∧
      (fresh.settings.coreId = config.coreId ∧ fresh.settings.clusterId = config.clusterId) ∧
      fresh.machine.journal.detail = .everything := by
    obtain ⟨cache, -, rfl⟩ := new_eq_ok hfresh
    exact ⟨rfl, ⟨rfl, rfl⟩, rfl⟩
  rw [← hcontinues.layout] at hlayout
  rw [← hcontinues.coreId, ← hcontinues.clusterId] at hids
  rw [← hcontinues.detail] at hdetail
  have hfilled := hreflects.watched.filled
  have hcounting : Counting Core Codegen δ sim.settings.layout := hlayout ▸ counting δ
  have hcalls := hreflects.watched.underway_calls unseen hdetail fuel limit
  rw [hreflects.entries_eq] at hcalls
  have hperforms := performs_of_mem_runCounted hfilled (lasting_placed.reachable
    (fun hcache => by simp [Cache.live_ofConfig hcache]) hreachable) hlayout fuel limit
  have hcount := count_underway hcounting hfilled fuel limit
  have hordinals := sim.ordinal_of_mem_runCounted fuel limit
  refine ⟨hids, traced_of_calls hcalls hordinals hperforms hcount, fun result sim' hrun => ?_⟩
  have hended := (hreflects.watched.run_shown hrun).2.2 _ (Journal.shows_isCall hdetail)
  exact traced_of_calls (hended.trans hcalls) hordinals hperforms
    ((count_ended hcounting hrun).trans hcount)

/-- A debugger refuses the first instruction once. Then the second one reads where there is no
memory, and the trap leads back to the first, until the budget is used up. -/
theorem observer_trace_of_run_refused :
    ∃ (history : List (Action (List Breakpoint)))
      (fresh sim sim' : Simulator Core Codegen (List Breakpoint)),
      history = [.install (.plugin ⟨1, fun _ => some .all⟩),
        .install (.plugin ⟨2, fun _ => some .post⟩),
        .install (.debugger [⟨0x1000, .accessTrap Cause.fetchFault 0, 1⟩])] ∧
      Simulator.new { core := { Core.loaded 0x1000 faulting with syncPhases := .post }
                      journal := ⟨.everything, #[]⟩ } {} { coreId := 7 } = .ok fresh ∧
      Action.after history fresh = some sim ∧
      sim.run 6 (some 5) = some (.ok .instructionLimit, sim') ∧
      Traced (accepted history) (isDebugged history) sim sim' (sim.runCounted 6 (some 5)) ∧
      sim.settings.coreId = 7 ∧ ObservesAll (accepted history) 1 ∧
      sim'.instructionCount - sim.instructionCount = 5 ∧
      sim'.machine.journal.told 1 .pre = 4 ∧ sim'.machine.journal.told 1 .post = 2 := by
  let history : List (Action (List Breakpoint)) :=
    [.install (.plugin ⟨1, fun _ => some .all⟩), .install (.plugin ⟨2, fun _ => some .post⟩),
      .install (.debugger [⟨0x1000, .accessTrap Cause.fetchFault 0, 1⟩])]
  obtain ⟨fresh, hfresh, hsome, hended, hunits, hrefused, hfaulted, hnone⟩ :
      ∃ fresh : Simulator Core Codegen (List Breakpoint),
        Simulator.new { core := { Core.loaded 0x1000 faulting with syncPhases := .post }
                        journal := ⟨.everything, #[]⟩ } {} { coreId := 7 } = .ok fresh ∧
        (Action.after history fresh).isSome = true ∧
        ((Action.after history fresh).bind fun sim => (sim.run 6 (some 5)).map (·.1)) =
          some (.ok .instructionLimit) ∧
        (Action.after history fresh).map (fun sim =>
          (sim.runCounted 6 (some 5)).map (·.length)) = some [1, 2, 2, 0] ∧
        (Action.after history fresh).map (fun sim =>
          (sim.runCounted 6 (some 5)).flatten.countP Counted.isRefused) = some 1 ∧
        (Action.after history fresh).map (fun sim =>
          (sim.runCounted 6 (some 5)).flatten.countP isFaulted) = some 2 ∧
        (Action.after history fresh).map (fun sim => (sim.machine.journal.told 1 .pre,
          sim.machine.journal.told 1 .post)) = some (0, 0) :=
    ⟨_, rfl, by decide +kernel, rfl, by decide +kernel, by decide +kernel, by decide +kernel,
      by decide +kernel⟩
  obtain ⟨sim, hhistory⟩ := Option.isSome_iff_exists.mp hsome
  rw [hhistory, Option.map_some, Option.some.injEq] at hunits hrefused hfaulted hnone
  rw [hhistory, Option.bind_some, Option.map_eq_some_iff] at hended
  obtain ⟨⟨result, sim'⟩, hrun, rfl⟩ := hended
  obtain ⟨⟨hcoreId, -⟩, -, hruns⟩ := observer_trace_of_run hfresh hhistory 6 (some 5)
  have htraced := hruns _ sim' hrun
  have hobserves : ObservesAll (accepted history) 1 := ⟨⟨1, fun _ => some .all⟩, rfl⟩
  have hlength : (sim.runCounted 6 (some 5)).flatten.length = 5 := by
    rw [List.length_flatten, hunits]
    rfl
  have hcount := htraced.count_eq
  obtain ⟨starts, ends, hpre, hpost, hstarts, hends⟩ := htraced.told 1 hobserves
  rw [hlength] at hcount hstarts
  rw [Prod.mk.injEq] at hnone
  refine ⟨history, fresh, sim, sim', rfl, hfresh, hhistory, hrun, htraced, hcoreId, hobserves,
    hcount, ?_, ?_⟩
  · omega
  · omega

end Mini

end GuestSim

import GuestSim.Proofs.Cache.History

/-! # Where the code of a cache is

All code that was compiled and not freed is declared: that of the units that are live, and that of
the units that were discarded since the last reset. -/

namespace GuestSim.Cache

/-! ## The account -/

def code (entry : UnitKey × CodeUnit) : Declared := ⟨entry.1, entry.2.serial⟩

/-- The books are in order. -/
structure Accounted (cache : Cache) : Prop where
  keys : cache.DistinctKeys
  balance : cache.declared.size = cache.live.length + cache.dead
  phys_eq : ∀ entry ∈ cache.live, entry.2.phys = entry.1.phys
  declared : ∀ entry ∈ cache.live, code entry ∈ cache.declared
  /-- Code is declared in the order in which it was compiled. -/
  ordered : (cache.declared.toList.map (·.serial)).Pairwise (· < ·)
  serial_lt : ∀ unit ∈ cache.declared, unit.serial < cache.compiled
  declared_le : cache.declared.size ≤ cache.compiled
  compiled_le : cache.compiled ≤ cache.misses

theorem accounted_ofConfig {config : Config} {compiler : Compiler} {cache : Cache}
    (h : ofConfig config compiler = .ok cache) : cache.Accounted := by
  rw [ofConfig_eq_ok h]
  exact ⟨List.nodup_nil, rfl, by simp, by simp, by simp, by simp, Nat.le_refl _, Nat.le_refl _⟩

/-! ## What the calls do to it -/

namespace Accounted

variable {cache : Cache}

theorem length_kept (p : UnitKey → Prop) [DecidablePred p] (live : List (UnitKey × CodeUnit)) :
    (live.filter fun entry => ¬ p entry.1).length + live.countP (fun entry => p entry.1) =
      live.length := by
  rw [← List.countP_eq_length_filter, Nat.add_comm,
    List.length_eq_countP_add_countP (l := live) fun entry => decide (p entry.1)]
  simp only [decide_not, decide_eq_true_eq]

/-- Discarding units moves them from the live ones to the dead ones. -/
theorem discard (h : cache.Accounted) {live : List (UnitKey × CodeUnit)} {dead : Nat}
    (hlive : live.Sublist cache.live)
    (hdead : live.length + dead = cache.live.length + cache.dead) :
    Accounted { cache with live, dead } where
  keys := h.keys.sublist (hlive.map _)
  balance := h.balance.trans hdead.symm
  phys_eq entry hentry := h.phys_eq entry (hlive.subset hentry)
  declared entry hentry := h.declared entry (hlive.subset hentry)
  ordered := h.ordered
  serial_lt := h.serial_lt
  declared_le := h.declared_le
  compiled_le := h.compiled_le

theorem flush (h : cache.Accounted) (cluster : UInt32) : (cache.flush cluster).Accounted := by
  refine h.discard List.filter_sublist ?_
  have hparts := length_kept (·.cluster = cluster) cache.live
  simp only [size, ne_eq]
  omega

theorem remove (h : cache.Accounted) (key : UnitKey) : (cache.remove key).Accounted := by
  unfold Cache.remove
  split
  · rename_i hfound
    refine h.discard List.filter_sublist ?_
    have hparts := length_kept (· = key) cache.live
    have hone : cache.live.countP (·.1 = key) = 1 := by
      have hcount := List.count_eq_one_of_mem h.keys (lookup_isSome_iff.mp hfound)
      rw [List.count, List.countP_map] at hcount
      rw [← hcount]
      congr
    simp only [ne_eq]
    omega
  · exact h

theorem cleared (h : cache.Accounted) : cache.cleared.Accounted where
  keys := List.nodup_nil
  balance := rfl
  phys_eq := by simp [Cache.cleared]
  declared := by simp [Cache.cleared]
  ordered := List.Pairwise.nil
  serial_lt := by simp [Cache.cleared]
  declared_le := Nat.zero_le _
  compiled_le := h.compiled_le

/-- A unit that is compiled is declared last, with a serial number of its own. -/
theorem extended (h : cache.Accounted) {key : UnitKey} (hkey : cache.lookup key = none)
    (draft : Draft) :
    ((cache.missed.declare key draft).extended key (cache.compile key draft)).Accounted where
  keys := h.keys.extended hkey _
  balance := by
    change (cache.declared.push _).size = (_ :: cache.live).length + cache.dead
    rw [Array.size_push, List.length_cons, h.balance]
    omega
  phys_eq := List.forall_mem_cons.mpr ⟨rfl, h.phys_eq⟩
  declared := by
    refine List.forall_mem_cons.mpr ⟨Array.mem_push_self, fun entry hentry => ?_⟩
    exact Array.mem_push_of_mem _ (h.declared entry hentry)
  ordered := by
    change ((cache.declared.push ⟨key, cache.compiled⟩).toList.map (·.serial)).Pairwise (· < ·)
    rw [Array.toList_push, List.map_append, List.pairwise_append]
    refine ⟨h.ordered, List.pairwise_singleton _ _, ?_⟩
    intro serial hserial serial' hlast
    obtain ⟨unit, hunit, rfl⟩ := List.mem_map.mp hserial
    rw [List.mem_singleton.mp hlast]
    exact h.serial_lt unit (Array.mem_toList_iff.mp hunit)
  serial_lt := by
    intro unit hunit
    rcases Array.mem_push.mp hunit with hunit | rfl
    · exact Nat.lt_succ_of_lt (h.serial_lt unit hunit)
    · exact Nat.lt_succ_self _
  declared_le := by
    change (cache.declared.push _).size ≤ cache.compiled + 1
    rw [Array.size_push]
    exact Nat.succ_le_succ h.declared_le
  compiled_le := Nat.succ_le_succ h.compiled_le

theorem getOrBuild {σ : Type} (h : cache.Accounted) (key : UnitKey)
    (build : σ → Except EmitError Draft × σ) (s : σ) :
    (cache.getOrBuild key build s).2.1.Accounted := by
  have hmissed : cache.compiled ≤ cache.misses + 1 := Nat.le_succ_of_le h.compiled_le
  rcases cache.getOrBuild_cases key build s with
    ⟨unit, -, heq⟩ | ⟨hnone, ⟨e, -, heq⟩ | ⟨draft, -, ⟨-, heq⟩ | ⟨-, heq⟩⟩⟩
  · rw [heq]
    exact { h with }
  · rw [heq]
    exact { h with compiled_le := hmissed }
  · rw [heq]
    exact { h with compiled_le := hmissed }
  · rw [heq]
    exact h.extended hnone draft

theorem perform {σ : Type} (call : Call σ) (state : Cache × σ) (h : state.1.Accounted) :
    (call.perform state).1.Accounted := by
  cases call with
  | getOrBuild key build => exact h.getOrBuild key build state.2
  | flush cluster => exact h.flush cluster
  | remove key => exact h.remove key
  | reset =>
      rcases Call.perform_reset_cases state with heq | heq
      · rwa [heq]
      · rw [heq]
        exact h.cleared
  | lookup key => exact h
  | size cluster => exact h

theorem nodup_serials (h : cache.Accounted) : (cache.declared.toList.map (·.serial)).Nodup :=
  h.ordered.imp Nat.ne_of_lt

theorem mem_declared (h : cache.Accounted) {key : UnitKey} {unit : CodeUnit}
    (hunit : cache.lookup key = some unit) : ⟨key, unit.serial⟩ ∈ cache.declared.toList :=
  Array.mem_toList_iff.mpr (h.declared (key, unit) (mem_of_lookup hunit))

/-- The code of a unit is declared in one place. -/
theorem existsUnique_place (h : cache.Accounted) {key : UnitKey} {unit : CodeUnit}
    (hunit : cache.lookup key = some unit) :
    ∃! i : Nat, cache.declared[i]? = some ⟨key, unit.serial⟩ := by
  obtain ⟨i, hi⟩ := List.mem_iff_getElem?.mp (h.mem_declared hunit)
  have hlt : i < cache.declared.toList.length := (List.getElem?_eq_some_iff.mp hi).1
  simp only [← Array.getElem?_toList]
  refine ⟨i, hi, fun j hj => ?_⟩
  exact ((List.getElem?_inj hlt h.nodup_serials.of_map).mp (hi.trans hj.symm)).symm

theorem key_eq_of_serial_eq (h : cache.Accounted) {key key' : UnitKey} {unit unit' : CodeUnit}
    (hunit : cache.lookup key = some unit) (hunit' : cache.lookup key' = some unit')
    (hserial : unit.serial = unit'.serial) : key = key' := by
  have heq := List.inj_on_of_nodup_map h.nodup_serials (h.mem_declared hunit)
    (h.mem_declared hunit') hserial
  exact congrArg Declared.key heq

end Accounted

/-! ## Freed code -/

/-- All code is newer than the first `n` units that were compiled. -/
def NewerThan (n : Nat) (cache : Cache) : Prop :=
  n ≤ cache.compiled ∧ ∀ unit ∈ cache.declared, n ≤ unit.serial

theorem newerThan_cleared (cache : Cache) : cache.cleared.NewerThan cache.compiled :=
  ⟨Nat.le_refl _, by simp [cleared]⟩

theorem NewerThan.perform {σ : Type} {n : Nat} (call : Call σ) (state : Cache × σ)
    (h : state.1.NewerThan n) : (call.perform state).1.NewerThan n := by
  cases call with
  | getOrBuild key build =>
      obtain ⟨cache, s⟩ := state
      change (cache.getOrBuild key build s).2.1.NewerThan n
      rcases cache.getOrBuild_cases key build s with
        ⟨unit, -, heq⟩ | ⟨-, ⟨e, -, heq⟩ | ⟨draft, -, ⟨-, heq⟩ | ⟨-, heq⟩⟩⟩
      · rw [heq]; exact h
      · rw [heq]; exact h
      · rw [heq]; exact h
      · rw [heq]
        refine ⟨Nat.le_succ_of_le h.1, fun unit hunit => ?_⟩
        rcases Array.mem_push.mp hunit with hunit | rfl
        · exact h.2 unit hunit
        · exact h.1
  | flush cluster => exact h
  | remove key =>
      change (state.1.remove key).NewerThan n
      unfold remove
      split <;> exact h
  | reset =>
      rcases Call.perform_reset_cases state with heq | heq
      · rwa [heq]
      · rw [heq]
        exact ⟨h.1, by simp [cleared]⟩
  | lookup key => exact h
  | size cluster => exact h

/-! ## Counters -/

theorem Call.lookups_perform {σ : Type} (call : Call σ) (state : Cache × σ) :
    (call.perform state).1.hits + (call.perform state).1.misses ≤
      state.1.hits + state.1.misses + 1 := by
  obtain ⟨cache, s⟩ := state
  cases call with
  | getOrBuild key build =>
      simp only [perform]
      rcases cache.getOrBuild_cases key build s with
        ⟨unit, -, heq⟩ | ⟨-, ⟨e, -, heq⟩ | ⟨draft, -, ⟨-, heq⟩ | ⟨-, heq⟩⟩⟩
      · rw [heq]
        exact Nat.le_of_eq (Nat.add_right_comm _ _ _)
      all_goals
        rw [heq]
        exact Nat.le_refl _
  | remove key =>
      simp only [perform, Cache.remove]
      split <;> exact Nat.le_succ _
  | reset =>
      rcases perform_reset_cases (cache, s) with heq | heq
      all_goals
        rw [heq]
        exact Nat.le_succ _
  | _ => exact Nat.le_succ _

theorem Call.lookups_after {σ : Type} (calls : List (Call σ)) (state : Cache × σ) :
    (after calls state).1.hits + (after calls state).1.misses ≤
      state.1.hits + state.1.misses + calls.length := by
  induction calls generalizing state with
  | nil => exact Nat.le_refl _
  | cons call calls ih =>
      have hfirst := call.lookups_perform state
      have hrest := ih (call.perform state)
      rw [after_cons, List.length_cons]
      omega

/-- The counters are words as long as the calls can be counted with a word. -/
theorem counters_lt_of_calls {σ : Type} {config : Config} {compiler : Compiler}
    {fresh cache : Cache} {s₀ s : σ} {calls : List (Call σ)}
    (hfresh : ofConfig config compiler = .ok fresh)
    (hcalls : Call.after calls (fresh, s₀) = (cache, s)) (hfew : calls.length < UInt64.size) :
    cache.hits < UInt64.size ∧ cache.misses < UInt64.size ∧ cache.compiled < UInt64.size ∧
      cache.dead < UInt64.size := by
  have haccounted : cache.Accounted := by
    have hafter := Call.after_keeps (I := fun state : Cache × σ => state.1.Accounted)
      Accounted.perform calls (fresh, s₀) (accounted_ofConfig hfresh)
    rwa [hcalls] at hafter
  have hlookups : cache.hits + cache.misses ≤ calls.length := by
    have hafter := Call.lookups_after calls (fresh, s₀)
    rw [hcalls, ofConfig_eq_ok hfresh] at hafter
    simpa using hafter
  have hbalance := haccounted.balance
  have hdeclared := haccounted.declared_le
  have hcompiled := haccounted.compiled_le
  omega

/-! ## Any calls -/

theorem DistinctKeys.length_live {cache : Cache} (h : cache.DistinctKeys) :
    {key | (cache.lookup key).isSome = true}.ncard = cache.live.length := by
  have hset : {key | (cache.lookup key).isSome = true} =
      ((cache.live.map (·.1)).toFinset : Set UnitKey) := by
    ext key
    rw [Set.mem_ofPred_eq, lookup_isSome_iff, List.coe_toFinset, Set.mem_ofPred_eq]
  rw [hset, Set.ncard_coe_finset, List.toFinset_card_of_nodup h, List.length_map]

theorem dead_getOrBuild {σ : Type} (cache : Cache) (key : UnitKey)
    (build : σ → Except EmitError Draft × σ) (s : σ) :
    (cache.getOrBuild key build s).2.1.dead = cache.dead := by
  rcases cache.getOrBuild_cases key build s with
    ⟨unit, -, heq⟩ | ⟨-, ⟨e, -, heq⟩ | ⟨draft, -, ⟨-, heq⟩ | ⟨-, heq⟩⟩⟩
  all_goals rw [heq]; rfl

theorem lookup_define (cache : Cache) (key key' : UnitKey) (draft : Draft) :
    (cache.define key draft).2.lookup key' = cache.lookup key' := by
  by_cases h : cache.Accepts key draft
  · rw [define_of_accepted cache key h, lookup_declare]
  · rw [define_of_rejected cache key h, lookup_listed]

/-- Whatever calls were made on a cache since it was set up, the code that is declared is that of
the live units and of the dead ones. The code of each live unit is declared in one place, under its
key, that no other one shares; it is none that a reset has freed. A unit that is entered never takes
the place of another, and no more units were compiled than requested, nor declared than compiled.
-/
theorem code_accounted_of_calls {σ : Type} {config : Config} {compiler : Compiler}
    {fresh cache : Cache} {s₀ s : σ} {calls : List (Call σ)} (hcompiler : compiler.Renews)
    (hfresh : ofConfig config compiler = .ok fresh)
    (hcalls : Call.after calls (fresh, s₀) = (cache, s)) :
    cache.declared.size = {key | (cache.lookup key).isSome = true}.ncard + cache.dead ∧
    (∀ key unit, cache.lookup key = some unit →
      unit.phys = key.phys ∧ ∃! i : Nat, cache.declared[i]? = some ⟨key, unit.serial⟩) ∧
    (∀ key key' unit unit', cache.lookup key = some unit → cache.lookup key' = some unit' →
      unit.serial = unit'.serial → key = key') ∧
    (∀ before rest, calls = before ++ .reset :: rest →
      ∀ freed ∈ (Call.after before (fresh, s₀)).1.declared, ∀ key unit,
        cache.lookup key = some unit → unit.serial ≠ freed.serial) ∧
    (∀ key draft, cache.lookup key = none →
      (cache.missed.define key draft).2.lookup key = none) ∧
    (∀ key build, (cache.getOrBuild key build s).2.1.dead = cache.dead) ∧
    cache.compiled ≤ cache.misses ∧ cache.declared.size ≤ cache.compiled := by
  have haccounted (calls : List (Call σ)) : (Call.after calls (fresh, s₀)).1.Accounted :=
    Call.after_keeps (I := fun state : Cache × σ => state.1.Accounted) Accounted.perform calls
      (fresh, s₀) (accounted_ofConfig hfresh)
  have h : cache.Accounted := by
    have hcache := haccounted calls
    rwa [hcalls] at hcache
  refine ⟨?_, ?_, fun _ _ _ _ => h.key_eq_of_serial_eq, ?_, ?_, fun key build => ?_, h.compiled_le,
    h.declared_le⟩
  · rw [h.keys.length_live, h.balance]
  · intro key unit hunit
    exact ⟨h.phys_eq _ (mem_of_lookup hunit), h.existsUnique_place hunit⟩
  · rintro before rest rfl freed hfreed key unit hunit
    have hrenews := Call.renews_after before (fresh, s₀)
      (by rwa [ofConfig_eq_ok hfresh])
    have hnewer := Call.after_keeps NewerThan.perform rest
      (Call.perform .reset (Call.after before (fresh, s₀)))
      (by rw [Call.perform_reset hrenews]; exact newerThan_cleared _)
    rw [Call.after_append, Call.after_cons] at hcalls
    rw [hcalls] at hnewer
    have hlt := (haccounted before).serial_lt freed hfreed
    have hle := hnewer.2 _ (Array.mem_toList_iff.mp (h.mem_declared hunit))
    exact Nat.ne_of_gt (Nat.lt_of_lt_of_le hlt hle)
  · intro key draft hnone
    rw [lookup_define, lookup_missed, hnone]
  · exact cache.dead_getOrBuild key build s

/-- A unit that is built again after a reset, next to one of another cluster that is removed. -/
theorem code_accounted_of_calls_reset :
    ∃ (draft : Draft) (calls : List (Call Nat)) (fresh cache : Cache),
      calls = [.getOrBuild ⟨0, 0x1000⟩ fun n => (.ok draft, n + 1), .reset,
        .getOrBuild ⟨0, 0x1000⟩ fun n => (.ok draft, n + 1),
        .getOrBuild ⟨1, 0x1000⟩ fun n => (.ok draft, n + 1), .remove ⟨1, 0x1000⟩] ∧
      ofConfig {} = .ok fresh ∧ Call.after calls (fresh, 0) = (cache, 3) ∧
      2 = {key | (cache.lookup key).isSome = true}.ncard + 1 ∧
      (∃ unit, cache.lookup ⟨0, 0x1000⟩ = some unit ∧ unit.serial ≠ 0 ∧
        ∃! i : Nat, cache.declared[i]? = some ⟨⟨0, 0x1000⟩, unit.serial⟩) ∧
      (cache.getOrBuild ⟨1, 0x1000⟩ (fun n => (.ok draft, n + 1)) 3).2.1.dead = cache.dead := by
  let slot : RegSlot := ⟨0, 0, 8⟩
  let settings : Settings :=
    ⟨128, 0, 0, .empty, false, true, [], ⟨slot, slot, slot, slot, slot, 1⟩⟩
  let draft : Draft := ⟨settings, [], none, {}, .const .w64 0, .const .w64 0⟩
  obtain ⟨calls, fresh, cache, unit, hlist, hfresh, hcalls, hsize, hdead, hunit, hfreed⟩ :
      ∃ (calls : List (Call Nat)) (fresh cache : Cache) (unit : CodeUnit),
        calls = [.getOrBuild ⟨0, 0x1000⟩ fun n => (.ok draft, n + 1), .reset,
          .getOrBuild ⟨0, 0x1000⟩ fun n => (.ok draft, n + 1),
          .getOrBuild ⟨1, 0x1000⟩ fun n => (.ok draft, n + 1), .remove ⟨1, 0x1000⟩] ∧
        ofConfig {} = .ok fresh ∧ Call.after calls (fresh, 0) = (cache, 3) ∧
        cache.declared.size = 2 ∧ cache.dead = 1 ∧ cache.lookup ⟨0, 0x1000⟩ = some unit ∧
        (Call.after (calls.take 1) (fresh, 0)).1.declared = #[⟨⟨0, 0x1000⟩, 0⟩] :=
    ⟨_, _, _, _, rfl, rfl, rfl, rfl, rfl, rfl, rfl⟩
  obtain ⟨hbalance, hplace, -, hnew, -, hkept, -⟩ := code_accounted_of_calls
    (Compiler.standard_reliable {}).renews hfresh hcalls
  rw [hsize, hdead] at hbalance
  refine ⟨draft, calls, fresh, cache, hlist, hfresh, hcalls, hbalance,
    ⟨unit, hunit, ?_, (hplace _ unit hunit).2⟩, hkept _ _⟩
  refine hnew (calls.take 1) (calls.drop 2) ?_ ⟨⟨0, 0x1000⟩, 0⟩ ?_ _ unit hunit
  · rw [hlist]
    rfl
  · rw [hfreed]
    simp

end GuestSim.Cache

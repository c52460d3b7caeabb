import GuestSim.Proofs.Cache.Accounting
import GuestSim.Proofs.Numeral

/-! # The symbols of units

A symbol tells the cluster, the address and the serial number of its unit. No two units that a cache
has compiled share one, whatever calls were made on it. -/

namespace GuestSim

open Numeral (Digits)

/-! ## What a symbol tells -/

theorem Numeral.Digits.underscore_not_mem {radix : Nat} (hradix : radix ≤ 16) {cs : List Char}
    {n : Nat} (h : Digits radix cs n) : '_' ∉ cs := by
  intro hmem
  obtain ⟨d, hd⟩ := h.isDigit_of_mem hmem
  -- It lies between the letters of either case.
  have hcode : '_'.toNat = 95 := by decide
  have hlt := hd.1
  have := hd.toNat hradix
  omega

namespace Declared

/-- The parts of a symbol, which underscores keep apart. -/
def fields (unit : Declared) : List (List Char) :=
  ["unit".toList, 'c' :: Nat.toDigits 10 unit.key.cluster.toNat,
    (Numeral.paddedHex 16 unit.key.phys.toNat).toList, Nat.toDigits 10 unit.serial]

theorem toList_symbol (unit : Declared) : unit.symbol.toList = ['_'].intercalate unit.fields := by
  simp [symbol, fields, List.intercalate]

theorem underscore_not_mem_fields (unit : Declared) : ∀ field ∈ unit.fields, '_' ∉ field := by
  have hdecimal (n : Nat) : '_' ∉ Nat.toDigits 10 n :=
    (Numeral.digits_toDigits (by decide) n).underscore_not_mem (by decide)
  have hhex : '_' ∉ (Numeral.paddedHex 16 unit.key.phys.toNat).toList :=
    (Numeral.digits_paddedHex 16 _).underscore_not_mem (by decide)
  simp [fields, hdecimal, hhex]

/-- The parts can be read off from a symbol. -/
theorem splitOn_symbol (unit : Declared) : unit.symbol.toList.splitOn '_' = unit.fields := by
  rw [toList_symbol]
  exact List.splitOn_intercalate '_' unit.underscore_not_mem_fields (by simp [fields])

theorem symbol_injective : Function.Injective symbol := by
  rintro ⟨⟨cluster, phys⟩, serial⟩ ⟨⟨cluster', phys'⟩, serial'⟩ h
  have hfields : fields ⟨⟨cluster, phys⟩, serial⟩ = fields ⟨⟨cluster', phys'⟩, serial'⟩ := by
    rw [← splitOn_symbol, h, splitOn_symbol]
  have hdecimal : Function.Injective (Nat.toDigits 10) :=
    Digits.injective (by decide) (Numeral.digits_toDigits (by decide))
  have hhex : Function.Injective fun n => (Numeral.paddedHex 16 n).toList :=
    Digits.injective (by decide) (Numeral.digits_paddedHex 16)
  simp only [fields, List.cons.injEq, true_and, and_true] at hfields
  obtain ⟨hcluster, hphys, hserial⟩ := hfields
  obtain rfl := UInt32.toNat_inj.mp (hdecimal hcluster)
  obtain rfl := UInt64.toNat_inj.mp (hhex hphys)
  obtain rfl := hdecimal hserial
  rfl

end Declared

namespace Cache

/-! ## The units that were compiled -/

namespace Call

variable {σ : Type}

/-- The unit that a call has compiled: the one that a request gives for a key where there was
none. -/
def compilation : Call σ → Cache × σ → Option (UnitKey × CodeUnit)
  | .getOrBuild key build, (cache, s) =>
    match cache.lookup key with
    | some _ => none
    | none => (cache.getOrBuild key build s).1.toOption.map (key, ·)
  | _, _ => none

def compilations : List (Call σ) → Cache × σ → List (UnitKey × CodeUnit)
  | [], _ => []
  | call :: calls, state =>
    (call.compilation state).toList ++ compilations calls (call.perform state)

/-- A unit that a call has compiled is declared last and has the next serial number. A call that has
compiled none leaves the count as it is, and what is declared too unless it is a reset. -/
theorem compilation_cases (call : Call σ) (state : Cache × σ) :
    (call.compilation state = none ∧ (call.perform state).1.compiled = state.1.compiled ∧
      (call ≠ .reset → (call.perform state).1.declared = state.1.declared)) ∨
    ∃ entry, call.compilation state = some entry ∧ entry.2.serial = state.1.compiled ∧
      (call.perform state).1.compiled = state.1.compiled + 1 ∧
      (call.perform state).1.declared = state.1.declared.push (code entry) := by
  obtain ⟨cache, s⟩ := state
  cases call with
  | getOrBuild key build =>
      simp only [compilation, perform]
      rcases cache.getOrBuild_cases key build s with
        ⟨unit, h, heq⟩ | ⟨h, ⟨e, -, heq⟩ | ⟨draft, -, ⟨-, heq⟩ | ⟨-, heq⟩⟩⟩
      · rw [heq, h]
        exact .inl ⟨rfl, rfl, fun _ => rfl⟩
      · rw [heq, h]
        exact .inl ⟨rfl, rfl, fun _ => rfl⟩
      · rw [heq, h]
        exact .inl ⟨rfl, rfl, fun _ => rfl⟩
      · rw [heq, h]
        exact .inr ⟨_, rfl, rfl, rfl, rfl⟩
  | flush cluster => exact .inl ⟨rfl, rfl, fun _ => rfl⟩
  | remove key =>
      refine .inl ⟨rfl, ?_⟩
      simp only [perform, Cache.remove]
      split
      · exact ⟨rfl, fun _ => rfl⟩
      · exact ⟨rfl, fun _ => rfl⟩
  | reset =>
      refine .inl ⟨rfl, ?_, fun h => absurd rfl h⟩
      rcases perform_reset_cases (cache, s) with heq | heq <;> rw [heq] <;> rfl
  | lookup key => exact .inl ⟨rfl, rfl, fun _ => rfl⟩
  | size cluster => exact .inl ⟨rfl, rfl, fun _ => rfl⟩

/-- Units are numbered in the order in which they are compiled. -/
theorem serials_compilations (calls : List (Call σ)) (state : Cache × σ) :
    state.1.compiled + (compilations calls state).length = (after calls state).1.compiled ∧
      (compilations calls state).map (·.2.serial) =
        List.range' state.1.compiled (compilations calls state).length := by
  induction calls generalizing state with
  | nil => exact ⟨rfl, rfl⟩
  | cons call calls ih =>
      obtain ⟨hcount, hserials⟩ := ih (call.perform state)
      rw [after_cons, compilations]
      rcases call.compilation_cases state with
        ⟨hnone, hcompiled, -⟩ | ⟨entry, hsome, hserial, hcompiled, -⟩
      · rw [hcompiled] at hcount hserials
        simp only [hnone, Option.toList_none, List.nil_append]
        exact ⟨hcount, hserials⟩
      · rw [hcompiled] at hcount hserials
        simp only [hsome, Option.toList_some, List.singleton_append, List.length_cons,
          List.map_cons, List.range'_succ, hserial, hserials]
        refine ⟨?_, trivial⟩
        omega

/-- Until the next reset, what was compiled is declared behind what is declared already. -/
theorem declared_after {calls : List (Call σ)} (h : .reset ∉ calls) (state : Cache × σ) :
    (after calls state).1.declared.toList =
      state.1.declared.toList ++ (compilations calls state).map code := by
  induction calls generalizing state with
  | nil => exact (List.append_nil _).symm
  | cons call calls ih =>
      simp only [List.mem_cons, not_or] at h
      rw [after_cons, ih h.2, compilations]
      rcases call.compilation_cases state with
        ⟨hnone, -, hdeclared⟩ | ⟨entry, hsome, -, -, hdeclared⟩
      · rw [hdeclared (Ne.symm h.1), hnone]
        rfl
      · rw [hdeclared, hsome]
        simp

end Call

/-- A symbol belongs to one cluster, address and serial number. Whatever calls were made on a cache
since it was set up, no two units that were compiled share their symbol, since they are numbered one
after the other. Those compiled since the last reset are declared, in this order, and no others. -/
theorem symbols_distinct_of_calls :
    Function.Injective Declared.symbol ∧
    ∀ {σ : Type} {config : Config} {compiler : Compiler} {fresh cache : Cache} {s₀ s : σ}
      {calls : List (Call σ)}, compiler.Renews → ofConfig config compiler = .ok fresh →
      Call.after calls (fresh, s₀) = (cache, s) →
      ((Call.compilations calls (fresh, s₀)).map fun entry => (code entry).symbol).Nodup ∧
      (Call.compilations calls (fresh, s₀)).map (·.2.serial) = List.range cache.compiled ∧
      (.reset ∉ calls →
        cache.declared.toList = (Call.compilations calls (fresh, s₀)).map code) ∧
      ∀ before rest : List (Call σ), calls = before ++ .reset :: rest → .reset ∉ rest →
        cache.declared.toList =
          (Call.compilations rest (Call.after (before ++ [.reset]) (fresh, s₀))).map code := by
  refine ⟨Declared.symbol_injective, ?_⟩
  intro σ config compiler fresh cache s₀ s calls hcompiler hfresh hcalls
  have hcompiled : fresh.compiled = 0 := by rw [ofConfig_eq_ok hfresh]
  have hdeclared : fresh.declared = #[] := by rw [ofConfig_eq_ok hfresh]
  have hserials : (Call.compilations calls (fresh, s₀)).map (·.2.serial) =
      List.range cache.compiled := by
    obtain ⟨hcount, hserials⟩ := Call.serials_compilations calls (fresh, s₀)
    rw [hcalls, hcompiled, Nat.zero_add] at hcount
    rw [hserials, hcompiled, hcount, List.range_eq_range']
  refine ⟨?_, hserials, ?_, ?_⟩
  · have hnodup : ((Call.compilations calls (fresh, s₀)).map (·.2.serial)).Nodup := by
      rw [hserials]
      exact List.nodup_range
    have hunits : ((Call.compilations calls (fresh, s₀)).map code).Nodup := by
      refine List.Nodup.of_map Declared.serial ?_
      rwa [List.map_map]
    have hsymbols := hunits.map Declared.symbol_injective
    rwa [List.map_map] at hsymbols
  · intro hreset
    have h := Call.declared_after hreset (fresh, s₀)
    rwa [hcalls, hdeclared] at h
  · rintro before rest rfl hreset
    have hrenews := Call.renews_after before (fresh, s₀)
      (by rwa [ofConfig_eq_ok hfresh])
    have hcleared : (Call.after (before ++ [.reset]) (fresh, s₀)).1.declared = #[] := by
      rw [Call.after_append, Call.after_cons, Call.perform_reset hrenews]
      rfl
    have h := Call.declared_after hreset (Call.after (before ++ [.reset]) (fresh, s₀))
    rw [← Call.after_append, List.append_assoc, List.singleton_append, hcalls, hcleared] at h
    exact h

/-- A unit that is compiled again after a flush and after a reset, and in between cannot be. -/
theorem symbols_distinct_of_calls_again :
    ∃ (draft mistyped : Draft) (calls rest : List (Call Nat)) (fresh cache : Cache),
      calls = [.getOrBuild ⟨0, 0x1000⟩ fun n => (.ok draft, n + 1), .flush 0,
        .getOrBuild ⟨0, 0x1000⟩ fun n => (.ok mistyped, n + 1),
        .getOrBuild ⟨0, 0x1000⟩ fun n => (.ok draft, n + 1)] ∧
      rest = [.getOrBuild ⟨0, 0x1000⟩ fun n => (.ok draft, n + 1)] ∧
      ofConfig { verifier := true } = .ok fresh ∧
      Call.after (calls ++ .reset :: rest) (fresh, 0) = (cache, 4) ∧ cache.compiled = 3 ∧
      ((Call.compilations (calls ++ .reset :: rest) (fresh, 0)).map
        fun entry => (code entry).symbol).Nodup ∧
      (Call.compilations (calls ++ .reset :: rest) (fresh, 0)).map (·.2.serial) = [0, 1, 2] ∧
      (Call.after calls (fresh, 0)).1.declared.toList =
        (Call.compilations calls (fresh, 0)).map code ∧
      cache.declared.toList =
        (Call.compilations rest (Call.after (calls ++ [.reset]) (fresh, 0))).map code := by
  let slot : RegSlot := ⟨0, 0, 8⟩
  let settings : Settings :=
    ⟨128, 0, 0, .empty, false, true, [], ⟨slot, slot, slot, slot, slot, 1⟩⟩
  let draft : Draft := ⟨settings, [], none, {}, .const .w64 0, .const .w64 0⟩
  let mistyped : Draft := ⟨settings, [], none, {}, .const .w64 0, .const .w32 0⟩
  let rest : List (Call Nat) := [.getOrBuild ⟨0, 0x1000⟩ fun n => (.ok draft, n + 1)]
  let calls : List (Call Nat) :=
    [.getOrBuild ⟨0, 0x1000⟩ fun n => (.ok draft, n + 1), .flush 0,
      .getOrBuild ⟨0, 0x1000⟩ fun n => (.ok mistyped, n + 1),
      .getOrBuild ⟨0, 0x1000⟩ fun n => (.ok draft, n + 1)]
  obtain ⟨fresh, cache, hfresh, hcalls, hcompiled⟩ :
      ∃ fresh cache, ofConfig { verifier := true } = .ok fresh ∧
        Call.after (calls ++ .reset :: rest) (fresh, 0) = (cache, 4) ∧ cache.compiled = 3 :=
    ⟨_, _, rfl, rfl, rfl⟩
  have hcompiler := (Compiler.standard_reliable { verifier := true }).renews
  obtain ⟨hnodup, hserials, -, hsince⟩ := symbols_distinct_of_calls.2 hcompiler hfresh hcalls
  obtain ⟨-, -, hfirst, -⟩ :=
    symbols_distinct_of_calls.2 hcompiler hfresh (rfl : Call.after calls (fresh, 0) = (_, _))
  rw [hcompiled] at hserials
  refine ⟨draft, mistyped, calls, rest, fresh, cache, rfl, rfl, hfresh, hcalls, hcompiled, hnodup,
    hserials, hfirst ?_, hsince calls rest rfl ?_⟩
  · simp [calls]
  · simp [rest]

end Cache

end GuestSim

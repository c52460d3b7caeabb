import Mathlib.Data.Set.Card
import GuestSim.Proofs.Cache.Requests

/-! # The cache as a partial map

What the calls made on a cache leave to be found, in whatever order they come: for each key the
unit of the latest request that succeeded, unless it was discarded since. -/

namespace GuestSim.Cache

/-! ## Histories -/

/-- A call on a cache. Those who build units share a state. -/
inductive Call (σ : Type) where
  | getOrBuild (key : UnitKey) (build : σ → Except EmitError Draft × σ)
  | flush (cluster : UInt32)
  | remove (key : UnitKey)
  | reset
  | lookup (key : UnitKey)
  | size (cluster : UInt32)

namespace Call

variable {σ : Type}

/-- What a call leaves. A reset that fails leaves everything as it is. -/
def perform : Call σ → Cache × σ → Cache × σ
  | .getOrBuild key build, (cache, s) => (cache.getOrBuild key build s).2
  | .flush cluster, (cache, s) => (cache.flush cluster, s)
  | .remove key, (cache, s) => (cache.remove key, s)
  | .reset, (cache, s) => (cache.reset.toOption.getD cache, s)
  | .lookup _, state => state
  | .size _, state => state

/-- The unit that a call gives if it is a request for the key and succeeds. -/
def given (key : UnitKey) : Call σ → Cache × σ → Option CodeUnit
  | .getOrBuild key' build, (cache, s) =>
    if key' = key then (cache.getOrBuild key' build s).1.toOption else none
  | _, _ => none

def discards (key : UnitKey) : Call σ → Bool
  | .flush cluster => cluster = key.cluster
  | .remove key' => key' = key
  | .reset => true
  | _ => false

/-- The cluster that a call concerns. A reset concerns them all. -/
def cluster? : Call σ → Option UInt32
  | .getOrBuild key _ => some key.cluster
  | .flush cluster => some cluster
  | .remove key => some key.cluster
  | .lookup key => some key.cluster
  | .size cluster => some cluster
  | .reset => none

def after (calls : List (Call σ)) (state : Cache × σ) : Cache × σ :=
  calls.foldl (fun state call => call.perform state) state

/-- The unit that the latest successful request for a key gave, and the calls made since. -/
def latest (key : UnitKey) : List (Call σ) → Cache × σ → Option (CodeUnit × List (Call σ))
  | [], _ => none
  | call :: calls, state =>
    latest key calls (call.perform state) <|> (call.given key state).map (·, calls)

@[simp] theorem after_nil (state : Cache × σ) : after [] state = state := rfl

@[simp] theorem after_cons (call : Call σ) (calls : List (Call σ)) (state : Cache × σ) :
    after (call :: calls) state = after calls (call.perform state) := rfl

theorem after_append (calls calls' : List (Call σ)) (state : Cache × σ) :
    after (calls ++ calls') state = after calls' (after calls state) :=
  List.foldl_append

/-- What every call keeps, a history keeps. -/
theorem after_keeps {I : Cache × σ → Prop} (hstep : ∀ call state, I state → I (perform call state))
    (calls : List (Call σ)) (state : Cache × σ) (h : I state) : I (after calls state) := by
  induction calls generalizing state with
  | nil => exact h
  | cons call calls ih => exact ih _ (hstep call state h)

theorem perform_reset {state : Cache × σ} (h : state.1.compiler.Renews) :
    perform .reset state = (state.1.cleared, state.2) := by
  rw [perform, reset_of_renews h]
  rfl

theorem perform_reset_cases (state : Cache × σ) :
    perform .reset state = state ∨ perform .reset state = (state.1.cleared, state.2) := by
  obtain ⟨cache, s⟩ := state
  rw [perform]
  cases hreset : cache.reset with
  | error e => exact .inl rfl
  | ok cache' =>
      rw [reset_eq_ok hreset]
      exact .inr rfl

theorem compiler_perform (call : Call σ) (state : Cache × σ) :
    (call.perform state).1.compiler = state.1.compiler := by
  obtain ⟨cache, s⟩ := state
  cases call with
  | getOrBuild key build =>
      rw [perform]
      rcases cache.getOrBuild_cases key build s with
        ⟨unit, -, heq⟩ | ⟨-, ⟨e, -, heq⟩ | ⟨draft, -, ⟨-, heq⟩ | ⟨-, heq⟩⟩⟩
      all_goals rw [heq]; rfl
  | flush cluster => rfl
  | remove key =>
      simp only [perform, Cache.remove]
      split <;> rfl
  | reset => rcases perform_reset_cases (cache, s) with heq | heq <;> rw [heq] <;> rfl
  | lookup key => rfl
  | size cluster => rfl

theorem renews_after (calls : List (Call σ)) (state : Cache × σ)
    (h : state.1.compiler.Renews) : (after calls state).1.compiler.Renews :=
  after_keeps (I := fun state : Cache × σ => state.1.compiler.Renews)
    (fun call state h => by rwa [compiler_perform]) calls state h

theorem lookup_perform (call : Call σ) {state : Cache × σ} (h : state.1.compiler.Renews)
    (key : UnitKey) :
    (call.perform state).1.lookup key =
      (call.given key state <|> if call.discards key then none else state.1.lookup key) := by
  obtain ⟨cache, s⟩ := state
  cases call with
  | getOrBuild key' build =>
      simp only [perform, given, discards, lookup_getOrBuild, Bool.false_eq_true, if_false]
  | flush cluster => simp [perform, given, discards, lookup_flush, eq_comm]
  | remove key' => simp [perform, given, discards, lookup_remove, eq_comm]
  | reset => simp [perform_reset h, given, discards]
  | lookup key' => simp [perform, given, discards]
  | size cluster => simp [perform, given, discards]

/-- What is found under a key after a history: what the latest successful request gave, or what was
there before if there was none, unless it was discarded since. -/
theorem lookup_after (calls : List (Call σ)) {state : Cache × σ} (h : state.1.compiler.Renews)
    (key : UnitKey) :
    (after calls state).1.lookup key =
      match latest key calls state with
      | some (unit, since) => if since.any (discards key) then none else some unit
      | none => if calls.any (discards key) then none else state.1.lookup key := by
  induction calls generalizing state with
  | nil => simp [latest]
  | cons call calls ih =>
      have hnext : (call.perform state).1.compiler.Renews := by rwa [compiler_perform]
      rw [after_cons, ih hnext, latest]
      cases latest key calls (call.perform state) with
      | some found => simp
      | none =>
          cases hgiven : call.given key state with
          | some unit => simp [lookup_perform call h, hgiven]
          | none =>
              by_cases hdiscards : call.discards key = true
              · simp [lookup_perform call h, hgiven, hdiscards]
              · simp [lookup_perform call h, hgiven, hdiscards]

/-- If nothing was there at first, all that is found was given by the latest successful request. -/
theorem lookup_after_eq_some_iff (calls : List (Call σ)) {state : Cache × σ}
    (h : state.1.compiler.Renews) (hempty : state.1.live = []) {key : UnitKey} {unit : CodeUnit} :
    (after calls state).1.lookup key = some unit ↔
      ∃ since, latest key calls state = some (unit, since) ∧
        ∀ call ∈ since, call.discards key = false := by
  rw [lookup_after calls h]
  cases latest key calls state with
  | none => simp [Cache.lookup, hempty]
  | some found =>
      obtain ⟨unit', since⟩ := found
      by_cases hdiscarded : since.any (discards key) = true
      · have hcall : ∃ call ∈ since, call.discards key = true := List.any_eq_true.mp hdiscarded
        simpa [hdiscarded] using fun _ => hcall
      · have hkept : ∀ call ∈ since, call.discards key = false := by simpa using hdiscarded
        simpa [hdiscarded] using fun _ => hkept

end Call

/-! ## Sizes -/

def DistinctKeys (cache : Cache) : Prop := (cache.live.map (·.1)).Nodup

theorem DistinctKeys.remove {cache : Cache} (h : cache.DistinctKeys) (key : UnitKey) :
    (cache.remove key).DistinctKeys := by
  unfold Cache.remove
  split
  · exact h.sublist ((List.filter_sublist).map _)
  · exact h

theorem DistinctKeys.flush {cache : Cache} (h : cache.DistinctKeys) (cluster : UInt32) :
    (cache.flush cluster).DistinctKeys :=
  h.sublist ((List.filter_sublist).map _)

theorem DistinctKeys.extended {cache : Cache} (h : cache.DistinctKeys) {key : UnitKey}
    (hkey : cache.lookup key = none) (unit : CodeUnit) :
    (cache.extended key unit).DistinctKeys := by
  refine List.nodup_cons.mpr ⟨?_, h⟩
  rw [← lookup_isSome_iff, hkey]
  exact Bool.false_ne_true

theorem DistinctKeys.getOrBuild {σ : Type} {cache : Cache} (h : cache.DistinctKeys)
    (key : UnitKey) (build : σ → Except EmitError Draft × σ) (s : σ) :
    (cache.getOrBuild key build s).2.1.DistinctKeys := by
  rcases cache.getOrBuild_cases key build s with
    ⟨unit, -, heq⟩ | ⟨hnone, ⟨e, -, heq⟩ | ⟨draft, -, ⟨-, heq⟩ | ⟨-, heq⟩⟩⟩
  · rw [heq]; exact h
  · rw [heq]; exact h
  · rw [heq]; exact h
  · rw [heq]; exact DistinctKeys.extended h hnone _

theorem DistinctKeys.perform {σ : Type} (call : Call σ) (state : Cache × σ)
    (h : state.1.DistinctKeys) : (call.perform state).1.DistinctKeys := by
  cases call with
  | getOrBuild key build => exact h.getOrBuild key build state.2
  | flush cluster => exact h.flush cluster
  | remove key => exact h.remove key
  | reset =>
      rcases Call.perform_reset_cases state with heq | heq
      · rwa [heq]
      · rw [heq]
        exact List.nodup_nil
  | lookup key => exact h
  | size cluster => exact h

theorem DistinctKeys.size_eq {cache : Cache} (h : cache.DistinctKeys) (cluster : UInt32) :
    cache.size cluster = {phys | (cache.lookup ⟨cluster, phys⟩).isSome = true}.ncard := by
  let keys := (cache.live.map (·.1)).filter (·.cluster = cluster)
  have hnodup : (keys.map (·.phys)).Nodup := by
    refine List.Nodup.map_on ?_ (h.filter _)
    rintro ⟨c, phys⟩ hkey ⟨c', phys'⟩ hkey' rfl
    have hc := (List.mem_filter.mp hkey).2
    have hc' := (List.mem_filter.mp hkey').2
    simp_all
  have hset : {phys | (cache.lookup ⟨cluster, phys⟩).isSome = true} =
      ((keys.map (·.phys)).toFinset : Set UInt64) := by
    ext phys
    simp only [Set.mem_ofPred_eq, lookup_isSome_iff, List.coe_toFinset, List.mem_map]
    constructor
    · rintro ⟨entry, hentry, hkey⟩
      refine ⟨⟨cluster, phys⟩, List.mem_filter.mpr ⟨?_, by simp⟩, rfl⟩
      exact List.mem_map.mpr ⟨entry, hentry, hkey⟩
    · rintro ⟨key, hkey, rfl⟩
      obtain ⟨hmem, hcluster⟩ := List.mem_filter.mp hkey
      obtain ⟨entry, hentry, rfl⟩ := List.mem_map.mp hmem
      refine ⟨entry, hentry, ?_⟩
      rw [← of_decide_eq_true hcluster]
  have hlength : keys.length = cache.size cluster := by
    rw [← List.countP_eq_length_filter, List.countP_map]
    rfl
  rw [hset, Set.ncard_coe_finset, List.toFinset_card_of_nodup hnodup, List.length_map, hlength]

/-- Caches that are alike to lookups in a cluster are alike in its size. -/
theorem DistinctKeys.size_congr {cache cache' : Cache} (h : cache.DistinctKeys)
    (h' : cache'.DistinctKeys) {cluster : UInt32}
    (hlookup : ∀ phys, cache'.lookup ⟨cluster, phys⟩ = cache.lookup ⟨cluster, phys⟩) :
    cache'.size cluster = cache.size cluster := by
  rw [h.size_eq, h'.size_eq]
  simp only [hlookup]

/-! ## Any calls -/

/-- Nothing that can be found, no size and neither count of units differ. -/
structure Alike (cache cache' : Cache) : Prop where
  lookup_eq : ∀ key, cache'.lookup key = cache.lookup key
  size_eq : ∀ cluster, cache'.size cluster = cache.size cluster
  dead_eq : cache'.dead = cache.dead
  compiled_eq : cache'.compiled = cache.compiled

/-- A request that finds no unit has one built, and notes it. If there is none to give in the end,
nothing else has changed. -/
theorem getOrBuild_of_none {σ : Type} {cache : Cache} {key : UnitKey} (h : cache.lookup key = none)
    (build : σ → Except EmitError Draft × σ) (s : σ) :
    ∃ result cache', cache.getOrBuild key build s = (result, cache', (build s).2) ∧
      cache'.hits = cache.hits ∧ cache'.misses = cache.misses + 1 ∧
      (∀ e, (build s).1 = .error e → result = .error (.emit e)) ∧
      ∀ e, result = .error e → cache.Alike cache' := by
  rcases cache.getOrBuild_cases key build s with
    ⟨unit, hsome, -⟩ | ⟨-, ⟨e, he, heq⟩ | ⟨draft, hdraft, ⟨-, heq⟩ | ⟨-, heq⟩⟩⟩
  · simp [h] at hsome
  · refine ⟨_, _, heq, rfl, rfl, ?_, fun _ _ => ⟨fun _ => rfl, fun _ => rfl, rfl, rfl⟩⟩
    intro e' he'
    rw [he, Except.error.injEq] at he'
    rw [he']
  · refine ⟨_, _, heq, rfl, rfl, ?_, fun _ _ => ⟨fun _ => rfl, fun _ => rfl, rfl, rfl⟩⟩
    simp [hdraft]
  · refine ⟨_, _, heq, rfl, rfl, ?_, ?_⟩
    · simp [hdraft]
    · simp

/-- A call that concerns one cluster neither gives nor discards a unit of another. -/
theorem Call.lookup_perform_of_ne {σ : Type} {call : Call σ} {cluster : UInt32}
    (h : call.cluster? = some cluster) (key : UnitKey) (hne : key.cluster ≠ cluster)
    (state : Cache × σ) (hrenews : state.1.compiler.Renews) :
    (call.perform state).1.lookup key = state.1.lookup key := by
  have hkey {key' : UnitKey} (hcluster : some key'.cluster = some cluster) : key' ≠ key := by
    rintro rfl
    exact hne (Option.some.inj hcluster)
  rw [lookup_perform call hrenews]
  cases call with
  | getOrBuild key' build => simp [given, discards, hkey h]
  | flush c =>
      obtain rfl : c = cluster := Option.some.inj h
      simp [given, discards, Ne.symm hne]
  | remove key' => simp [given, discards, hkey h]
  | reset => simp [cluster?] at h
  | lookup key' => simp [given, discards]
  | size c => simp [given, discards]

/-- Whatever calls were made on a cache since it was set up, it is a partial map. What it finds
under a key is what the latest successful request for the key gave, if no flush of the cluster,
removal of the key or reset came since. A request has a unit built only if none is found, and counts
as a hit or as a miss; one that fails leaves the map as it is. Calls that concern one cluster leave
the others as they are, and the size of a cluster is the number of addresses at which a unit is
found. -/
theorem partial_map_of_calls {σ : Type} {config : Config} {compiler : Compiler}
    {fresh cache : Cache} {s₀ s : σ} {calls : List (Call σ)} (hcompiler : compiler.Renews)
    (hfresh : ofConfig config compiler = .ok fresh)
    (hcalls : Call.after calls (fresh, s₀) = (cache, s)) :
    (∀ key unit, cache.lookup key = some unit ↔
      ∃ since, Call.latest key calls (fresh, s₀) = some (unit, since) ∧
        ∀ call ∈ since, call.discards key = false) ∧
    (∀ key build, (∀ unit, cache.lookup key = some unit →
        cache.getOrBuild key build s = (.ok unit, { cache with hits := cache.hits + 1 }, s)) ∧
      (cache.lookup key = none →
        ∃ result cache', cache.getOrBuild key build s = (result, cache', (build s).2) ∧
          cache'.hits = cache.hits ∧ cache'.misses = cache.misses + 1 ∧
          (∀ e, (build s).1 = .error e → result = .error (.emit e)) ∧
          ∀ e, result = .error e → cache.Alike cache')) ∧
    (∀ (call : Call σ) cluster cluster', call.cluster? = some cluster → cluster' ≠ cluster →
      (∀ phys, (call.perform (cache, s)).1.lookup ⟨cluster', phys⟩ =
        cache.lookup ⟨cluster', phys⟩) ∧
      (call.perform (cache, s)).1.size cluster' = cache.size cluster') ∧
    ∀ cluster, cache.size cluster =
      {phys | (cache.lookup ⟨cluster, phys⟩).isSome = true}.ncard := by
  have hempty := live_ofConfig hfresh
  have hrenews : fresh.compiler.Renews := by rwa [ofConfig_eq_ok hfresh]
  have hrenews' : cache.compiler.Renews := by
    have hkeep := Call.renews_after calls (fresh, s₀) hrenews
    rwa [hcalls] at hkeep
  have hdistinct : cache.DistinctKeys := by
    have hkeep := Call.after_keeps (I := fun state : Cache × σ => state.1.DistinctKeys)
      DistinctKeys.perform calls (fresh, s₀) (by simp [DistinctKeys, hempty])
    rwa [hcalls] at hkeep
  refine ⟨?_, ?_, ?_, hdistinct.size_eq⟩
  · intro key unit
    rw [← Call.lookup_after_eq_some_iff calls hrenews hempty, hcalls]
  · intro key build
    exact ⟨fun unit h => getOrBuild_of_some h, fun h => getOrBuild_of_none h build s⟩
  · intro call cluster cluster' hcluster hne
    have hlookup (phys : UInt64) :=
      Call.lookup_perform_of_ne hcluster ⟨cluster', phys⟩ hne (cache, s) hrenews'
    exact ⟨hlookup, hdistinct.size_congr (hdistinct.perform call (cache, s)) hlookup⟩

/-- Of two units, one is flushed and then cannot be built again. -/
theorem partial_map_of_calls_flushed :
    ∃ (draft : Draft) (calls : List (Call Nat)) (fresh cache : Cache) (unit : CodeUnit),
      calls = [.getOrBuild ⟨0, 0x1000⟩ fun n => (.ok draft, n + 1),
        .getOrBuild ⟨1, 0x1000⟩ fun n => (.ok draft, n + 1), .flush 0,
        .getOrBuild ⟨0, 0x1000⟩ fun n => (.error (.badWidth 7), n + 1), .size 1] ∧
      ofConfig {} = .ok fresh ∧ Call.after calls (fresh, 0) = (cache, 3) ∧
      cache.lookup ⟨0, 0x1000⟩ ≠ some unit ∧ cache.lookup ⟨1, 0x1000⟩ = some unit ∧
      cache.getOrBuild ⟨1, 0x1000⟩ (fun n => (.ok draft, n + 1)) 3 =
        (.ok unit, { cache with hits := cache.hits + 1 }, 3) ∧
      cache.size 1 = {phys | (cache.lookup ⟨1, phys⟩).isSome = true}.ncard := by
  let slot : RegSlot := ⟨0, 0, 8⟩
  let settings : Settings :=
    ⟨128, 0, 0, .empty, false, true, [], ⟨slot, slot, slot, slot, slot, 1⟩⟩
  let draft : Draft := ⟨settings, [], none, {}, .const .w64 0, .const .w64 0⟩
  obtain ⟨calls, fresh, cache, unit, hlist, hfresh, hcalls, hlost, hlatest⟩ :
      ∃ (calls : List (Call Nat)) (fresh cache : Cache) (unit : CodeUnit),
        calls = [.getOrBuild ⟨0, 0x1000⟩ fun n => (.ok draft, n + 1),
          .getOrBuild ⟨1, 0x1000⟩ fun n => (.ok draft, n + 1), .flush 0,
          .getOrBuild ⟨0, 0x1000⟩ fun n => (.error (.badWidth 7), n + 1), .size 1] ∧
        ofConfig {} = .ok fresh ∧ Call.after calls (fresh, 0) = (cache, 3) ∧
        (Call.latest ⟨0, 0x1000⟩ calls (fresh, 0)).map (·.2) = some (calls.drop 1) ∧
        Call.latest ⟨1, 0x1000⟩ calls (fresh, 0) = some (unit, calls.drop 2) :=
    ⟨_, _, _, _, rfl, rfl, rfl, rfl, rfl⟩
  obtain ⟨hlookup, hrequest, -, hsize⟩ := partial_map_of_calls (Compiler.standard_reliable {}).renews hfresh hcalls
  have hfound : cache.lookup ⟨1, 0x1000⟩ = some unit := by
    refine (hlookup _ _).mpr ⟨_, hlatest, ?_⟩
    simp [hlist, Call.discards]
  refine ⟨draft, calls, fresh, cache, unit, hlist, hfresh, hcalls, ?_, hfound,
    (hrequest _ _).1 unit hfound, hsize 1⟩
  intro hunit
  obtain ⟨since, hfirst, hkept⟩ := (hlookup _ _).mp hunit
  have hflush : Call.flush 0 ∈ since := by
    simp only [hfirst, Option.map_some, Option.some.injEq] at hlost
    simp [hlost, hlist]
  simpa [Call.discards] using hkept _ hflush

end GuestSim.Cache

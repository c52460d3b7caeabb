import GuestSim.Cache

/-! # Requests to a cache

What is found in a cache after each of its operations, and the ways in which a request for a unit
can end. -/

namespace GuestSim

/-! ## Compilers -/

/-- The compiler can be set up anew at any time. -/
def Compiler.Renews (compiler : Compiler) : Prop := ∀ compiled, compiler.renew compiled = .ok ()

/-- The compiler never fails on units that return what their callers expect. -/
structure Compiler.Reliable (compiler : Compiler) : Prop where
  renews : compiler.Renews
  accepts : ∀ unit draft, draft.isWellTyped = true → compiler.accepts unit draft = true

theorem Compiler.standard_reliable (config : Config) : (standard config).Reliable where
  renews _ := rfl
  accepts _ draft h := by simp [standard, h]

namespace Cache

/-! ## Lookups -/

theorem ofConfig_eq_ok {config : Config} {compiler : Compiler} {cache : Cache}
    (h : ofConfig config compiler = .ok cache) :
    cache = { compiler, listing := if config.dumpListing then some [] else none } := by
  unfold ofConfig at h
  split at h
  · exact (Except.ok.inj h).symm
  · simp at h

theorem live_ofConfig {config : Config} {compiler : Compiler} {cache : Cache}
    (h : ofConfig config compiler = .ok cache) : cache.live = [] := by
  rw [ofConfig_eq_ok h]

theorem lookup_filter {α β : Type} [BEq α] [LawfulBEq α] (p : α → Bool) (entries : List (α × β))
    (key : α) :
    (entries.filter fun entry => p entry.1).lookup key =
      if p key then entries.lookup key else none := by
  induction entries with
  | nil => simp
  | cons entry entries ih =>
      obtain ⟨key', value⟩ := entry
      by_cases hkey : key = key'
      · subst hkey
        by_cases hp : p key = true
        · simp [hp]
        · simp [hp, ih]
      · have hne : (key == key') = false := beq_eq_false_iff_ne.mpr hkey
        by_cases hp : p key' = true
        · simp [hp, List.lookup_cons, hne, ih]
        · simp [hp, List.lookup_cons, hne, ih]

theorem lookup_remove (cache : Cache) (key key' : UnitKey) :
    (cache.remove key).lookup key' = if key' = key then none else cache.lookup key' := by
  unfold remove
  split
  · have hfilter := lookup_filter (fun k => decide (k ≠ key)) cache.live key'
    by_cases hkey : key' = key
    · simpa [lookup, hkey] using hfilter
    · simpa [lookup, hkey] using hfilter
  · rename_i hmissing
    by_cases hkey : key' = key
    · simpa [hkey] using hmissing
    · rw [if_neg hkey]

theorem lookup_flush (cache : Cache) (cluster : UInt32) (key : UnitKey) :
    (cache.flush cluster).lookup key =
      if key.cluster = cluster then none else cache.lookup key := by
  have hfilter := lookup_filter (fun k : UnitKey => decide (k.cluster ≠ cluster)) cache.live key
  by_cases hcluster : key.cluster = cluster
  · simpa [lookup, flush, hcluster] using hfilter
  · simpa [lookup, flush, hcluster] using hfilter

@[simp] theorem lookup_cleared (cache : Cache) (key : UnitKey) :
    cache.cleared.lookup key = none := rfl

theorem reset_eq_ok {cache cache' : Cache} (h : cache.reset = .ok cache') :
    cache' = cache.cleared := by
  rw [reset] at h
  cases hrenew : cache.compiler.renew cache.compiled with
  | error e => simp [hrenew, Except.map] at h
  | ok _ => simpa [hrenew, Except.map] using h.symm

theorem reset_of_renews {cache : Cache} (h : cache.compiler.Renews) :
    cache.reset = .ok cache.cleared := by
  rw [reset, h]
  rfl

theorem lookup_isSome_iff {cache : Cache} {key : UnitKey} :
    (cache.lookup key).isSome = true ↔ key ∈ cache.live.map (·.1) := by
  rw [lookup, List.lookup_isSome_iff]
  constructor
  · rintro ⟨entry, hentry, hkey⟩
    exact List.mem_map.mpr ⟨entry, hentry, (beq_iff_eq.mp hkey).symm⟩
  · intro hkey
    obtain ⟨entry, hentry, rfl⟩ := List.mem_map.mp hkey
    exact ⟨entry, hentry, beq_self_eq_true _⟩

theorem mem_of_lookup {cache : Cache} {key : UnitKey} {unit : CodeUnit}
    (h : cache.lookup key = some unit) : (key, unit) ∈ cache.live := by
  obtain ⟨before, after, hlive, -⟩ := List.lookup_eq_some_iff.mp h
  simp [hlive]

/-! ## Requests -/

section Request

variable {σ : Type} {cache : Cache} {key : UnitKey} {draft : Draft}
  {build : σ → Except EmitError Draft × σ} {s s' : σ}

def hit (cache : Cache) : Cache := { cache with hits := cache.hits + 1 }

def missed (cache : Cache) : Cache := { cache with misses := cache.misses + 1 }

def listed (cache : Cache) (key : UnitKey) (draft : Draft) : Cache :=
  { cache with
    listing := cache.listing.map fun _ => draft.listing (Declared.symbol ⟨key, cache.compiled⟩) }

/-- The cache once the compiler has made code of a draft. -/
def declare (cache : Cache) (key : UnitKey) (draft : Draft) : Cache :=
  { cache.listed key draft with
    compiled := cache.compiled + 1
    declared := cache.declared.push ⟨key, cache.compiled⟩ }

/-- The unit that is made of a draft if it is the next one to be compiled. -/
def compile (cache : Cache) (key : UnitKey) (draft : Draft) : CodeUnit :=
  { draft with phys := key.phys, serial := cache.compiled }

def extended (cache : Cache) (key : UnitKey) (unit : CodeUnit) : Cache :=
  { cache with live := (key, unit) :: cache.live }

@[simp] theorem lookup_hit (cache : Cache) (key : UnitKey) :
    cache.hit.lookup key = cache.lookup key := rfl

@[simp] theorem lookup_missed (cache : Cache) (key : UnitKey) :
    cache.missed.lookup key = cache.lookup key := rfl

@[simp] theorem lookup_listed (cache : Cache) (key key' : UnitKey) (draft : Draft) :
    (cache.listed key draft).lookup key' = cache.lookup key' := rfl

@[simp] theorem lookup_declare (cache : Cache) (key key' : UnitKey) (draft : Draft) :
    (cache.declare key draft).lookup key' = cache.lookup key' := rfl

theorem lookup_extended (cache : Cache) (key key' : UnitKey) (unit : CodeUnit) :
    (cache.extended key unit).lookup key' =
      if key' = key then some unit else cache.lookup key' := by
  rw [lookup, extended, List.lookup_cons]
  by_cases hkey : key' = key
  · simp [hkey]
  · rw [beq_eq_false_iff_ne.mpr hkey, if_neg hkey]
    rfl

theorem remove_of_none (h : cache.lookup key = none) : cache.remove key = cache := by
  rw [remove, if_neg]
  simp [h]

theorem insert_of_none (h : cache.lookup key = none) (unit : CodeUnit) :
    cache.insert key unit = cache.extended key unit := by
  rw [insert, remove_of_none h, extended]

/-- The compiler accepts a draft if it is the next one to be compiled. -/
def Accepts (cache : Cache) (key : UnitKey) (draft : Draft) : Prop :=
  cache.compiler.accepts ⟨key, cache.compiled⟩ draft = true

instance (cache : Cache) (key : UnitKey) (draft : Draft) : Decidable (cache.Accepts key draft) :=
  inferInstanceAs (Decidable (_ = _))

theorem define_of_rejected (cache : Cache) (key : UnitKey) (h : ¬ cache.Accepts key draft) :
    cache.define key draft = (.error (.rejected key.phys), cache.listed key draft) := by
  exact if_neg h

theorem define_of_accepted (cache : Cache) (key : UnitKey) (h : cache.Accepts key draft) :
    cache.define key draft = (.ok (cache.compile key draft), cache.declare key draft) := by
  exact if_pos h

theorem getOrBuild_of_some {unit : CodeUnit} (h : cache.lookup key = some unit) :
    cache.getOrBuild key build s = (.ok unit, cache.hit, s) := by
  rw [getOrBuild, h, hit]

theorem getOrBuild_of_failed {e : EmitError} (h : cache.lookup key = none)
    (hbuild : build s = (.error e, s')) :
    cache.getOrBuild key build s = (.error (.emit e), cache.missed, s') := by
  simp only [getOrBuild, h, hbuild, missed]

theorem getOrBuild_of_draft (h : cache.lookup key = none) (hbuild : build s = (.ok draft, s')) :
    cache.getOrBuild key build s =
      match cache.missed.define key draft with
      | (.error e, cache) => (.error e, cache, s')
      | (.ok unit, cache) => (.ok unit, cache.insert key unit, s') := by
  rw [getOrBuild, h]
  simp only [hbuild]
  rfl

theorem getOrBuild_of_rejected (h : cache.lookup key = none) (hbuild : build s = (.ok draft, s'))
    (hrejected : ¬ cache.Accepts key draft) :
    cache.getOrBuild key build s =
      (.error (.rejected key.phys), cache.missed.listed key draft, s') := by
  rw [getOrBuild_of_draft h hbuild, define_of_rejected cache.missed key hrejected]

theorem getOrBuild_of_built (h : cache.lookup key = none) (hbuild : build s = (.ok draft, s'))
    (haccepted : cache.Accepts key draft) :
    cache.getOrBuild key build s =
      (.ok (cache.compile key draft),
        (cache.missed.declare key draft).extended key (cache.compile key draft), s') := by
  rw [getOrBuild_of_draft h hbuild, define_of_accepted cache.missed key haccepted]
  simp only
  rw [insert_of_none (by simpa using h)]
  rfl

theorem getOrBuild_cases (cache : Cache) (key : UnitKey)
    (build : σ → Except EmitError Draft × σ) (s : σ) :
    (∃ unit, cache.lookup key = some unit ∧
      cache.getOrBuild key build s = (.ok unit, cache.hit, s)) ∨
    cache.lookup key = none ∧
      ((∃ e, (build s).1 = .error e ∧
        cache.getOrBuild key build s = (.error (.emit e), cache.missed, (build s).2)) ∨
      ∃ draft, (build s).1 = .ok draft ∧
        (¬ cache.Accepts key draft ∧ cache.getOrBuild key build s =
          (.error (.rejected key.phys), cache.missed.listed key draft, (build s).2) ∨
        cache.Accepts key draft ∧ cache.getOrBuild key build s =
          (.ok (cache.compile key draft),
            (cache.missed.declare key draft).extended key (cache.compile key draft),
            (build s).2))) := by
  cases h : cache.lookup key with
  | some unit => exact .inl ⟨unit, rfl, getOrBuild_of_some h⟩
  | none =>
      refine .inr ⟨rfl, ?_⟩
      cases hbuild : build s with
      | mk built s' =>
          cases built with
          | error e => exact .inl ⟨e, rfl, getOrBuild_of_failed h hbuild⟩
          | ok draft =>
              refine .inr ⟨draft, rfl, ?_⟩
              by_cases haccepted : cache.Accepts key draft
              · exact .inr ⟨haccepted, getOrBuild_of_built h hbuild haccepted⟩
              · exact .inl ⟨haccepted, getOrBuild_of_rejected h hbuild haccepted⟩

/-- A request changes at most what is found under its own key. Whether it finds a unit there or puts
one there, a request that succeeds gives what is found from then on. -/
theorem lookup_getOrBuild (cache : Cache) (key key' : UnitKey)
    (build : σ → Except EmitError Draft × σ) (s : σ) :
    (cache.getOrBuild key build s).2.1.lookup key' =
      ((if key = key' then (cache.getOrBuild key build s).1.toOption else none) <|>
        cache.lookup key') := by
  by_cases hkey : key = key'
  · subst hkey
    rcases cache.getOrBuild_cases key build s with
      ⟨unit, h, heq⟩ | ⟨h, ⟨e, -, heq⟩ | ⟨draft, -, ⟨-, heq⟩ | ⟨-, heq⟩⟩⟩
    all_goals simp [heq, h, Except.toOption, lookup_extended]
  · rcases cache.getOrBuild_cases key build s with
      ⟨unit, h, heq⟩ | ⟨h, ⟨e, -, heq⟩ | ⟨draft, -, ⟨-, heq⟩ | ⟨-, heq⟩⟩⟩
    all_goals simp [heq, hkey, Ne.symm hkey, lookup_extended]

end Request

end Cache

end GuestSim

import GuestSim.Proofs.Mini.Footprint
import GuestSim.Proofs.Sessions
import GuestSim.Proofs.Upkeep

/-! # How much code is retained

Code that was compiled stays until all code is freed. The record of a session says when code is
compiled, called and freed: however long the session is, dead code is freed in time, and no unit is
called whose code is gone. -/

namespace GuestSim

/-! ## Records -/

inductive CodeEvent where
  /-- All code was freed. -/
  | freed
  | compiled (unit : CodeUnit)
  /-- The unit was called, and the cache was as given then. -/
  | invoked (unit : CodeUnit) (cache : Cache)

namespace CodeEvent

/-- What an event makes of the units whose code is there. -/
def retain (units : List CodeUnit) : CodeEvent → List CodeUnit
  | .freed => []
  | .compiled unit => units ++ [unit]
  | .invoked _ _ => units

/-- The units whose code was compiled and not freed since. -/
def retained (record : List CodeEvent) : List CodeUnit := record.foldl retain []

theorem retained_concat (record : List CodeEvent) (event : CodeEvent) :
    retained (record ++ [event]) = event.retain (retained record) := by
  rw [retained, List.foldl_append]
  rfl

theorem compiled_of_mem_retained {record : List CodeEvent} {unit : CodeUnit}
    (h : unit ∈ retained record) :
    ∃ earlier since, record = earlier ++ .compiled unit :: since ∧ .freed ∉ since := by
  induction record using List.reverseRecOn with
  | nil => simp [retained] at h
  | append_singleton record event ih =>
      rw [retained_concat] at h
      -- Whatever but `freed` comes last, what was compiled before it is still there.
      have hbefore (hmem : unit ∈ retained record) (hevent : event ≠ .freed) :
          ∃ earlier since, record ++ [event] = earlier ++ .compiled unit :: since ∧
            .freed ∉ since := by
        obtain ⟨earlier, since, rfl, hsince⟩ := ih hmem
        refine ⟨earlier, since ++ [event], by simp, ?_⟩
        simp [hsince, hevent.symm]
      cases event with
      | freed => simp [retain] at h
      | compiled unit' =>
          rcases List.mem_append.mp h with h | h
          · exact hbefore h (by simp)
          · rw [List.mem_singleton.mp h]
            exact ⟨record, [], rfl, by simp⟩
      | invoked unit' cache => exact hbefore h (by simp)

end CodeEvent

open CodeEvent

/-- How it must be when a unit is called: little of the code is dead, and that of the unit was
compiled after all code was freed the last time. -/
structure Sustained (record : List CodeEvent) (unit : CodeUnit) (cache : Cache) : Prop where
  dead_le : cache.dead ≤ 0x1000
  dead_le_live : cache.dead ≤ 0x100 ∨
    cache.dead ≤ {key | (cache.lookup key).isSome = true}.ncard
  retained_le : (retained record).length ≤
    2 * {key | (cache.lookup key).isSome = true}.ncard + 0x100
  compiled : ∃ earlier since, record = earlier ++ .compiled unit :: since ∧ .freed ∉ since

/-- Each call of a record was made when it could be. -/
def CodeEvent.Sound (record : List CodeEvent) : Prop :=
  ∀ before unit cache, before ++ [.invoked unit cache] <+: record → Sustained before unit cache

theorem CodeEvent.Sound.concat {record : List CodeEvent} {event : CodeEvent} (h : Sound record)
    (hevent : ∀ unit cache, event = .invoked unit cache → Sustained record unit cache) :
    Sound (record ++ [event]) := by
  intro before unit cache hprefix
  rcases List.prefix_concat_iff.mp hprefix with heq | hprefix
  · obtain ⟨rfl, hlast⟩ := List.append_inj' heq rfl
    exact hevent unit cache (List.singleton_inj.mp hlast).symm
  · exact h before unit cache hprefix

/-! ## What is known of a cache from a record -/

/-- Little enough of the code is dead to keep all of it. -/
def Cache.Trim (cache : Cache) : Prop :=
  cache.dead ≤ 0x1000 ∧ (cache.dead ≤ 0x100 ∨ cache.dead ≤ cache.live.length)

theorem Cache.trim_of_not_shouldPurge {cache : Cache} (h : cache.shouldPurge = false) :
    cache.Trim := by
  simp only [shouldPurge, Bool.or_eq_false_iff, Bool.and_eq_false_iff, decide_eq_false_iff_not,
    Nat.not_lt] at h
  exact h

/-- A cache whose code is what the record of a session says. -/
structure Cache.Tracked (record : List CodeEvent) (cache : Cache) : Prop where
  accounted : cache.Accounted
  retained_length : (retained record).length = cache.declared.size
  live : ∀ entry ∈ cache.live, entry.2 ∈ retained record
  sound : Sound record

namespace Cache.Tracked

variable {record : List CodeEvent} {cache : Cache}

theorem discard {cache' : Cache} (h : cache.Tracked record) (haccounted : cache'.Accounted)
    (hlive : cache'.live ⊆ cache.live) (hdeclared : cache'.declared = cache.declared) :
    cache'.Tracked record where
  accounted := haccounted
  retained_length := hdeclared ▸ h.retained_length
  live entry hentry := h.live entry (hlive hentry)
  sound := h.sound

theorem flush (h : cache.Tracked record) (cluster : UInt32) : (cache.flush cluster).Tracked record :=
  h.discard (h.accounted.flush cluster) (cache.live_flush cluster) rfl

theorem conclude (h : cache.Tracked record) (cluster : UInt32) (unit : CodeUnit) :
    (cache.conclude cluster unit).Tracked record := by
  refine h.discard (h.accounted.conclude cluster unit) (cache.live_conclude cluster unit) ?_
  unfold Cache.conclude Cache.remove
  split
  · rfl
  · split <;> rfl
  · rfl
  · rfl

theorem freed (h : cache.Tracked record) : cache.cleared.Tracked (record ++ [.freed]) where
  accounted := h.accounted.cleared
  retained_length := by rw [retained_concat]; rfl
  live := by simp [Cache.cleared]
  sound := h.sound.concat (by simp)

theorem compiled (h : cache.Tracked record) {key : UnitKey} (hkey : cache.lookup key = none)
    (draft : Draft) :
    ((cache.missed.declare key draft).extended key (cache.compile key draft)).Tracked
      (record ++ [.compiled (cache.compile key draft)]) where
  accounted := h.accounted.extended hkey draft
  retained_length := by
    change _ = (cache.declared.push _).size
    rw [retained_concat, Array.size_push, ← h.retained_length, retain, List.length_append]
    rfl
  live := by
    rw [retained_concat]
    refine List.forall_mem_cons.mpr ⟨by simp [retain], fun entry hentry => ?_⟩
    exact List.mem_append_left _ (h.live entry hentry)
  sound := h.sound.concat (by simp)

theorem invoked (h : cache.Tracked record) (htrim : cache.Trim) {key : UnitKey} {unit : CodeUnit}
    (hlive : (key, unit) ∈ cache.live) : cache.Tracked (record ++ [.invoked unit cache]) where
  accounted := h.accounted
  retained_length := by rw [retained_concat]; exact h.retained_length
  live := by rw [retained_concat]; exact h.live
  sound := by
    refine h.sound.concat ?_
    rintro unit' cache' ⟨⟩
    have hcount := h.accounted.keys.length_live
    obtain ⟨hdead, hdeadlive⟩ := htrim
    refine ⟨hdead, hcount.symm ▸ hdeadlive, ?_, compiled_of_mem_retained (h.live _ hlive)⟩
    have hbalance := h.accounted.balance
    rw [h.retained_length, hcount]
    omega

end Cache.Tracked

/-! ## Turns -/

namespace Simulator

variable {C G δ : Type}

/-- What the beginning of a turn does to code, if it does not fail. -/
def purgeEvents (sim : Simulator C G δ) : List CodeEvent :=
  if sim.cache.shouldPurge then [.freed] else []

theorem purge_tracked {sim purged : Simulator C G δ} {record : List CodeEvent}
    (h : sim.cache.Tracked record) (hpurge : sim.purge = .ok purged) :
    purged.cache.Trim ∧ purged.cache.Tracked (record ++ sim.purgeEvents) := by
  rw [purgeEvents]
  rcases purge_eq_ok hpurge with ⟨hkept, rfl⟩ | ⟨hneeded, rfl⟩
  · rw [hkept, if_neg Bool.false_ne_true, List.append_nil]
    exact ⟨Cache.trim_of_not_shouldPurge hkept, h⟩
  · rw [hneeded, if_pos rfl]
    exact ⟨⟨Nat.zero_le _, .inl (Nat.zero_le _)⟩, h.freed⟩

variable [Architecture C] [Emitter G C]

def searchEvents (pc : UInt64) (sim : Simulator C G δ) : List CodeEvent :=
  match sim.unitFor pc with
  | (.error _, _) => []
  | (.ok unit, sim₁) =>
    (if sim₁.cache.compiled = sim.cache.compiled then [] else [.compiled unit]) ++
      [.invoked unit sim₁.cache]

theorem searchEvents_of_error {sim sim₁ : Simulator C G δ} {pc : UInt64} {e : BuildError}
    (h : sim.unitFor pc = (.error e, sim₁)) : sim.searchEvents pc = [] := by
  rw [searchEvents, h]

theorem searchEvents_of_ok {sim sim₁ : Simulator C G δ} {pc : UInt64} {unit : CodeUnit}
    (h : sim.unitFor pc = (.ok unit, sim₁)) :
    sim.searchEvents pc =
      (if sim₁.cache.compiled = sim.cache.compiled then [] else [.compiled unit]) ++
        [.invoked unit sim₁.cache] := by
  rw [searchEvents, h]

theorem search_tracked {sim sim₁ : Simulator C G δ} {record : List CodeEvent} {pc : UInt64}
    {result : Except BuildError CodeUnit} (h : sim.cache.Tracked record) (htrim : sim.cache.Trim)
    (hunit : sim.unitFor pc = (result, sim₁)) :
    sim₁.cache.Tracked (record ++ sim.searchEvents pc) := by
  have haccounted := unitFor_accounted h.accounted hunit
  rcases unitFor_request hunit with ⟨e, rfl, hcache⟩ | ⟨phys, s, s', hrequest⟩
  · rwa [searchEvents_of_error hunit, List.append_nil, hcache]
  · rcases sim.cache.getOrBuild_cases ⟨sim.cluster, phys⟩
        (Draft.build sim.settings (.fetch pc)) s with
      ⟨unit, hlookup, heq⟩ | ⟨hlookup, ⟨e', -, heq⟩ | ⟨draft, -, ⟨-, heq⟩ | ⟨-, heq⟩⟩⟩
    all_goals
      rw [heq, Prod.mk.injEq, Prod.mk.injEq] at hrequest
      obtain ⟨rfl, hcache, -⟩ := hrequest
      rw [← hcache] at haccounted
    · have hsame : sim₁.cache.compiled = sim.cache.compiled := by rw [← hcache]; rfl
      rw [searchEvents_of_ok hunit, if_pos hsame, ← hcache, List.nil_append]
      exact (h.discard haccounted (fun _ h => h) rfl).invoked htrim (Cache.mem_of_lookup hlookup)
    · rw [searchEvents_of_error hunit, ← hcache, List.append_nil]
      exact h.discard haccounted (fun _ h => h) rfl
    · rw [searchEvents_of_error hunit, ← hcache, List.append_nil]
      exact h.discard haccounted (fun _ h => h) rfl
    · have hnew : sim₁.cache.compiled ≠ sim.cache.compiled := by
        rw [← hcache]
        exact Nat.succ_ne_self _
      rw [searchEvents_of_ok hunit, if_neg hnew, ← hcache, ← List.append_assoc]
      refine (h.compiled hlookup draft).invoked ⟨htrim.1, ?_⟩ List.mem_cons_self
      exact htrim.2.imp_right Nat.le_succ_of_le

variable [Debugger δ]

def turnEvents (limit pc : UInt64) (sim : Simulator C G δ) : List CodeEvent :=
  if limit ≤ sim.instructionCount then []
  else
    match sim.purge with
    | .error _ => []
    | .ok purged => sim.purgeEvents ++ purged.searchEvents pc

theorem turn_tracked {sim : Simulator C G δ} {record : List CodeEvent}
    (h : sim.cache.Tracked record) (limit pc : UInt64) :
    (sim.turn limit pc).2.cache.Tracked (record ++ sim.turnEvents limit pc) := by
  by_cases hleft : limit ≤ sim.instructionCount
  · rwa [turn_of_spent hleft, turnEvents, if_pos hleft, List.append_nil]
  rw [turnEvents, if_neg hleft]
  cases hpurge : sim.purge with
  | error e => rwa [turn_of_unpurged hleft hpurge, List.append_nil]
  | ok purged =>
      obtain ⟨htrim, hpurged⟩ := purge_tracked h hpurge
      rw [turn_of_left hleft, (react_frame _ _).1, ← List.append_assoc]
      cases hunit : purged.unitFor pc with
      | mk result sim₁ =>
          have hsearched := search_tracked hpurged htrim hunit
          cases result with
          | error e => rwa [attempt_of_error (find_of_error hpurge hunit)]
          | ok unit =>
              rw [attempt_of_ok (find_of_ok hpurge hunit)]
              rcases runUnit_cache_cases sim₁ unit pc with hcache | hcache
              · rwa [hcache]
              · rw [hcache]
                exact hsearched.conclude _ _

/-- The record goes on through the loop, whether the loop ends in time or not. -/
theorem loop_tracked (limit : UInt64) (fuel : Nat) (pc : UInt64) {sim : Simulator C G δ}
    {record : List CodeEvent} (h : sim.cache.Tracked record) :
    Sound (record ++ overTurns (turnEvents limit) limit fuel pc sim) ∧
      ∀ result pc' sim', loop limit fuel pc sim = some (result, pc', sim') →
        sim'.cache.Tracked (record ++ overTurns (turnEvents limit) limit fuel pc sim) := by
  induction fuel generalizing pc sim record with
  | zero => exact ⟨by simpa [overTurns] using h.sound, by simp [loop]⟩
  | succ fuel ih =>
      have hturn := turn_tracked h limit pc
      rw [overTurns, loop, ← List.append_assoc]
      cases hcase : sim.turn limit pc with
      | mk ending sim₁ =>
          rw [hcase] at hturn
          cases ending with
          | next pc₁ => exact ih pc₁ hturn
          | exit e pc₁ =>
              simp only [List.append_nil]
              refine ⟨hturn.sound, ?_⟩
              rintro _ _ _ ⟨⟩
              exact hturn
          | failed e pc₁ =>
              simp only [List.append_nil]
              refine ⟨hturn.sound, ?_⟩
              rintro _ _ _ ⟨⟩
              exact hturn

/-! ## Sessions -/

def runEvents (fuel : Nat) (sim : Simulator C G δ) (limit : Option UInt64) : List CodeEvent :=
  overTurns (turnEvents (limit.getD (-1))) (limit.getD (-1)) fuel
    (Architecture.currentPc sim.machine.core) (sim.armed (limit.getD (-1)))

theorem run_tracked {sim : Simulator C G δ} {record : List CodeEvent} (h : sim.cache.Tracked record)
    (fuel : Nat) (limit : Option UInt64) :
    Sound (record ++ sim.runEvents fuel limit) ∧
      ∀ result sim', sim.run fuel limit = some (result, sim') →
        sim'.cache.Tracked (record ++ sim.runEvents fuel limit) := by
  have harmed : (sim.armed (limit.getD (-1))).cache.Tracked record := h
  obtain ⟨hsound, hended⟩ := loop_tracked (limit.getD (-1)) fuel
    (Architecture.currentPc sim.machine.core) harmed
  refine ⟨hsound, fun result sim' hrun => ?_⟩
  obtain ⟨pc', sim₁, hloop, rfl⟩ := run_eq_some hrun
  rw [noteStats, (closed_frame sim₁ result pc').2]
  exact hended _ _ _ hloop

/-- What an action does to code. Only runs compile, call and free it. -/
def Action.events : Action δ → Simulator C G δ → List CodeEvent
  | .request (.run fuel limit), sim => sim.runEvents fuel limit
  | .request (.runFrom fuel addr limit), sim => (sim.writePc addr).runEvents fuel limit
  | .request (.step fuel count), sim =>
    sim.runEvents fuel (some (addSaturating sim.instructionCount count))
  | _, _ => []

/-- The record of a session. A run that does not end in time is recorded as far as it gets, and
nothing comes after it. -/
def Action.record : List (Action δ) → Simulator C G δ → List CodeEvent
  | [], _ => []
  | action :: actions, sim =>
    action.events sim ++ ((action.perform sim).map (record actions)).getD []

omit [Emitter G C] [Debugger δ] in
theorem Observer.install_tracked (observer : Observer δ) {sim : Simulator C G δ}
    {record : List CodeEvent} (h : sim.cache.Tracked record) :
    (observer.install sim).cache.Tracked record := by
  cases observer with
  | plugin plugin =>
      rw [Observer.install]
      rcases sim.registerPlugin_cases plugin with ⟨-, heq⟩ | ⟨mask, -, -, heq⟩
      · rw [heq]
        exact h
      · rw [heq]
        exact h.flush _
  | debugger debugger => exact h.flush _

theorem Action.perform_tracked {sim : Simulator C G δ} {record : List CodeEvent}
    (h : sim.cache.Tracked record) (action : Action δ) :
    Sound (record ++ action.events sim) ∧
      ∀ sim', action.perform sim = some sim' →
        sim'.cache.Tracked (record ++ action.events sim) := by
  -- A run that is asked for in one way or another, on a simulator with the same cache.
  have hrequest (request : Request) (start : Simulator C G δ) (fuel : Nat) (limit : Option UInt64)
      (hcache : start.cache = sim.cache)
      (hperform : request.perform sim =
        (start.run fuel limit).map fun ended => (some ended.1, ended.2)) :
      Sound (record ++ start.runEvents fuel limit) ∧
        ∀ sim', (Action.request request).perform sim = some sim' →
          sim'.cache.Tracked (record ++ start.runEvents fuel limit) := by
    obtain ⟨hsound, hended⟩ := run_tracked (hcache ▸ h) fuel limit
    refine ⟨hsound, fun sim' hsome => ?_⟩
    simp only [Action.perform, hperform, Option.map_map, Option.map_eq_some_iff] at hsome
    obtain ⟨⟨result, sim₁⟩, hrun, rfl⟩ := hsome
    exact hended result sim₁ hrun
  cases action with
  | install observer =>
      simp only [events, List.append_nil]
      refine ⟨h.sound, ?_⟩
      rintro _ ⟨⟩
      exact observer.install_tracked h
  | request request =>
      cases request with
      | run fuel limit => exact hrequest _ sim fuel limit rfl rfl
      | runFrom fuel addr limit => exact hrequest _ (sim.writePc addr) fuel limit rfl rfl
      | step fuel count => exact hrequest _ sim fuel _ rfl rfl
      | reset addr =>
          simp only [events, List.append_nil]
          refine ⟨h.sound, ?_⟩
          rintro _ ⟨⟩
          exact h.flush _
      | writePc pc =>
          simp only [events, List.append_nil]
          refine ⟨h.sound, ?_⟩
          rintro _ ⟨⟩
          exact h

theorem Action.record_sound (actions : List (Action δ)) {sim : Simulator C G δ}
    {record : List CodeEvent} (h : sim.cache.Tracked record) :
    Sound (record ++ Action.record actions sim) := by
  induction actions generalizing sim record with
  | nil => simpa [Action.record] using h.sound
  | cons action actions ih =>
      obtain ⟨hsound, hended⟩ := action.perform_tracked h
      rw [Action.record, ← List.append_assoc]
      cases hperform : action.perform sim with
      | none => simpa using hsound
      | some sim' => exact ih (hended sim' hperform)

omit [Emitter G C] [Debugger δ] in
theorem tracked_new {machine : Machine C δ} {emitter : G} {config : Config} {compiler : Compiler}
    {sim : Simulator C G δ} (h : new machine emitter config compiler = .ok sim) :
    sim.cache.Tracked [] := by
  obtain ⟨cache, hcache, rfl⟩ := new_eq_ok h
  have haccounted := Cache.accounted_ofConfig hcache
  rw [Cache.ofConfig_eq_ok hcache] at haccounted ⊢
  exact ⟨haccounted, rfl, by simp [updateSync], by simp [Sound]⟩

/-- Whenever a unit is called, in whatever session, little of the code is dead and that of the unit
was compiled after all code was freed the last time. -/
theorem dead_code_bounded {machine : Machine C δ} {emitter : G} {config : Config}
    {compiler : Compiler} {fresh : Simulator C G δ}
    (hfresh : new machine emitter config compiler = .ok fresh)
    (actions : List (Action δ)) {before : List CodeEvent} {unit : CodeUnit} {cache : Cache}
    (hinvoked : before ++ [.invoked unit cache] <+: Action.record actions fresh) :
    Sustained before unit cache :=
  Action.record_sound actions (tracked_new hfresh) before unit cache hinvoked

open Mini in
/-- A unit that discards itself, called again in the second of two runs. -/
theorem dead_code_bounded_evicted :
    ∃ (fresh : Simulator Core Codegen (List Breakpoint)) (before : List CodeEvent)
      (unit : CodeUnit) (cache : Cache),
      simulate {} (.loaded 0x1000 [⟨.evict, 0, 0, 0⟩, ⟨.jmp, 0, 0, -1⟩]) = .ok fresh ∧
      before ++ [.invoked unit cache] <+: Action.record
        [.request (.run 5 (some 2)), .request (.run 5 (some 3))] fresh ∧
      cache.dead = 1 ∧ (retained before).length = 3 ∧ Sustained before unit cache := by
  obtain ⟨fresh, before, unit, cache, hfresh, hinvoked, hdead, hretained⟩ :
      ∃ (fresh : Simulator Core Codegen (List Breakpoint)) (before : List CodeEvent)
        (unit : CodeUnit) (cache : Cache),
        simulate {} (.loaded 0x1000 [⟨.evict, 0, 0, 0⟩, ⟨.jmp, 0, 0, -1⟩]) = .ok fresh ∧
        before ++ [.invoked unit cache] <+: Action.record
          [.request (.run 5 (some 2)), .request (.run 5 (some 3))] fresh ∧
        cache.dead = 1 ∧ (retained before).length = 3 :=
    ⟨_, [.compiled _, .invoked _ _, .compiled _, .invoked _ _, .compiled _], _, _, rfl, ⟨[], rfl⟩,
      rfl, rfl⟩
  exact ⟨fresh, before, unit, cache, hfresh, hinvoked, hdead, hretained,
    dead_code_bounded hfresh _ hinvoked⟩

end Simulator

end GuestSim

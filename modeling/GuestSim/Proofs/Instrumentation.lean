import GuestSim.Proofs.Consulting

/-! # No stale instrumentation

The calls of observers are part of the code of a unit. Because the units of a simulator were all
built with its present settings, and these follow every installation, whoever is installed is
called before every instruction, and nobody else. -/

namespace GuestSim

/-! ## Runs -/

namespace Simulator

variable {C G δ : Type} [Architecture C] [Emitter G C]

/-- A simulator that records and calls all its observers. -/
structure Watched (table : PluginTable) (debugged : Bool) (sim : Simulator C G δ) : Prop where
  filled : sim.Filled
  machine : sim.machine.Watched table debugged
  settings : sim.settings.Instrumented table debugged

variable {table : PluginTable} {debugged : Bool} {p : Event → Bool}

omit [Architecture C] in
theorem generate_watched (pc : VirtAddr) (ordinal : Nat) (s : G × Machine C δ)
    (h : s.2.Watched table debugged) :
    (Draft.generate pc ordinal s).2.2.Watched table debugged :=
  h.record (.generate pc.val (UInt32.ofNat ordinal)) (by simp) rfl rfl rfl

omit [Emitter G C] in
theorem writeReg_watched (m : Machine C δ) (idx : UInt32) (value : UInt64)
    (h : m.Watched table debugged) : (m.writeReg idx value).Watched table debugged :=
  h.record (.writeReg idx value) (by simp) rfl rfl rfl

omit [Emitter G C] in
theorem enter_watched (m : Machine C δ) (nextPc : UInt32) (pc : UInt64)
    (h : m.Watched table debugged) : (m.enter nextPc pc).Watched table debugged :=
  { writeReg_watched m nextPc pc h with }

variable [Debugger δ]

theorem Watched.turn {sim : Simulator C G δ} (h : sim.Watched table debugged)
    (limit pc : UInt64) : (sim.turn limit pc).2.Watched table debugged where
  filled := h.filled.turn limit pc
  machine :=
    turn_keeps (fun _ _ hm => { hm with }) generate_watched enter_watched
      (fun _ op hm => hm.perform op) (fun _ hm => { hm with })
      (fun _ id addr hm => hm.record (.enterTrap id addr) (by simp) rfl rfl rfl)
      limit pc h.machine
  settings := by
    rw [turn_settings]
    exact h.settings

theorem turn_detail (limit pc : UInt64) (sim : Simulator C G δ) :
    (sim.turn limit pc).2.machine.journal.detail = sim.machine.journal.detail :=
  turn_keeps (I := fun m => m.journal.detail = sim.machine.journal.detail)
    (fun _ _ hm => hm) (fun _ _ _ hm => (Journal.detail_record _ _).trans hm)
    (fun _ _ _ hm => (Journal.detail_record _ _).trans hm)
    (fun m op hm => (m.perform_detail op).trans hm) (fun _ hm => hm)
    (fun _ _ _ hm => (Journal.detail_record _ _).trans hm) limit pc rfl

def turnCounted (limit pc : UInt64) (sim : Simulator C G δ) : List (Counted C δ) :=
  if limit ≤ sim.instructionCount then []
  else
    match sim.find pc with
    | (.error _, _) => []
    | (.ok unit, sim) => unit.counted (sim.machine.enter sim.settings.layout.nextPc.index pc)

theorem turnCounted_of_spent {limit pc : UInt64} {sim : Simulator C G δ}
    (h : limit ≤ sim.instructionCount) : sim.turnCounted limit pc = [] := by
  rw [turnCounted, if_pos h]

theorem turnCounted_of_error {limit pc : UInt64} {sim sim' : Simulator C G δ} {e : UnitFailure}
    (hleft : ¬ limit ≤ sim.instructionCount) (h : sim.find pc = (.error e, sim')) :
    sim.turnCounted limit pc = [] := by
  rw [turnCounted, if_neg hleft, h]

theorem turnCounted_of_ok {limit pc : UInt64} {sim sim' : Simulator C G δ} {unit : CodeUnit}
    (hleft : ¬ limit ≤ sim.instructionCount) (h : sim.find pc = (.ok unit, sim')) :
    sim.turnCounted limit pc =
      unit.counted (sim'.machine.enter sim.settings.layout.nextPc.index pc) := by
  have hsettings := sim.find_settings pc
  rw [h] at hsettings
  rw [turnCounted, if_neg hleft, h, ← hsettings]

theorem map_toStart_turnCounted (limit pc : UInt64) (sim : Simulator C G δ) :
    (sim.turnCounted limit pc).map Counted.toStart = sim.turnStarts limit pc := by
  by_cases hspent : limit ≤ sim.instructionCount
  · simp [turnCounted_of_spent hspent, turnStarts_of_spent hspent]
  · cases hfind : sim.find pc with
    | mk result sim₁ =>
        cases result with
        | error e => simp [turnCounted_of_error hspent hfind, turnStarts_of_error hspent hfind]
        | ok unit =>
            rw [turnCounted_of_ok hspent hfind, turnStarts_of_ok hspent hfind]
            exact Draft.map_toStart_countedFrom _ _ _ _

theorem Watched.turn_shown (hunseen : Emitter.Unseen G p) {sim : Simulator C G δ}
    (h : sim.Watched table debugged) (hshows : sim.machine.journal.Shows p) (limit pc : UInt64) :
    (sim.turn limit pc).2.machine.journal.shown p = sim.machine.journal.shown p ++
      ((sim.turnCounted limit pc).flatMap
        (Counted.calls table.entries.toList debugged)).filter p := by
  by_cases hspent : limit ≤ sim.instructionCount
  · simp [turn_of_spent hspent, turnCounted_of_spent hspent]
  · rw [turn_of_left hspent]
    refine (react_keeps (I := fun m => m.journal.shown p =
      (sim.attempt pc).2.machine.journal.shown p) ?_ pc rfl).trans ?_
    · intro m id addr hm
      exact (hshows.shown_record_of_not_isCall rfl _).trans hm
    have hsearch : _ ∧ (sim.find pc).2.machine.Watched table debugged ∧
        (sim.find pc).2.machine.journal.Shows p ∧
        (sim.find pc).2.machine.journal.shown p = sim.machine.journal.shown p := find_keeps
      (I := fun m => m.Watched table debugged ∧ m.journal.Shows p ∧
        m.journal.shown p = sim.machine.journal.shown p)
      (fun _ _ hm => ⟨{ hm.1 with }, hm.2⟩)
      (fun pc ordinal s hm => ⟨generate_watched pc ordinal s hm.1,
        hm.2.1.of_detail (Journal.detail_record _ _),
        (hshows.shown_record_of_not_isCall rfl _).trans hm.2.2⟩)
      pc ⟨h.machine, hshows, rfl⟩
    cases hfind : sim.find pc with
    | mk result sim₁ =>
        rw [hfind] at hsearch
        obtain ⟨hwatched, hshows₁, hcalls⟩ := hsearch.2
        cases result with
        | error e =>
            simpa [attempt_of_error hfind, turnCounted_of_error hspent hfind] using hcalls
        | ok unit =>
            obtain ⟨hsettings, hmade⟩ := h.filled.found hfind
            have hcode := hmade.code_shown hunseen h.settings
              (enter_watched sim₁.machine sim.settings.layout.nextPc.index pc hwatched)
              (hshows₁.of_detail (Journal.detail_record _ _))
            rw [turnCounted_of_ok hspent hfind, attempt_of_ok hfind, runUnit_machine, hsettings]
            refine hcode.trans ?_
            rw [← hcalls]
            exact congrArg (· ++ _) (hshows.shown_record_of_not_isCall rfl _)

def advanced (limit : UInt64) : (fuel : Nat) → UInt64 → Simulator C G δ → Simulator C G δ
  | 0, _, sim => sim
  | fuel + 1, pc, sim =>
    match sim.turn limit pc with
    | (.next pc, sim) => advanced limit fuel pc sim
    | (_, sim) => sim

def underway (fuel : Nat) (sim : Simulator C G δ) (limit : Option UInt64) : Simulator C G δ :=
  advanced (limit.getD (-1)) fuel (Architecture.currentPc sim.machine.core)
    (sim.armed (limit.getD (-1)))

theorem advanced_of_loop {limit pc pc' : UInt64} {fuel : Nat} {sim sim' : Simulator C G δ}
    {result : Except SimError RunExit} (h : loop limit fuel pc sim = some (result, pc', sim')) :
    advanced limit fuel pc sim = sim' := by
  induction fuel generalizing pc sim with
  | zero => simp [loop] at h
  | succ fuel ih =>
      rw [loop] at h
      rw [advanced]
      cases hturn : sim.turn limit pc with
      | mk ending sim₁ =>
          rw [hturn] at h
          cases ending with
          | next pc₁ => exact ih h
          | exit e pc₁ =>
              cases h
              rfl
          | failed e pc₁ =>
              cases h
              rfl

theorem flatMap_overTurns {β γ : Type} (f : β → List γ) (view : UInt64 → Simulator C G δ → List β)
    (limit : UInt64) (fuel : Nat) (pc : UInt64) (sim : Simulator C G δ) :
    (overTurns view limit fuel pc sim).flatMap f =
      overTurns (fun pc sim => (view pc sim).flatMap f) limit fuel pc sim := by
  induction fuel generalizing pc sim with
  | zero => rfl
  | succ fuel ih =>
      rw [overTurns, overTurns, List.flatMap_append]
      cases sim.turn limit pc with
      | mk ending sim₁ =>
          cases ending with
          | next pc₁ => exact congrArg _ (ih pc₁ sim₁)
          | exit e pc₁ => rfl
          | failed e pc₁ => rfl

/-- However many turns are made, the calls are those of the instructions that were counted. -/
theorem Watched.advanced_shown (hunseen : Emitter.Unseen G p) {sim : Simulator C G δ}
    (h : sim.Watched table debugged) (hshows : sim.machine.journal.Shows p) (limit : UInt64)
    (fuel : Nat) (pc : UInt64) :
    (Simulator.advanced limit fuel pc sim).Watched table debugged ∧
      (Simulator.advanced limit fuel pc sim).machine.journal.shown p =
        sim.machine.journal.shown p ++ ((overTurns (turnCounted limit) limit fuel pc sim).flatMap
          (Counted.calls table.entries.toList debugged)).filter p := by
  induction fuel generalizing pc sim with
  | zero => exact ⟨h, by simp [Simulator.advanced, overTurns]⟩
  | succ fuel ih =>
      have hturn := h.turn limit pc
      have hcalls := h.turn_shown hunseen hshows limit pc
      have hshows' := hshows.of_detail (turn_detail limit pc sim)
      rw [Simulator.advanced, overTurns]
      cases hcase : sim.turn limit pc with
      | mk ending sim₁ =>
          rw [hcase] at hturn hcalls hshows'
          cases ending with
          | next pc₁ =>
              obtain ⟨hlast, hrest⟩ := ih hturn hshows' pc₁
              refine ⟨hlast, ?_⟩
              rw [hrest, hcalls, List.flatMap_append, List.filter_append, List.append_assoc]
          | exit e pc₁ => exact ⟨hturn, by simpa using hcalls⟩
          | failed e pc₁ => exact ⟨hturn, by simpa using hcalls⟩

theorem map_toStart_overTurns (limit : UInt64) (fuel : Nat) (pc : UInt64) (sim : Simulator C G δ) :
    (overTurns (turnCounted limit) limit fuel pc sim).map Counted.toStart =
      overTurns (turnStarts limit) limit fuel pc sim := by
  rw [← List.flatMap_pure_eq_map, flatMap_overTurns]
  simp only [List.flatMap_pure_eq_map, map_toStart_turnCounted]

theorem Watched.advanced (hdiscreet : Emitter.Discreet G) {sim : Simulator C G δ}
    (h : sim.Watched table debugged) (limit : UInt64) (fuel : Nat) (pc : UInt64) :
    (advanced limit fuel pc sim).Watched table debugged ∧
      (advanced limit fuel pc sim).machine.journal.shown Event.precedes =
        sim.machine.journal.shown Event.precedes ++ (overTurns (turnStarts limit) limit fuel pc sim).flatMap
          (Start.calls table.entries.toList debugged) := by
  obtain ⟨hwatched, hshown⟩ := h.advanced_shown hdiscreet.unseen
    (Journal.shows_precedes h.machine.detail_ne) limit fuel pc
  refine ⟨hwatched, hshown.trans (congrArg _ ?_)⟩
  rw [← map_toStart_overTurns, List.filter_flatMap, List.flatMap_map]
  exact List.flatMap_congr fun counted _ => counted.filter_calls _ _

omit [Debugger δ] in
theorem Watched.writePc {sim : Simulator C G δ} (h : sim.Watched table debugged)
    (pc : UInt64) : (sim.writePc pc).Watched table debugged where
  filled := h.filled.of_subset rfl fun _ hentry => hentry
  machine := writeReg_watched _ _ _ (writeReg_watched _ _ _ h.machine)
  settings := h.settings

omit [Debugger δ] in
theorem Watched.closed {sim : Simulator C G δ} (h : sim.Watched table debugged)
    (result : Except SimError RunExit) (pc : UInt64) :
    (sim.closed result pc).Watched table debugged ∧
      ∀ p, sim.machine.journal.Shows p →
        (sim.closed result pc).machine.journal.shown p = sim.machine.journal.shown p := by
  have hdisarmed : sim.disarmed.Watched table debugged :=
    ⟨h.filled.of_subset rfl fun _ hentry => hentry, { h.machine with }, h.settings⟩
  unfold Simulator.closed
  split
  · split
    · refine ⟨hdisarmed.writePc pc, fun p hshows => ?_⟩
      exact (hshows.shown_record_of_not_isCall rfl _).trans
        (hshows.shown_record_of_not_isCall rfl _)
    · exact ⟨hdisarmed, fun _ _ => rfl⟩
  · exact ⟨hdisarmed, fun _ _ => rfl⟩

omit [Architecture C] [Debugger δ] in
theorem Watched.armed {sim : Simulator C G δ} (h : sim.Watched table debugged) (limit : UInt64) :
    (sim.armed limit).Watched table debugged :=
  ⟨h.filled.of_subset rfl fun _ hentry => hentry, { h.machine with }, h.settings⟩

theorem Watched.run_shown {sim sim' : Simulator C G δ} (h : sim.Watched table debugged) {fuel : Nat}
    {limit : Option UInt64} {result : Except SimError RunExit}
    (hrun : sim.run fuel limit = some (result, sim')) :
    sim'.Watched table debugged ∧ sim'.settings = sim.settings ∧
      ∀ p, sim.machine.journal.Shows p →
        sim'.machine.journal.shown p = (sim.underway fuel limit).machine.journal.shown p := by
  obtain ⟨pc', sim₁, hloop, rfl⟩ := run_eq_some hrun
  obtain ⟨hkeeps, hsettings, hdetail⟩ :=
    loop_keeps (I := fun s => s.Watched table debugged ∧ s.settings = sim.settings ∧
        s.machine.journal.detail = sim.machine.journal.detail)
      (fun pc s hs => ⟨hs.1.turn _ pc, (turn_settings _ pc s).trans hs.2.1,
        (turn_detail _ pc s).trans hs.2.2⟩)
      ⟨h.armed _, rfl, rfl⟩ hloop
  obtain ⟨hwatched, hcalls⟩ := hkeeps.closed result pc'
  refine ⟨⟨hwatched.filled.of_subset rfl fun _ hentry => hentry, hwatched.machine,
    hwatched.settings⟩, (closed_frame sim₁ result pc').1.trans hsettings, fun p hshows => ?_⟩
  rw [underway, advanced_of_loop hloop]
  exact hcalls p (hshows.of_detail hdetail)

theorem Watched.run {sim sim' : Simulator C G δ} (h : sim.Watched table debugged) {fuel : Nat}
    {limit : Option UInt64} {result : Except SimError RunExit}
    (hrun : sim.run fuel limit = some (result, sim')) :
    sim'.Watched table debugged ∧ sim'.settings = sim.settings ∧
      sim'.machine.journal.shown Event.precedes =
        (sim.underway fuel limit).machine.journal.shown Event.precedes := by
  obtain ⟨hwatched, hsettings, hshown⟩ := h.run_shown hrun
  exact ⟨hwatched, hsettings, hshown _ (Journal.shows_precedes h.machine.detail_ne)⟩

/-- Every instruction that a run starts belongs to a unit built with the settings of the run. -/
theorem Filled.settings_of_mem_runStarts {sim : Simulator C G δ} (h : sim.Filled) (fuel : Nat)
    (limit : Option UInt64) :
    ∀ start ∈ sim.runStarts fuel limit, start.settings = sim.settings := by
  refine forall_overTurns (I := fun s => s.Filled ∧ s.settings = sim.settings) ?_
    (fun pc s hs => ⟨hs.1.turn _ pc, (turn_settings _ pc s).trans hs.2⟩)
    ⟨h.of_subset rfl fun _ hentry => hentry, rfl⟩
  intro pc s hs start hstart
  by_cases hspent : limit.getD (-1) ≤ s.instructionCount
  · simp [turnStarts_of_spent hspent] at hstart
  · cases hfind : s.find pc with
    | mk result s₁ =>
        cases result with
        | error e => simp [turnStarts_of_error hspent hfind] at hstart
        | ok unit =>
            rw [turnStarts_of_ok hspent hfind] at hstart
            rw [Draft.settings_of_mem_startsFrom _ _ _ _ start hstart,
              (hs.1.found hfind).2.settings_eq, hs.2]

/-! ## Any session -/

section Sessions

def Action.accepts? : Action δ → Option (SyncMask × Plugin)
  | .install (.plugin p) => (p.handshake PluginTable.version).map (·, p)
  | _ => none

/-- The plugins that accepted and the boundaries they asked for, in order, as far as there are
identifiers. -/
def accepted (history : List (Action δ)) : List (SyncMask × Plugin) :=
  (history.filterMap Action.accepts?).take UInt32.size

omit [Debugger δ] in
theorem accepted_append (history later : List (Action δ)) :
    accepted (history ++ later) =
      (accepted history ++ later.filterMap Action.accepts?).take UInt32.size := by
  rw [accepted, accepted, List.filterMap_append, List.take_append, List.take_append,
    List.take_take, Nat.min_self, List.length_take]
  congr 2
  omega

omit [Debugger δ] in
theorem accepted_prefix (history later : List (Action δ)) :
    accepted history <+: accepted (history ++ later) := by
  rw [accepted_append, List.prefix_take_iff]
  exact ⟨List.prefix_append _ _, List.length_take_le _ _⟩

omit [Debugger δ] in
theorem accepted_of_accepts?_none (history : List (Action δ)) {action : Action δ}
    (h : action.accepts? = none) : accepted (history ++ [action]) = accepted history := by
  rw [accepted, accepted, List.filterMap_append]
  simp [h]

omit [Debugger δ] in
theorem accepted_of_handshake (history : List (Action δ)) {plugin : Plugin} {mask : SyncMask}
    (h : plugin.handshake PluginTable.version = some mask) :
    accepted (history ++ [.install (.plugin plugin)]) =
      if (accepted history).length < UInt32.size then accepted history ++ [(mask, plugin)]
      else accepted history := by
  have hlast : [Action.install (δ := δ) (.plugin plugin)].filterMap Action.accepts? =
      [(mask, plugin)] := by simp [Action.accepts?, h]
  have hle : (accepted history).length ≤ UInt32.size := List.length_take_le _ _
  rw [accepted_append, hlast]
  split
  · rename_i hlt
    rw [List.take_of_length_le]
    rw [List.length_append]
    exact hlt
  · rename_i hfull
    rw [List.take_append_of_le_length (by omega), List.take_of_length_le hle]

/-- A simulator as its history says: it calls whoever was installed, and reports the boundary before
an instruction while debugging. -/
structure Reflects (history : List (Action δ)) (sim : Simulator C G δ) : Prop where
  watched : sim.Watched sim.machine.context.plugins (isDebugged history)
  entries_eq : sim.machine.context.plugins.entries.toList = accepted history
  pre : sim.settings.debugging = true → sim.settings.syncExec.contains .pre = true

omit [Architecture C] [Debugger δ] in
theorem Reflects.registerPlugin {history : List (Action δ)} {sim : Simulator C G δ}
    (h : sim.Reflects history) (plugin : Plugin) :
    (sim.registerPlugin plugin).2.Reflects (history ++ [.install (.plugin plugin)]) := by
  have hdebugged : isDebugged (history ++ [.install (.plugin plugin)]) = isDebugged history := by
    simp [isDebugged, Action.debugs]
  have hlength : (accepted history).length = sim.machine.context.plugins.size := by
    rw [← h.entries_eq, Array.length_toList, PluginTable.size]
  have hoffered : (sim.machine.record (.offered plugin.label PluginTable.version)).Watched
      sim.machine.context.plugins (isDebugged history) :=
    h.watched.machine.record _ (by simp) rfl rfl rfl
  rcases sim.registerPlugin_cases plugin with ⟨hdeclined, heq⟩ | ⟨mask, hmask, hroom, heq⟩
  · have haccepted : accepted (history ++ [.install (.plugin plugin)]) = accepted history := by
      cases hanswer : plugin.handshake PluginTable.version with
      | none => exact accepted_of_accepts?_none history (by simp [Action.accepts?, hanswer])
      | some mask =>
          have hfull := hdeclined.resolve_left (by simp [hanswer])
          rw [accepted_of_handshake history hanswer, hlength, if_neg hfull]
    rw [heq]
    refine ⟨⟨h.watched.filled.of_subset rfl fun _ hentry => hentry, ?_, ?_⟩, ?_, h.pre⟩
    · rw [hdebugged]
      exact hoffered
    · rw [hdebugged]
      exact h.watched.settings
    · rw [haccepted]
      exact h.entries_eq
  · rw [heq]
    refine ⟨⟨filled_of_flush rfl, ?_, ?_⟩, ?_, h.pre⟩
    · rw [hdebugged]
      refine ⟨rfl, hoffered.debugger_isSome, hoffered.detail_ne, fun label notice hmem => ?_⟩
      obtain ⟨entry, hentry, hlabel⟩ := hoffered.called label notice hmem
      exact ⟨entry, by simp [Array.mem_toList_iff.mp hentry], hlabel⟩
    · rw [hdebugged]
      refine ⟨rfl, ?_, h.watched.settings.debugging⟩
      rw [PluginTable.size, Array.size_push]
      exact hroom
    · rw [accepted_of_handshake history hmask, hlength, if_pos hroom, ← h.entries_eq]
      exact Array.toList_push

omit [Debugger δ] in
theorem Reflects.setDebugger {history : List (Action δ)} {sim : Simulator C G δ}
    (h : sim.Reflects history) (debugger : δ) :
    (sim.setDebugger debugger).Reflects (history ++ [.install (.debugger debugger)]) := by
  have hdebugged : isDebugged (history ++ [.install (.debugger debugger)]) = true := by
    simp [isDebugged, Action.debugs]
  have hmachine := h.watched.machine
  refine ⟨⟨filled_of_flush rfl, ?_, ?_⟩, ?_, fun _ => SyncMask.contains_union _ _⟩
  · rw [hdebugged]
    exact ⟨rfl, rfl, hmachine.detail_ne, hmachine.called⟩
  · exact ⟨h.watched.settings.plugins_eq, h.watched.settings.size_le, fun _ => rfl⟩
  · rw [accepted_of_accepts?_none history rfl]
    exact h.entries_eq

theorem Reflects.request {history : List (Action δ)} {sim sim' : Simulator C G δ}
    (h : sim.Reflects history) {request : Request} {answer : Option (Except SimError RunExit)}
    (hperform : request.perform sim = some (answer, sim')) :
    sim'.Reflects (history ++ [.request request]) := by
  have hdebugged : isDebugged (history ++ [.request request]) = isDebugged history := by
    simp [isDebugged, Action.debugs]
  obtain ⟨hwatched, hsettings⟩ := Request.perform_keeps
    (I := fun s => s.Watched sim.machine.context.plugins (isDebugged history) ∧
      s.settings = sim.settings)
    (fun fuel limit s result s' hs hrun =>
      ⟨(hs.1.run hrun).1, (hs.1.run hrun).2.1.trans hs.2⟩)
    (fun addr s hs => ⟨⟨filled_of_flush rfl, { hs.1.machine with }, hs.1.settings⟩, hs.2⟩)
    (fun pc s hs => ⟨hs.1.writePc pc, hs.2⟩) ⟨h.watched, rfl⟩ hperform
  have htable := hwatched.machine.plugins_eq
  refine ⟨?_, ?_, hsettings ▸ h.pre⟩
  · rw [hdebugged, htable]
    exact hwatched
  · rw [accepted_of_accepts?_none history rfl, htable]
    exact h.entries_eq

theorem Reflects.perform (history : List (Action δ)) (action : Action δ)
    (sim sim' : Simulator C G δ) (h : sim.Reflects history)
    (hperform : action.perform sim = some sim') : sim'.Reflects (history ++ [action]) := by
  cases action with
  | install observer =>
      cases hperform
      cases observer with
      | plugin p => exact h.registerPlugin p
      | debugger d => exact h.setDebugger d
  | request request =>
      obtain ⟨⟨answer, sim₁⟩, hsome, heq⟩ := Option.map_eq_some_iff.mp hperform
      cases heq
      exact h.request hsome

theorem reflects_new {core : C} {detail : Detail} {emitter : G} {config : Config}
    {compiler : Compiler} {sim : Simulator C G δ} (hdetail : detail ≠ .nothing)
    (h : Simulator.new { core, journal := ⟨detail, #[]⟩ } emitter config compiler = .ok sim) :
    sim.Reflects [] := by
  have hfilled := (Reachable.new h).filled
  obtain ⟨cache, -, rfl⟩ := new_eq_ok h
  refine ⟨⟨hfilled, ⟨rfl, rfl, hdetail, by simp [updateSync]⟩, ⟨rfl, Nat.zero_le _, ?_⟩⟩, rfl, ?_⟩
  · intro hdebugged
    exact absurd hdebugged Bool.false_ne_true
  · intro hdebugging
    simp only [updateSync] at hdebugging ⊢
    rw [if_pos hdebugging]
    exact SyncMask.contains_union _ _

/-- Whatever was done to a simulator since it was set up, its units were built with its present
settings, and these name the plugins that accepted, by their order, with the boundaries they asked
for; while debugging, the boundary before an instruction is reported. However long a run then goes
on, before every instruction that it starts the debugger is asked if one was installed, and unless
it refuses, the plugins that observe this boundary are told, and no others. No plugin that declined
is ever called. The debugger that is asked is the one that was installed last, and it was asked
everything recorded since. -/
theorem observers_called_of_session (hdiscreet : Emitter.Discreet G) {core : C} {detail : Detail}
    {emitter : G} {config : Config} {compiler : Compiler} {history : List (Action δ)}
    {fresh sim : Simulator C G δ} (hdetail : detail ≠ .nothing)
    (hfresh : Simulator.new { core, journal := ⟨detail, #[]⟩ } emitter config compiler =
      .ok fresh)
    (hhistory : Action.after history fresh = some sim) :
    (∀ entry ∈ sim.cache.live, entry.1.cluster = sim.cluster → entry.2.settings = sim.settings ∧
      ∃ (start : VirtAddr) (s : G × Machine C δ),
        (Draft.build sim.settings start s).1 = .ok entry.2.toDraft) ∧
    (sim.machine.context.plugins.entries.toList = accepted history ∧
      sim.settings.plugins = (accepted history).zipIdx.map fun ((mask, _), id) =>
        (UInt32.ofNat id, mask)) ∧
    (∀ earlier later before, history = earlier ++ later →
      Action.after earlier fresh = some before →
        before.settings.plugins <+: sim.settings.plugins) ∧
    (sim.settings.debugging = true → sim.settings.syncExec.contains .pre = true) ∧
    ∀ fuel limit,
      (∀ start ∈ sim.runStarts fuel limit, start.settings = sim.settings) ∧
      (sim.underway fuel limit).machine.journal.shown Event.precedes =
        sim.machine.journal.shown Event.precedes ++
          (sim.runStarts fuel limit).flatMap
            (Start.calls (accepted history) (isDebugged history)) ∧
      (∀ label notice,
        Event.plugin label notice ∈ (sim.underway fuel limit).machine.journal.events →
          ∃ entry ∈ accepted history, entry.2.label = label) ∧
      (∀ result sim', sim.run fuel limit = some (result, sim') →
        sim'.machine.journal.shown Event.precedes =
          (sim.underway fuel limit).machine.journal.shown Event.precedes) ∧
      ∀ earlier debugger later before, history = earlier ++ .install (.debugger debugger) :: later →
        isDebugged later = false → Action.after earlier fresh = some before →
          ∀ start ∈ sim.runStarts fuel limit, start.machine.context.debugger =
            some (Debugger.consulted debugger (start.machine.journal.asked.drop
              before.machine.journal.asked.length)) := by
  have hreflects {history : List (Action δ)} {sim : Simulator C G δ}
      (hhistory : Action.after history fresh = some sim) : sim.Reflects history :=
    Action.after_keeps Reflects.perform (reflects_new hdetail hfresh) hhistory
  have hplugins {history : List (Action δ)} {sim : Simulator C G δ} (h : sim.Reflects history) :
      sim.settings.plugins = (accepted history).zipIdx.map fun ((mask, _), id) =>
        (UInt32.ofNat id, mask) := by
    rw [h.watched.settings.plugins_eq, PluginTable.masks, h.entries_eq]
  have h := hreflects hhistory
  refine ⟨fun entry hentry hcluster => ?_, ⟨h.entries_eq, hplugins h⟩, ?_, h.pre,
    fun fuel limit => ?_⟩
  · exact ⟨(h.watched.filled.made hentry hcluster).settings_eq,
      h.watched.filled entry hentry hcluster⟩
  · rintro earlier later before rfl hearlier
    rw [hplugins h, hplugins (hreflects hearlier)]
    obtain ⟨added, hadded⟩ := accepted_prefix earlier later
    rw [← hadded, List.zipIdx_append, List.map_append]
    exact List.prefix_append _ _
  · obtain ⟨hwatched, hcalls⟩ := (h.watched.armed (limit.getD (-1))).advanced hdiscreet
      (limit.getD (-1)) fuel (Architecture.currentPc sim.machine.core)
    rw [h.entries_eq] at hcalls
    refine ⟨h.watched.filled.settings_of_mem_runStarts fuel limit, hcalls, ?_, ?_, ?_⟩
    · rw [← h.entries_eq]
      exact hwatched.machine.called
    · exact fun result sim' hrun => (h.watched.run hrun).2.2
    · rintro earlier debugger later before rfl hothers hearlier start hstart
      have hdetail := (hreflects hearlier).watched.machine.detail_ne
      rw [Action.after, List.foldlM_append] at hhistory
      obtain ⟨before', hbefore, hrest⟩ := Option.bind_eq_some_iff.mp hhistory
      obtain rfl := Option.some.inj (hbefore.symm.trans hearlier)
      exact (consults_runStarts (consults_after (consults_setDebugger hdetail debugger) hothers
        hrest) fuel limit start hstart).debugger_eq

end Sessions

end Simulator

theorem Mini.discreet : Emitter.Discreet Mini.Codegen where
  body _ h := Code.Uses.mono (fun op hop => by cases op <;> trivial) (ordinary_of_generated h).uses
  leave _ _ := ⟨trivial, fun _ => trivial⟩
  trap _ _ := ⟨trivial, fun _ => trivial⟩

namespace Simulator

open Mini in
/-- Two plugins, one of which comes late, another one that declines, and a debugger that is
installed when the loop has been translated already. -/
theorem observers_called_of_session_late :
    ∃ (history : List (Action (List Breakpoint)))
      (fresh sim : Simulator Core Codegen (List Breakpoint)),
      history = [.install (.plugin ⟨1, fun _ => some .all⟩), .request (.run 2 (some 1)),
        .install (.plugin ⟨2, fun _ => none⟩), .install (.debugger []),
        .install (.plugin ⟨3, fun _ => some .pre⟩), .request (.step 2 1)] ∧
      Simulator.new { core := .loaded 0x1000 [⟨.addi, 1, 1, 1⟩, ⟨.jmp, 0, 0, -1⟩]
                      journal := ⟨.observers, #[]⟩ } {} {} = .ok fresh ∧
      Action.after history fresh = some sim ∧
      (accepted history).map (·.2.label) = [1, 3] ∧ isDebugged history = true ∧
      sim.cache.live.map (·.1) = [⟨0, 0x1004⟩] ∧
      (∀ entry ∈ sim.cache.live, entry.2.settings = sim.settings) ∧
      (sim.runStarts 2 (some 4)).length = 2 ∧
      (sim.underway 2 (some 4)).machine.journal.shown Event.precedes =
        sim.machine.journal.shown Event.precedes ++ (sim.runStarts 2 (some 4)).flatMap
          (Start.calls (accepted history) (isDebugged history)) := by
  let history : List (Action (List Breakpoint)) :=
    [.install (.plugin ⟨1, fun _ => some .all⟩), .request (.run 2 (some 1)),
      .install (.plugin ⟨2, fun _ => none⟩), .install (.debugger []),
      .install (.plugin ⟨3, fun _ => some .pre⟩), .request (.step 2 1)]
  let fresh? : Except SimError (Simulator Core Codegen (List Breakpoint)) :=
    Simulator.new { core := .loaded 0x1000 [⟨.addi, 1, 1, 1⟩, ⟨.jmp, 0, 0, -1⟩]
                    journal := ⟨.observers, #[]⟩ } {} {}
  have hviews : (fresh?.toOption.bind (Action.after history)).map (fun sim =>
      (sim.cache.live.map (·.1), sim.cluster, (sim.runStarts 2 (some 4)).length)) =
        some ([⟨0, 0x1004⟩], 0, 2) := by decide +kernel
  obtain ⟨sim, hsim, hviews⟩ := Option.map_eq_some_iff.mp hviews
  obtain ⟨fresh, hfresh, hhistory⟩ := Option.bind_eq_some_iff.mp hsim
  rw [Prod.mk.injEq, Prod.mk.injEq] at hviews
  obtain ⟨hlive, hcluster, hstarts⟩ := hviews
  replace hfresh : fresh? = .ok fresh := by
    cases hcase : fresh? with
    | error e => simp [hcase, Except.toOption] at hfresh
    | ok s => simpa [hcase, Except.toOption] using hfresh
  obtain ⟨hunits, -, -, -, hruns⟩ :=
    observers_called_of_session Mini.discreet (by decide) hfresh hhistory
  refine ⟨history, fresh, sim, rfl, hfresh, hhistory, rfl, rfl, hlive, fun entry hentry => ?_,
    hstarts, (hruns 2 (some 4)).2.1⟩
  have hkey := List.mem_map_of_mem (f := (·.1)) hentry
  rw [hlive, List.mem_singleton] at hkey
  exact (hunits entry hentry (by rw [hkey, hcluster])).1

end Simulator

end GuestSim

import GuestSim.Proofs.Instrumentation

/-! # The trace of a run

A run makes the calls of the instructions that it counts, unit by unit. Where an instruction stands
in its unit, how many there are and how often a plugin is called for them follows from that, for
any architecture. What the calls say about the core is fixed when the simulator is set up. -/

namespace GuestSim

/-! ## Calls of one plugin -/

def Event.tells (label : Nat) (phase : SyncMask) : Event → Bool
  | .plugin label' notice => label' = label ∧ notice.phase = phase
  | _ => false

/-- How often the plugin with the label was told about the boundary. -/
def Journal.told (label : Nat) (phase : SyncMask) (journal : Journal) : Nat :=
  journal.events.toList.countP (Event.tells label phase)

theorem Journal.told_eq_countP_shown (label : Nat) (phase : SyncMask) (journal : Journal) :
    journal.told label phase =
      (journal.shown Event.isCall).countP (Event.tells label phase) := by
  rw [told, shown, List.countP_filter]
  refine List.countP_congr fun event _ => ?_
  cases event <;> simp [Event.tells, Event.isCall]

theorem SyncMask.all_contains {phase : SyncMask} (h : phase = .pre ∨ phase = .post) :
    SyncMask.all.contains phase = true := by
  rcases h with rfl | rfl
  · decide
  · decide

/-- The only plugin with the label observes all boundaries. -/
def ObservesAll (accepted : List (SyncMask × Plugin)) (label : Nat) : Prop :=
  ∃ plugin, accepted.filter (·.2.label = label) = [(.all, plugin)]

/-- A plugin that observes everything is told once about each boundary. -/
theorem ObservesAll.countP_reports {accepted : List (SyncMask × Plugin)} {label : Nat}
    (h : ObservesAll accepted label) (settings : Settings) {phase : SyncMask}
    (hphase : phase = .pre ∨ phase = .post) (phase' : SyncMask) (ordinal : UInt32) :
    (settings.reports accepted phase ordinal).countP (Event.tells label phase') =
      if phase = phase' then 1 else 0 := by
  obtain ⟨plugin, hplugin⟩ := h
  have hnotify : (if settings.syncExec.contains phase then [Event.notify (.ofMask phase)]
      else []).countP (Event.tells label phase') = 0 := by
    split <;> rfl
  rw [Settings.reports, List.countP_append, hnotify, Nat.zero_add, List.countP_map]
  -- To count the calls of the plugin is to find it among those that observe the boundary.
  by_cases hsame : phase = phase'
  · subst hsame
    have htells : Event.tells label phase ∘ (fun entry : SyncMask × Plugin =>
        Event.plugin entry.2.label ⟨settings.coreId, settings.clusterId, phase, ordinal⟩) =
        fun entry => decide (entry.2.label = label) := by
      funext entry
      simp [Event.tells]
    rw [htells, List.countP_eq_length_filter, List.filter_comm, hplugin]
    simp [SyncMask.all_contains hphase]
  · rw [if_neg hsame, List.countP_eq_zero]
    simp [Event.tells, hsame]

namespace Counted

variable {C δ : Type} [Architecture C] [Debugger δ]

/-- The exception that the code of the instruction itself raises, if it does. -/
def raised (counted : Counted C δ) : Option Exception :=
  (counted.fragment.body.exec counted.opened).2.context.exception

/-- Before its own code runs, an instruction that is not refused has raised nothing. -/
theorem opened_exception {counted : Counted C δ} (h : counted.refusal = none) :
    counted.opened.context.exception = counted.machine.context.exception := by
  rw [Start.refusal_eq] at h
  obtain ⟨m₁, hcheck, -, hexception, -⟩ := counted.settings.debugCheck_consult
    (counted.settings.startAddress counted.machine.core)
    { counted.machine with core := counted.settings.started counted.machine.core }
  rw [h] at hcheck hexception
  obtain ⟨m₂, hreport, -, hcontext⟩ :=
    counted.settings.report_exec .pre (UInt32.ofNat counted.ordinal) m₁
  rw [opened, Body.exec_bind_ok (counted.settings.advance_exec counted.machine),
    Body.exec_bind_ok hcheck, hreport, hcontext, hexception]
  rfl

def isRefused (counted : Counted C δ) : Bool := counted.refusal.isSome

/-- The instruction is begun, and control does not reach its end. -/
def isStopped (counted : Counted C δ) : Bool := counted.refusal.isNone && !counted.completes

variable {accepted : List (SyncMask × Plugin)} {label : Nat}

theorem isCall_of_mem_calls (debugged : Bool) (counted : Counted C δ) :
    ∀ event ∈ counted.calls accepted debugged, event.isCall = true := by
  have hreports (settings : Settings) (phase : SyncMask) (ordinal : UInt32) :
      ∀ event ∈ settings.reports accepted phase ordinal, event.isCall = true := by
    intro event hevent
    rcases List.mem_append.mp hevent with hnotify | hplugin
    · split at hnotify
      · rw [List.mem_singleton.mp hnotify]
        rfl
      · simp at hnotify
    · obtain ⟨entry, -, rfl⟩ := List.mem_map.mp hplugin
      rfl
  intro event hevent
  rcases List.mem_append.mp hevent with hcheck | hreport
  · split at hcheck
    · rw [List.mem_singleton.mp hcheck]
      rfl
    · simp at hcheck
  · split at hreport
    · rcases List.mem_append.mp hreport with hpre | hpost
      · exact hreports _ _ _ event hpre
      · split at hpost
        · exact hreports _ _ _ event hpost
        · simp at hpost
    · simp at hreport

/-- Of an instruction, a plugin that observes everything sees the start, unless the instruction is
refused, and the end, unless the instruction is stopped. -/
theorem countP_calls (h : ObservesAll accepted label) (debugged : Bool) (counted : Counted C δ) :
    (counted.calls accepted debugged).countP (Event.tells label .pre) + counted.isRefused.toNat = 1 ∧
      (counted.calls accepted debugged).countP (Event.tells label .post) +
        counted.isStopped.toNat =
      (counted.calls accepted debugged).countP (Event.tells label .pre) := by
  have hpre : SyncMask.pre ≠ .post := by decide
  have hcheck (phase : SyncMask) : (if debugged then
      [Event.checkpoint (counted.settings.startAddress counted.machine.core)] else []).countP
        (Event.tells label phase) = 0 := by
    cases debugged <;> rfl
  rw [calls, isRefused, isStopped, List.countP_append, List.countP_append, hcheck, hcheck]
  cases counted.refusal with
  | some e => simp
  | none =>
      cases counted.completes with
      | true => simp [h.countP_reports, hpre, hpre.symm]
      | false => simp [h.countP_reports, hpre]

theorem countP_flatMap_calls (h : ObservesAll accepted label) (debugged : Bool)
    (counted : List (Counted C δ)) :
    (counted.flatMap (calls accepted debugged)).countP (Event.tells label .pre) +
        counted.countP isRefused = counted.length ∧
      (counted.flatMap (calls accepted debugged)).countP (Event.tells label .post) +
        counted.countP isStopped =
      (counted.flatMap (calls accepted debugged)).countP (Event.tells label .pre) := by
  induction counted with
  | nil => exact ⟨rfl, rfl⟩
  | cons first rest ih =>
      obtain ⟨hstart, hend⟩ := first.countP_calls h debugged
      obtain ⟨hstarts, hends⟩ := ih
      have hcons (p : Counted C δ → Bool) :
          (first :: rest).countP p = rest.countP p + (p first).toNat := by
        rw [List.countP_cons]
        cases p first <;> rfl
      rw [List.flatMap_cons, List.countP_append, List.countP_append, hcons, hcons,
        List.length_cons]
      constructor <;> omega

end Counted

/-! ## Positions -/

theorem Draft.ordinal_startsFrom {C δ : Type} [Architecture C] [Debugger δ] (settings : Settings)
    (ordinal : Nat) (fragments : List Fragment) (m : Machine C δ) :
    (startsFrom settings ordinal fragments m).map (·.ordinal) =
      List.range' ordinal (startsFrom settings ordinal fragments m).length := by
  induction fragments generalizing ordinal m with
  | nil => rfl
  | cons fragment rest ih =>
      by_cases hexhausted : settings.Exhausted m
      · simp [startsFrom_of_exhausted hexhausted]
      · rw [startsFrom_of_not_exhausted hexhausted]
        cases (settings.instruction ordinal fragment).exec m with
        | mk result m' =>
            cases result with
            | error d => rfl
            | ok _ => rw [List.map_cons, ih, List.length_cons, List.range'_succ]

namespace Simulator

variable {C G δ : Type} [Architecture C] [Emitter G C] [Debugger δ]

theorem ordinal_turnCounted (limit pc : UInt64) (sim : Simulator C G δ) :
    (sim.turnCounted limit pc).map (·.ordinal) = List.range (sim.turnCounted limit pc).length := by
  by_cases hspent : limit ≤ sim.instructionCount
  · rw [turnCounted_of_spent hspent]
    rfl
  · cases hfind : sim.find pc with
    | mk result sim₁ =>
        cases result with
        | error e =>
            rw [turnCounted_of_error hspent hfind]
            rfl
        | ok unit =>
            have hordinal := Draft.ordinal_startsFrom unit.settings 0 unit.fragments
              (sim₁.machine.enter sim.settings.layout.nextPc.index pc)
            rw [← Draft.map_toStart_countedFrom, List.map_map, List.length_map,
              ← List.range_eq_range'] at hordinal
            rw [turnCounted_of_ok hspent hfind]
            exact hordinal

/-- The instructions that a run counts, turn by turn. -/
def runCounted (fuel : Nat) (sim : Simulator C G δ) (limit : Option UInt64) :
    List (List (Counted C δ)) :=
  overTurns (fun pc sim => [sim.turnCounted (limit.getD (-1)) pc]) (limit.getD (-1)) fuel
    (Architecture.currentPc sim.machine.core) (sim.armed (limit.getD (-1)))

theorem flatten_runCounted (fuel : Nat) (sim : Simulator C G δ) (limit : Option UInt64) :
    (sim.runCounted fuel limit).flatten =
      overTurns (turnCounted (limit.getD (-1))) (limit.getD (-1)) fuel
        (Architecture.currentPc sim.machine.core) (sim.armed (limit.getD (-1))) := by
  rw [runCounted, ← List.flatMap_id, flatMap_overTurns]
  simp only [List.flatMap_singleton, id]

/-- If all events are recorded, so are all calls of a run, in the order of its instructions. -/
theorem Watched.underway_calls (hunseen : Emitter.Unseen G Event.isCall) {table : PluginTable}
    {debugged : Bool} {sim : Simulator C G δ} (h : sim.Watched table debugged)
    (hdetail : sim.machine.journal.detail = .everything) (fuel : Nat) (limit : Option UInt64) :
    (sim.underway fuel limit).machine.journal.shown Event.isCall =
      sim.machine.journal.shown Event.isCall ++
        (sim.runCounted fuel limit).flatten.flatMap
          (Counted.calls table.entries.toList debugged) := by
  have hshown := ((h.armed (limit.getD (-1))).advanced_shown hunseen (Journal.shows_isCall hdetail)
    (limit.getD (-1)) fuel (Architecture.currentPc sim.machine.core)).2
  rw [← flatten_runCounted, List.filter_eq_self.mpr] at hshown
  · exact hshown
  · intro event hevent
    obtain ⟨counted, -, hcall⟩ := List.mem_flatMap.mp hevent
    exact counted.isCall_of_mem_calls debugged event hcall

/-- Every unit that is entered starts to number its instructions afresh. -/
theorem ordinal_of_mem_runCounted (fuel : Nat) (sim : Simulator C G δ) (limit : Option UInt64) :
    ∀ unit ∈ sim.runCounted fuel limit, unit.map (·.ordinal) = List.range unit.length := by
  refine forall_overTurns (I := fun _ => True) ?_ (fun _ _ _ => trivial) trivial
  intro pc s _ unit hunit
  rw [List.mem_singleton] at hunit
  rw [hunit]
  exact s.ordinal_turnCounted _ pc

/-! ## The counter -/

/-- However many turns are made, the counter moves by the number of instructions counted. -/
theorem count_advanced {sim : Simulator C G δ} (h : Counting C G δ sim.settings.layout)
    (hfilled : sim.Filled) (limit : UInt64) (fuel : Nat) (pc : UInt64) :
    (advanced limit fuel pc sim).machine.count = sim.machine.count +
      UInt64.ofNat (overTurns (turnCounted limit) limit fuel pc sim).length := by
  induction fuel generalizing pc sim with
  | zero => simp [advanced, overTurns]
  | succ fuel ih =>
      have hcount := h.count_turn hfilled limit pc
      have hsettings := sim.turn_settings limit pc
      have hturn := hfilled.turn limit pc
      rw [← map_toStart_turnCounted, List.length_map] at hcount
      rw [advanced, overTurns, List.length_append]
      cases hcase : sim.turn limit pc with
      | mk ending sim₁ =>
          rw [hcase] at hcount hsettings hturn
          simp only at hcount hsettings hturn
          cases ending with
          | next pc₁ =>
              simp only
              rw [ih (hsettings ▸ h) hturn, hcount, UInt64.ofNat_add, UInt64.add_assoc]
          | exit e pc₁ => simpa using hcount
          | failed e pc₁ => simpa using hcount

theorem count_underway {sim : Simulator C G δ} (h : Counting C G δ sim.settings.layout)
    (hfilled : sim.Filled) (fuel : Nat) (limit : Option UInt64) :
    (sim.underway fuel limit).instructionCount =
      sim.instructionCount + UInt64.ofNat (sim.runCounted fuel limit).flatten.length := by
  have harmed : (sim.armed (limit.getD (-1))).Filled := hfilled.of_subset rfl fun _ hentry => hentry
  have hlayout : Counting C G δ (sim.armed (limit.getD (-1))).settings.layout := h
  rw [flatten_runCounted]
  exact count_advanced hlayout harmed _ fuel _

theorem count_ended {sim sim' : Simulator C G δ} (h : Counting C G δ sim.settings.layout)
    {fuel : Nat} {limit : Option UInt64} {result : Except SimError RunExit}
    (hrun : sim.run fuel limit = some (result, sim')) :
    sim'.instructionCount = (sim.underway fuel limit).instructionCount := by
  obtain ⟨pc', sim₁, hloop, rfl⟩ := run_eq_some hrun
  have hsettings : sim₁.settings = sim.settings :=
    loop_keeps (I := fun s => s.settings = sim.settings)
      (fun pc s hs => (turn_settings _ pc s).trans hs) (by rfl) hloop
  rw [underway, advanced_of_loop hloop]
  exact ((hsettings ▸ h).count_closed result pc').2

/-! ## What no action changes -/

/-- The simulator is the other one at a later time: what it was set up with is still there. -/
structure Continues (sim sim' : Simulator C G δ) : Prop where
  layout : sim'.settings.layout = sim.settings.layout
  coreId : sim'.settings.coreId = sim.settings.coreId
  clusterId : sim'.settings.clusterId = sim.settings.clusterId
  detail : sim'.machine.journal.detail = sim.machine.journal.detail

omit [Architecture C] [Emitter G C] [Debugger δ] in
theorem Continues.trans {sim sim₁ sim₂ : Simulator C G δ} (h : sim.Continues sim₁)
    (h' : sim₁.Continues sim₂) : sim.Continues sim₂ :=
  ⟨h'.layout.trans h.layout, h'.coreId.trans h.coreId, h'.clusterId.trans h.clusterId,
    h'.detail.trans h.detail⟩

omit [Architecture C] [Emitter G C] [Debugger δ] in
theorem Continues.of_settings {sim sim' : Simulator C G δ} (hsettings : sim'.settings = sim.settings)
    (hdetail : sim'.machine.journal.detail = sim.machine.journal.detail) : sim.Continues sim' :=
  ⟨by rw [hsettings], by rw [hsettings], by rw [hsettings], hdetail⟩

theorem continues_run {sim sim' : Simulator C G δ} {fuel : Nat} {limit : Option UInt64}
    {result : Except SimError RunExit} (hrun : sim.run fuel limit = some (result, sim')) :
    sim.Continues sim' := by
  obtain ⟨pc', sim₁, hloop, rfl⟩ := run_eq_some hrun
  have hended : (sim.armed (limit.getD (-1))).Continues sim₁ :=
    loop_keeps (I := (sim.armed (limit.getD (-1))).Continues)
      (fun pc s hs => hs.trans (.of_settings (turn_settings _ pc s) (turn_detail _ pc s)))
      ⟨rfl, rfl, rfl, rfl⟩ hloop
  have hclosed : (sim₁.closed result pc').machine.journal.detail =
      sim₁.machine.journal.detail := by
    unfold closed
    split
    · split
      · exact (Journal.detail_record _ _).trans (Journal.detail_record _ _)
      · rfl
    · rfl
  obtain ⟨hlayout, hcoreId, hclusterId, hdetail⟩ :=
    hended.trans (.of_settings (closed_frame sim₁ result pc').1 hclosed)
  exact ⟨hlayout, hcoreId, hclusterId, hdetail⟩

theorem Action.continues_perform {action : Action δ} {sim sim' : Simulator C G δ}
    (h : action.perform sim = some sim') : sim.Continues sim' := by
  cases action with
  | install observer =>
      cases h
      cases observer with
      | plugin p =>
          rcases sim.registerPlugin_cases p with ⟨-, heq⟩ | ⟨mask, -, -, heq⟩
          · rw [Observer.install, heq]
            exact ⟨rfl, rfl, rfl, Journal.detail_record _ _⟩
          · rw [Observer.install, heq]
            exact ⟨rfl, rfl, rfl, Journal.detail_record _ _⟩
      | debugger d => exact ⟨rfl, rfl, rfl, rfl⟩
  | request request =>
      obtain ⟨⟨answer, sim₁⟩, hsome, heq⟩ := Option.map_eq_some_iff.mp h
      cases heq
      exact Request.perform_keeps (I := fun s => sim.Continues s)
        (fun fuel limit s result s' hs hrun => hs.trans (continues_run hrun))
        (fun addr s hs => hs.trans ⟨rfl, rfl, rfl, rfl⟩)
        (fun pc s hs => hs.trans ⟨rfl, rfl, rfl,
          (Journal.detail_record _ _).trans (Journal.detail_record _ _)⟩)
        ⟨rfl, rfl, rfl, rfl⟩ hsome

theorem Action.reachable_perform {action : Action δ} {sim sim' : Simulator C G δ}
    (h : Reachable sim) (hperform : action.perform sim = some sim') : Reachable sim' := by
  cases action with
  | install observer =>
      cases hperform
      cases observer with
      | plugin p => exact h.registerPlugin p
      | debugger d => exact h.setDebugger d
  | request request =>
      obtain ⟨⟨answer, sim₁⟩, hsome, heq⟩ := Option.map_eq_some_iff.mp hperform
      cases heq
      exact Request.perform_keeps (I := Reachable)
        (fun fuel limit s result s' hs hrun => hs.run hrun)
        (fun addr s hs => hs.reset addr) (fun pc s hs => hs.writePc pc) h hsome

/-- Actions lead from reachable simulators to reachable ones, and leave their set-up alone. -/
theorem Action.continues_after {history : List (Action δ)} {fresh sim : Simulator C G δ}
    (hfresh : Reachable fresh) (h : Action.after history fresh = some sim) :
    Reachable sim ∧ fresh.Continues sim := by
  induction history generalizing fresh with
  | nil =>
      cases h
      exact ⟨hfresh, ⟨rfl, rfl, rfl, rfl⟩⟩
  | cons action history ih =>
      rw [Action.after, List.foldlM_cons] at h
      obtain ⟨sim₁, hperform, hrest⟩ := Option.bind_eq_some_iff.mp h
      obtain ⟨hreachable, hcontinues⟩ := ih (reachable_perform hfresh hperform) hrest
      exact ⟨hreachable, (continues_perform hperform).trans hcontinues⟩

end Simulator

end GuestSim

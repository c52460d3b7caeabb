import GuestSim.Proofs.Provenance

/-! # Calls of observers

Whom the code of a unit calls at the boundaries of its instructions: the debugger, the architecture,
and the plugins that were known when the unit was built. -/

namespace GuestSim

/-! ## The record of calls -/

/-- The calls that are made at the boundaries of instructions. -/
def Event.isCall : Event → Bool
  | .checkpoint _ | .plugin .. | .notify _ => true
  | _ => false

/-- The calls of observers that are made before an instruction. -/
def Event.precedes : Event → Bool
  | .checkpoint _ => true
  | .plugin _ notice => notice.phase = .pre
  | _ => false

namespace Journal

/-- What is recorded of the events that `p` picks out, in order. -/
def shown (p : Event → Bool) (journal : Journal) : List Event := journal.events.toList.filter p

@[simp] theorem detail_record (journal : Journal) (event : Event) :
    (journal.record event).detail = journal.detail := by
  unfold record
  split <;> rfl

theorem mem_events_record {journal : Journal} {event event' : Event}
    (h : event' ∈ (journal.record event).events) : event' ∈ journal.events ∨ event' = event := by
  unfold record at h
  split at h
  · exact Array.mem_push.mp h
  · exact .inl h

/-- All that `p` picks out are calls, and these are recorded. -/
structure Shows (journal : Journal) (p : Event → Bool) : Prop where
  isCall : ∀ event, p event = true → event.isCall = true
  keeps : ∀ event, p event = true → journal.detail.keeps event = true

theorem Shows.of_detail {journal journal' : Journal} {p : Event → Bool} (h : journal.Shows p)
    (hdetail : journal'.detail = journal.detail) : journal'.Shows p :=
  ⟨h.isCall, hdetail ▸ h.keeps⟩

theorem Shows.shown_record {journal : Journal} {p : Event → Bool} (h : journal.Shows p)
    (event : Event) : (journal.record event).shown p = journal.shown p ++ [event].filter p := by
  unfold record
  split
  · simp [shown]
  · rename_i hkeeps
    have hnot : ¬ p event = true := fun hp => hkeeps (h.keeps event hp)
    simp [hnot]

theorem Shows.shown_record_of_not_isCall {journal : Journal} {p : Event → Bool}
    (h : journal.Shows p) {event : Event} (hevent : event.isCall = false) (journal' : Journal) :
    (journal'.record event).shown p = journal'.shown p := by
  have hnot : ¬ p event = true := fun hp => by simp [h.isCall event hp] at hevent
  unfold record
  split
  · simp [shown, hnot]
  · rfl

/-- If anything is recorded, calls of observers are. -/
theorem shows_precedes {journal : Journal} (hdetail : journal.detail ≠ .nothing) :
    journal.Shows Event.precedes := by
  have hobserver (event : Event) (h : event.precedes = true) :
      event.isCall = true ∧ event.isObserver = true := by
    cases event with
    | checkpoint pc => exact ⟨rfl, rfl⟩
    | plugin label notice => exact ⟨rfl, rfl⟩
    | _ => simp [Event.precedes] at h
  refine ⟨fun event h => (hobserver event h).1, fun event h => ?_⟩
  cases hcase : journal.detail with
  | nothing => exact absurd hcase hdetail
  | observers => exact (hobserver event h).2
  | everything => rfl

theorem shows_isCall {journal : Journal} (hdetail : journal.detail = .everything) :
    journal.Shows Event.isCall :=
  ⟨fun _ h => h, fun _ _ => by rw [hdetail]; rfl⟩

end Journal

/-- Everything but the calls that belong before an instruction. -/
def Op.Discreet : Op → Prop
  | .checkpoint _ => False
  | .callPlugin _ notice => notice.phase ≠ .pre
  | _ => True

/-- Everything but the calls that `p` picks out. -/
def Op.Unseen (p : Event → Bool) : Op → Prop
  | .checkpoint pc => p (.checkpoint pc) = false
  | .callPlugin _ notice => ∀ label, p (.plugin label notice) = false
  | .notify phase => p (.notify phase) = false
  | _ => True

theorem Op.Discreet.unseen {op : Op} (h : op.Discreet) : op.Unseen Event.precedes := by
  cases op with
  | checkpoint pc => exact h.elim
  | callPlugin id notice => exact fun label => decide_eq_false h
  | notify phase => rfl
  | _ => trivial

namespace Machine

variable {C δ : Type} [Architecture C] [Debugger δ]

/-- What an operation adds to the record. Only plugins of the table can be called. -/
theorem perform_journal (m : Machine C δ) (op : Op) :
    (m.perform op).2.journal = m.journal ∨ ∃ event,
      (m.perform op).2.journal = m.journal.record event ∧
      (∀ p, op.Unseen p → event.isCall = true → p event = false) ∧
      ∀ label notice, event = .plugin label notice →
        ∃ entry ∈ m.context.plugins.entries.toList, entry.2.label = label := by
  cases op with
  | readMem space addr len =>
      refine .inr ⟨.readMem space addr len, ?_, by simp [Event.isCall], by simp⟩
      simp only [perform, readMem]
      cases Architecture.readMem m.core ⟨.read, space, addr⟩ len with
      | mk result core => cases result <;> rfl
  | writeMem space addr len value =>
      refine .inr ⟨.writeMem space addr len value, ?_, by simp [Event.isCall], by simp⟩
      simp only [perform, writeMem]
      cases Architecture.writeMem m.core ⟨.write, space, addr⟩ len value with
      | mk result core => cases result <;> rfl
  | checkpoint pc =>
      simp only [perform, checkpoint]
      split
      · exact .inl rfl
      · refine .inr ⟨.checkpoint pc, ?_, fun p hp _ => hp, by simp⟩
        split <;> rfl
  | callPlugin id notice =>
      simp only [perform, callPlugin]
      cases hplugin : m.context.plugins.get? id with
      | none => exact .inl rfl
      | some plugin =>
          refine .inr ⟨.plugin plugin.label notice, rfl, fun p hp _ => hp _, ?_⟩
          rintro label notice' ⟨⟩
          obtain ⟨entry, hentry, rfl⟩ := Option.map_eq_some_iff.mp hplugin
          rw [← Array.getElem?_toList] at hentry
          exact ⟨entry, List.mem_of_getElem? hentry, rfl⟩
  | notify phase => exact .inr ⟨.notify phase, rfl, fun p hp _ => hp, by simp⟩
  | memValue => exact .inl rfl
  | loadStorage offset w => exact .inl rfl
  | storeStorage offset w value => exact .inl rfl
  | limit => exact .inl rfl
  | _ => exact .inr ⟨_, rfl, by simp [Event.isCall], by simp⟩

theorem perform_detail (m : Machine C δ) (op : Op) :
    (m.perform op).2.journal.detail = m.journal.detail := by
  rcases m.perform_journal op with heq | ⟨event, heq, -⟩
  · rw [heq]
  · rw [heq, Journal.detail_record]

theorem perform_shown {m : Machine C δ} {p : Event → Bool} (hshows : m.journal.Shows p) {op : Op}
    (h : op.Unseen p) : (m.perform op).2.journal.shown p = m.journal.shown p := by
  rcases m.perform_journal op with heq | ⟨event, heq, hunseen, -⟩
  · rw [heq]
  · rw [heq, hshows.shown_record]
    cases hp : p event with
    | false => simp [hp]
    | true => simp [hunseen p h (hshows.isCall event hp)] at hp

theorem perform_debugger_isSome (m : Machine C δ) (op : Op) :
    (m.perform op).2.context.debugger.isSome = m.context.debugger.isSome := by
  cases op with
  | checkpoint pc =>
      simp only [perform, checkpoint]
      split
      · rfl
      · rename_i hdebugger
        rw [hdebugger]
        split <;> rfl
  | _ => rw [(m.perform_context _).2.2 (by simp)]

/-- A machine whose record is kept, with this table of plugins and with a debugger or without one.
Nobody but the plugins of the table was ever called. -/
structure Watched (table : PluginTable) (debugged : Bool) (m : Machine C δ) : Prop where
  plugins_eq : m.context.plugins = table
  debugger_isSome : m.context.debugger.isSome = debugged
  detail_ne : m.journal.detail ≠ .nothing
  called : ∀ label notice, Event.plugin label notice ∈ m.journal.events →
    ∃ entry ∈ table.entries.toList, entry.2.label = label

variable {table : PluginTable} {debugged : Bool}

omit [Architecture C] [Debugger δ] in
theorem Watched.record {m m' : Machine C δ} (h : m.Watched table debugged) (event : Event)
    (hevent : ∀ label notice, event ≠ .plugin label notice)
    (hplugins : m'.context.plugins = m.context.plugins)
    (hdebugger : m'.context.debugger = m.context.debugger)
    (hjournal : m'.journal = m.journal.record event) : m'.Watched table debugged where
  plugins_eq := hplugins.trans h.plugins_eq
  debugger_isSome := by rw [hdebugger, h.debugger_isSome]
  detail_ne := by rw [hjournal, Journal.detail_record]; exact h.detail_ne
  called label notice hmem := by
    rw [hjournal] at hmem
    rcases Journal.mem_events_record hmem with hmem | heq
    · exact h.called label notice hmem
    · exact absurd heq.symm (hevent label notice)

theorem Watched.perform {m : Machine C δ} (h : m.Watched table debugged) (op : Op) :
    (m.perform op).2.Watched table debugged := by
  refine ⟨(m.perform_context op).2.1.trans h.plugins_eq,
    (m.perform_debugger_isSome op).trans h.debugger_isSome, ?_, ?_⟩
  · rw [m.perform_detail]
    exact h.detail_ne
  · intro label notice hmem
    rcases m.perform_journal op with heq | ⟨event, heq, -, htable⟩
    · exact h.called label notice (heq ▸ hmem)
    · rcases Journal.mem_events_record (heq ▸ hmem) with hmem | rfl
      · exact h.called label notice hmem
      · rw [← h.plugins_eq]
        exact htable label notice rfl

end Machine

section Run

variable {C δ α : Type} [Architecture C] [Debugger δ] {p : Event → Bool}

theorem Code.run_detail (code : Code α) (m : Machine C δ) :
    (code.run m).2.journal.detail = m.journal.detail :=
  code.uses_trivial.keeps (I := fun q => q.journal.detail = m.journal.detail)
    (fun op q _ hq => (q.perform_detail op).trans hq) rfl _ (code.end_mem_points m)

theorem Body.exec_detail (body : Body α) (m : Machine C δ) :
    (body.exec m).2.journal.detail = m.journal.detail :=
  Code.run_detail _ m

theorem Code.Uses.run_shown {code : Code α} (h : code.Uses (Op.Unseen p)) {m : Machine C δ}
    (hm : m.journal.Shows p) : (code.run m).2.journal.shown p = m.journal.shown p :=
  (h.keeps (I := fun q => q.journal.Shows p ∧ q.journal.shown p = m.journal.shown p)
    (fun op q hop hq => ⟨hq.1.of_detail (q.perform_detail op),
      (Machine.perform_shown hq.1 hop).trans hq.2⟩) ⟨hm, rfl⟩ _ (code.end_mem_points m)).2

theorem Body.Uses.exec_shown {body : Body α} (h : body.Uses (Op.Unseen p)) {m : Machine C δ}
    (hm : m.journal.Shows p) : (body.exec m).2.journal.shown p = m.journal.shown p :=
  Code.Uses.run_shown h hm

theorem Body.exec_watched (body : Body α) {m : Machine C δ} {table : PluginTable}
    {debugged : Bool} (h : m.Watched table debugged) : (body.exec m).2.Watched table debugged :=
  (Code.uses_trivial _).keeps (fun op _ _ hq => hq.perform op) h _ (body.end_mem_points m)

end Run

/-! ## The table of plugins -/

/-- A boundary is a single bit. -/
theorem SyncMask.intersects_eq_contains {phase : SyncMask} (h : phase = .pre ∨ phase = .post)
    (mask : SyncMask) : mask.intersects phase = mask.contains phase := by
  have hle : (mask.bits &&& phase.bits).toNat ≤ phase.bits.toNat := by
    rw [UInt32.toNat_and]
    exact Nat.and_le_right
  have heven : phase = .post → (mask.bits &&& phase.bits).toNat % 2 = 0 := by
    rintro rfl
    rw [← Nat.and_one_is_mod, UInt32.toNat_and, Nat.and_assoc]
    exact Nat.and_zero _
  rw [Bool.eq_iff_iff]
  simp only [intersects, contains, bne_iff_ne, beq_iff_eq, ne_eq, ← UInt32.toNat_inj]
  rcases h with rfl | rfl
  · simp only [pre, UInt32.toNat_ofNat] at hle ⊢
    omega
  · have heven := heven rfl
    simp only [post, UInt32.toNat_ofNat] at hle heven ⊢
    omega

theorem SyncMask.contains_union (a b : SyncMask) : (a.union b).contains b = true := by
  simp only [union, contains, beq_iff_eq]
  apply UInt32.toBitVec_inj.mp
  ext i
  simp only [UInt32.toBitVec_and, UInt32.toBitVec_or, BitVec.getElem_and, BitVec.getElem_or]
  cases b.bits.toBitVec[i] with
  | false => simp
  | true => simp

namespace PluginTable

theorem get?_of_mem_zipIdx {table : PluginTable} (hsize : table.size ≤ UInt32.size) :
    ∀ entry ∈ table.entries.toList.zipIdx,
      table.get? (UInt32.ofNat entry.2) = some entry.1.2 := by
  intro entry h
  have hentry := List.mem_zipIdx_iff_getElem?.mp h
  have hlt : entry.2 < table.size := (List.getElem?_eq_some_iff.mp hentry).1
  rw [get?, UInt32.toNat_ofNat', Nat.mod_eq_of_lt (Nat.lt_of_lt_of_le hlt hsize),
    ← Array.getElem?_toList, hentry]
  rfl

theorem filterMap_get? {table : PluginTable} (hsize : table.size ≤ UInt32.size) (phase : SyncMask)
    {β : Type} (f : Plugin → β) :
    (table.masks.filter (·.2.intersects phase)).filterMap (fun call => (table.get? call.1).map f) =
      (table.entries.toList.filter (·.1.intersects phase)).map (f ·.2) := by
  have hfound := get?_of_mem_zipIdx hsize
  rw [masks]
  -- the rest of a table is numbered from where its first entries end
  generalize table.entries.toList = entries at hfound ⊢
  generalize 0 = n at hfound ⊢
  induction entries generalizing n with
  | nil => rfl
  | cons entry entries ih =>
      obtain ⟨mask, plugin⟩ := entry
      rw [List.zipIdx_cons, List.forall_mem_cons] at hfound
      have hrest := ih (n + 1) hfound.2
      by_cases hphase : mask.intersects phase = true
      · simp [hphase, hfound.1, hrest]
      · simp [hphase, hrest]

end PluginTable

/-! ## One instruction -/

/-- The calls to be made before an instruction: the debugger is asked if there is one, and unless it
refuses, the plugins that observe the boundary are told, in the order of their acceptance. -/
def Start.calls {C δ : Type} [Architecture C] [Debugger δ] (accepted : List (SyncMask × Plugin))
    (debugged : Bool) (start : Start C δ) : List Event :=
  (if debugged then [.checkpoint (start.settings.startAddress start.machine.core)] else []) ++
    if start.refusal.isNone then
      (accepted.filter (·.1.contains .pre)).map fun (_, plugin) =>
        .plugin plugin.label
          ⟨start.settings.coreId, start.settings.clusterId, .pre, UInt32.ofNat start.ordinal⟩
    else []

/-- The calls to be made at a boundary: the architecture is told if it wants to be, and then the
plugins that observe the boundary, in the order of their acceptance. -/
def Settings.reports (settings : Settings) (accepted : List (SyncMask × Plugin))
    (phase : SyncMask) (ordinal : UInt32) : List Event :=
  (if settings.syncExec.contains phase then [.notify (.ofMask phase)] else []) ++
    (accepted.filter (·.1.contains phase)).map fun (_, plugin) =>
      .plugin plugin.label ⟨settings.coreId, settings.clusterId, phase, ordinal⟩

/-- An instruction that is counted, with its code. -/
structure Counted (C δ : Type) extends Start C δ where
  fragment : Fragment

namespace Counted

variable {C δ : Type} [Architecture C] [Debugger δ]

/-- The machine that the code of the instruction itself runs on. -/
def opened (counted : Counted C δ) : Machine C δ :=
  ((do
    let pc ← counted.settings.advance
    counted.settings.debugCheck pc
    counted.settings.report .pre (UInt32.ofNat counted.ordinal) : Body Unit).exec
      counted.machine).2

/-- Whether control reaches the end of the instruction. -/
def completes (counted : Counted C δ) : Bool :=
  match (counted.fragment.body.exec counted.opened).1 with
  | .ok _ => counted.fragment.isOpen
  | .error _ => false

/-- The calls to be made for an instruction: the debugger is asked if there is one, and unless it
refuses, the start of the instruction is reported, and its end if control reaches it. -/
def calls (accepted : List (SyncMask × Plugin)) (debugged : Bool) (counted : Counted C δ) :
    List Event :=
  (if debugged then [.checkpoint (counted.settings.startAddress counted.machine.core)] else []) ++
    if counted.refusal.isNone then
      counted.settings.reports accepted .pre (UInt32.ofNat counted.ordinal) ++
        if counted.completes then
          counted.settings.reports accepted .post (UInt32.ofNat counted.ordinal)
        else []
    else []

end Counted

theorem Settings.filter_reports_pre (settings : Settings) (accepted : List (SyncMask × Plugin))
    (ordinal : UInt32) :
    (settings.reports accepted .pre ordinal).filter Event.precedes =
      (accepted.filter (·.1.contains .pre)).map fun (_, plugin) =>
        .plugin plugin.label ⟨settings.coreId, settings.clusterId, .pre, ordinal⟩ := by
  rw [reports, List.filter_append, List.filter_map]
  split <;> simp [Event.precedes, Function.comp_def]

theorem Settings.filter_reports_post (settings : Settings) (accepted : List (SyncMask × Plugin))
    (ordinal : UInt32) : (settings.reports accepted .post ordinal).filter Event.precedes = [] := by
  have hphase : SyncMask.post ≠ .pre := by decide
  rw [reports, List.filter_append, List.filter_map]
  split <;> simp [Event.precedes, Function.comp_def, hphase]

theorem Counted.filter_calls {C δ : Type} [Architecture C] [Debugger δ] (counted : Counted C δ)
    (accepted : List (SyncMask × Plugin)) (debugged : Bool) :
    (counted.calls accepted debugged).filter Event.precedes =
      counted.toStart.calls accepted debugged := by
  have hchecked : (if debugged then
      [Event.checkpoint (counted.settings.startAddress counted.machine.core)] else []).filter
        Event.precedes =
      if debugged then [.checkpoint (counted.settings.startAddress counted.machine.core)]
      else [] := by
    cases debugged <;> rfl
  rw [calls, Start.calls, List.filter_append, hchecked]
  cases counted.refusal.isNone with
  | false => rfl
  | true =>
      simp only [if_true, List.filter_append, Settings.filter_reports_pre]
      cases counted.completes with
      | false => simp
      | true => simp [Settings.filter_reports_post]

/-- Code made with the settings calls the plugins of a table, and the debugger if there is one. -/
structure Settings.Instrumented (settings : Settings) (table : PluginTable) (debugged : Bool) :
    Prop where
  plugins_eq : settings.plugins = table.masks
  size_le : table.size ≤ UInt32.size
  debugging : debugged = true → settings.debugging = true

section Instruction

variable {C δ : Type} [Architecture C] [Debugger δ] {table : PluginTable} {debugged : Bool}
  {p : Event → Bool}

omit [Architecture C] in
theorem Machine.checkpoint_of_some {m : Machine C δ} {debugger : δ}
    (h : m.context.debugger = some debugger) (pc : UInt64) :
    ∃ m', m.checkpoint pc =
        (if (Debugger.check pc debugger).1.isNone then Status.ok else Status.trap, m') ∧
      m'.journal = m.journal.record (.checkpoint pc) := by
  simp only [checkpoint, h]
  split
  · rename_i hnone
    exact ⟨_, by rw [hnone]; rfl, rfl⟩
  · rename_i e hsome
    exact ⟨_, by rw [hsome]; rfl, rfl⟩

theorem Start.debugCheck_shown {start : Start C δ}
    (hsettings : start.settings.Instrumented table debugged)
    (hm : start.machine.Watched table debugged) (hshows : start.machine.journal.Shows p) (core : C) :
    ∃ m', (start.settings.debugCheck (start.settings.startAddress start.machine.core)).exec
        { start.machine with core } =
          (if start.refusal.isNone then .ok () else .error .trap, m') ∧
      m'.journal.shown p = start.machine.journal.shown p ++ (if debugged then
        [.checkpoint (start.settings.startAddress start.machine.core)] else []).filter p := by
  rw [Settings.debugCheck_exec, refusal]
  cases hdebugger : start.machine.context.debugger with
  | none =>
      have hnot : debugged = false := by simpa [hdebugger] using hm.debugger_isSome.symm
      refine ⟨{ start.machine with core }, ?_, by simp [hnot]⟩
      simp [Machine.checkpoint, hdebugger]
  | some debugger =>
      have hyes : debugged = true := by simpa [hdebugger] using hm.debugger_isSome.symm
      obtain ⟨m', hcheckpoint, hjournal⟩ := Machine.checkpoint_of_some
        (m := { start.machine with core }) hdebugger
        (start.settings.startAddress start.machine.core)
      refine ⟨m', ?_, ?_⟩
      · rw [if_pos (hsettings.debugging hyes), if_pos (hsettings.debugging hyes), hcheckpoint,
          Option.bind_some]
        cases (Debugger.check (start.settings.startAddress start.machine.core) debugger).1 with
        | none => rfl
        | some e => rfl
      · rw [hjournal, hyes, if_pos rfl]
        exact hshows.shown_record _

theorem Settings.callPlugins_shown (calls : List (UInt32 × SyncMask)) (notice : Notice)
    {m : Machine C δ} (hm : m.Watched table debugged) (hshows : m.journal.Shows p) :
    ((calls.forM fun call => Body.tell (.callPlugin call.1 notice)).exec m).2.journal.shown p =
      m.journal.shown p ++ (calls.filterMap fun call =>
        (table.get? call.1).map fun plugin => Event.plugin plugin.label notice).filter p := by
  induction calls generalizing m with
  | nil => simp
  | cons call calls ih =>
      have hcall : (m.callPlugin call.1 notice).2.journal.shown p = m.journal.shown p ++
          ((table.get? call.1).map fun plugin =>
            Event.plugin plugin.label notice).toList.filter p := by
        rw [Machine.callPlugin, hm.plugins_eq]
        cases table.get? call.1 with
        | none => simp
        | some plugin => exact hshows.shown_record _
      have hdetail := m.perform_detail (.callPlugin call.1 notice)
      rw [List.forM_eq_forM, List.forM_cons, Body.exec_bind, Body.exec_tell]
      refine (ih (hm.perform (.callPlugin call.1 notice)) (hshows.of_detail hdetail)).trans ?_
      change (m.callPlugin call.1 notice).2.journal.shown p ++ _ = _
      rw [hcall, List.filterMap_cons]
      cases table.get? call.1 with
      | none => simp
      | some plugin =>
          rw [List.append_assoc, ← List.filter_append]
          rfl

/-- At a boundary the architecture is told, and then the plugins that observe the boundary. -/
theorem Settings.Instrumented.report_shown {settings : Settings}
    (hsettings : settings.Instrumented table debugged) {phase : SyncMask}
    (hphase : phase = .pre ∨ phase = .post) (ordinal : UInt32) {m : Machine C δ}
    (hm : m.Watched table debugged) (hshows : m.journal.Shows p) :
    ((settings.report phase ordinal).exec m).2.journal.shown p = m.journal.shown p ++
      (settings.reports table.entries.toList phase ordinal).filter p := by
  let notice : Notice := ⟨settings.coreId, settings.clusterId, phase, ordinal⟩
  have hobserving := table.filterMap_get? hsettings.size_le phase
    fun plugin => Event.plugin plugin.label notice
  simp only [SyncMask.intersects_eq_contains hphase (Prod.fst _)] at hobserving
  have hcalled {m : Machine C δ} (hm : m.Watched table debugged) (hshows : m.journal.Shows p) :
      (((settings.plugins.filter (·.2.intersects phase)).forM fun call =>
        Body.tell (.callPlugin call.1 notice)).exec m).2.journal.shown p =
      m.journal.shown p ++ ((table.entries.toList.filter (·.1.contains phase)).map fun entry =>
        Event.plugin entry.2.label notice).filter p := by
    rw [Settings.callPlugins_shown _ notice hm hshows, hsettings.plugins_eq, hobserving]
  rw [reports, ← SyncMask.intersects_eq_contains hphase]
  by_cases hnotify : settings.syncExec.intersects phase = true
  · have hnotified : (m.perform (.notify (.ofMask phase))).2.journal.shown p =
        m.journal.shown p ++ [Event.notify (.ofMask phase)].filter p := hshows.shown_record _
    have hafter := hcalled (hm.perform (.notify (.ofMask phase)))
      (hshows.of_detail (m.perform_detail _))
    rw [hnotified, List.append_assoc, ← List.filter_append] at hafter
    simpa [report, hnotify, Body.exec_bind] using hafter
  · simpa [report, hnotify] using hcalled hm hshows

theorem Counted.body_shown (counted : Counted C δ)
    (hsettings : counted.settings.Instrumented table debugged)
    (hm : counted.opened.Watched table debugged) (hshows : counted.opened.journal.Shows p)
    (hbody : counted.fragment.body.Uses (Op.Unseen p)) :
    ((do
        counted.fragment.body
        if counted.fragment.isOpen then counted.settings.after (UInt32.ofNat counted.ordinal)
        else throw .leave : Body Unit).exec counted.opened).2.journal.shown p =
      counted.opened.journal.shown p ++ (if counted.completes then
        counted.settings.reports table.entries.toList .post (UInt32.ofNat counted.ordinal)
        else []).filter p := by
  have hshown := hbody.exec_shown hshows
  have hm' := Body.exec_watched counted.fragment.body hm
  have hshows' := hshows.of_detail (counted.fragment.body.exec_detail counted.opened)
  rw [completes]
  cases hexec : counted.fragment.body.exec counted.opened with
  | mk result m' =>
      rw [hexec] at hshown hm' hshows'
      cases result with
      | error d =>
          rw [Body.exec_bind_error hexec, hshown]
          simp
      | ok _ =>
          rw [Body.exec_bind_ok hexec]
          cases counted.fragment.isOpen with
          | false => simpa using hshown
          | true =>
              rw [← hshown]
              exact hsettings.report_shown (.inr rfl) _ hm' hshows'

/-- Past the check of the budget, an instruction makes its calls, whatever its own code does. -/
theorem Counted.instruction_shown (counted : Counted C δ)
    (hsettings : counted.settings.Instrumented table debugged)
    (hm : counted.machine.Watched table debugged) (hshows : counted.machine.journal.Shows p)
    (hbody : counted.fragment.body.Uses (Op.Unseen p)) :
    ((counted.settings.instruction counted.ordinal counted.fragment).exec
        counted.machine).2.journal.shown p =
      counted.machine.journal.shown p ++
        (counted.calls table.entries.toList debugged).filter p := by
  let started : Machine C δ :=
    { counted.machine with core := counted.settings.started counted.machine.core }
  let check := counted.settings.debugCheck
    (counted.settings.startAddress counted.machine.core)
  obtain ⟨m₁, hcheck, hchecked⟩ := counted.debugCheck_shown hsettings hm hshows started.core
  have hm₁ : m₁.Watched table debugged := by
    have hwatched := check.exec_watched (m := started) { hm with }
    rwa [hcheck] at hwatched
  have hshows₁ : m₁.journal.Shows p := by
    refine hshows.of_detail ?_
    have hdetail := check.exec_detail started
    rwa [hcheck] at hdetail
  have hadvance := counted.settings.advance_exec counted.machine
  rw [Settings.instruction, Body.exec_bind_ok hadvance, calls, List.filter_append,
    ← List.append_assoc, ← hchecked]
  cases hrefusal : counted.refusal.isNone with
  | false =>
      rw [hrefusal, if_neg Bool.false_ne_true] at hcheck
      rw [Body.exec_bind_error hcheck]
      simp
  | true =>
      rw [hrefusal, if_pos rfl] at hcheck
      obtain ⟨m₂, hreport, -⟩ :=
        counted.settings.report_exec .pre (UInt32.ofNat counted.ordinal) m₁
      have hreported := hsettings.report_shown (.inl rfl) (UInt32.ofNat counted.ordinal) hm₁ hshows₁
      have hm₂ := Body.exec_watched (counted.settings.report .pre (UInt32.ofNat counted.ordinal)) hm₁
      have hdetail := (counted.settings.report .pre (UInt32.ofNat counted.ordinal)).exec_detail m₁
      have hopened : counted.opened = m₂ := by
        rw [opened, Body.exec_bind_ok hadvance, Body.exec_bind_ok hcheck, hreport]
      rw [hreport] at hreported hm₂ hdetail
      rw [← hopened] at hreport hreported hm₂ hdetail
      rw [Body.exec_bind_ok hcheck, Body.exec_bind_ok hreport,
        counted.body_shown hsettings hm₂ (hshows₁.of_detail hdetail) hbody, hreported, if_pos rfl,
        List.filter_append, List.append_assoc]

end Instruction

/-! ## Units -/

/-- The code that an emitter of type `G` generates calls nobody in the place of the code before an
instruction. -/
structure Emitter.Discreet {C : Type} (G : Type) [Emitter G C] : Prop where
  body : ∀ fragment : Fragment, fragment.Generated G → fragment.body.Uses Op.Discreet
  leave : ∀ layout (emitter : G), (Emitter.leave layout emitter).1.code.run.Uses Op.Discreet
  trap : ∀ layout (emitter : G), (Emitter.trap layout emitter).1.code.run.Uses Op.Discreet

/-- The code that an emitter of type `G` generates makes no calls that `p` picks out. -/
structure Emitter.Unseen {C : Type} (G : Type) [Emitter G C] (p : Event → Bool) : Prop where
  body : ∀ fragment : Fragment, fragment.Generated G → fragment.body.Uses (Op.Unseen p)
  leave : ∀ layout (emitter : G), (Emitter.leave layout emitter).1.code.run.Uses (Op.Unseen p)
  trap : ∀ layout (emitter : G), (Emitter.trap layout emitter).1.code.run.Uses (Op.Unseen p)

theorem Emitter.Discreet.unseen {C G : Type} [Emitter G C] (h : Emitter.Discreet G) :
    Emitter.Unseen G Event.precedes where
  body fragment hfragment := Code.Uses.mono (fun _ hop => hop.unseen) (h.body fragment hfragment)
  leave layout emitter := Code.Uses.mono (fun _ hop => hop.unseen) (h.leave layout emitter)
  trap layout emitter := Code.Uses.mono (fun _ hop => hop.unseen) (h.trap layout emitter)

namespace Draft

variable {C G δ : Type} [Architecture C] [Debugger δ]

/-- The instructions that fragments count, the first of which has position `ordinal`. -/
def countedFrom (settings : Settings) (ordinal : Nat) (fragments : List Fragment)
    (m : Machine C δ) : List (Counted C δ) :=
  (startsFrom settings ordinal fragments m).zipWith Counted.mk fragments

def counted (draft : Draft) (m : Machine C δ) : List (Counted C δ) :=
  countedFrom draft.settings 0 draft.fragments m

theorem countedFrom_of_exhausted {settings : Settings} {ordinal : Nat} {fragments : List Fragment}
    {m : Machine C δ} (h : settings.Exhausted m) :
    countedFrom settings ordinal fragments m = [] := by
  rw [countedFrom, startsFrom_of_exhausted h, List.zipWith_nil_left]

theorem countedFrom_of_not_exhausted {settings : Settings} {ordinal : Nat} {fragment : Fragment}
    {rest : List Fragment} {m : Machine C δ} (h : ¬ settings.Exhausted m) :
    countedFrom settings ordinal (fragment :: rest) m =
      ⟨⟨settings, ordinal, m⟩, fragment⟩ ::
        match (settings.instruction ordinal fragment).exec m with
        | (.error _, _) => []
        | (.ok _, m) => countedFrom settings (ordinal + 1) rest m := by
  rw [countedFrom, startsFrom_of_not_exhausted h, List.zipWith_cons_cons]
  cases (settings.instruction ordinal fragment).exec m with
  | mk result m' => cases result <;> rfl

theorem map_toStart_countedFrom (settings : Settings) (ordinal : Nat) (fragments : List Fragment)
    (m : Machine C δ) :
    (countedFrom settings ordinal fragments m).map Counted.toStart =
      startsFrom settings ordinal fragments m := by
  rw [countedFrom, ← List.map_uncurry_zip_eq_zipWith, List.map_map]
  exact List.map_fst_zip (startsFrom_length_le settings ordinal fragments m)

variable [Emitter G C] {table : PluginTable} {debugged : Bool} {p : Event → Bool}

theorem sequence_shown {settings : Settings} (hsettings : settings.Instrumented table debugged)
    (ordinal : Nat) {fragments : List Fragment}
    (hbody : ∀ fragment ∈ fragments, fragment.body.Uses (Op.Unseen p)) {m : Machine C δ}
    (hm : m.Watched table debugged) (hshows : m.journal.Shows p) :
    ((sequence settings ordinal fragments).exec m).2.journal.shown p =
      m.journal.shown p ++ ((countedFrom settings ordinal fragments m).flatMap
        (Counted.calls table.entries.toList debugged)).filter p := by
  induction fragments generalizing ordinal m with
  | nil => simp [sequence, countedFrom]
  | cons fragment rest ih =>
      -- `sequence` and `countedFrom` stop at the same instruction, and for the same reasons
      obtain ⟨hfirst, hrest⟩ := List.forall_mem_cons.mp hbody
      rw [sequence_cons]
      by_cases hexhausted : settings.Exhausted m
      · rw [countedFrom_of_exhausted hexhausted,
          Body.exec_bind_error (Settings.budgetCheck_exec_of_exhausted hexhausted)]
        simp
      · rw [countedFrom_of_not_exhausted hexhausted,
          Body.exec_bind_ok (Settings.budgetCheck_exec_of_not_exhausted hexhausted)]
        have hcalls := Counted.instruction_shown ⟨⟨settings, ordinal, m⟩, fragment⟩ hsettings hm
          hshows hfirst
        have hm' := Body.exec_watched (settings.instruction ordinal fragment) hm
        have hshows' := hshows.of_detail ((settings.instruction ordinal fragment).exec_detail m)
        cases hinstr : (settings.instruction ordinal fragment).exec m with
        | mk result m' =>
            rw [hinstr] at hcalls hm' hshows'
            cases result with
            | error d =>
                rw [Body.exec_bind_error hinstr]
                simpa using hcalls
            | ok _ =>
                rw [Body.exec_bind_ok hinstr, ih (ordinal + 1) hrest hm' hshows', hcalls,
                  List.flatMap_cons, List.filter_append, List.append_assoc]

theorem Made.code_shown (hunseen : Emitter.Unseen G p) {settings : Settings}
    (hsettings : settings.Instrumented table debugged) {draft : Draft}
    (hmade : draft.Made G settings) {m : Machine C δ} (hm : m.Watched table debugged)
    (hshows : m.journal.Shows p) :
    (draft.code.run m).2.journal.shown p = m.journal.shown p ++
      ((draft.counted m).flatMap (Counted.calls table.entries.toList debugged)).filter p := by
  obtain ⟨d, m', hexec⟩ := sequence_departs draft.settings 0 draft.fragments m
  have hcalls := sequence_shown (hmade.settings_eq ▸ hsettings) 0
    (fun fragment hmem => hunseen.body fragment (hmade.generated fragment hmem)) hm hshows
  have hshows' := hshows.of_detail
    ((sequence draft.settings 0 draft.fragments).exec_detail m)
  obtain ⟨emitter, hleave⟩ := hmade.leave_eq
  obtain ⟨emitter', htrap⟩ := hmade.trap_eq
  have hexit : (draft.exit d).Uses (Op.Unseen p) :=
    exit_uses (hleave ▸ hunseen.leave _ emitter) (htrap ▸ hunseen.trap _ emitter') d
  rw [hexec] at hcalls hshows'
  rw [code_run hmade.linked hexec, hexit.run_shown hshows']
  exact hcalls

end Draft

theorem Draft.settings_of_mem_startsFrom {C δ : Type} [Architecture C] [Debugger δ]
    (settings : Settings) (ordinal : Nat) (fragments : List Fragment) (m : Machine C δ) :
    ∀ start ∈ startsFrom settings ordinal fragments m, start.settings = settings := by
  induction fragments generalizing ordinal m with
  | nil => simp [startsFrom]
  | cons fragment rest ih =>
      by_cases hexhausted : settings.Exhausted m
      · simp [startsFrom_of_exhausted hexhausted]
      · rw [startsFrom_of_not_exhausted hexhausted]
        refine List.forall_mem_cons.mpr ⟨rfl, ?_⟩
        split
        · simp
        · exact ih _ _

end GuestSim

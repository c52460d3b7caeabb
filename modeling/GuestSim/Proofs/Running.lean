import GuestSim.CodeUnit.Build
import GuestSim.Proofs.Words

/-! # Running the body of a unit

How the code at the boundaries of an instruction acts on a machine, and a unit as a sequence of
instructions that each check the budget first. -/

namespace GuestSim

/-! ## Slots of the register storage -/

namespace Architecture

variable {C : Type} [Architecture C]

def loadSlot (core : C) (slot : RegSlot) : Word slot.width :=
  loadStorage core slot.offset.toInt32 slot.width

/-- The core with a value in a slot of its register storage, brought to the width of the slot. -/
def storeSlot {w : Width} (core : C) (slot : RegSlot) (value : Word w) : C :=
  storeStorage core slot.offset.toInt32 (Word.resize false slot.width value)

end Architecture

/-! ## Code that may leave its unit -/

namespace Body

variable {C δ α β : Type} [Architecture C] [Debugger δ]

/-- Runs code that may leave its unit. -/
def exec (body : Body α) (m : Machine C δ) : Except Departure α × Machine C δ :=
  (ExceptT.run body).run m

@[simp] theorem exec_pure (a : α) (m : Machine C δ) :
    (pure a : Body α).exec m = (.ok a, m) := rfl

@[simp] theorem exec_throw (d : Departure) (m : Machine C δ) :
    (throw d : Body α).exec m = (.error d, m) := rfl

theorem exec_bind (body : Body α) (f : α → Body β) (m : Machine C δ) :
    (body >>= f).exec m =
      match body.exec m with
      | (.ok a, m') => (f a).exec m'
      | (.error d, m') => (.error d, m') := by
  simp only [exec, ExceptT.run_bind, Code.run_bind]
  cases h : (ExceptT.run body).run m with
  | mk result m' => cases result <;> rfl

theorem exec_bind_ok {body : Body α} {f : α → Body β} {m m' : Machine C δ} {a : α}
    (h : body.exec m = (.ok a, m')) : (body >>= f).exec m = (f a).exec m' := by
  rw [exec_bind, h]

theorem exec_bind_error {body : Body α} {f : α → Body β} {m m' : Machine C δ} {d : Departure}
    (h : body.exec m = (.error d, m')) : (body >>= f).exec m = (.error d, m') := by
  rw [exec_bind, h]

@[simp] theorem exec_ask (op : Op) (m : Machine C δ) :
    (ask op).exec m = (.ok (m.perform op).1, (m.perform op).2) := rfl

@[simp] theorem exec_tell (op : Op) (m : Machine C δ) :
    (tell op).exec m = (.ok (), (m.perform op).2) := rfl

@[simp] theorem exec_loadSlot (slot : RegSlot) (m : Machine C δ) :
    (loadSlot slot).exec m = (.ok (Architecture.loadSlot m.core slot), m) := by
  change (Except.ok (Word.const slot.width (Word.toUInt64 _)), m) = _
  rw [Word.const_toUInt64]
  rfl

@[simp] theorem exec_storeSlot {w : Width} (slot : RegSlot) (value : Word w) (m : Machine C δ) :
    (storeSlot slot value).exec m =
      (.ok (), { m with core := Architecture.storeSlot m.core slot value }) := by
  change (Except.ok (), { m with
    core := Architecture.storeStorage m.core _ (Word.const slot.width (Word.toUInt64 _)) }) = _
  rw [Word.const_toUInt64]
  rfl

theorem exec_attempt (op : Op) (m : Machine C δ) :
    (attempt op).exec m =
      (if (m.perform op).1 = Status.ok then .ok () else .error .trap, (m.perform op).2) := by
  by_cases h : (m.perform op).1 = Status.ok
  · simp [attempt, exec_bind, h]
  · simp [attempt, exec_bind, h]

end Body

/-! ## The boundaries of an instruction -/

/-- Calls of plugins touch neither the core nor what generated code shares with its driver. -/
theorem Machine.callPlugin_frame {C δ : Type} (m : Machine C δ) (id : UInt32) (notice : Notice) :
    (m.callPlugin id notice).2.core = m.core ∧
      (m.callPlugin id notice).2.context = m.context := by
  unfold callPlugin
  split <;> exact ⟨rfl, rfl⟩

namespace Settings

variable {C δ : Type} [Architecture C]

/-- The core once an instruction is counted and has become the current one. -/
def started (settings : Settings) (core : C) : C :=
  let layout := settings.layout
  let core := Architecture.storeSlot core layout.icount
    (Architecture.loadSlot core layout.icount + 1)
  let core := Architecture.storeSlot core layout.pc (Architecture.loadSlot core layout.nextPc)
  Architecture.storeSlot core layout.trapState (Architecture.loadSlot core layout.pendingTrap)

/-- The address that the debugger is asked about. -/
def startAddress (settings : Settings) (core : C) : UInt64 :=
  let layout := settings.layout
  let core := Architecture.storeSlot core layout.icount
    (Architecture.loadSlot core layout.icount + 1)
  (Word.resize false .w64 (Architecture.loadSlot core layout.nextPc)).toUInt64

/-- Whether a unit is left before its next instruction because the budget is used up. -/
def Exhausted (settings : Settings) (m : Machine C δ) : Prop :=
  settings.preciseLimit = true ∧
    m.context.icountLimit ≤ (Architecture.loadSlot m.core settings.layout.icount).toUInt64

variable [Debugger δ]

theorem budgetCheck_exec_of_exhausted {settings : Settings} {m : Machine C δ}
    (h : settings.Exhausted m) : settings.budgetCheck.exec m = (.error .leave, m) := by
  obtain ⟨hprecise, hlimit⟩ := h
  simp [budgetCheck, hprecise, Body.exec_bind, Machine.perform, hlimit]

theorem budgetCheck_exec_of_not_exhausted {settings : Settings} {m : Machine C δ}
    (h : ¬ settings.Exhausted m) : settings.budgetCheck.exec m = (.ok (), m) := by
  by_cases hprecise : settings.preciseLimit = true
  · have hlimit : ¬ m.context.icountLimit ≤
        (Architecture.loadSlot m.core settings.layout.icount).toUInt64 := fun hle =>
      h ⟨hprecise, hle⟩
    simp [budgetCheck, hprecise, Body.exec_bind, Machine.perform, hlimit]
  · simp [budgetCheck, hprecise]

theorem advance_exec (settings : Settings) (m : Machine C δ) :
    settings.advance.exec m =
      (.ok (settings.startAddress m.core), { m with core := settings.started m.core }) := by
  rw [advance, Body.exec_bind_ok (Body.exec_loadSlot _ _),
    Body.exec_bind_ok (Body.exec_storeSlot _ _ _), Body.exec_bind_ok (Body.exec_loadSlot _ _),
    Body.exec_bind_ok (Body.exec_storeSlot _ _ _), Body.exec_bind_ok (Body.exec_loadSlot _ _),
    Body.exec_bind_ok (Body.exec_storeSlot _ _ _)]
  rfl

theorem debugCheck_exec (settings : Settings) (pc : UInt64) (m : Machine C δ) :
    (settings.debugCheck pc).exec m =
      if settings.debugging then
        (if (m.checkpoint pc).1 = Status.ok then .ok () else .error .trap, (m.checkpoint pc).2)
      else (.ok (), m) := by
  by_cases h : settings.debugging = true
  · rw [debugCheck, if_pos h, if_pos h, Body.exec_attempt]
    rfl
  · simp [debugCheck, h]

/-- What the debugger says about an instruction, and the debugger afterwards. -/
def consult (settings : Settings) (pc : UInt64) (debugger : Option δ) :
    Option Exception × Option δ :=
  if settings.debugging then
    (debugger.bind fun debugger => (Debugger.check pc debugger).1,
      debugger.map fun debugger => (Debugger.check pc debugger).2)
  else (none, debugger)

omit [Architecture C] in
theorem checkpoint_answer (m : Machine C δ) (pc : UInt64) :
    ∃ answer m', m.context.debugger.bind (fun debugger => (Debugger.check pc debugger).1) = answer ∧
      m.checkpoint pc = (if answer.isSome then Status.trap else Status.ok, m') ∧
      m'.core = m.core ∧ m'.context.exception = answer.or m.context.exception ∧
      m'.context.debugger =
        m.context.debugger.map fun debugger => (Debugger.check pc debugger).2 := by
  simp only [Machine.checkpoint]
  cases hdebugger : m.context.debugger with
  | none => exact ⟨none, m, rfl, rfl, rfl, rfl, hdebugger⟩
  | some debugger =>
      simp only [Option.bind_some]
      cases (Debugger.check pc debugger).1 with
      | none => exact ⟨none, _, rfl, rfl, rfl, rfl, rfl⟩
      | some e => exact ⟨some e, _, rfl, rfl, rfl, rfl, rfl⟩

/-- A refusal is parked, and the unit is left for it. -/
theorem debugCheck_consult (settings : Settings) (pc : UInt64) (m : Machine C δ) :
    ∃ m', (settings.debugCheck pc).exec m =
        (if (settings.consult pc m.context.debugger).1.isSome then .error .trap else .ok (), m') ∧
      m'.core = m.core ∧
      m'.context.exception =
        (settings.consult pc m.context.debugger).1.or m.context.exception ∧
      m'.context.debugger = (settings.consult pc m.context.debugger).2 := by
  rw [debugCheck_exec, consult]
  by_cases hdebugging : settings.debugging = true
  · obtain ⟨answer, m', hanswer, hcheckpoint, hcore, hexception, hdebugger⟩ :=
      checkpoint_answer m pc
    rw [if_pos hdebugging, if_pos hdebugging, hcheckpoint, hanswer]
    refine ⟨m', ?_, hcore, hexception, hdebugger⟩
    cases answer <;> rfl
  · rw [if_neg hdebugging, if_neg hdebugging]
    exact ⟨m, rfl, rfl, rfl, rfl⟩

theorem callPlugins_exec (calls : List (UInt32 × SyncMask)) (notice : Notice)
    (m : Machine C δ) :
    ∃ m', (calls.forM fun call => Body.tell (.callPlugin call.1 notice)).exec m = (.ok (), m') ∧
      m'.core = m.core ∧ m'.context = m.context := by
  induction calls generalizing m with
  | nil => exact ⟨m, rfl, rfl, rfl⟩
  | cons call calls ih =>
      obtain ⟨m', hexec, hcore, hcontext⟩ := ih (m.callPlugin call.1 notice).2
      obtain ⟨hcore', hcontext'⟩ := m.callPlugin_frame call.1 notice
      refine ⟨m', ?_, hcore.trans hcore', hcontext.trans hcontext'⟩
      rw [List.forM_eq_forM, List.forM_cons, Body.exec_bind, Body.exec_tell]
      exact hexec

/-- A report changes the core only in what it was told. -/
theorem report_exec (settings : Settings) (phase : SyncMask) (ordinal : UInt32)
    (m : Machine C δ) :
    ∃ m', (settings.report phase ordinal).exec m = (.ok (), m') ∧
      m'.core = (if settings.syncExec.intersects phase then
        Architecture.notify m.core (.ofMask phase) else m.core) ∧
      m'.context = m.context := by
  let notice : Notice := ⟨settings.coreId, settings.clusterId, phase, ordinal⟩
  by_cases h : settings.syncExec.intersects phase = true
  · obtain ⟨m', hexec, hcore, hcontext⟩ := callPlugins_exec
      (settings.plugins.filter (·.2.intersects phase)) notice (m.notify (.ofMask phase))
    refine ⟨m', ?_, ?_, hcontext⟩
    · simpa [report, h, Body.exec_bind, Machine.perform] using hexec
    · rw [if_pos h]
      exact hcore
  · obtain ⟨m', hexec, hcore, hcontext⟩ := callPlugins_exec
      (settings.plugins.filter (·.2.intersects phase)) notice m
    refine ⟨m', ?_, ?_, hcontext⟩
    · simpa [report, h] using hexec
    · simpa [h] using hcore

/-- An instruction with its boundaries, past the check of the budget. -/
def instruction (settings : Settings) (ordinal : Nat) (fragment : Fragment) : Body Unit := do
  let pc ← settings.advance
  settings.debugCheck pc
  settings.report .pre (UInt32.ofNat ordinal)
  fragment.body
  if fragment.isOpen then settings.after (UInt32.ofNat ordinal) else throw .leave

end Settings

/-! ## Units -/

namespace Draft

variable {C δ : Type} [Architecture C] [Debugger δ]

/-- The instructions from position `ordinal` on, each between its boundaries. -/
def sequence (settings : Settings) : Nat → List Fragment → Body Unit
  | _, [] => throw .leave
  | ordinal, fragment :: rest => do
    settings.before (UInt32.ofNat ordinal)
    fragment.body
    if fragment.isOpen then
      settings.after (UInt32.ofNat ordinal)
      sequence settings (ordinal + 1) rest
    else throw .leave

/-- The blocks of the unit lead through its instructions in sequence. -/
def Linked (draft : Draft) : Prop :=
  ∀ settings, draft.graph.code settings = sequence settings 0 draft.fragments

/-- The code of a unit checks the budget before each of its instructions. -/
theorem sequence_cons (settings : Settings) (ordinal : Nat) (fragment : Fragment)
    (rest : List Fragment) :
    sequence settings ordinal (fragment :: rest) = (do
      settings.budgetCheck
      settings.instruction ordinal fragment
      sequence settings (ordinal + 1) rest) := by
  cases h : fragment.isOpen with
  | true => simp [sequence, Settings.before, Settings.instruction, h]
  | false => simp [sequence, Settings.before, Settings.instruction, h]

/-- Control never runs over the end of a unit. -/
theorem sequence_departs (settings : Settings) (ordinal : Nat) (fragments : List Fragment)
    (m : Machine C δ) :
    ∃ d m', (sequence settings ordinal fragments).exec m = (.error d, m') := by
  induction fragments generalizing ordinal m with
  | nil => exact ⟨.leave, m, rfl⟩
  | cons fragment rest ih =>
      rw [sequence_cons]
      cases hcheck : settings.budgetCheck.exec m with
      | mk checked m₁ =>
          cases checked with
          | error d => exact ⟨d, m₁, Body.exec_bind_error hcheck⟩
          | ok _ =>
              rw [Body.exec_bind_ok hcheck]
              cases hinstr : (settings.instruction ordinal fragment).exec m₁ with
              | mk result m₂ =>
                  cases result with
                  | error d => exact ⟨d, m₂, Body.exec_bind_error hinstr⟩
                  | ok _ =>
                      rw [Body.exec_bind_ok hinstr]
                      exact ih (ordinal + 1) m₂

theorem code_run {draft : Draft} (hlinked : draft.Linked) {m m' : Machine C δ} {d : Departure}
    (h : (sequence draft.settings 0 draft.fragments).exec m = (.error d, m')) :
    draft.code.run m = (draft.exit d).run m' := by
  have h' : (ExceptT.run (sequence draft.settings 0 draft.fragments)).run m = (.error d, m') := h
  rw [code, hlinked, Code.run_bind, h']

end Draft

end GuestSim

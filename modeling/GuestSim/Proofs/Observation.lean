import GuestSim.Proofs.Running
import GuestSim.Simulator.Run

/-! # What happens in the course of a run

The machines that a run passes through, and the instructions that it starts. -/

namespace GuestSim

/-! ## The points of code -/

namespace Code

variable {C δ α β : Type} [Architecture C] [Debugger δ]

/-- The machines that code passes through, from the one it starts on to the one it ends on. -/
def points : Code α → Machine C δ → List (Machine C δ)
  | .done _, m => [m]
  | .perform op next, m => m :: (next (m.perform op).1).points (m.perform op).2

theorem start_mem_points (code : Code α) (m : Machine C δ) : m ∈ code.points m := by
  cases code <;> simp [points]

theorem end_mem_points (code : Code α) (m : Machine C δ) : (code.run m).2 ∈ code.points m := by
  induction code generalizing m with
  | done value => simp [points, run]
  | perform op next ih => exact List.mem_cons_of_mem _ (ih _ _)

/-- Code in sequence passes through the points of each part. -/
theorem mem_points_bind (code : Code α) (f : α → Code β) (m p : Machine C δ) :
    p ∈ (code >>= f).points m ↔
      p ∈ code.points m ∨ p ∈ (f (code.run m).1).points (code.run m).2 := by
  induction code generalizing m with
  | done value =>
      change p ∈ (f value).points m ↔ p ∈ [m] ∨ p ∈ (f value).points m
      constructor
      · exact Or.inr
      · rintro (hp | hp)
        · rw [List.mem_singleton.mp hp]
          exact start_mem_points _ m
        · exact hp
  | perform op next ih =>
      change p ∈ m :: (next (m.perform op).1 >>= f).points (m.perform op).2 ↔
        p ∈ m :: (next (m.perform op).1).points (m.perform op).2 ∨ _
      rw [List.mem_cons, List.mem_cons, ih, or_assoc]
      rfl

/-- Every operation that code may ask for satisfies `P`. -/
def Uses (P : Op → Prop) : Code α → Prop
  | .done _ => True
  | .perform op next => P op ∧ ∀ reply, (next reply).Uses P

theorem Uses.bind {P : Op → Prop} {code : Code α} {f : α → Code β} (h : code.Uses P)
    (hf : ∀ a, (f a).Uses P) : (code >>= f).Uses P := by
  induction code with
  | done value => exact hf value
  | perform op next ih => exact ⟨h.1, fun reply => ih reply (h.2 reply)⟩

theorem Uses.mono {P Q : Op → Prop} (hPQ : ∀ op, P op → Q op) {code : Code α}
    (h : code.Uses P) : code.Uses Q := by
  induction code with
  | done value => trivial
  | perform op next ih => exact ⟨hPQ op h.1, fun reply => ih reply (h.2 reply)⟩

theorem uses_trivial (code : Code α) : code.Uses fun _ => True := by
  induction code with
  | done value => trivial
  | perform op next ih => exact ⟨trivial, ih⟩

/-- What the operations of code keep holds at all of its points. -/
theorem Uses.keeps {P : Op → Prop} {I : Machine C δ → Prop} {code : Code α} (h : code.Uses P)
    (hop : ∀ op m, P op → I m → I (m.perform op).2) {m : Machine C δ} (hm : I m) :
    ∀ p ∈ code.points m, I p := by
  induction code generalizing m with
  | done value => simpa [points] using hm
  | perform op next ih =>
      intro p hp
      rcases List.mem_cons.mp hp with rfl | hp
      · exact hm
      · exact ih _ (h.2 _) (hop op m h.1 hm) p hp

end Code

namespace Body

variable {C δ α β : Type} [Architecture C] [Debugger δ]

def points (body : Body α) (m : Machine C δ) : List (Machine C δ) :=
  (ExceptT.run body).points m

theorem end_mem_points (body : Body α) (m : Machine C δ) :
    (body.exec m).2 ∈ body.points m :=
  Code.end_mem_points _ m

theorem mem_points_bind_ok {body : Body α} {f : α → Body β} {m m' p : Machine C δ} {a : α}
    (h : body.exec m = (.ok a, m')) :
    p ∈ (body >>= f).points m ↔ p ∈ body.points m ∨ p ∈ (f a).points m' := by
  have h' : (ExceptT.run body).run m = (.ok a, m') := h
  rw [points, ExceptT.run_bind, Code.mem_points_bind, h']
  rfl

theorem mem_points_bind_error {body : Body α} {f : α → Body β} {m m' p : Machine C δ}
    {d : Departure} (h : body.exec m = (.error d, m')) :
    p ∈ (body >>= f).points m ↔ p ∈ body.points m := by
  have h' : (ExceptT.run body).run m = (.error d, m') := h
  rw [points, ExceptT.run_bind, Code.mem_points_bind, h']
  refine ⟨?_, Or.inl⟩
  rintro (hp | hp)
  · exact hp
  · have hend := end_mem_points body m
    rw [h] at hend
    rwa [List.mem_singleton.mp hp]

/-- A property that each part of a sequence keeps is kept by the sequence. -/
theorem forall_points_bind {I : Machine C δ → Prop} {body : Body α} {f : α → Body β}
    {m : Machine C δ} (hbody : ∀ p ∈ body.points m, I p)
    (hf : ∀ a m', body.exec m = (.ok a, m') → ∀ p ∈ (f a).points m', I p) :
    ∀ p ∈ (body >>= f).points m, I p := by
  intro p hp
  cases h : body.exec m with
  | mk result m' =>
      cases result with
      | error d => exact hbody p ((mem_points_bind_error h).mp hp)
      | ok a =>
          rcases (mem_points_bind_ok h).mp hp with hp | hp
          · exact hbody p hp
          · exact hf a m' h p hp

theorem forall_points_loadSlot {I : Machine C δ → Prop} {slot : RegSlot}
    {f : Word slot.width → Body β} {m : Machine C δ} (hm : I m)
    (hf : ∀ p ∈ (f (Architecture.loadSlot m.core slot)).points m, I p) :
    ∀ p ∈ (loadSlot slot >>= f).points m, I p := by
  have hpoints : (loadSlot slot).points m = [m, m] := rfl
  refine forall_points_bind (by simp [hpoints, hm]) fun a m' h => ?_
  rw [exec_loadSlot, Prod.mk.injEq, Except.ok.injEq] at h
  obtain ⟨rfl, rfl⟩ := h
  exact hf

theorem forall_points_storeSlot {I : Machine C δ → Prop} {slot : RegSlot} {w : Width}
    {value : Word w} {f : Unit → Body β} {m : Machine C δ} (hm : I m)
    (hf : ∀ p ∈ (f ()).points { m with core := Architecture.storeSlot m.core slot value }, I p) :
    ∀ p ∈ (storeSlot slot value >>= f).points m, I p := by
  have hpoints : (storeSlot slot value).points m = [m, ((storeSlot slot value).exec m).2] := rfl
  rw [exec_storeSlot] at hpoints
  refine forall_points_bind ?_ fun a m' h => ?_
  · rw [hpoints]
    simp [hm, hf _ (Code.start_mem_points _ _)]
  · rw [exec_storeSlot, Prod.mk.injEq] at h
    obtain ⟨-, rfl⟩ := h
    exact hf

def Uses (P : Op → Prop) (body : Body α) : Prop := (ExceptT.run body).Uses P

@[simp] theorem uses_pure (P : Op → Prop) (a : α) : (pure a : Body α).Uses P := trivial

@[simp] theorem uses_throw (P : Op → Prop) (d : Departure) : (throw d : Body α).Uses P := trivial

theorem Uses.bind {P : Op → Prop} {body : Body α} {f : α → Body β} (h : body.Uses P)
    (hf : ∀ a, (f a).Uses P) : (body >>= f).Uses P := by
  rw [Uses, ExceptT.run_bind]
  apply Code.Uses.bind h
  intro result
  cases result with
  | error d => trivial
  | ok a => exact hf a

theorem uses_ask {P : Op → Prop} {op : Op} (h : P op) : (ask op).Uses P :=
  ⟨h, fun _ => trivial⟩

theorem uses_tell {P : Op → Prop} {op : Op} (h : P op) : (tell op).Uses P :=
  ⟨h, fun _ => trivial⟩

theorem uses_loadSlot {P : Op → Prop} {slot : RegSlot}
    (h : P (.loadStorage slot.offset.toInt32 slot.width)) : (loadSlot slot).Uses P :=
  (uses_ask h).bind fun _ => uses_pure P _

theorem uses_attempt {P : Op → Prop} {op : Op} (h : P op) : (attempt op).Uses P := by
  refine (uses_ask h).bind fun reply => ?_
  split
  · exact uses_throw P _
  · exact uses_pure P _

end Body

theorem Settings.report_uses {P : Op → Prop} (settings : Settings) {phase : SyncMask}
    {ordinal : UInt32} (hnotify : P (.notify (.ofMask phase)))
    (hplugin : ∀ id, P (.callPlugin id ⟨settings.coreId, settings.clusterId, phase, ordinal⟩)) :
    (settings.report phase ordinal).Uses P := by
  have hplugins (calls : List (UInt32 × SyncMask)) :
      (calls.forM fun call => Body.tell (.callPlugin call.1
        ⟨settings.coreId, settings.clusterId, phase, ordinal⟩)).Uses P := by
    induction calls with
    | nil => exact Body.uses_pure _ _
    | cons call calls ih => exact (Body.uses_tell (hplugin _)).bind fun _ => ih
  unfold report
  split
  · exact (Body.uses_tell hnotify).bind fun _ => hplugins _
  · exact hplugins _

/-! ## The exits of a unit -/

section Exit

variable {C δ ε : Type} [Architecture C] [Debugger δ]

theorem ExitCode.followed_uses {P : Op → Prop} {exit : ExitCode ε} {otherwise : ε → Code UInt64}
    (hexit : exit.code.run.Uses P) (hotherwise : ∀ e, (otherwise e).Uses P) :
    (exit.followed otherwise).Uses P := by
  refine hexit.bind fun result => ?_
  cases result with
  | ok pc => trivial
  | error e => exact hotherwise e

theorem Draft.exit_uses {P : Op → Prop} {draft : Draft} (hleave : draft.leave.code.run.Uses P)
    (htrap : draft.trap.code.run.Uses P) (d : Departure) : (draft.exit d).Uses P := by
  have htrapCode : draft.trapCode.Uses P := ExitCode.followed_uses htrap fun e => e.elim
  cases d with
  | value v => trivial
  | trap => exact htrapCode
  | leave => exact ExitCode.followed_uses hleave fun _ => htrapCode

theorem ExitCode.forall_points_followed {I : Machine C δ → Prop} {exit : ExitCode ε}
    {otherwise : ε → Code UInt64} {m : Machine C δ} (hexit : ∀ p ∈ exit.code.run.points m, I p)
    (hotherwise : ∀ e m', I m' → ∀ p ∈ (otherwise e).points m', I p) :
    ∀ p ∈ (exit.followed otherwise).points m, I p := by
  intro p hp
  have hend := hexit _ (Code.end_mem_points _ m)
  rcases (Code.mem_points_bind _ _ m p).mp hp with hp | hp
  · exact hexit p hp
  · generalize exit.code.run.run m = out at hp hend
    obtain ⟨result, m'⟩ := out
    cases result with
    | ok pc =>
        rw [List.mem_singleton.mp hp]
        exact hend
    | error e => exact hotherwise e m' hend p hp

/-- What the code of both exits keeps is kept however a unit is left. -/
theorem Draft.forall_points_exit {I : Machine C δ → Prop} {draft : Draft}
    (hleave : ∀ m, I m → ∀ p ∈ draft.leave.code.run.points m, I p)
    (htrap : ∀ m, I m → ∀ p ∈ draft.trap.code.run.points m, I p) (d : Departure)
    {m : Machine C δ} (hm : I m) : ∀ p ∈ (draft.exit d).points m, I p := by
  have htrapCode (m : Machine C δ) (hm : I m) : ∀ p ∈ draft.trapCode.points m, I p :=
    ExitCode.forall_points_followed (htrap m hm) fun e => e.elim
  cases d with
  | value v =>
      intro p hp
      rw [List.mem_singleton.mp hp]
      exact hm
  | trap => exact htrapCode m hm
  | leave => exact ExitCode.forall_points_followed (hleave m hm) fun _ => htrapCode

end Exit

/-! ## What an operation changes -/

/-- What an operation does to the core. -/
def Op.onCore {C : Type} [Architecture C] (core : C) : Op → C
  | .writeReg idx value => Architecture.writeReg core idx value
  | .writeFlag flag value => Architecture.writeFlag core flag (value ≠ 0)
  | .updateFlags op a b => Architecture.updateFlags core op a b
  | .readMem space addr len => (Architecture.readMem core ⟨.read, space, addr⟩ len).2
  | .writeMem space addr len value =>
    (Architecture.writeMem core ⟨.write, space, addr⟩ len value).2
  | .notify phase => Architecture.notify core phase
  | .storeStorage offset w value => Architecture.storeStorage core offset (Word.const w value)
  | _ => core

section Perform

variable {C δ α : Type} [Architecture C] [Debugger δ]

theorem Machine.perform_core (m : Machine C δ) (op : Op) :
    (m.perform op).2.core = op.onCore m.core := by
  cases op with
  | readMem space addr len =>
      simp only [perform, readMem, Op.onCore]
      cases Architecture.readMem m.core ⟨.read, space, addr⟩ len with
      | mk result core => cases result <;> rfl
  | writeMem space addr len value =>
      simp only [perform, writeMem, Op.onCore]
      cases Architecture.writeMem m.core ⟨.write, space, addr⟩ len value with
      | mk result core => cases result <;> rfl
  | checkpoint pc =>
      simp only [perform, checkpoint, Op.onCore]
      split
      · rfl
      · split <;> rfl
  | callPlugin id notice => exact (m.callPlugin_frame id notice).1
  | _ => rfl

/-- No operation changes the limit or the table of plugins, and only a checkpoint the debugger. -/
theorem Machine.perform_context (m : Machine C δ) (op : Op) :
    (m.perform op).2.context.icountLimit = m.context.icountLimit ∧
      (m.perform op).2.context.plugins = m.context.plugins ∧
      ((∀ pc, op ≠ .checkpoint pc) →
        (m.perform op).2.context.debugger = m.context.debugger) := by
  cases op with
  | readMem space addr len =>
      simp only [perform, readMem]
      cases Architecture.readMem m.core ⟨.read, space, addr⟩ len with
      | mk result core => cases result <;> exact ⟨rfl, rfl, fun _ => rfl⟩
  | writeMem space addr len value =>
      simp only [perform, writeMem]
      cases Architecture.writeMem m.core ⟨.write, space, addr⟩ len value with
      | mk result core => cases result <;> exact ⟨rfl, rfl, fun _ => rfl⟩
  | checkpoint pc =>
      refine ⟨?_, ?_, fun h => absurd rfl (h pc)⟩
      all_goals
        simp only [perform, checkpoint]
        split
        · rfl
        · split <;> rfl
  | callPlugin id notice =>
      simp only [perform]
      rw [(m.callPlugin_frame id notice).2]
      exact ⟨rfl, rfl, fun _ => rfl⟩
  | _ => exact ⟨rfl, rfl, fun _ => rfl⟩

theorem Machine.perform_icountLimit (m : Machine C δ) (op : Op) :
    (m.perform op).2.context.icountLimit = m.context.icountLimit :=
  (m.perform_context op).1

theorem Code.run_icountLimit (code : Code α) (m : Machine C δ) :
    (code.run m).2.context.icountLimit = m.context.icountLimit :=
  code.uses_trivial.keeps (I := fun p => p.context.icountLimit = m.context.icountLimit)
    (fun op p _ hp => (p.perform_icountLimit op).trans hp) rfl _ (code.end_mem_points m)

theorem Body.exec_icountLimit (body : Body α) (m : Machine C δ) :
    (body.exec m).2.context.icountLimit = m.context.icountLimit :=
  Code.run_icountLimit _ m

end Perform

/-! ## The instructions that a unit starts -/

/-- An instruction about to be counted: the check of the budget lies behind it. -/
structure Start (C δ : Type) where
  settings : Settings
  ordinal : Nat
  machine : Machine C δ

/-- The exception with which the debugger refuses the instruction, if it does. -/
def Start.refusal {C δ : Type} [Architecture C] [Debugger δ] (start : Start C δ) :
    Option Exception :=
  if start.settings.debugging then
    start.machine.context.debugger.bind fun debugger =>
      (Debugger.check (start.settings.startAddress start.machine.core) debugger).1
  else none

theorem Start.refusal_eq {C δ : Type} [Architecture C] [Debugger δ] (start : Start C δ) :
    start.refusal = (start.settings.consult (start.settings.startAddress start.machine.core)
      start.machine.context.debugger).1 := by
  rw [refusal, Settings.consult]
  split <;> rfl

namespace Draft

variable {C δ : Type} [Architecture C] [Debugger δ]

/-- The instructions that fragments start, the first of which has position `ordinal`. -/
def startsFrom (settings : Settings) : (ordinal : Nat) → List Fragment → Machine C δ →
    List (Start C δ)
  | _, [], _ => []
  | ordinal, fragment :: rest, m =>
    match settings.budgetCheck.exec m with
    | (.error _, _) => []
    | (.ok _, m) =>
      ⟨settings, ordinal, m⟩ ::
        match (settings.instruction ordinal fragment).exec m with
        | (.error _, _) => []
        | (.ok _, m) => startsFrom settings (ordinal + 1) rest m

def starts (draft : Draft) (m : Machine C δ) : List (Start C δ) :=
  startsFrom draft.settings 0 draft.fragments m

theorem startsFrom_of_exhausted {settings : Settings} {ordinal : Nat} {fragments : List Fragment}
    {m : Machine C δ} (h : settings.Exhausted m) :
    startsFrom settings ordinal fragments m = [] := by
  cases fragments with
  | nil => rfl
  | cons fragment rest => simp [startsFrom, Settings.budgetCheck_exec_of_exhausted h]

theorem startsFrom_of_not_exhausted {settings : Settings} {ordinal : Nat} {fragment : Fragment}
    {rest : List Fragment} {m : Machine C δ} (h : ¬ settings.Exhausted m) :
    startsFrom settings ordinal (fragment :: rest) m =
      ⟨settings, ordinal, m⟩ ::
        match (settings.instruction ordinal fragment).exec m with
        | (.error _, _) => []
        | (.ok _, m) => startsFrom settings (ordinal + 1) rest m := by
  rw [startsFrom, Settings.budgetCheck_exec_of_not_exhausted h]

theorem startsFrom_length_le (settings : Settings) (ordinal : Nat) (fragments : List Fragment)
    (m : Machine C δ) :
    (startsFrom settings ordinal fragments m).length ≤ fragments.length := by
  induction fragments generalizing ordinal m with
  | nil => simp [startsFrom]
  | cons fragment rest ih =>
      by_cases h : settings.Exhausted m
      · simp [startsFrom_of_exhausted h]
      · rw [startsFrom_of_not_exhausted h, List.length_cons, List.length_cons]
        apply Nat.succ_le_succ
        split
        · simp
        · exact ih _ _

end Draft

/-! ## The course of a run -/

def Draft.growPoints {C G δ : Type} [Emitter G C] :
    (room ordinal : Nat) → VirtAddr → G × Machine C δ → List (Machine C δ)
  | 0, _, _, _ => []
  | room + 1, ordinal, pc, s =>
    match generate pc ordinal s with
    | (.error _, s) => [s.2]
    | (.ok step, s) =>
      s.2 :: if step.isOpen ∧ step.outcome = .next then
        growPoints room (ordinal + 1) step.next s else []

namespace Simulator

variable {C G δ β : Type} [Architecture C] [Emitter G C]

def unitPoints (sim : Simulator C G δ) (pc : UInt64) : List (Machine C δ) :=
  let start := VirtAddr.fetch pc
  match sim.machine.resolve start with
  | (.error _, m) => [m]
  | (.ok phys, m) =>
    m :: if (sim.cache.lookup ⟨sim.cluster, phys.val⟩).isSome then []
      else Draft.growPoints sim.settings.capacity 0 start (sim.emitter, m)

/-- What a failed search for a unit means to the loop. -/
def searchFailure (cluster : UInt32) : BuildError → UnitFailure
  | .emit (.raised e) => .exception e
  | e => .fatal (.build cluster e)

/-- The unit that a turn at `pc` runs, searched for once dead code is freed. -/
def find (sim : Simulator C G δ) (pc : UInt64) : Except UnitFailure CodeUnit × Simulator C G δ :=
  match sim.purge with
  | .error e => (.error (.fatal (.init e)), sim)
  | .ok sim =>
    match sim.unitFor pc with
    | (.error e, sim) => (.error (searchFailure sim.cluster e), sim)
    | (.ok unit, sim) => (.ok unit, sim)

def findPoints (sim : Simulator C G δ) (pc : UInt64) : List (Machine C δ) :=
  match sim.purge with
  | .error _ => []
  | .ok sim => sim.unitPoints pc

variable [Debugger δ]

/-- The instructions that a turn starts. -/
def turnStarts (limit pc : UInt64) (sim : Simulator C G δ) : List (Start C δ) :=
  if limit ≤ sim.instructionCount then []
  else
    match sim.find pc with
    | (.error _, _) => []
    | (.ok unit, sim) => unit.starts (sim.machine.enter sim.settings.layout.nextPc.index pc)

def turnPoints (limit pc : UInt64) (sim : Simulator C G δ) : List (Machine C δ) :=
  if limit ≤ sim.instructionCount then [sim.machine]
  else
    sim.machine :: sim.findPoints pc ++
      (match sim.find pc with
        | (.error _, sim) => [sim.machine]
        | (.ok unit, sim) =>
          unit.code.points (sim.machine.enter sim.settings.layout.nextPc.index pc)) ++
      [(sim.turn limit pc).2.machine]

/-- What `view` shows of each turn, for at most `fuel` turns. -/
def overTurns (view : UInt64 → Simulator C G δ → List β) (limit : UInt64) :
    (fuel : Nat) → UInt64 → Simulator C G δ → List β
  | 0, _, _ => []
  | fuel + 1, pc, sim =>
    view pc sim ++
      match sim.turn limit pc with
      | (.next pc, sim) => overTurns view limit fuel pc sim
      | _ => []

/-- The simulator with the budget of a run in place. -/
def armed (sim : Simulator C G δ) (limit : UInt64) : Simulator C G δ :=
  { sim with machine.context.icountLimit := if sim.settings.preciseLimit then limit else -1 }

def disarmed (sim : Simulator C G δ) : Simulator C G δ :=
  { sim with machine.context.icountLimit := -1 }

/-- The simulator after a run that ended at `pc`, without the statistics of the run. -/
def closed (sim : Simulator C G δ) (result : Except SimError RunExit) (pc : UInt64) :
    Simulator C G δ :=
  match result with
  | .ok e => if e.movesPc then sim.disarmed.writePc pc else sim.disarmed
  | .error _ => sim.disarmed

def runStarts (fuel : Nat) (sim : Simulator C G δ) (limit : Option UInt64) : List (Start C δ) :=
  overTurns (turnStarts (limit.getD (-1))) (limit.getD (-1)) fuel
    (Architecture.currentPc sim.machine.core) (sim.armed (limit.getD (-1)))

def runPoints (fuel : Nat) (sim : Simulator C G δ) (limit : Option UInt64) :
    List (Machine C δ) :=
  let sim' := sim.armed (limit.getD (-1))
  let pc := Architecture.currentPc sim.machine.core
  sim.machine :: overTurns (turnPoints (limit.getD (-1))) (limit.getD (-1)) fuel pc sim' ++
    match loop (limit.getD (-1)) fuel pc sim' with
    | none => []
    | some (result, pc, sim) =>
      [sim.disarmed.machine, sim.disarmed.machine.writeReg sim.settings.layout.pc.index pc,
        (sim.closed result pc).machine]

/-- A run is the loop between putting its budget in place and closing it. -/
theorem run_eq (fuel : Nat) (sim : Simulator C G δ) (limit : Option UInt64) :
    sim.run fuel limit =
      (loop (limit.getD (-1)) fuel (Architecture.currentPc sim.machine.core)
        (sim.armed (limit.getD (-1)))).map fun (result, pc, sim') =>
          (result, (sim'.closed result pc).noteStats
            (Architecture.currentPc sim.machine.core) sim.instructionCount) := by
  unfold run
  cases h : loop (limit.getD (-1)) fuel (Architecture.currentPc sim.machine.core)
      (sim.armed (limit.getD (-1))) with
  | none => simp only [armed] at h; simp [h]
  | some ending =>
      simp only [armed] at h
      obtain ⟨result, pc, sim'⟩ := ending
      cases result <;> simp [h, closed, disarmed]

/-- A run that ends is a loop that ended, and was closed. -/
theorem run_eq_some {fuel : Nat} {sim sim' : Simulator C G δ} {limit : Option UInt64}
    {result : Except SimError RunExit} (h : sim.run fuel limit = some (result, sim')) :
    ∃ pc sim₁, loop (limit.getD (-1)) fuel (Architecture.currentPc sim.machine.core)
        (sim.armed (limit.getD (-1))) = some (result, pc, sim₁) ∧
      sim' = (sim₁.closed result pc).noteStats (Architecture.currentPc sim.machine.core)
        sim.instructionCount := by
  rw [run_eq, Option.map_eq_some_iff] at h
  obtain ⟨⟨result', pc, sim₁⟩, hloop, heq⟩ := h
  simp only [Prod.mk.injEq] at heq
  obtain ⟨rfl, rfl⟩ := heq
  exact ⟨pc, sim₁, hloop, rfl⟩

end Simulator

end GuestSim

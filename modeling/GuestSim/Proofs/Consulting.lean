import GuestSim.Proofs.Budget
import GuestSim.Proofs.Calls
import GuestSim.Proofs.Sessions

/-! # Which debugger is asked

The debugger that is asked before an instruction is the one that was installed last, in the state
that it has come to by being asked, in order, about the addresses recorded since. -/

namespace GuestSim

/-! ## The record -/

def Event.asked? : Event → Option UInt64
  | .checkpoint pc => some pc
  | _ => none

/-- The addresses that debuggers were asked about, in order. -/
def Journal.asked (journal : Journal) : List UInt64 := journal.events.toList.filterMap Event.asked?

/-- The debugger after it was asked about addresses, the first of them first. -/
def Debugger.consulted {δ : Type} [Debugger δ] (debugger : δ) (addrs : List UInt64) : δ :=
  addrs.foldl (fun debugger addr => (check addr debugger).2) debugger

theorem Journal.asked_record {event : Event} (h : event.asked? = none) (journal : Journal) :
    (journal.record event).asked = journal.asked := by
  unfold record
  split
  · simp [asked, h]
  · rfl

theorem Journal.asked_record_checkpoint {journal : Journal} (h : journal.detail ≠ .nothing)
    (pc : UInt64) : (journal.record (.checkpoint pc)).asked = journal.asked ++ [pc] := by
  have hkept : journal.detail.keeps (.checkpoint pc) = true := (shows_precedes h).keeps _ rfl
  rw [record, if_pos hkept]
  simp [asked, Event.asked?]

/-! ## Machines -/

namespace Machine

variable {C δ : Type} [Debugger δ]

/-- The debugger of the machine is the given one, as it has become since so many addresses had been
asked about. -/
structure Consults (debugger : δ) (since : Nat) (m : Machine C δ) : Prop where
  detail_ne : m.journal.detail ≠ .nothing
  since_le : since ≤ m.journal.asked.length
  debugger_eq :
    m.context.debugger = some (Debugger.consulted debugger (m.journal.asked.drop since))

variable {debugger : δ} {since : Nat} {m m' : Machine C δ}

theorem Consults.of_asked (h : m.Consults debugger since)
    (hdebugger : m'.context.debugger = m.context.debugger)
    (hdetail : m'.journal.detail = m.journal.detail)
    (hasked : m'.journal.asked = m.journal.asked) : m'.Consults debugger since :=
  ⟨hdetail ▸ h.detail_ne, hasked ▸ h.since_le, by rw [hdebugger, hasked, h.debugger_eq]⟩

theorem Consults.record (h : m.Consults debugger since) (event : Event)
    (hevent : event.asked? = none) (hdebugger : m'.context.debugger = m.context.debugger)
    (hjournal : m'.journal = m.journal.record event) : m'.Consults debugger since :=
  h.of_asked hdebugger (by rw [hjournal, Journal.detail_record])
    (by rw [hjournal, Journal.asked_record hevent])

theorem Consults.checkpoint (h : m.Consults debugger since) (pc : UInt64) :
    (m.checkpoint pc).2.Consults debugger since := by
  have hasked := Journal.asked_record_checkpoint h.detail_ne pc
  let next := (Debugger.check pc (Debugger.consulted debugger (m.journal.asked.drop since))).2
  have hchecked : (m.checkpoint pc).2.context.debugger = some next ∧
      (m.checkpoint pc).2.journal = m.journal.record (.checkpoint pc) := by
    simp only [Machine.checkpoint, h.debugger_eq]
    split <;> exact ⟨rfl, rfl⟩
  obtain ⟨hdebugger, hjournal⟩ := hchecked
  refine ⟨?_, ?_, ?_⟩
  · rw [hjournal, Journal.detail_record]
    exact h.detail_ne
  · rw [hjournal, hasked, List.length_append]
    exact Nat.le_add_right_of_le h.since_le
  · rw [hdebugger, hjournal, hasked, List.drop_append_of_le_length h.since_le,
      Debugger.consulted, List.foldl_append]
    rfl

variable [Architecture C]

theorem Consults.perform (h : m.Consults debugger since) (op : Op) :
    (m.perform op).2.Consults debugger since := by
  by_cases hop : ∃ pc, op = .checkpoint pc
  · obtain ⟨pc, rfl⟩ := hop
    exact h.checkpoint pc
  · have hother : ∀ pc, op ≠ .checkpoint pc := fun pc heq => hop ⟨pc, heq⟩
    have hdebugger := (m.perform_context op).2.2 hother
    have hunseen : op.Unseen fun event => event.asked?.isSome := by
      cases op with
      | checkpoint pc => exact absurd rfl (hother pc)
      | callPlugin id notice => exact fun _ => rfl
      | notify phase => rfl
      | _ => trivial
    rcases m.perform_journal op with hsame | ⟨event, hrecord, hshown, -⟩
    · exact h.of_asked hdebugger (by rw [hsame]) (by rw [hsame])
    · have hevent : event.asked? = none := by
        cases event with
        | checkpoint pc => exact absurd (hshown _ hunseen rfl) (by simp [Event.asked?])
        | _ => rfl
      exact h.record event hevent hdebugger hrecord

end Machine

/-! ## Runs -/

theorem Draft.startsFrom_keeps {C δ : Type} [Architecture C] [Debugger δ]
    {I : Machine C δ → Prop} (hperform : ∀ (m : Machine C δ) op, I m → I (m.perform op).2)
    (settings : Settings) (ordinal : Nat) (fragments : List Fragment) {m : Machine C δ} (hm : I m) :
    ∀ start ∈ startsFrom settings ordinal fragments m, I start.machine := by
  induction fragments generalizing ordinal m with
  | nil => simp [startsFrom]
  | cons fragment rest ih =>
      by_cases hexhausted : settings.Exhausted m
      · simp [startsFrom_of_exhausted hexhausted]
      · rw [startsFrom_of_not_exhausted hexhausted]
        refine List.forall_mem_cons.mpr ⟨hm, ?_⟩
        have hend : I ((settings.instruction ordinal fragment).exec m).2 :=
          (Code.uses_trivial _).keeps (fun op m _ hm => hperform m op hm) hm _
            (Body.end_mem_points _ m)
        cases hinstr : (settings.instruction ordinal fragment).exec m with
        | mk result m' =>
            rw [hinstr] at hend
            cases result with
            | error d => simp
            | ok _ => exact ih (ordinal + 1) hend

namespace Simulator

variable {C G δ : Type} [Architecture C] [Emitter G C] [Debugger δ] {debugger : δ} {since : Nat}
  {sim : Simulator C G δ}

theorem consults_find (h : sim.machine.Consults debugger since) (pc : UInt64) :
    (sim.find pc).2.machine.Consults debugger since :=
  (find_keeps (I := Machine.Consults debugger since) (fun _ _ hm => hm.of_asked rfl rfl rfl)
    (fun pc ordinal _ hs => hs.record (.generate pc.val (UInt32.ofNat ordinal)) rfl rfl rfl) pc h).2

omit [Emitter G C] in
theorem consults_writeReg {m : Machine C δ} (h : m.Consults debugger since) (idx : UInt32)
    (value : UInt64) : (m.writeReg idx value).Consults debugger since :=
  h.record (.writeReg idx value) rfl rfl rfl

omit [Emitter G C] in
theorem consults_enter {m : Machine C δ} (h : m.Consults debugger since) (nextPc : UInt32)
    (pc : UInt64) : (m.enter nextPc pc).Consults debugger since :=
  (consults_writeReg h nextPc pc).of_asked rfl rfl rfl

theorem consults_turn (h : sim.machine.Consults debugger since) (limit pc : UInt64) :
    (sim.turn limit pc).2.machine.Consults debugger since :=
  turn_keeps (I := Machine.Consults debugger since) (fun _ _ hm => hm.of_asked rfl rfl rfl)
    (fun pc ordinal _ hs => hs.record (.generate pc.val (UInt32.ofNat ordinal)) rfl rfl rfl)
    (fun _ nextPc pc hm => consults_enter hm nextPc pc) (fun _ op hm => hm.perform op)
    (fun _ hm => hm.of_asked rfl rfl rfl)
    (fun _ id addr hm => hm.record (.enterTrap id addr) rfl rfl rfl) limit pc h

/-- In the course of a run, the debugger stays the one that it was, and becomes what it is made. -/
theorem consults_runStarts (h : sim.machine.Consults debugger since) (fuel : Nat)
    (limit : Option UInt64) :
    ∀ start ∈ sim.runStarts fuel limit, start.machine.Consults debugger since := by
  refine forall_overTurns (I := fun s => s.machine.Consults debugger since) ?_
    (fun pc s hs => consults_turn hs _ pc) (h.of_asked rfl rfl rfl)
  intro pc s hs start hstart
  by_cases hspent : limit.getD (-1) ≤ s.instructionCount
  · simp [turnStarts_of_spent hspent] at hstart
  · have hfound := consults_find hs pc
    cases hfind : s.find pc with
    | mk result s₁ =>
        rw [hfind] at hfound
        cases result with
        | error e => simp [turnStarts_of_error hspent hfind] at hstart
        | ok unit =>
            rw [turnStarts_of_ok hspent hfind] at hstart
            exact Draft.startsFrom_keeps (I := Machine.Consults debugger since)
              (fun _ op hm => hm.perform op) _ _ _ (consults_enter hfound _ pc) start hstart

omit [Emitter G C] in
theorem consults_writePc (h : sim.machine.Consults debugger since) (pc : UInt64) :
    (sim.writePc pc).machine.Consults debugger since :=
  consults_writeReg (consults_writeReg h _ _) _ _

theorem consults_run {sim' : Simulator C G δ} (h : sim.machine.Consults debugger since)
    {fuel : Nat} {limit : Option UInt64} {result : Except SimError RunExit}
    (hrun : sim.run fuel limit = some (result, sim')) : sim'.machine.Consults debugger since := by
  obtain ⟨pc', sim₁, hloop, rfl⟩ := run_eq_some hrun
  have harmed : (sim.armed (limit.getD (-1))).machine.Consults debugger since :=
    h.of_asked rfl rfl rfl
  have hended : sim₁.machine.Consults debugger since :=
    loop_keeps (I := fun s => s.machine.Consults debugger since)
      (fun pc s hs => consults_turn hs _ pc) harmed hloop
  have hdisarmed : sim₁.disarmed.machine.Consults debugger since := hended.of_asked rfl rfl rfl
  change (sim₁.closed result pc').machine.Consults debugger since
  unfold closed
  split
  · split
    · exact consults_writePc hdisarmed pc'
    · exact hdisarmed
  · exact hdisarmed

/-! ## Sessions -/

def Action.debugs : Action δ → Bool
  | .install (.debugger _) => true
  | _ => false

/-- Whether a debugger was installed. -/
def isDebugged (history : List (Action δ)) : Bool := history.any Action.debugs

/-- Only the installation of another debugger changes which one is asked. -/
theorem consults_perform {sim' : Simulator C G δ} (h : sim.machine.Consults debugger since)
    {action : Action δ} (hother : action.debugs = false)
    (hperform : action.perform sim = some sim') : sim'.machine.Consults debugger since := by
  cases action with
  | install observer =>
      cases hperform
      cases observer with
      | plugin p =>
          rw [Observer.install]
          rcases sim.registerPlugin_cases p with ⟨-, heq⟩ | ⟨mask, -, -, heq⟩
          · rw [heq]
            exact h.record (.offered p.label PluginTable.version) rfl rfl rfl
          · rw [heq]
            exact h.record (.offered p.label PluginTable.version) rfl rfl rfl
      | debugger d => simp [Action.debugs] at hother
  | request request =>
      obtain ⟨⟨answer, sim₁⟩, hsome, heq⟩ := Option.map_eq_some_iff.mp hperform
      cases heq
      exact Request.perform_keeps (I := fun s => s.machine.Consults debugger since)
        (fun fuel limit s result s' hs hrun => consults_run hs hrun)
        (fun addr s hs => hs.of_asked rfl rfl rfl) (fun pc s hs => consults_writePc hs pc) h hsome

theorem consults_after {actions : List (Action δ)} {sim' : Simulator C G δ}
    (h : sim.machine.Consults debugger since) (hothers : isDebugged actions = false)
    (hafter : Action.after actions sim = some sim') : sim'.machine.Consults debugger since := by
  induction actions generalizing sim with
  | nil =>
      cases hafter
      exact h
  | cons action actions ih =>
      rw [isDebugged, List.any_cons, Bool.or_eq_false_iff] at hothers
      rw [Action.after, List.foldlM_cons] at hafter
      obtain ⟨sim₁, hperform, hrest⟩ := Option.bind_eq_some_iff.mp hafter
      exact ih (consults_perform h hothers.1 hperform) hothers.2 hrest

omit [Emitter G C] in
/-- A debugger that is installed has not been asked yet. -/
theorem consults_setDebugger (hdetail : sim.machine.journal.detail ≠ .nothing) (debugger : δ) :
    (sim.setDebugger debugger).machine.Consults debugger sim.machine.journal.asked.length where
  detail_ne := hdetail
  since_le := Nat.le_refl _
  debugger_eq := by
    change some debugger = some (Debugger.consulted debugger (List.drop _ sim.machine.journal.asked))
    rw [List.drop_length]
    rfl

end Simulator

end GuestSim

import GuestSim.Proofs.Calls
import GuestSim.Proofs.Mini.Footprint

/-! # Machines without their observers

What is left of a machine of the small architecture when its observers are taken away, and what code
does to that: the same as code made without the calls of observers. -/

namespace GuestSim

/-! ## Taking observers away -/

/-- The debugger refuses no instruction, whatever it was asked about before. -/
def Debugger.NeverRefuses {δ : Type} [Debugger δ] (debugger : δ) : Prop :=
  ∀ (pcs : List UInt64) (pc : UInt64),
    (check pc (pcs.foldl (fun d pc => (check pc d).2) debugger)).1 = none

theorem Debugger.NeverRefuses.check {δ : Type} [Debugger δ] {debugger : δ}
    (h : NeverRefuses debugger) (pc : UInt64) :
    (Debugger.check pc debugger).1 = none ∧ NeverRefuses (Debugger.check pc debugger).2 :=
  ⟨h [] pc, fun pcs => h (pc :: pcs)⟩

theorem Breakpoint.neverRefuses_nil : Debugger.NeverRefuses ([] : List Breakpoint) := by
  intro pcs pc
  induction pcs with
  | nil => rfl
  | cons pc' pcs ih => exact ih

def Settings.bare (settings : Settings) : Settings :=
  { settings with syncExec := .empty, debugging := false, plugins := [] }

/-- The unit made without calls of observers. -/
def Draft.bare (draft : Draft) : Draft := { draft with settings := draft.settings.bare }

def CodeUnit.bare (unit : CodeUnit) : CodeUnit := { unit with toDraft := unit.toDraft.bare }

def Mini.Core.bare (core : Core) : Core :=
  { core with syncPhases := .empty, phaseCounts := (0, 0) }

open Mini

namespace Machine

variable {δ : Type}

def bare (m : Machine Core δ) : Machine Core δ where
  core := m.core.bare
  context := {
    memValue := m.context.memValue
    icountLimit := m.context.icountLimit
    exception := m.context.exception }
  journal := ⟨.nothing, #[]⟩

/-- The debugger, if there is one, never refuses. -/
def Harmless [Debugger δ] (m : Machine Core δ) : Prop :=
  ∀ debugger, m.context.debugger = some debugger → Debugger.NeverRefuses debugger

end Machine

/-! ## Operations -/

theorem Mini.Core.bare_writeMem (core : Core) (addr : VirtAddr) (len : Nat) (value : UInt64) :
    core.bare.writeMem addr len value =
      ((core.writeMem addr len value).1, (core.writeMem addr len value).2.bare) := by
  have hoffset : core.bare.ramOffset? addr.val len = core.ramOffset? addr.val len := rfl
  unfold writeMem
  rw [hoffset]
  split
  · rfl
  · split <;> rfl

def Op.Neutral : Op → Prop
  | .notify _ | .checkpoint _ | .callPlugin _ _ => False
  | _ => True

namespace Machine

variable {δ : Type} [Debugger δ]

theorem bare_perform (m : Machine Core δ) {op : Op} (h : op.Neutral) :
    m.bare.perform op = ((m.perform op).1, (m.perform op).2.bare) := by
  cases op with
  | writeFlag flag value =>
      simp only [perform, writeFlag, Architecture.writeFlag]
      split <;> rfl
  | updateFlags op a b =>
      simp only [perform, updateFlags, Architecture.updateFlags, Core.updateFlags]
      split <;> rfl
  | readMem space addr len =>
      have hread : m.bare.core.readMem ⟨.read, space, addr⟩ len =
        m.core.readMem ⟨.read, space, addr⟩ len := rfl
      simp only [perform, readMem, Architecture.readMem, hread]
      cases m.core.readMem ⟨.read, space, addr⟩ len <;> rfl
  | writeMem space addr len value =>
      have hwrite := m.core.bare_writeMem ⟨.write, space, addr⟩ len value
      simp only [perform, writeMem, Architecture.writeMem]
      rw [show m.bare.core = m.core.bare from rfl, hwrite]
      cases m.core.writeMem ⟨.write, space, addr⟩ len value with
      | mk result core => cases result <;> rfl
  | notify phase => exact h.elim
  | checkpoint pc => exact h.elim
  | callPlugin id notice => exact h.elim
  | _ => rfl

/-- A debugger that never refuses is not felt. -/
theorem Harmless.checkpoint {m : Machine Core δ} (hm : m.Harmless) (pc : UInt64) :
    ∃ m', m.checkpoint pc = (Status.ok, m') ∧ m'.bare = m.bare ∧ m'.Harmless := by
  rw [Machine.checkpoint]
  split
  · exact ⟨m, rfl, rfl, hm⟩
  · rename_i debugger hdebugger
    obtain ⟨hanswer, hnext⟩ := (hm debugger hdebugger).check pc
    simp only [hanswer]
    refine ⟨_, rfl, rfl, ?_⟩
    rintro debugger' ⟨⟩
    exact hnext

theorem Harmless.perform {m : Machine Core δ} (hm : m.Harmless) (op : Op) :
    (m.perform op).2.Harmless := by
  cases op with
  | checkpoint pc =>
      obtain ⟨m', hcheckpoint, -, hharmless⟩ := hm.checkpoint pc
      rw [Machine.perform, hcheckpoint]
      exact hharmless
  | _ =>
      intro debugger hdebugger
      rw [(m.perform_context _).2.2 (by simp)] at hdebugger
      exact hm debugger hdebugger

theorem Harmless.run {α : Type} {m : Machine Core δ} (hm : m.Harmless) (code : Code α) :
    (code.run m).2.Harmless :=
  code.uses_trivial.keeps (fun op _ _ hp => hp.perform op) hm _ (code.end_mem_points m)

end Machine

/-! ## Code -/

/-- What `shadow` does to a machine without its observers is what is left of what `code` does to the
machine with them. -/
def Code.Shadows (δ : Type) [Debugger δ] {α : Type} (shadow code : Code α) : Prop :=
  ∀ m : Machine Core δ, m.Harmless → shadow.run m.bare = ((code.run m).1, (code.run m).2.bare)

def Body.Shadows (δ : Type) [Debugger δ] {α : Type} (shadow body : Body α) : Prop :=
  Code.Shadows δ (ExceptT.run shadow) (ExceptT.run body)

section Shadows

variable {δ α β : Type} [Debugger δ]

theorem Code.Shadows.bind {shadow code : Code α} {f g : α → Code β} (h : shadow.Shadows δ code)
    (hf : ∀ a, (f a).Shadows δ (g a)) : (shadow >>= f).Shadows δ (code >>= g) := by
  intro m hm
  rw [Code.run_bind, Code.run_bind, h m hm]
  exact hf _ _ (hm.run code)

theorem Body.Shadows.bind {shadow body : Body α} {f g : α → Body β} (h : shadow.Shadows δ body)
    (hf : ∀ a, (f a).Shadows δ (g a)) : (shadow >>= f).Shadows δ (body >>= g) := by
  rw [Body.Shadows, ExceptT.run_bind, ExceptT.run_bind]
  refine Code.Shadows.bind h fun result => ?_
  cases result with
  | error d => exact fun _ _ => rfl
  | ok a => exact hf a

/-- Code that concerns no observer is its own shadow. -/
theorem Code.Uses.shadows {code : Code α} (h : code.Uses Op.Neutral) : code.Shadows δ code := by
  induction code with
  | done value => exact fun _ _ => rfl
  | perform op next ih =>
      intro m hm
      rw [Code.run, m.bare_perform h.1]
      exact ih _ (h.2 _) _ (hm.perform op)

theorem Body.Uses.shadows {body : Body α} (h : body.Uses Op.Neutral) : body.Shadows δ body :=
  Code.Uses.shadows h

theorem Settings.report_shadows (settings : Settings) (phase : SyncMask) (ordinal : UInt32) :
    (settings.bare.report phase ordinal).Shadows δ (settings.report phase ordinal) := by
  have hnone : settings.bare.report phase ordinal = pure () := by
    simp [report, bare, SyncMask.empty, SyncMask.intersects]
  intro m _
  obtain ⟨m', hexec, hcore, hcontext⟩ := settings.report_exec phase ordinal m
  have hrun : (ExceptT.run (settings.report phase ordinal)).run m = (.ok (), m') := hexec
  have hnotify : m'.core.bare = m.core.bare := by
    rw [hcore]
    split
    · cases Phase.ofMask phase <;> rfl
    · rfl
  have hbare : m'.bare = m.bare := by rw [Machine.bare, Machine.bare, hnotify, hcontext]
  rw [hnone, hrun, hbare]
  rfl

theorem Settings.debugCheck_shadows (settings : Settings) (pc : UInt64) :
    (settings.bare.debugCheck pc).Shadows δ (settings.debugCheck pc) := by
  intro m hm
  have hexec := settings.debugCheck_exec pc m
  rw [Body.exec] at hexec
  rw [hexec]
  split
  · obtain ⟨m', hcheckpoint, hbare, -⟩ := hm.checkpoint pc
    rw [hcheckpoint, if_pos rfl, hbare]
    rfl
  · rfl

theorem Settings.before_shadows (settings : Settings) (ordinal : UInt32) :
    (settings.bare.before ordinal).Shadows δ (settings.before ordinal) := by
  have hbudget : settings.budgetCheck.Uses Op.Neutral := by
    unfold budgetCheck
    split
    · refine (Body.uses_ask trivial).bind fun icount => ?_
      refine (Body.uses_ask trivial).bind fun limit => ?_
      split
      · exact Body.uses_throw _ _
      · exact Body.uses_pure _ _
    · exact Body.uses_pure _ _
  have hadvance : settings.advance.Uses Op.Neutral :=
    (Body.uses_ask trivial).bind fun _ => (Body.uses_tell trivial).bind fun _ =>
      (Body.uses_ask trivial).bind fun _ => (Body.uses_tell trivial).bind fun _ =>
      (Body.uses_ask trivial).bind fun _ => (Body.uses_tell trivial).bind fun _ =>
      Body.uses_pure _ _
  refine Body.Shadows.bind (Body.Uses.shadows hbudget) fun _ => ?_
  refine Body.Shadows.bind (Body.Uses.shadows hadvance) fun pc => ?_
  exact Body.Shadows.bind (settings.debugCheck_shadows pc) fun _ => settings.report_shadows _ _

theorem Draft.sequence_shadows (settings : Settings) (ordinal : Nat) {fragments : List Fragment}
    (h : ∀ fragment ∈ fragments, fragment.body.Uses Op.Neutral) :
    (sequence settings.bare ordinal fragments).Shadows δ (sequence settings ordinal fragments) := by
  induction fragments generalizing ordinal with
  | nil => exact Body.Uses.shadows (Body.uses_throw _ _)
  | cons fragment rest ih =>
      obtain ⟨hfirst, hrest⟩ := List.forall_mem_cons.mp h
      refine Body.Shadows.bind (settings.before_shadows _) fun _ => ?_
      refine Body.Shadows.bind (Body.Uses.shadows hfirst) fun _ => ?_
      split
      · exact Body.Shadows.bind (settings.report_shadows _ _) fun _ => ih (ordinal + 1) hrest
      · exact Body.Uses.shadows (Body.uses_throw _ _)

end Shadows

/-! ## Units -/

theorem Mini.neutral_of_generated {fragment : Fragment} (h : fragment.Generated Codegen) :
    fragment.body.Uses Op.Neutral :=
  Code.Uses.mono (fun op hop => by cases op <;> trivial) (ordinary_of_generated h).uses

/-- The code of a unit does what the code of the unit without observers does. -/
theorem Draft.Made.shadows {δ : Type} [Debugger δ] {draft : Draft} {settings : Settings}
    (h : draft.Made Codegen settings) : draft.bare.code.Shadows δ draft.code := by
  have hexit (d : Departure) : (draft.bare.exit d).Shadows δ (draft.exit d) := by
    have hsame : draft.bare.exit d = draft.exit d := by
      cases d <;> rfl
    obtain ⟨hleave, htrap⟩ := exits_of_made h
    rw [hsame]
    apply Code.Uses.shadows
    apply exit_uses
    · rw [hleave]
      exact ⟨trivial, fun _ => trivial⟩
    · rw [htrap]
      exact ⟨trivial, fun _ => trivial⟩
  have hlinked := h.linked
  rw [code, code, hlinked, show draft.bare.graph = draft.graph from rfl, hlinked]
  refine Code.Shadows.bind (sequence_shadows draft.settings 0 fun fragment hmem =>
    neutral_of_generated (h.generated fragment hmem)) fun result => ?_
  cases result with
  | error d => exact hexit d
  | ok _ => exact hexit .leave

end GuestSim

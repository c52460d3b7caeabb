import GuestSim.Proofs.Linking
import GuestSim.Proofs.Observation
import GuestSim.Scripted.Script

/-! # How a unit grows

An emitter is called for one instruction after the other until something ends the unit. What these
calls gave is all that the unit is made of. -/

namespace GuestSim

/-! ## Calls of an emitter -/

/-- An instruction that an emitter was called for, and what it made of it. -/
structure Emission where
  pc : VirtAddr
  step : Step

namespace Emission

def fragment (emission : Emission) : Fragment :=
  ⟨emission.pc.val, emission.step.outcome, emission.step.isOpen, emission.step.body⟩

def Continues (emission : Emission) : Prop :=
  emission.step.isOpen = true ∧ emission.step.outcome = .next

end Emission

theorem EmitError.eq_raised {e : EmitError} (h : e.isAccessTrap = true) :
    ∃ exception, e = .raised exception ∧ exception.isAccessTrap = true := by
  cases e with
  | raised exception => exact ⟨exception, rfl, h⟩
  | badWidth bits => simp [isAccessTrap] at h
  | badOperand index => simp [isAccessTrap] at h

namespace Sketch

/-- Includes the instructions of several calls, the first of which is at position `ordinal`. -/
def extendAll : (ordinal : Nat) → List Emission → Sketch → Sketch
  | _, [], sketch => sketch
  | ordinal, x :: rest, sketch => extendAll (ordinal + 1) rest (sketch.extend ordinal x.pc x.step)

theorem fragments_extendAll (ordinal : Nat) (emissions : List Emission) (sketch : Sketch) :
    (extendAll ordinal emissions sketch).fragments =
      (emissions.map (·.fragment)).reverse ++ sketch.fragments := by
  induction emissions generalizing ordinal sketch with
  | nil => rfl
  | cons x rest ih =>
      rw [extendAll, ih]
      simp [extend, Emission.fragment]

/-- If control gets past all but the last of the instructions, all are linked. -/
theorem Sound.extendAll {sketch : Sketch} (h : sketch.Sound) {id : Nat}
    (hboundary : sketch.boundary = some id) {emissions : List Emission}
    (hopen : ∀ x ∈ emissions.dropLast, x.step.isOpen = true) :
    (extendAll sketch.fragments.length emissions sketch).Sound := by
  induction emissions generalizing sketch id with
  | nil => exact h
  | cons x rest ih =>
      have hextend := h.extend hboundary x.pc x.step
      cases rest with
      | nil => exact hextend
      | cons y ys =>
          rw [List.dropLast_cons_cons] at hopen
          obtain ⟨hx, hrest⟩ := List.forall_mem_cons.mp hopen
          exact ih hextend (if_pos hx) hrest

end Sketch

/-! ## A scripted example -/

namespace Scripted

def words : RegLayout where
  pc := ⟨0, 0, 8⟩
  nextPc := ⟨1, 8, 8⟩
  icount := ⟨2, 16, 8⟩
  pendingTrap := ⟨3, 24, 8⟩
  trapState := ⟨4, 32, 8⟩
  numRegs := 5

def compact : Design := { layout := words, storageSize := 40 }

/-- The emitter of a program, and a machine that keeps a record of everything. -/
def Program.fresh (program : Program) : Codegen compact program × Machine (Core compact) Unit :=
  (⟨⟩, { core := {}, journal := ⟨.everything, #[]⟩ })

/-- Instructions of `len` bytes that set a flag on one side of a branch. The one at position
`ordinal` raises a trap when it has set the flag. -/
def Program.trapping (len : UInt64) (ordinal : UInt32) : Program where
  instrs := [0, len].map fun address =>
    { address, len,
      script := .call (.const 8 1) (.branch 0
        (.call (.writeFlag 2 0) (.call (.raiseAt ordinal (.accessTrap 5 address)) .done)) .done
        .done) }

end Scripted

/-- Units of at most `maxInstructions`, without anything to check or to tell. -/
def Settings.plain (layout : RegLayout) (maxInstructions : UInt32) : Settings where
  layout := layout
  maxInstructions := maxInstructions
  coreId := 0
  clusterId := 0
  syncExec := .empty
  debugging := false
  preciseLimit := false
  plugins := []

namespace Draft

variable {C G δ : Type} [Emitter G C]

/-- Successive calls of an emitter that all succeed. The first is for the instruction at `pc` and
position `ordinal`, each further one for the address that the call before it gave and for the next
position. -/
inductive Generates : (ordinal : Nat) → (pc : VirtAddr) → G × Machine C δ → List Emission →
    VirtAddr → G × Machine C δ → Prop where
  | nil {ordinal pc s} : Generates ordinal pc s [] pc s
  | cons {ordinal pc s step s₁ rest pc' s'} (h : generate pc ordinal s = (.ok step, s₁))
      (hrest : Generates (ordinal + 1) step.next s₁ rest pc' s') :
      Generates ordinal pc s (⟨pc, step⟩ :: rest) pc' s'

/-- The record of calls for the instructions at these addresses, the first of which has position
`ordinal`. -/
def callEvents (ordinal : Nat) (pcs : List VirtAddr) : List Event :=
  (pcs.zipIdx ordinal).map fun (pc, k) => .generate pc.val (UInt32.ofNat k)

theorem generate_journal (pc : VirtAddr) (ordinal : Nat) (s : G × Machine C δ) :
    (generate pc ordinal s).2.2.journal =
      s.2.journal.record (.generate pc.val (UInt32.ofNat ordinal)) := rfl

theorem generate_events {pc : VirtAddr} {ordinal : Nat} {s s' : G × Machine C δ}
    {result : Except Failure Step} (h : generate pc ordinal s = (result, s'))
    (hdetail : s.2.journal.detail = .everything) :
    s'.2.journal.detail = .everything ∧
      s'.2.journal.events.toList =
        s.2.journal.events.toList ++ [.generate pc.val (UInt32.ofNat ordinal)] := by
  have hjournal := generate_journal pc ordinal s
  rw [h] at hjournal
  rw [hjournal, Journal.record, if_pos (by rw [hdetail]; rfl)]
  exact ⟨hdetail, by simp⟩

theorem Generates.events {ordinal : Nat} {pc pc' : VirtAddr} {s s' : G × Machine C δ}
    {emissions : List Emission} (h : Generates ordinal pc s emissions pc' s')
    (hdetail : s.2.journal.detail = .everything) :
    s'.2.journal.detail = .everything ∧
      s'.2.journal.events.toList =
        s.2.journal.events.toList ++ callEvents ordinal (emissions.map (·.pc)) := by
  induction h with
  | nil => exact ⟨hdetail, by simp [callEvents]⟩
  | cons hstep _ ih =>
      obtain ⟨hdetail₁, hevents₁⟩ := generate_events hstep hdetail
      obtain ⟨hdetail', hevents'⟩ := ih hdetail₁
      refine ⟨hdetail', ?_⟩
      rw [hevents', hevents₁]
      simp [callEvents]

/-! ## Growth -/

section Step

variable {start : UInt64} {room ordinal : Nat} {pc : VirtAddr} {sketch : Sketch}
  {s s' : G × Machine C δ}

theorem grow_of_continues {step : Step} (h : generate pc ordinal s = (.ok step, s'))
    (hcontinues : (Emission.mk pc step).Continues) :
    grow start (room + 1) ordinal pc sketch s =
      grow start room (ordinal + 1) step.next (sketch.extend ordinal pc step) s' := by
  rw [grow, h]
  exact if_pos hcontinues

theorem grow_of_last {step : Step} (h : generate pc ordinal s = (.ok step, s'))
    (hlast : ¬ (Emission.mk pc step).Continues) :
    grow start (room + 1) ordinal pc sketch s = (.ok (sketch.extend ordinal pc step), s') := by
  rw [grow, h]
  exact if_neg hlast

/-- A trap away from the start address ends the unit, any other failure is passed on. -/
theorem grow_of_failed {failure : Failure} (h : generate pc ordinal s = (.error failure, s')) :
    grow start (room + 1) ordinal pc sketch s =
      (if pc.val = start ∨ !failure.cause.isAccessTrap then .error failure.cause
        else .ok (sketch.discard ordinal failure.emitted), s') := by
  rw [grow, h]
  simp only
  split <;> rfl

end Step

/-- Growth goes through instructions behind which the unit can go on, as long as there is room. -/
theorem Generates.grow {ordinal : Nat} {pc pc' : VirtAddr} {s s' : G × Machine C δ}
    {emissions : List Emission} (h : Generates ordinal pc s emissions pc' s')
    (hcontinues : ∀ x ∈ emissions, x.Continues) (start : UInt64) (room : Nat) (sketch : Sketch) :
    grow start (emissions.length + room) ordinal pc sketch s =
      grow start room (ordinal + emissions.length) pc' (sketch.extendAll ordinal emissions) s' := by
  induction h generalizing sketch with
  | nil => simp [Sketch.extendAll]
  | cons hstep _ ih =>
      obtain ⟨hfirst, hrest⟩ := List.forall_mem_cons.mp hcontinues
      rw [List.length_cons, Nat.add_right_comm, grow_of_continues hstep hfirst, ih hrest,
        Sketch.extendAll, Nat.add_assoc, Nat.add_comm 1]

/-- How growth comes out behind these instructions: there is no more room or the last of them ends
the unit, or the call behind them fails. -/
inductive Grown (start : UInt64) (room ordinal : Nat) (sketch : Sketch)
    (emissions : List Emission) (pc : VirtAddr) (s : G × Machine C δ) :
    Except EmitError Sketch × (G × Machine C δ) → Prop where
  | ended (hlength : emissions.length ≤ room) (hcontinues : ∀ x ∈ emissions.dropLast, x.Continues)
      (hend : emissions.length = room ∨ ∃ x, emissions.getLast? = some x ∧ ¬ x.Continues) :
      Grown start room ordinal sketch emissions pc s (.ok (sketch.extendAll ordinal emissions), s)
  | failed {failure : Failure} {s' : G × Machine C δ} (hlength : emissions.length < room)
      (hcontinues : ∀ x ∈ emissions, x.Continues)
      (h : generate pc (ordinal + emissions.length) s = (.error failure, s')) :
      Grown start room ordinal sketch emissions pc s
        (if pc.val = start ∨ !failure.cause.isAccessTrap then .error failure.cause
          else .ok ((sketch.extendAll ordinal emissions).discard (ordinal + emissions.length)
            failure.emitted), s')

theorem Grown.cons {start : UInt64} {room ordinal : Nat} {sketch : Sketch} {x : Emission}
    {emissions : List Emission} {pc : VirtAddr} {s : G × Machine C δ}
    {out : Except EmitError Sketch × (G × Machine C δ)} (hx : x.Continues)
    (h : Grown start room (ordinal + 1) (sketch.extend ordinal x.pc x.step) emissions pc s out) :
    Grown start (room + 1) ordinal sketch (x :: emissions) pc s out := by
  have hordinal : ordinal + 1 + emissions.length = ordinal + (x :: emissions).length := by
    rw [List.length_cons]
    omega
  cases h with
  | ended hlength hcontinues hend =>
      refine .ended (Nat.succ_le_succ hlength) ?_ ?_
      · cases emissions with
        | nil => simp
        | cons y ys =>
            rw [List.dropLast_cons_cons]
            exact List.forall_mem_cons.mpr ⟨hx, hcontinues⟩
      · rcases hend with hfull | ⟨y, hlast, hy⟩
        · exact .inl (congrArg (· + 1) hfull)
        · exact .inr ⟨y, by simp [List.getLast?_cons, hlast], hy⟩
  | failed hlength hcontinues h =>
      rw [hordinal] at h
      rw [hordinal]
      exact .failed (Nat.succ_lt_succ hlength) (List.forall_mem_cons.mpr ⟨hx, hcontinues⟩) h

/-- All that growth can do. -/
theorem grow_cases (start : UInt64) (room ordinal : Nat) (pc : VirtAddr) (sketch : Sketch)
    (s : G × Machine C δ) :
    ∃ emissions pc' s', Generates ordinal pc s emissions pc' s' ∧
      Grown start room ordinal sketch emissions pc' s' (grow start room ordinal pc sketch s) := by
  induction room generalizing ordinal pc sketch s with
  | zero => exact ⟨[], pc, s, .nil, .ended (Nat.le_refl 0) (by simp) (.inl rfl)⟩
  | succ room ih =>
      cases hstep : generate pc ordinal s with
      | mk result s₁ =>
          cases result with
          | error e =>
              refine ⟨[], pc, s, .nil, ?_⟩
              rw [grow_of_failed hstep]
              exact .failed (Nat.succ_pos room) (by simp) hstep
          | ok step =>
              by_cases hcontinues : (Emission.mk pc step).Continues
              · obtain ⟨emissions, pc', s', hgenerates, hgrown⟩ :=
                  ih (ordinal + 1) step.next (sketch.extend ordinal pc step) s₁
                rw [grow_of_continues hstep hcontinues]
                exact ⟨_, pc', s', .cons hstep hgenerates, hgrown.cons hcontinues⟩
              · rw [grow_of_last hstep hcontinues]
                exact ⟨[⟨pc, step⟩], step.next, s₁, .cons hstep .nil,
                  .ended (by simp) (by simp) (.inr ⟨_, rfl, hcontinues⟩)⟩

def assemble (settings : Settings) (sketch : Sketch) (emitter : G) : Draft where
  settings := settings
  fragments := sketch.fragments.reverse
  discarded := sketch.discarded
  graph := sketch.finish
  leave := (Emitter.leave settings.layout emitter).1
  trap := (Emitter.trap settings.layout (Emitter.leave settings.layout emitter).2).1

def exited (settings : Settings) (s : G × Machine C δ) : G × Machine C δ :=
  ((Emitter.trap settings.layout (Emitter.leave settings.layout s.1).2).2, s.2)

theorem build_of_grown {settings : Settings} {start : VirtAddr} {s s' : G × Machine C δ}
    {sketch : Sketch} (h : grow start.val settings.capacity 0 start {} s = (.ok sketch, s')) :
    build settings start s = (.ok (assemble settings sketch s'.1), exited settings s') := by
  rw [build, h]
  rfl

theorem build_of_failed {settings : Settings} {start : VirtAddr} {s s' : G × Machine C δ}
    {e : EmitError} (h : grow start.val settings.capacity 0 start {} s = (.error e, s')) :
    build settings start s = (.error e, s') := by
  rw [build, h]

/-! ## The end of a unit -/

/-- Why a unit of these instructions, with these blocks, ends behind them, given the address `pc`
and the state `s` that the calls for them lead to: with how many calls altogether, and in which
state. -/
inductive Ends (settings : Settings) (emissions : List Emission) (graph : Graph) (pc : VirtAddr)
    (s : G × Machine C δ) : (calls : Nat) → G × Machine C δ → Prop where
  | full (h : emissions.length = max 1 settings.maxInstructions.toNat) :
      Ends settings emissions graph pc s emissions.length s
  | outcome {x : Emission} (hlast : emissions.getLast? = some x) (h : x.step.outcome ≠ .next) :
      Ends settings emissions graph pc s emissions.length s
  | closed {x : Emission} (hlast : emissions.getLast? = some x) (h : x.step.isOpen = false) :
      Ends settings emissions graph pc s emissions.length s
  /-- What the call emitted before it failed is there, but no block leads to it. -/
  | trapped {e : Exception} {emitted : Body Unit} {s' : G × Machine C δ} {id : Nat}
      (hroom : emissions.length < max 1 settings.maxInstructions.toNat)
      (hcontinues : ∀ x ∈ emissions, x.Continues)
      (h : generate pc emissions.length s = (.error ⟨.raised e, emitted⟩, s'))
      (htrap : e.isAccessTrap = true)
      (hdrops : graph.Drops [.before emissions.length, .body emitted] id) :
      Ends settings emissions graph pc s (emissions.length + 1) s'

theorem Generates.pc_of_nil {ordinal : Nat} {pc pc' : VirtAddr} {s s' : G × Machine C δ}
    {emissions : List Emission} (h : Generates ordinal pc s emissions pc' s')
    (hnil : emissions = []) : pc' = pc := by
  cases h with
  | nil => rfl
  | cons _ _ => simp at hnil

/-- How the building of a unit comes out: with the instructions of its first calls, or with the
failure of the call behind them. -/
inductive Built (settings : Settings) (start : VirtAddr) (emissions : List Emission)
    (pc : VirtAddr) (s : G × Machine C δ) :
    Except EmitError Draft → G × Machine C δ → Prop where
  | made {sketch : Sketch} {calls : Nat} {s' : G × Machine C δ} (hsound : sketch.Sound)
      (hfragments : sketch.fragments.reverse = emissions.map (·.fragment)) (hne : emissions ≠ [])
      (hlength : emissions.length ≤ settings.capacity)
      (hcontinues : ∀ x ∈ emissions.dropLast, x.Continues)
      (hends : Ends settings emissions sketch.finish pc s calls s') :
      Built settings start emissions pc s (.ok (assemble settings sketch s'.1)) (exited settings s')
  | failed {failure : Failure} {s' : G × Machine C δ}
      (hlength : emissions.length < settings.capacity) (hcontinues : ∀ x ∈ emissions, x.Continues)
      (h : generate pc emissions.length s = (.error failure, s'))
      (hcause : pc.val = start.val ∨ failure.cause.isAccessTrap = false) :
      Built settings start emissions pc s (.error failure.cause) s'

theorem build_cases {settings : Settings} {start : VirtAddr} {s s' : G × Machine C δ}
    {result : Except EmitError Draft} (h : build settings start s = (result, s')) :
    ∃ emissions pc s₁, Generates 0 start s emissions pc s₁ ∧
      Built settings start emissions pc s₁ result s' := by
  have hpos : 0 < settings.capacity := Nat.le_max_left 1 _
  obtain ⟨emissions, pc, s₁, hgenerates, hgrown⟩ :=
    grow_cases start.val settings.capacity 0 start {} s
  have hfragments : (Sketch.extendAll 0 emissions {}).fragments.reverse =
      emissions.map (·.fragment) := by
    rw [Sketch.fragments_extendAll]
    simp
  refine ⟨emissions, pc, s₁, hgenerates, ?_⟩
  generalize hgrow : grow start.val settings.capacity 0 start {} s = out at hgrown
  cases hgrown with
  | ended hlength hinit hend =>
      rw [build_of_grown hgrow] at h
      obtain ⟨rfl, rfl⟩ := Prod.mk.inj h
      have hsound := Sketch.sound_empty.extendAll rfl fun x hx => (hinit x hx).1
      have hends : Ends settings emissions (Sketch.extendAll 0 emissions {}).finish pc s₁
          emissions.length s₁ := by
        rcases hend with hfull | ⟨x, hlast, hx⟩
        · exact .full hfull
        · by_cases hopen : x.step.isOpen = true
          · exact .outcome hlast fun hnext => hx ⟨hopen, hnext⟩
          · exact .closed hlast (Bool.not_eq_true _ ▸ hopen)
      refine .made hsound hfragments ?_ hlength hinit hends
      rintro rfl
      rcases hend with hfull | ⟨x, hlast, -⟩
      · exact absurd hfull (Nat.ne_of_lt hpos)
      · simp at hlast
  | @failed failure s₂ hroom hall hfailed =>
      rw [Nat.zero_add] at hfailed hgrow
      by_cases herror : pc.val = start.val ∨ !failure.cause.isAccessTrap
      · rw [if_pos herror] at hgrow
        rw [build_of_failed hgrow] at h
        obtain ⟨rfl, rfl⟩ := Prod.mk.inj h
        exact .failed hroom hall hfailed (by simpa using herror)
      · rw [if_neg herror] at hgrow
        rw [build_of_grown hgrow] at h
        obtain ⟨rfl, rfl⟩ := Prod.mk.inj h
        obtain ⟨hpc, htrap⟩ := not_or.mp herror
        have hinit : ∀ x ∈ emissions.dropLast, x.Continues := fun x hx =>
          hall x (List.dropLast_subset _ hx)
        have hsound := Sketch.sound_empty.extendAll rfl fun x hx => (hinit x hx).1
        obtain ⟨cause, emitted⟩ := failure
        obtain ⟨e, rfl, haccess⟩ := EmitError.eq_raised (by simpa using htrap)
        -- the first instruction is at the start address, so there is one before the trap
        exact .made (hsound.discard _ _) hfragments
          (fun hnil => hpc (hgenerates.pc_of_nil hnil ▸ rfl)) (Nat.le_of_lt hroom) hinit
          (.trapped hroom hall hfailed haccess (hsound.drops_discard _ _))

/-! ## The code of a unit -/

theorem sequence_uses {P : Op → Prop} {settings : Settings} {fragments : List Fragment}
    {ordinal : Nat} (hbody : ∀ fragment ∈ fragments, fragment.body.Uses P)
    (hboundary : ∀ k < fragments.length,
      (settings.before (UInt32.ofNat (ordinal + k))).Uses P ∧
        (settings.after (UInt32.ofNat (ordinal + k))).Uses P) :
    (sequence settings ordinal fragments).Uses P := by
  induction fragments generalizing ordinal with
  | nil => exact Body.uses_throw P _
  | cons fragment rest ih =>
      obtain ⟨hfirst, hrest⟩ := List.forall_mem_cons.mp hbody
      obtain ⟨hbefore, hafter⟩ := hboundary 0 (Nat.succ_pos _)
      refine hbefore.bind fun _ => hfirst.bind fun _ => ?_
      split
      · refine hafter.bind fun _ => ih hrest fun k hk => ?_
        rw [Nat.add_assoc, Nat.add_comm 1]
        exact hboundary (k + 1) (Nat.succ_lt_succ hk)
      · exact Body.uses_throw P _

theorem code_uses {P : Op → Prop} {draft : Draft} (hlinked : draft.Linked)
    (hsequence : (sequence draft.settings 0 draft.fragments).Uses P)
    (hleave : draft.leave.code.run.Uses P) (htrap : draft.trap.code.run.Uses P) :
    draft.code.Uses P := by
  rw [code, hlinked]
  refine Code.Uses.bind hsequence fun result => ?_
  cases result with
  | error d => exact exit_uses hleave htrap d
  | ok _ => exact exit_uses hleave htrap .leave

/-! ## The shape of a unit -/

/-- What a unit is like that starts at `start` and consists of the instructions of `emissions`. -/
structure Shape (settings : Settings) (start : VirtAddr) (emissions : List Emission)
    (draft : Draft) : Prop where
  size_eq : draft.size = emissions.length
  size_pos : 1 ≤ draft.size
  size_le : draft.size ≤ max 1 settings.maxInstructions.toNat
  boundaries_eq : draft.boundaries = emissions.map (·.pc.val)
  boundaries_head : draft.boundaries.head? = some start.val
  continues : ∀ x ∈ emissions.dropLast, x.Continues
  outcome_eq : emissions.getLast?.map (·.step.outcome) = some draft.outcome
  settings_eq : draft.settings = settings
  /-- Every block is complete. -/
  complete : ∀ (id : Nat) (block : Block), draft.graph.blocks[id]? = some block →
    block.jump.isSome = true
  /-- From the first block on, control runs through these instructions in sequence. -/
  linked : draft.graph.code settings = sequence settings 0 (emissions.map (·.fragment))
  /-- Nothing else runs than these instructions, their boundaries and the exits. -/
  uses : ∀ P : Op → Prop, (∀ x ∈ emissions, x.step.body.Uses P) →
    (∀ k < draft.size, (settings.before (UInt32.ofNat k)).Uses P ∧
      (settings.after (UInt32.ofNat k)).Uses P) →
    draft.leave.code.run.Uses P → draft.trap.code.run.Uses P → draft.code.Uses P

theorem linked_assemble {sketch : Sketch} (h : sketch.Sound) (settings : Settings) (emitter : G) :
    (assemble settings sketch emitter).Linked :=
  fun settings => h.code_finish settings

theorem Generates.shape (settings : Settings) {start pc : VirtAddr} {s s' : G × Machine C δ}
    {emissions : List Emission} {sketch : Sketch} (h : Generates 0 start s emissions pc s')
    (hsound : sketch.Sound) (hfragments : sketch.fragments.reverse = emissions.map (·.fragment))
    (hne : emissions ≠ []) (hlength : emissions.length ≤ settings.capacity)
    (hcontinues : ∀ x ∈ emissions.dropLast, x.Continues) (emitter : G) :
    Shape settings start emissions (assemble settings sketch emitter) where
  size_eq := by simp [size, assemble, hfragments]
  size_pos := by
    rw [size, assemble, hfragments, List.length_map]
    exact List.length_pos_iff.mpr hne
  size_le := by simpa [size, assemble, hfragments, Settings.capacity] using hlength
  boundaries_eq := by simp [boundaries, assemble, hfragments, Emission.fragment]
  boundaries_head := by
    rw [boundaries, assemble, hfragments]
    cases h with
    | nil => exact absurd rfl hne
    | cons _ _ => rfl
  continues := hcontinues
  outcome_eq := by
    cases hlast : emissions.getLast? with
    | none => exact absurd (List.getLast?_eq_none_iff.mp hlast) hne
    | some x => simp [outcome, assemble, hfragments, Emission.fragment, hlast]
  settings_eq := rfl
  complete id block hblock := by
    cases hjump : block.jump with
    | none => exact nomatch hsound.finish_sound.closed id block hblock hjump
    | some jump => rfl
  linked := by rw [← hfragments]; exact hsound.code_finish settings
  uses P hbody hboundary hleave htrap := by
    refine code_uses (linked_assemble hsound settings emitter) (sequence_uses ?_ ?_) hleave htrap
    · intro fragment hfragment
      rw [assemble, hfragments] at hfragment
      obtain ⟨x, hx, rfl⟩ := List.mem_map.mp hfragment
      exact hbody x hx
    · intro k hk
      rw [Nat.zero_add]
      exact hboundary k hk

theorem Generates.events_failed {pc pc' : VirtAddr} {s s₁ s' : G × Machine C δ}
    {emissions : List Emission} {failure : Failure} (h : Generates 0 pc s emissions pc' s₁)
    (hfailed : generate pc' emissions.length s₁ = (.error failure, s'))
    (hdetail : s.2.journal.detail = .everything) :
    s'.2.journal.events.toList =
      s.2.journal.events.toList ++ callEvents 0 (emissions.map (·.pc) ++ [pc']) := by
  obtain ⟨hdetail₁, hevents₁⟩ := h.events hdetail
  rw [(generate_events hfailed hdetail₁).2, hevents₁]
  simp [callEvents, List.zipIdx_append]

/-- An emitter is called for the instructions of a unit, and for one more if that raises a trap. -/
theorem Ends.events {settings : Settings} {start pc : VirtAddr} {s s₁ s' : G × Machine C δ}
    {emissions : List Emission} {graph : Graph} {calls : Nat}
    (h : Ends settings emissions graph pc s₁ calls s')
    (hgenerates : Generates 0 start s emissions pc s₁)
    (hdetail : s.2.journal.detail = .everything) :
    s'.2.journal.events.toList = s.2.journal.events.toList ++
      callEvents 0 ((emissions.map (·.pc) ++ [pc]).take calls) := by
  have hall := (hgenerates.events hdetail).2
  cases h with
  | full _ => simpa using hall
  | outcome _ _ => simpa using hall
  | closed _ _ => simpa using hall
  | trapped _ _ hfailed _ _ =>
      rw [hgenerates.events_failed hfailed hdetail, List.take_of_length_le (by simp)]

/-- Whatever the emitter, a unit has the instructions of its first calls, ends behind the first that
does not let it go on, and fails only with what the last call raised. Its code is that of these
instructions, whatever the last call emitted before it failed. -/
theorem build_shape (settings : Settings) (start : VirtAddr) (s : G × Machine C δ) :
    (∀ draft s', build settings start s = (.ok draft, s') →
      ∃ emissions pc s₁ calls s₂, Generates 0 start s emissions pc s₁ ∧
        Shape settings start emissions draft ∧
        Ends settings emissions draft.graph pc s₁ calls s₂ ∧ s' = exited settings s₂ ∧
        (s.2.journal.detail = .everything → s'.2.journal.events.toList =
          s.2.journal.events.toList ++
            callEvents 0 ((emissions.map (·.pc) ++ [pc]).take calls))) ∧
      ∀ e s', build settings start s = (.error e, s') →
        ∃ emissions pc s₁ emitted, Generates 0 start s emissions pc s₁ ∧
          (∀ x ∈ emissions, x.Continues) ∧
          generate pc emissions.length s₁ = (.error ⟨e, emitted⟩, s') ∧
          (s.2.journal.detail = .everything → s'.2.journal.events.toList =
            s.2.journal.events.toList ++ callEvents 0 (emissions.map (·.pc) ++ [pc])) := by
  constructor
  · intro draft s' h
    obtain ⟨emissions, pc, s₁, hgenerates, hbuilt⟩ := build_cases h
    cases hbuilt with
    | @made sketch calls s₂ hsound hfragments hne hlength hcontinues hends =>
        exact ⟨emissions, pc, s₁, calls, s₂, hgenerates,
          hgenerates.shape _ hsound hfragments hne hlength hcontinues s₂.1, hends, rfl,
          hends.events hgenerates⟩
  · intro e s' h
    obtain ⟨emissions, pc, s₁, hgenerates, hbuilt⟩ := build_cases h
    cases hbuilt with
    | failed _ hcontinues hfailed _ =>
        exact ⟨emissions, pc, s₁, _, hgenerates, hcontinues, hfailed,
          hgenerates.events_failed hfailed⟩

open Scripted in
/-- The second of two instructions raises a trap when it has set a flag on one side of a branch. The
unit has the first alone, and what was emitted of the second is in a block that nothing leads to. -/
theorem build_shape_trapped :
    ∃ draft s', build (.plain words 8) (.fetch 0) (Program.trapping 4 1).fresh =
        (.ok draft, s') ∧ draft.size = 1 ∧
      s'.2.journal.events.toList = [.generate 0 0, .generate 4 1] ∧
      ∃ emissions pc s₁ calls s₂, Generates 0 (.fetch 0) (Program.trapping 4 1).fresh
          emissions pc s₁ ∧
        Shape (.plain words 8) (.fetch 0) emissions draft ∧
        Ends (.plain words 8) emissions draft.graph pc s₁ calls s₂ ∧
        s' = exited (.plain words 8) s₂ ∧
        s'.2.journal.events.toList =
          callEvents 0 ((emissions.map (·.pc) ++ [pc]).take calls) := by
  obtain ⟨draft, s', hbuild, hsize, hevents⟩ : ∃ draft s',
      build (.plain words 8) (.fetch 0) (Program.trapping 4 1).fresh = (.ok draft, s') ∧
        draft.size = 1 ∧ s'.2.journal.events.toList = [.generate 0 0, .generate 4 1] :=
    ⟨_, _, rfl, rfl, rfl⟩
  obtain ⟨emissions, pc, s₁, calls, s₂, hgenerates, hshape, hends, hexits, hcalls⟩ :=
    (build_shape _ _ _).1 draft s' hbuild
  exact ⟨draft, s', hbuild, hsize, hevents, emissions, pc, s₁, calls, s₂, hgenerates, hshape, hends,
    hexits, hcalls rfl⟩

/-! ## Traps in the middle of a unit -/

theorem Generates.grow_trapped {start : UInt64} {room : Nat} {pc pc' : VirtAddr}
    {s s₁ s' : G × Machine C δ} {emissions : List Emission} {failure : Failure}
    (h : Generates 0 pc s emissions pc' s₁) (hcontinues : ∀ x ∈ emissions, x.Continues)
    (hroom : emissions.length + 1 ≤ room)
    (hfailed : Draft.generate pc' emissions.length s₁ = (.error failure, s'))
    (htrap : failure.cause.isAccessTrap = true) :
    Draft.grow start room 0 pc {} s =
      (if pc'.val = start then .error failure.cause
        else .ok ((Sketch.extendAll 0 emissions {}).discard emissions.length failure.emitted),
        s') := by
  obtain ⟨rest, rfl⟩ := Nat.exists_eq_add_of_le hroom
  rw [Nat.add_assoc, Nat.add_comm 1, h.grow hcontinues, Nat.zero_add, grow_of_failed hfailed]
  simp [htrap]

/-- A trap behind instructions that the unit can go on behind ends the unit there exactly if it is
raised away from the address that the unit starts at. Otherwise it is an error, even if there are
instructions before. -/
theorem build_truncated {settings : Settings} {start pc : VirtAddr} {s s₁ s' : G × Machine C δ}
    {emissions : List Emission} {e : Exception} {emitted : Body Unit}
    (h : Generates 0 start s emissions pc s₁) (hcontinues : ∀ x ∈ emissions, x.Continues)
    (hroom : emissions.length + 1 ≤ max 1 settings.maxInstructions.toNat)
    (hfailed : generate pc emissions.length s₁ = (.error ⟨.raised e, emitted⟩, s'))
    (htrap : e.isAccessTrap = true) :
    ((∃ draft, build settings start s = (.ok draft, exited settings s') ∧
        draft.size = emissions.length ∧ draft.fragments = emissions.map (·.fragment) ∧
        draft.boundaries = emissions.map (·.pc.val) ∧ draft.outcome = .next) ↔
      pc.val ≠ start.val) ∧
      (build settings start s = (.error (.raised e), s') ↔ pc.val = start.val) ∧
      (emissions = [] → pc.val = start.val) := by
  have hgrow : grow start.val settings.capacity 0 start {} s = (if pc.val = start.val then _ else _,
      s') :=
    h.grow_trapped hcontinues hroom hfailed htrap
  have hfirst : emissions = [] → pc.val = start.val := fun hnil => by rw [h.pc_of_nil hnil]
  by_cases hstart : pc.val = start.val
  · rw [if_pos hstart] at hgrow
    have hbuild := build_of_failed hgrow
    refine ⟨⟨?_, fun haway => absurd hstart haway⟩, ⟨fun _ => hstart, fun _ => hbuild⟩, hfirst⟩
    rintro ⟨draft, hok, -⟩
    rw [hbuild] at hok
    simp at hok
  · rw [if_neg hstart] at hgrow
    have hbuild := build_of_grown hgrow
    have hinit : ∀ x ∈ emissions.dropLast, x.Continues := fun x hx =>
      hcontinues x (List.dropLast_subset _ hx)
    have hsound := Sketch.sound_empty.extendAll rfl fun x hx => (hinit x hx).1
    have hfragments : (Sketch.extendAll 0 emissions {}).fragments.reverse =
        emissions.map (·.fragment) := by
      rw [Sketch.fragments_extendAll]
      simp
    have hshape := h.shape settings (hsound.discard emissions.length emitted)
      hfragments (fun hnil => hstart (hfirst hnil)) (Nat.le_of_succ_le hroom) hinit s'.1
    obtain ⟨x, hlast, houtcome⟩ := Option.map_eq_some_iff.mp hshape.outcome_eq
    have hnext := (hcontinues x (List.mem_of_getLast? hlast)).2
    refine ⟨⟨fun _ => hstart, fun _ => ⟨_, hbuild, hshape.size_eq, hfragments,
      hshape.boundaries_eq, houtcome.symm.trans hnext⟩⟩,
      ⟨fun herror => ?_, fun heq => absurd heq hstart⟩, hfirst⟩
    rw [hbuild] at herror
    simp at herror

open Scripted in
/-- The second of two instructions raises a trap: the first is a unit of its own. -/
theorem build_truncated_second :
    ∃ emissions s', emissions.map (·.pc.val) = [0] ∧
      Generates 0 (.fetch 0) (Program.trapping 4 1).fresh emissions (.fetch 4) s' ∧
      ∃ draft s'', build (.plain words 8) (.fetch 0) (Program.trapping 4 1).fresh =
          (.ok draft, s'') ∧
        draft.size = 1 ∧ draft.boundaries = [0] ∧ draft.outcome = .next := by
  have hgenerates : Generates 0 (.fetch 0) (Program.trapping 4 1).fresh [⟨_, _⟩] (.fetch 4) _ :=
    .cons rfl .nil
  obtain ⟨draft, hbuild, hsize, -, hboundaries, houtcome⟩ : ∃ draft,
      build (.plain words 8) (.fetch 0) (Program.trapping 4 1).fresh = (.ok draft, _) ∧ _ :=
    (build_truncated hgenerates (by simp [Emission.Continues]) (by decide) rfl rfl).1.mpr
      (by decide)
  exact ⟨_, _, rfl, hgenerates, draft, _, hbuild, hsize, hboundaries, houtcome⟩

open Scripted in
/-- An instruction of length zero is generated again at the address that the unit starts at. A trap
that its second generation raises is an error, although there is an instruction to end the unit
behind. -/
theorem trap_behind_instruction_raised :
    ∃ emissions s₁ emitted s', emissions.length = 1 ∧ (∀ x ∈ emissions, x.Continues) ∧
      Generates 0 (.fetch 0) (Program.trapping 0 1).fresh emissions (.fetch 0) s₁ ∧
      generate (.fetch 0) 1 s₁ = (.error ⟨.raised (.accessTrap 5 0), emitted⟩, s') ∧
      build (.plain words 8) (.fetch 0) (Program.trapping 0 1).fresh =
        (.error (.raised (.accessTrap 5 0)), s') :=
  ⟨[⟨_, _⟩], _, _, _, rfl, by simp [Emission.Continues], .cons rfl .nil, rfl, rfl⟩

end Draft

end GuestSim

import GuestSim.Proofs.Provenance

/-! # The code of instructions

Emitters make the code of an instruction from calls that read and write registers, flags and memory.
Such code leaves its unit as soon as an access fails, and leaves alone what it has no call for. -/

namespace GuestSim

/-! ## What code leaves alone -/

section Keeps

variable {C δ α β γ : Type} [Architecture C] [Debugger δ] {view : C → γ}

/-- The operation never changes what `view` shows of the core. -/
def Op.Spares (view : C → γ) (op : Op) : Prop := ∀ core, view (op.onCore core) = view core

namespace Body

/-- What `view` shows of the core is the same at all points of the code. -/
def Keeps (δ : Type) [Debugger δ] (view : C → γ) (body : Body α) : Prop :=
  ∀ m : Machine C δ, ∀ p ∈ body.points m, view p.core = view m.core

theorem Uses.keepsView {body : Body α} (h : body.Uses (Op.Spares view)) : body.Keeps δ view := by
  intro m
  have hkeep : ∀ (op : Op) (p : Machine C δ), op.Spares view → view p.core = view m.core →
      view (p.perform op).2.core = view m.core := by
    intro op p hop hp
    rw [p.perform_core, hop]
    exact hp
  exact Code.Uses.keeps (I := fun p => view p.core = view m.core) h hkeep rfl

theorem Keeps.exec {body : Body α} (h : body.Keeps δ view) (m : Machine C δ) :
    view (body.exec m).2.core = view m.core :=
  h m _ (end_mem_points body m)

theorem Keeps.bind {body : Body α} {f : α → Body β} (h : body.Keeps δ view)
    (hf : ∀ a, (f a).Keeps δ view) : (body >>= f).Keeps δ view := by
  intro m
  refine forall_points_bind (h m) fun a m' hexec p hp => ?_
  have hend := h.exec m
  rw [hexec] at hend
  rw [hf a m' p hp, hend]

end Body

namespace Settings

theorem budgetCheck_keeps (settings : Settings) : settings.budgetCheck.Keeps δ view := by
  apply Body.Uses.keepsView
  unfold budgetCheck
  split
  · refine (Body.uses_loadSlot fun _ => rfl).bind fun icount => ?_
    refine (Body.uses_ask fun _ => rfl).bind fun limit => ?_
    split
    · exact Body.uses_throw _ _
    · exact Body.uses_pure _ _
  · exact Body.uses_pure _ _

theorem debugCheck_keeps (settings : Settings) (pc : UInt64) :
    (settings.debugCheck pc).Keeps δ view := by
  apply Body.Uses.keepsView
  unfold debugCheck
  split
  · exact Body.uses_attempt fun _ => rfl
  · exact Body.uses_pure _ _

theorem report_keeps (hnotify : ∀ core phase, view (Architecture.notify core phase) = view core)
    (settings : Settings) (phase : SyncMask) (ordinal : UInt32) :
    (settings.report phase ordinal).Keeps δ view :=
  Body.Uses.keepsView (settings.report_uses (fun core => hnotify core _) fun _ _ => rfl)

/-- The part of an instruction behind its counting. -/
def rest (settings : Settings) (ordinal : Nat) (fragment : Fragment) (pc : UInt64) :
    Body Unit := do
  settings.debugCheck pc
  settings.report .pre (UInt32.ofNat ordinal)
  fragment.body
  if fragment.isOpen then settings.after (UInt32.ofNat ordinal) else throw .leave

theorem rest_keeps (hnotify : ∀ core phase, view (Architecture.notify core phase) = view core)
    (settings : Settings) (ordinal : Nat) {fragment : Fragment}
    (hbody : fragment.body.Keeps δ view) (pc : UInt64) :
    (settings.rest ordinal fragment pc).Keeps δ view := by
  refine (settings.debugCheck_keeps pc).bind fun _ => ?_
  refine (settings.report_keeps hnotify .pre _).bind fun _ => ?_
  refine hbody.bind fun _ => ?_
  split
  · exact settings.report_keeps hnotify .post _
  · exact (Body.uses_throw _ _).keepsView

theorem instruction_exec (settings : Settings) (ordinal : Nat) (fragment : Fragment)
    (m : Machine C δ) :
    (settings.instruction ordinal fragment).exec m =
      (settings.rest ordinal fragment (settings.startAddress m.core)).exec
        { m with core := settings.started m.core } :=
  Body.exec_bind_ok (settings.advance_exec m)

end Settings

theorem ExitCode.core_of_mem_register_points {ε : Type} {idx : UInt32} {m p : Machine C δ}
    (hp : p ∈ (register (ε := ε) idx).code.run.points m) : p.core = m.core := by
  have hpoints : (register (ε := ε) idx).code.run.points m = [m, (m.readReg idx).2] := rfl
  rw [hpoints, List.mem_cons, List.mem_singleton] at hp
  rcases hp with rfl | rfl
  · rfl
  · rfl

end Keeps

/-! ## Failures -/

/-- The operation answers with a status, which tells whether it failed. -/
def Op.CanFail : Op → Prop
  | .readMem _ _ _ | .writeMem _ _ _ _ | .checkpoint _ => True
  | _ => False

section Careful

variable {C δ α β : Type} [Architecture C] [Debugger δ]

/-- Only an operation that fails parks an exception, and its status says so. -/
theorem Machine.perform_exception (m : Machine C δ) (op : Op) :
    (m.perform op).2.context.exception = m.context.exception ∨
      op.CanFail ∧ (m.perform op).1 = Status.trap ∧
        (m.perform op).2.context.exception.isSome = true := by
  cases op with
  | readMem space addr len =>
      simp only [perform, readMem]
      cases Architecture.readMem m.core ⟨.read, space, addr⟩ len with
      | mk result core =>
          cases result with
          | ok value => exact .inl rfl
          | error e => exact .inr ⟨trivial, rfl, rfl⟩
  | writeMem space addr len value =>
      simp only [perform, writeMem]
      cases Architecture.writeMem m.core ⟨.write, space, addr⟩ len value with
      | mk result core =>
          cases result with
          | ok _ => exact .inl rfl
          | error e => exact .inr ⟨trivial, rfl, rfl⟩
  | checkpoint pc =>
      simp only [perform, checkpoint]
      split
      · exact .inl rfl
      · split
        · exact .inl rfl
        · exact .inr ⟨trivial, rfl, rfl⟩
  | callPlugin id notice => exact .inl (by rw [perform, (m.callPlugin_frame id notice).2])
  | _ => exact .inl rfl

/-- What was parked stays parked. -/
theorem Code.run_exception_isSome (code : Code α) {m : Machine C δ}
    (h : m.context.exception.isSome = true) :
    (code.run m).2.context.exception.isSome = true := by
  refine code.uses_trivial.keeps (I := fun p => p.context.exception.isSome = true) ?_ h _
    (code.end_mem_points m)
  intro op p _ hp
  rcases p.perform_exception op with hsame | ⟨-, -, hsome⟩
  · rwa [hsame]
  · exact hsome

namespace Body

/-- Code that leaves its unit through the trap exit when it raises an exception. -/
def Careful (C δ : Type) [Architecture C] [Debugger δ] (body : Body α) : Prop :=
  ∀ m : Machine C δ, m.context.exception = none →
    (body.exec m).2.context.exception = none ∨ (body.exec m).1 = .error .trap

theorem careful_of_context {body : Body α}
    (h : ∀ m : Machine C δ, (body.exec m).2.context.exception = m.context.exception) :
    body.Careful C δ :=
  fun m hm => .inl ((h m).trans hm)

theorem careful_attempt (op : Op) : (attempt op).Careful C δ := by
  intro m hm
  rw [exec_attempt]
  rcases m.perform_exception op with hsame | ⟨-, hstatus, -⟩
  · exact .inl (hsame.trans hm)
  · exact .inr (by rw [hstatus]; rfl)

theorem Careful.bind {body : Body α} {f : α → Body β} (h : body.Careful C δ)
    (hf : ∀ a, (f a).Careful C δ) : (body >>= f).Careful C δ := by
  intro m hm
  have hbody := h m hm
  cases hexec : body.exec m with
  | mk result m' =>
      rw [hexec] at hbody
      cases result with
      | error d =>
          rw [exec_bind_error hexec]
          refine hbody.imp_right fun htrap => ?_
          cases htrap
          rfl
      | ok a =>
          rw [exec_bind_ok hexec]
          exact hf a m' (hbody.resolve_right (by simp))

end Body

theorem Settings.rest_careful (settings : Settings) (ordinal : Nat) {fragment : Fragment}
    (hbody : fragment.body.Careful C δ) (pc : UInt64) :
    (settings.rest ordinal fragment pc).Careful C δ := by
  have hreport (phase : SyncMask) (ordinal : UInt32) :
      (settings.report phase ordinal).Careful C δ := by
    refine Body.careful_of_context fun m => ?_
    obtain ⟨m', hexec, -, hcontext⟩ := settings.report_exec phase ordinal m
    rw [hexec, hcontext]
  have hcheck : (settings.debugCheck pc).Careful C δ := by
    unfold debugCheck
    split
    · exact Body.careful_attempt _
    · exact Body.careful_of_context fun _ => rfl
  refine hcheck.bind fun _ => (hreport _ _).bind fun _ => hbody.bind fun _ => ?_
  split
  · exact hreport _ _
  · exact Body.careful_of_context fun _ => rfl

end Careful

/-! ## Ordinary code -/

/-- What the code of an instruction may ask for: nothing of what belongs to the boundaries of
instructions, and no write to registers other than those of `writes`. -/
def Op.Ordinary (writes : UInt32 → Prop) : Op → Prop
  | .readReg _ | .readFlag _ | .writeFlag _ _ | .updateFlags _ _ _ | .readMem _ _ _ | .memValue
  | .writeMem _ _ _ _ => True
  | .writeReg idx _ => writes idx
  | _ => False

/-- Code that asks for ordinary operations and is careful with those that can fail. -/
structure Body.Ordinary {α : Type} (writes : UInt32 → Prop) (body : Body α) : Prop where
  uses : body.Uses (Op.Ordinary writes)
  careful : ∀ (C δ : Type) [Architecture C] [Debugger δ], body.Careful C δ

namespace Body

variable {α β : Type} {writes : UInt32 → Prop}

theorem ordinary_pure (a : α) : (pure a : Body α).Ordinary writes :=
  ⟨uses_pure _ a, fun _ _ => careful_of_context fun _ => rfl⟩

theorem ordinary_throw (d : Departure) : (throw d : Body α).Ordinary writes :=
  ⟨uses_throw _ d, fun _ _ => careful_of_context fun _ => rfl⟩

theorem Ordinary.bind {body : Body α} {f : α → Body β} (h : body.Ordinary writes)
    (hf : ∀ a, (f a).Ordinary writes) : (body >>= f).Ordinary writes :=
  ⟨h.uses.bind fun a => (hf a).uses, fun C δ => (h.careful C δ).bind fun a => (hf a).careful C δ⟩

theorem ordinary_ask {op : Op} (h : op.Ordinary writes) (hsafe : ¬ op.CanFail) :
    (ask op).Ordinary writes :=
  ⟨uses_ask h, fun _ _ => careful_of_context fun m =>
    (m.perform_exception op).resolve_right fun hfails => hsafe hfails.1⟩

theorem ordinary_tell {op : Op} (h : op.Ordinary writes) (hsafe : ¬ op.CanFail) :
    (tell op).Ordinary writes :=
  ⟨uses_tell h, fun _ _ => careful_of_context fun m =>
    (m.perform_exception op).resolve_right fun hfails => hsafe hfails.1⟩

theorem ordinary_attempt {op : Op} (h : op.Ordinary writes) : (attempt op).Ordinary writes :=
  ⟨uses_attempt h, fun _ _ => careful_attempt op⟩

theorem ordinary_readReg (idx : UInt32) (w : Width) : (readReg idx w).Ordinary writes := by
  refine Ordinary.bind (ordinary_ask ?_ id) fun _ => ordinary_pure _
  trivial

theorem ordinary_writeReg {w : Width} {idx : UInt32} (h : writes idx) (value : Word w) :
    (writeReg idx value).Ordinary writes :=
  ordinary_tell h id

theorem ordinary_readFlag (flag : UInt32) : (readFlag flag).Ordinary writes := by
  refine Ordinary.bind (ordinary_ask ?_ id) fun _ => ordinary_pure _
  trivial

theorem ordinary_load {v : Width} (space : UInt32) (addr : Word v) (w : Width) :
    (load space addr w).Ordinary writes := by
  refine Ordinary.bind (ordinary_attempt ?_) fun _ =>
    Ordinary.bind (ordinary_ask ?_ id) fun _ => ordinary_pure _
  · trivial
  · trivial

end Body

end GuestSim

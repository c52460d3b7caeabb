import GuestSim.Proofs.Running

/-! # Registers and memory as generated code reaches them -/

namespace GuestSim

namespace Body

variable {C δ : Type} [Architecture C] [Debugger δ] {m : Machine C δ} {v w : Width}

theorem exec_readReg (idx : UInt32) (w : Width) (m : Machine C δ) :
    (readReg idx w).exec m =
      (.ok (Word.const w (Architecture.readReg m.core idx)), (m.readReg idx).2) := rfl

theorem exec_writeReg (idx : UInt32) (x : Word w) (m : Machine C δ) :
    (writeReg idx x).exec m = (.ok (), m.writeReg idx x.toUInt64) := rfl

theorem exec_attempt_ok {op : Op} {m' : Machine C δ} (h : m.perform op = (Status.ok, m')) :
    (attempt op).exec m = (.ok (), m') := by
  rw [exec_attempt, h]
  rfl

theorem exec_attempt_trap {op : Op} {m' : Machine C δ} (h : m.perform op = (Status.trap, m')) :
    (attempt op).exec m = (.error .trap, m') := by
  rw [exec_attempt, h]
  rfl

variable {addr : Word v} {core : C} {e : Exception}

theorem exec_store_ok {x : Word w} (space : UInt32)
    (h : Architecture.writeMem m.core ⟨.write, space, addr.toUInt64⟩ w.bytes x.toUInt64 =
      (.ok (), core)) :
    ∃ m', (store space addr x).exec m = (.ok (), m') ∧ m'.core = core ∧
      m'.context = m.context := by
  have hperform : m.perform (.writeMem space addr.toUInt64 w.bytes x.toUInt64) = (Status.ok,
      { m with
        core
        journal := m.journal.record (.writeMem space addr.toUInt64 w.bytes x.toUInt64) }) := by
    simp only [Machine.perform, Machine.writeMem, h]
  exact ⟨_, exec_attempt_ok hperform, rfl, rfl⟩

theorem exec_store_error {x : Word w} (space : UInt32)
    (h : Architecture.writeMem m.core ⟨.write, space, addr.toUInt64⟩ w.bytes x.toUInt64 =
      (.error e, core)) :
    ∃ m', (store space addr x).exec m = (.error .trap, m') ∧ m'.core = core ∧
      m'.context = { m.context with exception := some e } := by
  have hperform : m.perform (.writeMem space addr.toUInt64 w.bytes x.toUInt64) = (Status.trap,
      { m with
        core
        journal := m.journal.record (.writeMem space addr.toUInt64 w.bytes x.toUInt64)
        context.exception := some e }) := by
    simp only [Machine.perform, Machine.writeMem, h]
    rfl
  exact ⟨_, exec_attempt_trap hperform, rfl, rfl⟩

theorem exec_load_ok {value : UInt64} (space : UInt32)
    (h : Architecture.readMem m.core ⟨.read, space, addr.toUInt64⟩ w.bytes = (.ok value, core)) :
    ∃ m', (load space addr w).exec m = (.ok (Word.const w value), m') ∧ m'.core = core ∧
      m'.context = { m.context with memValue := value } := by
  have hperform : m.perform (.readMem space addr.toUInt64 w.bytes) = (Status.ok,
      { m with
        core
        journal := m.journal.record (.readMem space addr.toUInt64 w.bytes)
        context.memValue := value }) := by
    simp only [Machine.perform, Machine.readMem, h]
  rw [load, exec_bind_ok (exec_attempt_ok hperform)]
  exact ⟨_, rfl, rfl, rfl⟩

theorem exec_load_error (space : UInt32)
    (h : Architecture.readMem m.core ⟨.read, space, addr.toUInt64⟩ w.bytes = (.error e, core)) :
    ∃ m', (load space addr w).exec m = (.error .trap, m') ∧ m'.core = core ∧
      m'.context = { m.context with exception := some e } := by
  have hperform : m.perform (.readMem space addr.toUInt64 w.bytes) = (Status.trap,
      { m with
        core
        journal := m.journal.record (.readMem space addr.toUInt64 w.bytes)
        context.exception := some e }) := by
    simp only [Machine.perform, Machine.readMem, h]
    rfl
  exact ⟨_, exec_bind_error (exec_attempt_trap hperform), rfl, rfl⟩

end Body

end GuestSim

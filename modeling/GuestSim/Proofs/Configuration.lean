import GuestSim.Mini.Codegen
import GuestSim.Proofs.Numeral
import GuestSim.Proofs.Provenance

/-! # Configurations from variables

Which variables make a configuration, what is reported of those that do not, and what each setting
of a configuration is. -/

namespace GuestSim.Config

open Numeral (Spells)

/-! ## Settings -/

/-- The settings that make up a configuration. -/
inductive Setting where
  | maxUnitInstructions
  | coreId
  | clusterId
  | debugging
  | dumpListing
  | preciseLimit
  | verifier
  | optLevel
deriving DecidableEq, Repr

namespace Setting

def name : Setting → String
  | maxUnitInstructions => "TESSEL_MAX_UNIT_INSTRUCTIONS"
  | coreId => "TESSEL_CORE_ID"
  | clusterId => "TESSEL_CLUSTER_ID"
  | debugging => "TESSEL_DEBUG"
  | dumpListing => "TESSEL_DUMP_IL"
  | preciseLimit => "TESSEL_IMPRECISE_LIMIT"
  | verifier => "TESSEL_ENABLE_JIT_VERIFIER"
  | optLevel => "TESSEL_OPT_LEVEL"

def Value : Setting → Type
  | maxUnitInstructions | coreId | clusterId => UInt32
  | debugging | dumpListing | preciseLimit | verifier => Bool
  | optLevel => String

def get (config : Config) : (setting : Setting) → setting.Value
  | maxUnitInstructions => config.maxUnitInstructions
  | coreId => config.coreId
  | clusterId => config.clusterId
  | debugging => config.debugging
  | dumpListing => config.dumpListing
  | preciseLimit => config.preciseLimit
  | verifier => config.verifier
  | optLevel => config.optLevel

/-- The settings whose variables can be wrong, in the order in which they are checked. -/
def checked : List Setting := [maxUnitInstructions, coreId, clusterId, optLevel]

/-- The texts that the variable may have. -/
def Admits : Setting → String → Prop
  | maxUnitInstructions, text => ∃ n, Spells text n ∧ n < 2 ^ 32 ∧ n ≠ 0
  | coreId, text | clusterId, text => ∃ n, Spells text n ∧ n < 2 ^ 32
  | debugging, _ | dumpListing, _ | preciseLimit, _ | verifier, _ => True
  | optLevel, text => text ∈ ["none", "speed", "speed_and_size"]

/-- The number of a numeral, or the standard one if there is no text. -/
def Number (standard : UInt32) : Option String → UInt32 → Prop
  | none, n => n = standard
  | some text, n => Spells text n.toNat

/-- What the setting is when its variable has a text or is not set. -/
def Denotes : (setting : Setting) → Option String → setting.Value → Prop
  | maxUnitInstructions, text?, n => Number 128 text? n
  | coreId, text?, n => Number 0 text? n
  | clusterId, text?, n => Number 0 text? n
  | debugging, text?, on => on = text?.isSome
  | dumpListing, text?, on => on = text?.isSome
  | preciseLimit, text?, on => on = text?.isNone
  | verifier, text?, on => on = text?.isSome
  | optLevel, text?, level => level = text?.getD "speed_and_size"

theorem Number.unique {standard n m : UInt32} {text? : Option String}
    (hn : Number standard text? n) (hm : Number standard text? m) : n = m := by
  cases text? with
  | none => exact hn.trans hm.symm
  | some text => exact UInt32.toNat_inj.mp (Spells.unique hn hm)

theorem Denotes.unique {setting : Setting} {text? : Option String} {value value' : setting.Value}
    (h : setting.Denotes text? value) (h' : setting.Denotes text? value') : value = value' := by
  cases setting with
  | maxUnitInstructions => exact Number.unique h h'
  | coreId => exact Number.unique h h'
  | clusterId => exact Number.unique h h'
  | debugging => exact h.trans h'.symm
  | dumpListing => exact h.trans h'.symm
  | preciseLimit => exact h.trans h'.symm
  | verifier => exact h.trans h'.symm
  | optLevel => exact h.trans h'.symm

end Setting

/-! ## Faults -/

section Faults

variable {var : String → Option String} {setting : Setting} {text : String} {e e' : ConfigError}

/-- The variable of the setting is not set, or it has a text that it may have. -/
def Sound (var : String → Option String) (setting : Setting) : Prop :=
  ∀ text, var setting.name = some text → setting.Admits text

/-- What is said of a text that a variable may not have. -/
inductive Complaint : Setting → String → ConfigError → Prop where
  | zero {text : String} (hzero : Spells text 0) :
      Complaint .maxUnitInstructions text (.zero (Setting.name .maxUnitInstructions))
  | invalidValue {setting : Setting} {text : String} (h : ¬ setting.Admits text)
      (hzero : setting = .maxUnitInstructions → ¬ Spells text 0) :
      Complaint setting text (.invalidValue setting.name text)

/-- The error is about the first setting in the list whose variable is wrong. -/
inductive Reported (var : String → Option String) : List Setting → ConfigError → Prop where
  | here {setting : Setting} {rest : List Setting} {text : String} {e : ConfigError}
      (htext : var setting.name = some text) (h : Complaint setting text e) :
      Reported var (setting :: rest) e
  | later {setting : Setting} {rest : List Setting} {e : ConfigError}
      (hsound : Sound var setting) (h : Reported var rest e) : Reported var (setting :: rest) e

theorem Complaint.not_admits (h : Complaint setting text e) : ¬ setting.Admits text := by
  cases h with
  | zero hzero =>
      rintro ⟨n, hn, -, hne⟩
      exact hne (hn.unique hzero)
  | invalidValue h => exact h

theorem Complaint.not_sound (htext : var setting.name = some text) (h : Complaint setting text e) :
    ¬ Sound var setting := by
  intro hsound
  exact h.not_admits (hsound text htext)

theorem Complaint.unique (h : Complaint setting text e) (h' : Complaint setting text e') :
    e = e' := by
  cases h with
  | zero hzero =>
      cases h' with
      | zero => rfl
      | invalidValue _ hne => exact absurd hzero (hne rfl)
  | invalidValue _ hne =>
      cases h' with
      | zero hzero => exact absurd hzero (hne rfl)
      | invalidValue => rfl

theorem exists_complaint (h : ¬ setting.Admits text) : ∃ e, Complaint setting text e := by
  by_cases hzero : setting = .maxUnitInstructions ∧ Spells text 0
  · obtain ⟨rfl, hzero⟩ := hzero
    exact ⟨_, .zero hzero⟩
  · exact ⟨_, .invalidValue h fun hsetting hspells => hzero ⟨hsetting, hspells⟩⟩

theorem exists_reported_iff (var : String → Option String) (settings : List Setting) :
    (∃ e, Reported var settings e) ↔ ¬ ∀ setting ∈ settings, Sound var setting := by
  induction settings with
  | nil =>
      constructor
      · rintro ⟨e, ⟨⟩⟩
      · intro h
        exact absurd (List.forall_mem_nil _) h
  | cons setting rest ih =>
      rw [List.forall_mem_cons]
      constructor
      · rintro ⟨e, ⟨htext, h⟩ | ⟨-, h⟩⟩ ⟨hsound, hrest⟩
        · exact h.not_sound htext hsound
        · exact ih.mp ⟨e, h⟩ hrest
      · intro h
        by_cases hsound : Sound var setting
        · obtain ⟨e, he⟩ := ih.mpr fun hrest => h ⟨hsound, hrest⟩
          exact ⟨e, .later hsound he⟩
        · simp only [Sound, not_forall] at hsound
          obtain ⟨text, htext, hadmits⟩ := hsound
          obtain ⟨e, he⟩ := exists_complaint hadmits
          exact ⟨e, .here htext he⟩

end Faults

/-! ## Checks -/

section Checks

variable {α β : Type} {var : String → Option String} {setting : Setting} {e : ConfigError}

/-- All that the check of a setting can give, if `Means` says what the texts stand for. -/
inductive Checked (var : String → Option String) (setting : Setting) (Means : String → α → Prop) :
    Except ConfigError (Option α) → Prop where
  | unset (hvar : var setting.name = none) : Checked var setting Means (.ok none)
  | set {text : String} {value : α} (hvar : var setting.name = some text)
      (hadmits : setting.Admits text) (hmeans : Means text value) :
      Checked var setting Means (.ok (some value))
  | wrong {text : String} {e : ConfigError} (hvar : var setting.name = some text)
      (h : Complaint setting text e) : Checked var setting Means (.error e)

/-- A variable of a number is not set, has a numeral of a number that fits, or is refused. -/
theorem number?_cases (var : String → Option String) (name : String) :
    (var name = none ∧ number? var name = .ok none) ∨
    ∃ text, var name = some text ∧
      ((∃ n : UInt32, Spells text n.toNat ∧ number? var name = .ok (some n)) ∨
      (¬ ∃ n, Spells text n ∧ n < 2 ^ 32) ∧
        number? var name = .error (.invalidValue name text)) := by
  cases hvar : var name with
  | none => exact .inl ⟨rfl, by simp only [number?, hvar]⟩
  | some text =>
      refine .inr ⟨text, rfl, ?_⟩
      cases hword : Numeral.word? text with
      | none =>
          refine .inr ⟨?_, by simp only [number?, hvar, hword]⟩
          rintro ⟨n, hn, hlt⟩
          have hle := (Numeral.word?_eq_none_iff text).mp hword n hn
          omega
      | some v =>
          have hv := (Numeral.word?_eq_some_iff text v).mp hword
          by_cases hlt : v.toNat < UInt32.size
          · refine .inl ⟨v.toUInt32, ?_, by simp only [number?, hvar, hword, if_pos hlt]⟩
            rwa [UInt64.toNat_toUInt32, Nat.mod_eq_of_lt hlt]
          · -- The number fits in 64 bits only, and the text is a numeral of no other one.
            refine .inr ⟨?_, by simp only [number?, hvar, hword, if_neg hlt]⟩
            rintro ⟨n, hn, hn'⟩
            rw [hn.unique hv] at hn'
            exact hlt hn'

theorem checked_number (setting : Setting)
    (hadmits : ∀ text, setting.Admits text ↔ ∃ n, Spells text n ∧ n < 2 ^ 32)
    (hsetting : setting ≠ .maxUnitInstructions) :
    Checked var setting (fun text n => Spells text n.toNat) (number? var setting.name) := by
  rcases number?_cases var setting.name with
    ⟨hvar, heq⟩ | ⟨text, hvar, ⟨n, hn, heq⟩ | ⟨hnot, heq⟩⟩
  · rw [heq]
    exact .unset hvar
  · rw [heq]
    exact .set hvar ((hadmits text).mpr ⟨_, hn, n.toNat_lt⟩) hn
  · rw [heq]
    refine .wrong hvar (.invalidValue ?_ fun h => absurd h hsetting)
    rwa [hadmits]

theorem positive?_of_ok {name : String} {value? : Option UInt32}
    (h : number? var name = .ok value?) :
    positive? var name = if value? = some 0 then .error (.zero name) else .ok value? := by
  rw [positive?, h]
  rfl

theorem positive?_of_error {name : String} (h : number? var name = .error e) :
    positive? var name = .error e := by
  rw [positive?, h]
  rfl

/-- A maximum of zero is told apart from a text that is no number. -/
theorem checked_maxUnitInstructions :
    Checked var .maxUnitInstructions (fun text n => Spells text n.toNat)
      (positive? var (Setting.name .maxUnitInstructions)) := by
  rcases number?_cases var (Setting.name .maxUnitInstructions) with
    ⟨hvar, heq⟩ | ⟨text, hvar, ⟨n, hn, heq⟩ | ⟨hnot, heq⟩⟩
  · rw [positive?_of_ok heq, if_neg nofun]
    exact .unset hvar
  · rw [positive?_of_ok heq]
    by_cases hzero : n = 0
    · rw [if_pos (congrArg some hzero)]
      subst hzero
      exact .wrong hvar (.zero hn)
    · rw [if_neg (mt Option.some.inj hzero)]
      have hne : n.toNat ≠ 0 := fun h => hzero (UInt32.toNat_inj.mp h)
      exact .set hvar ⟨_, hn, n.toNat_lt, hne⟩ hn
  · rw [positive?_of_error heq]
    refine .wrong hvar (.invalidValue ?_ ?_)
    · rintro ⟨n, hn, hlt, -⟩
      exact hnot ⟨n, hn, hlt⟩
    · intro _ hzero
      exact hnot ⟨0, hzero, by decide⟩

theorem checked_optLevel :
    Checked var .optLevel (fun text level => level = text)
      (optLevel? var (Setting.name .optLevel)) := by
  unfold optLevel?
  cases hvar : var (Setting.name .optLevel) with
  | none => exact .unset hvar
  | some text =>
      by_cases hlevel : optLevels.contains text = true
      · simp only [hlevel, if_true]
        exact .set hvar (List.contains_iff_mem.mp hlevel) rfl
      · simp only [hlevel]
        refine .wrong hvar (.invalidValue ?_ nofun)
        rwa [List.contains_iff_mem] at hlevel

namespace Checked

variable {Means : String → α → Prop} {result : Except ConfigError (Option α)}

theorem sound {value? : Option α} (h : Checked var setting Means (.ok value?)) :
    Sound var setting := by
  intro text htext
  cases h with
  | unset hvar => simp [hvar] at htext
  | set hvar hadmits =>
      rw [hvar, Option.some.injEq] at htext
      exact htext ▸ hadmits

/-- Of a check and those that come after it, the first to fail is reported. -/
theorem bind_eq_error_iff (h : Checked var setting Means result)
    {next : Option α → Except ConfigError β} {rest : List Setting}
    (hnext : ∀ value?, next value? = .error e ↔ Reported var rest e) :
    (result >>= next) = .error e ↔ Reported var (setting :: rest) e := by
  cases result with
  | ok value? =>
      have hsound := h.sound
      refine (hnext value?).trans ⟨.later hsound, ?_⟩
      rintro (⟨htext, hcomplaint⟩ | ⟨-, hrest⟩)
      · exact absurd hsound (hcomplaint.not_sound htext)
      · exact hrest
  | error e' =>
      cases h with
      | wrong hvar hcomplaint =>
          change Except.error e' = Except.error e ↔ _
          rw [Except.error.injEq]
          constructor
          · rintro rfl
            exact .here hvar hcomplaint
          · rintro (⟨htext, hcomplaint'⟩ | ⟨hsound, -⟩)
            · obtain rfl := Option.some.inj (hvar.symm.trans htext)
              exact hcomplaint.unique hcomplaint'
            · exact absurd hsound (hcomplaint.not_sound hvar)

theorem of_bind_eq_ok (h : Checked var setting Means result)
    {next : Option α → Except ConfigError β} {b : β} (hok : (result >>= next) = .ok b) :
    ∃ value?, Checked var setting Means (.ok value?) ∧ next value? = .ok b := by
  cases result with
  | ok value? => exact ⟨value?, h, hok⟩
  | error e => cases hok

theorem number {value? : Option UInt32}
    (h : Checked var setting (fun text n => Spells text n.toNat) (.ok value?))
    (standard : UInt32) :
    Setting.Number standard (var setting.name) (value?.getD standard) := by
  cases h with
  | unset hvar =>
      rw [hvar]
      exact rfl
  | set hvar _ hmeans =>
      rw [hvar]
      exact hmeans

theorem text {value? : Option String}
    (h : Checked var setting (fun text level => level = text) (.ok value?)) :
    value? = var setting.name := by
  cases h with
  | unset hvar => exact hvar.symm
  | set hvar _ hmeans => rw [hvar, hmeans]

end Checked

end Checks

/-! ## Configurations -/

section Configurations

variable {var : String → Option String} {config : Config}

theorem ofVars_eq_error_iff (var : String → Option String) (e : ConfigError) :
    ofVars var = .error e ↔ Reported var Setting.checked e := by
  refine checked_maxUnitInstructions.bind_eq_error_iff fun _ => ?_
  refine (checked_number .coreId (fun _ => Iff.rfl) nofun).bind_eq_error_iff fun _ => ?_
  refine (checked_number .clusterId (fun _ => Iff.rfl) nofun).bind_eq_error_iff fun _ => ?_
  refine checked_optLevel.bind_eq_error_iff fun _ => ?_
  exact ⟨nofun, nofun⟩

theorem exists_ofVars_eq_ok_iff (var : String → Option String) :
    (∃ config, ofVars var = .ok config) ↔ ∀ setting ∈ Setting.checked, Sound var setting := by
  have hreported := exists_reported_iff var Setting.checked
  cases hresult : ofVars var with
  | ok config =>
      have hnone : ¬ ∃ e, Reported var Setting.checked e := by
        rintro ⟨e, he⟩
        rw [← ofVars_eq_error_iff, hresult] at he
        cases he
      exact iff_of_true ⟨config, rfl⟩ (not_not.mp (mt hreported.mpr hnone))
  | error e =>
      have hfault := hreported.mp ⟨e, (ofVars_eq_error_iff var e).mp hresult⟩
      exact iff_of_false nofun hfault

/-- Every setting is what its variable says. -/
theorem denotes_of_ofVars (h : ofVars var = .ok config) (setting : Setting) :
    setting.Denotes (var setting.name) (setting.get config) := by
  obtain ⟨max?, hmax, h⟩ := checked_maxUnitInstructions.of_bind_eq_ok h
  obtain ⟨coreId?, hcore, h⟩ :=
    (checked_number .coreId (fun _ => Iff.rfl) nofun).of_bind_eq_ok h
  obtain ⟨clusterId?, hcluster, h⟩ :=
    (checked_number .clusterId (fun _ => Iff.rfl) nofun).of_bind_eq_ok h
  obtain ⟨level?, hlevel, h⟩ := checked_optLevel.of_bind_eq_ok h
  cases h
  cases setting with
  | maxUnitInstructions => exact hmax.number 128
  | coreId => exact hcore.number 0
  | clusterId => exact hcluster.number 0
  | debugging => rfl
  | dumpListing => rfl
  | preciseLimit => rfl
  | verifier => rfl
  | optLevel => exact congrArg (·.getD "speed_and_size") hlevel.text

theorem sound_of_ofVars (h : ofVars var = .ok config) {setting : Setting}
    (hsetting : setting ∈ Setting.checked) : Sound var setting :=
  (exists_ofVars_eq_ok_iff var).mp ⟨config, h⟩ setting hsetting

theorem maxUnitInstructions_pos (h : ofVars var = .ok config) :
    1 ≤ config.maxUnitInstructions.toNat := by
  have hvalue := denotes_of_ofVars h .maxUnitInstructions
  have hsound := sound_of_ofVars h (show .maxUnitInstructions ∈ Setting.checked by decide)
  cases hvar : var (Setting.name .maxUnitInstructions) with
  | none =>
      rw [hvar] at hvalue
      rw [show config.maxUnitInstructions = 128 from hvalue]
      decide
  | some text =>
      rw [hvar] at hvalue
      obtain ⟨n, hn, -, hne⟩ := hsound text hvar
      rw [hn.unique hvalue] at hne
      exact Nat.one_le_iff_ne_zero.mpr hne

theorem optLevel_mem (h : ofVars var = .ok config) : config.optLevel ∈ optLevels := by
  have hvalue := denotes_of_ofVars h .optLevel
  have hsound := sound_of_ofVars h (show .optLevel ∈ Setting.checked by decide)
  cases hvar : var (Setting.name .optLevel) with
  | none =>
      rw [hvar] at hvalue
      rw [show config.optLevel = "speed_and_size" from hvalue]
      decide
  | some text =>
      rw [hvar] at hvalue
      rw [show config.optLevel = text from hvalue]
      exact hsound text hvar

theorem exists_new_eq_ok {G δ : Type} (machine : Machine Mini.Core δ) (emitter : G)
    (h : config.optLevel ∈ optLevels) : ∃ sim, Simulator.new machine emitter config = .ok sim := by
  have hlayout : (Architecture.layout machine.core).isValid = true :=
    show Mini.layout.isValid = true by decide
  simp [Simulator.new, hlayout, Cache.ofConfig, h]

/-- Variables make a configuration if and only if none of those that are checked is wrong, and
otherwise the first one that is wrong is reported. Every setting is what its own variable says, and
the other variables have no part in it. A simulator of the small architecture can be set up with
every such configuration, and its units have the room that the configuration gives them. -/
theorem ofVars_reports_first (var : String → Option String) :
    ((∃ config, ofVars var = .ok config) ↔ ∀ setting ∈ Setting.checked, Sound var setting) ∧
    (∀ e, ofVars var = .error e ↔ Reported var Setting.checked e) ∧
    ∀ config, ofVars var = .ok config →
      (∀ setting : Setting, setting.Denotes (var setting.name) (setting.get config)) ∧
      (∀ var' config', ofVars var' = .ok config' →
        ∀ setting : Setting, var' setting.name = var setting.name →
          setting.get config' = setting.get config) ∧
      1 ≤ config.maxUnitInstructions.toNat ∧
      ∀ (G δ : Type) (machine : Machine Mini.Core δ) (emitter : G),
        ∃ sim, Simulator.new machine emitter config = .ok sim ∧
          sim.settings.capacity = config.maxUnitInstructions.toNat := by
  refine ⟨exists_ofVars_eq_ok_iff var, ofVars_eq_error_iff var, fun config h => ?_⟩
  have hpos := maxUnitInstructions_pos h
  refine ⟨denotes_of_ofVars h, ?_, hpos, ?_⟩
  · intro var' config' h' setting hvar
    have hvalue := denotes_of_ofVars h' setting
    rw [hvar] at hvalue
    exact hvalue.unique (denotes_of_ofVars h setting)
  · intro G δ machine emitter
    obtain ⟨sim, hsim⟩ := exists_new_eq_ok machine emitter (optLevel_mem h)
    obtain ⟨cache, -, rfl⟩ := Simulator.new_eq_ok hsim
    exact ⟨_, hsim, Nat.max_eq_right hpos⟩

/-- Two configurations that share a variable, and variables that are right but for two, of which the
one that is checked first is reported. -/
theorem ofVars_reports_first_of_two :
    ∃ (right other wrong : List (String × String)) (config config' : Config),
      right = [("TESSEL_DEBUG", ""), ("TESSEL_MAX_UNIT_INSTRUCTIONS", "0x10")] ∧
      other = [("TESSEL_DEBUG", ""), ("TESSEL_CLUSTER_ID", "+3"), ("TESSEL_OPT_LEVEL", "none")] ∧
      wrong = [("TESSEL_OPT_LEVEL", "fast"), ("TESSEL_CORE_ID", "core0")] ∧
      ofVars (right.lookup ·) = .ok config ∧ Spells "0x10" config.maxUnitInstructions.toNat ∧
      ofVars (other.lookup ·) = .ok config' ∧ config'.debugging = config.debugging ∧
      (∀ machine : Machine Mini.Core Unit,
        ∃ sim, Simulator.new machine Mini.Codegen.mk config = .ok sim ∧
          sim.settings.capacity = config.maxUnitInstructions.toNat) ∧
      Reported ((right ++ wrong).lookup ·) Setting.checked
        (.invalidValue "TESSEL_CORE_ID" "core0") := by
  let right := [("TESSEL_DEBUG", ""), ("TESSEL_MAX_UNIT_INSTRUCTIONS", "0x10")]
  let other := [("TESSEL_DEBUG", ""), ("TESSEL_CLUSTER_ID", "+3"), ("TESSEL_OPT_LEVEL", "none")]
  let wrong := [("TESSEL_OPT_LEVEL", "fast"), ("TESSEL_CORE_ID", "core0")]
  have hright : ofVars (right.lookup ·) =
      .ok { maxUnitInstructions := 16, debugging := true } := by decide
  have hother : ofVars (other.lookup ·) =
      .ok { clusterId := 3, debugging := true, optLevel := "none" } := by decide
  have hwrong : ofVars ((right ++ wrong).lookup ·) =
      .error (.invalidValue "TESSEL_CORE_ID" "core0") := by decide
  obtain ⟨-, -, hconfig⟩ := ofVars_reports_first (right.lookup ·)
  obtain ⟨hvalue, hsame, -, hnew⟩ := hconfig _ hright
  refine ⟨right, other, wrong, _, _, rfl, rfl, rfl, hright, hvalue .maxUnitInstructions, hother,
    hsame _ _ hother .debugging rfl, fun machine => hnew _ _ machine _, ?_⟩
  exact ((ofVars_reports_first ((right ++ wrong).lookup ·)).2.1 _).mp hwrong

end Configurations

end GuestSim.Config

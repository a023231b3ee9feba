import RiscvDbg.RefModel.Agreement

/-!
# How complete the reset of the debug module is

Writing `dmactive = 0` resets every register of the two reference models but one: the flag
`sbcs_read_on_addr_armed` survives, while `sbcs.sbreadonaddr`, whose last written value it repeats, is
cleared.  A later write of `sbaddress0` then starts a bus read that the predicted `sbcs` denies.

* `SameOutside` — two states agree on what lies outside the debug module.
* `resetDm_eq` — after a reset such states are equal, up to the flag.
* `ReadOnAddrShown` — the flag is the `sbreadonaddr` bit a read of `sbcs` is predicted to return.
* `dm_reset_complete_iff` — no later access can tell the two runs apart, and the flag is shown
  throughout, exactly if every reset finds the flag clear.

Without System Bus Access nothing about the bus is ever predicted, so the flag does no harm there
(`Silent`).
-/

set_option autoImplicit false

namespace RiscvDbg

/-! ## The Python model -/

namespace SystemBus

/-- The flag, and the register bit it repeats. -/
def onAddr (sb : SystemBus) : Bool × Bool := (sb.sbcsReadOnAddrArmed, sb.sbreadonaddr)

variable (cfg : DeclaredConfig) (sb : SystemBus)

theorem sbaAutoincrement_onAddr : (sb.sbaAutoincrement cfg).onAddr = sb.onAddr := by
  unfold sbaAutoincrement; split <;> rfl

theorem sbaArmRead_onAddr (address : Nat) : (sb.sbaArmRead address).onAddr = sb.onAddr := by
  unfold sbaArmRead; cases sb.shadowMem.get? address <;> rfl

theorem writeSbaddress0_onAddr (value : Nat) : (sb.writeSbaddress0 cfg value).onAddr = sb.onAddr := by
  unfold writeSbaddress0
  dsimp only
  split
  · rw [sbaAutoincrement_onAddr, sbaArmRead_onAddr]; rfl
  · rfl

theorem writeSbdata0_onAddr (value : Nat) : (sb.writeSbdata0 cfg value).onAddr = sb.onAddr := by
  rw [writeSbdata0, sbaAutoincrement_onAddr]; rfl

theorem sbdata0ReadEffects_onAddr : (sb.sbdata0ReadEffects cfg).onAddr = sb.onAddr := by
  unfold sbdata0ReadEffects
  split
  · rw [sbaAutoincrement_onAddr, sbaArmRead_onAddr]
  · rfl

end SystemBus

/-- The inputs that leave the configuration as it is. -/
def Input.FixedConfig : Input → Prop
  | .setConfig _ => False
  | _ => True

/-- The inputs that reset the debug module. -/
def Input.ResetsDm : Input → Prop
  | .resetDm _ => True
  | .onWrite addr value => addr = DMCONTROL.address ∧ value.testBit 0 = false
  | _ => False

namespace DMPredictor

/-- Two states agree on the harts' own signals, the shadows of registers and memory, and the busy bit
last observed. -/
structure SameOutside (s t : DMPredictor) : Prop where
  harts : s.rc.harts.map (fun h => (h.halted, h.running, h.havereset)) =
    t.rc.harts.map (fun h => (h.halted, h.running, h.havereset))
  shadowRegs : s.ac.shadowRegs = t.ac.shadowRegs
  shadowHi : s.ac.shadowHi = t.ac.shadowHi
  shadowMem : s.sb.shadowMem = t.sb.shadowMem
  observedCmdbusy : s.observedCmdbusy = t.observedCmdbusy

/-- No read can tell the two states apart. -/
def SamePredictions (s t : DMPredictor) : Prop :=
  ∀ addr, s.hasModel addr = t.hasModel addr ∧ s.predict addr = t.predict addr

/-- Whether a write of `sbaddress0` starts a bus read, on a model that predicts bus reads. -/
def readsOnAddr (s : DMPredictor) : Bool := s.cfg.sbaEnable && s.sb.sbcsReadOnAddrArmed

/-- A write of `sbaddress0` starts a bus read exactly if the predicted `sbcs.sbreadonaddr` is 1. -/
def ReadOnAddrShown (s : DMPredictor) : Prop :=
  s.readsOnAddr = (s.predict ADDR_SBCS).testBit 20

variable {s t : DMPredictor}

/-! ### Configuration -/

/-- The declared implementation. -/
def config (s : DMPredictor) : Params × DeclaredConfig × Bool := (s.params, s.cfg, s.cfgValid)

theorem step_config {i : Input} (hi : i.FixedConfig) : (s.step i).config = s.config := by
  cases i with
  | setConfig c => exact absurd hi id
  | resetDm b => rfl
  | setObservedCmdbusy b => rfl
  | onWrite addr value =>
    obtain ⟨hp, hc, hv, -⟩ := s.onWrite_static addr value
    simp only [config, step, hp, hc, hv]
  | observeRead addr =>
    obtain ⟨hp, hc, hv, -⟩ := s.observeRead_static addr
    simp only [config, step, hp, hc, hv]
  | observeSbdata0Read => rfl
  | syncObservedHartSignals w => rfl

/-! ### The state after a reset -/

theorem resetHart_congr {p : Params} {a b : Option HartState}
    (h : a.map (fun h => (h.halted, h.running, h.havereset)) =
      b.map (fun h => (h.halted, h.running, h.havereset))) :
    RunControl.resetHart p false a = RunControl.resetHart p false b := by
  cases a with
  | none => cases b with
    | none => rfl
    | some b => cases h
  | some a => cases b with
    | none => cases h
    | some b =>
      simp only [Option.map_some, Option.some.injEq, Prod.mk.injEq] at h
      simp [RunControl.resetHart, h]

/-- After a reset, states that agree outside the debug module agree up to the flag. -/
theorem resetDm_eq (hcfg : s.config = t.config) (h : s.SameOutside t) :
    t.resetDm false =
      { s.resetDm false with
        sb := { (s.resetDm false).sb with sbcsReadOnAddrArmed := t.sb.sbcsReadOnAddrArmed } } := by
  simp only [config, Prod.mk.injEq] at hcfg
  obtain ⟨hp, hc, hv⟩ := hcfg
  have hharts : (List.range (max t.params.numHarts 1)).map
        (fun i => RunControl.resetHart t.params false t.rc.harts[i]?) =
      (List.range (max t.params.numHarts 1)).map
        (fun i => RunControl.resetHart t.params false s.rc.harts[i]?) := by
    apply List.map_congr_left
    intro i _
    have hget := congrArg (·[i]?) h.harts
    simp only [List.getElem?_map] at hget
    exact (resetHart_congr hget).symm
  simp only [resetDm, resetDeclaredRegs, RunControl.resetDm, AbstractCommand.resetDeclaredRegs,
    SystemBus.resetDeclaredRegs, hp, hc, hv, h.shadowRegs, h.shadowHi, h.shadowMem, h.observedCmdbusy,
    hharts]

/-! ### The flag and the bit that shows it -/

theorem testBit_expectSbcs (s : DMPredictor) :
    s.expectSbcs.testBit 20 = (s.cfg.sbaEnable && s.sb.sbreadonaddr) := by
  unfold expectSbcs
  dsimp only
  cases s.cfg.sbaEnable with
  | false => rw [Bool.not_false, if_pos rfl, Nat.zero_testBit, Bool.false_and]
  | true =>
    rw [Bool.not_true, if_neg Bool.false_ne_true, Bool.true_and]
    have h7 : Nat.testBit 7 3 = false := by decide
    have h127 : Nat.testBit 127 15 = false := by decide
    simp only [Nat.testBit_or, Nat.testBit_shiftLeft, Nat.testBit_and, Nat.testBit_bool_toNat]
    simp [h7, h127]

theorem predict_sbcs (s : DMPredictor) : s.predict ADDR_SBCS = s.expectSbcs := rfl

theorem readOnAddrShown_iff :
    s.ReadOnAddrShown ↔ (s.cfg.sbaEnable = true → s.sb.sbcsReadOnAddrArmed = s.sb.sbreadonaddr) := by
  rw [ReadOnAddrShown, readsOnAddr, predict_sbcs, testBit_expectSbcs]
  cases s.cfg.sbaEnable <;> simp

/-- Only a write of `sbcs` moves the flag or the bit, and it gives them one value. -/
theorem onWrite_onAddr {addr : Nat} (ha : addr ≠ DMCONTROL.address) (value : Nat) :
    (s.onWrite addr value).sb.onAddr = s.sb.onAddr ∨
      (s.onWrite addr value).sb.sbcsReadOnAddrArmed = (s.onWrite addr value).sb.sbreadonaddr := by
  rw [onWrite_sb s ha]
  split
  · exact Or.inl rfl
  split
  · exact Or.inl rfl
  split
  · exact Or.inr rfl
  split
  · exact Or.inl (SystemBus.writeSbaddress0_onAddr _ _ _)
  split
  · exact Or.inl (SystemBus.writeSbdata0_onAddr _ _ _)
  · exact Or.inl rfl

/-- The step: the flag stays shown unless a reset finds it set. -/
theorem step_onAddr {i : Input} (hi : i.FixedConfig)
    (h : s.sb.sbcsReadOnAddrArmed = s.sb.sbreadonaddr) :
    (s.step i).sb.sbcsReadOnAddrArmed = (s.step i).sb.sbreadonaddr ↔
      (i.ResetsDm → s.sb.sbcsReadOnAddrArmed = false) := by
  have hkeep : ∀ u : DMPredictor, u.sb.onAddr = s.sb.onAddr →
      u.sb.sbcsReadOnAddrArmed = u.sb.sbreadonaddr := by
    intro u hu
    have hfst := congrArg Prod.fst hu
    have hsnd := congrArg Prod.snd hu
    exact hfst.trans (h.trans hsnd.symm)
  cases i with
  | setConfig c => exact absurd hi id
  | resetDm b => exact ⟨fun hb _ => hb, fun hb => hb trivial⟩
  | setObservedCmdbusy b => exact iff_of_true (hkeep _ rfl) (absurd · id)
  | observeRead addr =>
    refine iff_of_true (hkeep _ ?_) (absurd · id)
    rw [step, observeRead_sb]
    split
    · exact SystemBus.sbdata0ReadEffects_onAddr _ _
    · rfl
  | observeSbdata0Read =>
    exact iff_of_true (hkeep _ (SystemBus.sbdata0ReadEffects_onAddr _ _)) (absurd · id)
  | syncObservedHartSignals w => exact iff_of_true (hkeep _ rfl) (absurd · id)
  | onWrite addr value =>
    by_cases ha : addr = DMCONTROL.address
    · subst ha
      rw [step, onWrite_dmcontrol]
      cases hv : value.testBit 0 with
      | false =>
        rw [writeDmcontrol_inactive s hv]
        exact ⟨fun hb _ => hb, fun hb => hb ⟨rfl, hv⟩⟩
      | true =>
        rw [writeDmcontrol_active s hv]
        exact iff_of_true h fun hr => absurd (hv.symm.trans hr.2) Bool.false_ne_true.symm
    · refine iff_of_true ?_ fun hr => absurd hr.1 ha
      obtain hu | hu := s.onWrite_onAddr ha value
      · exact hkeep _ hu
      · exact hu

/-! ### A model without System Bus Access -/

/-- The state but for the system-bus registers. -/
def withoutBus (s : DMPredictor) : DMPredictor := { s with sb := .init }

/-- No step reads the system-bus registers to decide anything else. -/
theorem step_withoutBus (s : DMPredictor) (i : Input) :
    (s.step i).withoutBus = (s.withoutBus.step i).withoutBus := by
  cases i with
  | setConfig c => rfl
  | resetDm b => rfl
  | setObservedCmdbusy b => rfl
  | observeSbdata0Read => rfl
  | syncObservedHartSignals w => rfl
  | observeRead addr =>
    simp only [step, observeRead]
    split <;> rfl
  | onWrite addr value =>
    have hdm : ∀ v, (s.writeDmcontrol v).withoutBus = (s.withoutBus.writeDmcontrol v).withoutBus := by
      intro v
      unfold writeDmcontrol
      split <;> rfl
    simp only [step, onWrite, apply_ite withoutBus, hdm]
    rfl

/-- The states differ in nothing but the system-bus registers, which are not implemented. -/
structure Silent (s t : DMPredictor) : Prop where
  noSba : s.cfg.sbaEnable = false
  rest : s.withoutBus = t.withoutBus

theorem Silent.step (h : s.Silent t) {i : Input} (hi : i.FixedConfig) : (s.step i).Silent (t.step i) := by
  have hcfg : (s.step i).cfg = s.cfg := congrArg (fun c => c.2.1) (step_config hi)
  refine ⟨by rw [hcfg, h.noSba], ?_⟩
  rw [step_withoutBus, h.rest, ← step_withoutBus]

theorem predictions_withoutBus (hs : s.cfg.sbaEnable = false) : s.SamePredictions s.withoutBus := by
  intro addr
  have hw : s.withoutBus.cfg.sbaEnable = false := hs
  constructor
  · simp only [hasModel, sbaWiderThan32, hs, hw, Bool.false_and, Bool.not_false, Bool.true_or]
    rfl
  · simp only [predict, sbaWiderThan32, expectSbcs, hs, hw, Bool.false_and, Bool.not_false, if_true,
      Bool.false_eq_true, if_false]
    rfl

theorem Silent.noSba_right (h : s.Silent t) : t.cfg.sbaEnable = false :=
  (congrArg (fun u => u.cfg.sbaEnable) h.rest).symm.trans h.noSba

theorem Silent.samePredictions (h : s.Silent t) : s.SamePredictions t := by
  intro addr
  obtain ⟨hm, hp⟩ := predictions_withoutBus h.noSba addr
  obtain ⟨hm', hp'⟩ := predictions_withoutBus h.noSba_right addr
  rw [hm, hp, hm', hp', h.rest]
  exact ⟨rfl, rfl⟩

/-! ### The two runs -/

/-- A reset in this step finds the flag clear. -/
def ResetFindsClear (s : DMPredictor) (i : Input) : Prop := i.ResetsDm → s.sb.sbcsReadOnAddrArmed = false

theorem step_shown {i : Input} (hi : i.FixedConfig) (hsba : s.cfg.sbaEnable = true)
    (hs : s.ReadOnAddrShown) : (s.step i).ReadOnAddrShown ↔ s.ResetFindsClear i := by
  have hsba' : (s.step i).cfg.sbaEnable = true :=
    (congrArg (fun c => c.2.1.sbaEnable) (step_config hi)).trans hsba
  rw [readOnAddrShown_iff] at hs ⊢
  rw [ResetFindsClear, ← step_onAddr hi (hs hsba)]
  exact ⟨fun h => h hsba', fun h _ => h⟩

theorem resetDm_shown (hsba : s.cfg.sbaEnable = true) :
    (s.resetDm false).ReadOnAddrShown ↔ s.sb.sbcsReadOnAddrArmed = false := by
  rw [readOnAddrShown_iff]
  exact ⟨fun h => h hsba, fun h _ => h⟩

theorem Silent.free (h : s.Silent t) : s.SamePredictions t ∧ s.ReadOnAddrShown ∧ t.ReadOnAddrShown := by
  have hshown : ∀ u : DMPredictor, u.cfg.sbaEnable = false → u.ReadOnAddrShown := by
    intro u hu
    rw [readOnAddrShown_iff, hu]
    exact (absurd · Bool.false_ne_true)
  exact ⟨h.samePredictions, hshown s h.noSba, hshown t h.noSba_right⟩

/-- The two runs after a reset, from states that agree outside the debug module. -/
theorem reset_complete_iff (hcfg : s.config = t.config) (h : s.SameOutside t) {is : List Input}
    (his : ∀ i ∈ is, i.FixedConfig) :
    Runs.IndistinguishableAfter step SamePredictions ReadOnAddrShown (s.resetDm false) (t.resetDm false) is ↔
      (s.cfg.sbaEnable = true →
        (s.sb.sbcsReadOnAddrArmed = false ∧ t.sb.sbcsReadOnAddrArmed = false) ∧
        Runs.Always step ResetFindsClear (s.resetDm false) is) := by
  have hct : t.cfg = s.cfg := (congrArg (fun c => c.2.1) hcfg).symm
  have hreset := resetDm_eq hcfg h
  rw [Runs.indistinguishable_iff (fun u => u.cfg.sbaEnable) Silent Input.FixedConfig ResetFindsClear
    (fun u i hi => congrArg (fun c => c.2.1.sbaEnable) (step_config hi))
    (fun u i hu hshown hi => step_shown hi hu hshown) (fun _ _ _ hsilent hi => hsilent.step hi)
    (fun _ _ hsilent => hsilent.free) (fun _ _ => ⟨rfl, rfl⟩) ?hsilent ?heq his]
  · refine forall_congr' ?_
    intro hsba
    rw [resetDm_shown (s := s) hsba, resetDm_shown (s := t) (by rw [hct]; exact hsba)]
  case hsilent =>
    intro hsba
    exact ⟨hsba, by rw [hreset]; rfl⟩
  case heq =>
    intro hsba hs ht
    rw [resetDm_shown (s := s) hsba] at hs
    rw [resetDm_shown (s := t) (by rw [hct]; exact hsba)] at ht
    rw [hreset, ht, ← hs]
    rfl

end DMPredictor

/-! ## The SystemVerilog model -/

/-- The inputs that reset the debug module. -/
def InputS.ResetsDm : InputS → Prop
  | .onWrite addr value => addr = DM_ADDR_DMCONTROL ∧ value.getLsbD 0 = false
  | _ => False

namespace DmRefModel

/-- Two states agree on the harts' own signals, the shadows of registers and memory, and the busy bit
last observed. -/
structure SameOutside (m n : DmRefModel) : Prop where
  harts : m.rc.harts.map (fun h => (h.halted.get, h.running.get, h.havereset)) =
    n.rc.harts.map (fun h => (h.halted.get, h.running.get, h.havereset))
  shadowRegs : m.ac.shadowRegs = n.ac.shadowRegs
  shadowHi : m.ac.shadowHi = n.ac.shadowHi
  shadowMem : m.sb.shadowMem = n.sb.shadowMem
  observedCmdbusy : m.observedCmdbusy = n.observedCmdbusy

/-- No read can tell the two states apart. -/
def SamePredictions (m n : DmRefModel) : Prop :=
  ∀ addr, m.hasModel addr = n.hasModel addr ∧ m.predict addr = n.predict addr

/-- Whether a write of `sbaddress0` starts a bus read, on a model that predicts bus reads. -/
def readsOnAddr (m : DmRefModel) : Bool := m.cfg.sbaEnable && m.sb.sbcsReadOnAddrArmed

/-- A write of `sbaddress0` starts a bus read exactly if the predicted `sbcs.sbreadonaddr` is 1. -/
def ReadOnAddrShown (m : DmRefModel) : Prop :=
  m.readsOnAddr = (m.predict DM_ADDR_SBCS).getLsbD 20

variable {m n : DmRefModel}

/-- The declared implementation. -/
def config (m : DmRefModel) : ParamsS × DmCfg × Bool := (m.params, m.cfg, m.cfgValid)

theorem step_config (m : DmRefModel) (i : InputS) : (m.step i).config = m.config := by
  cases i with
  | setObservedCmdbusy b => rfl
  | observeSbdata0Read => rfl
  | syncObservedHartSignals w => rfl
  | observeRead addr =>
    simp only [step, observeRead]
    split <;> rfl
  | onWrite addr value =>
    have hdm : (m.writeDmcontrol value).config = m.config := by
      unfold writeDmcontrol
      split <;> rfl
    simp only [step, onWrite, apply_ite config, hdm]
    simp only [config, ite_self]

theorem resetHart_congr {p : ParamsS} {a b : Option HartStateS}
    (h : a.map (fun h => (h.halted.get, h.running.get, h.havereset)) =
      b.map (fun h => (h.halted.get, h.running.get, h.havereset))) :
    RunControlS.resetHart p false a = RunControlS.resetHart p false b := by
  cases a with
  | none => cases b with
    | none => rfl
    | some b => cases h
  | some a => cases b with
    | none => cases h
    | some b =>
      simp only [Option.map_some, Option.some.injEq, Prod.mk.injEq] at h
      simp [RunControlS.resetHart, h]

/-- After a reset, states that agree outside the debug module agree up to the flag. -/
theorem resetDm_eq (hcfg : m.config = n.config) (h : m.SameOutside n) :
    n.resetDm false =
      { m.resetDm false with
        sb := { (m.resetDm false).sb with sbcsReadOnAddrArmed := n.sb.sbcsReadOnAddrArmed } } := by
  simp only [config, Prod.mk.injEq] at hcfg
  obtain ⟨hp, hc, hv⟩ := hcfg
  have hharts : ∀ k, (List.range k).map
        (fun i => RunControlS.resetHart n.params false n.rc.harts[i]?) =
      (List.range k).map (fun i => RunControlS.resetHart n.params false m.rc.harts[i]?) := by
    intro k
    apply List.map_congr_left
    intro i _
    have hget := congrArg (·[i]?) h.harts
    simp only [List.getElem?_map] at hget
    exact (resetHart_congr hget).symm
  simp only [resetDm, resetDeclaredRegs, RunControlS.resetDm, AbstractCommandS.resetDeclaredRegs,
    SystemBusS.resetDeclaredRegs, hp, hc, hv, h.shadowRegs, h.shadowHi, h.shadowMem, h.observedCmdbusy,
    hharts]

/-! ### The flag and the bit that shows it -/

theorem readOnAddrShown_iff :
    m.ReadOnAddrShown ↔ (m.cfg.sbaEnable = true → m.sb.sbcsReadOnAddrArmed = m.sb.sbreadonaddr) := by
  have hbit : (m.predict DM_ADDR_SBCS).getLsbD 20 = (m.cfg.sbaEnable && m.sb.sbreadonaddr) := by
    have hpred : m.predict DM_ADDR_SBCS = if m.cfg.sbaEnable then m.expectSbcs else 0 := rfl
    rw [getLsbD_eq, hpred, expectSbcs_abs, DMPredictor.testBit_expectSbcs]
    rfl
  rw [ReadOnAddrShown, readsOnAddr, hbit]
  cases m.cfg.sbaEnable <;> simp

/-- The system-bus state after a write of anything but `dmcontrol`. -/
theorem onWrite_sb {addr : BitVec 7} (h : addr ≠ DM_ADDR_DMCONTROL) (value : BitVec 32) :
    (m.onWrite addr value).sb =
      if addr = A_SBADDRESS1 then { m.sb with sbaddress1 := value }
      else if addr = A_SBDATA1 then m.sb.writeSbdata1 value
      else if addr = DM_ADDR_SBCS then m.sb.writeSbcs m.cfg value
      else if addr = DM_ADDR_SBADDRESS0 then m.sb.writeSbaddress0 m.cfg value
      else if addr = DM_ADDR_SBDATA0 then m.sb.writeSbdata0 m.cfg value
      else m.sb := by
  have hsb : ∀ a ∈ [A_SBADDRESS1, A_SBDATA1, DM_ADDR_SBCS, DM_ADDR_SBADDRESS0, DM_ADDR_SBDATA0],
      (isDataS a || isProgbufS a) = false ∧ guardedWhileBusy a = false ∧ a ≠ DM_ADDR_HAWINDOW ∧
        a ≠ DM_ADDR_COMMAND := by
    decide
  simp only [onWrite, apply_ite DmRefModel.sb, if_neg h, ite_self]
  by_cases hm : addr ∈ [A_SBADDRESS1, A_SBDATA1, DM_ADDR_SBCS, DM_ADDR_SBADDRESS0, DM_ADDR_SBDATA0]
  · obtain ⟨h₁, h₂, h₃, h₄⟩ := hsb addr hm
    simp only [h₁, h₂, Bool.and_false, Bool.false_eq_true, if_false, if_neg h₃, if_neg h₄]
  · simp only [List.mem_cons, List.not_mem_nil, or_false, not_or] at hm
    obtain ⟨h₁, h₂, h₃, h₄, h₅⟩ := hm
    simp only [if_neg h₁, if_neg h₂, if_neg h₃, if_neg h₄, if_neg h₅, ite_self]

/-- Only a write of `sbcs` moves the flag or the bit, and it gives them one value. -/
theorem onWrite_onAddr {addr : BitVec 7} (ha : addr ≠ DM_ADDR_DMCONTROL) (value : BitVec 32) :
    (m.onWrite addr value).sb.abs.onAddr = m.sb.abs.onAddr ∨
      (m.onWrite addr value).sb.sbcsReadOnAddrArmed = (m.onWrite addr value).sb.sbreadonaddr := by
  rw [onWrite_sb ha]
  split
  · exact Or.inl rfl
  split
  · exact Or.inl rfl
  split
  · exact Or.inr rfl
  split
  · rw [SystemBusS.writeSbaddress0_abs]
    exact Or.inl (SystemBus.writeSbaddress0_onAddr _ _ _)
  split
  · rw [SystemBusS.writeSbdata0_abs]
    exact Or.inl (SystemBus.writeSbdata0_onAddr _ _ _)
  · exact Or.inl rfl

/-- The step: the flag stays shown unless a reset finds it set. -/
theorem step_onAddr {i : InputS} (h : m.sb.sbcsReadOnAddrArmed = m.sb.sbreadonaddr) :
    (m.step i).sb.sbcsReadOnAddrArmed = (m.step i).sb.sbreadonaddr ↔
      (i.ResetsDm → m.sb.sbcsReadOnAddrArmed = false) := by
  have hkeep : ∀ u : DmRefModel, u.sb.abs.onAddr = m.sb.abs.onAddr →
      u.sb.sbcsReadOnAddrArmed = u.sb.sbreadonaddr := by
    intro u hu
    have hfst := congrArg Prod.fst hu
    have hsnd := congrArg Prod.snd hu
    exact hfst.trans (h.trans hsnd.symm)
  have hread : (m.sb.sbdata0ReadEffects m.cfg).abs.onAddr = m.sb.abs.onAddr := by
    rw [SystemBusS.sbdata0ReadEffects_abs, SystemBus.sbdata0ReadEffects_onAddr]
  cases i with
  | setObservedCmdbusy b => exact iff_of_true (hkeep _ rfl) (absurd · id)
  | observeRead addr =>
    refine iff_of_true (hkeep _ ?_) (absurd · id)
    simp only [step, observeRead]
    split
    · exact hread
    · rfl
  | observeSbdata0Read => exact iff_of_true (hkeep _ hread) (absurd · id)
  | syncObservedHartSignals w => exact iff_of_true (hkeep _ rfl) (absurd · id)
  | onWrite addr value =>
    by_cases ha : addr = DM_ADDR_DMCONTROL
    · subst ha
      rw [step, onWrite_dmcontrol, writeDmcontrol]
      cases hv : value.getLsbD 0 with
      | false => exact ⟨fun hb _ => hb, fun hb => hb ⟨rfl, hv⟩⟩
      | true => exact iff_of_true h fun hr => absurd (hv.symm.trans hr.2) Bool.false_ne_true.symm
    · refine iff_of_true ?_ fun hr => absurd hr.1 ha
      obtain hu | hu := onWrite_onAddr ha value
      · exact hkeep _ hu
      · exact hu

/-! ### A model without System Bus Access -/

/-- The state but for the system-bus registers. -/
def withoutBus (m : DmRefModel) : DmRefModel := { m with sb := .init }

/-- No step reads the system-bus registers to decide anything else. -/
theorem step_withoutBus (m : DmRefModel) (i : InputS) :
    (m.step i).withoutBus = (m.withoutBus.step i).withoutBus := by
  cases i with
  | setObservedCmdbusy b => rfl
  | observeSbdata0Read => rfl
  | syncObservedHartSignals w => rfl
  | observeRead addr =>
    simp only [step, observeRead]
    split <;> rfl
  | onWrite addr value =>
    have hdm : (m.writeDmcontrol value).withoutBus = (m.withoutBus.writeDmcontrol value).withoutBus := by
      unfold writeDmcontrol
      split <;> rfl
    simp only [step, onWrite, apply_ite withoutBus, hdm]
    rfl

/-- The states differ in nothing but the system-bus registers, which are not implemented. -/
structure Silent (m n : DmRefModel) : Prop where
  noSba : m.cfg.sbaEnable = false
  rest : m.withoutBus = n.withoutBus

theorem Silent.step (h : m.Silent n) (i : InputS) : (m.step i).Silent (n.step i) := by
  have hcfg : (m.step i).cfg = m.cfg := congrArg (fun c => c.2.1) (step_config m i)
  refine ⟨by rw [hcfg, h.noSba], ?_⟩
  rw [step_withoutBus, h.rest, ← step_withoutBus]

theorem Silent.noSba_right (h : m.Silent n) : n.cfg.sbaEnable = false :=
  (congrArg (fun u => u.cfg.sbaEnable) h.rest).symm.trans h.noSba

theorem predictions_withoutBus (hm : m.cfg.sbaEnable = false) : m.SamePredictions m.withoutBus := by
  intro addr
  have hw : m.withoutBus.cfg.sbaEnable = false := hm
  constructor
  · simp only [hasModel, sbaWiderThan32, hm, hw, Bool.false_and, Bool.not_false, Bool.true_or]
    rfl
  · simp only [predict, sbaWiderThan32, hm, hw, Bool.false_and, Bool.false_eq_true, if_false]
    rfl

theorem Silent.free (h : m.Silent n) : m.SamePredictions n ∧ m.ReadOnAddrShown ∧ n.ReadOnAddrShown := by
  have hshown : ∀ u : DmRefModel, u.cfg.sbaEnable = false → u.ReadOnAddrShown := by
    intro u hu
    rw [readOnAddrShown_iff, hu]
    exact (absurd · Bool.false_ne_true)
  refine ⟨?_, hshown m h.noSba, hshown n h.noSba_right⟩
  intro addr
  obtain ⟨hm, hp⟩ := predictions_withoutBus h.noSba addr
  obtain ⟨hm', hp'⟩ := predictions_withoutBus h.noSba_right addr
  rw [hm, hp, hm', hp', h.rest]
  exact ⟨rfl, rfl⟩

/-! ### The two runs -/

/-- A reset in this step finds the flag clear. -/
def ResetFindsClear (m : DmRefModel) (i : InputS) : Prop := i.ResetsDm → m.sb.sbcsReadOnAddrArmed = false

theorem step_shown {i : InputS} (hsba : m.cfg.sbaEnable = true) (hm : m.ReadOnAddrShown) :
    (m.step i).ReadOnAddrShown ↔ m.ResetFindsClear i := by
  have hsba' : (m.step i).cfg.sbaEnable = true :=
    (congrArg (fun c => c.2.1.sbaEnable) (step_config m i)).trans hsba
  rw [readOnAddrShown_iff] at hm ⊢
  rw [ResetFindsClear, ← step_onAddr (hm hsba)]
  exact ⟨fun h => h hsba', fun h _ => h⟩

theorem resetDm_shown (hsba : m.cfg.sbaEnable = true) :
    (m.resetDm false).ReadOnAddrShown ↔ m.sb.sbcsReadOnAddrArmed = false := by
  rw [readOnAddrShown_iff]
  exact ⟨fun h => h hsba, fun h _ => h⟩

/-- The two runs after a reset, from states that agree outside the debug module. -/
theorem reset_complete_iff (hcfg : m.config = n.config) (h : m.SameOutside n) (is : List InputS) :
    Runs.IndistinguishableAfter step SamePredictions ReadOnAddrShown (m.resetDm false) (n.resetDm false) is ↔
      (m.cfg.sbaEnable = true →
        (m.sb.sbcsReadOnAddrArmed = false ∧ n.sb.sbcsReadOnAddrArmed = false) ∧
        Runs.Always step ResetFindsClear (m.resetDm false) is) := by
  have hct : n.cfg = m.cfg := (congrArg (fun c => c.2.1) hcfg).symm
  have hreset := resetDm_eq hcfg h
  rw [Runs.indistinguishable_iff (fun u => u.cfg.sbaEnable) Silent (fun _ => True) ResetFindsClear
    (fun u i _ => congrArg (fun c => c.2.1.sbaEnable) (step_config u i))
    (fun u i hu hshown _ => step_shown hu hshown) (fun _ _ i hsilent _ => hsilent.step i)
    (fun _ _ hsilent => hsilent.free) (fun _ _ => ⟨rfl, rfl⟩) ?hsilent ?heq fun _ _ => trivial]
  · refine forall_congr' ?_
    intro hsba
    rw [resetDm_shown (m := m) hsba, resetDm_shown (m := n) (by rw [hct]; exact hsba)]
  case hsilent =>
    intro hsba
    exact ⟨hsba, by rw [hreset]; rfl⟩
  case heq =>
    intro hsba hm hn
    rw [resetDm_shown (m := m) hsba] at hm
    rw [resetDm_shown (m := n) (by rw [hct]; exact hsba)] at hn
    rw [hreset, hn, ← hm]
    rfl

end DmRefModel

/-- **How complete a DM reset is.**  Take two states of one configuration that agree outside the debug
module, write `dmactive = 0` in both, and let any inputs follow.  The predictions are the same all the
time and a write of `sbaddress0` starts a bus read exactly when the predicted `sbreadonaddr` says so,
if and only if System Bus Access is absent or this write and every later reset find the flag of the
last `sbcs` write clear.  Both reference models behave so. -/
theorem dm_reset_complete_iff (s t : DMPredictor) (value : Nat) (is : List Input) (hcfg : s.config = t.config)
    (h : s.SameOutside t) (hv : value.testBit 0 = false) (his : ∀ i ∈ is, i.FixedConfig)
    (m n : DmRefModel) (word : BitVec 32) (js : List InputS) (hcfgS : m.config = n.config)
    (hS : m.SameOutside n) (hw : word.getLsbD 0 = false) :
    (Runs.IndistinguishableAfter DMPredictor.step DMPredictor.SamePredictions DMPredictor.ReadOnAddrShown
        (s.onWrite DMCONTROL.address value) (t.onWrite DMCONTROL.address value) is ↔
      (s.cfg.sbaEnable = true →
        (s.sb.sbcsReadOnAddrArmed = false ∧ t.sb.sbcsReadOnAddrArmed = false) ∧
        Runs.Always DMPredictor.step DMPredictor.ResetFindsClear (s.onWrite DMCONTROL.address value) is)) ∧
    (Runs.IndistinguishableAfter DmRefModel.step DmRefModel.SamePredictions DmRefModel.ReadOnAddrShown
        (m.onWrite DM_ADDR_DMCONTROL word) (n.onWrite DM_ADDR_DMCONTROL word) js ↔
      (m.cfg.sbaEnable = true →
        (m.sb.sbcsReadOnAddrArmed = false ∧ n.sb.sbcsReadOnAddrArmed = false) ∧
        Runs.Always DmRefModel.step DmRefModel.ResetFindsClear (m.onWrite DM_ADDR_DMCONTROL word) js)) := by
  constructor
  · rw [DMPredictor.onWrite_dmcontrol, DMPredictor.onWrite_dmcontrol,
      DMPredictor.writeDmcontrol_inactive s hv, DMPredictor.writeDmcontrol_inactive t hv]
    exact DMPredictor.reset_complete_iff hcfg h his
  · rw [DmRefModel.onWrite_dmcontrol, DmRefModel.onWrite_dmcontrol, DmRefModel.writeDmcontrol,
      DmRefModel.writeDmcontrol, hw, Bool.not_false, if_pos rfl, if_pos rfl]
    exact DmRefModel.reset_complete_iff hcfgS hS js

/-- Two runs, one of which writes `sbaddress0` before the reset; afterwards both arm `sbreadonaddr`. -/
theorem dm_reset_complete_after_address :
    Runs.IndistinguishableAfter DMPredictor.step DMPredictor.SamePredictions DMPredictor.ReadOnAddrShown
      (((DMPredictor.declared { sbaEnable := true }).onWrite ADDR_SBADDRESS0 0x100).onWrite
        DMCONTROL.address 0)
      ((DMPredictor.declared { sbaEnable := true }).onWrite DMCONTROL.address 0)
      [.onWrite DMCONTROL.address 1, .onWrite ADDR_SBCS 0x00100000] ∧
    Runs.IndistinguishableAfter DmRefModel.step DmRefModel.SamePredictions DmRefModel.ReadOnAddrShown
      (((DmRefModel.declared { sbaEnable := true }).onWrite DM_ADDR_SBADDRESS0 0x100#32).onWrite
        DM_ADDR_DMCONTROL 0#32)
      ((DmRefModel.declared { sbaEnable := true }).onWrite DM_ADDR_DMCONTROL 0#32)
      [.onWrite DM_ADDR_DMCONTROL 1#32, .onWrite DM_ADDR_SBCS 0x00100000#32] := by
  have hfixed : ∀ i ∈ [Input.onWrite DMCONTROL.address 1, .onWrite ADDR_SBCS 0x00100000], i.FixedConfig := by
    intro i hi
    simp only [List.mem_cons, List.not_mem_nil, or_false] at hi
    obtain rfl | rfl := hi <;> trivial
  have hiff := dm_reset_complete_iff
    ((DMPredictor.declared { sbaEnable := true }).onWrite ADDR_SBADDRESS0 0x100)
    (DMPredictor.declared { sbaEnable := true }) 0 _ rfl ⟨rfl, rfl, rfl, rfl, rfl⟩ rfl hfixed
    ((DmRefModel.declared { sbaEnable := true }).onWrite DM_ADDR_SBADDRESS0 0x100#32)
    (DmRefModel.declared { sbaEnable := true }) 0#32
    [.onWrite DM_ADDR_DMCONTROL 1#32, .onWrite DM_ADDR_SBCS 0x00100000#32] rfl
    ⟨rfl, rfl, rfl, rfl, rfl⟩ rfl
  refine ⟨hiff.1.mpr ?_, hiff.2.mpr ?_⟩
  · intro _
    refine ⟨⟨rfl, rfl⟩, ?_, ?_, trivial⟩
    · intro _; rfl
    · intro _; rfl
  · intro _
    refine ⟨⟨rfl, rfl⟩, ?_, ?_, trivial⟩
    · intro _; rfl
    · intro _; rfl

/-- The reset leaves the flag set: one run has written `sbcs` with `sbreadonaddr = 1` before the reset,
the other has not, and a write of `sbaddress0` afterwards tells them apart, in both models. -/
theorem dm_reset_keeps_flag :
    (let s := (DMPredictor.declared { sbaEnable := true }).onWrite ADDR_SBCS 0x00100000
     let t := DMPredictor.declared { sbaEnable := true }
     let is : List Input := [.onWrite DMCONTROL.address 0, .onWrite DMCONTROL.address 1,
       .onWrite ADDR_SBADDRESS0 0x100]
     s.config = t.config ∧ s.SameOutside t ∧
       (s.run is).hasModel ADDR_SBDATA0 = false ∧ (t.run is).hasModel ADDR_SBDATA0 = true) ∧
    (let m := (DmRefModel.declared { sbaEnable := true }).onWrite DM_ADDR_SBCS 0x00100000#32
     let n := DmRefModel.declared { sbaEnable := true }
     let is : List InputS := [.onWrite DM_ADDR_DMCONTROL 0#32, .onWrite DM_ADDR_DMCONTROL 1#32,
       .onWrite DM_ADDR_SBADDRESS0 0x100#32]
     m.config = n.config ∧ m.SameOutside n ∧
       (Runs.run DmRefModel.step m is).hasModel DM_ADDR_SBDATA0 = false ∧
       (Runs.run DmRefModel.step n is).hasModel DM_ADDR_SBDATA0 = true) :=
  ⟨⟨rfl, ⟨rfl, rfl, rfl, rfl, rfl⟩, rfl, rfl⟩, ⟨rfl, ⟨rfl, rfl, rfl, rfl, rfl⟩, rfl, rfl⟩⟩

end RiscvDbg

import RiscvDbg.RefModel.Predictions

/-!
# The two reference models agree

The SystemVerilog model and the Python model take the same inputs.  `DmRefModel.abs` is kept by every
input (`step_abs`), so the models predict the same words.

* `InputS.toInput` — an input of both models.
* `models_agree` — without `hartreset`, at every address and after every input.
* `LevelKept`, `dmcontrol_agree_iff` — with `hartreset`, exactly which runs of `dmcontrol` writes they
  agree on: one of the models loses the level of a hart that is not there.
-/

set_option autoImplicit false

namespace RiscvDbg

namespace DmRefModel

variable {m : DmRefModel}

/-! ## Writes -/

theorem toNat_and_MASK32 (value : BitVec 32) : value.toNat &&& MASK32 = value.toNat := by
  rw [and_MASK32]
  exact Nat.mod_eq_of_lt value.isLt

theorem resetDm_abs (powerOn : Bool) (hm : powerOn = false → m.HartsPresent) :
    (m.resetDm powerOn).abs = m.abs.resetDm powerOn := by
  have hrc := RunControlS.resetDm_abs m.params m.rc powerOn fun hp => by
    have := (hm hp).one_le
    rw [(hm hp).length]
    omega
  unfold resetDm DMPredictor.resetDm DMPredictor.resetDeclaredRegs resetDeclaredRegs abs
  dsimp only
  rw [hrc, Dict.toNat_empty]
  rfl

/-- The two `hartreset` stages do the same in this write: the DM is reset, or the selected hart is
there, or the level stays as it is. -/
def HartresetAgrees (m : DmRefModel) (value : BitVec 32) : Prop :=
  value.getLsbD 0 = true → m.rc.harts.length ≤ hartselOf value.toNat →
    (value.getLsbD 29 && m.params.supportsHartreset) = m.rc.hartresetLevel

theorem writeDmcontrol_abs (hm : m.HartsPresent) {value : BitVec 32} (h : m.HartresetAgrees value) :
    (m.writeDmcontrol value).abs = m.abs.writeDmcontrol value.toNat := by
  unfold writeDmcontrol DMPredictor.writeDmcontrol
  rw [DMCONTROL.test_dmactive, getLsbD_eq]
  cases hv : value.toNat.testBit 0 with
  | false => exact resetDm_abs false fun _ => hm
  | true =>
    have hst := m.rc.writeActive_abs m.params m.ac value (h (by rw [getLsbD_eq, hv]))
    show DmRefModel.abs { m with
      rc := (m.rc.writeActive m.params m.ac value).1
      ac := (m.rc.writeActive m.params m.ac value).2 } = { m.abs with
        rc := (m.abs.rc.writeActive m.abs.params m.abs.ac value.toNat).1
        ac := (m.abs.rc.writeActive m.abs.params m.abs.ac value.toNat).2 }
    rw [show m.abs.rc.writeActive m.abs.params m.abs.ac value.toNat = _ from hst.symm]
    rfl

theorem onWrite_dmcontrol (value : BitVec 32) :
    m.onWrite DM_ADDR_DMCONTROL value = m.writeDmcontrol value := by
  have hguard : guardedWhileBusy DM_ADDR_DMCONTROL = false := by decide
  have hbuf : (isDataS DM_ADDR_DMCONTROL || isProgbufS DM_ADDR_DMCONTROL) = false := by decide
  rw [onWrite, hguard, hbuf, Bool.and_false]
  rfl

/-- A `dmcontrol` write with `dmactive = 1`. -/
theorem onWrite_active {value : BitVec 32} (h : value.getLsbD 0 = true) :
    m.onWrite DM_ADDR_DMCONTROL value =
      { m with
        rc := (m.rc.writeActive m.params m.ac value).1
        ac := (m.rc.writeActive m.params m.ac value).2 } := by
  rw [onWrite_dmcontrol, writeDmcontrol, h]
  rfl

theorem abs_ite {c d : Prop} [Decidable c] [Decidable d] {m n : DmRefModel} {s t : DMPredictor}
    (hcd : c ↔ d) (hpos : c → m.abs = s) (hneg : ¬ c → n.abs = t) :
    (if c then m else n).abs = if d then s else t := by
  by_cases h : c
  · rw [if_pos h, if_pos (hcd.mp h), hpos h]
  · rw [if_neg h, if_neg fun hd => h (hcd.mpr hd), hneg h]

theorem abs_ac {ac : AbstractCommandS} {ac' : AbstractCommand} (h : ac.abs = ac') :
    DmRefModel.abs { m with ac := ac } = { m.abs with ac := ac' } := by
  rw [← h]; rfl

theorem abs_sb {sb : SystemBusS} {sb' : SystemBus} (h : sb.abs = sb') :
    DmRefModel.abs { m with sb := sb } = { m.abs with sb := sb' } := by
  rw [← h]; rfl

theorem guardedWhileBusy_abs (addr : BitVec 7) :
    guardedWhileBusy addr = DMPredictor.guardedWhileBusy addr.toNat := by
  unfold guardedWhileBusy DMPredictor.guardedWhileBusy
  simp only [beq_toNat, BitVec.le_def]
  rfl

/-- **A write of any address.** -/
theorem onWrite_abs (hm : m.HartsPresent) {addr : BitVec 7} {value : BitVec 32}
    (h : addr = DM_ADDR_DMCONTROL → m.HartresetAgrees value) :
    (m.onWrite addr value).abs = m.abs.onWrite addr.toNat value.toNat := by
  have haddr : ∀ k : BitVec 7, addr = k ↔ addr.toNat = k.toNat := fun k => BitVec.toNat_inj.symm
  unfold onWrite DMPredictor.onWrite
  rw [toNat_and_MASK32, guardedWhileBusy_abs, isDataS_eq, isProgbufS_eq]
  dsimp only
  refine abs_ite Iff.rfl (fun _ => rfl) fun _ => abs_ite Iff.rfl (fun hbuf => ?_) fun _ =>
    abs_ite (haddr _) (fun hdm => writeDmcontrol_abs hm (h hdm)) fun _ => ?_
  · exact abs_ac (m.ac.writeBuffer_abs m.cfg m.observedCmdbusy hbuf value)
  -- `command` stands at another place in the two dispatches
  · by_cases hcmd : addr = DM_ADDR_COMMAND
    · subst hcmd
      exact abs_ac (m.ac.writeCommand_abs value)
    · have hcmd' : ¬ addr.toNat = ADDR_COMMAND := fun he => hcmd ((haddr DM_ADDR_COMMAND).mpr he)
      rw [if_neg hcmd, if_neg hcmd']
      refine abs_ite (haddr _) (fun _ => rfl) fun _ => abs_ite (haddr _) (fun _ => rfl) fun _ =>
        abs_ite (haddr _) (fun _ => abs_ite Iff.rfl (fun _ => ?_) fun _ => rfl) fun _ =>
        abs_ite (haddr _) (fun _ => abs_sb (m.sb.writeSbcs_abs m.cfg value)) fun _ =>
        abs_ite (haddr _) (fun _ => abs_sb (m.sb.writeSbaddress0_abs m.cfg value)) fun _ =>
        abs_ite (haddr _) (fun _ => abs_sb (m.sb.writeSbdata0_abs m.cfg value)) fun _ =>
        abs_ite (haddr _) (fun _ => rfl) fun _ =>
        abs_ite (haddr _) (fun _ => ?_) fun _ =>
        abs_ite (haddr _) (fun _ => abs_ite Iff.rfl (fun _ => ?_) fun _ => rfl) fun _ => rfl
      · show ({ m.abs with hawindow := (m.hawindowQ.set m.hawindowsel
          (value &&& m.hawindowImplemented m.hawindowsel)).toNat } : DMPredictor) = _
        rw [Dict.toNat_set, BitVec.toNat_and, hawindowImplemented_abs]
        rfl
      · show ({ m.abs with hawindowsel := (value.extractLsb' 0 15).toNat } : DMPredictor) = _
        rw [toNat_extractLsb']
        rfl
      · show ({ m.abs with relaxedpriv := value.getLsbD 11 } : DMPredictor) = _
        rw [getLsbD_eq]

theorem observeRead_abs (addr : BitVec 7) : (m.observeRead addr).abs = m.abs.observeRead addr.toNat := by
  have haddr : addr = DM_ADDR_SBDATA0 ↔ addr.toNat = ADDR_SBDATA0 := BitVec.toNat_inj.symm
  have hac := m.ac.observeRead_abs m.cfg m.observedCmdbusy addr
  unfold observeRead DMPredictor.observeRead
  dsimp only
  by_cases h : addr = DM_ADDR_SBDATA0
  · rw [if_pos h, if_pos (haddr.mp h)]
    show ({ m.abs with
      sb := (m.sb.sbdata0ReadEffects m.cfg).abs
      ac := (m.ac.observeRead m.cfg m.observedCmdbusy addr).abs } : DMPredictor) = _
    rw [hac, m.sb.sbdata0ReadEffects_abs]
    rfl
  · rw [if_neg h, if_neg fun he => h (haddr.mpr he)]
    exact abs_ac hac

/-- A fresh model with a configuration applied. -/
theorem declared_abs (c : DmCfg) : (declared c).abs = DMPredictor.declared c.declared := by
  unfold declared DMPredictor.declared setConfig DMPredictor.setConfig
  rw [resetDm_abs true nofun]
  have hnew : (new {}).abs = { DMPredictor.init {} with cfg := ({} : DmCfg).declared } := by
    unfold new DMPredictor.init
    rw [resetDm_abs true nofun]
    have hempty : ∀ n k : Nat, (Dict.empty : Dict (BitVec n) (BitVec k)).toNat = Dict.empty :=
      fun _ _ => Dict.toNat_empty
    simp only [abs, AbstractCommandS.abs, AbstractCommandS.init, SystemBusS.abs, SystemBusS.init, hempty]
    rfl
  show DMPredictor.resetDm { (new {}).abs with
    cfg := c.declared
    cfgValid := true
    params := c.params.abs } true = _
  rw [hnew]
  rfl

end DmRefModel

/-! ## Inputs of both models -/

/-- The input as the Python model receives it. -/
def InputS.toInput : InputS → Input
  | .setObservedCmdbusy busy => .setObservedCmdbusy busy
  | .onWrite addr value => .onWrite addr.toNat value.toNat
  | .observeRead addr => .observeRead addr.toNat
  | .observeSbdata0Read => .observeSbdata0Read
  | .syncObservedHartSignals r => .syncObservedHartSignals r.toNat

/-- `HartresetAgrees`, for the writes of `dmcontrol`. -/
def InputS.HartresetAgrees (m : DmRefModel) : InputS → Prop
  | .onWrite addr value => addr = DM_ADDR_DMCONTROL → m.HartresetAgrees value
  | _ => True

/-- **One input.** -/
theorem DmRefModel.step_abs {m : DmRefModel} (hm : m.HartsPresent) {i : InputS}
    (hi : i.HartresetAgrees m) : (m.step i).abs = m.abs.step i.toInput := by
  cases i with
  | setObservedCmdbusy busy => rfl
  | onWrite addr value => exact onWrite_abs hm hi
  | observeRead addr => exact observeRead_abs addr
  | observeSbdata0Read => exact abs_sb (m.sb.sbdata0ReadEffects_abs m.cfg)
  | syncObservedHartSignals r =>
    show ({ m.abs with rc := (m.rc.syncObservedHartSignals r).abs } : DMPredictor) = _
    rw [m.rc.syncObservedHartSignals_abs]
    rfl

/-! ## What every input keeps -/

/-- `DmRefModel.HartsPresent`, of the Python model. -/
structure DMPredictor.HartsPresent (s : DMPredictor) : Prop where
  one_le : 1 ≤ s.params.numHarts
  length : s.rc.harts.length = s.params.numHarts
  exist : ∀ h ∈ s.rc.harts, h.nonexistent = false

theorem DmRefModel.hartsPresent_iff (m : DmRefModel) : m.abs.HartsPresent ↔ m.HartsPresent := by
  have hlen : m.abs.rc.harts.length = m.rc.harts.length := List.length_map _
  have hexist : (∀ h ∈ m.abs.rc.harts, h.nonexistent = false) ↔
      ∀ h ∈ m.rc.harts, h.nonexistent = false := List.forall_mem_map
  constructor
  · rintro ⟨h₁, h₂, h₃⟩
    exact ⟨h₁, hlen.symm.trans h₂, hexist.mp h₃⟩
  · rintro ⟨h₁, h₂, h₃⟩
    exact ⟨h₁, hlen.trans h₂, hexist.mpr h₃⟩

namespace DMPredictor

variable {s : DMPredictor}

theorem HartsPresent.of_static {t : DMPredictor} (hs : s.HartsPresent) (hst : SameStatic s t)
    (hrc : t.rc = s.rc) : t.HartsPresent := by
  obtain ⟨hp, -⟩ := hst
  exact ⟨by rw [hp]; exact hs.one_le, by rw [hp, hrc]; exact hs.length, by rw [hrc]; exact hs.exist⟩

theorem HartsPresent.resetDm (hn : 1 ≤ s.params.numHarts) (powerOn : Bool) :
    (s.resetDm powerOn).HartsPresent := by
  have hmax : max s.params.numHarts 1 = s.params.numHarts := by omega
  refine ⟨hn, ?_, ?_⟩
  · show ((List.range (max s.params.numHarts 1)).map _).length = s.params.numHarts
    rw [List.length_map, List.length_range, hmax]
  · intro h hh
    obtain ⟨i, -, rfl⟩ := List.mem_map.mp hh
    unfold RunControl.resetHart
    dsimp only
    repeat' split
    all_goals rfl

theorem HartsPresent.writeDmcontrol (hs : s.HartsPresent) (value : Nat) :
    (s.writeDmcontrol value).HartsPresent := by
  cases hv : value.testBit 0 with
  | false =>
    rw [s.writeDmcontrol_inactive hv]
    exact HartsPresent.resetDm hs.one_le false
  | true =>
    rw [s.writeDmcontrol_active hv]
    refine ⟨hs.one_le, ?_, ?_⟩
    · simp [RunControl.writeActive_fst, hs.length]
    · intro h hh
      obtain ⟨i, hi⟩ := List.mem_iff_getElem?.mp hh
      rw [RunControl.writeActive_harts] at hi
      obtain ⟨h₀, hget, rfl⟩ := Option.map_eq_some_iff.mp hi
      have hlt : i < s.params.numHarts := by
        rw [← hs.length]; exact (List.getElem?_eq_some_iff.mp hget).1
      rw [HartState.afterWrite_nonexistent]
      simp [RunControl.hartWrite, hlt]

theorem HartsPresent.step (hs : s.HartsPresent) (i : InputS) : (s.step i.toInput).HartsPresent := by
  cases i with
  | setObservedCmdbusy busy => exact ⟨hs.one_le, hs.length, hs.exist⟩
  | onWrite addr value =>
    show (s.onWrite addr.toNat value.toNat).HartsPresent
    by_cases ha : addr.toNat = DMCONTROL.address
    · rw [ha, onWrite_dmcontrol]
      exact hs.writeDmcontrol _
    · exact hs.of_static (s.onWrite_static _ _) (s.onWrite_rc_of_ne ha _)
  | observeRead addr => exact hs.of_static (s.observeRead_static _) (s.observeRead_rc _)
  | observeSbdata0Read => exact ⟨hs.one_le, hs.length, hs.exist⟩
  | syncObservedHartSignals r =>
    refine ⟨hs.one_le, ?_, ?_⟩
    · show (s.rc.harts.modify _ _).length = _
      rw [List.length_modify, hs.length]
      rfl
    · intro h hh
      obtain ⟨i, hi⟩ := List.mem_iff_getElem?.mp hh
      have hget : (s.rc.harts.modify s.rc.hartsel _)[i]? = some h := hi
      rw [List.getElem?_modify] at hget
      obtain ⟨h₀, hmem, rfl⟩ := Option.map_eq_some_iff.mp hget
      have := hs.exist h₀ (List.mem_of_getElem? hmem)
      split <;> exact this

/-- `hartreset` is not implemented, and its level is never asserted. -/
def NoHartreset (s : DMPredictor) : Prop :=
  s.params.supportsHartreset = false ∧ s.rc.hartresetLevel = false

theorem NoHartreset.step (hs : s.NoHartreset) (i : InputS) : (s.step i.toInput).NoHartreset := by
  cases i with
  | setObservedCmdbusy busy => exact hs
  | onWrite addr value =>
    obtain ⟨hp, -⟩ := s.onWrite_static addr.toNat value.toNat
    refine ⟨by rw [← hs.1, ← hp]; rfl, ?_⟩
    show (s.onWrite addr.toNat value.toNat).rc.hartresetLevel = false
    by_cases ha : addr.toNat = DMCONTROL.address
    · rw [ha, onWrite_dmcontrol]
      cases hv : value.toNat.testBit 0 with
      | false => rw [s.writeDmcontrol_inactive hv]; rfl
      | true =>
        rw [s.writeDmcontrol_active hv]
        dsimp only
        rw [RunControl.writeActive_fst, hs.1, Bool.and_false]
    · rw [s.onWrite_rc_of_ne ha]
      exact hs.2
  | observeRead addr =>
    obtain ⟨hp, -⟩ := s.observeRead_static addr.toNat
    exact ⟨by rw [← hs.1, ← hp]; rfl, (congrArg _ (s.observeRead_rc addr.toNat)).trans hs.2⟩
  | observeSbdata0Read => exact hs
  | syncObservedHartSignals r => exact hs

end DMPredictor

/-! ## Without hartreset -/

/-- The relation between the two models. -/
structure Linked (m : DmRefModel) (s : DMPredictor) : Prop where
  abs : s = m.abs
  harts : m.HartsPresent
  level : s.NoHartreset

theorem Linked.step {m : DmRefModel} {s : DMPredictor} (h : Linked m s) (i : InputS) :
    Linked (m.step i) (s.step i.toInput) := by
  obtain ⟨rfl, hharts, hlevel⟩ := h
  have hagree : i.HartresetAgrees m := by
    cases i with
    | onWrite addr value =>
      intro _ _ _
      rw [show m.params.supportsHartreset = false from hlevel.1, Bool.and_false]
      exact hlevel.2.symm
    | _ => trivial
  have habs := DmRefModel.step_abs hharts hagree
  refine ⟨habs.symm, ?_, hlevel.step i⟩
  rw [← DmRefModel.hartsPresent_iff, habs]
  exact (m.hartsPresent_iff.mpr hharts).step i

theorem declared_hartsPresent {c : DeclaredConfig} (hn : 1 ≤ c.numHarts) :
    (DMPredictor.declared c).HartsPresent :=
  DMPredictor.HartsPresent.resetDm
    (s := { DMPredictor.init {} with cfg := c, cfgValid := true, params := c.params }) hn true

theorem Linked.declared {c : DeclaredConfig} (hc : c.FitsWidths) (hn : 1 ≤ c.numHarts)
    (hr : c.supportsHartreset = false) :
    Linked (.declared (.ofDeclared c)) (.declared c) := by
  have habs := DmRefModel.declared_abs (.ofDeclared c)
  rw [DmCfg.declared_ofDeclared hc] at habs
  refine ⟨habs.symm, ?_, hr, rfl⟩
  rw [← DmRefModel.hartsPresent_iff, habs]
  exact declared_hartsPresent hn

/-- **The two reference models agree on every run.**  For a configuration that fits `dm_cfg_t`, with a
hart and without `hartreset`: whatever the inputs, both models claim the same addresses, with the same
mask, and predict the same there. -/
theorem models_agree (c : DeclaredConfig) (hc : c.FitsWidths) (hn : 1 ≤ c.numHarts)
    (hr : c.supportsHartreset = false) (is : List InputS) (addr : BitVec 7) :
    let m := Runs.run DmRefModel.step (.declared (.ofDeclared c)) is
    let s := (DMPredictor.declared c).run (is.map InputS.toInput)
    m.hasModel addr = s.hasModel addr.toNat ∧
      (DmRefModel.predictMask addr).toNat = DMPredictor.predictMask addr.toNat ∧
      (m.hasModel addr = true →
        (m.predict addr &&& DmRefModel.predictMask addr).toNat =
          s.predict addr.toNat &&& DMPredictor.predictMask addr.toNat) := by
  intro m s
  have hlink : Linked m s := Runs.run_simulation (fun _ _ i h _ => h.step i) is _ _
    (Linked.declared hc hn hr) (Runs.always_true is _)
  refine ⟨?_, DmRefModel.predictMask_abs addr, fun _ => ?_⟩
  · rw [hlink.abs, m.hasModel_abs]
  · rw [BitVec.toNat_and, m.predict_abs hlink.harts, DmRefModel.predictMask_abs, hlink.abs]

/-- `x8` written and read back on the halted hart. -/
theorem models_agree_round_trip :
    let c : DeclaredConfig := { datacount := 2 }
    let is : List InputS := [.onWrite 0x10 0x8000_0001, .onWrite 0x04 5, .onWrite 0x17 0x0023_1008,
      .onWrite 0x04 7, .onWrite 0x17 0x0022_1008]
    let m := Runs.run DmRefModel.step (.declared (.ofDeclared c)) is
    let s := (DMPredictor.declared c).run (is.map InputS.toInput)
    m.hasModel DM_ADDR_DATA0 = true ∧
      (m.predict DM_ADDR_DATA0 &&& DmRefModel.predictMask DM_ADDR_DATA0).toNat =
        s.predict ADDR_DATA0 &&& DMPredictor.predictMask ADDR_DATA0 := by
  intro c is m s
  have hfits : c.FitsWidths := by constructor <;> decide
  have hmodel : m.hasModel DM_ADDR_DATA0 = true := by decide
  obtain ⟨-, -, hword⟩ := models_agree c hfits (by decide) rfl is DM_ADDR_DATA0
  exact ⟨hmodel, hword hmodel⟩

/-! ## With hartreset -/

/-- A `dmcontrol` write, made to both models. -/
def bothWrite (p : DmRefModel × DMPredictor) (value : BitVec 32) : DmRefModel × DMPredictor :=
  (p.1.onWrite DM_ADDR_DMCONTROL value, p.2.onWrite DMCONTROL.address value.toNat)

/-- Both models predict the same `dmcontrol` and `dmstatus` words. -/
def SameRunControl (p : DmRefModel × DMPredictor) : Prop :=
  (p.1.predict DM_ADDR_DMCONTROL).toNat = p.2.predict DMCONTROL.address ∧
    (p.1.predict DM_ADDR_DMSTATUS).toNat = p.2.predict DMSTATUS.address

instance (p : DmRefModel × DMPredictor) : Decidable (SameRunControl p) :=
  inferInstanceAs (Decidable (_ ∧ _))

/-- The level of `hartreset` that a `dmcontrol` word asks for; a DM reset takes it back. -/
def hartresetAsked (value : BitVec 32) : Bool := value.getLsbD 0 && value.getLsbD 29

/-- An active write that selects a hart that is not there asks for the level that is held. -/
def LevelKept (numHarts : Nat) (level : Bool) (value : BitVec 32) : Prop :=
  value.getLsbD 0 = true → numHarts ≤ hartselOf value.toNat → value.getLsbD 29 = level

instance (numHarts : Nat) (level : Bool) (value : BitVec 32) : Decidable (LevelKept numHarts level value) :=
  inferInstanceAs (Decidable (_ → _ → _))

/-- The two models, with the level that the last write asked for. -/
structure LinkedAt (numHarts : Nat) (p : DmRefModel × DMPredictor) (level : Bool) : Prop where
  abs : p.2 = p.1.abs
  harts : p.1.HartsPresent
  numHarts : p.2.params.numHarts = numHarts
  supported : p.2.params.supportsHartreset = true
  level : p.2.rc.hartresetLevel = level

namespace LinkedAt

variable {n : Nat} {p : DmRefModel × DMPredictor} {level : Bool}

theorem same (h : LinkedAt n p level) : SameRunControl p := by
  unfold SameRunControl
  rw [p.1.predict_abs h.harts, p.1.predict_abs h.harts, h.abs]
  exact ⟨rfl, rfl⟩

/-- The Python model holds the level that the word asks for. -/
theorem asked (h : LinkedAt n p level) (value : BitVec 32) :
    (p.2.onWrite DMCONTROL.address value.toNat).rc.hartresetLevel = hartresetAsked value := by
  rw [DMPredictor.onWrite_dmcontrol, hartresetAsked, getLsbD_eq, getLsbD_eq]
  cases hv : value.toNat.testBit 0 with
  | false => rw [p.2.writeDmcontrol_inactive hv]; rfl
  | true =>
    rw [p.2.writeDmcontrol_active hv]
    dsimp only
    rw [RunControl.writeActive_fst, h.supported, Bool.and_true, Bool.true_and]

theorem length (h : LinkedAt n p level) : p.1.rc.harts.length = n := by
  rw [h.harts.length, ← h.numHarts, h.abs]
  rfl

theorem write (h : LinkedAt n p level) {value : BitVec 32} (hv : LevelKept n level value) :
    LinkedAt n (bothWrite p value) (hartresetAsked value) := by
  have hasked := h.asked value
  obtain ⟨hp, -⟩ := p.2.onWrite_static DMCONTROL.address value.toNat
  have hagree : p.1.HartresetAgrees value := by
    intro hactive hsel
    have hlevel : p.1.rc.hartresetLevel = level := by rw [← h.level, h.abs]; rfl
    have hsup : p.1.params.supportsHartreset = true := by rw [← h.supported, h.abs]; rfl
    rw [hsup, hlevel, Bool.and_true]
    exact hv hactive (by rw [← h.length]; exact hsel)
  have habs : (p.1.onWrite DM_ADDR_DMCONTROL value).abs = p.2.onWrite DMCONTROL.address value.toNat := by
    rw [h.abs]
    exact DmRefModel.onWrite_abs h.harts fun _ => hagree
  refine ⟨habs.symm, ?_, ?_, ?_, hasked⟩
  · rw [← DmRefModel.hartsPresent_iff]
    show (p.1.onWrite DM_ADDR_DMCONTROL value).abs.HartsPresent
    rw [habs, h.abs]
    exact (p.1.hartsPresent_iff.mpr h.harts).step (.onWrite DM_ADDR_DMCONTROL value)
  · rw [← h.numHarts, ← hp]; rfl
  · rw [← h.supported, ← hp]; rfl

/-- The SystemVerilog model holds on to the level when no hart is selected. -/
theorem level_of_missing (h : LinkedAt n p level) {value : BitVec 32} (hactive : value.getLsbD 0 = true)
    (hsel : n ≤ hartselOf value.toNat) :
    (p.1.onWrite DM_ADDR_DMCONTROL value).abs.rc.hartresetLevel = level := by
  have hlen : p.1.rc.harts.length ≤ hartselOf value.toNat := by rw [h.length]; exact hsel
  rw [p.1.onWrite_active hactive]
  show (p.1.rc.writeActive p.1.params p.1.ac value).1.hartresetLevel = level
  rw [RunControlS.writeActive_hartresetLevel _ _ _ _ hlen, ← h.level, h.abs]
  rfl

/-- **One write.**  The words agree afterwards exactly if the level is kept. -/
theorem same_iff (h : LinkedAt n p level) (value : BitVec 32) :
    SameRunControl (bothWrite p value) ↔ LevelKept n level value := by
  refine ⟨fun hsame hactive hsel => ?_, fun hv => (h.write hv).same⟩
  -- bit 29 of the `dmcontrol` words shows the level each model holds
  have hlevel := h.level_of_missing hactive hsel
  have hsup : (p.1.onWrite DM_ADDR_DMCONTROL value).abs.params.supportsHartreset = true := by
    rw [p.1.onWrite_active hactive, ← h.supported, h.abs]
    rfl
  have hsup' : (p.2.onWrite DMCONTROL.address value.toNat).params.supportsHartreset = true := by
    rw [(p.2.onWrite_static DMCONTROL.address value.toNat).1, h.supported]
  have hbit := congrArg (Nat.testBit · 29) hsame.1
  simp only [bothWrite, DmRefModel.predict_dmcontrol, DmRefModel.expectDmcontrol_abs,
    DMPredictor.predict_dmcontrol, DMPredictor.testBit_expectDmcontrol, hlevel, h.asked, hsup, hsup',
    Bool.and_true, hartresetAsked, hactive, Bool.true_and] at hbit
  exact hbit.symm

end LinkedAt

theorem LinkedAt.declared {c : DmCfg} (hn : 1 ≤ c.numHarts.toNat) (hr : c.supportsHartreset = true) :
    LinkedAt c.numHarts.toNat (.declared c, .declared c.declared) false := by
  have habs := DmRefModel.declared_abs c
  refine ⟨habs.symm, ?_, rfl, hr, rfl⟩
  rw [← DmRefModel.hartsPresent_iff, habs]
  exact declared_hartsPresent hn

/-- **With `hartreset`, the two models agree exactly while the level is kept.**  After a list of
`dmcontrol` writes the words have agreed throughout if and only if every active write that selects a hart
that is not there repeats the level the write before it asked for (none at first). -/
theorem dmcontrol_agree_iff (c : DmCfg) (hn : 1 ≤ c.numHarts.toNat) (hr : c.supportsHartreset = true)
    (values : List (BitVec 32)) :
    Runs.Always bothWrite (fun p value => SameRunControl (bothWrite p value))
        (.declared c, .declared c.declared) values ↔
      Runs.Always (fun _ value => hartresetAsked value) (LevelKept c.numHarts.toNat) false values := by
  refine Runs.always_iff_of_related (R := LinkedAt c.numHarts.toNat) ?_ ?_ values _ _ (.declared hn hr)
  · intro p level value h hv
    exact h.write hv
  · intro p level value h
    exact h.same_iff value

/-- `hartreset` asserted on hart 0, held while hart 1 is selected, and released on hart 0. -/
theorem dmcontrol_agree_held :
    let c : DmCfg := .ofDeclared { supportsHartreset := true }
    Runs.Always bothWrite (fun p value => SameRunControl (bothWrite p value))
      (.declared c, .declared c.declared) [0x2000_0001, 0x2001_0001, 0x0000_0001] := by
  intro c
  exact (dmcontrol_agree_iff c (by decide) rfl _).mpr (by decide)

/-- Without the condition they part: with one hart, a first write that asserts `hartreset` on hart 1
reads back as 1 in the Python model and as 0 in the SystemVerilog one. -/
theorem dmcontrol_disagree_missing_hart :
    ¬ ∀ (c : DmCfg) (values : List (BitVec 32)), 1 ≤ c.numHarts.toNat → c.supportsHartreset = true →
      Runs.Always bothWrite (fun p value => SameRunControl (bothWrite p value))
        (.declared c, .declared c.declared) values := by
  intro h
  have := h (.ofDeclared { supportsHartreset := true }) [0x2001_0001] (by decide) rfl
  revert this
  decide

end RiscvDbg

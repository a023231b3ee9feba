import RiscvDbg.Predictor.Model

/-!
# What one input changes

One lemma for each part of the state, so that later proofs never unfold `onWrite`.

* `onWrite_dmcontrol` — a write of `dmcontrol` is `writeDmcontrol`, whatever its upper bits.
* `onWrite_rc`, `onWrite_ac`, `onWrite_sb` — the run-control, abstract-command and system-bus state
  after a write of any address.
* `onWrite_static`, `step_static` — parameters, configuration and the observed busy bit, which only
  `setConfig` and `setObservedCmdbusy` change.
-/

set_option autoImplicit false

namespace RiscvDbg

/-! ## Masked words -/

theorem testBit_and_MASK32 {i : Nat} (h : i < 32) (value : Nat) :
    (value &&& MASK32).testBit i = value.testBit i := by
  rw [and_MASK32, Nat.testBit_mod_two_pow]; simp [h]

theorem hartselOf_and_MASK32 (value : Nat) : hartselOf (value &&& MASK32) = hartselOf value := by
  apply Nat.eq_of_testBit_eq
  intro i
  simp only [testBit_hartselOf]
  split
  · rw [testBit_and_MASK32 (by omega)]
  · split
    · rw [testBit_and_MASK32 (by omega)]
    · rfl

namespace RunControl

variable (p : Params) (rc : RunControl) (ac : AbstractCommand) (value : Nat)

theorem hartWrite_and_MASK32 (i : Nat) :
    rc.hartWrite p ac (value &&& MASK32) i = rc.hartWrite p ac value i := by
  simp (disch := decide) only [hartWrite, hartselOf_and_MASK32, testBit_and_MASK32]

theorem resumesSelected_and_MASK32 :
    rc.resumesSelected p ac (value &&& MASK32) = rc.resumesSelected p ac value := by
  simp only [resumesSelected, hartWrite_and_MASK32, hartselOf_and_MASK32]

theorem writeActive_and_MASK32 : rc.writeActive p ac (value &&& MASK32) = rc.writeActive p ac value := by
  apply Prod.ext
  · simp (disch := decide) only [writeActive_fst, hartWrite_and_MASK32, hartselOf_and_MASK32,
      testBit_and_MASK32]
  · rw [writeActive_snd, writeActive_snd, resumesSelected_and_MASK32]

end RunControl

namespace DMPredictor

variable (s : DMPredictor)

theorem writeDmcontrol_and_MASK32 (value : Nat) :
    s.writeDmcontrol (value &&& MASK32) = s.writeDmcontrol value := by
  simp (disch := decide) only [writeDmcontrol, RunControl.writeActive_and_MASK32,
    DMCONTROL.test_dmactive, testBit_and_MASK32]

theorem onWrite_dmcontrol (value : Nat) : s.onWrite DMCONTROL.address value = s.writeDmcontrol value := by
  rw [← writeDmcontrol_and_MASK32]
  have hguard : guardedWhileBusy DMCONTROL.address = false := by decide
  have hbuf : (isData DMCONTROL.address || isProgbuf DMCONTROL.address) = false := by decide
  simp [onWrite, hguard, hbuf]

/-- A `dmcontrol` write with `dmactive = 1`. -/
theorem writeDmcontrol_active {value : Nat} (h : value.testBit 0 = true) :
    s.writeDmcontrol value =
      { s with
        rc := (s.rc.writeActive s.params s.ac value).1
        ac := (s.rc.writeActive s.params s.ac value).2 } := by
  simp only [writeDmcontrol, DMCONTROL.test_dmactive, h, Bool.not_true, Bool.false_eq_true, if_false]

/-- A `dmcontrol` write with `dmactive = 0` resets the DM. -/
theorem writeDmcontrol_inactive {value : Nat} (h : value.testBit 0 = false) :
    s.writeDmcontrol value = s.resetDm false := by
  simp only [writeDmcontrol, DMCONTROL.test_dmactive, h, Bool.not_false, if_true]

/-! ## Parameters and configuration -/

/-- The parts of the state that no DMI access changes. -/
def SameStatic (s t : DMPredictor) : Prop :=
  t.params = s.params ∧ t.cfg = s.cfg ∧ t.cfgValid = s.cfgValid ∧ t.observedCmdbusy = s.observedCmdbusy

theorem writeDmcontrol_static (value : Nat) : SameStatic s (s.writeDmcontrol value) := by
  unfold writeDmcontrol
  split <;> exact ⟨rfl, rfl, rfl, rfl⟩

theorem onWrite_static (addr value : Nat) : SameStatic s (s.onWrite addr value) := by
  obtain ⟨h₁, h₂, h₃, h₄⟩ := s.writeDmcontrol_static (value &&& MASK32)
  refine ⟨?_, ?_, ?_, ?_⟩
  · simp only [onWrite, apply_ite DMPredictor.params, h₁, ite_self]
  · simp only [onWrite, apply_ite DMPredictor.cfg, h₂, ite_self]
  · simp only [onWrite, apply_ite DMPredictor.cfgValid, h₃, ite_self]
  · simp only [onWrite, apply_ite DMPredictor.observedCmdbusy, h₄, ite_self]

theorem observeRead_static (addr : Nat) : SameStatic s (s.observeRead addr) := by
  unfold observeRead
  dsimp only
  split <;> exact ⟨rfl, rfl, rfl, rfl⟩

/-! ## Run control -/

/-- Only a `dmcontrol` write changes the run-control state. -/
theorem onWrite_rc_of_ne {addr : Nat} (h : addr ≠ DMCONTROL.address) (value : Nat) :
    (s.onWrite addr value).rc = s.rc := by
  simp only [onWrite, apply_ite DMPredictor.rc, if_neg h, ite_self]

theorem observeRead_rc (addr : Nat) : (s.observeRead addr).rc = s.rc := by
  unfold observeRead
  dsimp only
  split <;> rfl

/-! ## Abstract commands -/

/-- The abstract-command state after a write. -/
theorem onWrite_ac (addr value : Nat) :
    (s.onWrite addr value).ac =
      if s.observedCmdbusy && guardedWhileBusy addr then s.ac
      else if isData addr || isProgbuf addr then
        s.ac.writeBuffer s.cfg s.observedCmdbusy addr (value &&& MASK32)
      else if addr = DMCONTROL.address then (s.writeDmcontrol value).ac
      else if addr = ADDR_COMMAND then s.ac.writeCommand (value &&& MASK32)
      else if addr = ADDR_ABSTRACTAUTO then { s.ac with abstractauto := value &&& MASK32 }
      else s.ac := by
  simp only [onWrite, apply_ite DMPredictor.ac, writeDmcontrol_and_MASK32, ite_self]
  by_cases hc : addr = ADDR_COMMAND
  · subst hc
    simp [ADDR_SBADDRESS1, ADDR_SBDATA1, ADDR_HAWINDOW, ADDR_COMMAND]
  · by_cases ha : addr = ADDR_ABSTRACTAUTO
    · subst ha
      simp [ADDR_SBADDRESS1, ADDR_SBDATA1, ADDR_HAWINDOW, ADDR_COMMAND, ADDR_SBCS, ADDR_SBADDRESS0,
        ADDR_SBDATA0, ADDR_ABSTRACTAUTO]
    · simp only [if_neg hc, if_neg ha, ite_self]

theorem observeRead_ac (addr : Nat) :
    (s.observeRead addr).ac = s.ac.observeRead s.cfg s.observedCmdbusy addr := by
  unfold observeRead
  dsimp only
  split <;> rfl

/-! ## System bus -/

/-- The system-bus state after a write of anything but `dmcontrol`. -/
theorem onWrite_sb {addr : Nat} (h : addr ≠ DMCONTROL.address) (value : Nat) :
    (s.onWrite addr value).sb =
      if addr = ADDR_SBADDRESS1 then { s.sb with sbaddress1 := value &&& MASK32 }
      else if addr = ADDR_SBDATA1 then s.sb.writeSbdata1 (value &&& MASK32)
      else if addr = ADDR_SBCS then s.sb.writeSbcs s.cfg (value &&& MASK32)
      else if addr = ADDR_SBADDRESS0 then s.sb.writeSbaddress0 s.cfg (value &&& MASK32)
      else if addr = ADDR_SBDATA0 then s.sb.writeSbdata0 s.cfg (value &&& MASK32)
      else s.sb := by
  have hsb : ∀ a ∈ [ADDR_SBADDRESS1, ADDR_SBDATA1, ADDR_SBCS, ADDR_SBADDRESS0, ADDR_SBDATA0],
      (isData a || isProgbuf a) = false ∧ guardedWhileBusy a = false ∧ a ≠ ADDR_HAWINDOW ∧
        a ≠ ADDR_COMMAND := by
    decide
  simp only [onWrite, apply_ite DMPredictor.sb, if_neg h, ite_self]
  by_cases hm : addr ∈ [ADDR_SBADDRESS1, ADDR_SBDATA1, ADDR_SBCS, ADDR_SBADDRESS0, ADDR_SBDATA0]
  · obtain ⟨h₁, h₂, h₃, h₄⟩ := hsb addr hm
    simp only [h₁, h₂, Bool.and_false, Bool.false_eq_true, if_false, if_neg h₃, if_neg h₄]
  · simp only [List.mem_cons, List.not_mem_nil, or_false, not_or] at hm
    obtain ⟨h₁, h₂, h₃, h₄, h₅⟩ := hm
    simp only [if_neg h₁, if_neg h₂, if_neg h₃, if_neg h₄, if_neg h₅, ite_self]

theorem observeRead_sb (addr : Nat) :
    (s.observeRead addr).sb = if addr = ADDR_SBDATA0 then s.sb.sbdata0ReadEffects s.cfg else s.sb := by
  unfold observeRead
  dsimp only
  split <;> rfl

end DMPredictor

end RiscvDbg

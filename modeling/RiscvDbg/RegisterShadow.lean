import RiscvDbg.Predictor.Commands

/-!
# Soundness of the abstract-command shadow

The predictor's claims about `data0` and `data1` are compared with a machine that has the
registers.

* `RegMachine` — real `data0` and `data1`, a register file with arbitrary content, one halted hart
  on which every transfer succeeds; `Noise` is what the hardware leaves open at a transfer.
* `RegMachine.Intact` — the condition under which the two agree: a register is written while
  `data0` (and `data1`, for 64 bits) still holds what the debugger last wrote there.  The predictor
  records the staged value, not the one a read command has left in `data0` since.
* `Follows` — the invariant; `Follows.execute` and `Follows.storeData` are its steps.
* `register_shadow_sound` — whole runs.
-/

set_option autoImplicit false

namespace RiscvDbg

/-! ## The reference machine -/

/-- What the hardware is free to choose at one transfer: the value a trigger CSR reads as, and the
upper half of a register after a 32-bit write. -/
structure Noise where
  csrLo : Nat := 0
  csrHi : Nat := 0
  upper : Nat := 0

/-- Data registers and register file of one halted hart. -/
structure RegMachine where
  data0 : Nat
  data1 : Nat
  lo : Nat → Nat
  hi : Nat → Nat
  abstractauto : Nat
  lastCommand : Nat
  /-- The values the debugger last wrote to `data0` and `data1`. -/
  written0 : Nat
  written1 : Nat

namespace RegMachine

/-- After a DM reset, with any register content. -/
def init (lo hi : Nat → Nat) : RegMachine := ⟨0, 0, lo, hi, 0, 0, 0, 0⟩

/-- The two halves of a register. -/
def read (m : RegMachine) (noise : Noise) (regno : Nat) : Nat × Nat :=
  if regno = GPR_X0_REGNO then (0, 0)
  else if readsBackAsWritten regno then (m.lo regno, m.hi regno)
  else (noise.csrLo, noise.csrHi)

/-- The transfer of an Access Register command. -/
def execute (m : RegMachine) (noise : Noise) (cmd : Nat) : RegMachine :=
  if !Command.transfer cmd then m
  else if Command.write cmd then
    { m with
      lo := Function.update m.lo (Command.regno cmd) m.data0
      hi := Function.update m.hi (Command.regno cmd)
        (if Command.aarsize cmd = 3 then m.data1 else noise.upper) }
  else
    { m with
      data0 := (m.read noise (Command.regno cmd)).1
      data1 := if Command.aarsize cmd = 3 then (m.read noise (Command.regno cmd)).2 else m.data1 }

/-- A write to a data register. -/
def store (m : RegMachine) (i value : Nat) : RegMachine :=
  if i = 0 then { m with data0 := value, written0 := value }
  else if i = 1 then { m with data1 := value, written1 := value }
  else m

/-- Whether an access of `addr` runs the last command again. -/
def armed (c : DeclaredConfig) (m : RegMachine) (addr : Nat) : Bool :=
  (c.abstractautoEnable && AbstractCommand.implemented c addr) &&
    (if isData addr then m.abstractauto.testBit (addr - ADDR_DATA0)
      else m.abstractauto.testBit (16 + addr - ADDR_PROGBUF0))

/-- The registers an access writes, before it runs a command. -/
def beforeCommand (c : DeclaredConfig) (m : RegMachine) : Dmi → RegMachine
  | .write addr value =>
    if isData addr && addr - ADDR_DATA0 < c.datacount then m.store (addr - ADDR_DATA0) (value &&& MASK32)
    else if addr = ADDR_ABSTRACTAUTO then { m with abstractauto := value &&& MASK32 }
    else if addr = ADDR_COMMAND then { m with lastCommand := value &&& MASK32 }
    else m
  | .read _ => m

/-- The command an access runs, if any. -/
def command (c : DeclaredConfig) (m : RegMachine) : Dmi → Option Nat
  | .write addr value =>
    if addr = ADDR_COMMAND then some (value &&& MASK32)
    else if m.armed c addr then some m.lastCommand else none
  | .read addr => if m.armed c addr then some m.lastCommand else none

/-- One access. -/
def step (c : DeclaredConfig) (m : RegMachine) (d : Dmi × Noise) : RegMachine :=
  match m.command c d.1 with
  | some cmd => (m.beforeCommand c d.1).execute d.2 cmd
  | none => m.beforeCommand c d.1

/-- A command that writes a register whose value the predictor will claim finds the data registers
as the debugger last wrote them. -/
def Intact (m : RegMachine) (cmd : Nat) : Prop :=
  Command.transfer cmd = true → Command.write cmd = true → Command.regno cmd ≠ GPR_X0_REGNO →
    readsBackAsWritten (Command.regno cmd) = true →
    m.data0 = m.written0 ∧ (Command.aarsize cmd = 3 → m.data1 = m.written1)

instance (m : RegMachine) (cmd : Nat) : Decidable (m.Intact cmd) := by
  unfold Intact
  infer_instance

/-- The condition on one access: the command it runs, if any, is `Intact`. -/
def RunsIntact (c : DeclaredConfig) (m : RegMachine) (d : Dmi × Noise) : Prop :=
  ∀ cmd ∈ m.command c d.1, (m.beforeCommand c d.1).Intact cmd

instance (c : DeclaredConfig) (m : RegMachine) (d : Dmi × Noise) : Decidable (m.RunsIntact c d) :=
  inferInstanceAs (Decidable (∀ cmd ∈ m.command c d.1, (m.beforeCommand c d.1).Intact cmd))

end RegMachine

/-- An Access Register command with a 32- or 64-bit transfer, no `postexec`, no
`aarpostincrement`. -/
def Command.Plain (cmd : Nat) : Prop :=
  Command.cmdtype cmd = 0 ∧ (Command.aarsize cmd = 2 ∨ Command.aarsize cmd = 3) ∧
    Command.postexec cmd = false ∧ cmd.testBit 19 = false

/-- The accesses considered: data and program-buffer words, `abstractauto`, and plain commands. -/
def Dmi.Abstract : Dmi → Prop
  | .write addr value =>
    (isData addr || isProgbuf addr) = true ∨ addr = ADDR_ABSTRACTAUTO ∨
      (addr = ADDR_COMMAND ∧ Command.Plain (value &&& MASK32))
  | .read addr => (isData addr || isProgbuf addr) = true

instance (cmd : Nat) : Decidable (Command.Plain cmd) := by
  unfold Command.Plain
  infer_instance

instance : (d : Dmi) → Decidable d.Abstract
  | .write _ _ => inferInstanceAs (Decidable (_ ∨ _ ∨ _ ∧ _))
  | .read _ => inferInstanceAs (Decidable (_ = _))

/-! ## The invariant -/

/-- A register whose last written value is a prediction. -/
def Claimed (regno : Nat) : Prop := regno ≠ GPR_X0_REGNO ∧ readsBackAsWritten regno = true

/-- What the predictor claims is what the machine holds. -/
structure Follows (ac : AbstractCommand) (m : RegMachine) : Prop where
  abstractauto : ac.abstractauto = m.abstractauto
  lastCommand : ac.lastCommand = m.lastCommand
  /-- The last command is the reset value or a plain one. -/
  runnable : Command.cmdtype m.lastCommand = 0 ∧ Command.aarsize m.lastCommand ≤ 3 ∧
    Command.postexec m.lastCommand = false
  staged0 : ac.stagedData0 = m.written0
  staged1 : ac.stagedData1 = m.written1
  lengthQ : ac.dataQ.length = 12
  lengthKnown : ac.dataKnown.length = 12
  data0 : ac.data0PendingValid = true → ac.data0PendingValue = m.data0
  data1 : ac.dataKnown[1]? = some true → ac.dataQ[1]? = some m.data1
  lo : ac.shadowRegs.Tracks Claimed m.lo
  hi : ac.shadowHi.Tracks Claimed m.hi

namespace Follows

variable {ac : AbstractCommand} {m : RegMachine}

theorem storeData (hf : Follows ac m) (i value : Nat) :
    Follows (ac.storeData i value) (m.store i value) := by
  obtain ⟨h₁, h₂, h₃, h₄, h₅, h₆, h₇, h₈, h₉, h₁₀, h₁₁⟩ := hf
  unfold AbstractCommand.storeData RegMachine.store
  by_cases hi : i = 0
  · subst hi
    exact ⟨h₁, h₂, h₃, rfl, h₅, h₆, h₇, fun _ => rfl, h₉, h₁₀, h₁₁⟩
  · rw [if_neg (by simpa using hi), if_neg hi]
    by_cases hi₁ : i = 1
    · subst hi₁
      refine ⟨h₁, h₂, h₃, h₄, rfl, by simpa using h₆, by simpa using h₇, h₈, fun _ => ?_, h₁₀, h₁₁⟩
      simp [h₆]
    · rw [if_neg (by simpa using hi₁), if_neg hi₁]
      refine ⟨h₁, h₂, h₃, h₄, h₅, by simpa using h₆, by simpa using h₇, h₈, fun hk => ?_, h₁₀, h₁₁⟩
      rw [List.getElem?_set_ne (by omega)] at hk ⊢
      exact h₉ hk

/-- The command of a transfer that writes a register. -/
theorem executeWrite (hf : Follows ac m) (noise : Noise) {cmd : Nat} (ht : Command.transfer cmd = true)
    (hw : Command.write cmd = true) (hi : m.Intact cmd) :
    Follows ((ac.transferHi true (Command.regno cmd) (Command.aarsize cmd)).transferLo true
      (Command.regno cmd)) (m.execute noise cmd) := by
  have hlo : Claimed (Command.regno cmd) → ac.stagedData0 = m.data0 := fun hc =>
    hf.staged0.trans (hi ht hw hc.1 hc.2).1.symm
  unfold RegMachine.execute AbstractCommand.transferHi AbstractCommand.transferLo
  rw [ht, hw]
  by_cases hs : Command.aarsize cmd = 3
  · have hhi : Claimed (Command.regno cmd) → ac.stagedData1 = m.data1 := fun hc =>
      hf.staged1.trans ((hi ht hw hc.1 hc.2).2 hs).symm
    simp only [hs]
    exact ⟨hf.abstractauto, hf.lastCommand, hf.runnable, hf.staged0, hf.staged1, hf.lengthQ,
      hf.lengthKnown, hf.data0, hf.data1, hf.lo.set hlo, hf.hi.set hhi⟩
  · have hs' : (Command.aarsize cmd == 3) = false := by simpa using hs
    simp only [hs', hs]
    exact ⟨hf.abstractauto, hf.lastCommand, hf.runnable, hf.staged0, hf.staged1, hf.lengthQ,
      hf.lengthKnown, hf.data0, hf.data1, hf.lo.set hlo, hf.hi.pop _ _⟩

/-- The upper word of a read. -/
theorem readHi (hf : Follows ac m) (noise : Noise) (regno aarsize : Nat) :
    Follows (ac.transferHi false regno aarsize)
      { m with data1 := if aarsize = 3 then (m.read noise regno).2 else m.data1 } := by
  obtain ⟨h₁, h₂, h₃, h₄, h₅, h₆, h₇, h₈, h₉, h₁₀, h₁₁⟩ := hf
  unfold AbstractCommand.transferHi RegMachine.read
  by_cases hs : aarsize = 3
  · simp only [hs, beq_self_eq_true, if_true, Bool.false_eq_true, if_false]
    by_cases hx : regno = GPR_X0_REGNO
    · simp only [hx, beq_self_eq_true, if_true]
      exact ⟨h₁, h₂, h₃, h₄, h₅, by simpa using h₆, by simpa using h₇, h₈, fun _ => by simp [h₆], h₁₀,
        h₁₁⟩
    · simp only [beq_iff_eq, hx, if_false]
      split
      · rename_i v hget hback
        have hv : m.hi regno = v := h₁₁ regno v ⟨hx, hback⟩ hget
        rw [if_pos hback]
        exact ⟨h₁, h₂, h₃, h₄, h₅, by simpa using h₆, by simpa using h₇, h₈,
          fun _ => by simp [h₆, hv], h₁₀, h₁₁⟩
      · refine ⟨h₁, h₂, h₃, h₄, h₅, h₆, by simpa using h₇, h₈, fun hk => ?_, h₁₀, h₁₁⟩
        simp [h₇] at hk
  · have hs' : (aarsize == 3) = false := by simpa using hs
    simp only [hs', hs, Bool.false_eq_true, if_false]
    exact ⟨h₁, h₂, h₃, h₄, h₅, h₆, h₇, h₈, h₉, h₁₀, h₁₁⟩

/-- The lower word of a read. -/
theorem readLo (hf : Follows ac m) (noise : Noise) (regno : Nat) :
    Follows (ac.transferLo false regno) { m with data0 := (m.read noise regno).1 } := by
  obtain ⟨h₁, h₂, h₃, h₄, h₅, h₆, h₇, -, h₉, h₁₀, h₁₁⟩ := hf
  rw [AbstractCommand.transferLo_read_eq]
  unfold RegMachine.read
  by_cases hx : regno = GPR_X0_REGNO
  · rw [if_pos hx, if_pos hx]
    exact ⟨h₁, h₂, h₃, h₄, h₅, h₆, h₇, fun _ => rfl, h₉, h₁₀, h₁₁⟩
  · rw [if_neg hx, if_neg hx]
    split
    · rename_i hclaim
      obtain ⟨hin, hback⟩ := Bool.and_eq_true_iff.mp hclaim
      obtain ⟨v, hget⟩ := Option.isSome_iff_exists.mp hin
      have hv : m.lo regno = v := h₁₀ regno v ⟨hx, hback⟩ hget
      rw [if_pos hback, hv, Dict.getD, hget]
      exact ⟨h₁, h₂, h₃, h₄, h₅, h₆, h₇, fun _ => rfl, h₉, h₁₀, h₁₁⟩
    · exact ⟨h₁, h₂, h₃, h₄, h₅, h₆, h₇, fun h => absurd h Bool.false_ne_true, h₉, h₁₀, h₁₁⟩

/-- **One command.** -/
theorem execute (hf : Follows ac m) (noise : Noise) {cmd : Nat} (htype : Command.cmdtype cmd = 0)
    (hsize : Command.aarsize cmd ≤ 3) (hpost : Command.postexec cmd = false) (hi : m.Intact cmd) :
    Follows (ac.executeCommand cmd) (m.execute noise cmd) := by
  unfold AbstractCommand.executeCommand
  rw [if_neg (by simp [htype]; omega), hpost]
  cases ht : Command.transfer cmd with
  | false =>
    rw [RegMachine.execute, ht]
    exact hf
  | true =>
    cases hw : Command.write cmd with
    | true => exact hf.executeWrite noise ht hw hi
    | false =>
      rw [RegMachine.execute, ht, hw]
      exact (hf.readHi noise _ _).readLo noise _

/-- The machine re-runs its command on the same accesses. -/
theorem armed_eq (hf : Follows ac m) (c : DeclaredConfig) (addr : Nat) :
    (AbstractCommand.implemented c addr && ac.autoexecArmed c false addr) = m.armed c addr := by
  unfold AbstractCommand.autoexecArmed RegMachine.armed
  rw [hf.abstractauto]
  cases c.abstractautoEnable <;> cases AbstractCommand.implemented c addr <;> simp

end Follows

/-! ## One access -/

/-- The predictor is active, configured and idle, and follows the machine. -/
structure Shadows (c : DeclaredConfig) (s : DMPredictor) (m : RegMachine) : Prop where
  cfg : s.cfg = c
  cfgValid : s.cfgValid = true
  idle : s.observedCmdbusy = false
  active : s.rc.dmactive = true
  follows : Follows s.ac m

theorem Shadows.of_ac {c : DeclaredConfig} {s t : DMPredictor} {m m' : RegMachine}
    (hs : Shadows c s m) (hst : DMPredictor.SameStatic s t) (hrc : t.rc = s.rc)
    (hf : Follows t.ac m') : Shadows c t m' := by
  obtain ⟨-, h₂, h₃, h₄⟩ := hst
  exact ⟨h₂.trans hs.cfg, h₃.trans hs.cfgValid, h₄.trans hs.idle, by rw [hrc]; exact hs.active, hf⟩

theorem RegMachine.lastCommand_beforeCommand {c : DeclaredConfig} {m : RegMachine} {d : Dmi} {cmd : Nat}
    (h : m.command c d = some cmd) : (m.beforeCommand c d).lastCommand = cmd := by
  cases d with
  | read addr =>
    rw [RegMachine.command] at h
    split at h
    · exact Option.some.inj h
    · cases h
  | write addr value =>
    rw [RegMachine.command] at h
    by_cases hc : addr = ADDR_COMMAND
    · subst hc
      exact Option.some.inj h
    · rw [if_neg hc] at h
      have hkept : (m.beforeCommand c (.write addr value)).lastCommand = m.lastCommand := by
        unfold RegMachine.beforeCommand RegMachine.store
        dsimp only
        rw [if_neg hc]
        repeat' split
        all_goals rfl
      split at h
      · exact hkept.trans (Option.some.inj h)
      · cases h

namespace Shadows

variable {c : DeclaredConfig} {s : DMPredictor} {m : RegMachine}

/-- Predictor and machine run the same command. -/
theorem command_eq (hs : Shadows c s m) (d : Dmi) : s.command d = m.command c d := by
  have hlast := hs.follows.lastCommand
  cases d with
  | read addr =>
    rw [DMPredictor.command, RegMachine.command, hs.cfg, hs.idle, hs.follows.armed_eq c addr, hlast]
  | write addr value =>
    rw [DMPredictor.command, RegMachine.command, hs.cfg, hs.idle, hs.follows.armed_eq c addr, hlast,
      Bool.false_and, if_neg Bool.false_ne_true]

/-- What the access stores, in the predictor and in the machine. -/
theorem beforeCommand (hs : Shadows c s m) {d : Dmi} (hl : d.Abstract) :
    Follows (s.beforeCommand d) (m.beforeCommand c d) := by
  obtain ⟨h₁, h₂, h₃, h₄, h₅, h₆, h₇, h₈, h₉, h₁₀, h₁₁⟩ := hs.follows
  cases d with
  | read addr => exact hs.follows
  | write addr value =>
    unfold DMPredictor.beforeCommand RegMachine.beforeCommand
    dsimp only
    rw [hs.cfg, hs.idle, Bool.false_and, if_neg Bool.false_ne_true]
    cases hdata : isData addr && decide (addr - ADDR_DATA0 < c.datacount) with
    | true => exact hs.follows.storeData _ _
    | false =>
      rw [if_neg Bool.false_ne_true, if_neg Bool.false_ne_true]
      cases hprog : isProgbuf addr && decide (addr - ADDR_PROGBUF0 < c.progbufsize) with
      | true =>
        -- a program-buffer word is none of the two registers that follow
        have hne : addr ≠ ADDR_ABSTRACTAUTO ∧ addr ≠ ADDR_COMMAND := by
          have := (isProgbuf_iff addr).mp (Bool.and_eq_true_iff.mp hprog).1
          simp only [ADDR_COMMAND, ADDR_ABSTRACTAUTO]
          omega
        rw [if_pos rfl, if_neg hne.1, if_neg hne.2]
        exact ⟨h₁, h₂, h₃, h₄, h₅, h₆, h₇, h₈, h₉, h₁₀, h₁₁⟩
      | false =>
        rw [if_neg Bool.false_ne_true]
        by_cases hc : addr = ADDR_COMMAND
        · subst hc
          rw [if_pos rfl, if_neg (by decide), if_pos rfl]
          rcases hl with hbuf | hauto | ⟨-, htype, hsize, hpost, -⟩
          · exact absurd hbuf (by decide)
          · exact absurd hauto (by decide)
          · have hle : Command.aarsize (value &&& MASK32) ≤ 3 := by omega
            exact ⟨h₁, rfl, ⟨htype, hle, hpost⟩, h₄, h₅, h₆, h₇, h₈, h₉, h₁₀, h₁₁⟩
        · rw [if_neg hc, if_neg hc]
          split
          · exact ⟨rfl, h₂, h₃, h₄, h₅, h₆, h₇, h₈, h₉, h₁₀, h₁₁⟩
          · exact hs.follows

/-- **One access keeps the predictor's claims true.** -/
theorem apply (hs : Shadows c s m) {d : Dmi × Noise} (hl : d.1.Abstract)
    (hi : m.RunsIntact c d) : Shadows c (d.1.apply s) (m.step c d) := by
  obtain ⟨d, noise⟩ := d
  have hdm : ∀ value, d ≠ .write DMCONTROL.address value := by
    rintro value rfl
    revert hl
    simp [Dmi.Abstract, isData, isProgbuf, DMCONTROL, ADDR_ABSTRACTAUTO, ADDR_COMMAND, ADDR_DATA0,
      ADDR_DATA11, ADDR_PROGBUF0]
  have hframe : DMPredictor.SameStatic s (d.apply s) ∧ (d.apply s).rc = s.rc := by
    cases d with
    | read addr => exact ⟨s.observeRead_static addr, s.observeRead_rc addr⟩
    | write addr value =>
      refine ⟨s.onWrite_static addr value, s.onWrite_rc_of_ne ?_ value⟩
      rintro rfl
      exact hdm value rfl
  refine hs.of_ac hframe.1 hframe.2 ?_
  have hbefore := hs.beforeCommand hl
  rw [DMPredictor.apply_ac hdm, hs.command_eq d, RegMachine.step]
  cases hcmd : m.command c d with
  | none => exact hbefore
  | some cmd =>
    obtain ⟨htype, hsize, hpost⟩ := hbefore.runnable
    rw [RegMachine.lastCommand_beforeCommand hcmd] at htype hsize hpost
    exact hbefore.execute noise htype hsize hpost (hi cmd hcmd)

end Shadows

/-! ## Whole runs -/

/-- The predictor just after it is activated claims the reset values only. -/
theorem shadows_activated (c : DeclaredConfig) {w : Nat} (hw : w.testBit 0 = true)
    (lo hi : Nat → Nat) :
    Shadows c ((DMPredictor.declared c).onWrite DMCONTROL.address w) (.init lo hi) := by
  rw [DMPredictor.onWrite_dmcontrol, DMPredictor.writeDmcontrol_active _ hw]
  refine ⟨rfl, rfl, rfl, ?_, ?_⟩
  · rw [RunControl.writeActive_fst]
  · have hac : ((DMPredictor.declared c).rc.writeActive (DMPredictor.declared c).params
        (DMPredictor.declared c).ac w).2 = (DMPredictor.declared c).ac := by
      rw [RunControl.writeActive_snd]
      split <;> rfl
    have hzero : Command.cmdtype 0 = 0 ∧ Command.aarsize 0 ≤ 3 ∧ Command.postexec 0 = false := by decide
    dsimp only
    rw [hac]
    exact ⟨rfl, rfl, hzero, rfl, rfl, rfl, rfl, fun _ => rfl, fun _ => rfl,
      Dict.tracks_empty _ _, Dict.tracks_empty _ _⟩

theorem Shadows.predict_data0 {c : DeclaredConfig} {s : DMPredictor} {m : RegMachine}
    (hs : Shadows c s m) (hc : 2 ≤ c.datacount) (hm : s.hasModel ADDR_DATA0 = true) :
    s.predict ADDR_DATA0 = m.data0 := by
  have hvalid : s.ac.data0PendingValid = true := by
    simpa [DMPredictor.hasModel, hs.cfgValid, hs.active, ADDR_DATA0, DMCONTROL, DMSTATUS] using hm
  have hpos : ¬ c.datacount ≤ 0 := by omega
  rw [← hs.follows.data0 hvalid]
  simp [DMPredictor.predict, hs.cfg, show isData ADDR_DATA0 = true from rfl, hpos]

theorem Shadows.predict_data1 {c : DeclaredConfig} {s : DMPredictor} {m : RegMachine}
    (hs : Shadows c s m) (hc : 2 ≤ c.datacount) (hm : s.hasModel (ADDR_DATA0 + 1) = true) :
    s.predict (ADDR_DATA0 + 1) = m.data1 := by
  have hlt : 1 < c.datacount := by omega
  have hle : ¬ c.datacount ≤ 1 := by omega
  have hdata : isData (ADDR_DATA0 + 1) = true := rfl
  have hknown : s.ac.dataKnown[1]? = some true := by
    have hget : (s.ac.dataKnown[1]?).getD false = true := by
      simpa [DMPredictor.hasModel, hs.cfgValid, hs.active, hs.cfg, show isData 5 = true from rfl, hlt,
        ADDR_DATA0, DMCONTROL, DMSTATUS] using hm
    cases hk : s.ac.dataKnown[1]? with
    | none => simp [hk] at hget
    | some b => simpa [hk] using hget
  simp [DMPredictor.predict, hs.cfg, hdata, hle, hs.follows.data1 hknown]

/-- **Soundness of the abstract-command shadow.**  Start from an active predictor and a machine with
any register content, and let both take the same accesses.  If every command that writes a register
finds `data0` (and `data1`, for 64 bits) as the debugger last wrote it, then whatever the predictor
claims about `data0` and `data1` is what these registers hold. -/
theorem register_shadow_sound (c : DeclaredConfig) (hc : 2 ≤ c.datacount) (w : Nat)
    (hw : w.testBit 0 = true) (lo hi : Nat → Nat) (ds : List (Dmi × Noise))
    (hds : Runs.Always (RegMachine.step c) (fun m d => d.1.Abstract ∧ m.RunsIntact c d) (.init lo hi) ds) :
    let s := Runs.run Dmi.apply ((DMPredictor.declared c).onWrite DMCONTROL.address w) (ds.map Prod.fst)
    let m := Runs.run (RegMachine.step c) (.init lo hi) ds
    (s.hasModel ADDR_DATA0 = true → s.predict ADDR_DATA0 = m.data0) ∧
      (s.hasModel (ADDR_DATA0 + 1) = true → s.predict (ADDR_DATA0 + 1) = m.data1) := by
  have hs := Runs.run_simulation (R := fun m s => Shadows c s m)
    (fun _ _ _ hs hd => hs.apply hd.1 hd.2) ds _ _ (shadows_activated c hw lo hi) hds
  exact ⟨hs.predict_data0 hc, hs.predict_data1 hc⟩

/-- `x8` written, `data0` rewritten, `x8` read back: the value of the first write is claimed. -/
theorem register_shadow_sound_round_trip :
    let c : DeclaredConfig := { datacount := 2 }
    let ds : List (Dmi × Noise) := [(.write 0x04 5, {}), (.write 0x17 0x00231008, {}),
      (.write 0x04 7, {}), (.write 0x17 0x00221008, {})]
    let s := Runs.run Dmi.apply ((DMPredictor.declared c).onWrite DMCONTROL.address 1) (ds.map Prod.fst)
    s.hasModel ADDR_DATA0 = true ∧ s.predict ADDR_DATA0 = 5 := by
  intro c ds s
  have hm : s.hasModel ADDR_DATA0 = true := by decide
  have h := (register_shadow_sound c (by decide) 1 (by decide) (fun _ => 0) (fun _ => 0) ds
    (by decide)).1 hm
  exact ⟨hm, h.trans (by decide)⟩

/-- Without the condition the claim can be wrong: `x9` is written right after a read of `x8` has left
5 in `data0`, but the predictor records the staged 7 and claims it when `x9` is read. -/
theorem register_shadow_stale_after_read :
    ¬ ∀ (c : DeclaredConfig) (w : Nat) (lo hi : Nat → Nat) (ds : List (Dmi × Noise)),
      2 ≤ c.datacount → w.testBit 0 = true → (∀ d ∈ ds, d.1.Abstract) →
      let s := Runs.run Dmi.apply ((DMPredictor.declared c).onWrite DMCONTROL.address w) (ds.map Prod.fst)
      let m := Runs.run (RegMachine.step c) (.init lo hi) ds
      (s.hasModel ADDR_DATA0 = true → s.predict ADDR_DATA0 = m.data0) ∧
        (s.hasModel (ADDR_DATA0 + 1) = true → s.predict (ADDR_DATA0 + 1) = m.data1) := by
  intro h
  have := (h { datacount := 2 } 1 (fun _ => 0) (fun _ => 0)
    [(.write 0x04 5, {}), (.write 0x17 0x00231008, {}), (.write 0x04 7, {}),
      (.write 0x17 0x00221008, {}), (.write 0x17 0x00231009, {}), (.write 0x17 0x00221009, {})]
    (by decide) (by decide) (by decide)).1
  revert this
  decide

end RiscvDbg

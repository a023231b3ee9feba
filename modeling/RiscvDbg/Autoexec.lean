import RiscvDbg.Predictor.Commands

/-!
# abstractauto and the explicit command

An armed access is compared with the same access made while nothing is armed, followed by a write of
the last command word.

* `withoutAutoexec` — the access with `abstractauto` cleared around it.
* `bufferBit` — the bit of `abstractauto` that arms a data or program-buffer word;
  `testBit_abstractauto` relates its read-back to the test `_autoexec_armed` makes.
* `lastCommandWord` — the last command word written, read off the run; `run_lastCommand` says that this
  is what the model remembers.
* `autoexec_is_explicit_command` — the comparison, for every reachable state.
-/

set_option autoImplicit false

namespace RiscvDbg

namespace DMPredictor

/-! ## The read-back -/

/-- The bit of `abstractauto` for a data or program-buffer word. -/
def bufferBit (addr : Nat) : Nat := if isData addr then addr - ADDR_DATA0 else 16 + (addr - ADDR_PROGBUF0)

theorem testBit_expectAbstractauto (s : DMPredictor) (i : Nat) :
    s.expectAbstractauto.testBit i =
      (s.cfg.abstractautoEnable && s.ac.abstractauto.testBit i &&
        (decide (i < 12 ∧ i < s.cfg.datacount) ||
          decide (16 ≤ i ∧ i < 32 ∧ i - 16 < s.cfg.progbufsize))) := by
  have hmask : (0xFFF : Nat) = 2 ^ 12 - 1 := rfl
  unfold expectAbstractauto
  cases s.cfg.abstractautoEnable with
  | false => simp
  | true =>
    simp only [Bool.not_true, Bool.false_eq_true, if_false, Bool.true_and, and_MASK32,
      Nat.testBit_mod_two_pow, Nat.testBit_or, Nat.testBit_shiftLeft, Nat.testBit_and,
      Nat.testBit_shiftRight, Nat.one_shiftLeft, Nat.testBit_two_pow_sub_one, hmask]
    by_cases hge : 16 ≤ i
    · have hplace : 16 + (i - 16) = i := by omega
      have hlow : ¬ i < 12 := by omega
      simp only [hge, hplace, hlow]
      cases s.ac.abstractauto.testBit i <;> simp
    · have hlt : i < 32 := by omega
      simp only [hge, hlt]
      cases s.ac.abstractauto.testBit i <;> simp

theorem predict_abstractauto (s : DMPredictor) : s.predict ADDR_ABSTRACTAUTO = s.expectAbstractauto := rfl

/-- **Armed is what the read-back says.**  The raw word the test looks at and the implemented words the
write and read paths look at make up the masked word. -/
theorem testBit_abstractauto (s : DMPredictor) {addr : Nat} (hbuf : (isData addr || isProgbuf addr) = true)
    (hfree : s.observedCmdbusy = false) :
    (s.predict ADDR_ABSTRACTAUTO).testBit (bufferBit addr) =
      (AbstractCommand.implemented s.cfg addr && s.ac.autoexecArmed s.cfg s.observedCmdbusy addr) := by
  rw [predict_abstractauto, testBit_expectAbstractauto, AbstractCommand.implemented,
    AbstractCommand.autoexecArmed, hfree, Bool.or_false]
  cases hd : isData addr with
  | true =>
    have hbit : bufferBit addr = addr - ADDR_DATA0 := if_pos hd
    have hp := not_isProgbuf_of_isData hd
    rw [isData_iff] at hd
    have h₁ : addr - ADDR_DATA0 < 12 := by unfold ADDR_DATA0; omega
    have h₂ : ¬ 16 ≤ addr - ADDR_DATA0 := by omega
    rw [hbit, hp]
    simp only [h₁, h₂, true_and, false_and, decide_false, Bool.or_false, Bool.true_and, Bool.false_and,
      if_true]
    cases s.cfg.abstractautoEnable <;> cases s.ac.abstractauto.testBit (addr - ADDR_DATA0) <;> simp
  | false =>
    have hp : isProgbuf addr = true := by rwa [hd, Bool.false_or] at hbuf
    have hbit : bufferBit addr = 16 + (addr - ADDR_PROGBUF0) := if_neg (by rw [hd]; exact Bool.false_ne_true)
    rw [hbit, hp]
    rw [isProgbuf_iff] at hp
    have hplace : 16 + addr - ADDR_PROGBUF0 = 16 + (addr - ADDR_PROGBUF0) := by unfold ADDR_PROGBUF0; omega
    have h₁ : ¬ 16 + (addr - ADDR_PROGBUF0) < 12 := by omega
    have h₂ : 16 ≤ 16 + (addr - ADDR_PROGBUF0) := by omega
    have h₃ : 16 + (addr - ADDR_PROGBUF0) < 32 := by unfold ADDR_PROGBUF0; omega
    have h₄ : 16 + (addr - ADDR_PROGBUF0) - 16 = addr - ADDR_PROGBUF0 := by omega
    rw [hplace, h₄]
    simp only [h₁, h₂, h₃, true_and, false_and, decide_false, Bool.false_or, Bool.true_and, Bool.false_and,
      Bool.false_eq_true, if_false]
    cases s.cfg.abstractautoEnable <;>
      cases s.ac.abstractauto.testBit (16 + (addr - ADDR_PROGBUF0)) <;> simp

/-! ## One access -/

/-- The state with another `abstractauto` word. -/
def setAbstractauto (s : DMPredictor) (word : Nat) : DMPredictor :=
  { s with ac := { s.ac with abstractauto := word } }

/-- The access made while nothing is armed. -/
def withoutAutoexec (s : DMPredictor) (d : Dmi) : DMPredictor :=
  (d.apply (s.setAbstractauto 0)).setAbstractauto s.ac.abstractauto

variable {s : DMPredictor}

theorem not_dmcontrol_of_buffer {d : Dmi} (hbuf : (isData d.addr || isProgbuf d.addr) = true) :
    ∀ value, d ≠ .write DMCONTROL.address value := by
  rintro value rfl
  have hnone : (isData DMCONTROL.address || isProgbuf DMCONTROL.address) = false := by decide
  exact Bool.false_ne_true (hnone.symm.trans hbuf)

theorem ne_of_buffer {addr : Nat} (hbuf : (isData addr || isProgbuf addr) = true) :
    addr ≠ ADDR_COMMAND ∧ addr ≠ ADDR_ABSTRACTAUTO ∧ addr ≠ ADDR_SBDATA0 := by
  rw [Bool.or_eq_true, isData_iff, isProgbuf_iff] at hbuf
  unfold ADDR_COMMAND ADDR_ABSTRACTAUTO ADDR_SBDATA0
  omega

/-- An access of a data or program-buffer word changes the abstract-command registers only. -/
theorem apply_buffer {d : Dmi} (hbuf : (isData d.addr || isProgbuf d.addr) = true) :
    d.apply s =
      { s with ac := (s.command d).elim (s.beforeCommand d) (s.beforeCommand d).executeCommand } := by
  have hac := apply_ac (s := s) (not_dmcontrol_of_buffer hbuf)
  rw [← hac]
  cases d with
  | read addr =>
    have hne : addr ≠ ADDR_SBDATA0 := (ne_of_buffer hbuf).2.2
    simp only [Dmi.apply, observeRead, if_neg hne]
  | write addr value =>
    rw [Dmi.addr] at hbuf
    simp only [Dmi.apply, onWrite, hbuf, if_true]
    split
    · rfl
    · rfl

/-- What is left for the command does not depend on `abstractauto`. -/
theorem beforeCommand_setAbstractauto (word : Nat) {d : Dmi}
    (hbuf : (isData d.addr || isProgbuf d.addr) = true) :
    { (s.setAbstractauto word).beforeCommand d with abstractauto := s.ac.abstractauto } =
      s.beforeCommand d := by
  cases d with
  | read addr => rfl
  | write addr value =>
    have hne : addr ≠ ADDR_COMMAND ∧ addr ≠ ADDR_ABSTRACTAUTO ∧ addr ≠ ADDR_SBDATA0 := ne_of_buffer hbuf
    have hstore : ∀ i v, { ({ s.ac with abstractauto := word } : AbstractCommand).storeData i v with
        abstractauto := s.ac.abstractauto } = s.ac.storeData i v := by
      intro i v
      unfold AbstractCommand.storeData
      split <;> rfl
    dsimp only [beforeCommand, setAbstractauto]
    simp only [if_neg hne.1, if_neg hne.2.1]
    split_ifs
    · rfl
    · exact hstore _ _
    · rfl
    · rfl

/-- Nothing runs while `abstractauto` is 0. -/
theorem command_setAbstractauto_zero {d : Dmi} (hbuf : (isData d.addr || isProgbuf d.addr) = true) :
    (s.setAbstractauto 0).command d = none := by
  have harmed : ∀ addr, (s.setAbstractauto 0).ac.autoexecArmed s.cfg s.observedCmdbusy addr = false := by
    intro addr
    unfold AbstractCommand.autoexecArmed
    simp [setAbstractauto]
  cases d with
  | read addr =>
    show (if (_ && (s.setAbstractauto 0).ac.autoexecArmed s.cfg s.observedCmdbusy addr) = true then _ else _) = _
    rw [harmed, Bool.and_false]
    rfl
  | write addr value =>
    have hne : addr ≠ ADDR_COMMAND := (ne_of_buffer hbuf).1
    simp only [command, if_neg hne]
    show (if _ then none else if (_ && (s.setAbstractauto 0).ac.autoexecArmed s.cfg s.observedCmdbusy addr) = true
      then _ else none) = none
    rw [harmed, Bool.and_false]
    simp

theorem withoutAutoexec_eq {d : Dmi} (hbuf : (isData d.addr || isProgbuf d.addr) = true) :
    s.withoutAutoexec d = { s with ac := s.beforeCommand d } := by
  have hbefore := beforeCommand_setAbstractauto (s := s) 0 hbuf
  rw [withoutAutoexec, apply_buffer hbuf, command_setAbstractauto_zero hbuf, Option.elim_none, ← hbefore]
  rfl

/-- An access is its plain half, followed by the command it repeats. -/
theorem apply_eq_withoutAutoexec {d : Dmi} (hbuf : (isData d.addr || isProgbuf d.addr) = true) :
    d.apply s =
      match s.command d with
      | none => s.withoutAutoexec d
      | some word =>
        { s.withoutAutoexec d with ac := (s.withoutAutoexec d).ac.executeCommand word } := by
  rw [withoutAutoexec_eq hbuf, apply_buffer hbuf]
  cases s.command d <;> rfl

/-- The command is the one remembered, if the word is implemented and armed. -/
theorem command_of_buffer {d : Dmi} (hbuf : (isData d.addr || isProgbuf d.addr) = true)
    (hfree : s.observedCmdbusy = false) :
    s.command d =
      if AbstractCommand.implemented s.cfg d.addr && s.ac.autoexecArmed s.cfg s.observedCmdbusy d.addr then
        some s.ac.lastCommand
      else none := by
  cases d with
  | read addr => rfl
  | write addr value =>
    have hne : addr ≠ ADDR_COMMAND := (ne_of_buffer hbuf).1
    simp only [command, hfree, Bool.false_and, Bool.false_eq_true, if_false, if_neg hne]
    rfl

/-- A busy command keeps everything as it is. -/
theorem apply_of_busy {d : Dmi} (hbuf : (isData d.addr || isProgbuf d.addr) = true)
    (hbusy : s.observedCmdbusy = true) : d.apply s = s := by
  cases d with
  | read addr =>
    have hne : addr ≠ ADDR_SBDATA0 := (ne_of_buffer hbuf).2.2
    have hoff : s.ac.autoexecArmed s.cfg s.observedCmdbusy addr = false := by
      rw [AbstractCommand.autoexecArmed, hbusy, Bool.or_true, if_pos rfl]
    simp only [Dmi.apply, observeRead, if_neg hne, AbstractCommand.observeRead, AbstractCommand.autoexec, hoff,
      Bool.false_eq_true, if_false, ite_self]
  | write addr value =>
    have hguard : guardedWhileBusy addr = true := by
      have hin : (isData addr || isProgbuf addr) = true := hbuf
      rw [guardedWhileBusy, Bool.or_assoc]
      exact Bool.or_eq_true_iff.mpr (.inr hin)
    simp only [Dmi.apply, onWrite, hbusy, hguard, Bool.and_self, if_true]

/-- A write of `command` while none is busy. -/
theorem onWrite_command (hfree : s.observedCmdbusy = false) {word : Nat} (hword : word < 2 ^ 32) :
    s.onWrite ADDR_COMMAND word = { s with ac := s.ac.writeCommand word } := by
  have hmask : word &&& MASK32 = word := by rw [and_MASK32, Nat.mod_eq_of_lt hword]
  have hbuf : (isData ADDR_COMMAND || isProgbuf ADDR_COMMAND) = false := by decide
  have hne : ADDR_COMMAND ≠ DMCONTROL.address ∧ ADDR_COMMAND ≠ ADDR_SBADDRESS1 ∧
      ADDR_COMMAND ≠ ADDR_SBDATA1 ∧ ADDR_COMMAND ≠ ADDR_HAWINDOW := by decide
  simp only [onWrite, hmask, hbuf, Bool.false_eq_true, if_false, if_true, if_neg hne.1, if_neg hne.2.1,
    if_neg hne.2.2.1, if_neg hne.2.2.2]
  rw [hfree]
  rfl

/-! ## The last command word -/

/-- The last command word written, one input later: a command is written unless one is busy, and a
reset of the DM forgets it. -/
def nextCommandWord (s : DMPredictor) (last : Nat) : Input → Nat
  | .setConfig _ | .resetDm _ => 0
  | .onWrite addr value =>
    if addr = ADDR_COMMAND then if s.observedCmdbusy then last else value &&& MASK32
    else if addr = DMCONTROL.address then if value.testBit 0 then last else 0
    else last
  | _ => last

/-- The model together with the last command word written. -/
def watchCommand (m : DMPredictor × Nat) (i : Input) : DMPredictor × Nat :=
  (m.1.step i, m.1.nextCommandWord m.2 i)

/-- The last command word written in a run that starts from a reset, 0 if there is none. -/
def lastCommandWord (s : DMPredictor) (is : List Input) : Nat := (Runs.run watchCommand (s, 0) is).2

/-- Only a write of `command` replaces the word before anything runs. -/
theorem beforeCommand_lastCommand {d : Dmi} (hd : d.addr ≠ ADDR_COMMAND) :
    (s.beforeCommand d).lastCommand = s.ac.lastCommand := by
  cases d with
  | read addr => rfl
  | write addr value =>
    have hne : addr ≠ ADDR_COMMAND := hd
    simp only [beforeCommand, if_neg hne]
    split_ifs
    · rfl
    · exact (storeData_kept s.ac _ _).2.1
    · rfl
    · rfl
    · rfl

theorem onWrite_lastCommand (addr value : Nat) :
    (s.onWrite addr value).ac.lastCommand = s.nextCommandWord s.ac.lastCommand (.onWrite addr value) := by
  by_cases hdm : addr = DMCONTROL.address
  · have hne : DMCONTROL.address ≠ ADDR_COMMAND := by decide
    rw [hdm, onWrite_dmcontrol]
    simp only [nextCommandWord, if_neg hne, if_true]
    cases hv : value.testBit 0 with
    | false => rw [writeDmcontrol_inactive s hv]; rfl
    | true =>
      rw [writeDmcontrol_active s hv, RunControl.writeActive_snd]
      split <;> rfl
  · have hac := apply_ac (s := s) (d := .write addr value) (by
      intro v heq
      exact hdm (Dmi.write.inj heq).1)
    have hlast : (s.onWrite addr value).ac.lastCommand = (s.beforeCommand (.write addr value)).lastCommand := by
      rw [← Dmi.apply, hac]
      cases s.command (.write addr value) with
      | none => rfl
      | some word => exact (AbstractCommand.executeCommand_staged _ word).2.2
    rw [hlast]
    by_cases hc : addr = ADDR_COMMAND
    · have hguard : guardedWhileBusy ADDR_COMMAND = true := by decide
      have hdata : isData ADDR_COMMAND = false := by decide
      have hprogbuf : isProgbuf ADDR_COMMAND = false := by decide
      rw [hc]
      simp only [beforeCommand, nextCommandWord, hguard, hdata, hprogbuf, Bool.and_true, Bool.false_and,
        Bool.false_eq_true, if_false, if_true]
      split <;> rfl
    · rw [beforeCommand_lastCommand (by simpa [Dmi.addr] using hc)]
      simp only [nextCommandWord, if_neg hc, if_neg hdm]

/-- **One step** keeps the remembered word equal to the last one written. -/
theorem step_lastCommand (i : Input) :
    (s.step i).ac.lastCommand = s.nextCommandWord s.ac.lastCommand i := by
  cases i with
  | setConfig c => rfl
  | resetDm powerOn => rfl
  | setObservedCmdbusy busy => rfl
  | onWrite addr value => exact onWrite_lastCommand addr value
  | observeRead addr =>
    rw [step, observeRead_ac, AbstractCommand.observeRead, AbstractCommand.autoexec]
    split_ifs
    · exact (AbstractCommand.executeCommand_staged _ _).2.2
    · rfl
    · rfl
  | observeSbdata0Read => rfl
  | syncObservedHartSignals w => rfl

theorem nextCommandWord_lt {last : Nat} (hlast : last < 2 ^ 32) (i : Input) :
    s.nextCommandWord last i < 2 ^ 32 := by
  unfold nextCommandWord
  split
  · exact Nat.two_pow_pos 32
  · exact Nat.two_pow_pos 32
  · split_ifs
    · exact hlast
    · rw [and_MASK32]
      exact Nat.mod_lt _ (Nat.two_pow_pos 32)
    · exact hlast
    · exact Nat.two_pow_pos 32
    · exact hlast
  · exact hlast

/-- **A run**: the model remembers the last command word written, and it has 32 bits. -/
theorem Booted.run_lastCommand (hs : s.Booted) (is : List Input) :
    (s.run is).ac.lastCommand = s.lastCommandWord is ∧ s.lastCommandWord is < 2 ^ 32 := by
  have hstart : s.ac.lastCommand = 0 := by
    cases hs with
    | constructed p => rfl
    | configured p c => rfl
  have hfst : ∀ (js : List Input) (m : DMPredictor × Nat),
      (Runs.run watchCommand m js).1 = m.1.run js := Runs.run_map fun _ _ => rfl
  have hrun : (Runs.run watchCommand (s, 0) is).1.ac.lastCommand = (Runs.run watchCommand (s, 0) is).2 ∧
      (Runs.run watchCommand (s, 0) is).2 < 2 ^ 32 := by
    refine Runs.run_invariant (P := fun m : DMPredictor × Nat => m.1.ac.lastCommand = m.2 ∧ m.2 < 2 ^ 32)
      ?_ is (s, 0) ⟨hstart, Nat.two_pow_pos 32⟩ (Runs.always_true is _)
    rintro ⟨t, last⟩ i ⟨hlast, hlt⟩ -
    obtain rfl : t.ac.lastCommand = last := hlast
    exact ⟨step_lastCommand i, nextCommandWord_lt hlt i⟩
  rw [hfst] at hrun
  exact hrun

end DMPredictor

open DMPredictor in
/-- **abstractauto is the explicit command.**  In every reachable state, an access of a data or
program-buffer word changes nothing while a command is busy.  While none is, it is the same access made
with nothing armed, followed, if the bit of the word is set in the predicted `abstractauto`, by a write
to `command` of the last command word written. -/
theorem autoexec_is_explicit_command {s₀ : DMPredictor} (h₀ : s₀.Booted) (is : List Input) (d : Dmi)
    (hbuf : (isData d.addr || isProgbuf d.addr) = true) :
    let s := s₀.run is
    (s.observedCmdbusy = true → d.apply s = s) ∧
      (s.observedCmdbusy = false →
        d.apply s =
          if (s.predict ADDR_ABSTRACTAUTO).testBit (bufferBit d.addr) then
            (s.withoutAutoexec d).onWrite ADDR_COMMAND (s₀.lastCommandWord is)
          else s.withoutAutoexec d) := by
  intro s
  refine ⟨apply_of_busy hbuf, fun hfree => ?_⟩
  obtain ⟨hlast, hlt⟩ := h₀.run_lastCommand is
  rw [apply_eq_withoutAutoexec hbuf, command_of_buffer hbuf hfree, testBit_abstractauto s hbuf hfree]
  split_ifs
  · have hplain : (s.withoutAutoexec d).ac.lastCommand = s₀.lastCommandWord is := by
      rw [withoutAutoexec_eq hbuf, ← hlast]
      exact beforeCommand_lastCommand (ne_of_buffer hbuf).1
    have hstill : (s.withoutAutoexec d).observedCmdbusy = false := by
      rw [withoutAutoexec_eq hbuf]
      exact hfree
    rw [onWrite_command hstill hlt, ← hplain]
    show _ = { s.withoutAutoexec d with
      ac := (s.withoutAutoexec d).ac.executeCommand (s.withoutAutoexec d).ac.lastCommand }
    rw [hplain, hlast]
  · rfl

/-- `data0` armed after a command that writes `x8`: writing 7 to `data0` writes `x8`. -/
theorem autoexec_is_explicit_command_data0 :
    let s₀ := (DMPredictor.init {}).setConfig { abstractautoEnable := true, datacount := 2 }
    let is : List Input :=
      [.onWrite DMCONTROL.address 1, .onWrite ADDR_COMMAND 0x231008, .onWrite ADDR_ABSTRACTAUTO 1]
    let s := s₀.run is
    let d := Dmi.write ADDR_DATA0 7
    d.apply s = (s.withoutAutoexec d).onWrite ADDR_COMMAND 0x231008 ∧
      (d.apply s).ac.shadowRegs.get? 0x1008 = some 7 := by
  intro s₀ is s d
  have hsame := (autoexec_is_explicit_command (.configured {} { abstractautoEnable := true, datacount := 2 }) is d
    (by decide)).2 rfl
  have hbit : (s.predict ADDR_ABSTRACTAUTO).testBit (DMPredictor.bufferBit d.addr) = true := by decide
  have hword : s₀.lastCommandWord is = 0x231008 := by decide
  exact ⟨hsame.trans ((if_pos hbit).trans (by rw [← hword])), by decide⟩

end RiscvDbg
